import ClusterKeeper.Text.Basic

/-!
# Decimals

A finite float is written with the fewest digits that read back to it, the
nearest such decimal if there are several, and positionally: never with an
exponent and without a fraction where there is none. All arithmetic is exact;
a float is taken apart into a natural number and a power of two.
-/

set_option autoImplicit false

namespace ClusterKeeper

structure Decimal where
  coefficient : Nat
  exponent : Int
  deriving DecidableEq, Repr

/-- The number `significand * 2 ^ exponent`; `lowest` marks a significand whose
lower neighbour is only half as far away as its upper one. -/
structure Dyadic where
  significand : Nat
  exponent : Int
  lowest : Bool
  deriving DecidableEq, Repr

namespace Dyadic

def hidden : Nat := 4503599627370496

def ofBits (bits : Nat) : Dyadic :=
  let fraction := bits % hidden
  let biased : Nat := bits / hidden % 2048
  if biased = 0 then ⟨fraction, -1074, false⟩
  else ⟨hidden + fraction, (biased : Int) - 1075, fraction = 0 && biased ≠ 1⟩

def numerator (x : Dyadic) (grid : Int) (quarters : Nat) : Nat :=
  quarters * Nat.pow 2 (x.exponent - 2).toNat * Nat.pow 10 (-grid).toNat

def denominator (x : Dyadic) (grid : Int) : Nat :=
  Nat.pow 2 (2 - x.exponent).toNat * Nat.pow 10 grid.toNat

def magnitude (x : Dyadic) : Int :=
  let enlarged := x.numerator (-400) (4 * x.significand) / x.denominator (-400)
  ((Nat.toDigits 10 enlarged).length : Int) - 400

def readsBack (x : Dyadic) (grid : Int) (count : Nat) : Bool :=
  let scaled := count * x.denominator grid
  let low := x.numerator grid (4 * x.significand - if x.lowest then 1 else 2)
  let high := x.numerator grid (4 * x.significand + 2)
  if x.significand % 2 = 0 then low ≤ scaled && scaled ≤ high
  else low < scaled && scaled < high

def onGrid (x : Dyadic) (grid : Int) : Option Nat :=
  let value := x.numerator grid (4 * x.significand)
  let unit := x.denominator grid
  let below := value / unit
  match x.readsBack grid below, x.readsBack grid (below + 1) with
  | true, true => some (if 2 * (value % unit) < unit then below else below + 1)
  | true, false => some below
  | false, true => some (below + 1)
  | false, false => none

def shortest (x : Dyadic) : Decimal :=
  let top := x.magnitude
  match (List.range 17).findSome? fun (n : Nat) =>
    let grid := top - (n : Int) - 1
    (x.onGrid grid).map fun count => Decimal.mk count grid with
  | some d => d
  | none => ⟨0, 0⟩

end Dyadic

namespace Decimal

def zeros (n : Nat) : String := String.ofList (List.replicate n '0')

def positional (d : Decimal) : String :=
  let digits := Nat.toDigits 10 d.coefficient
  if 0 ≤ d.exponent then String.ofList digits ++ zeros d.exponent.toNat
  else
    let places := d.exponent.natAbs
    let padded := List.replicate (places + 1 - digits.length) '0' ++ digits
    let whole := padded.take (padded.length - places)
    let fraction := (padded.drop (padded.length - places)).reverse.dropWhile (· = '0')
    if fraction.isEmpty then String.ofList whole
    else String.ofList whole ++ "." ++ String.ofList fraction.reverse

end Decimal

def floatText (x : Float) : String :=
  if x.isNaN then "NaN"
  else
    let bits := x.toBits.toNat
    let sign := if bits / Word.count63 % 2 = 1 then "-" else ""
    if x.isInf then sign ++ "inf"
    else
      let magnitude := Dyadic.ofBits bits
      if magnitude.significand = 0 then sign ++ "0"
      else sign ++ magnitude.shortest.positional

/-! ## Reading decimals

A decimal has an optional sign, digits with at most one point among them, and
an optional power of ten. Its value is the nearest float; a tie goes to the
even neighbour. -/

namespace DecimalReader

def nearest (numerator denominator : Nat) : Nat :=
  let quotient := numerator / denominator
  let twice := 2 * (numerator % denominator)
  if denominator < twice || (twice = denominator && quotient % 2 = 1) then quotient + 1
  else quotient

def inUnits (numerator denominator : Nat) (unit : Int) : Nat × Nat :=
  (numerator * Nat.pow 2 (-unit).toNat, denominator * Nat.pow 2 unit.toNat)

def nearestFloat (numerator denominator : Nat) : Float :=
  if numerator = 0 then 0.0
  else
    let guess : Int := (numerator.log2 : Int) - (denominator.log2 : Int) - 52
    let (n, d) := inUnits numerator denominator guess
    let unit := max (if n / d < Dyadic.hidden then guess - 1 else guess) (-1074)
    let (n, d) := inUnits numerator denominator unit
    Float.scaleB (Float.ofNat (nearest n d)) unit

def valueOf (coefficient : List Char) (exponent : Int) : Float :=
  let digits := coefficient.dropWhile (· = '0')
  let magnitude := (digits.length : Int) + exponent
  if digits.isEmpty || magnitude < -400 then 0.0
  else if 400 < magnitude then 1.0 / 0.0
  else
    nearestFloat (Text.numberOf digits * Nat.pow 10 exponent.toNat)
      (Nat.pow 10 (-exponent).toNat)

def sign (s : List Char) : Bool × List Char :=
  match s with
  | '-' :: rest => (true, rest)
  | '+' :: rest => (false, rest)
  | _ => (false, s)

def exponent? : List Char → Option Int
  | [] => some 0
  | mark :: rest =>
    let (negative, digits) := sign rest
    if (mark = 'e' || mark = 'E') && !digits.isEmpty && digits.all Char.isDigit then
      some (if negative then -(Text.numberOf digits : Int) else Text.numberOf digits)
    else none

def read? (text : String) : Option Float := do
  let (negative, s) := sign text.toList
  let whole := s.takeWhile Char.isDigit
  let rest := s.dropWhile Char.isDigit
  let (fraction, rest) := match rest with
    | '.' :: rest => (rest.takeWhile Char.isDigit, rest.dropWhile Char.isDigit)
    | rest => ([], rest)
  if whole.isEmpty && fraction.isEmpty then none
  else
    let exponent ← exponent? rest
    let x := valueOf (whole ++ fraction) (exponent - (fraction.length : Int))
    some (if negative then -x else x)

end DecimalReader

end ClusterKeeper
