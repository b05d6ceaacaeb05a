import ClusterKeeper.Duration.Basic
import ClusterKeeper.Text.Characters
import ClusterKeeper.Text.Basic
import ClusterKeeper.Text.Quoted

/-!
# Reading duration texts

A text is a row of numbers with units, such as `1m 30s`. The reader goes over
it one character at a time and adds each number when its unit ends. Offsets
in errors count bytes.
-/

set_option autoImplicit false

namespace ClusterKeeper.Duration

inductive ReadError where
  | empty
  | expectedNumber (offset : Nat)
  | invalidCharacter (offset : Nat)
  | missingUnit (number : Nat)
  | unknownUnit (name : String)
  | unrepresentable
  deriving DecidableEq, Repr

def ReadError.message : ReadError → String
  | empty => "value was empty"
  | expectedNumber offset => s!"expected number at {offset}"
  | invalidCharacter offset => s!"invalid character at {offset}"
  | missingUnit number => s!"time unit needed, for example {number}sec or {number}ms"
  | unknownUnit name =>
    "unknown time unit " ++ Text.quoted name ++
      ", supported units: ns, us/µs, ms, sec, min, hours, days, weeks, months, years" ++
      " (and few variations)"
  | unrepresentable =>
    "number is too large or cannot be represented without a lack of precision" ++
      " (values below 1ns are not supported)"

def word (n : Nat) : Except ReadError Nat :=
  if n < Word.count64 then .ok n else .error .unrepresentable

structure Fraction where
  numerator : Nat
  denominator : Nat
  deriving DecidableEq, Repr

namespace Fraction

def none : Fraction := ⟨0, 1⟩

def push (f : Fraction) (digit : Nat) : Except ReadError Fraction := do
  let denominator ← word (f.denominator * 10)
  let numerator ← word (f.numerator * 10 + digit)
  pure ⟨numerator, denominator⟩

def of (f : Fraction) (amount : Amount) : Except ReadError Amount := do
  let product ← word (f.numerator * amount.count)
  if product % f.denominator = 0 then pure ⟨amount.grain, product / f.denominator⟩
  else .error .unrepresentable

end Fraction

def add (total : Duration) (amount : Amount) : Except ReadError Duration := do
  let sum ← match amount.grain with
    | .nanoseconds => do
      let nanos ← word (total.nanos + amount.count)
      pure (total.seconds * 1000000000 + nanos)
    | .seconds => pure (total.nanoseconds + amount.count * 1000000000)
  match ofNanoseconds? sum with
  | some d => pure d
  | none => .error .unrepresentable

structure Number where
  whole : Nat
  fraction : Option Fraction
  deriving DecidableEq, Repr

def Number.addTo (n : Number) (name : String) (total : Duration) :
    Except ReadError Duration := do
  match TimeUnit.ofName? name with
  | none => .error (if name.isEmpty then .missingUnit n.whole else .unknownUnit name)
  | some unit =>
    let whole ← word (n.whole * unit.size.count)
    let total ← total.add ⟨unit.size.grain, whole⟩
    match n.fraction, unit.divisible with
    | none, _ => pure total
    | some _, none => .error .unrepresentable
    | some f, some amount => total.add (← f.of amount)

/-- What the reader is within. `mark` is the offset behind the last character
taken for the number. -/
inductive Phase where
  | gap (start : Nat)
  | whole (n : Nat)
  | fraction (n : Nat) (f : Fraction) (mark : Nat)
  | unit (n : Number) (name : List Char)
  deriving DecidableEq, Repr

structure Reader where
  offset : Nat
  phase : Phase
  total : Duration
  deriving DecidableEq, Repr

namespace Reader

def start : Reader := ⟨0, .gap 0, Duration.zero⟩

def step (r : Reader) (c : Char) : Except ReadError Reader := do
  let next := r.offset + c.utf8Size
  match r.phase with
  | .gap begun =>
    if c.isDigit then pure ⟨next, .whole (Text.digitValue c), r.total⟩
    else if Text.isBlank c then pure { r with offset := next }
    else .error (.expectedNumber begun)
  | .whole n =>
    if c.isDigit then
      let n ← word (n * 10 + Text.digitValue c)
      pure ⟨next, .whole n, r.total⟩
    else if Text.isBlank c then pure { r with offset := next }
    else if TimeUnit.isLetter c then pure ⟨next, .unit ⟨n, none⟩ [c], r.total⟩
    else if c = '.' then pure ⟨next, .fraction n Fraction.none r.offset, r.total⟩
    else .error (.invalidCharacter r.offset)
  | .fraction n f mark =>
    if c.isDigit then
      let f ← f.push (Text.digitValue c)
      pure ⟨next, .fraction n f next, r.total⟩
    else if Text.isBlank c then pure ⟨next, .fraction n f next, r.total⟩
    else if TimeUnit.isLetter c && f.denominator ≠ 1 then
      pure ⟨next, .unit ⟨n, some f⟩ [c], r.total⟩
    else .error (.invalidCharacter mark)
  | .unit n name =>
    if c.isDigit then
      let total ← n.addTo (String.ofList name) r.total
      pure ⟨next, .whole (Text.digitValue c), total⟩
    else if Text.isBlank c then
      let total ← n.addTo (String.ofList name) r.total
      pure ⟨next, .gap next, total⟩
    else if TimeUnit.isLetter c then pure ⟨next, .unit n (name ++ [c]), r.total⟩
    else .error (.invalidCharacter r.offset)

def finish (r : Reader) : Except ReadError Duration :=
  match r.phase with
  | .gap begun => if begun = 0 then .error .empty else .ok r.total
  | .whole n => .error (.missingUnit n)
  | .fraction n f mark =>
    if f.denominator = 1 then .error (.invalidCharacter mark) else .error (.missingUnit n)
  | .unit n name => n.addTo (String.ofList name) r.total

def run (r : Reader) : List Char → Except ReadError Reader
  | [] => .ok r
  | c :: rest => do (← r.step c).run rest

theorem run_append (r : Reader) (s t : List Char) :
    r.run (s ++ t) = (r.run s).bind fun r => r.run t := by
  induction s generalizing r with
  | nil => rfl
  | cons c s ih =>
    simp only [List.cons_append, run]
    cases h : r.step c with
    | error e => rfl
    | ok r' => exact ih r'

end Reader

def parse (text : String) : Except ReadError Duration := do
  if text = "0" then pure Duration.zero
  else (← Reader.start.run text.toList).finish

end ClusterKeeper.Duration
