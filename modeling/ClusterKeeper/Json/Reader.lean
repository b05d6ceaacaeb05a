import ClusterKeeper.Json.Basic
import ClusterKeeper.Text.Basic

/-!
# Reading JSON

A reader over characters. A float is made from at most as many leading digits
as fit 64 bits, rounded once, and then scaled by a power of ten, rounded
again: the nearest float is not always reached.
-/

set_option autoImplicit false

namespace ClusterKeeper.Json

inductive ReadError where
  | unexpectedEnd
  | unexpected (c : Char)
  | outOfRange
  | trailing
  deriving DecidableEq, Repr

def skipBlank : List Char → List Char
  | [] => []
  | c :: rest =>
    if c = ' ' || c = '\t' || c = '\n' || c = '\r' then skipBlank rest else c :: rest

def unexpectedAt {α : Type} : List Char → Except ReadError α
  | [] => .error .unexpectedEnd
  | c :: _ => .error (.unexpected c)

def tenth (n : Nat) : Float := Float.ofScientific 1 false n

def scale : (steps : Nat) → Float → Int → Except ReadError Float
  | 0, x, _ => .ok x
  | steps + 1, x, exponent =>
    if exponent.natAbs ≤ 308 then
      if 0 ≤ exponent then
        let y := x * tenth exponent.natAbs
        if y.isInf then .error .outOfRange else .ok y
      else .ok (x / tenth exponent.natAbs)
    else if x == 0.0 then .ok x
    else if 0 ≤ exponent then .error .outOfRange
    else scale steps (x / tenth 308) (exponent + 308)

def floatOfParts (negative : Bool) (significand : Nat) (exponent : Int) :
    Except ReadError Json := do
  let x ← scale (exponent.natAbs / 308 + 1) (Float.ofNat significand) exponent
  pure (.float (if negative then -x else x))

def takeDigits (significand : Nat) (taken dropped : Nat) :
    List Char → Nat × Nat × Nat × List Char
  | [] => (significand, taken, dropped, [])
  | c :: rest =>
    if c.isDigit then
      let next := significand * 10 + Text.digitValue c
      if dropped = 0 && next < Word.count64 then takeDigits next (taken + 1) 0 rest
      else takeDigits significand taken (dropped + 1) rest
    else (significand, taken, dropped, c :: rest)

def takeExponent (n : Nat) : List Char → Nat × List Char
  | [] => (n, [])
  | c :: rest =>
    if c.isDigit then takeExponent (n * 10 + Text.digitValue c) rest else (n, c :: rest)

def finishFloat (negative : Bool) (significand : Nat) (shift : Int) (input : List Char) :
    Except ReadError (Json × List Char) := do
  match input with
  | c :: rest =>
    if c = 'e' || c = 'E' then
      let (minus, digits) := match rest with
        | '-' :: ds => (true, ds)
        | '+' :: ds => (false, ds)
        | ds => (false, ds)
      match digits with
      | d :: ds =>
        if !d.isDigit then unexpectedAt digits
        else
          let (size, rest) := takeExponent 0 (d :: ds)
          if 2147483648 ≤ size then
            if significand = 0 || minus then
              pure (.float (if negative then -0.0 else 0.0), rest)
            else .error .outOfRange
          else
            let exponent := if minus then shift - (size : Int) else shift + (size : Int)
            pure (← floatOfParts negative significand exponent, rest)
      | [] => .error .unexpectedEnd
    else pure (← floatOfParts negative significand shift, c :: rest)
  | [] => pure (← floatOfParts negative significand shift, [])

def readNumber (negative : Bool) (input : List Char) : Except ReadError (Json × List Char) := do
  match input with
  | [] => .error .unexpectedEnd
  | '0' :: c :: rest => if c.isDigit then .error (.unexpected c) else afterWhole 0 0 (c :: rest)
  | c :: rest =>
    if !c.isDigit then .error (.unexpected c)
    else
      let (significand, _, dropped, rest) := takeDigits 0 0 0 (c :: rest)
      afterWhole significand dropped rest
where
  afterWhole (significand dropped : Nat) (input : List Char) :
      Except ReadError (Json × List Char) := do
    match input with
    | '.' :: rest =>
      match rest with
      | c :: _ =>
        if !c.isDigit then unexpectedAt rest
        else if dropped = 0 then
          let (significand, taken, _, rest) := takeDigits significand 0 0 rest
          finishFloat negative significand (-(taken : Int)) rest
        else
          finishFloat negative significand dropped (rest.dropWhile Char.isDigit)
      | [] => .error .unexpectedEnd
    | _ =>
      let isFloat := match input with
        | c :: _ => c = 'e' || c = 'E'
        | [] => false
      if isFloat || dropped ≠ 0 then finishFloat negative significand dropped input
      else if !negative then pure (.integer significand, input)
      else if significand = 0 || Word.count63 < significand then
        pure (.float (-(Float.ofNat significand)), input)
      else pure (.integer (-(significand : Int)), input)

def readUnit : List Char → Except ReadError (Nat × List Char)
  | a :: b :: c :: d :: rest =>
    match Text.numberIn? 16 [a, b, c, d] with
    | some n => .ok (n, rest)
    | none => .error (.unexpected a)
  | rest => unexpectedAt rest

def readEscapedUnits (input : List Char) : Except ReadError (Char × List Char) := do
  let (first, rest) ← readUnit input
  if 0xd800 ≤ first && first < 0xdc00 then
    match rest with
    | '\\' :: 'u' :: rest =>
      let (second, rest) ← readUnit rest
      if 0xdc00 ≤ second && second < 0xe000 then
        pure (Char.ofNat (0x10000 + (first - 0xd800) * 0x400 + (second - 0xdc00)), rest)
      else .error (.unexpected 'u')
    | rest => unexpectedAt rest
  else if 0xdc00 ≤ first && first < 0xe000 then .error (.unexpected 'u')
  else pure (Char.ofNat first, rest)

def readText : (fuel : Nat) → List Char → List Char → Except ReadError (String × List Char)
  | 0, _, rest => unexpectedAt rest
  | _ + 1, _, [] => .error .unexpectedEnd
  | fuel + 1, text, c :: rest =>
    if c = '"' then .ok (String.ofList text.reverse, rest)
    else if c.toNat < 0x20 then .error (.unexpected c)
    else if c = '\\' then
      match rest with
      | [] => .error .unexpectedEnd
      | 'u' :: rest => do
        let (c, rest) ← readEscapedUnits rest
        readText fuel (c :: text) rest
      | e :: rest =>
        match [('"', '"'), ('\\', '\\'), ('/', '/'), ('b', '\x08'), ('f', '\x0c'),
            ('n', '\n'), ('r', '\r'), ('t', '\t')].lookup e with
        | some c => readText fuel (c :: text) rest
        | none => .error (.unexpected e)
    else readText fuel (c :: text) rest

def readWord (word : String) (value : Json) (input : List Char) :
    Except ReadError (Json × List Char) :=
  if word.toList.isPrefixOf input then .ok (value, input.drop word.length)
  else unexpectedAt input

mutual

def readValue : (fuel : Nat) → List Char → Except ReadError (Json × List Char)
  | 0, rest => unexpectedAt rest
  | fuel + 1, input =>
    match skipBlank input with
    | [] => .error .unexpectedEnd
    | 'n' :: rest => readWord "null" .null ('n' :: rest)
    | 't' :: rest => readWord "true" (.bool true) ('t' :: rest)
    | 'f' :: rest => readWord "false" (.bool false) ('f' :: rest)
    | '"' :: rest => do
      let (s, rest) ← readText (rest.length + 1) [] rest
      pure (.string s, rest)
    | '[' :: rest =>
      match skipBlank rest with
      | ']' :: rest => .ok (.array [], rest)
      | rest => do
        let (items, rest) ← readItems fuel rest
        pure (.array items, rest)
    | '\x7b' :: rest =>
      match skipBlank rest with
      | '\x7d' :: rest => .ok (.object [], rest)
      | rest => do
        let (fields, rest) ← readFields fuel [] rest
        pure (.object fields, rest)
    | '-' :: rest => readNumber true rest
    | rest => readNumber false rest

def readItems : (fuel : Nat) → List Char → Except ReadError (List Json × List Char)
  | 0, rest => unexpectedAt rest
  | fuel + 1, input => do
    let (item, rest) ← readValue fuel input
    match skipBlank rest with
    | ',' :: rest => do
      let (items, rest) ← readItems fuel rest
      pure (item :: items, rest)
    | ']' :: rest => pure ([item], rest)
    | rest => unexpectedAt rest

def readFields :
    (fuel : Nat) → List (String × Json) → List Char →
      Except ReadError (List (String × Json) × List Char)
  | 0, _, rest => unexpectedAt rest
  | fuel + 1, fields, input =>
    match skipBlank input with
    | '"' :: rest => do
      let (key, rest) ← readText (rest.length + 1) [] rest
      match skipBlank rest with
      | ':' :: rest => do
        let (value, rest) ← readValue fuel rest
        let fields := setKey key value fields
        match skipBlank rest with
        | ',' :: rest => readFields fuel fields rest
        | '\x7d' :: rest => pure (fields, rest)
        | rest => unexpectedAt rest
      | rest => unexpectedAt rest
    | rest => unexpectedAt rest

end

/-- Reads a whole text. Each step consumes a character, so its length bounds
the depth. -/
def parse (text : String) : Except ReadError Json := do
  let input := text.toList
  let (value, rest) ← readValue (input.length + 1) input
  if (skipBlank rest).isEmpty then pure value else .error .trailing

end ClusterKeeper.Json
