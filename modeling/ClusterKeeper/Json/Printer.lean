import ClusterKeeper.Decimal
import ClusterKeeper.Json.Basic

/-!
# Printing JSON

Values on one line without spaces. Characters below the space are escaped,
all others stand for themselves.
-/

set_option autoImplicit false

namespace ClusterKeeper.Json

def escapeChar (c : Char) : String :=
  if c = '"' then "\\\""
  else if c = '\\' then "\\\\"
  else if c.toNat < 0x20 then
    let digits := Nat.toDigits 16 c.toNat
    "\\u" ++ String.ofList (List.replicate (4 - digits.length) '0' ++ digits)
  else c.toString

def printString (s : String) : String :=
  "\"" ++ String.join (s.toList.map escapeChar) ++ "\""

def printFloat (x : Float) : String :=
  if x.isFinite then
    let text := floatText x
    if text.contains '.' then text else text ++ ".0"
  else "null"

mutual

def print : Json → String
  | .null => "null"
  | .bool b => if b then "true" else "false"
  | .integer n => toString n
  | .float x => printFloat x
  | .string s => printString s
  | .array items => "[" ++ ",".intercalate (printItems items) ++ "]"
  | .object fields => "\x7b" ++ ",".intercalate (printFields fields) ++ "\x7d"

def printItems : List Json → List String
  | [] => []
  | item :: rest => print item :: printItems rest

def printFields : List (String × Json) → List String
  | [] => []
  | (key, value) :: rest => (printString key ++ ":" ++ print value) :: printFields rest

end

end ClusterKeeper.Json
