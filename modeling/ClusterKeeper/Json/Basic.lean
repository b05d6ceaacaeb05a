/-!
# JSON values

A number is kept as an integer while its text has neither point nor exponent
and it fits 64 bits; any other number is a float. An object holds each key
once, in the order of first mention.
-/

set_option autoImplicit false

namespace ClusterKeeper

inductive Json where
  | null
  | bool (b : Bool)
  | integer (n : Int)
  | float (x : Float)
  | string (s : String)
  | array (items : List Json)
  | object (fields : List (String × Json))
  deriving Inhabited

namespace Json

def setKey {α : Type} (key : String) (value : α) : List (String × α) → List (String × α)
  | [] => [(key, value)]
  | (k, v) :: rest => if k = key then (key, value) :: rest else (k, v) :: setKey key value rest

def get? (j : Json) (key : String) : Option Json :=
  match j with
  | .object fields => fields.lookup key
  | _ => none

def isNull : Json → Bool
  | .null => true
  | _ => false

def string? : Json → Option String
  | .string s => some s
  | _ => none

def bool? : Json → Option Bool
  | .bool b => some b
  | _ => none

def integer? : Json → Option Int
  | .integer n => some n
  | _ => none

def number? : Json → Option Float
  | .integer n => some (Float.ofInt n)
  | .float x => some x
  | _ => none

def array? : Json → Option (List Json)
  | .array items => some items
  | _ => none

def object? : Json → Option (List (String × Json))
  | .object fields => some fields
  | _ => none

/-! ## Reading fields of loose records

In a loose record a field that is missing, null or of another type stands for
nothing: the empty text, no items, or no value. -/

def field (j : Json) (name : String) : Json := (j.get? name).getD .null

def textAt? (j : Json) (name : String) : Option String := (j.field name).string?

def textAt (j : Json) (name : String) : String := (j.textAt? name).getD ""

def flagAt (j : Json) (name : String) (value : Bool := false) : Bool :=
  ((j.field name).bool?).getD value

def nat? (j : Json) : Option Nat := do
  let n ← j.integer?
  if n < 0 then none else some n.toNat

def natAt? (j : Json) (name : String) : Option Nat := (j.field name).nat?

def itemsAt (j : Json) (name : String) : List Json := ((j.field name).array?).getD []

def textsAt (j : Json) (name : String) : List String := (j.itemsAt name).filterMap string?

def pair? : Json → Option (String × String)
  | .array [.string a, .string b] => some (a, b)
  | _ => none

def pairsAt (j : Json) (name : String) : List (String × String) :=
  (j.itemsAt name).filterMap pair?

def textMapAt (j : Json) (name : String) : List (String × String) :=
  (((j.field name).object?).getD []).filterMap fun (k, v) => v.string?.map (k, ·)

def ofTexts (l : List String) : Json := .array (l.map .string)

def ofPair (p : String × String) : Json := .array [.string p.1, .string p.2]

def ofOption {α : Type} (encode : α → Json) : Option α → Json
  | none => .null
  | some a => encode a

end Json

end ClusterKeeper
