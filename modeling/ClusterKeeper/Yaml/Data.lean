import ClusterKeeper.Data.Format
import ClusterKeeper.Decimal
import ClusterKeeper.Yaml.Basic

/-!
# YAML as data

What plain scalars stand for. Any scalar can be taken for text. Nothing and
null can be taken for an empty list or a record without fields.
-/

set_option autoImplicit false

namespace ClusterKeeper.Yaml

def plainText? : Node → Option String
  | .scalar s => if s.plain then some s.text else none
  | _ => none

def truthValues : List (String × Bool) :=
  [("true", true), ("True", true), ("TRUE", true),
   ("false", false), ("False", false), ("FALSE", false)]

def infinities : List String := [".inf", ".Inf", ".INF"]

def dropPlus : List Char → List Char
  | '+' :: rest => rest
  | s => s

def isSigned (s : List Char) : Bool := s.head? = some '+' || s.head? = some '-'

def hasLeadingZero : List Char → Bool
  | '0' :: c :: rest => (c :: rest).all Char.isDigit
  | _ => false

def natural? (text : String) : Option Nat :=
  let s := dropPlus text.toList
  let marked := match s with
    | '0' :: 'x' :: digits => Text.numberIn? 16 digits
    | '0' :: 'o' :: digits => Text.numberIn? 8 digits
    | '0' :: 'b' :: digits => Text.numberIn? 2 digits
    | _ => none
  marked.orElse fun _ => if hasLeadingZero s then none else Text.numberIn? 10 s

def float? (text : String) : Option Float :=
  let s := String.ofList (dropPlus text.toList)
  if s ≠ text && isSigned s.toList then none
  else if infinities.contains s then some (1.0 / 0.0)
  else if (infinities.map ("-" ++ ·)).contains text then some (-1.0 / 0.0)
  else if [".nan", ".NaN", ".NAN"].contains text then some (0.0 / 0.0)
  else (DecimalReader.read? s).filter Float.isFinite

def namedFields? (names : List String) (entries : List (Node × Node)) :
    Option (List (String × Node)) := do
  let fields ← entries.mapM fun (key, value) => key.text?.map (·, value)
  let keys := (fields.map (·.1)).filter names.contains
  if keys.Nodup then some fields else none

def fields? (names : List String) (n : Node) : Option (List (String × Node)) :=
  match n with
  | .mapping entries => namedFields? names entries
  | .sequence items => if items.length ≤ names.length then some (names.zip items) else none
  | .scalar _ => if n.isAbsent then some [] else none

def items? (n : Node) : Option (List Node) :=
  match n with
  | .sequence items => some items
  | _ => if n.isAbsent then some [] else none

def format : DataFormat Node where
  text? := Node.text?
  bool? n := (plainText? n).bind fun s => truthValues.lookup s
  integer? n := ((plainText? n).bind natural?).map fun k => (k : Int)
  number? n := (plainText? n).bind float?
  isAbsent := Node.isAbsent
  items? := items?
  fields? := fields?

end ClusterKeeper.Yaml
