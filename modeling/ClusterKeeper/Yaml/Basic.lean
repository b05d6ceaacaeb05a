/-!
# YAML documents

A document is a tree of scalars, sequences and mappings. How a scalar was
written matters: a plain one may stand for a number, a truth value or nothing,
a quoted one is always text.
-/

set_option autoImplicit false

namespace ClusterKeeper.Yaml

structure Scalar where
  text : String
  plain : Bool
  deriving DecidableEq, Repr

inductive Node where
  | scalar (s : Scalar)
  | sequence (items : List Node)
  | mapping (entries : List (Node × Node))
  deriving Inhabited

namespace Node

def empty : Node := .scalar ⟨"", true⟩

def plain (text : String) : Node := .scalar ⟨text, true⟩

def quoted (text : String) : Node := .scalar ⟨text, false⟩

def isAbsent : Node → Bool
  | .scalar s => s.plain && ["", "~", "null", "Null", "NULL"].contains s.text
  | _ => false

def text? : Node → Option String
  | .scalar s => some s.text
  | _ => none

end Node

/-! ## Printing YAML

Each entry of a mapping and each item of a sequence starts on a line of its
own. A mapping below a key is indented, a sequence is not. Collections without
items are written between brackets. Keys are scalars. -/

def printChar : Char → List Char
  | '"' => ['\\', '"']
  | '\\' => ['\\', '\\']
  | '\n' => ['\\', 'n']
  | '\r' => ['\\', 'r']
  | '\t' => ['\\', 't']
  | c => [c]

def Scalar.print (s : Scalar) : String :=
  if s.plain then s.text
  else "\"" ++ String.ofList (s.text.toList.flatMap printChar) ++ "\""

def hang (mark blank : String) : List String → List String
  | [] => []
  | first :: others => (mark ++ first) :: others.map (blank ++ ·)

def underKey (key : String) (value : Node) (lines : List String) : List String :=
  match value with
  | .scalar _ | .sequence [] | .mapping [] => hang (key ++ ": ") "" lines
  | .sequence _ => (key ++ ":") :: lines
  | .mapping _ => (key ++ ":") :: lines.map ("  " ++ ·)

mutual

def Node.lines : Node → List String
  | .scalar s => [s.print]
  | .sequence [] => ["[]"]
  | .sequence (n :: items) => itemLines (n :: items)
  | .mapping [] => ["\x7b\x7d"]
  | .mapping (e :: entries) => entryLines (e :: entries)

def itemLines : List Node → List String
  | [] => []
  | n :: items => hang "- " "  " n.lines ++ itemLines items

def entryLines : List (Node × Node) → List String
  | [] => []
  | (key, value) :: entries =>
    underKey (key.text?.getD "") value value.lines ++ entryLines entries

end

def Node.print (n : Node) : String := String.join (n.lines.map (· ++ "\n"))

end ClusterKeeper.Yaml
