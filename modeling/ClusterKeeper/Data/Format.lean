import ClusterKeeper.Duration.Reader
import ClusterKeeper.Json.Basic

/-!
# Decoding structured data

What a format of data offers to a decoder, so that one decoder serves all
formats. A record is written with its fields by name or, in the order of
declaration, by position; either way fields that are not known are ignored or
refused by the format.
-/

set_option autoImplicit false

namespace ClusterKeeper

structure DataFormat (V : Type) where
  text? : V → Option String
  bool? : V → Option Bool
  integer? : V → Option Int
  number? : V → Option Float
  isAbsent : V → Bool
  items? : V → Option (List V)
  fields? : List String → V → Option (List (String × V))

namespace DataFormat

variable {V α : Type}

def word32? (f : DataFormat V) (v : V) : Option UInt32 := do
  let n ← f.integer? v
  if 0 ≤ n && n < Word.count32 then some n.toNat.toUInt32 else none

def duration? (f : DataFormat V) (v : V) : Option Duration := do
  (Duration.parse (← f.text? v)).toOption

def optional? (f : DataFormat V) (decode : V → Option α) (v : V) : Option (Option α) :=
  if f.isAbsent v then some none else (decode v).map some

def list? (f : DataFormat V) (decode : V → Option α) (v : V) : Option (List α) := do
  (← f.items? v).mapM decode

end DataFormat

def required? {V α : Type} (fields : List (String × V)) (name : String)
    (decode : V → Option α) : Option α := do
  decode (← fields.lookup name)

def defaulted? {V α : Type} (fields : List (String × V)) (name : String)
    (decode : V → Option α) (value : α) : Option α :=
  match fields.lookup name with
  | none => some value
  | some v => decode v

namespace Json

/-- Fields by position may be missing at the end, but there are not too many. -/
def fields? (names : List String) : Json → Option (List (String × Json))
  | .object fields => some fields
  | .array items => if items.length ≤ names.length then some (names.zip items) else none
  | _ => none

def format : DataFormat Json where
  text? := string?
  bool? := bool?
  integer? := integer?
  number? := number?
  isAbsent := isNull
  items? := array?
  fields? := fields?

end Json

end ClusterKeeper
