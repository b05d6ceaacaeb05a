import ClusterKeeper.Duration.Basic

/-!
# Writing duration texts

The parts that are not zero, longest first, with a space between them.
-/

set_option autoImplicit false

namespace ClusterKeeper.Duration

structure Part where
  count : Nat
  name : String
  takesPlural : Bool
  deriving DecidableEq, Repr

def Part.text (p : Part) : String :=
  toString p.count ++ p.name ++ if p.takesPlural && 1 < p.count then "s" else ""

def parts (d : Duration) : List Part :=
  let inYear := d.seconds % 31557600
  let inMonth := inYear % 2630016
  let inDay := inMonth % 86400
  [⟨d.seconds / 31557600, "year", true⟩,
   ⟨inYear / 2630016, "month", true⟩,
   ⟨inMonth / 86400, "day", true⟩,
   ⟨inDay / 3600, "h", false⟩,
   ⟨inDay % 3600 / 60, "m", false⟩,
   ⟨inDay % 60, "s", false⟩,
   ⟨d.nanos / 1000000, "ms", false⟩,
   ⟨d.nanos / 1000 % 1000, "us", false⟩,
   ⟨d.nanos % 1000, "ns", false⟩]

def text (d : Duration) : String :=
  match d.parts.filter (·.count ≠ 0) with
  | [] => "0s"
  | parts => " ".intercalate (parts.map Part.text)

end ClusterKeeper.Duration
