import ClusterKeeper.Pass.Engine
import ClusterKeeper.Resource

/-!
# Scripted resources

Resources whose every operation does what a script tells: succeed, fail, or
cancel something first. The operations and the patches are written down.
-/

set_option autoImplicit false

namespace ClusterKeeper.Rehearsal

structure Item where
  version : String
  deleting : Bool
  deriving DecidableEq, Repr

instance : Managed Item where
  version i := i.version
  isBeingDeleted i := i.deleting

inductive Scope where
  | pass
  | resource
  deriving DecidableEq, Repr

structure Outcome where
  cancels : Option Scope
  error : Option Error
  deriving DecidableEq, Repr

def Outcome.success : Outcome := ⟨none, none⟩

abbrev Script : Type := List Outcome

def Script.next : Script → Outcome × Script
  | [] => (.success, [])
  | [last] => (last, [last])
  | o :: rest => (o, rest)

inductive Cue where
  | start
  | operation (o : Operation)
  deriving DecidableEq, Repr

inductive Line where
  | start
  | operation (resource : String) (o : Operation) (arguments : List Int)
  | patchIsEmpty (resource : String) (empty : Bool)
  deriving DecidableEq, Repr

inductive Scripted.Call where
  | act (actor : Nat) (cue : Cue) (line : Line)
  | note (line : Line)

def Scripted.Reply : Scripted.Call → Type
  | .act _ _ _ => Outcome
  | .note _ => Unit

def Scripted : Signature := ⟨Scripted.Call, Scripted.Reply⟩

namespace Scripted

def perform (o : Outcome) : Action Scripted Unit := do
  match o.cancels with
  | none => pure ()
  | some .pass => Action.cancelPass
  | some .resource => Action.cancelResource
  match o.error with
  | none => pure ()
  | some e => throw e

def act (actor : Nat) (cue : Cue) (line : Line) : Action Scripted Unit := do
  let o : Outcome ← Action.call (S := Scripted) (.act actor cue line)
  perform o

def operate (actor : Nat) (name : String) (o : Operation) (arguments : List Int) :
    Action Scripted Unit :=
  act actor (.operation o) (.operation name o arguments)

def note (line : Line) : Action Scripted Unit := do
  let _ : Unit ← Action.call (S := Scripted) (.note line)

def startPass (actor : Nat) (_ : Item) : Action Scripted PassContext := do
  act actor .start .start
  pure ⟨true⟩

def resource (actor : Nat) (name : String) : Resource Scripted Item where
  name := name
  ensureCreated _ _ := operate actor name .ensureCreated []
  ensureDeleted _ _ := operate actor name .ensureDeleted []

structure Comparison where
  current : Int
  desired : Int
  createPatch : Patch Int Int Int
  updatePatch : Patch Int Int Int
  deletePatch : Patch Int Int Int
  deriving DecidableEq, Repr

def patch (actor : Nat) (name : String) (o : Operation) (current desired : Int)
    (p : Patch Int Int Int) : Action Scripted (Patch Int Int Int) := do
  operate actor name o [current, desired]
  note (.patchIsEmpty name p.isEmpty)
  pure p

def crud (actor : Nat) (name : String) (c : Comparison) : CrudResource Scripted Item where
  State := Int
  CreateChange := Int
  UpdateChange := Int
  DeleteChange := Int
  name := name
  currentState _ _ := do
    operate actor name .getCurrentState []
    pure c.current
  desiredState _ _ := do
    operate actor name .getDesiredState []
    pure c.desired
  createPatch _ _ current desired :=
    patch actor name .newCreatePatch current desired c.createPatch
  updatePatch _ _ current desired :=
    patch actor name .newUpdatePatch current desired c.updatePatch
  deletePatch _ _ current desired :=
    patch actor name .newDeletePatch current desired c.deletePatch
  applyCreate _ _ change := operate actor name .applyCreateChange [change]
  applyUpdate _ _ change := operate actor name .applyUpdateChange [change]
  applyDelete _ _ change := operate actor name .applyDeleteChange [change]

end Scripted

structure Stage where
  scripts : List ((Nat × Cue) × Script)
  lines : List Line
  measurements : List Measurement

namespace Stage

def nextOutcome (key : Nat × Cue) :
    List ((Nat × Cue) × Script) → Outcome × List ((Nat × Cue) × Script)
  | [] => (.success, [])
  | (k, script) :: rest =>
    if k = key then
      let (o, script) := script.next
      (o, (k, script) :: rest)
    else
      let (o, scripts) := nextOutcome key rest
      (o, (k, script) :: scripts)

def answer (c : Scripted.Call) (s : Stage) : Scripted.Reply c × Stage :=
  match c with
  | .act actor cue line =>
    let (o, scripts) := nextOutcome (actor, cue) s.scripts
    (o, { s with scripts := scripts, lines := s.lines ++ [line] })
  | .note line => ((), { s with lines := s.lines ++ [line] })

def note (m : Measurement) (s : Stage) : Stage :=
  { s with measurements := s.measurements ++ [m] }

def run {α : Type} (p : Program (Engine Scripted) α) (s : Stage) : Option α × Stage :=
  p.run (Engine.rehearse (S := Scripted) answer note) s

end Stage

end ClusterKeeper.Rehearsal
