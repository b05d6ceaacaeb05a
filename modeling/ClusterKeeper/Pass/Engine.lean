import ClusterKeeper.Program
import ClusterKeeper.Retry.Policy

/-!
# The engine of a pass

What a pass asks for and reports, and who answers it in a rehearsal.
-/

set_option autoImplicit false

namespace ClusterKeeper

/-! ## Operations of resources

The calls a resource can receive, and what is measured about them. -/

inductive Operation where
  | getCurrentState
  | getDesiredState
  | newCreatePatch
  | newUpdatePatch
  | newDeletePatch
  | applyCreateChange
  | applyUpdateChange
  | applyDeleteChange
  | ensureCreated
  | ensureDeleted
  deriving DecidableEq, Repr

namespace Operation

def all : List Operation :=
  [getCurrentState, getDesiredState, newCreatePatch, newUpdatePatch, newDeletePatch,
   applyCreateChange, applyUpdateChange, applyDeleteChange, ensureCreated, ensureDeleted]

def text : Operation → String
  | getCurrentState => "get_current_state"
  | getDesiredState => "get_desired_state"
  | newCreatePatch => "new_create_patch"
  | newUpdatePatch => "new_update_patch"
  | newDeletePatch => "new_delete_patch"
  | applyCreateChange => "apply_create_change"
  | applyUpdateChange => "apply_update_change"
  | applyDeleteChange => "apply_delete_change"
  | ensureCreated => "ensure_created"
  | ensureDeleted => "ensure_deleted"

def ofText? (s : String) : Option Operation := all.find? fun o => o.text = s

def mutates : Operation → Bool
  | getCurrentState | getDesiredState | newCreatePatch | newUpdatePatch | newDeletePatch => false
  | _ => true

end Operation

structure MetricLabels where
  resource : String
  operation : Operation
  project : String
  deriving DecidableEq, Repr

inductive Measurement where
  | failure (labels : MetricLabels) (category : String)
  | duration (labels : MetricLabels) (succeeded : Bool)
  deriving DecidableEq, Repr

/-! ## What a pass asks for

Apart from the calls of its resources a pass asks for pauses and reports what
it does. A policy without a bound on attempts would make an infinite tree, so
for such a policy the environment says how many attempts it is ready to see. -/

inductive Report where
  | attempt
  | settled
  | measured (m : Measurement)
  deriving DecidableEq, Repr

namespace Engine

inductive Call (S : Signature) where
  | call (c : S.Call)
  | nextDelay (turn : RetryPolicy.Turn)
  | sleep (d : Duration)
  | patience
  | report (r : Report)

def Reply {S : Signature} : Call S → Type
  | .call c => S.Reply c
  | .nextDelay _ => Option Duration
  | .sleep _ => Unit
  | .patience => Nat
  | .report _ => Unit

end Engine

def Engine (S : Signature) : Signature := ⟨Engine.Call S, Engine.Reply⟩

namespace Engine

variable {S : Signature}

def call (c : S.Call) : Program (Engine S) (S.Reply c) :=
  Program.ask (S := Engine S) (.call c)

def nextDelay (turn : RetryPolicy.Turn) : Program (Engine S) (Option Duration) :=
  Program.ask (S := Engine S) (.nextDelay turn)

def sleep (d : Duration) : Program (Engine S) Unit := Program.ask (S := Engine S) (.sleep d)

def patience : Program (Engine S) Nat := Program.ask (S := Engine S) .patience

def report (r : Report) : Program (Engine S) Unit := Program.ask (S := Engine S) (.report r)

end Engine

/-! ## Rehearsing a pass

Time passes only in pauses, each as long as its interval. Measurements are
handed to whoever rehearses; all else that a pass reports is dropped. -/

namespace Engine

variable {S : Signature} {σ : Type}

def rehearsalPatience : Nat := 100000

def rehearse (answer : (c : S.Call) → σ → S.Reply c × σ) (note : Measurement → σ → σ) :
    (c : (Engine S).Call) → σ → (Engine S).Reply c × σ
  | .call c, s => answer c s
  | .nextDelay turn, s => (turn.steady, s)
  | .sleep _, s => ((), s)
  | .patience, s => (rehearsalPatience, s)
  | .report (.measured m), s => ((), note m s)
  | .report .attempt, s => ((), s)
  | .report .settled, s => ((), s)

end Engine

end ClusterKeeper
