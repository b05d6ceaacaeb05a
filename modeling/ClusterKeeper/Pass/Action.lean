import ClusterKeeper.Error
import ClusterKeeper.Pass.Engine

/-!
# Actions of a pass

An action asks for things, may fail, and may cancel the current resource or
the whole pass. A cancellation stands even if the action then fails.
-/

set_option autoImplicit false

namespace ClusterKeeper

structure Cancellation where
  pass : Bool
  resource : Bool
  deriving DecidableEq, Repr

namespace Cancellation

def none : Cancellation := ⟨false, false⟩

def cancelPass (c : Cancellation) : Cancellation := { c with pass := true }

def cancelResource (c : Cancellation) : Cancellation := { c with resource := true }

def resetResource (c : Cancellation) : Cancellation := { c with resource := false }

def skipsResource (c : Cancellation) : Bool := c.resource || c.pass

end Cancellation

/-- What is fixed for a pass when it starts. Scaling is always allowed, other
updates only if the context says so. -/
structure PassContext where
  updatesAllowed : Bool
  deriving DecidableEq, Repr

abbrev Action (S : Signature) (α : Type) : Type :=
  ExceptT Error (StateT Cancellation (Program (Engine S))) α

namespace Action

variable {S : Signature} {α : Type}

def call (c : S.Call) : Action S (S.Reply c) := liftM (Engine.call c)

def report (r : Report) : Action S Unit := liftM (Engine.report (S := S) r)

def run (a : Action S α) (c : Cancellation) :
    Program (Engine S) (Except Error α × Cancellation) :=
  StateT.run (ExceptT.run a) c

def ofRun (f : Cancellation → Program (Engine S) (Except Error α × Cancellation)) :
    Action S α :=
  ExceptT.mk f

def result (a : Action S α) : Action S (Except Error α) := ofRun fun c => do
  let (r, c) ← a.run c
  pure (.ok r, c)

def cancelPass : Action S Unit := modify Cancellation.cancelPass

def cancelResource : Action S Unit := modify Cancellation.cancelResource

def unlessCanceled (rest : Action S Unit) : Action S Unit := do
  if (← get).skipsResource then pure () else rest

end Action

end ClusterKeeper
