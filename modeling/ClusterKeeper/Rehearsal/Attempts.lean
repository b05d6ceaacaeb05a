import ClusterKeeper.Pass.Engine
import ClusterKeeper.Retry.Loop

/-!
# Counting attempts

A step that goes through a list of outcomes and repeats the last one.
-/

set_option autoImplicit false

namespace ClusterKeeper.Rehearsal

variable {α ε : Type}

def Trial (α ε : Type) : Signature := ⟨Unit, fun _ => Except ε α⟩

structure Attempts (α ε : Type) where
  next : Except ε α
  later : List (Except ε α)
  made : Nat

def Attempts.answer (_ : Unit) (a : Attempts α ε) : Except ε α × Attempts α ε :=
  match a.later with
  | [] => (a.next, { a with made := a.made + 1 })
  | o :: rest => (a.next, ⟨o, rest, a.made + 1⟩)

def retry (p : RetryPolicy) (first : Except ε α) (later : List (Except ε α)) :
    Option (Except ε α) × Nat :=
  let step : Program (Engine (Trial α ε)) (Except ε α) := Engine.call (S := Trial α ε) ()
  let (result, a) := (p.retry step).run
    (Engine.rehearse (S := Trial α ε) Attempts.answer fun _ a => a) ⟨first, later, 0⟩
  (result, a.made)

end ClusterKeeper.Rehearsal
