import ClusterKeeper.Pass.Engine

/-!
# Retrying

A failing step is repeated after a pause until it succeeds, the attempts are
used up, or no further pause is granted. The last error is the result.
-/

set_option autoImplicit false

namespace ClusterKeeper.RetryPolicy

variable {S : Signature} {α ε σ : Type}

def exhaustedBy (p : RetryPolicy) (attempts : Nat) : Bool :=
  p.maxAttempts.any fun limit => limit.toNat ≤ attempts

def attempts (p : RetryPolicy) (step : σ → Program (Engine S) (Except ε α × σ)) :
    (left pauses slept : Nat) → σ → Program (Engine S) (Except ε α × σ)
  | 0, _, _, _ => .unfinished
  | left + 1, pauses, slept, s => do
    Engine.report .attempt
    let (result, s) ← step s
    match result with
    | .ok a =>
      Engine.report .settled
      pure (.ok a, s)
    | .error e =>
      let delay ← if p.exhaustedBy (pauses + 1) then pure none
        else Engine.nextDelay ⟨p, pauses, slept⟩
      match delay with
      | none =>
        Engine.report .settled
        pure (.error e, s)
      | some d =>
        Engine.sleep d
        p.attempts step left (pauses + 1) (slept + d.nanoseconds) s

def retryWith (p : RetryPolicy) (step : σ → Program (Engine S) (Except ε α × σ)) (s : σ) :
    Program (Engine S) (Except ε α × σ) := do
  match p.maxAttempts with
  | some limit => p.attempts step (max 1 limit.toNat) 0 0 s
  | none => p.attempts step (← Engine.patience) 0 0 s

def retry (p : RetryPolicy) (step : Program (Engine S) (Except ε α)) :
    Program (Engine S) (Except ε α) := do
  let (result, _) ← p.retryWith (fun _ => do pure (← step, ())) ()
  pure result

end ClusterKeeper.RetryPolicy
