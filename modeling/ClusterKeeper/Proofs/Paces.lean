import ClusterKeeper.Proofs.Halting
import ClusterKeeper.Proofs.History

/-!
# Paces

How long to pause and when to give up is up to whoever runs a pass. Once that is
settled by what the pass has seen so far, all that is left of it are the calls
that it makes.
-/

set_option autoImplicit false

namespace ClusterKeeper

variable {α σ : Type}

structure Pace where
  delay : List Exchange → RetryPolicy.Turn → Option Duration
  patience : List Exchange → Nat

namespace Pace

structure Bounded (pace : Pace) (limit : Nat) : Prop where
  delay : ∀ h turn, limit ≤ turn.pauses → pace.delay h turn = none
  patience : ∀ h, limit < pace.patience h

def answer (pace : Pace) (calls : (x : Cloud.Call) → σ → Cloud.Reply x × σ) :
    (c : Engine.Call Cloud) → List Exchange × σ → Engine.Reply c × (List Exchange × σ)
  | .call x, (h, s) => ((calls x s).1, (h ++ [⟨x, (calls x s).1⟩], (calls x s).2))
  | .nextDelay turn, (h, s) => (pace.delay h turn, (h, s))
  | .sleep _, (h, s) => ((), (h, s))
  | .patience, (h, s) => (pace.patience h, (h, s))
  | .report _, (h, s) => ((), (h, s))

theorem Bounded.limits {pace : Pace} {limit : Nat} (hb : pace.Bounded limit)
    (calls : (x : Cloud.Call) → σ → Cloud.Reply x × σ) (c : Engine.Call Cloud)
    (t : List Exchange × σ) : Engine.Limits limit c (pace.answer calls c t).1 := by
  cases c with
  | nextDelay turn => exact hb.delay t.1 turn
  | patience => exact hb.patience t.1
  | _ => trivial

end Pace

namespace Program

def paced (pace : Pace) : Program (Engine Cloud) α → List Exchange →
    Program Cloud (Option α × List Exchange)
  | .pure a, h => .pure (some a, h)
  | .request (.call x) next, h =>
    .request (S := Cloud) x fun r => (next r).paced pace (h ++ [⟨x, r⟩])
  | .request (.nextDelay turn) next, h => (next (pace.delay h turn)).paced pace h
  | .request (.sleep _) next, h => (next ()).paced pace h
  | .request .patience next, h => (next (pace.patience h)).paced pace h
  | .request (.report _) next, h => (next ()).paced pace h
  | .unfinished, h => .pure (none, h)

variable {p : Program (Engine Cloud) α} {pace : Pace}

/-- Pacing a program before its calls are answered comes to the same as deciding on
the way. -/
theorem run_paced (pace : Pace) (calls : (x : Cloud.Call) → σ → Cloud.Reply x × σ)
    (p : Program (Engine Cloud) α) (h : List Exchange) (s : σ) :
    (p.paced pace h).run calls s =
      (some ((p.run (S := Engine Cloud) (pace.answer calls) (h, s)).1,
        (p.run (S := Engine Cloud) (pace.answer calls) (h, s)).2.1),
        (p.run (S := Engine Cloud) (pace.answer calls) (h, s)).2.2) := by
  induction p generalizing h s with
  | pure a => rfl
  | request c next ih =>
    cases c with
    | call x => exact ih _ _ _
    | nextDelay turn => exact ih _ _ _
    | sleep d => exact ih _ _ _
    | patience => exact ih _ _ _
    | report m => exact ih _ _ _
  | unfinished => rfl

/-- A pass that halts returns at every bounded pace. -/
theorem Halts.returns {limit : Nat} (hp : p.Halts limit) (hb : pace.Bounded limit)
    {calls : (x : Cloud.Call) → σ → Cloud.Reply x × σ} {h : List Exchange} {s s' : σ}
    {ended : Option α × List Exchange}
    (hrun : (p.paced pace h).run calls s = (some ended, s')) : ∃ a, ended.1 = some a := by
  obtain ⟨a, t, ha⟩ := hp.run (hb.limits calls) (h, s)
  rw [run_paced, ha] at hrun
  cases hrun
  exact ⟨a, rfl⟩

/-- All calls are still taken. -/
theorem Meets.paced {E : Environment Cloud σ} {post : α → σ → Prop} {s : σ}
    (hp : p.Meets E.engine post s) (hE : E.repeats) (pace : Pace) (h : List Exchange) :
    (p.paced pace h).Meets E (fun _ _ => True) s := by
  induction p generalizing h s with
  | pure a => trivial
  | request c next ih =>
    cases c with
    | call x => exact ⟨hp.1, fun r s' hr => ih r (hp.2 r s' hr) _⟩
    | nextDelay turn => exact ih _ (hp.2 _ s rfl) h
    | sleep d => exact ih _ (hp.2 _ s rfl) h
    | patience => exact ih _ (hp.2 _ s ⟨rfl, .inl hE⟩) h
    | report m => exact ih _ (hp.2 _ s rfl) h
  | unfinished => trivial

end Program

def Reconciler.calls (r : Reconciler Cloud Cluster) (direction : Direction) (cluster : Cluster)
    (pace : Pace) : Program Cloud (Option (Except Error Unit) × List Exchange) :=
  (r.ensure direction cluster).paced pace []

end ClusterKeeper
