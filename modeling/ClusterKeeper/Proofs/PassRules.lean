import ClusterKeeper.Proofs.ActionRules
import ClusterKeeper.Reconciler

/-!
# Rules for passes

Retrying, measuring, the steps of a resource that compares states, and the
resources of a pass one after the other.
-/

set_option autoImplicit false

namespace ClusterKeeper

variable {S : Signature} {α τ ε σ K : Type} {E : Environment S σ}

namespace RetryPolicy

/-- Every attempt starts where the one before it left off, so a failing attempt
has to restore what the next one needs. -/
theorem attempts_meets (p : RetryPolicy) {step : τ → Program (Engine S) (Except ε α × τ)}
    {I : τ → σ → Prop} {F : Except ε α × τ → σ → Prop}
    (h : ∀ t s, I t s → (step t).Meets E.engine (fun r s => F r s ∧
      (r.1.isOk = false → I r.2 s ∧ E.repeats)) s)
    (left pauses slept : Nat) (t : τ) (s : σ) (hI : I t s) (hl : 0 < left ∨ E.repeats) :
    (p.attempts step left pauses slept t).Meets E.engine F s := by
  induction left generalizing pauses slept t s with
  | zero => exact hl.resolve_left (Nat.lt_irrefl 0)
  | succ left ih =>
    unfold attempts
    rw [Program.bind_eq, Program.meets_bind, Engine.meets_report, Program.bind_eq,
      Program.meets_bind]
    apply (h t s hI).mono
    rintro ⟨r | a, t'⟩ s' ⟨hp, hr⟩
    · obtain ⟨hI', hE⟩ := hr rfl
      dsimp only
      split
      · exact (Engine.meets_report _ _ _).2 hp
      · refine (Program.meets_bind _ _ _ _).2 ⟨hE, fun delay _ hs => ?_⟩
        cases hs
        cases delay with
        | none => exact (Engine.meets_report _ _ _).2 hp
        | some d =>
          constructor
          · exact hE
          · intro _ _ hs
            cases hs
            exact ih _ _ _ _ hI' (.inr hE)
    · exact (Engine.meets_report _ _ _).2 hp

theorem retryWith_meets (p : RetryPolicy) {step : τ → Program (Engine S) (Except ε α × τ)}
    {I : τ → σ → Prop} {F : Except ε α × τ → σ → Prop}
    (h : ∀ t s, I t s → (step t).Meets E.engine (fun r s => F r s ∧
      (r.1.isOk = false → I r.2 s ∧ E.repeats)) s) (t : τ) (s : σ) (hI : I t s) :
    (p.retryWith step t).Meets E.engine F s := by
  unfold retryWith
  split
  · exact attempts_meets p h _ _ _ _ _ hI (.inl (by omega))
  · refine (Program.meets_bind _ _ _ _).2 ⟨trivial, fun n _ hn => ?_⟩
    obtain ⟨rfl, hn⟩ := hn
    exact attempts_meets p h _ _ _ _ _ hI hn.symm

theorem retry_meets (p : RetryPolicy) {step : Program (Engine S) (Except ε α)} {I : σ → Prop}
    {F : Except ε α → σ → Prop}
    (h : ∀ s, I s → step.Meets E.engine (fun r s => F r s ∧
      (r.isOk = false → I s ∧ E.repeats)) s) (s : σ) (hI : I s) :
    (p.retry step).Meets E.engine F s := by
  unfold retry
  rw [Program.bind_eq, Program.meets_bind]
  refine retryWith_meets p (I := fun _ => I) (F := fun r => F r.1) ?_ () s hI
  intro _ s hI
  rw [Program.bind_eq, Program.meets_bind]
  exact h s hI

end RetryPolicy

variable {post : Except Error α → Cancellation → σ → Prop} {c : Cancellation} {s : σ}

theorem Middleware.meets_measuring (project resource : String) (o : Operation) (a : Action S α) :
    ((measuring project).around resource o a).Meets E post c s ↔ a.Meets E post c s := by
  have h : ∀ p : Except Error α × Cancellation, ∀ s,
      (((measurements ⟨resource, o, project⟩ p.1).forM fun m =>
        Engine.report (S := S) (.measured m)).bind fun _ => Program.pure p).Meets E.engine
          (fun p s => post p.1 p.2 s) s ↔ post p.1 p.2 s := by
    intro p s
    rw [Program.meets_bind, Engine.meets_reports]
    rfl
  rw [measuring, Action.meets_ofRun, Program.bind_eq, Program.meets_bind]
  exact ⟨fun hm => Program.Meets.mono hm fun p s => (h p s).1,
    fun hm => Program.Meets.mono hm fun p s => (h p s).2⟩

theorem Middleware.retrying_meets (p : RetryPolicy) (resource : String) (o : Operation)
    {a : Action S α} {I : Cancellation → σ → Prop}
    (h : ∀ c s, I c s → a.Meets E (fun r c s => post r c s ∧
      (r.isOk = false → I c s ∧ E.repeats)) c s) (hI : I c s) :
    ((retrying p).around resource o a).Meets E post c s := by
  dsimp only [retrying]
  split
  · exact (Action.meets_ofRun _).2 (p.retryWith_meets (fun c s => h c s) c s hI)
  · exact (h c s hI).mono fun r c s hr => hr.1

theorem Middleware.meets_retrying_of_reading (p : RetryPolicy) (resource : String) {o : Operation}
    (a : Action S α) (ho : o.mutates = false) :
    ((retrying p).around resource o a) = a := by
  simp [retrying, ho]

namespace CrudResource

variable (r : CrudResource S K) (context : PassContext) (object : K)
  {post : Except Error Unit → Cancellation → σ → Prop}

def managed (r : CrudResource S K) (policy : RetryPolicy) (project : String) : CrudResource S K :=
  (r.wrap (.retrying policy)).wrap (.measuring project)

theorem meets_applyPatch_empty :
    (r.applyPatch context object .empty).Meets E post c s ↔ post (.ok ()) c s := Iff.rfl

theorem meets_applyIfPresent_last (change : α) (apply : α → Action S Unit) :
    (applyIfPresent (some change) apply (pure ())).Meets E post c s ↔
      (apply change).Meets E post c s := by
  show (apply change >>= fun _ => Action.unlessCanceled (pure ())).Meets E post c s ↔ _
  rw [Action.meets_bind]
  apply Action.meets_congr
  intro x c s
  rcases x with e | ⟨⟩
  · rfl
  · show (Action.unlessCanceled _).Meets E post c s ↔ _
    rw [Action.meets_unlessCanceled, Action.meets_pure, ite_self]

theorem meets_applyPatch_create (change : r.CreateChange) :
    (r.applyPatch context object (.ofCreate change)).Meets E post c s ↔
      (r.applyCreate context object change).Meets E post c s :=
  meets_applyIfPresent_last change _

theorem meets_applyPatch_delete (change : r.DeleteChange) :
    (r.applyPatch context object (.ofDelete change)).Meets E post c s ↔
      (r.applyDelete context object change).Meets E post c s :=
  meets_applyIfPresent_last change _

theorem meets_applyPatch_update (change : r.UpdateChange) :
    (r.applyPatch context object (.ofUpdate change)).Meets E post c s ↔
      (r.applyUpdate context object change).Meets E post c s := Iff.rfl

end CrudResource

theorem meets_runResources_cons (direction : Direction) (context : PassContext) (object : K)
    (r : Resource S K) (rest : List (Resource S K))
    {post : Except Error Unit → Cancellation → σ → Prop} :
    (runResources direction context object (r :: rest)).Meets E post c s ↔
      (r.ensure direction context object).Meets E (Action.Onward (fun _ c s =>
        if c.pass then post (.ok ()) c s
        else (runResources direction context object rest).Meets E post c s) post)
        c.resetResource s := by
  rw [runResources, Action.meets_bind, Action.meets_modify]
  show (r.ensure direction context object >>= _).Meets E post c.resetResource s ↔ _
  rw [Action.meets_bind]
  refine Action.meets_congr (Action.onward_iff fun _ c s => ?_)
  rw [Action.meets_bind, Action.meets_get]
  show (if c.pass then pure () else _ : Action S Unit).Meets E post c s ↔ _
  rw [Action.meets_ite, Action.meets_pure]

namespace Reconciler

variable [Managed K]

theorem meets_ensure (r : Reconciler S K) (direction : Direction) (object : K)
    {post : Except Error Unit → σ → Prop} :
    (r.ensure direction object).Meets E.engine post s ↔
      (r.pass direction object).Meets E (fun x _ s => post x s) Cancellation.none s := by
  rw [ensure, Program.bind_eq, Program.meets_bind]
  rfl

theorem meets_pass {r : Reconciler S K} {direction : Direction} {object : K} {set : ResourceSet S K}
    (hr : r.router.route object = .ok set) {post : Except Error Unit → Cancellation → σ → Prop} :
    (r.pass direction object).Meets E post c s ↔
      (set.start object).Meets E (Action.Onward (fun context =>
        (runResources direction context object set.resources).Meets E post) post) c s := by
  rw [pass, Action.meets_bind, hr]
  show (set.start object >>= _).Meets E post c s ↔ _
  rw [Action.meets_bind]

end Reconciler

end ClusterKeeper
