import ClusterKeeper.Proofs.Blocks
import ClusterKeeper.Proofs.Routing

/-!
# Retrying repeats changes only

A resource that compares states takes its steps in a fixed order and stops at the first
one that fails. Retrying makes a block of attempts out of each change, and leaves the
order, the result and what is canceled to the protocol.
-/

set_option autoImplicit false

namespace ClusterKeeper

variable {S : Signature} {α β K σ : Type} {Value : σ → Type}

namespace Program

def Whole : Program S α → Prop
  | .pure _ => True
  | .request _ next => ∀ r, (next r).Whole
  | .unfinished => False

theorem Whole.bind {p : Program S α} {f : α → Program S β} (hp : p.Whole)
    (hf : ∀ a, (f a).Whole) : (p.bind f).Whole := by
  induction p with
  | pure a => exact hf a
  | request x next ih => exact fun r => ih r (hp r)
  | unfinished => exact hp.elim

theorem Whole.interpret {T : Signature} {answer : (x : S.Call) → Program T (S.Reply x)}
    {p : Program S α} (hp : p.Whole) (ha : ∀ x, (answer x).Whole) :
    (p.interpret answer).Whole := by
  induction p with
  | pure a => trivial
  | request x next ih => exact (ha x).bind fun r => ih r (hp r)
  | unfinished => exact hp.elim

theorem whole_ask (x : S.Call) : (ask x).Whole := fun _ => trivial

end Program

section Retrying

open Program

variable {ε τ : Type} {step : τ → Program (Engine S) (Except ε α × τ)} {policy : RetryPolicy}
  {limit : UInt32}

/-- A policy with a bound on attempts does not run out of those it is ready for. -/
theorem whole_attempts (hlimit : policy.maxAttempts = some limit) (hstep : ∀ s, (step s).Whole)
    {left pauses slept : Nat} (hleft : max 1 limit.toNat ≤ pauses + left) (hpos : 0 < left)
    (s : τ) : (policy.attempts step left pauses slept s).Whole := by
  induction left generalizing pauses slept s with
  | zero => omega
  | succ left ih =>
    rw [RetryPolicy.attempts_succ]
    refine (whole_ask _).bind fun _ => (hstep s).bind ?_
    rintro ⟨e | a, s'⟩
    · by_cases hexhausted : policy.exhaustedBy (pauses + 1) = true
      · rw [show policy.granted (S := S) pauses slept = pure none from if_pos hexhausted]
        exact (whole_ask _).bind fun _ => trivial
      · rw [show policy.granted (S := S) pauses slept = Engine.nextDelay ⟨policy, pauses, slept⟩
          from if_neg hexhausted]
        refine (whole_ask _).bind fun delay => ?_
        cases delay with
        | none => exact (whole_ask _).bind fun _ => trivial
        | some d =>
          have hmore : ¬limit.toNat ≤ pauses + 1 := by
            simpa [RetryPolicy.exhaustedBy, hlimit] using hexhausted
          exact (whole_ask _).bind fun _ => ih (by omega) (by omega) s'
    · exact (whole_ask _).bind fun _ => trivial

theorem whole_retryWith (hlimit : policy.maxAttempts = some limit) (hstep : ∀ s, (step s).Whole)
    (s : τ) : (policy.retryWith step s).Whole := by
  unfold RetryPolicy.retryWith
  rw [hlimit]
  exact whole_attempts hlimit hstep (Nat.le_add_left _ _) (by omega) s

theorem whole_retrying (hlimit : policy.maxAttempts = some limit) (resource : String)
    (o : Operation) {a : Action S α} (ha : ∀ c, (a.run c).Whole) (c : Cancellation) :
    (((Middleware.retrying policy).around resource o a).run c).Whole := by
  dsimp only [Middleware.retrying]
  split
  · exact whole_retryWith hlimit ha c
  · exact ha c

theorem whole_filling {T : Signature} {f : (s : σ) → Action T (Value s)}
    (hf : ∀ s c, ((f s).run c).Whole) (x : (Engine (Asking Value)).Call) :
    (Asking.filling f x).Whole := by
  cases x with
  | call x => exact hf x.1 x.2
  | nextDelay turn => exact whole_ask _
  | sleep d => exact whole_ask _
  | patience => exact whole_ask _
  | report report => exact whole_ask _

end Retrying

inductive Concluded : List (Taken Value) → Except Error α × Cancellation → Prop where
  | succeeded {steps : List (Taken Value)} {a : α} {c : Cancellation}
      (h : ∀ k ∈ steps, k.result.isOk = true) : Concluded steps (.ok a, c)
  | failed {steps : List (Taken Value)} {k : Taken Value} {e : Error}
      (h : ∀ k ∈ steps, k.result.isOk = true) (hk : k.result = .error e) :
      Concluded (steps ++ [k]) (.error e, k.after)

structure Follows (operation : σ → Operation) (operations : List Operation)
    (a : Action (Asking Value) α) : Prop where
  whole : ∀ c, (a.run c).Whole
  ends : ∀ c t x, (a.run c).Ends t x → ∃ steps : List (Taken Value),
    t = steps.map Taken.entry ∧ (steps.map fun k => operation k.step).Sublist operations ∧
      Concluded steps x

namespace Follows

variable {operation : σ → Operation} {operations rest : List Operation}

theorem pure (a : α) (operations : List Operation) :
    Follows operation operations (Pure.pure a : Action (Asking Value) α) := by
  refine ⟨fun _ => trivial, fun c t x ht => ?_⟩
  obtain ⟨rfl, rfl⟩ := Program.ends_pure ht
  exact ⟨[], rfl, List.nil_sublist _, .succeeded (List.forall_mem_nil _)⟩

theorem ask (s : σ) : Follows operation [operation s] (Asking.ask s : Action (Asking Value) _) := by
  refine ⟨fun c => Program.whole_ask _, fun c t x ht => ?_⟩
  obtain rfl : t = [Taken.entry ⟨s, c, x.1, x.2⟩] := Engine.ends_call ht
  refine ⟨[] ++ [⟨s, c, x.1, x.2⟩], rfl, List.Sublist.refl _, ?_⟩
  obtain ⟨e | a, c'⟩ := x
  · exact .failed (List.forall_mem_nil _) rfl
  · exact .succeeded (List.forall_mem_singleton.mpr rfl)

theorem mono {a : Action (Asking Value) α} (h : Follows operation operations a)
    (hs : operations.Sublist rest) : Follows operation rest a := by
  refine ⟨h.whole, fun c t x ht => ?_⟩
  obtain ⟨steps, rfl, hsteps, hx⟩ := h.ends c t x ht
  exact ⟨steps, rfl, hsteps.trans hs, hx⟩

theorem bind {a : Action (Asking Value) β} {f : β → Action (Asking Value) α}
    (ha : Follows operation operations a) (hf : ∀ b, Follows operation rest (f b)) :
    Follows operation (operations ++ rest) (a >>= f) := by
  refine ⟨fun c => ?_, fun c t x ht => ?_⟩
  · rw [Action.run_bind]
    refine (ha.whole c).bind ?_
    rintro ⟨e | b, c'⟩
    · trivial
    · exact (hf b).whole c'
  · obtain ⟨r, c'⟩ := x
    rcases Action.ends_bind ht with ⟨t₁, b, c₁, t₂, rfl, h₁, h₂⟩ | ⟨e, rfl, h₁⟩
    · obtain ⟨steps, rfl, hsteps, hx⟩ := ha.ends c t₁ _ h₁
      obtain ⟨steps', rfl, hsteps', hx'⟩ := (hf b).ends c₁ t₂ _ h₂
      refine ⟨steps ++ steps', by simp, by simpa using hsteps.append hsteps', ?_⟩
      -- the second part was started, so nothing in the first one failed
      cases hx with
      | succeeded h =>
        cases hx' with
        | succeeded h' => exact .succeeded (List.forall_mem_append.mpr ⟨h, h'⟩)
        | failed h' hk =>
          rw [← List.append_assoc]
          exact .failed (List.forall_mem_append.mpr ⟨h, h'⟩) hk
    · obtain ⟨steps, rfl, hsteps, hx⟩ := ha.ends c t _ h₁
      refine ⟨steps, rfl, hsteps.trans (List.sublist_append_left _ _), ?_⟩
      cases hx with
      | failed h hk => exact .failed h hk

theorem unlessCanceled {a : Action (Asking Value) Unit} (h : Follows operation operations a) :
    Follows operation operations (Action.unlessCanceled a) := by
  have hrun : ∀ c, (Action.unlessCanceled a).run c =
      (if c.skipsResource then Pure.pure () else a : Action (Asking Value) Unit).run c :=
    fun _ => rfl
  refine ⟨fun c => ?_, fun c t x ht => ?_⟩
  · rw [hrun]
    cases c.skipsResource with
    | true => trivial
    | false => exact h.whole c
  · obtain ⟨r, c'⟩ := x
    rcases Action.ends_unlessCanceled ht with ⟨-, rfl, rfl, -⟩ | ⟨-, h₁⟩
    · exact ⟨[], rfl, List.nil_sublist _, .succeeded (List.forall_mem_nil _)⟩
    · exact h.ends c t _ h₁

end Follows

namespace CrudResource

open Operation

variable {r : CrudResource S K} {context : PassContext} {object : K}

def changes : List Operation := [applyCreateChange, applyDeleteChange, applyUpdateChange]

def operations : Direction → List Operation
  | .create => [getCurrentState] ++ ([getDesiredState] ++ ([newCreatePatch] ++
      (changes ++ ([newUpdatePatch] ++ changes))))
  | .delete => [getCurrentState] ++ ([getDesiredState] ++ ([newDeletePatch] ++ changes))

theorem follows_applyIfPresent {o : Operation} {rest : List Operation}
    (change : Option β) {apply : β → Action r.Steps Unit} {a : Action r.Steps Unit}
    (happly : ∀ x, Follows Step.operation [o] (apply x)) (ha : Follows Step.operation rest a) :
    Follows Step.operation ([o] ++ rest) (applyIfPresent change apply a) := by
  cases change with
  | none => exact ha.mono (List.sublist_append_right _ _)
  | some x => exact (happly x).bind fun _ => ha.unlessCanceled

theorem follows_applyPatch (p : r.Patch) :
    Follows Step.operation changes (r.outline.applyPatch context object p) := by
  refine follows_applyIfPresent p.create (fun change => .ask (Step.applyCreate change)) ?_
  refine follows_applyIfPresent p.delete (fun change => .ask (Step.applyDelete change)) ?_
  obtain ⟨_, update, _⟩ := p
  cases update with
  | none => exact .pure () _
  | some change => exact .ask (Step.applyUpdate change)

theorem follows_ensure (direction : Direction) :
    Follows Step.operation (operations direction)
      (r.outline.toResource.ensure direction context object) := by
  have hstates : ∀ (rest : r.State → r.State → Action r.Steps Unit) (operations : List Operation),
      (∀ current desired, Follows Step.operation operations (rest current desired)) →
      Follows Step.operation ([getCurrentState] ++ ([getDesiredState] ++ operations))
        (r.outline.withStates context object rest) := fun rest operations h =>
    (Follows.ask .currentState).bind fun current => .unlessCanceled <|
      (Follows.ask .desiredState).bind fun desired => (h current desired).unlessCanceled
  cases direction with
  | create =>
    refine hstates _ _ fun current desired => ?_
    refine (Follows.ask (Step.createPatch current desired)).bind fun p => ?_
    refine (follows_applyPatch p).bind fun _ => .unlessCanceled ?_
    exact (Follows.ask (Step.updatePatch current desired)).bind follows_applyPatch
  | delete =>
    refine hstates _ _ fun current desired => ?_
    exact (Follows.ask (Step.deletePatch current desired)).bind follows_applyPatch

theorem protocol_steps {direction : Direction} {c : Cancellation} {log : Transcript r.Steps}
    {x : Except Error Unit × Cancellation}
    (h : (r.protocol direction context object c).Ends log x) :
    ∃ steps : List (Taken (Step.Value (r := r))), log = steps.map Taken.entry := by
  obtain ⟨steps, hlog, -⟩ := (follows_ensure direction).ends c log x h
  exact ⟨steps, hlog⟩

/-- A run under a policy: changes are made in blocks of attempts, all else is done once,
and with each block as a single step it is a run of the protocol. -/
structure RetriedRun (r : CrudResource S K) (limit : Nat) (direction : Direction)
    (context : PassContext) (object : K) (c : Cancellation) (t : Transcript r.Steps)
    (x : Except Error Unit × Cancellation) (blocks : List (Block (Step.Value (r := r)))) :
    Prop where
  attempts : takenIn t = blocks.flatMap Block.attempts
  collapsed : (r.protocol direction context object c).Ends (blocks.map fun b => b.entry) x
  bounded : ∀ b ∈ blocks, b.attempts.length ≤ max 1 limit
  single : ∀ b ∈ blocks, b.step.operation.mutates = false → b.failures = []
  exhausted : ∀ b ∈ blocks, b.step.operation.mutates = true → ∀ e, b.result = .error e →
    b.attempts.length = max 1 limit ∨ Declined t
  order : (blocks.map fun b => b.step.operation).Sublist (operations direction)
  once : (((takenIn t).map fun k => k.step.operation).filter fun o => !o.mutates).Nodup
  concluded : Concluded (blocks.map Block.toTaken) x

/-- Only changes take more than one attempt. -/
theorem observations_eq {Value : σ → Type} {operation : σ → Operation}
    {blocks : List (Block Value)}
    (h : ∀ b ∈ blocks, (operation b.step).mutates = false → b.failures = []) :
    ((blocks.flatMap Block.attempts).map fun k => operation k.step).filter (fun o => !o.mutates) =
      (blocks.map fun b => operation b.step).filter fun o => !o.mutates := by
  induction blocks with
  | nil => rfl
  | cons b blocks ih =>
    obtain ⟨hb, hblocks⟩ := List.forall_mem_cons.mp h
    rw [List.flatMap_cons, List.map_append, List.filter_append, ih hblocks, List.map_cons]
    cases hm : (operation b.step).mutates with
    | false =>
      have hattempts : b.attempts = [b.toTaken] := by
        rw [Block.attempts, hb hm]
        rfl
      simp [hattempts, hm]
    | true =>
      have hnone : (b.attempts.map fun k => operation k.step).filter
          (fun o => !o.mutates) = [] := by
        simp only [List.filter_eq_nil_iff, List.forall_mem_map]
        intro k hk
        rw [Taken.step_of_mem_attempts hk, hm]
        decide
      simp [hnone, hm]

theorem observations_nodup (direction : Direction) :
    ((operations direction).filter fun o => !o.mutates).Nodup := by
  cases direction <;> decide

theorem retriedRun_of_ends {policy : RetryPolicy} {limit : UInt32}
    (hlimit : policy.maxAttempts = some limit) {direction : Direction} {c : Cancellation}
    {t : Transcript r.Steps} {x : Except Error Unit × Cancellation}
    (h : (r.protocolUnder (.retrying policy) direction context object c).Ends t x) :
    ∃ blocks, RetriedRun r limit.toNat direction context object c t x blocks := by
  rw [protocolUnder_eq] at h
  obtain ⟨blocks, hblocks, -⟩ := inBlocks (fun _ _ => protocol_steps)
    (tries_retried policy Step.operation r.name) h
  obtain ⟨steps, hlog, horder, hx⟩ := (follows_ensure direction).ends c _ x hblocks.collapsed
  obtain rfl : blocks.map Block.toTaken = steps := by
    have h : (blocks.map Block.toTaken).map Taken.entry = steps.map Taken.entry := by
      rw [List.map_map]
      exact hlog
    have h := congrArg takenIn h
    rwa [takenIn_entries, takenIn_entries] at h
  rw [List.map_map] at horder
  have hsingle : ∀ b ∈ blocks, b.step.operation.mutates = false → b.failures = [] :=
    fun b hb => (hblocks.keeps b hb).single
  have hbounded : ∀ b ∈ blocks, b.attempts.length ≤ max 1 limit.toNat :=
    fun b hb => (hblocks.keeps b hb).permitted limit hlimit
  refine ⟨blocks, hblocks.attempts, hblocks.collapsed, hbounded, hsingle, ?_, horder, ?_, hx⟩
  · intro b hb hm e he
    refine ((hblocks.keeps b hb).exhausted hm e he).imp_left fun hexhausted => ?_
    have hlower : limit.toNat ≤ b.attempts.length := by
      simpa [RetryPolicy.exhaustedBy, hlimit] using hexhausted
    have hpos := b.toTaken.length_attempts b.failures
    have hupper := hbounded b hb
    simp only [Block.attempts] at *
    omega
  · rw [hblocks.attempts, observations_eq hsingle]
    exact (observations_nodup direction).sublist (horder.filter _)

/-- Only the failing change is repeated. With at most one attempt there is no telling the
two resources apart. -/
theorem retrying_repeats_changes (r : CrudResource S K) (policy : RetryPolicy) (limit : UInt32)
    (hlimit : policy.maxAttempts = some limit) (direction : Direction) (context : PassContext)
    (object : K) (c : Cancellation) :
    (((r.wrap (.retrying policy)).toResource.ensure direction context object).run c =
        (r.protocolUnder (.retrying policy) direction context object c).interpret
          (r.performing context object) ∧
      (r.toResource.ensure direction context object).run c =
        (r.protocol direction context object c).interpret (r.performing context object)) ∧
    (r.protocolUnder (.retrying policy) direction context object c).Whole ∧
    (∀ t x, (r.protocolUnder (.retrying policy) direction context object c).Ends t x →
      ∃ blocks, RetriedRun r limit.toNat direction context object c t x blocks) ∧
    (limit.toNat ≤ 1 →
      (((r.wrap (.retrying policy)).toResource.ensure direction context object).run c).unmarked =
        ((r.toResource.ensure direction context object).run c).unmarked) := by
  refine ⟨⟨run_wrap (Middleware.uniform_retrying policy),
    run_eq_interpret r direction context object c⟩, ?_, fun t x => retriedRun_of_ends hlimit,
    fun hone => ?_⟩
  · have hask : ∀ (s : r.Step) c, (s.ask.run c).Whole := fun s c => Program.whole_ask _
    rw [protocolUnder_eq]
    refine ((follows_ensure direction).whole c).interpret (whole_filling fun s c => ?_)
    exact whole_retrying hlimit r.name s.operation (hask s) c
  · rw [ensure_wrap, ensure_through (r := r)]
    refine congrArg (Action.run · c) (interpret_congr fun s => ?_)
    exact unmarked_retrying hlimit hone r.name s.operation _

def unsteady : CrudResource Cloud Cluster where
  State := Unit
  CreateChange := Unit
  UpdateChange := Unit
  DeleteChange := Unit
  name := "unsteady"
  currentState _ _ := pure ()
  desiredState _ _ := pure ()
  createPatch _ _ _ _ := pure .empty
  updatePatch _ _ _ _ := pure (.ofUpdate ())
  deletePatch _ _ _ _ := pure .empty
  applyCreate _ _ _ := pure ()
  applyUpdate _ _ _ := do
    let _ ← Action.call (S := Cloud) .accountId
    Action.cancelResource
  applyDelete _ _ _ := pure ()

def unsteadyStep (s : unsteady.Step) (before : Cancellation) (v : s.Value)
    (after : Cancellation) : Entry (Engine unsteady.Steps) :=
  Taken.entry (⟨s, before, .ok v, after⟩ : Taken (Step.Value (r := unsteady)))

def unsteadyUpdate : Transcript unsteady.Steps :=
  [.reported .attempt,
   Taken.entry (⟨.applyUpdate (), .none, .error (.notFound "stack"),
     Cancellation.cancelResource .none⟩ : Taken (Step.Value (r := unsteady))),
   .turned ⟨.standard, 0, 0⟩ (some (.ofMilliseconds 200)), .slept (.ofMilliseconds 200),
   .reported .attempt,
   unsteadyStep (.applyUpdate ()) (Cancellation.cancelResource .none) ()
     (Cancellation.cancelResource .none),
   .reported .settled]

def unsteadyRun : Transcript unsteady.Steps :=
  [unsteadyStep .currentState .none () .none, unsteadyStep .desiredState .none () .none,
   unsteadyStep (.createPatch () ()) .none Patch.empty .none,
   unsteadyStep (.updatePatch () ()) .none (Patch.ofUpdate ()) .none] ++ unsteadyUpdate

theorem unsteady_ends :
    (unsteady.protocolUnder (.retrying .standard) .create ⟨true⟩ Trial.cluster .none).Ends
      unsteadyRun (.ok (), Cancellation.cancelResource .none) :=
  .request (.request (.request (.request (.request (.request (.request (.request (.request
    (.request (.request (.pure _)))))))))))

theorem retrying_repeats_changes_unsteady :
    RetryPolicy.standard.maxAttempts = some 3 ∧
    ((takenIn unsteadyRun).map fun k => k.step.operation) = [getCurrentState, getDesiredState,
      newCreatePatch, newUpdatePatch, applyUpdateChange, applyUpdateChange] ∧
    (∃ blocks, RetriedRun unsteady 3 .create ⟨true⟩ Trial.cluster .none unsteadyRun
      (.ok (), Cancellation.cancelResource .none) blocks) ∧
    (((unsteady.wrap (.retrying (.withMaxAttempts 1))).toResource.ensure .create ⟨true⟩
      Trial.cluster).run .none).unmarked =
        ((unsteady.toResource.ensure .create ⟨true⟩ Trial.cluster).run .none).unmarked :=
  have h := retrying_repeats_changes unsteady .standard 3 rfl .create ⟨true⟩ Trial.cluster .none
  have hone := retrying_repeats_changes unsteady (.withMaxAttempts 1) 1 rfl .create ⟨true⟩
    Trial.cluster .none
  ⟨rfl, rfl, h.2.2.1 _ _ unsteady_ends, hone.2.2.2 (by decide)⟩

end CrudResource

end ClusterKeeper
