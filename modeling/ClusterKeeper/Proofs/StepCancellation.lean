import ClusterKeeper.Proofs.Outline
import ClusterKeeper.Proofs.Routing

/-!
# Cancellation between steps

A step that succeeds and leaves something canceled is the last one of its resource,
unless it made a patch: nothing is looked at before the first change of the patch, so
that one is applied all the same.
-/

set_option autoImplicit false

namespace ClusterKeeper

namespace CrudResource

variable {S : Signature} {K α : Type} {r : CrudResource S K}

def firstChange (r : CrudResource S K) : r.Patch → Option r.Step
  | ⟨some change, _, _⟩ => some (.applyCreate change)
  | ⟨none, _, some change⟩ => some (.applyDelete change)
  | ⟨none, some change, none⟩ => some (.applyUpdate change)
  | ⟨none, none, none⟩ => none

def Step.pending : (s : r.Step) → s.Value → Option r.Step
  | .createPatch _ _, p | .updatePatch _ _, p | .deletePatch _ _, p => r.firstChange p
  | .currentState, _ | .desiredState, _ => none
  | .applyCreate _, _ | .applyUpdate _, _ | .applyDelete _, _ => none

/-- How a protocol goes on where it left something canceled: not at all, or with the
step that is pending. -/
def Skips (c : Cancellation) : Option r.Step →
    Program (Engine r.Steps) (Except Error Unit × Cancellation) → Prop
  | none, q => q = .pure (.ok (), c)
  | some s, q => ∃ next, q = .request (.call (s, c)) next

def Idle (a : Action r.Steps Unit) : Prop :=
  ∀ c, c.skipsResource = true → a.run c = .pure (.ok (), c)

theorem idle_unlessCanceled (a : Action r.Steps Unit) : Idle (Action.unlessCanceled a) := by
  intro c hc
  show (if c.skipsResource then pure () else a : Action r.Steps Unit).run c = _
  rw [hc]
  rfl

def next (b : Action r.Steps Unit) (p : Except Error Unit × Cancellation) :
    Program (Engine r.Steps) (Except Error Unit × Cancellation) :=
  match p.1 with
  | .ok _ => b.run p.2
  | .error e => .pure (.error e, p.2)

theorem run_next (a b : Action r.Steps Unit) (c : Cancellation) :
    (a >>= fun _ => b).run c = (a.run c).bind (next b) := by
  rw [Action.run_bind]
  congr 1
  funext ⟨result, c'⟩
  cases result <;> rfl

theorem Skips.next {b : Action r.Steps Unit} {c : Cancellation} {pending : Option r.Step}
    {q : Program (Engine r.Steps) (Except Error Unit × Cancellation)} (h : Skips c pending q)
    (hc : c.skipsResource = true) (hb : Idle b) : Skips c pending (q.bind (next b)) := by
  cases pending with
  | none =>
    obtain rfl := h
    exact hb c hc
  | some s =>
    obtain ⟨_, rfl⟩ := h
    exact ⟨_, rfl⟩

def Step.succeeded (s : r.Step) (before : Cancellation) (v : s.Value) (after : Cancellation) :
    Entry (Engine r.Steps) := .call (S := r.Steps) (s, before) (.ok v, after)

def Honours (a : Action r.Steps Unit) : Prop :=
  ∀ c steps s c₀ v c₁ q, (a.run c).After (steps ++ [Step.succeeded s c₀ v c₁]) q →
    c₁.skipsResource = true → Skips c₁ (s.pending v) q

theorem honours_pure : Honours (pure () : Action r.Steps Unit) := by
  intro c steps s c₀ v c₁ q hq _
  obtain ⟨heq, -⟩ := Program.after_pure hq
  exact absurd heq (List.append_ne_nil_of_right_ne_nil _ (List.cons_ne_nil _ _))

theorem Honours.unlessCanceled {a : Action r.Steps Unit} (ha : Honours a) :
    Honours (Action.unlessCanceled a) := by
  intro c steps s c₀ v c₁ q hq
  have hrun : (Action.unlessCanceled a).run c =
      (if c.skipsResource then pure () else a : Action r.Steps Unit).run c := rfl
  rw [hrun] at hq
  cases hc : c.skipsResource with
  | true =>
    rw [hc] at hq
    exact honours_pure c steps s c₀ v c₁ q hq
  | false =>
    rw [hc] at hq
    exact ha c steps s c₀ v c₁ q hq

/-- A step, and what is made of its value. -/
theorem honours_ask_bind {s : r.Step} {f : s.Value → Action r.Steps Unit}
    (hf : ∀ v, Honours (f v))
    (hnext : ∀ v c, c.skipsResource = true → Skips c (s.pending v) ((f v).run c)) :
    Honours (s.ask >>= f) := by
  intro c steps s' c₀ v c₁ q hq hc₁
  rw [Action.run_bind] at hq
  rcases Program.after_request hq with ⟨heq, -⟩ | ⟨reply, t, heq, ht⟩
  · exact absurd heq (List.append_ne_nil_of_right_ne_nil _ (List.cons_ne_nil _ _))
  cases steps with
  | nil =>
    obtain ⟨hentry, rfl⟩ := List.cons.inj heq
    cases hentry
    rw [Program.after_nil ht]
    exact hnext v c₁ hc₁
  | cons entry steps =>
    obtain ⟨-, rfl⟩ := List.cons.inj heq
    rcases reply with ⟨e | v', c'⟩
    · obtain ⟨hnil, -⟩ := Program.after_pure ht
      exact absurd hnil (List.append_ne_nil_of_right_ne_nil _ (List.cons_ne_nil _ _))
    · exact hf v' c' steps s' c₀ v c₁ q ht hc₁

theorem Honours.bind {a b : Action r.Steps Unit} (ha : Honours a) (hb : Honours b)
    (hidle : Idle b) : Honours (a >>= fun _ => b) := by
  intro c steps s c₀ v c₁ q hq hc₁
  rw [run_next] at hq
  rcases Program.after_bind hq with ⟨q', hq', rfl⟩ | ⟨t₁, ⟨result, c'⟩, t₂, heq, h₁, h₂⟩
  · exact (ha c steps s c₀ v c₁ q' hq' hc₁).next hc₁ hidle
  rcases List.eq_nil_or_concat t₂ with rfl | ⟨steps', entry, rfl⟩
  · rw [List.append_nil] at heq
    rw [Program.after_nil h₂]
    exact (ha c steps s c₀ v c₁ _ (heq ▸ h₁.after) hc₁).next hc₁ hidle
  · rw [List.concat_eq_append] at heq h₂
    rw [← List.append_assoc] at heq
    obtain ⟨rfl, hentry⟩ := List.append_inj' heq rfl
    obtain rfl := (List.cons.inj hentry).1
    cases result with
    | ok _ => exact hb c' steps' s c₀ v c₁ q h₂ hc₁
    | error e =>
      obtain ⟨hnil, -⟩ := Program.after_pure h₂
      exact absurd hnil (List.append_ne_nil_of_right_ne_nil _ (List.cons_ne_nil _ _))

variable {context : PassContext} {object : K}

/-- After a change comes a look at what is canceled. -/
theorem honours_change {s : r.Step} {rest : Action r.Steps Unit} (hs : ∀ v, s.pending v = none)
    (hrest : Honours rest) : Honours (s.ask >>= fun _ => Action.unlessCanceled rest) :=
  honours_ask_bind (fun _ => hrest.unlessCanceled) fun v c hc => by
    rw [hs v]
    exact idle_unlessCanceled rest c hc

theorem honours_applyPatch (p : r.Patch) : Honours (r.outline.applyPatch context object p) := by
  obtain ⟨create, update, delete⟩ := p
  have hcreate : ∀ rest, Honours rest →
      Honours (applyIfPresent create (r.outline.applyCreate context object) rest) := by
    intro rest hrest
    cases create with
    | none => exact hrest
    | some change => exact honours_change (s := .applyCreate change) (fun _ => rfl) hrest
  have hdelete : ∀ rest, Honours rest →
      Honours (applyIfPresent delete (r.outline.applyDelete context object) rest) := by
    intro rest hrest
    cases delete with
    | none => exact hrest
    | some change => exact honours_change (s := .applyDelete change) (fun _ => rfl) hrest
  refine hcreate _ (hdelete _ ?_)
  cases update with
  | none => exact honours_pure
  | some change =>
    have hask : Honours (r.outline.applyUpdate context object change >>= pure) :=
      honours_ask_bind (s := .applyUpdate change) (fun _ => honours_pure) fun _ _ _ => rfl
    rwa [bind_pure] at hask

/-- Nothing comes between a patch and its first change. -/
theorem skips_applyPatch (p : r.Patch) (c : Cancellation) :
    Skips c (r.firstChange p) ((r.outline.applyPatch context object p).run c) := by
  obtain ⟨_ | create, _ | update, _ | delete⟩ := p
  case none.none.none => rfl
  all_goals exact ⟨_, rfl⟩

theorem honours_withStates {rest : r.State → r.State → Action r.Steps Unit}
    (hrest : ∀ current desired, Honours (rest current desired)) :
    Honours (r.outline.withStates context object rest) := by
  refine honours_ask_bind (s := .currentState) (fun current => ?_)
    fun current c hc => idle_unlessCanceled _ c hc
  refine Honours.unlessCanceled (honours_ask_bind (s := .desiredState) (fun desired => ?_)
    fun desired c hc => idle_unlessCanceled _ c hc)
  exact (hrest current desired).unlessCanceled

theorem honours_ensure (direction : Direction) :
    Honours (r.outline.toResource.ensure direction context object) := by
  cases direction with
  | create =>
    refine honours_withStates fun current desired => ?_
    have hupdate : Honours (Step.ask (r := r) (.updatePatch current desired) >>= fun p =>
        r.outline.applyPatch context object p) :=
      honours_ask_bind (fun p => honours_applyPatch p) fun p c _ => skips_applyPatch p c
    refine honours_ask_bind (s := .createPatch current desired) (fun p => ?_) fun p c hc => ?_
    · exact (honours_applyPatch p).bind hupdate.unlessCanceled (idle_unlessCanceled _)
    · rw [run_next]
      exact (skips_applyPatch p c).next hc (idle_unlessCanceled _)
  | delete =>
    refine honours_withStates fun current desired => ?_
    exact honours_ask_bind (s := .deletePatch current desired) (fun p => honours_applyPatch p)
      fun p c _ => skips_applyPatch p c

/-- Whatever the steps do: each run goes through steps of the protocol, and after one that
left something canceled the protocol is over, or is at the change of a patch. -/
theorem cancellation_between_steps (r : CrudResource S K) (direction : Direction)
    (context : PassContext) (object : K) (c : Cancellation) :
    (r.toResource.ensure direction context object).run c =
        (r.protocol direction context object c).interpret (r.performing context object) ∧
      ∀ steps s c₀ v c₁ q, (r.protocol direction context object c).After
          (steps ++ [Step.succeeded s c₀ v c₁]) q →
        c₁.skipsResource = true → Skips c₁ (s.pending v) q :=
  ⟨run_eq_interpret r direction context object c, honours_ensure direction c⟩

def hasty : CrudResource Cloud Cluster where
  State := Unit
  CreateChange := Unit
  UpdateChange := Unit
  DeleteChange := Unit
  name := "hasty"
  currentState _ _ := pure ()
  desiredState _ _ := pure ()
  createPatch _ _ _ _ := do
    Action.cancelResource
    pure (.ofCreate ())
  updatePatch _ _ _ _ := pure .empty
  deletePatch _ _ _ _ := pure .empty
  applyCreate _ _ _ := pure ()
  applyUpdate _ _ _ := pure ()
  applyDelete _ _ _ := pure ()

def hastyStates : List (Entry (Engine hasty.Steps)) :=
  [Step.succeeded (r := hasty) .currentState .none () .none,
   Step.succeeded (r := hasty) .desiredState .none () .none]

def hastyPatch : Entry (Engine hasty.Steps) :=
  Step.succeeded (r := hasty) (.createPatch () ()) .none (Patch.ofCreate ())
    (Cancellation.cancelResource .none)

theorem hasty_after : ∃ next,
    (hasty.protocol .create ⟨true⟩ Trial.cluster .none).After (hastyStates ++ [hastyPatch])
      (.request (.call (Step.applyCreate (r := hasty) (), Cancellation.cancelResource .none))
        next) :=
  ⟨_, .request (.request (.request (.start _)))⟩

theorem hasty_realizes : Program.Realizes (hasty.performing ⟨true⟩ Trial.cluster)
    (hastyStates ++ [hastyPatch]) [] :=
  .cons (t := []) (.pure _) (.cons (t := []) (.pure _) (.cons (t := []) (.pure _) .nil))

/-- Not every step that leaves something canceled is the last one. -/
theorem patch_not_checked :
    ¬∀ (r : CrudResource Cloud Cluster) (direction : Direction) (context : PassContext)
      (cluster : Cluster) (c : Cancellation) (steps : Transcript r.Steps) (s : r.Step)
      (c₀ : Cancellation) (v : s.Value) (c₁ : Cancellation)
      (q : Program (Engine r.Steps) (Except Error Unit × Cancellation)) (t : Transcript Cloud),
      (r.protocol direction context cluster c).After (steps ++ [Step.succeeded s c₀ v c₁]) q →
      Program.Realizes (r.performing context cluster) (steps ++ [Step.succeeded s c₀ v c₁]) t →
      c₁.skipsResource = true → q = .pure (.ok (), c₁) := by
  intro hall
  obtain ⟨next, hafter⟩ := hasty_after
  cases hall hasty .create ⟨true⟩ Trial.cluster .none hastyStates (.createPatch () ()) .none
    (Patch.ofCreate ()) (Cancellation.cancelResource .none) _ [] hafter hasty_realizes rfl

end CrudResource

end ClusterKeeper
