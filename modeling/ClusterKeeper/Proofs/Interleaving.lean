import ClusterKeeper.Proofs.Regime
import Mathlib.Logic.Relation

/-!
# Passes at the same time

Each step answers one request of one of the passes. Which one is next is left
open, so that a statement about all runs is about all interleavings.
-/

set_option autoImplicit false

namespace ClusterKeeper

structure Crowd (S : Signature) (α σ : Type) where
  programs : List (Program S α)
  state : σ

namespace Crowd

variable {S : Signature} {α σ : Type}

inductive Replied : List (Program S α) → List (Program S α) → Prop where
  | here (c : S.Call) (next : S.Reply c → Program S α) (r : S.Reply c)
      (rest : List (Program S α)) : Replied (.request c next :: rest) (next r :: rest)
  | there (p : Program S α) {ps ps' : List (Program S α)} (h : Replied ps ps') :
      Replied (p :: ps) (p :: ps')

inductive Step (E : Environment S σ) : Crowd S α σ → Crowd S α σ → Prop where
  | answered {before after : List (Program S α)} {c : S.Call} {next : S.Reply c → Program S α}
      {s s' : σ} {r : S.Reply c} (hr : E.Answers c s r s') :
      Step E ⟨before ++ .request c next :: after, s⟩ ⟨before ++ next r :: after, s'⟩

abbrev Reaches (E : Environment S σ) : Crowd S α σ → Crowd S α σ → Prop :=
  Relation.ReflTransGen (Step E)

theorem replied_append (before : List (Program S α)) (c : S.Call)
    (next : S.Reply c → Program S α) (r : S.Reply c) (after : List (Program S α)) :
    Replied (before ++ .request c next :: after) (before ++ next r :: after) := by
  induction before with
  | nil => exact .here c next r after
  | cons p before ih => exact .there p ih

/-- No program goes on forever, so neither do several of them. -/
theorem acc_replied_cons {ps : List (Program S α)} (p : Program S α)
    (h : Acc (fun ps' ps : List (Program S α) => Replied ps ps') ps) :
    Acc (fun ps' ps : List (Program S α) => Replied ps ps') (p :: ps) := by
  induction p generalizing ps with
  | pure a =>
    induction h with
    | intro ps _ ih =>
      constructor
      intro ps' hr
      cases hr with
      | there _ hr => exact ih _ hr
  | request c next ihp =>
    induction h with
    | intro ps h ih =>
      constructor
      intro ps' hr
      cases hr with
      | here _ _ r _ => exact ihp r ⟨ps, h⟩
      | there _ hr => exact ih _ hr
  | unfinished =>
    induction h with
    | intro ps _ ih =>
      constructor
      intro ps' hr
      cases hr with
      | there _ hr => exact ih _ hr

theorem acc_replied (ps : List (Program S α)) :
    Acc (fun ps' ps : List (Program S α) => Replied ps ps') ps := by
  induction ps with
  | nil => exact ⟨_, fun _ h => nomatch h⟩
  | cons p ps ih => exact acc_replied_cons p ih

theorem terminates (E : Environment S σ) :
    WellFounded fun t' t : Crowd S α σ => Step E t t' := by
  have hlists : WellFounded fun ps' ps : List (Program S α) => Replied ps ps' := ⟨acc_replied⟩
  refine Subrelation.wf (fun {t' t} h => ?_) (InvImage.wf programs hlists)
  cases h with
  | answered hr => exact replied_append _ _ _ _ _

theorem Step.length_eq {E : Environment S σ} {t t' : Crowd S α σ} (h : t.Step E t') :
    t'.programs.length = t.programs.length := by
  cases h with
  | answered _ => rw [List.length_append, List.length_append, List.length_cons, List.length_cons]

theorem Reaches.length_eq {E : Environment S σ} {t t' : Crowd S α σ} (h : t.Reaches E t') :
    t'.programs.length = t.programs.length := by
  induction h with
  | refl => rfl
  | tail _ hs ih => exact hs.length_eq.trans ih

/-- Of two programs either can be the next. -/
theorem Step.pair {E : Environment S σ} {p q : Program S α} {s : σ} {t : Crowd S α σ}
    (h : Step E ⟨[p, q], s⟩ t) :
    (∃ c next r s', p = .request c next ∧ E.Answers c s r s' ∧ t = ⟨[next r, q], s'⟩) ∨
      ∃ c next r s', q = .request c next ∧ E.Answers c s r s' ∧ t = ⟨[p, next r], s'⟩ := by
  generalize hstart : (⟨[p, q], s⟩ : Crowd S α σ) = start at h
  cases h with
  | @answered before after c next s₀ s' r hr =>
    obtain ⟨hprograms, rfl⟩ := Crowd.mk.inj hstart
    match before, hprograms with
    | [], hprograms =>
      obtain ⟨rfl, rfl⟩ := List.cons.inj hprograms
      exact .inl ⟨c, next, r, s', rfl, hr, rfl⟩
    | [b], hprograms =>
      obtain ⟨rfl, hrest⟩ := List.cons.inj hprograms
      obtain ⟨rfl, rfl⟩ := List.cons.inj hrest
      exact .inr ⟨c, next, r, s', rfl, hr, rfl⟩
    | b :: b' :: rest, hprograms => simp at hprograms

/-- One of the programs may go on to its end while the others wait. -/
theorem reaches_of_run {E : Environment S σ} {answer : (c : S.Call) → σ → S.Reply c × σ}
    (hE : ∀ c s, E.Answers c s (answer c s).1 (answer c s).2) {p : Program S α} {a : α} {s s' : σ}
    (h : p.run answer s = (some a, s')) (before after : List (Program S α)) :
    Reaches E ⟨before ++ p :: after, s⟩ ⟨before ++ .pure a :: after, s'⟩ := by
  induction p generalizing s with
  | pure b =>
    cases h
    exact .refl
  | request c next ih => exact .head (.answered (hE c s)) (ih _ h)
  | unfinished => cases h

end Crowd

namespace Memory

open Regime Discipline

variable {g : Regime} {α : Type}

/-- What holds of a pass still holds after others have moved the stores on. -/
theorem Regime.meets_moves {p : Program (Engine Cloud) α} {post : α → Stores → Prop}
    {s s' : Stores} (hpost : ∀ {a s s'}, g.Moves s s' → post a s → post a s') (hm : g.Moves s s')
    (h : p.Meets g.environment.engine post s) : p.Meets g.environment.engine post s' := by
  induction p generalizing s s' with
  | pure a => exact hpost hm h
  | unfinished => exact h
  | request c next ih =>
    cases c with
    | call x =>
      refine ⟨fun s₁ hm₁ => h.1 s₁ (g.trans hm hm₁), fun r s₂ hr => h.2 r s₂ ?_⟩
      obtain ⟨s₁, hm₁, ha⟩ := hr
      exact ⟨s₁, g.trans hm hm₁, ha⟩
    | patience =>
      constructor
      · exact h.1
      · intro n s₂ hr
        obtain ⟨rfl, hn⟩ := hr
        exact ih n hm (h.2 n s ⟨rfl, hn⟩)
    | nextDelay turn => exact ⟨h.1, fun r s₂ hr => hr ▸ ih r hm (h.2 r s rfl)⟩
    | sleep d => exact ⟨h.1, fun r s₂ hr => hr ▸ ih r hm (h.2 r s rfl)⟩
    | report m => exact ⟨h.1, fun r s₂ hr => hr ▸ ih r hm (h.2 r s rfl)⟩

/-- What a pass asks for next is no pause, so nothing is retried, and if it is a
deletion, nothing is in its way. -/
def Undisturbed (s : Stores) : Engine.Call Cloud → Prop
  | .call x => s.Clear x
  | .nextDelay _ | .sleep _ => False
  | _ => True

variable {F : Stores → Prop} {start t t' : Crowd (Engine Cloud) (Except Error Unit) Stores}

structure Underway (g : Regime) (F : Stores → Prop) (s : Stores)
    (t : Crowd (Engine Cloud) (Except Error Unit) Stores) : Prop where
  moves : g.Moves s t.state
  passes : ∀ p ∈ t.programs, p.Meets g.environment.engine (Outcome False fun _ => F) t.state

theorem Underway.step {s : Stores} (hF : ∀ {s s'}, g.Moves s s' → F s → F s')
    (h : Underway g F s t) (hs : t.Step (unreliable g.conduct g.tampered).engine t') :
    Underway g F s t' := by
  have hpost : ∀ {r : Except Error Unit} {s s' : Stores}, g.Moves s s' →
      Outcome False (fun _ => F) r s → Outcome False (fun _ => F) r s' := by
    rintro (e | a) s s' hm h
    · exact h
    · exact hF hm h
  cases hs with
  | @answered before after c next s₀ s₁ r hr =>
    have hactive := h.passes (.request c next) (List.mem_append_right _ List.mem_cons_self)
    have hr := answers_of_unreliable hr
    have hm : g.Moves s₀ s₁ := moves_of_engine hactive.1 hr
    constructor
    · exact g.trans h.moves hm
    · intro p hp
      rcases List.mem_append.mp hp with hp | hp
      · exact meets_moves hpost hm (h.passes p (List.mem_append_left _ hp))
      · rcases List.mem_cons.mp hp with rfl | hp
        · exact hactive.2 r s₁ hr
        · exact meets_moves hpost hm
            (h.passes p (List.mem_append_right _ (List.mem_cons_of_mem _ hp)))

theorem Underway.reaches {s : Stores} (hF : ∀ {s s'}, g.Moves s s' → F s → F s')
    (h : Underway g F s start) (hr : start.Reaches (unreliable g.conduct g.tampered).engine t) :
    Underway g F s t := by
  induction hr with
  | refl => exact h
  | tail _ hs ih => exact ih.step hF hs

/-- Without tampering no pass is disturbed. -/
theorem Underway.undisturbed {s : Stores} (hg : ∀ x, ¬g.tampered x) (h : Underway g F s t)
    {c : Engine.Call Cloud} {next : Engine.Reply c → Program (Engine Cloud) (Except Error Unit)}
    (hp : .request c next ∈ t.programs) : Undisturbed t.state c := by
  have hc := (h.passes _ hp).1
  cases c with
  | call x => exact (hc t.state (g.refl _)).2
  | nextDelay _ => exact hc.elim hg
  | sleep _ => exact hc.elim hg
  | _ => trivial

/-- A crowd that cannot go on is one whose passes have all succeeded. -/
theorem Underway.done {s : Stores} (hg : ∀ x, ¬g.tampered x) (h : Underway g F s t)
    (hstuck : ∀ t', ¬t.Step (unreliable g.conduct g.tampered).engine t') :
    ∀ p ∈ t.programs, p = .pure (.ok ()) ∧ F t.state := by
  intro p hp
  have hm := h.passes p hp
  cases p with
  | pure r =>
    cases r with
    | ok _ => exact ⟨rfl, hm⟩
    | error e => exact hm.elim
  | unfinished => exact (hm.elim hg).elim
  | request c next =>
    have hanswer : ∃ r s', (unreliable g.conduct g.tampered).engine.Answers c t.state r s' := by
      cases c with
      | call x => exact ⟨_, _, Answered.truthful⟩
      | patience => exact ⟨(1 : Nat), t.state, rfl, .inr Nat.one_pos⟩
      | nextDelay turn => exact ⟨(none : Option Duration), t.state, rfl⟩
      | sleep d => exact ⟨(), t.state, rfl⟩
      | report m => exact ⟨(), t.state, rfl⟩
    obtain ⟨before, after, hsplit⟩ := List.append_of_mem hp
    obtain ⟨r, s', hr⟩ := hanswer
    have hstep : Crowd.Step (unreliable g.conduct g.tampered).engine
        ⟨before ++ .request c next :: after, t.state⟩ ⟨before ++ next r :: after, s'⟩ :=
      .answered hr
    rw [← hsplit] at hstep
    exact (hstuck _ hstep).elim

/-- Passes that would each succeed on their own do not disturb each other. -/
theorem Regime.interleaved {p : Program (Engine Cloud) (Except Error Unit)} {s : Stores} {n : Nat}
    (hg : ∀ x, ¬g.tampered x) (hF : ∀ {s s'}, g.Moves s s' → F s → F s')
    (h : g.Reaches False p F s) (hn : 0 < n)
    (hr : Crowd.Reaches (unreliable g.conduct g.tampered).engine ⟨List.replicate n p, s⟩ t) :
    (∀ c next, .request c next ∈ t.programs → Undisturbed t.state c) ∧ g.Moves s t.state ∧
      ((∀ t', ¬t.Step (unreliable g.conduct g.tampered).engine t') →
        t.programs = List.replicate n (.pure (.ok ())) ∧ F t.state) := by
  have hstart : Underway g F s ⟨List.replicate n p, s⟩ := by
    constructor
    · exact g.refl s
    · intro q hq
      rw [List.eq_of_mem_replicate hq]
      exact Program.Meets.mono h fun _ _ hr => hr.2
  have hunder := hstart.reaches hF hr
  refine ⟨fun c next hp => hunder.undisturbed hg hp, hunder.moves, fun hstuck => ?_⟩
  have hlength : t.programs.length = n := by
    rw [hr.length_eq, List.length_replicate]
  have hdone := hunder.done hg hstuck
  refine ⟨List.eq_replicate_iff.mpr ⟨hlength, fun q hq => (hdone q hq).1⟩, ?_⟩
  obtain ⟨q, hq⟩ := List.exists_mem_of_length_pos (hlength ▸ hn)
  exact (hdone q hq).2

end Memory

end ClusterKeeper
