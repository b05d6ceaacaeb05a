import ClusterKeeper.Program

/-!
# Environments of programs

An environment says which calls it takes in which state and how it may answer
them. What is shown of a program against an environment holds of every way in
which the calls can be answered, those of a program left off halfway included.
-/

set_option autoImplicit false

namespace ClusterKeeper

structure Environment (S : Signature) (σ : Type) where
  Takes : S.Call → σ → Prop
  Answers : (c : S.Call) → σ → S.Reply c → σ → Prop
  repeats : Prop

namespace Program

variable {S : Signature} {α β σ : Type} {E E' : Environment S σ}

def Meets (E : Environment S σ) : Program S α → (α → σ → Prop) → σ → Prop
  | .pure a, post, s => post a s
  | .request c next, post, s =>
    E.Takes c s ∧ ∀ r s', E.Answers c s r s' → (next r).Meets E post s'
  | .unfinished, _, _ => E.repeats

theorem Meets.mono {p : Program S α} {post post' : α → σ → Prop} {s : σ}
    (h : p.Meets E post s) (hp : ∀ a s, post a s → post' a s) : p.Meets E post' s := by
  induction p generalizing s with
  | pure a => exact hp a s h
  | request c next ih => exact ⟨h.1, fun r s' hr => ih r (h.2 r s' hr)⟩
  | unfinished => exact h

/-- An environment that takes more and answers alike meets the program just as
well, and what every call keeps is kept. -/
theorem Meets.widen {p : Program S α} {post : α → σ → Prop} {I : σ → Prop} {s : σ}
    (h : p.Meets E post s) (hI : I s) (hrepeats : E.repeats → E'.repeats)
    (takes : ∀ c s, I s → E.Takes c s → E'.Takes c s)
    (answers : ∀ c s r s', E'.Answers c s r s' → E.Answers c s r s')
    (keep : ∀ c s r s', I s → E.Takes c s → E.Answers c s r s' → I s') :
    p.Meets E' (fun a s => post a s ∧ I s) s := by
  induction p generalizing s with
  | pure a => exact ⟨h, hI⟩
  | request c next ih =>
    refine ⟨takes c s hI h.1, fun r s' hr => ?_⟩
    have hr := answers c s r s' hr
    exact ih r (h.2 r s' hr) (keep c s r s' hI h.1 hr)
  | unfinished => exact hrepeats h

theorem meets_bind (p : Program S α) (f : α → Program S β) (post : β → σ → Prop) (s : σ) :
    (p.bind f).Meets E post s ↔ p.Meets E (fun a s => (f a).Meets E post s) s := by
  induction p generalizing s with
  | pure a => rfl
  | request c next ih => simp only [bind, Meets, ih]
  | unfinished => rfl

theorem meets_ask (c : S.Call) (post : S.Reply c → σ → Prop) (s : σ) :
    (ask c).Meets E post s ↔
      E.Takes c s ∧ ∀ r s', E.Answers c s r s' → post r s' := Iff.rfl

inductive Leads (E : Environment S σ) : Program S α → σ → Option α → σ → Prop where
  | ended (a : α) (s : σ) : Leads E (.pure a) s (some a) s
  | left (p : Program S α) (s : σ) : Leads E p s none s
  | answered {c : S.Call} {next : S.Reply c → Program S α} {s s' s'' : σ} {r : S.Reply c}
      {o : Option α} (hr : E.Answers c s r s') (h : Leads E (next r) s' o s'') :
      Leads E (.request c next) s o s''

theorem Leads.mono {p : Program S α} {s s' : σ} {o : Option α} (h : Leads E p s o s')
    (hE : ∀ c s r s', E.Answers c s r s' → E'.Answers c s r s') : Leads E' p s o s' := by
  induction h with
  | ended a s => exact .ended a s
  | left p s => exact .left p s
  | answered hr _ ih => exact .answered (hE _ _ _ _ hr) ih

theorem Meets.of_leads {p : Program S α} {post : α → σ → Prop} {s s' : σ} {a : α}
    (h : p.Meets E post s) (hl : Leads E p s (some a) s') : post a s' := by
  generalize ho : some a = o at hl
  induction hl with
  | ended b s => cases ho; exact h
  | left p s => cases ho
  | answered hr _ ih => exact ih (h.2 _ _ hr) ho

/-- A relation that every taken call keeps holds between the first state and
any later one. -/
theorem Meets.keeps {R : σ → σ → Prop} {p : Program S α} {post : α → σ → Prop} {s s' : σ}
    {o : Option α} (refl : ∀ s, R s s) (trans : ∀ {a b c}, R a b → R b c → R a c)
    (keep : ∀ c s r s', E.Takes c s → E.Answers c s r s' → R s s')
    (h : p.Meets E post s) (hl : Leads E p s o s') : R s s' := by
  induction hl with
  | ended a s => exact refl s
  | left p s => exact refl s
  | answered hr _ ih => exact trans (keep _ _ _ _ h.1 hr) (ih (h.2 _ _ hr))

/-- Answering from a state is one way of answering. -/
theorem Meets.run {p : Program S α} {post : α → σ → Prop} {s : σ}
    (answer : (c : S.Call) → σ → S.Reply c × σ) (h : p.Meets E post s) (hE : ¬E.repeats)
    (ha : ∀ c s, E.Takes c s → E.Answers c s (answer c s).1 (answer c s).2) :
    ∃ a s', p.run answer s = (some a, s') ∧ post a s' := by
  induction p generalizing s with
  | pure a => exact ⟨a, s, rfl, h⟩
  | request c next ih => exact ih _ (h.2 _ _ (ha c s h.1))
  | unfinished => exact absurd h hE

/-- What comes of answering from a state that shows `f` of itself. -/
theorem Leads.of_run {τ : Type} (f : τ → σ) (answer : (c : S.Call) → τ → S.Reply c × τ)
    (ha : ∀ c t, E.Answers c (f t) (answer c t).1 (f (answer c t).2)) (p : Program S α) (t : τ) :
    p.Leads E (f t) (p.run answer t).1 (f (p.run answer t).2) := by
  induction p generalizing t with
  | pure a => exact .ended a (f t)
  | request c next ih => exact .answered (ha c t) (ih (answer c t).1 (answer c t).2)
  | unfinished => exact .left _ (f t)

end Program

inductive Rounds {S : Signature} {α σ : Type} (E : Environment S σ) (p : Program S α) (s : σ) :
    List (Option α) → σ → Prop where
  | start : Rounds E p s [] s
  | another {os : List (Option α)} {o : Option α} {s' s'' : σ} (h : Rounds E p s os s')
      (hp : p.Leads E s' o s'') : Rounds E p s (os ++ [o]) s''

end ClusterKeeper
