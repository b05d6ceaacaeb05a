import ClusterKeeper.Proofs.ResourceRules

/-!
# Programs that agree

Two programs agree if they ask for the same, whatever is answered, until they
end alike or come to where they may part.
-/

set_option autoImplicit false

namespace ClusterKeeper

namespace Program

variable {S : Signature} {α β σ τ : Type} {E E' : Environment S σ} {Q Q' : σ → Prop}

inductive Agrees (E : Environment S σ) (Q : σ → Prop) : Program S α → Program S α → σ → Prop where
  | same (p : Program S α) (s : σ) : Agrees E Q p p s
  | parted (p q : Program S α) {s : σ} (h : Q s) : Agrees E Q p q s
  | asked {c : S.Call} {next next' : S.Reply c → Program S α} {s : σ}
      (h : ∀ r s', E.Answers c s r s' → Agrees E Q (next r) (next' r) s') :
      Agrees E Q (.request c next) (.request c next') s

theorem Agrees.mono {p q : Program S α} {s : σ} (h : Agrees E Q p q s)
    (hE : ∀ c s r s', E'.Answers c s r s' → E.Answers c s r s') (hQ : ∀ s, Q s → Q' s) :
    Agrees E' Q' p q s := by
  induction h with
  | same p s => exact .same p s
  | parted p q h => exact .parted p q (hQ _ h)
  | asked _ ih => exact .asked fun r s' hr => ih r s' (hE _ _ _ _ hr)

theorem Agrees.bind {p q : Program S β} {s : σ} (h : Agrees E Q p q s) (f : β → Program S α) :
    Agrees E Q (p.bind f) (q.bind f) s := by
  induction h with
  | same p s => exact .same _ s
  | parted p q h => exact .parted _ _ h
  | asked _ ih => exact .asked ih

/-- One program followed by two that agree wherever it ends. -/
theorem Meets.agrees {p : Program S β} {f g : β → Program S α} {s : σ}
    (h : p.Meets E (fun b s => Agrees E Q (f b) (g b) s) s) :
    Agrees E Q (p.bind f) (p.bind g) s := by
  induction p generalizing s with
  | pure b => exact h
  | request c next ih => exact .asked fun r s' hr => ih r (h.2 r s' hr)
  | unfinished => exact .same _ s

variable {R : σ → σ → Prop}

theorem run_keeps {answer : (c : S.Call) → τ → S.Reply c × τ} {view : τ → σ}
    (refl : ∀ s, R s s) (trans : ∀ {a b c}, R a b → R b c → R a c)
    (keep : ∀ c t, R (view t) (view (answer c t).2)) (p : Program S α) (t : τ) :
    R (view t) (view (p.run answer t).2) := by
  induction p generalizing t with
  | pure a => exact refl _
  | request c next ih => exact trans (keep c t) (ih _ _)
  | unfinished => exact refl _

/-- What is seen of two runs that are answered alike is the same, or it is the
same up to where the programs may part. -/
theorem Agrees.run (answer : (c : S.Call) → τ → S.Reply c × τ) (view : τ → σ) {p q : Program S α}
    {s : σ} (h : Agrees E Q p q s) (refl : ∀ s, R s s)
    (trans : ∀ {a b c}, R a b → R b c → R a c) (keep : ∀ c t, R (view t) (view (answer c t).2))
    (hE : ∀ c t, E.Answers c (view t) (answer c t).1 (view (answer c t).2)) (t : τ)
    (ht : view t = s) :
    p.run answer t = q.run answer t ∨
      ∃ s', Q s' ∧ R s' (view (p.run answer t).2) ∧ R s' (view (q.run answer t).2) := by
  induction h generalizing t with
  | same p s => exact .inl rfl
  | parted p q h =>
    subst ht
    exact .inr ⟨_, h, run_keeps refl trans keep p t, run_keeps refl trans keep q t⟩
  | asked _ ih =>
    subst ht
    exact ih _ _ (hE _ t) _ rfl

end Program

namespace Action

variable {S : Signature} {α β σ : Type} {E : Environment S σ} {Q : σ → Prop} {c : Cancellation}
  {s : σ}

def Agrees (E : Environment S σ) (Q : σ → Prop) (a b : Action S α) (c : Cancellation) (s : σ) :
    Prop :=
  (a.run c).Agrees E.engine Q (b.run c) s

theorem Agrees.bind {a b : Action S β} (h : Agrees E Q a b c s) (f : β → Action S α) :
    Agrees E Q (a >>= f) (b >>= f) c s := by
  unfold Agrees
  rw [run_bind, run_bind]
  exact Program.Agrees.bind h _

theorem Meets.agrees {a : Action S β} {f g : β → Action S α}
    (h : a.Meets E
      (Onward (fun b => Agrees E Q (f b) (g b)) fun (_ : Except Error Unit) _ _ => True) c s) :
    Agrees E Q (a >>= f) (a >>= g) c s := by
  unfold Agrees
  rw [run_bind, run_bind]
  refine Program.Meets.agrees (Program.Meets.mono h ?_)
  rintro ⟨e | b, c⟩ s h
  · exact .same _ s
  · exact h

theorem Agrees.of_eq {a b : Action S α} (h : a = b) : Agrees E Q a b c s := h ▸ .same _ s

theorem Agrees.unlessCanceled {a b : Action S Unit} (h : Agrees E Q a b c s) :
    Agrees E Q (Action.unlessCanceled a) (Action.unlessCanceled b) c s := by
  refine Meets.agrees ((meets_get _).2 ?_)
  rw [onward_ok]
  split
  · exact .of_eq rfl
  · exact h

end Action

namespace Discipline

variable {σ K α β : Type} {d : Discipline σ} {P : Prop} {Q : σ → Prop} {c : Cancellation} {s : σ}

theorem Does.agrees {a : Action Cloud β} {f g : β → Action Cloud α} {F : β → σ → Prop}
    (h : d.Does P a F c s)
    (hf : ∀ b s', d.Moves s s' → F b s' → Action.Agrees d.environment Q (f b) (g b) c s') :
    Action.Agrees d.environment Q (a >>= f) (a >>= g) c s := by
  refine Action.Meets.agrees (Action.Meets.mono h ?_)
  rintro (e | b) _ s' ⟨rfl, hm, h⟩
  · exact trivial
  · exact hf b s' hm h

variable {r : CrudResource Cloud K} {context context' : PassContext} {object : K}
  {policy : RetryPolicy} {project : String}

theorem agrees_withStates {rest rest' : r.State → r.State → Action Cloud Unit}
    {C : r.State → σ → Prop} {D : r.State → r.State → σ → Prop}
    (hcurrent : d.Does P (r.currentState context object) C c s)
    (hdesired : ∀ current s', d.Moves s s' → C current s' →
      d.Does P (r.desiredState context object) (D current) c s')
    (hrest : ∀ current desired s', d.Moves s s' → D current desired s' →
      Action.Agrees d.environment Q (rest current desired) (rest' current desired) c s') :
    Action.Agrees d.environment Q ((r.managed policy project).withStates context object rest)
      ((r.managed policy project).withStates context object rest') c s := by
  apply Does.agrees (.observation policy .getCurrentState rfl hcurrent)
  intro current s₁ hm₁ h₁
  refine .unlessCanceled (Does.agrees
    (.observation policy .getDesiredState rfl (hdesired current s₁ hm₁ h₁)) ?_)
  intro desired s₂ hm₂ h₂
  exact .unlessCanceled (hrest current desired s₂ (d.trans hm₁ hm₂) h₂)

variable {direction : Direction} {resource : Resource Cloud K} {rest : List (Resource Cloud K)}

/-- The first resource does the same in both contexts. -/
theorem agrees_runResources_cons {F : Unit → σ → Prop}
    (hsame : resource.ensure direction context' object = resource.ensure direction context object)
    (h : d.Does P (resource.ensure direction context object) F .none s)
    (hrest : ∀ s', d.Moves s s' → F () s' → Action.Agrees d.environment Q
      (runResources direction context object rest) (runResources direction context' object rest)
      .none s') :
    Action.Agrees d.environment Q (runResources direction context object (resource :: rest))
      (runResources direction context' object (resource :: rest)) .none s := by
  rw [runResources, runResources, hsame]
  refine Action.Meets.agrees ((Action.meets_modify _ _).2 ?_)
  rw [Action.onward_ok]
  exact Does.agrees h fun _ s' hm hF =>
    Action.Meets.agrees ((Action.meets_get _).2 (hrest s' hm hF))

/-- The first resource may part the two, the others do the same in both. -/
theorem agrees_runResources_head
    (hsame : runResources direction context' object rest =
      runResources direction context object rest)
    (h : Action.Agrees d.environment Q (resource.ensure direction context object)
      (resource.ensure direction context' object) .none s) :
    Action.Agrees d.environment Q (runResources direction context object (resource :: rest))
      (runResources direction context' object (resource :: rest)) .none s := by
  rw [runResources, runResources, hsame]
  refine Action.Meets.agrees ((Action.meets_modify _ _).2 ?_)
  rw [Action.onward_ok]
  exact Action.Agrees.bind h _

end Discipline

end ClusterKeeper
