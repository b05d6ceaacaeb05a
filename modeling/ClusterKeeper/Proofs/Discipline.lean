import ClusterKeeper.Cloud.Call
import ClusterKeeper.Proofs.PassRules

/-!
# Disciplines

An environment together with the ways in which its state can move on. Rules
say what an action does under a discipline from what its parts do.
-/

set_option autoImplicit false

namespace ClusterKeeper

def Outcome {ε α σ : Type} (P : Prop) (F : α → σ → Prop) : Except ε α → σ → Prop
  | .ok a, s => F a s
  | .error _, _ => P

theorem Outcome.of_ok {ε α σ : Type} {P : Prop} {F : α → σ → Prop} {r : Except ε α} {a : α} {s : σ}
    (hr : r = .ok a) (h : F a s) : Outcome P F r s := hr ▸ h

theorem Outcome.excuse {ε α σ : Type} {P : Prop} {F : α → σ → Prop} {r : Except ε α} {s : σ}
    (h : Outcome P F r s) (hr : r.isOk = false) : P := by
  cases r with
  | ok a => cases hr
  | error e => exact h

structure Discipline (σ : Type) where
  environment : Environment Cloud σ
  Moves : σ → σ → Prop
  refl : ∀ s, Moves s s
  trans : ∀ {s₁ s₂ s₃}, Moves s₁ s₂ → Moves s₂ s₃ → Moves s₁ s₃

namespace Discipline

variable {σ α β : Type}

def Ensures (d : Discipline σ) (P : Prop) (a : Action Cloud α) (F : α → σ → Prop)
    (c : Cancellation) (s : σ) : Prop :=
  a.Meets d.environment (fun r _ s' => d.Moves s s' ∧ Outcome P F r s') c s

def Does (d : Discipline σ) (P : Prop) (a : Action Cloud α) (F : α → σ → Prop)
    (c : Cancellation) (s : σ) : Prop :=
  a.Meets d.environment (fun r c' s' => c' = c ∧ d.Moves s s' ∧ Outcome P F r s') c s

variable {d : Discipline σ} {P Q : Prop} {c : Cancellation} {s s' : σ} {x : Cloud.Call}

theorem Does.mono {a : Action Cloud α} {F G : α → σ → Prop} (h : d.Does P a F c s)
    (hP : P → Q) (hF : ∀ a s', d.Moves s s' → F a s' → G a s') : d.Does Q a G c s := by
  apply Action.Meets.mono h
  rintro (e | a) c' s' ⟨hc, hm, h⟩
  · exact ⟨hc, hm, hP h⟩
  · exact ⟨hc, hm, hF a s' hm h⟩

theorem Does.imp {a : Action Cloud α} {F G : α → σ → Prop} (h : d.Does P a F c s)
    (hF : ∀ a s', d.Moves s s' → F a s' → G a s') : d.Does P a G c s := h.mono id hF

theorem Does.pure {a : α} {F : α → σ → Prop} (h : F a s) :
    d.Does P (Pure.pure a) F c s := ⟨rfl, d.refl s, h⟩

theorem Does.throw {e : Error} {F : α → σ → Prop} (h : P) :
    d.Does P (MonadExcept.throw e) F c s := ⟨rfl, d.refl s, h⟩

theorem Does.bind {a : Action Cloud β} {f : β → Action Cloud α} {F : β → σ → Prop}
    {G : α → σ → Prop} (h : d.Does P a F c s)
    (hf : ∀ b s', d.Moves s s' → F b s' → d.Does P (f b) G c s') :
    d.Does P (a >>= f) G c s := by
  refine (Action.meets_bind _ _).2 (Action.Meets.mono h ?_)
  rintro (e | b) _ s₁ ⟨rfl, hm, h⟩
  · exact ⟨rfl, hm, h⟩
  · rw [Action.onward_ok]
    apply Action.Meets.mono (hf b s₁ hm h)
    rintro r _ s₂ ⟨rfl, hm', h⟩
    exact ⟨rfl, d.trans hm hm', h⟩

theorem Does.except {r : Except Error α} {F : α → σ → Prop} (h : Outcome P F r s) :
    d.Does P (liftM r) F c s :=
  (Action.meets_except r).2 ⟨rfl, d.refl s, h⟩

theorem Does.orFail {message : String} {r : Except CloudError α} {F : α → σ → Prop}
    (h : Outcome P F r s) : d.Does P (Cloud.orFail message r) F c s := by
  cases r with
  | ok a => exact .pure h
  | error e => exact .throw h

theorem Does.unlessCanceled {a : Action Cloud Unit} {F : Unit → σ → Prop}
    (hc : c.skipsResource = false) (h : d.Does P a F c s) :
    d.Does P (Action.unlessCanceled a) F c s := by
  apply (Action.meets_unlessCanceled _ _).2
  rwa [hc, if_neg Bool.false_ne_true]

theorem Does.call {F : Except x.Fault x.Value → σ → Prop} (hx : d.environment.Takes x s)
    (h : ∀ r s', d.environment.Answers x s r s' → d.Moves s s' ∧ F r s') :
    d.Does P (Action.call (S := Cloud) x) F c s :=
  (Action.meets_call _ _).2 ⟨hx, fun r s' hr => ⟨rfl, h r s' hr⟩⟩

/-- A call of a program that is part of an action. -/
theorem Does.called {F : Except x.Fault x.Value → σ → Prop}
    (h : d.Does P (Action.call (S := Cloud) x) F c s) :
    (Engine.call (S := Cloud) x).Meets d.environment.engine
      (fun r s' => d.Moves s s' ∧ F r s') s :=
  Program.Meets.mono ((Action.meets_lift _).1 h) fun _ _ hr => hr.2

/-- What holds of the elements still to come is worked off one by one. -/
theorem Does.forM {f : β → Action Cloud PUnit} {I : List β → σ → Prop} (l : List β)
    (h : ∀ b rest s, I (b :: rest) s → d.Does P (f b) (fun _ => I rest) c s) (hI : I l s) :
    d.Does P (l.forM f) (fun _ => I []) c s := by
  induction l generalizing s with
  | nil => exact .pure hI
  | cons b rest ih => exact .bind (h b rest s hI) fun _ _ _ hI => ih hI

theorem Does.result {a : Action Cloud α} {F : α → σ → Prop} (h : d.Does P a F c s) :
    d.Does Q a.result (fun r s' => Outcome P F r s') c s :=
  (Action.meets_result _ _).2 (Action.Meets.mono h fun _ _ _ hr => hr)

/-- A program can be repeated if it can start wherever it may have left off. -/
theorem Does.retry {ε : Type} {policy : RetryPolicy}
    {step : Program (Engine Cloud) (Except ε α)} {F : α → σ → Prop}
    (hP : P → d.environment.repeats)
    (h : ∀ s', d.Moves s s' → step.Meets d.environment.engine
      (fun r s'' => d.Moves s' s'' ∧ Outcome P F r s'') s') :
    d.Does Q (liftM (policy.retry step) : Action Cloud (Except ε α))
      (fun r s' => Outcome P F r s') c s := by
  have hretry := policy.retry_meets (I := d.Moves s)
    (F := fun r s' => d.Moves s s' ∧ Outcome P F r s') (fun s₁ hm => by
      apply Program.Meets.mono (h s₁ hm)
      rintro r s₂ ⟨hm', hr⟩
      have hm₂ := d.trans hm hm'
      exact ⟨⟨hm₂, hr⟩, fun hf => ⟨hm₂, hP (hr.excuse hf)⟩⟩) s (d.refl s)
  exact (Action.meets_lift _).2 (hretry.mono fun r s' hr => ⟨rfl, hr.1, hr.2⟩)

/-- And so can an action. -/
theorem Does.retrying {policy : RetryPolicy} {resource : String} {o : Operation}
    {a : Action Cloud α} {F : α → σ → Prop} (hP : P → d.environment.repeats)
    (h : ∀ s', d.Moves s s' → d.Does P a F c s') :
    d.Does P ((Middleware.retrying policy).around resource o a) F c s := by
  refine Middleware.retrying_meets policy resource o (I := fun c' s' => c' = c ∧ d.Moves s s') ?_
    ⟨rfl, d.refl s⟩
  rintro _ s₁ ⟨rfl, hm⟩
  apply Action.Meets.mono (h s₁ hm)
  rintro (e | a) _ s₂ ⟨rfl, hm', h⟩
  · exact ⟨⟨rfl, d.trans hm hm', h⟩, fun _ => ⟨⟨rfl, d.trans hm hm'⟩, hP h⟩⟩
  · exact ⟨⟨rfl, d.trans hm hm', h⟩, nofun⟩

/-- What the middleware of the operator makes of a change. -/
theorem Does.change (policy : RetryPolicy) {project resource : String} (o : Operation)
    {a : Action Cloud α} {F : α → σ → Prop} (hP : P → d.environment.repeats)
    (h : ∀ s', d.Moves s s' → d.Does P a F c s') :
    d.Does P ((Middleware.measuring project).around resource o
      ((Middleware.retrying policy).around resource o a)) F c s :=
  (Middleware.meets_measuring project resource o _).2 (Does.retrying hP h)

/-- And of an observation. -/
theorem Does.observation (policy : RetryPolicy) {project resource : String} (o : Operation)
    (ho : o.mutates = false) {a : Action Cloud α} {F : α → σ → Prop} (h : d.Does P a F c s) :
    d.Does P ((Middleware.measuring project).around resource o
      ((Middleware.retrying policy).around resource o a)) F c s := by
  rw [Middleware.meets_retrying_of_reading policy resource a ho]
  exact (Middleware.meets_measuring project resource o a).2 h

def Allows (d : Discipline σ) (a : Action Cloud α) (Q : α → Prop) (s : σ) : Prop :=
  ∀ c s', d.Moves s s' → d.Does True a (fun b _ => Q b) c s'

namespace Allows

variable {a : Action Cloud α} {Q Q' : α → Prop} {R : β → Prop}

theorem does {F : α → σ → Prop} (ha : d.Allows a Q s)
    (hF : ∀ b s', d.Moves s s' → Q b → F b s') : d.Does True a F c s :=
  (ha c s (d.refl s)).imp hF

theorem imp (ha : d.Allows a Q s) (hQ : ∀ b, Q b → Q' b) : d.Allows a Q' s :=
  fun c s₁ hm => (ha c s₁ hm).imp fun b _ _ => hQ b

theorem pure {b : α} (h : Q b) : d.Allows (Pure.pure b) Q s := fun _ _ _ => .pure h

theorem throw (e : Error) : d.Allows (MonadExcept.throw e : Action Cloud α) Q s :=
  fun _ _ _ => .throw trivial

theorem orFail {message : String} {r : Except CloudError α} (h : ∀ b, r = .ok b → Q b) :
    d.Allows (Cloud.orFail message r) Q s := by
  cases r with
  | ok b => exact pure (h b rfl)
  | error e => exact throw _

theorem except {r : Except Error α} (h : ∀ b, r = .ok b → Q b) :
    d.Allows (liftM r : Action Cloud α) Q s := by
  cases r with
  | ok b => exact pure (h b rfl)
  | error e => exact throw e

theorem bind {a : Action Cloud β} {f : β → Action Cloud α} (ha : d.Allows a R s)
    (hf : ∀ b, R b → d.Allows (f b) Q s) : d.Allows (a >>= f) Q s := fun c s₁ hm =>
  .bind (ha c s₁ hm) fun b s₂ hm' h => hf b h c s₂ (d.trans hm hm')

theorem result (ha : d.Allows a Q s) :
    d.Allows a.result (fun r => ∀ b, r = .ok b → Q b) s := fun c s₁ hm =>
  (ha c s₁ hm).result.imp fun r _ _ h b hr => by subst hr; exact h

theorem forM {f : β → Action Cloud PUnit} (l : List β)
    (hf : ∀ b ∈ l, d.Allows (f b) (fun _ => True) s) :
    d.Allows (l.forM f) (fun _ => True) s := by
  induction l with
  | nil => exact pure trivial
  | cons b rest ih =>
    exact bind (hf b List.mem_cons_self) fun _ _ => ih fun b hb => hf b (List.mem_cons_of_mem _ hb)

theorem retry {ε : Type} {policy : RetryPolicy} {f : Except x.Fault x.Value → Except ε α}
    {R : Except x.Fault x.Value → Prop} (hrepeats : d.environment.repeats)
    (hx : d.Allows (Action.call (S := Cloud) x) R s) :
    d.Allows (liftM (policy.retry ((Engine.call (S := Cloud) x).bind fun r => .pure (f r))) :
      Action Cloud (Except ε α)) (fun _ => True) s := by
  intro c s₁ hm
  refine (Does.retry (P := True) (F := fun _ _ => True) (fun _ => hrepeats) fun s₂ hm₂ => ?_).imp
    fun _ _ _ _ => trivial
  refine (Program.meets_bind _ _ _ _).2 (Program.Meets.mono
    (Does.called (hx c s₂ (d.trans hm hm₂))) fun r s₃ hr => ⟨hr.1, ?_⟩)
  cases f r <;> trivial

/-- Around an operation it is retried and measured. -/
theorem managed (policy : RetryPolicy) (o : Operation) {project resource : String}
    (hrepeats : d.environment.repeats) (ha : d.Allows a Q s) :
    d.Allows ((Middleware.measuring project).around resource o
      ((Middleware.retrying policy).around resource o a)) Q s := fun c _ hm =>
  .change policy o (fun _ => hrepeats) fun s₂ hm₂ => ha c s₂ (d.trans hm hm₂)

theorem unlessCanceled {a : Action Cloud Unit} (ha : d.Allows a (fun _ => True) s) :
    d.Allows (Action.unlessCanceled a) (fun _ => True) s := by
  intro c s₁ hm
  apply (Action.meets_unlessCanceled _ _).2
  split
  · exact pure trivial c s₁ hm
  · exact ha c s₁ hm

theorem applyIfPresent {change : Option β} {apply : β → Action Cloud Unit}
    {rest : Action Cloud Unit} (ha : ∀ b, change = some b → d.Allows (apply b) (fun _ => True) s)
    (hr : d.Allows rest (fun _ => True) s) :
    d.Allows (CrudResource.applyIfPresent change apply rest) (fun _ => True) s := by
  cases change with
  | none => exact hr
  | some b => exact bind (ha b rfl) fun _ _ => unlessCanceled hr

end Allows

end Discipline

end ClusterKeeper
