import ClusterKeeper.Operator
import ClusterKeeper.Proofs.ResourceRules
import ClusterKeeper.Proofs.UnreliableCloud

/-!
# Stores shared by passes

Between any two calls of a pass others may have moved the stores on. What a
pass relies on the others to do is what it does itself.
-/

set_option autoImplicit false

namespace ClusterKeeper.Memory

structure Regime where
  conduct : Conduct
  tampered : Cloud.Call → Prop
  Moves : Stores → Stores → Prop
  refl : ∀ s, Moves s s
  trans : ∀ {s₁ s₂ s₃}, Moves s₁ s₂ → Moves s₂ s₃ → Moves s₁ s₃

namespace Regime

open Discipline

def Permits (g : Regime) (x : Cloud.Call) (s : Stores) : Prop :=
  ∀ s₁, g.Moves s s₁ → g.Moves s₁ (s₁.answer g.conduct x).2 ∧ s₁.Clear x

abbrev discipline (g : Regime) : Discipline Stores where
  environment := {
    Takes := g.Permits
    Answers := fun x s r s' => ∃ s₁, g.Moves s s₁ ∧ Answered g.conduct g.tampered x s₁ r s'
    repeats := ∃ x, g.tampered x }
  Moves := g.Moves
  refl := g.refl
  trans := g.trans

abbrev environment (g : Regime) : Environment Cloud Stores := g.discipline.environment

abbrev Does {α : Type} (g : Regime) (P : Prop) (a : Action Cloud α) (F : α → Stores → Prop)
    (c : Cancellation) (s : Stores) : Prop := g.discipline.Does P a F c s

abbrev Ensures {α : Type} (g : Regime) (P : Prop) (a : Action Cloud α) (F : α → Stores → Prop)
    (c : Cancellation) (s : Stores) : Prop := g.discipline.Ensures P a F c s

abbrev Reaches (g : Regime) (P : Prop) (p : Program (Engine Cloud) (Except Error Unit))
    (F : Stores → Prop) (s : Stores) : Prop := g.discipline.Reaches P p F s

variable {α : Type} {g : Regime} {P : Prop} {c : Cancellation} {s s' : Stores} {x : Cloud.Call}

theorem moves_of_answered {r : Except x.Fault x.Value} (h : g.environment.Answers x s r s')
    (hx : g.Permits x s) : g.Moves s s' := by
  obtain ⟨s₁, hm, h⟩ := h
  cases h with
  | truthful => exact g.trans hm (hx s₁ hm).1
  | lost _ _ => exact g.trans hm (hx s₁ hm).1
  | refused _ _ => exact hm

structure Serves {ε : Type} (g : Regime) (P : Prop) (x : Cloud.Call)
    (f : Except x.Fault x.Value → Except ε α) (F : α → Stores → Prop) (s : Stores) : Prop where
  moves : g.Moves s (s.answer g.conduct x).2
  clear : s.Clear x
  outcome : Outcome P F (f (s.answer g.conduct x).1) (s.answer g.conduct x).2

theorem Serves.of_answer {ε : Type} {f : Except x.Fault x.Value → Except ε α}
    {F : α → Stores → Prop} {r : Except x.Fault x.Value} (ha : s.answer g.conduct x = (r, s'))
    (hm : g.Moves s s') (hc : s.Clear x) (ho : Outcome P F (f r) s') : g.Serves P x f F s where
  moves := ha ▸ hm
  clear := hc
  outcome := ha ▸ ho

theorem Serves.of_unchanging {ε : Type} {f : Except x.Fault x.Value → Except ε α}
    {F : α → Stores → Prop} (hx : x.changes = false)
    (ho : Outcome P F (f (s.answer g.conduct x).1) s) : g.Serves P x f F s := by
  have hs := Stores.answer_of_unchanging hx g.conduct s
  refine ⟨?_, Stores.clear_of_unchanging hx s, ?_⟩
  · rw [hs]
    exact g.refl s
  · rw [hs]
    exact ho

/-- A truthful answer is as expected, and one that was tampered with is not taken
for success. -/
theorem Does.expect {ε : Type} (x : Cloud.Call) {f : Except x.Fault x.Value → Except ε α}
    {F : α → Stores → Prop} (h : ∀ s₁, g.Moves s s₁ → g.Serves P x f F s₁)
    (hf : (f (Cloud.failWith x .throttled)).isOk = false ∧
      ∀ service message, (f (Cloud.failWith x (.api service message))).isOk = false)
    (hP : g.tampered x → P) :
    g.Does P (Action.call (S := Cloud) x) (fun r s' => Outcome P F (f r) s') c s := by
  have hx : g.Permits x s := fun s₁ hm => ⟨(h s₁ hm).moves, (h s₁ hm).clear⟩
  have hlost : ∀ (e : CloudError) (s' : Stores), e.isTransient = true → P →
      Outcome P F (f (Cloud.failWith x e)) s' := by
    intro e s' he hP
    have hf : (f (Cloud.failWith x e)).isOk = false := by
      cases e with
      | throttled => exact hf.1
      | api service message => exact hf.2 service message
      | _ => cases he
    cases hr : f (Cloud.failWith x e) with
    | ok a => rw [hr] at hf; cases hf
    | error e' => exact hP
  refine .call hx fun r s' hr => ⟨moves_of_answered hr hx, ?_⟩
  obtain ⟨s₁, hm, ha⟩ := hr
  cases ha with
  | truthful => exact (h s₁ hm).outcome
  | lost ht he => exact hlost _ _ he (hP ht)
  | refused ht he => exact hlost _ _ he (hP ht)

/-- A call that fails the action unless the answer is as expected. -/
theorem Does.exchange {message : String} (x : Cloud.Call)
    {f : Except x.Fault x.Value → Except CloudError α} {F : α → Stores → Prop}
    (h : ∀ s₁, g.Moves s s₁ → g.Serves P x f F s₁)
    (hf : (f (Cloud.failWith x .throttled)).isOk = false ∧
      ∀ service message, (f (Cloud.failWith x (.api service message))).isOk = false)
    (hP : g.tampered x → P) :
    g.Does P (Action.call (S := Cloud) x >>= fun answer => Cloud.orFail message (f answer)) F c s :=
  .bind (Does.expect x h hf hP) fun _ _ _ h => .orFail h

/-- And what is made of the answer. -/
theorem Does.exchange_bind {β : Type} {message : String} (x : Cloud.Call)
    {f : Except x.Fault x.Value → Except CloudError α} {F : α → Stores → Prop}
    {rest : α → Action Cloud β} {G : β → Stores → Prop}
    (h : ∀ s₁, g.Moves s s₁ → g.Serves P x f F s₁)
    (hf : (f (Cloud.failWith x .throttled)).isOk = false ∧
      ∀ service message, (f (Cloud.failWith x (.api service message))).isOk = false)
    (hP : g.tampered x → P)
    (hrest : ∀ a s', g.Moves s s' → F a s' → g.Does P (rest a) G c s') :
    g.Does P (Action.call (S := Cloud) x >>= fun answer =>
      Cloud.orFail message (f answer) >>= rest) G c s :=
  .bind (Does.expect x h hf hP) fun _ _ hm h => .bind (.orFail h) fun a s' hm' h =>
    hrest a s' (g.trans hm hm') h

theorem does_startPass (allowed : Bool) (cluster : Cluster) (hP : (∃ x, g.tampered x) → P) :
    g.Does P (Operator.startPass allowed cluster) (fun context _ => context = ⟨allowed⟩) c s := by
  exact .exchange_bind (.guestClients cluster.id) (f := id) (F := fun _ _ => True)
    (fun _ _ => .of_unchanging rfl trivial) ⟨rfl, fun _ _ => rfl⟩ (fun h => hP ⟨_, h⟩)
    fun _ _ _ _ => .pure rfl

variable {p : Program (Engine Cloud) (Except Error Unit)} {G : Stores → Prop}

/-- A user on its own is one of those who share the stores. -/
theorem answers_of_unreliable {x : Engine.Call Cloud} {r : Engine.Reply x} {s s' : Stores}
    (h : (unreliable g.conduct g.tampered).engine.Answers x s r s') :
    g.environment.engine.Answers x s r s' := by
  cases x with
  | call x => exact ⟨s, g.refl s, h⟩
  | _ => exact h

/-- Only calls move the stores. -/
theorem moves_of_engine {x : Engine.Call Cloud} {r : Engine.Reply x} {s s' : Stores}
    (hx : g.environment.engine.Takes x s) (hr : g.environment.engine.Answers x s r s') :
    g.Moves s s' := by
  cases x with
  | call x => exact moves_of_answered hr hx
  | patience => cases hr.1; exact g.refl _
  | _ => cases hr; exact g.refl _

theorem Reaches.moves {s' : Stores} {o : Option (Except Error Unit)} (h : g.Reaches P p G s)
    (hl : p.Leads (unreliable g.conduct g.tampered).engine s o s') : g.Moves s s' :=
  Program.Meets.keeps g.refl g.trans (fun _ _ _ _ hx hr => moves_of_engine hx hr) h
    (hl.mono fun _ _ _ _ => answers_of_unreliable)

/-- Passes one after the other, each possibly left off, the first of which to
succeed makes `G` hold for good. -/
theorem Reaches.rounds {s' : Stores} {os : List (Option (Except Error Unit))}
    (h : ∀ s', g.Moves s s' → g.Reaches P p G s') (hG : ∀ {s s'}, g.Moves s s' → G s → G s')
    (hr : Rounds (unreliable g.conduct g.tampered).engine p s os s') :
    g.Moves s s' ∧ (some (.ok ()) ∈ os → G s') := by
  induction hr with
  | start => exact ⟨g.refl s, nofun⟩
  | another _ hl ih =>
    have hp := h _ ih.1
    have hm := hp.moves hl
    constructor
    · exact g.trans ih.1 hm
    · intro ho
      rcases List.mem_append.mp ho with ho | ho
      · exact hG hm (ih.2 ho)
      · cases List.mem_singleton.mp ho
        exact (hp.of_leads (hl.mono fun _ _ _ _ => answers_of_unreliable)).2

/-- Without tampering a pass on its own succeeds. -/
theorem Reaches.runAlone (h : g.Reaches False p G s) (hg : ∀ x, ¬g.tampered x) :
    ∃ s', s.runAlone g.conduct p = (some (.ok ()), s') ∧ g.Moves s s' ∧ G s' := by
  obtain ⟨r, s', hrun, hm, hr⟩ := Program.Meets.run (E := g.environment.engine)
    (Engine.rehearse (S := Cloud) (Stores.answer g.conduct) fun _ s => s) h
    (fun ⟨x, hx⟩ => hg x hx) (fun x s hx => by
      cases x with
      | call x => exact ⟨s, g.refl s, .truthful⟩
      | patience => exact ⟨rfl, .inr (Nat.succ_pos _)⟩
      | report r => cases r <;> rfl
      | nextDelay _ => rfl
      | sleep _ => rfl)
  cases r with
  | ok _ => exact ⟨s', hrun, hm, hr⟩
  | error e => exact hr.elim

end Regime

end ClusterKeeper.Memory
