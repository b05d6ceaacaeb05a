import ClusterKeeper.Proofs.Discipline
import ClusterKeeper.Resources
import ClusterKeeper.Resources.MainStack

/-!
# Rules for resources

From what the changes of a resource do to what the resource does, and from there
to the resources of a pass one after the other.
-/

set_option autoImplicit false

namespace ClusterKeeper.Discipline

variable {σ K : Type} {d : Discipline σ} {P : Prop} {c : Cancellation} {s : σ}

inductive Carries (d : Discipline σ) (P : Prop) (r : CrudResource Cloud K) (context : PassContext)
    (object : K) (F : Unit → σ → Prop) (c : Cancellation) (s : σ) : r.Patch → Prop where
  | empty (h : F () s) : Carries d P r context object F c s .empty
  | create (change : r.CreateChange)
      (h : ∀ s', d.Moves s s' → d.Does P (r.applyCreate context object change) F c s') :
      Carries d P r context object F c s (.ofCreate change)
  | update (change : r.UpdateChange)
      (h : ∀ s', d.Moves s s' → d.Does P (r.applyUpdate context object change) F c s') :
      Carries d P r context object F c s (.ofUpdate change)
  | delete (change : r.DeleteChange)
      (h : ∀ s', d.Moves s s' → d.Does P (r.applyDelete context object change) F c s') :
      Carries d P r context object F c s (.ofDelete change)

variable {r : CrudResource Cloud K} {context : PassContext} {object : K} {policy : RetryPolicy}
  {project : String} {F : Unit → σ → Prop}

theorem Carries.does {p : r.Patch} (h : d.Carries P r context object F c s p)
    (hP : P → d.environment.repeats) :
    d.Does P ((r.managed policy project).applyPatch context object p) F c s := by
  cases h with
  | empty h =>
    exact ((r.managed policy project).meets_applyPatch_empty context object).2 ⟨rfl, d.refl s, h⟩
  | create change h =>
    exact ((r.managed policy project).meets_applyPatch_create context object change).2
      (Does.change policy .applyCreateChange hP h)
  | update change h =>
    exact ((r.managed policy project).meets_applyPatch_update context object change).2
      (Does.change policy .applyUpdateChange hP h)
  | delete change h =>
    exact ((r.managed policy project).meets_applyPatch_delete context object change).2
      (Does.change policy .applyDeleteChange hP h)

/-- The two observed states, and what is made of them. -/
theorem Does.withStates {rest : r.State → r.State → Action Cloud Unit}
    {C : r.State → σ → Prop} {D : r.State → r.State → σ → Prop}
    (hc : c.skipsResource = false)
    (hcurrent : d.Does P (r.currentState context object) C c s)
    (hdesired : ∀ current s', d.Moves s s' → C current s' →
      d.Does P (r.desiredState context object) (D current) c s')
    (hrest : ∀ current desired s', d.Moves s s' → D current desired s' →
      d.Does P (rest current desired) F c s') :
    d.Does P ((r.managed policy project).withStates context object rest) F c s := by
  apply Does.bind (.observation policy .getCurrentState rfl hcurrent)
  intro current s₁ hm₁ h₁
  refine .unlessCanceled hc (.bind
    (.observation policy .getDesiredState rfl (hdesired current s₁ hm₁ h₁)) ?_)
  intro desired s₂ hm₂ h₂
  exact .unlessCanceled hc (hrest current desired s₂ (d.trans hm₁ hm₂) h₂)

/-- The first observation may cancel the resource if `F` holds already. -/
theorem Ensures.withStates {rest : r.State → r.State → Action Cloud Unit}
    {C : r.State → σ → Prop} {D : r.State → r.State → σ → Prop}
    (hc : c.skipsResource = false)
    (hcurrent : (r.currentState context object).Meets d.environment (fun x c' s' =>
      d.Moves s s' ∧ Outcome P (fun current s' =>
        c'.skipsResource = true ∧ F () s' ∨ c' = c ∧ C current s') x s') c s)
    (hdesired : ∀ current s', d.Moves s s' → C current s' →
      d.Does P (r.desiredState context object) (D current) c s')
    (hrest : ∀ current desired s', d.Moves s s' → D current desired s' →
      d.Does P (rest current desired) F c s') :
    d.Ensures P ((r.managed policy project).withStates context object rest) F c s := by
  have hcurrent := (Middleware.meets_measuring project r.name .getCurrentState _).2
    ((Middleware.meets_retrying_of_reading (o := .getCurrentState) policy r.name
      (r.currentState context object) rfl).symm ▸ hcurrent)
  refine (Action.meets_bind _ _).2 (Action.Meets.mono hcurrent ?_)
  rintro (e | current) c' s₁ ⟨hm₁, h₁⟩
  · exact ⟨hm₁, h₁⟩
  rw [Action.onward_ok]
  apply (Action.meets_unlessCanceled _ _).2
  rcases h₁ with ⟨hs, hF⟩ | ⟨rfl, h₁⟩
  · rw [if_pos hs]
    exact ⟨hm₁, hF⟩
  · rw [hc, if_neg Bool.false_ne_true]
    apply Action.Meets.mono (Does.bind (d := d)
      (.observation policy .getDesiredState rfl (hdesired current s₁ hm₁ h₁))
      fun desired s₂ hm₂ h₂ =>
        .unlessCanceled hc (hrest current desired s₂ (d.trans hm₁ hm₂) h₂))
    exact fun _ _ _ h => ⟨d.trans hm₁ h.2.1, h.2.2⟩

theorem Does.ensureDeleted {C : r.State → σ → Prop}
    {D : r.State → r.State → σ → Prop} (hc : c.skipsResource = false)
    (hP : P → d.environment.repeats)
    (hcurrent : d.Does P (r.currentState context object) C c s)
    (hdesired : ∀ current s', d.Moves s s' → C current s' →
      d.Does P (r.desiredState context object) (D current) c s')
    (hpatch : ∀ current desired s', d.Moves s s' → D current desired s' →
      d.Does P (r.deletePatch context object current desired)
        (fun p s'' => d.Carries P r context object F c s'' p) c s') :
    d.Does P ((r.managed policy project).toResource.ensure .delete context object) F c s := by
  apply Does.withStates hc hcurrent hdesired
  intro current desired s₁ hm h
  apply Does.bind (.observation policy .newDeletePatch rfl (hpatch current desired s₁ hm h))
  intro p s₂ _ hp
  exact hp.does hP

/-- The two patches of a creation. -/
theorem Does.patches {current desired : r.State} {M : σ → Prop}
    (hc : c.skipsResource = false) (hP : P → d.environment.repeats)
    (hcreate : d.Does P (r.createPatch context object current desired) (fun p s' =>
      d.Carries P r context object (fun _ => M) c s' p) c s)
    (hupdate : ∀ s', d.Moves s s' → M s' →
      d.Does P (r.updatePatch context object current desired)
        (fun p s'' => d.Carries P r context object F c s'' p) c s') :
    d.Does P (do
      let p ← (r.managed policy project).createPatch context object current desired
      (r.managed policy project).applyPatch context object p
      Action.unlessCanceled do
        let p ← (r.managed policy project).updatePatch context object current desired
        (r.managed policy project).applyPatch context object p) F c s := by
  apply Does.bind (.observation policy .newCreatePatch rfl hcreate)
  intro p s₁ hm₁ hp
  refine .bind (hp.does hP) fun _ s₂ hm₂ h₂ => .unlessCanceled hc ?_
  apply Does.bind (.observation policy .newUpdatePatch rfl (hupdate s₂ (d.trans hm₁ hm₂) h₂))
  exact fun p s₃ _ hp => hp.does hP

theorem Does.ensureCreated {C : r.State → σ → Prop}
    {D M : r.State → r.State → σ → Prop} (hc : c.skipsResource = false)
    (hP : P → d.environment.repeats)
    (hcurrent : d.Does P (r.currentState context object) C c s)
    (hdesired : ∀ current s', d.Moves s s' → C current s' →
      d.Does P (r.desiredState context object) (D current) c s')
    (hcreate : ∀ current desired s', d.Moves s s' → D current desired s' →
      d.Does P (r.createPatch context object current desired) (fun p s'' =>
        d.Carries P r context object (fun _ => M current desired) c s'' p) c s')
    (hupdate : ∀ current desired s', d.Moves s s' → M current desired s' →
      d.Does P (r.updatePatch context object current desired)
        (fun p s'' => d.Carries P r context object F c s'' p) c s') :
    d.Does P ((r.managed policy project).toResource.ensure .create context object) F c s :=
  .withStates hc hcurrent hdesired fun current desired s₁ hm h =>
    .patches hc hP (hcreate current desired s₁ hm h) fun s₂ hm₂ h₂ =>
      hupdate current desired s₂ (d.trans hm hm₂) h₂

theorem Ensures.runResources_cons {direction : Direction} {resource : Resource Cloud K}
    {rest : List (Resource Cloud K)} {F G : Unit → σ → Prop}
    (h : d.Does P (resource.ensure direction context object) F .none s)
    (hrest : ∀ s', d.Moves s s' → F () s' →
      d.Ensures P (runResources direction context object rest) G .none s') :
    d.Ensures P (runResources direction context object (resource :: rest)) G .none s := by
  apply (meets_runResources_cons direction context object resource rest).2
  apply Action.Meets.mono h
  rintro (e | ⟨⟩) _ s₁ ⟨rfl, hm, h⟩
  · exact ⟨hm, h⟩
  · rw [Action.onward_ok, if_neg (by decide)]
    apply Action.Meets.mono (hrest s₁ hm h)
    exact fun r c' s₂ ⟨hm', h'⟩ => ⟨d.trans hm hm', h'⟩

/-- The last resource may cancel what it likes. -/
theorem Ensures.runResources_last {direction : Direction} {resource : Resource Cloud K}
    (h : d.Ensures P (resource.ensure direction context object) F .none s) :
    d.Ensures P (runResources direction context object [resource]) F .none s := by
  apply (meets_runResources_cons direction context object resource []).2
  apply Action.Meets.mono h
  rintro (e | ⟨⟩) c' s₁ h
  · exact h
  · rw [Action.onward_ok]
    split <;> exact h

/-- The main stack is left alone unless its outputs call for a change, and the
body of a change is rendered beforehand. -/
theorem mainStack_updatePatch {cluster : Cluster} {cloudConfigVersion : String}
    {current desired : StackState} {allowed : Bool} {B : String → σ → Prop}
    (hkeep : (current.hasOutputs = true → current.decide desired allowed = .keep) → F () s)
    (hbody : d.Does P (lookUpAccount >>= MainStack.render cluster desired) B c s)
    (hchange : current.hasOutputs = true → ∀ body s₁ s₂, d.Moves s s₁ → B body s₁ →
      d.Moves s₁ s₂ → d.Does P (MainStack.applyUpdate policy cluster
        (MainStack.updateChange desired (current.decide desired allowed) body)) F c s₂) :
    d.Does P ((MainStack.resource cloudConfigVersion policy).updatePatch ⟨allowed⟩ cluster
        current desired)
      (fun p s' => d.Carries P (MainStack.resource cloudConfigVersion policy) ⟨allowed⟩ cluster F
        c s' p) c s := by
  rcases MainStack.updatePatch_cases cloudConfigVersion policy ⟨allowed⟩ cluster current desired
    with ⟨heq, hk⟩ | ⟨heq, ho⟩
  · rw [heq]
    exact .pure (.empty (hkeep hk))
  · rw [heq, MainStack.patchFor, ← bind_assoc]
    apply Does.bind hbody
    intro body s₁ hm₁ hB
    exact .pure (.update _ fun s₂ hm₂ => hchange ho body s₁ s₂ hm₁ hB hm₂)

/-- The group is asked for first. Without one the pass is canceled. -/
theorem drainer_currentState {cluster : Cluster} {G : Option String → σ → Prop}
    {C : List LifecycleAction → σ → Prop} {F : Unit → σ → Prop}
    (hgroup : d.Does P (do
      let answer ← Cloud.describeStack .guest (Names.guestMainStack cluster.id)
      liftM (Drainer.groupOfAnswer (Names.guestMainStack cluster.id) answer)) G c s)
    (hnone : ∀ s', d.Moves s s' → G none s' → F () s')
    (hsome : ∀ s' group, d.Moves s s' → G (some group) s' → d.Does P (do
      let answer ← Cloud.describeGroup group
      let members ← Cloud.orFail ("describe instances of auto scaling group " ++ group) answer
      pure (Drainer.parked group members)) C c s') :
    (Drainer.resource.currentState context cluster).Meets d.environment (fun x c' s' =>
      d.Moves s s' ∧ Outcome P (fun current s' =>
        c'.skipsResource = true ∧ F () s' ∨ c' = c ∧ C current s') x s') c s := by
  have hstate : Drainer.resource.currentState context cluster = ((do
      let answer ← Cloud.describeStack .guest (Names.guestMainStack cluster.id)
      liftM (Drainer.groupOfAnswer (Names.guestMainStack cluster.id) answer)) >>= _) :=
    (bind_assoc _ _ _).symm
  rw [hstate]
  refine (Action.meets_bind _ _).2 (Action.Meets.mono hgroup ?_)
  rintro (e | group?) _ s₁ ⟨rfl, hm, h⟩
  · exact ⟨hm, h⟩
  rw [Action.onward_ok]
  cases group? with
  | none => exact ⟨hm, .inl ⟨Bool.or_true _, hnone s₁ hm h⟩⟩
  | some group =>
    apply Action.Meets.mono (hsome s₁ group hm h)
    rintro (e | current) _ s₂ ⟨rfl, hm', h'⟩
    · exact ⟨d.trans hm hm', h'⟩
    · exact ⟨d.trans hm hm', .inr ⟨rfl, h'⟩⟩

structure Applies (d : Discipline σ) (r : CrudResource Cloud K) (context : PassContext) (object : K)
    (s : σ) (p : r.Patch) : Prop where
  create : ∀ change, p.create = some change →
    d.Allows (r.applyCreate context object change) (fun _ => True) s
  update : ∀ change, p.update = some change →
    d.Allows (r.applyUpdate context object change) (fun _ => True) s
  delete : ∀ change, p.delete = some change →
    d.Allows (r.applyDelete context object change) (fun _ => True) s

theorem Applies.empty : d.Applies r context object s .empty :=
  ⟨fun _ hp => (nomatch hp), fun _ hp => (nomatch hp), fun _ hp => (nomatch hp)⟩

theorem Applies.of_create {change : r.CreateChange}
    (h : d.Allows (r.applyCreate context object change) (fun _ => True) s) :
    d.Applies r context object s (.ofCreate change) :=
  ⟨fun _ hp => Option.some.inj hp ▸ h, fun _ hp => (nomatch hp), fun _ hp => (nomatch hp)⟩

theorem Applies.of_update {change : r.UpdateChange}
    (h : d.Allows (r.applyUpdate context object change) (fun _ => True) s) :
    d.Applies r context object s (.ofUpdate change) :=
  ⟨fun _ hp => (nomatch hp), fun _ hp => Option.some.inj hp ▸ h, fun _ hp => (nomatch hp)⟩

theorem Applies.of_delete {change : r.DeleteChange}
    (h : d.Allows (r.applyDelete context object change) (fun _ => True) s) :
    d.Applies r context object s (.ofDelete change) :=
  ⟨fun _ hp => (nomatch hp), fun _ hp => (nomatch hp), fun _ hp => Option.some.inj hp ▸ h⟩

namespace Allows

variable (hrepeats : d.environment.repeats)
include hrepeats

theorem applyPatch {p : r.Patch} (h : d.Applies r context object s p) :
    d.Allows ((r.managed policy project).applyPatch context object p) (fun _ => True) s := by
  apply applyIfPresent
    (fun change hp => .managed policy .applyCreateChange hrepeats (h.create change hp))
  apply applyIfPresent
    (fun change hp => .managed policy .applyDeleteChange hrepeats (h.delete change hp))
  cases hp : p.update with
  | none => exact .pure trivial
  | some change => exact .managed policy .applyUpdateChange hrepeats (h.update change hp)

theorem patches {current desired : r.State}
    (hcreate : d.Allows (r.createPatch context object current desired)
      (d.Applies r context object s) s)
    (hupdate : d.Allows (r.updatePatch context object current desired)
      (d.Applies r context object s) s) :
    d.Allows (do
      let p ← (r.managed policy project).createPatch context object current desired
      (r.managed policy project).applyPatch context object p
      Action.unlessCanceled do
        let p ← (r.managed policy project).updatePatch context object current desired
        (r.managed policy project).applyPatch context object p) (fun _ => True) s := by
  refine .bind (.managed policy .newCreatePatch hrepeats hcreate) fun _ hp => ?_
  refine .bind (applyPatch hrepeats hp) fun _ _ => unlessCanceled ?_
  exact .bind (.managed policy .newUpdatePatch hrepeats hupdate) fun _ hp => applyPatch hrepeats hp

theorem deletion {current desired : r.State}
    (hdelete : d.Allows (r.deletePatch context object current desired)
      (d.Applies r context object s) s) :
    d.Allows (do
      let p ← (r.managed policy project).deletePatch context object current desired
      (r.managed policy project).applyPatch context object p) (fun _ => True) s :=
  .bind (.managed policy .newDeletePatch hrepeats hdelete) fun _ hp => applyPatch hrepeats hp

variable {C D : r.State → Prop} (hcurrent : d.Allows (r.currentState context object) C s)
  (hdesired : d.Allows (r.desiredState context object) D s)
include hcurrent hdesired

theorem withStates {rest : r.State → r.State → Action Cloud Unit}
    (hrest : ∀ current desired, C current → D desired →
      d.Allows (rest current desired) (fun _ => True) s) :
    d.Allows ((r.managed policy project).withStates context object rest) (fun _ => True) s := by
  refine .bind (.managed policy .getCurrentState hrepeats hcurrent) fun current hC => ?_
  apply unlessCanceled
  refine .bind (.managed policy .getDesiredState hrepeats hdesired) fun desired hD => ?_
  exact unlessCanceled (hrest current desired hC hD)

theorem ensureCreated
    (hcreate : ∀ current desired, C current → D desired →
      d.Allows (r.createPatch context object current desired) (d.Applies r context object s) s)
    (hupdate : ∀ current desired, C current → D desired →
      d.Allows (r.updatePatch context object current desired) (d.Applies r context object s) s) :
    d.Allows ((r.managed policy project).toResource.ensure .create context object) (fun _ => True)
      s :=
  .withStates hrepeats hcurrent hdesired fun current desired hC hD =>
    .patches hrepeats (hcreate current desired hC hD) (hupdate current desired hC hD)

theorem ensureDeleted
    (hdelete : ∀ current desired, C current → D desired →
      d.Allows (r.deletePatch context object current desired) (d.Applies r context object s) s) :
    d.Allows ((r.managed policy project).toResource.ensure .delete context object) (fun _ => True)
      s :=
  .withStates hrepeats hcurrent hdesired fun current desired hC hD =>
    .deletion hrepeats (hdelete current desired hC hD)

end Allows

def Reaches (d : Discipline σ) (P : Prop) (p : Program (Engine Cloud) (Except Error Unit))
    (F : σ → Prop) (s : σ) : Prop :=
  p.Meets d.environment.engine (fun r s' => d.Moves s s' ∧ Outcome P (fun _ => F) r s') s

theorem Reaches.mono {p : Program (Engine Cloud) (Except Error Unit)} {Q : Prop} {F : σ → Prop}
    (h : d.Reaches P p F s) (hP : P → Q) : d.Reaches Q p F s := by
  apply Program.Meets.mono h
  rintro (e | a) s' ⟨hm, h⟩
  · exact ⟨hm, hP h⟩
  · exact ⟨hm, h⟩

theorem Reaches.ensureFrom [Managed K] {r : Reconciler Cloud K} {direction : Direction}
    {set : ResourceSet Cloud K} {F G : σ → Prop} (hr : r.router.route object = .ok set)
    (hstart : d.Does P (set.start object) (fun started s' => started = context ∧ G s') .none s)
    (h : ∀ s', d.Moves s s' → G s' → d.Ensures P
      (runResources direction context object set.resources) (fun _ => F) .none s') :
    d.Reaches P (r.ensure direction object) F s := by
  refine (Reconciler.meets_ensure r direction object).2 ((Reconciler.meets_pass hr).2 ?_)
  apply Action.Meets.mono hstart
  rintro (e | started) _ s₁ ⟨rfl, hm, h₁⟩
  · exact ⟨hm, h₁⟩
  · obtain ⟨rfl, hG⟩ := h₁
    rw [Action.onward_ok]
    exact Action.Meets.mono (h s₁ hm hG) fun r c' s₂ ⟨hm', h'⟩ => ⟨d.trans hm hm', h'⟩

theorem Reaches.ensure [Managed K] {r : Reconciler Cloud K} {direction : Direction}
    {set : ResourceSet Cloud K} {F : σ → Prop} (hr : r.router.route object = .ok set)
    (hstart : d.Does P (set.start object) (fun started _ => started = context) .none s)
    (h : ∀ s', d.Moves s s' → d.Ensures P
      (runResources direction context object set.resources) (fun _ => F) .none s') :
    d.Reaches P (r.ensure direction object) F s :=
  .ensureFrom (G := fun _ => True) hr (hstart.imp fun _ _ _ heq => ⟨heq, trivial⟩)
    fun s₁ hm _ => h s₁ hm

end ClusterKeeper.Discipline
