import ClusterKeeper.Operator
import ClusterKeeper.Proofs.Upkeep

/-!
# Repertoires

The calls that each resource can make in a direction. Where these are taken at any
time, so is all that the resource does.
-/

set_option autoImplicit false

namespace ClusterKeeper

def EncryptionKey.calls (id : String) : Direction → List Cloud.Call
  | .create => [.currentKey id, .desiredKey id, .createKey id]
  | .delete => [.currentKey id, .desiredKey id, .deleteKey id]

def Bucket.Makes (bucket : String) : Direction → Cloud.Call → Prop
  | _, .headBucket name => name = bucket
  | .create, .createBucket name => name = bucket
  | .delete, .listObjects name | .delete, .deleteObjects name _ | .delete, .deleteBucket name =>
    name = bucket
  | _, _ => False

def MainStack.Makes (cluster : Cluster) : Direction → Cloud.Call → Prop
  | _, .describeStack account name =>
    account = .guest ∧ name = Names.guestMainStack cluster.id
  | .create, .accountId => True
  | .create, .renderTemplate _ c _ => c = cluster
  | .create, .createStack account name _ tags =>
    account = .guest ∧ name = Names.guestMainStack cluster.id ∧
      tags = [(Names.ownershipTag cluster.id, Names.owned)]
  | .create, .updateStack account name _ =>
    account = .guest ∧ name = Names.guestMainStack cluster.id
  | .delete, .deleteStack account name =>
    (account, name) ∈ (StackDeletion.ofCluster cluster.id).targets
  | _, _ => False

def Drainer.Makes (group : String) : Direction → Cloud.Call → Prop
  | _, .describeGroup name => name = group
  | .create, .completeLifecycleAction action => action.group = group
  | _, _ => False

namespace Discipline

variable {σ : Type} {d : Discipline σ} {s : σ} {cluster : Cluster} {direction : Direction}
  {context : PassContext} {policy volumePolicy : RetryPolicy} {project : String}

namespace Allows

section

variable (hrepeats : d.environment.repeats)
include hrepeats

theorem key (hcalls : ∀ x ∈ EncryptionKey.calls cluster.id direction,
      d.Allows (Action.call (S := Cloud) x) (fun _ => True) s) :
    d.Allows ((EncryptionKey.resource.managed policy project).toResource.ensure direction context
      cluster) (fun _ => True) s := by
  have hobserve : d.Allows (Action.call (S := Cloud) (.currentKey cluster.id)) (fun _ => True) s ∧
      d.Allows (Action.call (S := Cloud) (.desiredKey cluster.id)) (fun _ => True) s := by
    cases direction with
    | create => exact ⟨hcalls _ (by simp [EncryptionKey.calls]),
        hcalls _ (by simp [EncryptionKey.calls])⟩
    | delete => exact ⟨hcalls _ (by simp [EncryptionKey.calls]),
        hcalls _ (by simp [EncryptionKey.calls])⟩
  have hcurrent : d.Allows (EncryptionKey.resource.currentState context cluster) (fun _ => True)
      s := .exchange (f := id) (.currentKey cluster.id) hobserve.1
  have hdesired : d.Allows (EncryptionKey.resource.desiredState context cluster) (fun _ => True)
      s := .exchange (f := id) (.desiredKey cluster.id) hobserve.2
  cases direction with
  | create =>
    refine .ensureCreated hrepeats hcurrent hdesired (fun current desired _ _ => .pure ?_)
      fun _ _ _ _ => .pure .empty
    split
    · exact .of_create (.exchange (.createKey cluster.id)
        (hcalls _ (by simp [EncryptionKey.calls])))
    · exact .empty
  | delete =>
    refine .ensureDeleted hrepeats hcurrent hdesired fun current desired _ _ => .pure ?_
    split
    · exact .empty
    · exact .of_delete (.exchange (.deleteKey cluster.id)
        (hcalls _ (by simp [EncryptionKey.calls])))

end

theorem lookUpAccount {A : String → Prop} (haccount : d.Allows (Action.call (S := Cloud) .accountId)
    (fun answer => ∀ account, answer = Except.ok account → A account) s) :
    d.Allows lookUpAccount A s :=
  .bind haccount fun _ ha => .orFail ha

theorem emptying {bucket : String} (hcalls : ∀ x, Bucket.Makes bucket .delete x →
      d.Allows (Action.call (S := Cloud) x) (fun _ => True) s) :
    d.Allows (Bucket.empty bucket) (fun _ => True) s := by
  refine .exchange_bind (.listObjects bucket) (hcalls _ rfl) fun keys => ?_
  split
  · exact .exchange (.deleteObjects bucket keys) (hcalls _ rfl)
  · exact .pure trivial

/-- The bucket is named after the account. -/
theorem bucket {A : String → Prop} (hrepeats : d.environment.repeats)
    (haccount : d.Allows (Action.call (S := Cloud) .accountId)
      (fun answer => ∀ account, answer = Except.ok account → A account) s)
    (hcalls : ∀ account, A account →
      ∀ x, Bucket.Makes (Names.bucket account cluster.id) direction x →
        d.Allows (Action.call (S := Cloud) x) (fun _ => True) s) :
    d.Allows ((Bucket.resource.managed policy project).toResource.ensure direction context cluster)
      (fun _ => True) s := by
  have hname : d.Allows (Bucket.nameFor cluster)
      (fun name => ∃ account, A account ∧ name = Names.bucket account cluster.id) s :=
    .bind (.lookUpAccount haccount) fun account ha => .pure ⟨account, ha, rfl⟩
  have hcurrent : d.Allows (Bucket.resource.currentState context cluster) (fun name =>
      name = "" ∨ ∃ account, A account ∧ name = Names.bucket account cluster.id) s := by
    refine .bind hname fun bucket ⟨account, ha, hb⟩ => ?_
    subst hb
    refine .bind (hcalls account ha (.headBucket _) (by cases direction <;> rfl)) fun answer _ => ?_
    refine .orFail fun name hr => ?_
    rcases answer with failure | ⟨⟩
    · change (if failure.isNotFound then Except.ok "" else .error failure) = .ok name at hr
      split at hr
      · exact .inl (Except.ok.inj hr).symm
      · cases hr
    · exact .inr ⟨account, ha, (Except.ok.inj hr).symm⟩
  cases direction with
  | create =>
    refine .ensureCreated hrepeats hcurrent hname (fun current desired _ hd => .pure ?_)
      fun _ _ _ _ => .pure .empty
    obtain ⟨account, ha, rfl⟩ := hd
    split
    · exact .of_create (.exchange (.createBucket _) (hcalls account ha _ rfl))
    · exact .empty
  | delete =>
    refine .ensureDeleted hrepeats hcurrent hname fun current desired hc _ => .pure ?_
    split
    · exact .empty
    · next hne =>
      obtain ⟨account, ha, rfl⟩ := hc.resolve_left hne
      exact .of_delete (.bind (.emptying (hcalls account ha)) fun _ _ =>
        .exchange (.deleteBucket _) (hcalls account ha _ rfl))

variable {G : Volume → Prop}

theorem volumes (hrepeats : d.environment.repeats)
    (hlisted : direction = .delete → d.Allows (Action.call (S := Cloud)
      (.describeVolumes [.tag (Names.ownershipTag cluster.id) Names.owned]))
      (fun answer => ∀ volumes : List Volume, answer = .ok volumes → ∀ v ∈ volumes, G v) s)
    (hcalls : direction = .delete → ∀ v, G v →
      Volumes.isLoose cluster.id v.tags = true →
      ∀ x ∈ Volumes.removeCalls v, d.Allows (Action.call (S := Cloud) x) (fun _ => True) s) :
    d.Allows ((((LooseVolumes.resource volumePolicy).wrap (.retrying policy)).wrap
      (.measuring project)).ensure direction context cluster) (fun _ => True) s := by
  cases direction with
  | create => exact .managed policy .ensureCreated hrepeats (.pure trivial)
  | delete =>
    exact .managed policy .ensureDeleted hrepeats (.removeLoose (hlisted rfl) hrepeats
      fun v hv hkind => hcalls rfl v hv hkind)

theorem render {state : StackState} {account : String} (hcall : d.Allows (Action.call (S := Cloud)
      (.renderTemplate account cluster state)) (fun _ => True) s) :
    d.Allows (MainStack.render cluster state account) (fun _ => True) s := by
  refine .bind hcall fun answer _ => ?_
  cases answer with
  | ok body => exact .pure trivial
  | error source => exact .throw _

theorem deleteAll {targets : List (Account × String)} (hcalls : ∀ target ∈ targets,
      d.Allows (Action.call (S := Cloud) (.deleteStack target.1 target.2)) (fun _ => True) s) :
    d.Allows (MainStack.deleteAll targets) (fun _ => True) s := by
  induction targets with
  | nil => exact .pure trivial
  | cons target rest ih =>
    refine .bind (hcalls target List.mem_cons_self) fun answer _ => ?_
    refine .bind (ih fun _ h => hcalls _ (List.mem_cons_of_mem _ h)) fun failed _ => ?_
    split
    · exact .pure trivial
    · exact .pure trivial

theorem deleteStacks {deletion : StackDeletion} (hcalls : ∀ target ∈ deletion.targets,
      d.Allows (Action.call (S := Cloud) (.deleteStack target.1 target.2)) (fun _ => True) s)
    {cloudConfigVersion : String} :
    d.Allows ((MainStack.resource cloudConfigVersion volumePolicy).applyDelete context cluster
      deletion) (fun _ => True) s := by
  refine .bind (.deleteAll hcalls) fun failed _ => ?_
  split
  · exact .throw _
  · exact .pure trivial

section

variable (hcalls : ∀ x, MainStack.Makes cluster direction x →
  d.Allows (Action.call (S := Cloud) x) (fun _ => True) s)
include hcalls

variable (hrepeats : d.environment.repeats)
  (hlisted : direction = .create → d.Allows (Action.call (S := Cloud)
    (.describeVolumes [.tag (Names.ownershipTag cluster.id) Names.owned]))
    (fun answer => ∀ volumes : List Volume, answer = .ok volumes → ∀ v ∈ volumes, G v) s)
  (hvolumes : direction = .create → ∀ v, G v →
    Volumes.holdsEtcd cluster.id v.tags = true → ∀ x ∈ Volumes.retireCalls v,
      d.Allows (Action.call (S := Cloud) x) (fun _ => True) s)
include hrepeats hlisted hvolumes

theorem applyUpdate (hd : direction = .create) {change : StackState}
    (hchange : ∀ request, change.updateRequest = some request →
      request.stack = Names.guestMainStack cluster.id) :
    d.Allows (MainStack.applyUpdate volumePolicy cluster change) (fun _ => True) s := by
  subst hd
  have hsubmit : ∀ request : UpdateRequest, request.stack = Names.guestMainStack cluster.id →
      d.Allows (MainStack.submit request) (fun _ => True) s := fun request hr =>
    .exchange (.updateStack .guest request.stack request.body) (hcalls _ ⟨rfl, hr⟩)
  unfold MainStack.applyUpdate
  split
  · exact .pure trivial
  · next request hr =>
    have hsubmit := hsubmit request (hchange request hr)
    split
    · exact .bind (.retireEtcd (hlisted rfl) hrepeats (hvolumes rfl)) fun _ _ => hsubmit
    · split
      · exact hsubmit
      · exact .pure trivial

theorem stack {cloudConfigVersion : String} :
    d.Allows (((MainStack.resource cloudConfigVersion volumePolicy).managed policy
      project).toResource.ensure direction context cluster) (fun _ => True) s := by
  have hcurrent : d.Allows ((MainStack.resource cloudConfigVersion volumePolicy).currentState
      context cluster) (fun _ => True) s :=
    .bind (hcalls (.describeStack .guest _) (by cases direction <;> exact ⟨rfl, rfl⟩))
      fun _ _ => .except fun _ _ => trivial
  have hdesired : d.Allows ((MainStack.resource cloudConfigVersion volumePolicy).desiredState
      context cluster) (fun desired => desired.name = Names.guestMainStack cluster.id) s :=
    .pure rfl
  cases hdirection : direction with
  | create =>
    have haccount : d.Allows ClusterKeeper.lookUpAccount (fun _ => True) s := by
      subst hdirection
      exact .exchange (f := id) .accountId (hcalls _ trivial)
    refine .ensureCreated hrepeats hcurrent hdesired (fun current desired _ hd => .pure ?_)
      fun current desired _ hd => ?_
    · split
      · exact .empty
      · refine .of_create (.bind haccount fun account _ => ?_)
        subst hdirection
        refine .bind (.render (hcalls _ rfl)) fun body _ => ?_
        exact .exchange (.createStack .guest desired.name body _) (hcalls _ ⟨rfl, hd, rfl⟩)
    · rcases MainStack.updatePatch_cases cloudConfigVersion volumePolicy context cluster current
        desired with ⟨heq, -⟩ | ⟨heq, -⟩
      · rw [heq]
        exact .pure .empty
      · rw [heq]
        refine .bind haccount fun account _ => ?_
        refine .bind (.render (hcalls _ (hdirection ▸ rfl))) fun body _ => .pure (.of_update ?_)
        show d.Allows (MainStack.applyUpdate volumePolicy cluster
          (MainStack.updateChange desired _ body)) _ s
        refine .applyUpdate hcalls hrepeats hlisted hvolumes hdirection fun request hr => ?_
        cases hr
        exact hd
  | delete =>
    subst hdirection
    exact .ensureDeleted hrepeats hcurrent hdesired fun _ _ _ _ =>
      .pure (.of_delete (.deleteStacks fun _ ht => hcalls _ ht))

end

theorem startPass (allowed : Bool)
    (hcall : d.Allows (Action.call (S := Cloud) (.guestClients cluster.id)) (fun _ => True) s) :
    d.Allows (Operator.startPass allowed cluster) (fun started => started = ⟨allowed⟩) s :=
  .bind hcall fun _ _ => .bind (R := fun _ => True) (.orFail fun _ _ => trivial)
    fun _ _ => .pure rfl

end Allows

/-- The group is the one that the outputs name. -/
theorem Ensures.drainer {N : String → Prop} (hrepeats : d.environment.repeats)
    (hgroup : d.Allows (do
      let answer ← Cloud.describeStack .guest (Names.guestMainStack cluster.id)
      liftM (Drainer.groupOfAnswer (Names.guestMainStack cluster.id) answer) :
        Action Cloud (Option String)) (fun group? => ∀ name, group? = some name → N name) s)
    (hcalls : ∀ s', d.Moves s s' → ∀ name, N name → ∀ x, Drainer.Makes name direction x →
      d.Allows (Action.call (S := Cloud) x) (fun _ => True) s') :
    d.Ensures True
      ((Drainer.resource.managed policy project).toResource.ensure direction context cluster)
      (fun _ _ => True) .none s := by
  have hparked : ∀ s', d.Moves s s' → ∀ name, N name → d.Allows (do
      let answer ← Cloud.describeGroup name
      let members ← Cloud.orFail ("describe instances of auto scaling group " ++ name) answer
      pure (Drainer.parked name members))
      (fun actions => ∀ action ∈ actions, N action.group) s' := by
    intro s' hm name hn
    refine .bind (hcalls s' hm name hn (.describeGroup name) (by cases direction <;> rfl))
      fun answer _ => ?_
    refine .bind (R := fun _ => True) (.orFail fun _ _ => trivial) fun members _ => .pure ?_
    intro action ha
    obtain ⟨member, -, rfl⟩ := List.mem_map.mp ha
    exact hn
  have hcurrent : (Drainer.resource.currentState context cluster).Meets d.environment
      (fun x c' s' => d.Moves s s' ∧
        Outcome True (fun (current : List LifecycleAction) _ => c'.skipsResource = true ∧ True ∨
          c' = .none ∧ ∀ action ∈ current, N action.group) x s') .none s :=
    drainer_currentState (F := fun _ _ => True)
      (C := fun actions _ => ∀ action ∈ actions, N action.group)
      (hgroup.does fun _ _ _ h => h) (fun _ _ _ => trivial)
      fun s₁ group hm hg => (hparked s₁ hm group (hg group rfl)).does fun _ _ _ h => h
  cases direction with
  | create =>
    refine Ensures.withStates (D := fun (actions : List LifecycleAction) _ _ =>
      ∀ action ∈ actions, N action.group) rfl hcurrent (fun _ _ _ h => .pure h)
      fun actions _ s₁ hm h => ?_
    refine (Allows.patches hrepeats (.pure .empty) (.pure ?_)).does fun _ _ _ _ => trivial
    split
    · exact .empty
    · refine .of_update (.forM _ fun action ha => ?_)
      exact .exchange (.completeLifecycleAction action) (hcalls s₁ hm _ (h action ha) _ rfl)
  | delete =>
    refine Ensures.withStates (D := fun _ _ _ => True) rfl hcurrent (fun _ _ _ _ => .pure trivial)
      fun actions _ s₁ hm h => ?_
    exact (Allows.deletion hrepeats (.pure .empty)).does fun _ _ _ _ => trivial

end Discipline

end ClusterKeeper
