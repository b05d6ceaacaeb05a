import ClusterKeeper.Proofs.Estates
import ClusterKeeper.Proofs.Repertoire
import ClusterKeeper.Proofs.Routing

/-!
# Passes keep to their cluster

Every call of a pass is about a place of the cluster that the pass is for, or
about no place at all. This takes that the bucket is named after the account,
that volumes come from a listing of those the cluster owns, and that instances
come from the group of its stack.
-/

set_option autoImplicit false

namespace ClusterKeeper.Memory

def confining (e : Estate) : Discipline Stores where
  environment := {
    Takes := fun x _ => e.Covers x
    Answers := fun x s r s' => s.answer e.conduct x = (r, s')
    repeats := True }
  Moves s s' := e.Solid s → e.Solid s'
  refl _ h := h
  trans h h' hs := h' (h hs)

namespace Confinement

open Discipline

variable {e : Estate} {s : Stores} {context : PassContext} {policy volumePolicy : RetryPolicy}
  {project : String} {direction : Direction} {x : Cloud.Call}

/-! What the resources of the cluster call for is about its places. -/

theorem covers_key (hx : x ∈ EncryptionKey.calls e.cluster.id direction) : e.Covers x := by
  have hobserve : e.Covers (.currentKey e.cluster.id) ∧ e.Covers (.desiredKey e.cluster.id) :=
    ⟨.of_place rfl rfl, .of_placeless rfl nofun⟩
  cases direction with
  | create =>
    simp only [EncryptionKey.calls, List.mem_cons, List.not_mem_nil, or_false] at hx
    rcases hx with rfl | rfl | rfl
    · exact hobserve.1
    · exact hobserve.2
    · exact .of_place rfl rfl
  | delete =>
    simp only [EncryptionKey.calls, List.mem_cons, List.not_mem_nil, or_false] at hx
    rcases hx with rfl | rfl | rfl
    · exact hobserve.1
    · exact hobserve.2
    · exact .of_place rfl rfl

theorem covers_bucket (hx : Bucket.Makes (e.conduct.bucket e.cluster) direction x) :
    e.Covers x := by
  cases x with
  | headBucket _ | createBucket _ | listObjects _ | deleteObjects _ _ | deleteBucket _ =>
    cases direction <;> first | exact hx.elim | exact .of_place rfl hx
  | _ => cases direction <;> exact hx.elim

theorem covers_upkeep {v : Volume} (hv : e.Has (.volume v.id)) (hx : Volumes.Concerns v.id x) :
    e.Covers x := by
  cases x with
  | stopInstance _ _ | waitUntilInstanceStopped _ | waitUntilVolumeAvailable _ =>
    exact .of_placeless rfl nofun
  | detachVolume id _ _ | deleteVolume id =>
    obtain rfl : id = v.id := hx
    exact .of_place rfl hv
  | _ => exact hx.elim

theorem covers_stack (hx : MainStack.Makes e.cluster direction x) : e.Covers x := by
  cases x with
  | describeStack account name =>
    obtain ⟨rfl, rfl⟩ : account = .guest ∧ name = Names.guestMainStack e.cluster.id := by
      cases direction <;> exact hx
    exact .of_place rfl e.has_stack
  | createStack account name body tags =>
    cases direction with
    | create =>
      obtain ⟨rfl, rfl, -⟩ := hx
      exact .of_place rfl e.has_stack
    | delete => exact hx.elim
  | updateStack account name body =>
    cases direction with
    | create =>
      obtain ⟨rfl, rfl⟩ := hx
      exact .of_place rfl e.has_stack
    | delete => exact hx.elim
  | deleteStack account name =>
    cases direction with
    | create => exact hx.elim
    | delete => exact .of_place rfl hx
  | accountId | renderTemplate _ _ _ => exact .of_placeless rfl nofun
  | _ => cases direction <;> exact hx.elim

theorem covers_group {name : String} (hn : e.Has (.group name))
    (hx : Drainer.Makes name direction x) : e.Covers x := by
  cases x with
  | describeGroup group =>
    obtain rfl : group = name := by cases direction <;> exact hx
    exact .of_place rfl hn
  | completeLifecycleAction action =>
    cases direction with
    | create =>
      obtain rfl : action.group = name := hx
      exact .of_place rfl hn
    | delete => exact hx.elim
  | _ => cases direction <;> exact hx.elim

section Resources

variable (hk : e.conduct.updatesInPlace = false) (hs : e.Solid s)
include hk hs

theorem allows_call {Q : Except x.Fault x.Value → Prop} (hx : e.Covers x)
    (hQ : ∀ s', e.Solid s' → Q (s'.answer e.conduct x).1) :
    (confining e).Allows (Action.call (S := Cloud) x) Q s := fun c s₁ hm =>
  .call hx fun r s₂ hr => by
    have hQ := hQ s₁ (hm hs)
    have hsolid : e.Solid s₁ → e.Solid (s₁.answer e.conduct x).2 := fun h => h.answer hk x
    rw [hr] at hQ hsolid
    exact ⟨hsolid, hQ⟩

theorem allows (hx : e.Covers x) :
    (confining e).Allows (Action.call (S := Cloud) x) (fun _ => True) s :=
  allows_call hk hs hx fun _ _ => trivial

theorem allows_key :
    (confining e).Allows
      ((EncryptionKey.resource.managed policy project).toResource.ensure direction context
        e.cluster) (fun _ => True) s :=
  .key trivial fun _ hx => allows hk hs (covers_key hx)

theorem allows_bucket :
    (confining e).Allows
      ((Bucket.resource.managed policy project).toResource.ensure direction context e.cluster)
      (fun _ => True) s := by
  refine .bucket (A := (· = e.conduct.accountId)) trivial (allows_call hk hs
    (.of_placeless rfl nofun) fun _ _ account ha => (Except.ok.inj ha).symm) ?_
  rintro account rfl x hx
  exact allows hk hs (covers_bucket hx)

theorem allows_listing :
    (confining e).Allows (Action.call (S := Cloud) (.describeVolumes e.listing))
      (fun answer => ∀ volumes : List Volume, answer = .ok volumes →
        ∀ v ∈ volumes, e.Has (.volume v.id)) s := by
  refine allows_call hk hs e.covers_listing fun s' hs' volumes ha v hv => ?_
  cases ha
  exact hs'.has_listed hv

theorem allows_volumes :
    (confining e).Allows ((((LooseVolumes.resource volumePolicy).wrap (.retrying policy)).wrap
      (.measuring project)).ensure direction context e.cluster) (fun _ => True) s :=
  .volumes trivial (fun _ => allows_listing hk hs) fun _ v hv _ _ hx => allows hk hs
    (covers_upkeep hv (Volumes.concerns_of_mem (Volumes.removeCalls_subset v hx)))

theorem allows_stack {cloudConfigVersion : String} :
    (confining e).Allows (((MainStack.resource cloudConfigVersion volumePolicy).managed policy
      project).toResource.ensure direction context e.cluster) (fun _ => True) s :=
  .stack (fun _ hx => allows hk hs (covers_stack hx)) trivial (fun _ => allows_listing hk hs)
    fun _ _ hv _ _ hx => allows hk hs (covers_upkeep hv (Volumes.concerns_of_mem hx))

/-- The group is the one that the outputs name, also after the stack has been
dealt with. -/
theorem allows_groupOf :
    (confining e).Allows (do
      let answer ← Cloud.describeStack .guest (Names.guestMainStack e.cluster.id)
      liftM (Drainer.groupOfAnswer (Names.guestMainStack e.cluster.id) answer) :
        Action Cloud (Option String)) (fun group? => ∀ name, group? = some name →
          e.Has (.group name)) s := by
  refine .bind (allows_call hk hs (x := .describeStack .guest e.stack)
    (Q := fun answer => ∀ group? name, Drainer.groupOfAnswer e.stack answer = .ok group? →
      group? = some name → e.Has (.group name)) (.of_place rfl e.has_stack) ?_)
    fun answer h => .except fun group? hr name hn => h group? name hr hn
  intro s' hs' group? name hr hn
  rw [Stores.answer_of_reading rfl] at hr
  rw [groupOfAnswer_describeStack s' .guest e.stack] at hr
  cases hr
  exact hs'.group name hn

theorem ensures_drainer :
    (confining e).Ensures True
      ((Drainer.resource.managed policy project).toResource.ensure direction context e.cluster)
      (fun _ _ => True) .none s :=
  .drainer trivial (allows_groupOf hk hs) fun _ hm _ hn _ hx =>
    allows hk (hm hs) (covers_group hn hx)

theorem allows_startPass (allowed : Bool) :
    (confining e).Allows (Operator.startPass allowed e.cluster) (fun started => started = ⟨allowed⟩)
      s := .startPass allowed (allows hk hs (.of_placeless rfl nofun))

end Resources

variable {config : Config} {bundle : VersionBundle} {r : Reconciler Cloud Cluster}

theorem reaches_end (hk : e.conduct.updatesInPlace = false) (hs : e.Solid s)
    (hr : r.router.route e.cluster = .ok (Operator.bundleSet config bundle)) :
    (confining e).Reaches True (r.ensure direction e.cluster) (fun _ => True) s := by
  apply Reaches.ensure hr ((allows_startPass hk hs _).does fun _ _ _ h => h)
  intro s₀ hm₀
  have hs₀ := hm₀ hs
  apply Ensures.runResources_cons ((allows_key hk hs₀).does fun _ _ _ _ => trivial)
  intro s₁ hm₁ _
  have hs₁ := hm₁ hs₀
  apply Ensures.runResources_cons ((allows_bucket hk hs₁).does fun _ _ _ _ => trivial)
  intro s₂ hm₂ _
  have hs₂ := hm₂ hs₁
  apply Ensures.runResources_cons ((allows_volumes hk hs₂).does fun _ _ _ _ => trivial)
  intro s₃ hm₃ _
  have hs₃ := hm₃ hs₂
  apply Ensures.runResources_cons ((allows_stack hk hs₃).does fun _ _ _ _ => trivial)
  exact fun s₄ hm₄ _ => .runResources_last (ensures_drainer hk (hm₄ hs₃))

end Confinement

end ClusterKeeper.Memory
