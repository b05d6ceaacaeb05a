import ClusterKeeper.Proofs.Observations
import ClusterKeeper.Proofs.Routing
import ClusterKeeper.Proofs.VolumeService

/-!
# Deletion of a cluster

While a cluster is deleted, the stores only ever lose what belongs to it. What
would be left after a complete deletion stays the same throughout.
-/

set_option autoImplicit false

namespace ClusterKeeper.Memory

def isLoose (cluster : Cluster) (tags : Tags) : Bool :=
  Volumes.isOwned cluster.id tags && Volumes.isLoose cluster.id tags

def stacksOf (cluster : Cluster) : List (Account × String) :=
  (StackDeletion.ofCluster cluster.id).targets

namespace Stores

def purged (k : Conduct) (cluster : Cluster) (s : Stores) : Stores where
  guest := { s.guest with present := s.guest.present.erase (Names.guestMainStack cluster.id) }
  host := { s.host with
    present := (s.host.present.erase (Names.hostMainStack cluster.id)).erase
      (Names.hostSetupStack cluster.id) }
  volumes := s.volumes.filter fun v => !isLoose cluster v.tags
  groups := s.groups
  completed := s.completed
  buckets := s.buckets.erase (k.bucket cluster)
  keys := s.keys.erase cluster.id

end Stores

structure Purging (k : Conduct) (cluster : Cluster) (before after : Stores) : Prop where
  ends : after.purged k cluster = before.purged k cluster
  key : cluster.id ∈ after.keys → cluster.id ∈ before.keys
  objects : ∀ objects, after.buckets[k.bucket cluster]? = some objects →
    ∃ earlier, before.buckets[k.bucket cluster]? = some earlier ∧ objects ⊆ earlier
  stack : ∀ account name, name ∈ (after.stackStore account).present →
    name ∈ (before.stackStore account).present
  volumes : Thins (isLoose cluster) before.volumes after.volumes

namespace Purging

variable {k : Conduct} {cluster : Cluster} {s s' s'' : Stores}

theorem refl (k : Conduct) (cluster : Cluster) (s : Stores) : Purging k cluster s s where
  ends := rfl
  key h := h
  objects objects h := ⟨objects, h, fun _ ho => ho⟩
  stack _ _ h := h
  volumes := .refl _

theorem trans (h : Purging k cluster s s') (h' : Purging k cluster s' s'') :
    Purging k cluster s s'' where
  ends := h'.ends.trans h.ends
  key hk := h.key (h'.key hk)
  objects objects ho := by
    obtain ⟨objects', ho', hs'⟩ := h'.objects objects ho
    obtain ⟨objects'', ho'', hs''⟩ := h.objects objects' ho'
    exact ⟨objects'', ho'', fun _ hm => hs'' (hs' hm)⟩
  stack account name hn := h.stack account name (h'.stack account name hn)
  volumes := h.volumes.trans h'.volumes

theorem of_keys (k : Conduct) (cluster : Cluster) (s : Stores) :
    Purging k cluster s { s with keys := s.keys.erase cluster.id } := by
  refine { refl k cluster s with ends := ?_, key := ?_ }
  · simp only [Stores.purged, Keys.erase_erase]
  · exact fun h => absurd h (Keys.not_mem_erase _ _)

/-- The bucket may lose objects or disappear. -/
theorem of_buckets {buckets : Table (List String)}
    (h : buckets.erase (k.bucket cluster) = s.buckets.erase (k.bucket cluster))
    (ho : ∀ objects, buckets[k.bucket cluster]? = some objects →
      ∃ earlier, s.buckets[k.bucket cluster]? = some earlier ∧ objects ⊆ earlier) :
    Purging k cluster s { s with buckets := buckets } := by
  refine { refl k cluster s with ends := ?_, objects := ho }
  simp only [Stores.purged, h]

theorem of_volumes {volumes : List Volume} (h : Thins (isLoose cluster) s.volumes volumes) :
    Purging k cluster s { s with volumes := volumes } := by
  refine { refl k cluster s with ends := ?_, volumes := h }
  simp only [Stores.purged, h.others]

theorem ends_of_stack {account : Account} {name : String}
    (h : (account, name) ∈ stacksOf cluster) :
    (s.removeStack account name).purged k cluster = s.purged k cluster := by
  rcases List.mem_cons.mp h with heq | h
  · cases heq
    exact congrArg (fun present => { s.purged k cluster with
      guest := { s.guest with present } }) (Table.erase_erase _ _)
  rcases List.mem_cons.mp h with heq | h
  · cases heq
    exact congrArg (fun present => { s.purged k cluster with
      host := { s.host with present := present.erase (Names.hostSetupStack cluster.id) } })
      (Table.erase_erase _ _)
  · cases List.mem_singleton.mp h
    refine congrArg (fun present => { s.purged k cluster with
      host := { s.host with present } }) ?_
    show ((s.host.present.erase (Names.hostSetupStack cluster.id)).erase _).erase _ = _
    rw [Table.erase_comm, Table.erase_erase, Table.erase_comm]

theorem of_stack {account : Account} {name : String} (h : (account, name) ∈ stacksOf cluster) :
    Purging k cluster s (s.removeStack account name) where
  ends := ends_of_stack h
  key := by cases account <;> exact id
  objects := by cases account <;> exact fun objects ho => ⟨objects, ho, fun _ hm => hm⟩
  stack account' name' hn := by
    cases account <;> cases account' <;>
      first | exact hn | exact ((Table.mem_erase _ _ _).mp hn).2
  volumes := by cases account <;> exact .refl _

end Purging

def teardown (k : Conduct) (cluster : Cluster) (tampered : Cloud.Call → Prop) : Regime where
  conduct := k
  tampered := tampered
  Moves := Purging k cluster
  refl := Purging.refl k cluster
  trans := Purging.trans

structure Gone (k : Conduct) (cluster : Cluster) (s : Stores) : Prop where
  key : cluster.id ∉ s.keys
  bucket : k.bucket cluster ∉ s.buckets
  volumes : Thinning.Spared (isLoose cluster) s
  stack : ∀ t ∈ stacksOf cluster, t.2 ∉ (s.stackStore t.1).present

theorem Gone.eq_purged {k : Conduct} {cluster : Cluster} {s : Stores} (h : Gone k cluster s) :
    s = s.purged k cluster := by
  have hguest : Names.guestMainStack cluster.id ∉ s.guest.present := h.stack _ (.head _)
  have hmain : Names.hostMainStack cluster.id ∉ s.host.present := h.stack _ (.tail _ (.head _))
  have hsetup : Names.hostSetupStack cluster.id ∉ s.host.present :=
    h.stack _ (.tail _ (.tail _ (.head _)))
  have hvolumes : (s.volumes.filter fun v => !isLoose cluster v.tags) = s.volumes :=
    ((Thins.refl s.volumes).eq_filter h.volumes).symm
  rw [Stores.purged, Table.erase_of_not_mem hguest, Table.erase_of_not_mem hmain,
    Table.erase_of_not_mem hsetup, hvolumes, Table.erase_of_not_mem h.bucket,
    Keys.erase_of_not_mem h.key]

namespace Purging

variable {k : Conduct} {cluster : Cluster} {s s' : Stores}

theorem bucket_of_not_mem (h : Purging k cluster s s') (hb : k.bucket cluster ∉ s.buckets) :
    k.bucket cluster ∉ s'.buckets := by
  intro hm
  cases hr : s'.buckets[k.bucket cluster]? with
  | none => exact Table.not_mem_of_none hr hm
  | some objects =>
    obtain ⟨earlier, he, -⟩ := h.objects objects hr
    exact hb (Table.mem_of_some he)

theorem clear (h : Purging k cluster s s') (hc : s.Clear (.deleteBucket (k.bucket cluster))) :
    s'.Clear (.deleteBucket (k.bucket cluster)) := by
  intro objects ho
  obtain ⟨earlier, he, hsub⟩ := h.objects objects ho
  exact List.subset_nil.mp (hc earlier he ▸ hsub)

theorem gone (h : Purging k cluster s s') (hg : Gone k cluster s) : Gone k cluster s' where
  key hk := hg.key (h.key hk)
  bucket := h.bucket_of_not_mem hg.bucket
  volumes := hg.volumes.thins h.volumes
  stack t ht hm := hg.stack t ht (h.stack t.1 t.2 hm)

end Purging

namespace Teardown

open Regime Discipline

variable {k : Conduct} {cluster : Cluster} {tampered : Cloud.Call → Prop} {c : Cancellation}
  {s : Stores} {context : PassContext} {policy volumePolicy : RetryPolicy}
  {project cloudConfigVersion : String}

abbrev Excuse (tampered : Cloud.Call → Prop) : Prop := ∃ x, tampered x

theorem thinning (k : Conduct) (cluster : Cluster) (tampered : Cloud.Call → Prop) :
    Thinning (teardown k cluster tampered) (isLoose cluster) fun _ => True where
  stays _ h := h
  thins h := h.volumes
  allows _ h := .of_volumes h

theorem does_deleteKey (key : String) :
    (teardown k cluster tampered).Does (Excuse tampered)
      (EncryptionKey.resource.applyDelete context cluster key)
      (fun _ s => cluster.id ∉ s.keys) c s := by
  refine .exchange (.deleteKey cluster.id) (fun s₁ _ => ?_) ⟨rfl, fun _ _ => rfl⟩ fun h => ⟨_, h⟩
  have ha : s₁.answer k (.deleteKey cluster.id) = s₁.settle () (s₁.deleteKey cluster.id) :=
    Stores.answer_of_change rfl
  rw [Stores.deleteKey] at ha
  split at ha
  · exact .of_answer ha (Purging.of_keys k cluster s₁) trivial (Keys.not_mem_erase _ _)
  · next h => exact .of_answer ha (Purging.refl k cluster s₁) trivial h

theorem does_key :
    (teardown k cluster tampered).Does (Excuse tampered)
      ((EncryptionKey.resource.managed policy project).toResource.ensure .delete context cluster)
      (fun _ s => cluster.id ∉ s.keys) .none s := by
  apply Does.ensureDeleted (C := fun key s => key = "" → cluster.id ∉ s.keys)
    (D := fun key _ s => key = "" → cluster.id ∉ s.keys) rfl (fun h => h)
  · refine (does_currentKey fun h => h).imp fun key s₁ _ hkey h => ?_
    intro hm
    rw [hkey, Stores.currentKey, if_pos hm] at h
    exact absurd h (Stores.keyName_ne_empty _)
  · intro key s₁ _ h
    exact (does_desiredKey fun h => h).imp fun _ s₂ hm _ hk hin => h hk (hm.key hin)
  · intro key _ s₁ _ h
    apply Does.pure
    split
    · next hk => exact .empty (h hk)
    · exact .delete _ fun s₂ _ => does_deleteKey key

theorem answer_deleteObjects_of_some {bucket : String} {keys objects : List String}
    (h : s.buckets[bucket]? = some objects) :
    s.answer k (.deleteObjects bucket keys) =
      (.ok (), { s with buckets := s.buckets.insert bucket (objects.filter (· ∉ keys)) }) := by
  apply (Stores.answer_of_change rfl).trans
  rw [Stores.deleteObjects, Stores.listObjects, h]
  rfl

theorem answer_deleteObjects_of_none {bucket : String} {keys : List String}
    (h : s.buckets[bucket]? = none) :
    s.answer k (.deleteObjects bucket keys) = (.error (.notFound bucket), s) := by
  apply (Stores.answer_of_change rfl).trans
  rw [Stores.deleteObjects, Stores.listObjects, h]
  rfl

theorem answer_deleteBucket_of_some {bucket : String} (h : s.buckets[bucket]? = some []) :
    s.answer k (.deleteBucket bucket) = (.ok (), { s with buckets := s.buckets.erase bucket }) := by
  apply (Stores.answer_of_change rfl).trans
  rw [Stores.deleteBucket, Stores.listObjects, h]
  rfl

theorem answer_deleteBucket_of_none {bucket : String} (h : s.buckets[bucket]? = none) :
    s.answer k (.deleteBucket bucket) = (.error (.notFound bucket), s) := by
  apply (Stores.answer_of_change rfl).trans
  rw [Stores.deleteBucket, Stores.listObjects, h]
  rfl

/-- All objects are among those that are deleted. -/
theorem does_deleteObjects {keys : List String}
    (h : ∀ objects, s.buckets[k.bucket cluster]? = some objects → objects ⊆ keys) :
    (teardown k cluster tampered).Does (Excuse tampered) (do
      let answer ← Cloud.deleteObjects (k.bucket cluster) keys
      Cloud.orFail ("delete objects of bucket " ++ k.bucket cluster)
        (Cloud.accept CloudError.isNotFound () answer))
      (fun _ s => s.Clear (.deleteBucket (k.bucket cluster))) c s := by
  refine .exchange (.deleteObjects (k.bucket cluster) keys) (fun s₁ hm => ?_) ⟨rfl, fun _ _ => rfl⟩
    fun h => ⟨_, h⟩
  cases hr : s₁.buckets[k.bucket cluster]? with
  | none =>
    apply Serves.of_answer (answer_deleteObjects_of_none hr) (Purging.refl k cluster s₁) trivial
    intro objects ho
    cases hr.symm.trans ho
  | some objects =>
    obtain ⟨earlier, he, hsub⟩ := hm.objects objects hr
    have hleft : ∀ objects', (s₁.buckets.insert (k.bucket cluster)
        (objects.filter (· ∉ keys)))[k.bucket cluster]? = some objects' →
        objects.filter (· ∉ keys) = objects' := fun objects' ho =>
      Option.some.inj (((Table.getElem?_insert _ _ _ _).trans (if_pos rfl)).symm.trans ho)
    refine .of_answer (answer_deleteObjects_of_some hr) (Purging.of_buckets
      (Table.erase_insert _ _ _) fun objects' ho => ⟨objects, hr, ?_⟩) trivial ?_
    · exact hleft objects' ho ▸ List.filter_subset_self _
    · intro objects' ho
      rw [← hleft objects' ho]
      apply List.filter_eq_nil_iff.mpr
      intro object ho
      simpa using h earlier he (hsub ho)

theorem does_empty :
    (teardown k cluster tampered).Does (Excuse tampered) (Bucket.empty (k.bucket cluster))
      (fun _ s => s.Clear (.deleteBucket (k.bucket cluster))) c s := by
  refine .exchange_bind (.listObjects (k.bucket cluster))
    (f := Cloud.accept CloudError.isNotFound [])
    (F := fun keys s => ∀ objects, s.buckets[k.bucket cluster]? = some objects → objects ⊆ keys)
    (fun s₁ _ => .of_unchanging rfl ?_) ⟨rfl, fun _ _ => rfl⟩ (fun h => ⟨_, h⟩)
    fun keys s₁ _ h => ?_
  · rw [Stores.answer_of_reading rfl, Stores.listObjects]
    cases hr : s₁.buckets[k.bucket cluster]? with
    | none =>
      intro objects ho
      rw [hr] at ho
      cases ho
    | some objects =>
      intro objects' ho
      rw [hr] at ho
      cases ho
      exact fun _ h => h
  · split
    · exact does_deleteObjects h
    · next hk =>
      apply Does.pure
      intro objects ho
      rw [not_not.mp hk] at h
      exact List.subset_nil.mp (h objects ho)

/-- An empty bucket is deleted for sure. -/
theorem does_deleteBucket :
    (teardown k cluster tampered).Does (Excuse tampered)
      (Bucket.resource.applyDelete context cluster (k.bucket cluster))
      (fun _ s => k.bucket cluster ∉ s.buckets) c s := by
  apply Does.bind does_empty
  intro _ s₁ _ h
  refine Does.exchange (.deleteBucket (k.bucket cluster)) (fun s₂ hm => ?_) ⟨rfl, fun _ _ => rfl⟩
    fun h => ⟨_, h⟩
  have hempty := hm.clear h
  cases hr : s₂.buckets[k.bucket cluster]? with
  | none =>
    exact .of_answer (answer_deleteBucket_of_none hr) (Purging.refl k cluster s₂) hempty
      (Table.not_mem_of_none hr)
  | some objects =>
    cases hempty objects hr
    have hgone : k.bucket cluster ∉ s₂.buckets.erase (k.bucket cluster) :=
      fun hm => ((Table.mem_erase _ _ _).mp hm).1 rfl
    refine .of_answer (answer_deleteBucket_of_some hr) (Purging.of_buckets (Table.erase_erase _ _)
      fun objects' ho => ?_) hempty hgone
    exact absurd (Table.mem_of_some ho) hgone

def SeenBucket (k : Conduct) (cluster : Cluster) (current : String) (s : Stores) : Prop :=
  current = "" ∧ k.bucket cluster ∉ s.buckets ∨ current = k.bucket cluster

theorem SeenBucket.moves {current : String} {s s' : Stores} (h : SeenBucket k cluster current s)
    (hm : Purging k cluster s s') : SeenBucket k cluster current s' :=
  h.imp_left fun h => ⟨h.1, hm.bucket_of_not_mem h.2⟩

theorem does_bucket :
    (teardown k cluster tampered).Does (Excuse tampered)
      ((Bucket.resource.managed policy project).toResource.ensure .delete context cluster)
      (fun _ s => k.bucket cluster ∉ s.buckets) .none s := by
  apply Does.ensureDeleted (C := SeenBucket k cluster)
    (D := fun current _ s => SeenBucket k cluster current s) rfl (fun h => h)
  · apply (does_currentBucket fun h => h).imp
    intro current s₁ _ h
    by_cases hb : k.bucket cluster ∈ s₁.buckets
    · exact .inr (h.trans (if_pos hb))
    · exact .inl ⟨h.trans (if_neg hb), hb⟩
  · intro current s₁ _ h
    exact (does_bucketName fun h => h).imp fun _ _ hm _ => h.moves hm
  · intro current _ s₁ _ h
    apply Does.pure
    rcases h with ⟨rfl, h⟩ | rfl
    · exact .empty h
    · rw [if_neg (k.bucket_ne_empty cluster)]
      exact .delete _ fun s₂ _ => does_deleteBucket

theorem does_volumes (hn : (s.volumes.map (·.id)).Nodup) :
    (teardown k cluster tampered).Does (Excuse tampered)
      ((((LooseVolumes.resource volumePolicy).wrap (.retrying policy)).wrap
        (.measuring project)).ensure .delete context cluster)
      (fun _ => Thinning.Spared (isLoose cluster)) .none s := by
  apply Does.change policy .ensureDeleted (fun h => h)
  intro s₁ hm
  exact (thinning k cluster tampered).does_removeLoose (fun x _ h => ⟨x, h⟩) (fun h => h) trivial
    (hm.volumes.nodup hn)

theorem not_mem_removeStack (account : Account) (name : String) :
    name ∉ ((s.removeStack account name).stackStore account).present := by
  cases account <;> exact fun hm => ((Table.mem_erase _ _ _).mp hm).1 rfl

theorem serves_deleteStack {account : Account} {name : String}
    (h : (account, name) ∈ stacksOf cluster) :
    (teardown k cluster tampered).Serves (Excuse tampered) (.deleteStack account name)
      (Cloud.accept CloudError.isNotFound ())
      (fun _ s => name ∉ (s.stackStore account).present) s := by
  have ha : s.answer k (.deleteStack account name) = s.settle () (s.deleteStack account name) :=
    Stores.answer_of_change rfl
  rw [Stores.deleteStack] at ha
  split at ha
  · exact .of_answer ha (Purging.of_stack h) trivial (not_mem_removeStack account name)
  · next hn => exact .of_answer ha (Purging.refl k cluster s) trivial hn

/-- The stacks that could not be deleted are counted. -/
theorem does_deleteAll (targets : List (Account × String))
    (ht : ∀ t ∈ targets, t ∈ stacksOf cluster) :
    (teardown k cluster tampered).Does (Excuse tampered) (MainStack.deleteAll targets)
      (fun failed s => (failed ≠ [] → Excuse tampered) ∧
        (failed = [] → ∀ t ∈ targets, t.2 ∉ (s.stackStore t.1).present)) c s := by
  induction targets generalizing s with
  | nil => exact .pure ⟨fun h => absurd rfl h, fun _ t ht => absurd ht List.not_mem_nil⟩
  | cons target rest ih =>
    obtain ⟨account, name⟩ := target
    refine .bind (Does.expect (.deleteStack account name)
      (f := Cloud.accept CloudError.isNotFound ())
      (F := fun _ s => name ∉ (s.stackStore account).present)
      (fun s₁ _ => serves_deleteStack (ht _ List.mem_cons_self)) ⟨rfl, fun _ _ => rfl⟩
      fun h => ⟨_, h⟩) fun answer s₁ _ h => ?_
    · have h : Outcome (Excuse tampered) (fun (_ : Unit) s => name ∉ (s.stackStore account).present)
          (Cloud.accept CloudError.isNotFound () answer) s₁ := h
      apply Does.bind (ih fun t hm => ht t (List.mem_cons_of_mem _ hm))
      intro failed s₂ hm hrest
      revert h
      cases Cloud.accept CloudError.isNotFound () answer with
      | error e => exact fun h => .pure ⟨fun _ => h, nofun⟩
      | ok _ =>
        refine fun h => .pure ⟨hrest.1, fun hf t ht => ?_⟩
        rcases List.mem_cons.mp ht with rfl | ht
        · exact fun hin => h (hm.stack account name hin)
        · exact hrest.2 hf t ht

theorem does_stacks :
    (teardown k cluster tampered).Does (Excuse tampered)
      (((MainStack.resource cloudConfigVersion volumePolicy).managed policy
        project).toResource.ensure .delete context cluster)
      (fun _ s => ∀ t ∈ stacksOf cluster, t.2 ∉ (s.stackStore t.1).present) .none s := by
  apply Does.ensureDeleted (C := fun _ _ => True) (D := fun _ _ _ => True)
    rfl (fun h => h)
  · exact (does_currentStack fun h => h).imp fun _ _ _ _ => trivial
  · exact fun _ _ _ _ => .pure trivial
  · refine fun _ _ s₁ _ _ => .pure (.delete _ fun s₂ _ => ?_)
    apply Does.bind (does_deleteAll (stacksOf cluster) fun _ h => h)
    intro failed s₃ _ h
    by_cases hf : failed = []
    · subst hf
      exact .pure (h.2 rfl)
    · rw [if_pos hf]
      exact .throw (h.1 hf)

/-- Without its stack a cluster has no workers to let go of. -/
theorem ensures_drainer (h : Names.guestMainStack cluster.id ∉ s.guest.present)
    {F : Stores → Prop} (hF : ∀ s', Purging k cluster s s' → F s') :
    (teardown k cluster tampered).Ensures (Excuse tampered)
      ((Drainer.resource.managed policy project).toResource.ensure .delete context cluster)
      (fun _ => F) .none s := by
  refine Ensures.withStates (C := fun _ _ => False) (D := fun _ _ _ => False) rfl
    (drainer_currentState (F := fun _ => F) (does_groupOf fun h => h) (fun s' hm _ => hF s' hm)
      fun s' group hm hg => ?_)
    (fun _ _ _ h => h.elim) (fun _ _ _ _ h => h.elim)
  have hgone : Names.guestMainStack cluster.id ∉ s'.guest.present :=
    fun hin => h (hm.stack .guest _ hin)
  rw [Std.ExtTreeMap.getElem?_eq_none hgone] at hg
  cases hg

/-- A pass that deletes a cluster leaves nothing of it, wherever others are with
deleting it. -/
theorem reaches_gone {config : Config} {bundle : VersionBundle} {r : Reconciler Cloud Cluster}
    (hr : r.router.route cluster = .ok (Operator.bundleSet config bundle))
    (hn : (s.volumes.map (·.id)).Nodup) :
    (teardown k cluster tampered).Reaches (Excuse tampered) (r.ensure .delete cluster)
      (Gone k cluster) s := by
  apply Reaches.ensure hr (does_startPass _ _ fun h => h)
  intro s₀ hm₀
  apply Ensures.runResources_cons does_key
  intro s₁ hm₁ h₁
  apply Ensures.runResources_cons does_bucket
  intro s₂ hm₂ h₂
  have hn₂ := (hm₀.trans (hm₁.trans hm₂)).volumes.nodup hn
  apply Ensures.runResources_cons (does_volumes hn₂)
  intro s₃ hm₃ h₃
  apply Ensures.runResources_cons does_stacks
  intro s₄ hm₄ h₄
  refine Ensures.runResources_last (ensures_drainer (h₄ _ (.head _)) fun s₅ hm₅ => ?_)
  refine Purging.gone hm₅ ⟨?_, ?_, ?_, h₄⟩
  · exact fun hin => h₁ ((hm₂.trans (hm₃.trans hm₄)).key hin)
  · exact (hm₃.trans hm₄).bucket_of_not_mem h₂
  · exact h₃.thins hm₄.volumes

end Teardown

end ClusterKeeper.Memory
