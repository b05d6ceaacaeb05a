import ClusterKeeper.Proofs.Launching
import ClusterKeeper.Proofs.PassRules
import ClusterKeeper.Proofs.Versions
import Mathlib.Data.List.Nodup

/-!
# Unambiguous routing

A router looks at how many of its sets claim an object, and at nothing else about
them. With a valid configuration that is one set if the version of the object is
configured, and none if it is not.
-/

set_option autoImplicit false

namespace ClusterKeeper

namespace Router

variable {S : Signature} {K : Type} {sets before after : List (ResourceSet S K)}
  {set : ResourceSet S K} {object : K}

theorem filter_eq_nil (h : ∀ set ∈ sets, set.handles object = false) :
    sets.filter (·.handles object) = [] :=
  List.filter_eq_nil_iff.mpr fun set hset => by simp [h set hset]

theorem filter_eq_singleton (hset : set.handles object = true)
    (hothers : ∀ other ∈ before ++ after, other.handles object = false) :
    (before ++ set :: after).filter (·.handles object) = [set] := by
  obtain ⟨hbefore, hafter⟩ := List.forall_mem_append.mp hothers
  have hhead := List.filter_cons_of_pos (p := fun s => s.handles object) (l := after) hset
  rw [List.filter_append, filter_eq_nil hbefore, hhead, filter_eq_nil hafter]
  rfl

theorem sets_of_ofList {router : Router S K} (h : ofList sets = .ok router) :
    sets = router.sets := by
  rw [ofList] at h
  split at h <;> cases h
  rfl

variable [Managed K] {router : Router S K} {x : Except Error (ResourceSet S K)}

inductive Verdict (sets : List (ResourceSet S K)) (object : K) :
    Except Error (ResourceSet S K) → Prop where
  | unclaimed (h : ∀ set ∈ sets, set.handles object = false) :
      Verdict sets object (.error (.invalidVersion (Managed.version object)))
  | claimed {before after : List (ResourceSet S K)} {set : ResourceSet S K}
      (h : sets = before ++ set :: after) (hset : set.handles object = true)
      (hothers : ∀ other ∈ before ++ after, other.handles object = false) :
      Verdict sets object (.ok set)
  | contested {claims : Nat} (h : sets.countP (·.handles object) = claims) (hmany : 1 < claims) :
      Verdict sets object (.error (.invalidConfig (toString claims ++
        " resource sets handle version bundle version " ++
        Text.quoted (Managed.version object))))

theorem ambiguous_eq (claims : Nat) (version : String) :
    ambiguous claims version = .invalidConfig (toString claims ++
      " resource sets handle version bundle version " ++ Text.quoted version) := by
  simp [ambiguous, toString]

theorem verdict_of_filter_singleton (h : sets.filter (·.handles object) = [set]) :
    Verdict sets object (.ok set) := by
  obtain ⟨before, after, rfl, hbefore, hset, hafter⟩ := List.filter_eq_cons_iff.mp h
  refine .claimed rfl hset fun other hother => Bool.eq_false_iff.mpr ?_
  rcases List.mem_append.mp hother with hother | hother
  · exact hbefore other hother
  · exact List.filter_eq_nil_iff.mp hafter other hother

theorem verdict_route (router : Router S K) (object : K) :
    Verdict router.sets object (router.route object) := by
  rw [route]
  split
  · next h => exact .unclaimed fun set hset => by simpa using List.filter_eq_nil_iff.mp h set hset
  · next h => exact verdict_of_filter_singleton h
  · next hnil hone =>
    rw [ambiguous_eq]
    refine .contested List.countP_eq_length_filter ?_
    generalize router.sets.filter (·.handles object) = found at hnil hone ⊢
    rcases found with _ | ⟨set, _ | ⟨_, _⟩⟩
    · exact absurd rfl hnil
    · exact absurd rfl (hone set)
    · simp

theorem Verdict.route_eq (h : Verdict router.sets object x) : router.route object = x := by
  cases h with
  | unclaimed h => rw [route, filter_eq_nil h]
  | claimed h hset hothers =>
    rw [route, h, filter_eq_singleton hset hothers]
  | contested h hmany =>
    rw [List.countP_eq_length_filter] at h
    rw [route]
    split
    · next hf => rw [hf] at h; simp at h; omega
    · next hf => rw [hf] at h; simp at h; omega
    · rw [h, ambiguous_eq]

/-- In whichever order the sets are. -/
theorem Verdict.perm {sets' : List (ResourceSet S K)} (h : Verdict sets object x)
    (hp : sets.Perm sets') : Verdict sets' object x := by
  cases h with
  | unclaimed h => exact .unclaimed fun set hset => h set (hp.mem_iff.mpr hset)
  | @claimed before after set h hset hothers =>
    subst h
    have hf := hp.filter (·.handles object)
    rw [filter_eq_singleton hset hothers] at hf
    exact verdict_of_filter_singleton (List.singleton_perm.mp hf).symm
  | contested h hmany => exact .contested ((hp.countP_eq _).symm.trans h) hmany

end Router

namespace Operator

def stages (c : Config) (cloudConfigVersion : String) : List (Resource Cloud Cluster) :=
  [(EncryptionKey.resource.managed c.retry c.installationName).toResource,
   (Bucket.resource.managed c.retry c.installationName).toResource,
   ((LooseVolumes.resource c.volumeDeletionPolicy).wrap (.retrying c.retry)).wrap
     (.measuring c.installationName),
   ((MainStack.resource cloudConfigVersion c.volumeDeletionPolicy).managed c.retry
     c.installationName).toResource,
   (Drainer.resource.managed c.retry c.installationName).toResource]

inductive Routed (c : Config) (cluster : Cluster) : Except Error (ResourceSet Cloud Cluster) → Prop
  where
  | served {bundle : VersionBundle} {set : ResourceSet Cloud Cluster}
      (hb : bundle ∈ c.versionBundles) (hv : bundle.version = cluster.spec.version)
      (hone : ∀ other ∈ c.versionBundles, other.version = cluster.spec.version → other = bundle)
      (hset : resourceSet c bundle = .ok set)
      (hstages : set.resources = stages c bundle.cloudConfigVersion) :
      Routed c cluster (.ok set)
  | unknown (h : ∀ bundle ∈ c.versionBundles, bundle.version ≠ cluster.spec.version) :
      Routed c cluster (.error (.invalidVersion cluster.spec.version))

namespace Routed

variable {c : Config} {cluster : Cluster} {x : Except Error (ResourceSet Cloud Cluster)}

theorem stages_of_mem (h : Routed c cluster x) {bundle : VersionBundle}
    (hb : bundle ∈ c.versionBundles) (hv : bundle.version = cluster.spec.version) :
    ∃ set, x = .ok set ∧ set.resources = stages c bundle.cloudConfigVersion := by
  cases h with
  | served _ _ hone _ hstages =>
    rw [← hone bundle hb hv] at hstages
    exact ⟨_, rfl, hstages⟩
  | unknown h => exact absurd hv (h bundle hb)

theorem eq_error (h : Routed c cluster x)
    (hnone : ∀ bundle ∈ c.versionBundles, bundle.version ≠ cluster.spec.version) :
    x = .error (.invalidVersion cluster.spec.version) := by
  cases h with
  | served hb hv _ _ _ => exact absurd hv (hnone _ hb)
  | unknown _ => rfl

end Routed

theorem bundleFor_of_not_covers {c : Config} {cluster : Cluster}
    (h : ∀ bundle ∈ c.versionBundles, bundle.version ≠ cluster.spec.version) :
    c.bundleFor cluster = .error (.invalidVersion cluster.spec.version) := by
  have hf : c.versionBundles.filter (fun b => decide (cluster.spec.version = b.version)) = [] :=
    List.filter_eq_nil_iff.mpr fun bundle hb hv => h bundle hb (of_decide_eq_true hv).symm
  rw [Config.bundleFor, hf]

theorem routed_of_reconciler {c : Config} (hc : c.validate = .ok ()) {r : Reconciler Cloud Cluster}
    (hr : reconciler c = .ok r) (cluster : Cluster) :
    Routed c cluster (r.router.route cluster) := by
  rw [route_of_reconciler hr]
  by_cases hcovers : c.Covers cluster
  · obtain ⟨bundle, hbundle⟩ := bundleFor_of_validate hc hcovers
    obtain ⟨hb, hv⟩ := Config.mem_of_bundleFor hbundle
    rw [hbundle]
    refine .served hb hv (fun other hother hv' => ?_) (resourceSet_eq c bundle) rfl
    have hnodup := (Config.validate_eq_ok.mp hc).bundles.nodup
    exact List.inj_on_of_nodup_map hnodup hother hb (hv'.trans hv.symm)
  · have hunknown : ∀ bundle ∈ c.versionBundles, bundle.version ≠ cluster.spec.version :=
      fun bundle hb hv => hcovers (List.mem_map.mpr ⟨bundle, hb, hv⟩)
    rw [bundleFor_of_not_covers hunknown]
    exact .unknown hunknown

end Operator

namespace Config

/-- Each cluster has a place in a valid configuration, or none; and versions are no more
alike when they are compared as texts than when they are read. -/
structure Unambiguous (c : Config) : Prop where
  routes : ∃ r, Operator.reconciler c = .ok r ∧
    ∀ cluster, Operator.Routed c cluster (r.router.route cluster)
  readings : ∀ bundle ∈ c.versionBundles, ∀ text,
    Semver.parse? text = Semver.parse? bundle.version ↔ text = bundle.version

theorem unambiguous_of_validate {c : Config} (h : c.validate = .ok ()) : c.Unambiguous where
  routes := by
    obtain ⟨r, hr, -⟩ := Operator.reconciler_of_validate h
    exact ⟨r, hr, Operator.routed_of_reconciler h hr⟩
  readings bundle hb text := by
    obtain ⟨version, hversion⟩ := (validate_eq_ok.mp h).bundles.versions bundle hb
    have hv := Semver.parse?_iff.mpr hversion
    exact ⟨fun ht => Semver.parse?_inj (ht.trans hv) hv, congrArg Semver.parse?⟩

end Config

/-- A valid configuration routes each cluster by the text of its version, no start fails for
want of a reconciler, and any sets route by who claims an object, in whichever order. -/
theorem routing_is_unambiguous {c : Config} (hc : c.validate = .ok ()) :
    c.Unambiguous ∧ (∀ s a e, Launch.start s a ≠ .error (.buildReconciler e)) ∧
      ∀ (S : Signature) (K : Type) [Managed K] (sets : List (ResourceSet S K)), sets ≠ [] →
        ∃ router, Router.ofList sets = .ok router ∧ ∀ object,
          (∀ x, router.route object = x ↔ Router.Verdict sets object x) ∧
          ∀ sets' router', sets.Perm sets' → Router.ofList sets' = .ok router' →
            router'.route object = router.route object := by
  refine ⟨Config.unambiguous_of_validate hc, Launch.start_ne_buildReconciler, ?_⟩
  intro S K _ sets hsets
  refine ⟨⟨sets, hsets⟩, dif_pos hsets, fun object => ⟨fun x => ⟨?_, fun hx => ?_⟩, ?_⟩⟩
  · rintro rfl
    exact Router.verdict_route ⟨sets, hsets⟩ object
  · exact Router.Verdict.route_eq hx
  · intro sets' router' hp hrouter
    obtain ⟨rfl⟩ : sets' = router'.sets := Router.sets_of_ofList hrouter
    exact Router.Verdict.route_eq ((Router.verdict_route ⟨sets, hsets⟩ object).perm hp)

namespace Trial

def builds : Config :=
  { config with versionBundles := [⟨"1.0.0", "v1"⟩, ⟨"1.0.0+1", "v2"⟩, ⟨"1.0.0+01", "v3"⟩] }

theorem builds_valid : builds.validate = .ok () := eq_ok_iff.mpr (by decide +kernel)

def anyone : ResourceSet Cloud Cluster where
  handles _ := true
  start _ := pure ⟨true⟩
  resources := [Drainer.resource.toResource]
  nonempty := nofun

/-- A cluster of the last build gets the stack of the last build, and a cluster of a build
that is not there gets none. Two sets that claim the same cluster are counted. -/
theorem routing_is_unambiguous_builds :
    (∃ r, Operator.reconciler builds = .ok r ∧
      (∃ set, r.router.route (Memory.sampleCluster "1.0.0+01") = .ok set ∧
        set.resources = Operator.stages builds "v3") ∧
      r.router.route (Memory.sampleCluster "1.0.0+001") =
        .error (.invalidVersion "1.0.0+001")) ∧
    ∃ router, Router.ofList [anyone, anyone] = .ok router ∧
      router.route (Memory.sampleCluster "1.0.0") = .error (.invalidConfig
        ("2 resource sets handle version bundle version " ++ Text.quoted "1.0.0")) := by
  obtain ⟨⟨⟨r, hr, hroutes⟩, -⟩, -, hsets⟩ := routing_is_unambiguous builds_valid
  have hlast : (⟨"1.0.0+01", "v3"⟩ : VersionBundle) ∈ builds.versionBundles := by
    simp [builds]
  have hnone : ∀ bundle ∈ builds.versionBundles, bundle.version ≠ "1.0.0+001" := by
    simp [builds]
  have hserved := (hroutes (Memory.sampleCluster "1.0.0+01")).stages_of_mem hlast rfl
  have hrefused := (hroutes (Memory.sampleCluster "1.0.0+001")).eq_error hnone
  obtain ⟨router, hrouter, hroute⟩ := hsets Cloud Cluster [anyone, anyone] (by simp)
  have htwo : [anyone, anyone].countP (·.handles (Memory.sampleCluster "1.0.0")) = 2 := rfl
  have hcontested := ((hroute (Memory.sampleCluster "1.0.0")).1 _).mpr
    (.contested htwo (by decide))
  have htext : toString 2 ++ " resource sets handle version bundle version " =
      "2 resource sets handle version bundle version " := by
    decide
  exact ⟨⟨r, hr, hserved, hrefused⟩, router, hrouter, htext ▸ hcontested⟩

end Trial

end ClusterKeeper
