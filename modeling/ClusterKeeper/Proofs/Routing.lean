import ClusterKeeper.Memory.Sandbox
import ClusterKeeper.Operator
import ClusterKeeper.Proofs.PassRules
import ClusterKeeper.Proofs.SoundConfigs
import Mathlib.Data.List.Nodup

/-!
# Routing of configured clusters

A valid configuration names no version twice, so a cluster of a configured
version has exactly one resource set, which is that of its bundle.
-/

set_option autoImplicit false

namespace ClusterKeeper

namespace Config

def Covers (c : Config) (cluster : Cluster) : Prop :=
  cluster.spec.version ∈ c.versionBundles.map (·.version)

def bundleFor (c : Config) (cluster : Cluster) : Except Error VersionBundle :=
  match c.versionBundles.filter fun b => decide (cluster.spec.version = b.version) with
  | [] => .error (.invalidVersion cluster.spec.version)
  | [bundle] => .ok bundle
  | bundles => .error (Router.ambiguous bundles.length cluster.spec.version)

theorem mem_of_bundleFor {c : Config} {cluster : Cluster} {bundle : VersionBundle}
    (h : c.bundleFor cluster = .ok bundle) :
    bundle ∈ c.versionBundles ∧ bundle.version = cluster.spec.version := by
  rw [bundleFor] at h
  split at h
  · cases h
  · next b hf =>
    cases h
    obtain ⟨hm, hv⟩ := List.mem_filter.mp (hf ▸ List.mem_singleton_self bundle)
    exact ⟨hm, (of_decide_eq_true hv).symm⟩
  · cases h

end Config

namespace Operator

def leading (c : Config) (bundle : VersionBundle) : List (Resource Cloud Cluster) :=
  [(EncryptionKey.resource.managed c.retry c.installationName).toResource,
   (Bucket.resource.managed c.retry c.installationName).toResource,
   ((LooseVolumes.resource c.volumeDeletionPolicy).wrap (.retrying c.retry)).wrap
     (.measuring c.installationName),
   ((MainStack.resource bundle.cloudConfigVersion c.volumeDeletionPolicy).managed c.retry
     c.installationName).toResource]

theorem resources_eq (c : Config) (bundle : VersionBundle) :
    (resources c bundle).resources =
      leading c bundle ++ [(Drainer.resource.managed c.retry c.installationName).toResource] := rfl

/-- Resources of one name are one. -/
theorem eq_of_name {c : Config} {bundle : VersionBundle} {r r' : Resource Cloud Cluster}
    (hr : r ∈ (resources c bundle).resources) (hr' : r' ∈ (resources c bundle).resources)
    (hname : r.name = r'.name) : r = r' := by
  have hnodup : ((resources c bundle).resources.map (·.name)).Nodup :=
    show ["encryption_key", "s3_bucket", "ebs_volume", "stack", "drainer"].Nodup by decide
  exact List.inj_on_of_nodup_map hnodup hr hr' hname

theorem resources_ne_nil (c : Config) (bundle : VersionBundle) :
    (resources c bundle).resources ≠ [] := by
  intro h
  cases h

def bundleSet (c : Config) (bundle : VersionBundle) : ResourceSet Cloud Cluster where
  handles := ResourceSet.handlesVersion bundle.version
  start := startPass c.guestUpdateEnabled
  resources := (resources c bundle).resources
  nonempty := resources_ne_nil c bundle

theorem resourceSet_eq (c : Config) (bundle : VersionBundle) :
    resourceSet c bundle = .ok (bundleSet c bundle) := by
  rw [resourceSet, ResourceSet.Builder.build, ResourceSet.ofList,
    dif_pos (resources_ne_nil c bundle)]
  rfl

theorem mapM_resourceSet (c : Config) (bundles : List VersionBundle) :
    bundles.mapM (resourceSet c) = .ok (bundles.map (bundleSet c)) := by
  induction bundles with
  | nil => rfl
  | cons bundle rest ih => rw [List.mapM_cons, resourceSet_eq, ih]; rfl

theorem filter_version {bundles : List VersionBundle} (hn : (bundles.map (·.version)).Nodup)
    {bundle : VersionBundle} (hb : bundle ∈ bundles) :
    bundles.filter (fun b => decide (bundle.version = b.version)) = [bundle] := by
  induction bundles with
  | nil => exact absurd hb List.not_mem_nil
  | cons b rest ih =>
    obtain ⟨hnew, hn⟩ := List.nodup_cons.mp hn
    rcases List.mem_cons.mp hb with rfl | hb
    · have hrest : rest.filter (fun b' => decide (bundle.version = b'.version)) = [] := by
        rw [List.filter_eq_nil_iff]
        intro b' hb' hv
        exact hnew (List.mem_map.mpr ⟨b', hb', (of_decide_eq_true hv).symm⟩)
      rw [List.filter_cons_of_pos (by simp), hrest]
    · have hne : bundle.version ≠ b.version := fun hv =>
        hnew (List.mem_map.mpr ⟨bundle, hb, hv⟩)
      rw [List.filter_cons_of_neg (by simpa using hne), ih hn hb]

/-- A reconciler is made of the sets of all bundles. -/
theorem sets_of_reconciler {c : Config} {r : Reconciler Cloud Cluster} (h : reconciler c = .ok r) :
    r.router.sets = c.versionBundles.map (bundleSet c) := by
  rw [reconciler, mapM_resourceSet] at h
  have h : (Router.ofList (c.versionBundles.map (bundleSet c)) >>= fun router =>
      Except.ok (Reconciler.mk router)) = .ok r := h
  rw [Router.ofList] at h
  split at h <;> cases h
  rfl

theorem route_of_reconciler {c : Config} {r : Reconciler Cloud Cluster}
    (h : reconciler c = .ok r) (cluster : Cluster) :
    r.router.route cluster = (c.bundleFor cluster).map (bundleSet c) := by
  have hf : (r.router.sets.filter (·.handles cluster)) = (c.versionBundles.filter fun b =>
      decide (cluster.spec.version = b.version)).map (bundleSet c) := by
    rw [sets_of_reconciler h, List.filter_map]
    rfl
  rw [Router.route, hf, Config.bundleFor]
  generalize c.versionBundles.filter (fun b => decide (cluster.spec.version = b.version)) = found
  rcases found with _ | ⟨_, _ | ⟨_, rest⟩⟩
  · rfl
  · rfl
  · show Except.error (Router.ambiguous ((_ :: _ :: rest).map (bundleSet c)).length _) = _
    rw [List.length_map]
    rfl

theorem bundleFor_of_validate {c : Config} (h : c.validate = .ok ()) {cluster : Cluster}
    (hc : c.Covers cluster) : ∃ bundle, c.bundleFor cluster = .ok bundle := by
  obtain ⟨bundle, hb, hv⟩ := List.mem_map.mp hc
  refine ⟨bundle, ?_⟩
  rw [Config.bundleFor, ← hv, filter_version (Config.validate_eq_ok.mp h).bundles.nodup hb]

/-- Every configured version has its own set, built from its own bundle. -/
theorem reconciler_of_validate {c : Config} (h : c.validate = .ok ()) :
    ∃ r, reconciler c = .ok r ∧ ∀ cluster : Cluster, c.Covers cluster →
      ∃ bundle ∈ c.versionBundles, bundle.version = cluster.spec.version ∧
        r.router.route cluster = .ok (bundleSet c bundle) := by
  have hsets : c.versionBundles.map (bundleSet c) ≠ [] := fun hm =>
    (Config.validate_eq_ok.mp h).nonempty (List.map_eq_nil_iff.mp hm)
  have hr : reconciler c = .ok ⟨⟨c.versionBundles.map (bundleSet c), hsets⟩⟩ := by
    rw [reconciler, mapM_resourceSet]
    show (Router.ofList _ >>= fun router => _) = _
    rw [Router.ofList, dif_pos hsets]
    rfl
  refine ⟨_, hr, fun cluster hc => ?_⟩
  obtain ⟨bundle, hb⟩ := bundleFor_of_validate h hc
  obtain ⟨hm, hv⟩ := Config.mem_of_bundleFor hb
  refine ⟨bundle, hm, hv, ?_⟩
  rw [route_of_reconciler hr, hb]
  rfl

end Operator

namespace Trial

def config : Config where
  installationName := "trial"
  guestUpdateEnabled := true
  versionBundles := [⟨"1.0.0", "v1"⟩]
  retry := .standard
  volumeDeletionTimeout := Config.defaultVolumeDeletionTimeout

theorem config_valid : config.validate = .ok () := eq_ok_iff.mpr (by decide +kernel)

def cluster : Cluster := Memory.sampleCluster "1.0.0"

theorem config_covers : config.Covers cluster := List.mem_cons_self

end Trial

end ClusterKeeper
