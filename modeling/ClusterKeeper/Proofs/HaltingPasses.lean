import ClusterKeeper.Operator
import ClusterKeeper.Proofs.PassRules
import ClusterKeeper.Proofs.SafeUpdates

/-!
# Passes halt

No operation of any resource goes on for as long as it likes: all there is to wait
for are pauses, so a pass comes to an end once these do.
-/

set_option autoImplicit false

namespace ClusterKeeper

variable {α β : Type} {limit : Nat} {K : Type}

namespace Action

theorem Halts.except (r : Except Error α) : (liftM r : Action Cloud α).Halts limit := by
  cases r with
  | ok a => exact .pure a
  | error e => exact .throw e

theorem Halts.unlessCanceled {a : Action Cloud Unit} (ha : a.Halts limit) :
    (Action.unlessCanceled a).Halts limit := by
  refine .bind (fun _ => trivial) fun c => ?_
  split
  · exact .pure _
  · exact ha

theorem Halts.applyIfPresent {change : Option β} {apply : β → Action Cloud Unit}
    {rest : Action Cloud Unit} (ha : ∀ b, (apply b).Halts limit) (hr : rest.Halts limit) :
    (CrudResource.applyIfPresent change apply rest).Halts limit := by
  cases change with
  | none => exact hr
  | some b => exact .bind (ha b) fun _ => .unlessCanceled hr

theorem Halts.managed {a : Action Cloud α} (policy : RetryPolicy) (project resource : String)
    (o : Operation) (ha : a.Halts limit) :
    ((Middleware.measuring project).around resource o
      ((Middleware.retrying policy).around resource o a)).Halts limit :=
  .measuring project resource o (.retrying policy resource o ha)

end Action

open ClusterKeeper.Action

structure CrudResource.Halts (r : CrudResource Cloud K) (limit : Nat) : Prop where
  currentState : ∀ context object, (r.currentState context object).Halts limit
  desiredState : ∀ context object, (r.desiredState context object).Halts limit
  createPatch : ∀ context object current desired,
    (r.createPatch context object current desired).Halts limit
  updatePatch : ∀ context object current desired,
    (r.updatePatch context object current desired).Halts limit
  deletePatch : ∀ context object current desired,
    (r.deletePatch context object current desired).Halts limit
  applyCreate : ∀ context object change, (r.applyCreate context object change).Halts limit
  applyUpdate : ∀ context object change, (r.applyUpdate context object change).Halts limit
  applyDelete : ∀ context object change, (r.applyDelete context object change).Halts limit

namespace CrudResource.Halts

variable {r : CrudResource Cloud K}

theorem managed (h : r.Halts limit) (policy : RetryPolicy) (project : String) :
    (r.managed policy project).Halts limit where
  currentState context object :=
    .managed policy project r.name .getCurrentState (h.currentState context object)
  desiredState context object :=
    .managed policy project r.name .getDesiredState (h.desiredState context object)
  createPatch context object current desired :=
    .managed policy project r.name .newCreatePatch (h.createPatch context object current desired)
  updatePatch context object current desired :=
    .managed policy project r.name .newUpdatePatch (h.updatePatch context object current desired)
  deletePatch context object current desired :=
    .managed policy project r.name .newDeletePatch (h.deletePatch context object current desired)
  applyCreate context object change :=
    .managed policy project r.name .applyCreateChange (h.applyCreate context object change)
  applyUpdate context object change :=
    .managed policy project r.name .applyUpdateChange (h.applyUpdate context object change)
  applyDelete context object change :=
    .managed policy project r.name .applyDeleteChange (h.applyDelete context object change)

theorem applyPatch (h : r.Halts limit) (context : PassContext) (object : K) (p : r.Patch) :
    (r.applyPatch context object p).Halts limit := by
  refine .applyIfPresent (h.applyCreate context object) (.applyIfPresent
    (h.applyDelete context object) ?_)
  split
  · exact .pure _
  · exact h.applyUpdate context object _

theorem ensure (h : r.Halts limit) (direction : Direction) (context : PassContext) (object : K) :
    (r.toResource.ensure direction context object).Halts limit := by
  have hstates : ∀ rest : r.State → r.State → Action Cloud Unit,
      (∀ current desired, (rest current desired).Halts limit) →
      (r.withStates context object rest).Halts limit := fun rest hrest =>
    .bind (h.currentState context object) fun _ => .unlessCanceled <|
      .bind (h.desiredState context object) fun _ => .unlessCanceled (hrest _ _)
  cases direction with
  | create =>
    refine hstates _ fun current desired => .bind (h.createPatch _ _ _ _) fun p => ?_
    refine .bind (h.applyPatch context object p) fun _ => .unlessCanceled ?_
    exact .bind (h.updatePatch _ _ _ _) (h.applyPatch context object)
  | delete =>
    exact hstates _ fun current desired =>
      .bind (h.deletePatch _ _ _ _) (h.applyPatch context object)

end CrudResource.Halts

theorem lookUpAccount_halts : lookUpAccount.Halts limit := .exchange (f := id) .accountId

theorem EncryptionKey.resource_halts : EncryptionKey.resource.Halts limit where
  currentState _ cluster := .exchange (f := id) (.currentKey cluster.id)
  desiredState _ cluster := .exchange (f := id) (.desiredKey cluster.id)
  createPatch _ _ _ _ := .pure _
  updatePatch _ _ _ _ := .pure _
  deletePatch _ _ _ _ := .pure _
  applyCreate _ cluster _ := .exchange (.createKey cluster.id)
  applyUpdate _ _ _ := .pure _
  applyDelete _ cluster _ := .exchange (.deleteKey cluster.id)

theorem Bucket.nameFor_halts (cluster : Cluster) : (Bucket.nameFor cluster).Halts limit :=
  .bind lookUpAccount_halts fun _ => .pure _

theorem Bucket.resource_halts : Bucket.resource.Halts limit where
  currentState _ cluster := .bind (nameFor_halts cluster) fun bucket =>
    .bind (.call (S := Cloud) (.headBucket bucket)) fun _ => .orFail _
  desiredState _ cluster := nameFor_halts cluster
  createPatch _ _ _ _ := .pure _
  updatePatch _ _ _ _ := .pure _
  deletePatch _ _ _ _ := .pure _
  applyCreate _ _ bucket := .exchange (.createBucket bucket)
  applyUpdate _ _ _ := .pure _
  applyDelete _ _ bucket := by
    have hempty : (empty bucket).Halts limit := by
      refine .bind (.call (S := Cloud) (.listObjects bucket)) fun _ => ?_
      refine .bind (.orFail _) fun keys => ?_
      split
      · exact .exchange (.deleteObjects bucket keys)
      · exact .pure _
    exact .bind hempty fun _ => .exchange (.deleteBucket bucket)

theorem LooseVolumes.ensure_halts (policy : RetryPolicy) (direction : Direction)
    (context : PassContext) (cluster : Cluster) :
    ((LooseVolumes.resource policy).ensure direction context cluster).Halts limit := by
  cases direction with
  | create => exact .pure _
  | delete =>
    refine .bind (.bind (.call (S := Cloud) _) fun _ => .bind (.orFail _) fun _ => .pure _)
      fun volumes => .forM volumes fun volume => ?_
    exact .bind (.forM _ fun a => Volumes.detach_halts volume.id a .forced) fun _ =>
      Volumes.delete_halts policy volume.id

theorem MainStack.render_halts (cluster : Cluster) (state : StackState) (account : String) :
    (MainStack.render cluster state account).Halts limit := by
  refine .bind (.call (S := Cloud) (.renderTemplate account cluster state)) fun answer => ?_
  cases answer with
  | ok body => exact .pure _
  | error source => exact .throw _

theorem MainStack.deleteAll_halts (targets : List (Account × String)) :
    (MainStack.deleteAll targets).Halts limit := by
  induction targets with
  | nil => exact .pure _
  | cons t rest ih =>
    refine .bind (.call (S := Cloud) (.deleteStack t.1 t.2)) fun answer => .bind ih fun failed => ?_
    split
    · exact .pure _
    · exact .pure _

theorem MainStack.resource_halts (cloudConfigVersion : String) (policy : RetryPolicy) :
    (MainStack.resource cloudConfigVersion policy).Halts limit where
  currentState _ _ := .bind (.call (S := Cloud) (.describeStack .guest _)) fun _ => .except _
  desiredState _ _ := .pure _
  createPatch _ _ _ _ := .pure _
  updatePatch context cluster current desired := by
    rcases updatePatch_cases cloudConfigVersion policy context cluster current desired
      with ⟨heq, -⟩ | ⟨heq, -⟩
    · rw [heq]
      exact .pure _
    · rw [heq]
      exact .bind lookUpAccount_halts fun account =>
        .bind (render_halts cluster desired account) fun _ => .pure _
  deletePatch _ _ _ _ := .pure _
  applyCreate _ cluster change := .bind lookUpAccount_halts fun account =>
    .bind (render_halts cluster change account) fun body =>
      .exchange (.createStack .guest change.name body _)
  applyUpdate _ cluster change := applyUpdate_halts policy cluster change
  applyDelete _ _ change := by
    refine .bind (deleteAll_halts change.targets) fun failed => ?_
    split
    · exact .throw _
    · exact .pure _

theorem Drainer.resource_halts : Drainer.resource.Halts limit where
  currentState _ cluster := by
    refine .bind (.call (S := Cloud) (.describeStack .guest _)) fun answer =>
      .bind (.except _) fun group? => ?_
    cases group? with
    | none => exact .bind (fun _ => trivial) fun _ => .pure _
    | some group =>
      exact .bind (.call (S := Cloud) (.describeGroup group)) fun _ =>
        .bind (.orFail _) fun _ => .pure _
  desiredState _ _ := .pure _
  createPatch _ _ _ _ := .pure _
  updatePatch _ _ _ _ := .pure _
  deletePatch _ _ _ _ := .pure _
  applyCreate _ _ _ := .pure _
  applyUpdate _ _ change := .forM change fun action => .exchange (.completeLifecycleAction action)
  applyDelete _ _ _ := .pure _

theorem runResources_halts (direction : Direction) (context : PassContext) (object : K)
    {resources : List (Resource Cloud K)}
    (h : ∀ r ∈ resources, (r.ensure direction context object).Halts limit) :
    (runResources direction context object resources).Halts limit := by
  induction resources with
  | nil => exact .pure _
  | cons r rest ih =>
    refine .bind (fun _ => trivial) fun _ => .bind (h r List.mem_cons_self) fun _ => ?_
    refine .bind (fun _ => trivial) fun c => ?_
    split
    · exact .pure _
    · exact ih fun r hr => h r (List.mem_cons_of_mem _ hr)

namespace Operator

theorem resource_halts (config : Config) (bundle : VersionBundle) (direction : Direction)
    (context : PassContext) (cluster : Cluster) :
    ∀ r ∈ (resources config bundle).resources,
      (r.ensure direction context cluster).Halts limit := by
  have hvolumes : ((((LooseVolumes.resource config.volumeDeletionPolicy).wrap
      (.retrying config.retry)).wrap (.measuring config.installationName)).ensure direction
        context cluster).Halts limit := by
    have h : ((LooseVolumes.resource config.volumeDeletionPolicy).ensure direction context
        cluster).Halts limit := LooseVolumes.ensure_halts _ direction context cluster
    cases direction with
    | create => exact .managed config.retry config.installationName _ .ensureCreated h
    | delete => exact .managed config.retry config.installationName _ .ensureDeleted h
  have hcrud : ∀ r : CrudResource Cloud Cluster, r.Halts limit →
      ((r.managed config.retry config.installationName).toResource.ensure direction context
        cluster).Halts limit := fun r hr => (hr.managed _ _).ensure direction context cluster
  exact List.forall_mem_cons.mpr ⟨hcrud _ EncryptionKey.resource_halts,
    List.forall_mem_cons.mpr ⟨hcrud _ Bucket.resource_halts,
    List.forall_mem_cons.mpr ⟨hvolumes,
    List.forall_mem_cons.mpr ⟨hcrud _ (MainStack.resource_halts _ _),
    List.forall_mem_singleton.mpr (hcrud _ Drainer.resource_halts)⟩⟩⟩⟩

/-- Whichever way a pass goes. -/
theorem ensure_halts {config : Config} {bundle : VersionBundle} {r : Reconciler Cloud Cluster}
    {cluster : Cluster} (direction : Direction)
    (hr : r.router.route cluster = .ok (bundleSet config bundle)) :
    (r.ensure direction cluster).Halts limit := by
  have hstart : (startPass config.guestUpdateEnabled cluster).Halts limit :=
    .bind (.call (S := Cloud) _) fun _ => .bind (.orFail _) fun _ => .pure _
  have hpass : (r.pass direction cluster).Halts limit := by
    rw [Reconciler.pass, hr]
    show (startPass config.guestUpdateEnabled cluster >>= fun context =>
      runResources direction context cluster (resources config bundle).resources).Halts limit
    exact .bind hstart fun context => runResources_halts direction context cluster
      (resource_halts config bundle direction context cluster)
  exact (hpass .none).bind fun _ => Program.halts_pure _

end Operator

end ClusterKeeper
