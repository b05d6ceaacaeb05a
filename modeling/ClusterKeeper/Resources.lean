import ClusterKeeper.Cloud.Call
import ClusterKeeper.Resource
import ClusterKeeper.Volumes

/-!
# Resources of a cluster

All that a cluster has in the cloud beside its stacks.
-/

set_option autoImplicit false

namespace ClusterKeeper

/-! ## Encryption key

The key that the secrets of a cluster are encrypted with. It is made and
deleted with the cluster and never changed. An empty name stands for no key. -/

namespace EncryptionKey

def resource : CrudResource Cloud Cluster where
  State := String
  CreateChange := String
  UpdateChange := Unit
  DeleteChange := String
  name := "encryption_key"
  currentState _ cluster := do
    Cloud.orFail ("look up encryption key of cluster " ++ cluster.id)
      (← Cloud.currentKey cluster.id)
  desiredState _ cluster := do
    Cloud.orFail ("compute encryption key of cluster " ++ cluster.id)
      (← Cloud.desiredKey cluster.id)
  createPatch _ _ current desired :=
    pure (if current = "" then .ofCreate desired else .empty)
  updatePatch _ _ _ _ := pure .empty
  deletePatch _ _ current _ := pure (if current = "" then .empty else .ofDelete current)
  applyCreate _ cluster key := do
    let answer ← Cloud.createKey cluster.id
    Cloud.orFail ("create encryption key " ++ key)
      (Cloud.accept CloudError.isAlreadyExists () answer)
  applyUpdate _ _ _ := pure ()
  applyDelete _ cluster key := do
    let answer ← Cloud.deleteKey cluster.id
    Cloud.orFail ("delete encryption key " ++ key)
      (Cloud.accept CloudError.isNotFound () answer)

end EncryptionKey

/-! ## Bucket

The bucket with the configuration of the machines of a cluster. It is emptied
before it is deleted. An empty name stands for no bucket. -/

namespace Bucket

def nameFor (cluster : Cluster) : Action Cloud String := do
  pure (Names.bucket (← lookUpAccount) cluster.id)

def empty (bucket : String) : Action Cloud Unit := do
  let answer ← Cloud.listObjects bucket
  let keys ← Cloud.orFail ("list objects of bucket " ++ bucket)
    (Cloud.accept CloudError.isNotFound [] answer)
  if keys ≠ [] then
    let answer ← Cloud.deleteObjects bucket keys
    Cloud.orFail ("delete objects of bucket " ++ bucket)
      (Cloud.accept CloudError.isNotFound () answer)

def resource : CrudResource Cloud Cluster where
  State := String
  CreateChange := String
  UpdateChange := Unit
  DeleteChange := String
  name := "s3_bucket"
  currentState _ cluster := do
    let bucket ← nameFor cluster
    let answer ← Cloud.headBucket bucket
    Cloud.orFail ("look up bucket " ++ bucket)
      (Cloud.accept CloudError.isNotFound "" (answer.map fun _ => bucket))
  desiredState _ cluster := nameFor cluster
  createPatch _ _ current desired :=
    pure (if current = "" then .ofCreate desired else .empty)
  updatePatch _ _ _ _ := pure .empty
  deletePatch _ _ current _ := pure (if current = "" then .empty else .ofDelete current)
  applyCreate _ _ bucket := do
    let answer ← Cloud.createBucket bucket
    Cloud.orFail ("create bucket " ++ bucket)
      (Cloud.accept CloudError.isAlreadyExists () answer)
  applyUpdate _ _ _ := pure ()
  applyDelete _ _ bucket := do
    empty bucket
    let answer ← Cloud.deleteBucket bucket
    Cloud.orFail ("delete bucket " ++ bucket)
      (Cloud.accept CloudError.isNotFound () answer)

end Bucket

/-! ## Loose volumes

The etcd volume and the volumes made for persistent volumes belong to no
stack. While they are attached they keep the instances from being deleted, so
a cluster that is deleted loses them before its stacks. -/

namespace LooseVolumes

def remove (policy : RetryPolicy) (volume : Volume) : Action Cloud Unit := do
  volume.attachments.forM fun attachment => Volumes.detach volume.id attachment .forced
  Volumes.delete policy volume.id

def resource (policy : RetryPolicy) : Resource Cloud Cluster where
  name := "ebs_volume"
  ensureCreated _ _ := pure ()
  ensureDeleted _ cluster := do
    let volumes ← Volumes.list cluster.id [.etcd cluster.id, .persistent]
    volumes.forM (remove policy)

end LooseVolumes

/-! ## Drainer

A group parks an instance that it terminates until its hook is completed. The
drainer completes the hook of every parked worker. As long as the group of the
workers is not known it cancels the pass. -/

namespace Drainer

def hookName : String := "NodeDrainer"

def goOn : String := "CONTINUE"

def groupOfAnswer (stack : String) (answer : Except CloudError Stack) :
    Except Error (Option String) :=
  match StackOutputs.ofAnswer stack answer with
  | .ok outputs => .ok (lastValue? workerGroupOutput outputs.pairs)
  | .error (.stackNotFound _) => .ok none
  | .error (.outputsNotAccessible _ _) => .ok none
  | .error e => .error e

def parked (group : String) (members : List GroupMember) : List LifecycleAction :=
  (members.filter (·.lifecycleState = GroupMember.parkedState)).map fun m =>
    ⟨group, m.instanceId, hookName, goOn⟩

def complete (action : LifecycleAction) : Action Cloud Unit := do
  let answer ← Cloud.completeLifecycleAction action
  Cloud.orFail ("complete lifecycle action of instance " ++ action.instanceId)
    (Cloud.accept CloudError.isNotFound () answer)

def resource : CrudResource Cloud Cluster where
  State := List LifecycleAction
  CreateChange := Unit
  UpdateChange := List LifecycleAction
  DeleteChange := Unit
  name := "drainer"
  currentState _ cluster := do
    let stack := Names.guestMainStack cluster.id
    match ← groupOfAnswer stack (← Cloud.describeStack .guest stack) with
    | none =>
      Action.cancelPass
      pure []
    | some group =>
      let answer ← Cloud.describeGroup group
      let members ← Cloud.orFail
        ("describe instances of auto scaling group " ++ group) answer
      pure (parked group members)
  desiredState _ _ := pure []
  createPatch _ _ _ _ := pure .empty
  updatePatch _ _ current _ :=
    pure (if current = [] then .empty else .ofUpdate current)
  deletePatch _ _ _ _ := pure .empty
  applyCreate _ _ _ := pure ()
  applyUpdate _ _ change := change.forM complete
  applyDelete _ _ _ := pure ()

end Drainer

end ClusterKeeper
