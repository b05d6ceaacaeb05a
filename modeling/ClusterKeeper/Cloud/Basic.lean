/-!
# Things in the cloud

Stacks and volumes, and the names that are made for a cluster.
-/

set_option autoImplicit false

namespace ClusterKeeper

/-! ## Names

Every cloud resource of a cluster has a name or tag made from the id of the
cluster, so that two clusters never share one. -/

namespace Names

def guestMainStack (cluster : String) : String := "cluster-" ++ cluster ++ "-guest-main"

def hostSetupStack (cluster : String) : String := "cluster-" ++ cluster ++ "-host-setup"

def hostMainStack (cluster : String) : String := "cluster-" ++ cluster ++ "-host-main"

def ownershipTag (cluster : String) : String := "kubernetes.io/cluster/" ++ cluster

def owned : String := "owned"

def persistentVolumeTag : String := "kubernetes.io/created-for/pv/name"

def nameTag : String := "Name"

def etcdVolume (cluster : String) : String := cluster ++ "-etcd"

def bucket (account cluster : String) : String := account ++ "-g8s-" ++ cluster

end Names

/-! ## Stacks

A stack is a named set of cloud resources made from one template. Its outputs
are read by key; of a key that occurs twice the last value counts. -/

inductive Account where
  | guest
  | host
  deriving DecidableEq, Repr

inductive StackStatus where
  | createInProgress
  | createFailed
  | createComplete
  | rollbackInProgress
  | rollbackFailed
  | rollbackComplete
  | deleteInProgress
  | deleteFailed
  | deleteComplete
  | updateInProgress
  | updateCompleteCleanupInProgress
  | updateComplete
  | updateRollbackInProgress
  | updateRollbackFailed
  | updateRollbackCompleteCleanupInProgress
  | updateRollbackComplete
  deriving DecidableEq, Repr

namespace StackStatus

def all : List StackStatus :=
  [createInProgress, createFailed, createComplete, rollbackInProgress, rollbackFailed,
   rollbackComplete, deleteInProgress, deleteFailed, deleteComplete, updateInProgress,
   updateCompleteCleanupInProgress, updateComplete, updateRollbackInProgress,
   updateRollbackFailed, updateRollbackCompleteCleanupInProgress, updateRollbackComplete]

def text : StackStatus → String
  | createInProgress => "CREATE_IN_PROGRESS"
  | createFailed => "CREATE_FAILED"
  | createComplete => "CREATE_COMPLETE"
  | rollbackInProgress => "ROLLBACK_IN_PROGRESS"
  | rollbackFailed => "ROLLBACK_FAILED"
  | rollbackComplete => "ROLLBACK_COMPLETE"
  | deleteInProgress => "DELETE_IN_PROGRESS"
  | deleteFailed => "DELETE_FAILED"
  | deleteComplete => "DELETE_COMPLETE"
  | updateInProgress => "UPDATE_IN_PROGRESS"
  | updateCompleteCleanupInProgress => "UPDATE_COMPLETE_CLEANUP_IN_PROGRESS"
  | updateComplete => "UPDATE_COMPLETE"
  | updateRollbackInProgress => "UPDATE_ROLLBACK_IN_PROGRESS"
  | updateRollbackFailed => "UPDATE_ROLLBACK_FAILED"
  | updateRollbackCompleteCleanupInProgress => "UPDATE_ROLLBACK_COMPLETE_CLEANUP_IN_PROGRESS"
  | updateRollbackComplete => "UPDATE_ROLLBACK_COMPLETE"

def ofText? (s : String) : Option StackStatus :=
  all.find? fun status => status.text = s

/-- Whether the outputs can be trusted. While a stack is created or rolled
back they are missing or name resources that are about to disappear. -/
def outputsAccessible : StackStatus → Bool
  | createInProgress | rollbackInProgress | rollbackComplete => false
  | _ => true

end StackStatus

structure Stack where
  name : String
  status : StackStatus
  outputs : List (String × String)
  deriving DecidableEq, Repr

def lastValue? (key : String) (pairs : List (String × String)) : Option String :=
  pairs.reverse.lookup key

structure StackOutputs where
  stack : String
  pairs : List (String × String)
  deriving DecidableEq, Repr

def workerGroupOutput : String := "WorkerASGName"

/-! ## Volumes

Block devices with tags, each attached to any number of instances. -/

structure Attachment where
  device : String
  instanceId : String
  deriving DecidableEq, Repr

structure Volume where
  id : String
  attachments : List Attachment
  tags : List (String × String)
  deriving DecidableEq, Repr

structure Condition where
  name : String
  values : List String
  deriving DecidableEq, Repr

def Condition.tag (key value : String) : Condition := ⟨"tag:" ++ key, [value]⟩

inductive VolumeKind where
  | etcd (cluster : String)
  | persistent
  deriving DecidableEq, Repr

def VolumeKind.matches (kind : VolumeKind) (tags : List (String × String)) : Bool :=
  match kind with
  | .etcd cluster => tags.lookup Names.nameTag = some (Names.etcdVolume cluster)
  | .persistent => (tags.lookup Names.persistentVolumeTag).isSome

end ClusterKeeper
