import ClusterKeeper.Cloud.Call
import ClusterKeeper.Retry.Loop

/-!
# Volumes of a cluster

Finding, detaching and deleting them. Each of these may be done again: a
volume, attachment or instance that is gone is no error.
-/

set_option autoImplicit false

namespace ClusterKeeper.Volumes

def list (cluster : String) (kinds : List VolumeKind) : Action Cloud (List Volume) := do
  let answer ← Cloud.describeVolumes [.tag (Names.ownershipTag cluster) Names.owned]
  let volumes ← Cloud.orFail ("list volumes of cluster " ++ cluster) answer
  pure (volumes.filter fun v => kinds.isEmpty || kinds.any (·.matches v.tags))

structure DetachOptions where
  force : Bool
  shutdown : Bool
  wait : Bool
  deriving DecidableEq, Repr

namespace DetachOptions

def graceful : DetachOptions := ⟨false, true, true⟩

def forced : DetachOptions := ⟨true, false, true⟩

end DetachOptions

def stopInstance (id : String) (force : Bool) : Action Cloud Unit := do
  let answer ← Cloud.stopInstance id force
  Cloud.orFail ("stop instance " ++ id) (Cloud.accept CloudError.isNotFound () answer)
  let answer ← Cloud.waitUntilInstanceStopped id
  Cloud.orFail ("wait for instance " ++ id ++ " to stop")
    (Cloud.accept CloudError.isNotFound () answer)

def isDetached (e : CloudError) : Bool := e.isNotFound || e.isIncorrectState

def detach (volume : String) (attachment : Attachment) (options : DetachOptions) :
    Action Cloud Unit := do
  if options.shutdown then stopInstance attachment.instanceId options.force
  let answer ← Cloud.detachVolume volume attachment options.force
  Cloud.orFail ("detach volume " ++ volume ++ " from instance " ++ attachment.instanceId)
    (Cloud.accept isDetached () answer)
  if options.wait then
    let answer ← Cloud.waitUntilVolumeAvailable volume
    Cloud.orFail ("wait for volume " ++ volume ++ " to become available")
      (Cloud.accept CloudError.isNotFound () answer)

def deleteOnce (volume : String) : Program (Engine Cloud) (Except CloudError Unit) := do
  pure (Cloud.accept CloudError.isNotFound () (← Cloud.deleteVolume volume))

def delete (policy : RetryPolicy) (volume : String) : Action Cloud Unit := do
  let answer ← liftM (policy.retry (deleteOnce volume))
  Cloud.orFail ("delete volume " ++ volume) answer

def detachRound (volume : Volume) (options : DetachOptions) : Action Cloud Unit :=
  volume.attachments.forM fun attachment => do
    let _ ← (detach volume.id attachment options).result

def retire (policy : RetryPolicy) (volume : Volume) : Action Cloud Unit := do
  detachRound volume .graceful
  detachRound volume .forced
  let _ ← (delete policy volume.id).result

/-- Takes the etcd volumes of a cluster out of service before its master is
replaced. Nothing that fails here stops the update. -/
def retireEtcd (policy : RetryPolicy) (cluster : String) : Action Cloud Unit := do
  match ← (list cluster [.etcd cluster]).result with
  | .ok volumes => volumes.forM (retire policy)
  | .error _ => pure ()

end ClusterKeeper.Volumes
