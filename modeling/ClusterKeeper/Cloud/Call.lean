import ClusterKeeper.Cloud.Basic
import ClusterKeeper.Pass.Action
import ClusterKeeper.Stack.State

/-!
# Calls of the cloud

Every call is one exchange with one service, and answers a value or the reason
why there is none. Rendering a template counts as a call, for it can fail too.
-/

set_option autoImplicit false

namespace ClusterKeeper

structure GroupMember where
  instanceId : String
  lifecycleState : String
  deriving DecidableEq, Repr

def GroupMember.parkedState : String := "Terminating:Wait"

structure LifecycleAction where
  group : String
  instanceId : String
  hook : String
  result : String
  deriving DecidableEq, Repr

namespace Cloud

inductive Call where
  | guestClients (cluster : String)
  | accountId
  | describeStack (account : Account) (name : String)
  | createStack (account : Account) (name body : String) (tags : List (String × String))
  | updateStack (account : Account) (name body : String)
  | deleteStack (account : Account) (name : String)
  | describeVolumes (conditions : List Condition)
  | stopInstance (id : String) (force : Bool)
  | waitUntilInstanceStopped (id : String)
  | detachVolume (volume : String) (attachment : Attachment) (force : Bool)
  | waitUntilVolumeAvailable (id : String)
  | deleteVolume (id : String)
  | describeGroup (group : String)
  | completeLifecycleAction (action : LifecycleAction)
  | headBucket (bucket : String)
  | createBucket (bucket : String)
  | listObjects (bucket : String)
  | deleteObjects (bucket : String) (keys : List String)
  | deleteBucket (bucket : String)
  | currentKey (cluster : String)
  | desiredKey (cluster : String)
  | createKey (cluster : String)
  | deleteKey (cluster : String)
  | renderTemplate (account : String) (cluster : Cluster) (state : StackState)
  deriving DecidableEq, Repr

namespace Call

def name : Call → String
  | guestClients _ => "guest_clients"
  | accountId => "account_id"
  | describeStack _ _ => "describe_stack"
  | createStack _ _ _ _ => "create_stack"
  | updateStack _ _ _ => "update_stack"
  | deleteStack _ _ => "delete_stack"
  | describeVolumes _ => "describe_volumes"
  | stopInstance _ _ => "stop_instance"
  | waitUntilInstanceStopped _ => "wait_until_instance_stopped"
  | detachVolume _ _ _ => "detach_volume"
  | waitUntilVolumeAvailable _ => "wait_until_volume_available"
  | deleteVolume _ => "delete_volume"
  | describeGroup _ => "describe_auto_scaling_group_instances"
  | completeLifecycleAction _ => "complete_lifecycle_action"
  | headBucket _ => "head_bucket"
  | createBucket _ => "create_bucket"
  | listObjects _ => "list_objects"
  | deleteObjects _ _ => "delete_objects"
  | deleteBucket _ => "delete_bucket"
  | currentKey _ => "current_state"
  | desiredKey _ => "desired_state"
  | createKey _ => "create_key"
  | deleteKey _ => "delete_key"
  | renderTemplate _ _ _ => "render_guest_main"

def account? : Call → Option Account
  | describeStack account _ | createStack account _ _ _ | updateStack account _ _
  | deleteStack account _ => some account
  | _ => none

def fullName (c : Call) : String :=
  if c.account? = some .host then "host." ++ c.name else c.name

def Value : Call → Type
  | accountId | currentKey _ | desiredKey _ | renderTemplate _ _ _ => String
  | describeStack _ _ => Stack
  | describeVolumes _ => List Volume
  | describeGroup _ => List GroupMember
  | listObjects _ => List String
  | _ => Unit

def Fault : Call → Type
  | renderTemplate _ _ _ => String
  | _ => CloudError

end Call

end Cloud

def Cloud : Signature := ⟨Cloud.Call, fun c => Except c.Fault c.Value⟩

namespace Cloud

def failWith : (c : Call) → CloudError → Except c.Fault c.Value
  | .renderTemplate _ _ _, e => .error e.message
  | .guestClients _, e | .accountId, e | .describeStack _ _, e | .createStack _ _ _ _, e
  | .updateStack _ _ _, e | .deleteStack _ _, e | .describeVolumes _, e
  | .stopInstance _ _, e | .waitUntilInstanceStopped _, e | .detachVolume _ _ _, e
  | .waitUntilVolumeAvailable _, e | .deleteVolume _, e | .describeGroup _, e
  | .completeLifecycleAction _, e | .headBucket _, e | .createBucket _, e
  | .listObjects _, e | .deleteObjects _ _, e | .deleteBucket _, e | .currentKey _, e
  | .desiredKey _, e | .createKey _, e | .deleteKey _, e => .error e

def orFail {α : Type} (action : String) : Except CloudError α → Action Cloud α
  | .ok a => pure a
  | .error e => throw (.executionFailed action e)

def accept {α : Type} (expected : CloudError → Bool) (value : α) :
    Except CloudError α → Except CloudError α
  | .ok a => .ok a
  | .error e => if expected e then .ok value else .error e

def guestClients (cluster : String) : Action Cloud (Except CloudError Unit) :=
  Action.call (S := Cloud) (.guestClients cluster)

def accountId : Action Cloud (Except CloudError String) :=
  Action.call (S := Cloud) .accountId

def describeStack (account : Account) (name : String) :
    Action Cloud (Except CloudError Stack) :=
  Action.call (S := Cloud) (.describeStack account name)

def createStack (account : Account) (name body : String) (tags : List (String × String)) :
    Action Cloud (Except CloudError Unit) :=
  Action.call (S := Cloud) (.createStack account name body tags)

def updateStack (account : Account) (name body : String) :
    Action Cloud (Except CloudError Unit) :=
  Action.call (S := Cloud) (.updateStack account name body)

def deleteStack (account : Account) (name : String) : Action Cloud (Except CloudError Unit) :=
  Action.call (S := Cloud) (.deleteStack account name)

def describeVolumes (conditions : List Condition) :
    Action Cloud (Except CloudError (List Volume)) :=
  Action.call (S := Cloud) (.describeVolumes conditions)

def stopInstance (id : String) (force : Bool) : Action Cloud (Except CloudError Unit) :=
  Action.call (S := Cloud) (.stopInstance id force)

def waitUntilInstanceStopped (id : String) : Action Cloud (Except CloudError Unit) :=
  Action.call (S := Cloud) (.waitUntilInstanceStopped id)

def detachVolume (volume : String) (attachment : Attachment) (force : Bool) :
    Action Cloud (Except CloudError Unit) :=
  Action.call (S := Cloud) (.detachVolume volume attachment force)

def waitUntilVolumeAvailable (id : String) : Action Cloud (Except CloudError Unit) :=
  Action.call (S := Cloud) (.waitUntilVolumeAvailable id)

def deleteVolume (id : String) : Program (Engine Cloud) (Except CloudError Unit) :=
  Engine.call (S := Cloud) (.deleteVolume id)

def describeGroup (group : String) : Action Cloud (Except CloudError (List GroupMember)) :=
  Action.call (S := Cloud) (.describeGroup group)

def completeLifecycleAction (action : LifecycleAction) :
    Action Cloud (Except CloudError Unit) :=
  Action.call (S := Cloud) (.completeLifecycleAction action)

def headBucket (bucket : String) : Action Cloud (Except CloudError Unit) :=
  Action.call (S := Cloud) (.headBucket bucket)

def createBucket (bucket : String) : Action Cloud (Except CloudError Unit) :=
  Action.call (S := Cloud) (.createBucket bucket)

def listObjects (bucket : String) : Action Cloud (Except CloudError (List String)) :=
  Action.call (S := Cloud) (.listObjects bucket)

def deleteObjects (bucket : String) (keys : List String) :
    Action Cloud (Except CloudError Unit) :=
  Action.call (S := Cloud) (.deleteObjects bucket keys)

def deleteBucket (bucket : String) : Action Cloud (Except CloudError Unit) :=
  Action.call (S := Cloud) (.deleteBucket bucket)

def currentKey (cluster : String) : Action Cloud (Except CloudError String) :=
  Action.call (S := Cloud) (.currentKey cluster)

def desiredKey (cluster : String) : Action Cloud (Except CloudError String) :=
  Action.call (S := Cloud) (.desiredKey cluster)

def createKey (cluster : String) : Action Cloud (Except CloudError Unit) :=
  Action.call (S := Cloud) (.createKey cluster)

def deleteKey (cluster : String) : Action Cloud (Except CloudError Unit) :=
  Action.call (S := Cloud) (.deleteKey cluster)

def renderTemplate (account : String) (cluster : Cluster) (state : StackState) :
    Action Cloud (Except String String) :=
  Action.call (S := Cloud) (.renderTemplate account cluster state)

end Cloud

def lookUpAccount : Action Cloud String := do
  Cloud.orFail "look up the AWS account id" (← Cloud.accountId)

def StackOutputs.ofAnswer (name : String) : Except CloudError Stack → Except Error StackOutputs
  | .ok stack =>
    if stack.status.outputsAccessible then .ok ⟨stack.name, stack.outputs⟩
    else .error (.outputsNotAccessible name stack.status.text)
  | .error (.notFound _) => .error (.stackNotFound name)
  | .error e => .error (.executionFailed ("describe stack " ++ name) e)

end ClusterKeeper
