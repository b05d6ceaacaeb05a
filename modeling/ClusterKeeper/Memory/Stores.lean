import ClusterKeeper.Cloud.Call
import Std.Data.ExtTreeMap
import Std.Data.ExtTreeSet

/-!
# A cloud in memory

The things that the calls of the cloud are about, kept in tables, and what
each call does to them. A call that fails leaves everything as it was.
-/

set_option autoImplicit false

namespace ClusterKeeper.Memory

abbrev Table (α : Type) : Type := Std.ExtTreeMap String α

structure StackCreation where
  name : String
  body : String
  tags : List (String × String)
  deriving DecidableEq, Repr

structure StackStore where
  present : Table Stack
  created : List StackCreation
  updated : List UpdateRequest

structure Stores where
  guest : StackStore
  host : StackStore
  volumes : List Volume
  groups : Table (List GroupMember)
  completed : List LifecycleAction
  buckets : Table (List String)
  keys : Std.ExtTreeSet String

/-- What differs from one such cloud to another, such as whether a detachment has to name the
right device, too, and whether an update needs an existing stack and changes its status. -/
structure Conduct where
  accountId : String
  render : (account : String) → Cluster → StackState → Except String String
  checksDevice : Bool
  updatesInPlace : Bool

def StackStore.empty : StackStore := ⟨∅, [], []⟩

namespace Stores

def empty : Stores := ⟨.empty, .empty, [], ∅, [], ∅, ∅⟩

def stackStore (s : Stores) : Account → StackStore
  | .guest => s.guest
  | .host => s.host

def setStackStore (s : Stores) (account : Account) (store : StackStore) : Stores :=
  match account with
  | .guest => { s with guest := store }
  | .host => { s with host := store }

def insertStack (s : Stores) (account : Account) (name : String) (stack : Stack) : Stores :=
  let store := s.stackStore account
  s.setStackStore account { store with present := store.present.insert name stack }

def removeStack (s : Stores) (account : Account) (name : String) : Stores :=
  let store := s.stackStore account
  s.setStackStore account { store with present := store.present.erase name }

def insertMember (s : Stores) (group : String) (member : GroupMember) : Stores :=
  { s with groups := s.groups.insert group ((s.groups[group]?.getD []) ++ [member]) }

def keyName (cluster : String) : String := "alias/" ++ cluster

end Stores

def Condition.holdsFor (c : Condition) (v : Volume) : Bool :=
  let key := if c.name.startsWith "tag:" then (c.name.drop 4).toString else c.name
  (v.tags.lookup key).any c.values.contains

def detach (id instanceId : String) (isMeant : Attachment → Bool) :
    List Volume → Except CloudError (List Volume)
  | [] => .error (.notFound id)
  | v :: rest =>
    if v.id = id then
      if v.attachments.any isMeant then
        .ok ({ v with attachments := v.attachments.filter (!isMeant ·) } :: rest)
      else .error (.incorrectState id ("not attached to " ++ instanceId))
    else (detach id instanceId isMeant rest).map (v :: ·)

def removeVolume (id : String) : List Volume → Except CloudError (List Volume)
  | [] => .error (.notFound id)
  | v :: rest =>
    if v.id = id then
      if v.attachments.isEmpty then .ok rest
      else .error (.incorrectState id "volume is in use")
    else (removeVolume id rest).map (v :: ·)

def releasedState : String := "Terminating:Proceed"

def release (id : String) : List GroupMember → Option (List GroupMember)
  | [] => none
  | m :: rest =>
    if m.instanceId = id ∧ m.lifecycleState = GroupMember.parkedState then
      some ({ m with lifecycleState := releasedState } :: rest)
    else (release id rest).map (m :: ·)

namespace Stores

def describeStack (s : Stores) (account : Account) (name : String) : Except CloudError Stack :=
  match (s.stackStore account).present[name]? with
  | some stack => .ok stack
  | none => .error (.notFound name)

def createStack (s : Stores) (account : Account) (request : StackCreation) :
    Except CloudError Stores :=
  let store := s.stackStore account
  if request.name ∈ store.present then .error (.alreadyExists request.name)
  else .ok (s.setStackStore account { store with
    present := store.present.insert request.name ⟨request.name, .createInProgress, []⟩
    created := store.created ++ [request] })

def updateStack (k : Conduct) (s : Stores) (account : Account) (request : UpdateRequest) :
    Except CloudError Stores :=
  let store := s.stackStore account
  let taken := { store with updated := store.updated ++ [request] }
  if k.updatesInPlace then
    match store.present[request.stack]? with
    | none => .error (.notFound request.stack)
    | some stack => .ok (s.setStackStore account { taken with
        present := store.present.insert request.stack { stack with status := .updateInProgress } })
  else .ok (s.setStackStore account taken)

def deleteStack (s : Stores) (account : Account) (name : String) : Except CloudError Stores :=
  if name ∈ (s.stackStore account).present then .ok (s.removeStack account name)
  else .error (.notFound name)

def describeVolumes (s : Stores) (conditions : List Condition) : List Volume :=
  s.volumes.filter fun v => conditions.all (Condition.holdsFor · v)

def detachVolume (k : Conduct) (s : Stores) (volume : String) (attachment : Attachment) :
    Except CloudError Stores := do
  let isMeant (a : Attachment) : Bool :=
    a.instanceId = attachment.instanceId && (!k.checksDevice || a.device = attachment.device)
  pure { s with volumes := ← detach volume attachment.instanceId isMeant s.volumes }

def deleteVolume (s : Stores) (id : String) : Except CloudError Stores := do
  pure { s with volumes := ← removeVolume id s.volumes }

def describeGroup (s : Stores) (group : String) : Except CloudError (List GroupMember) :=
  match s.groups[group]? with
  | some members => .ok members
  | none => .error (.notFound group)

def completeLifecycleAction (s : Stores) (action : LifecycleAction) :
    Except CloudError Stores :=
  match s.groups[action.group]?.bind (release action.instanceId) with
  | none => .error (.notFound ("lifecycle action of " ++ action.instanceId))
  | some members => .ok { s with
      groups := s.groups.insert action.group members
      completed := s.completed ++ [action] }

def listObjects (s : Stores) (bucket : String) : Except CloudError (List String) :=
  match s.buckets[bucket]? with
  | some objects => .ok objects
  | none => .error (.notFound bucket)

def createBucket (s : Stores) (bucket : String) : Except CloudError Stores :=
  if bucket ∈ s.buckets then .error (.alreadyExists bucket)
  else .ok { s with buckets := s.buckets.insert bucket [] }

def deleteObjects (s : Stores) (bucket : String) (objects : List String) :
    Except CloudError Stores := do
  let present ← s.listObjects bucket
  pure { s with buckets := s.buckets.insert bucket (present.filter (· ∉ objects)) }

def deleteBucket (s : Stores) (bucket : String) : Except CloudError Stores := do
  if (← s.listObjects bucket).isEmpty then pure { s with buckets := s.buckets.erase bucket }
  else throw (.incorrectState bucket "bucket is not empty")

def currentKey (s : Stores) (cluster : String) : String :=
  if cluster ∈ s.keys then keyName cluster else ""

def createKey (s : Stores) (cluster : String) : Except CloudError Stores :=
  if cluster ∈ s.keys then .error (.alreadyExists (keyName cluster))
  else .ok { s with keys := s.keys.insert cluster }

def deleteKey (s : Stores) (cluster : String) : Except CloudError Stores :=
  if cluster ∈ s.keys then .ok { s with keys := s.keys.erase cluster }
  else .error (.notFound (keyName cluster))

def attempt (k : Conduct) (s : Stores) : (c : Cloud.Call) → Except c.Fault (c.Value × Stores)
  | .guestClients _ => .ok ((), s)
  | .accountId => .ok (k.accountId, s)
  | .describeStack account name => (s.describeStack account name).map (·, s)
  | .createStack account name body tags =>
    (s.createStack account ⟨name, body, tags⟩).map ((), ·)
  | .updateStack account name body => (s.updateStack k account ⟨name, body⟩).map ((), ·)
  | .deleteStack account name => (s.deleteStack account name).map ((), ·)
  | .describeVolumes conditions => .ok (s.describeVolumes conditions, s)
  | .stopInstance _ _ => .ok ((), s)
  | .waitUntilInstanceStopped _ => .ok ((), s)
  | .detachVolume volume attachment _ => (s.detachVolume k volume attachment).map ((), ·)
  | .waitUntilVolumeAvailable _ => .ok ((), s)
  | .deleteVolume id => (s.deleteVolume id).map ((), ·)
  | .describeGroup group => (s.describeGroup group).map (·, s)
  | .completeLifecycleAction action => (s.completeLifecycleAction action).map ((), ·)
  | .headBucket bucket => (s.listObjects bucket).map fun _ => ((), s)
  | .createBucket bucket => (s.createBucket bucket).map ((), ·)
  | .listObjects bucket => (s.listObjects bucket).map (·, s)
  | .deleteObjects bucket keys => (s.deleteObjects bucket keys).map ((), ·)
  | .deleteBucket bucket => (s.deleteBucket bucket).map ((), ·)
  | .currentKey cluster => .ok (s.currentKey cluster, s)
  | .desiredKey cluster => .ok (keyName cluster, s)
  | .createKey cluster => (s.createKey cluster).map ((), ·)
  | .deleteKey cluster => (s.deleteKey cluster).map ((), ·)
  | .renderTemplate account cluster state => (k.render account cluster state).map (·, s)

def answer (k : Conduct) (c : Cloud.Call) (s : Stores) : Except c.Fault c.Value × Stores :=
  match s.attempt k c with
  | .ok (value, s) => (.ok value, s)
  | .error e => (.error e, s)

end Stores

end ClusterKeeper.Memory
