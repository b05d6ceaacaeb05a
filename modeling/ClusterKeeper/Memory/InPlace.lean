import ClusterKeeper.Memory.Sandbox

/-!
# Operations in place

The operations of the sandbox in the order in which they read and write the
stores. Some write before they know whether they can succeed, and what has been
written is not taken back.
-/

set_option autoImplicit false

namespace ClusterKeeper.Memory

/-- Steps on the stores. Those before a failure stay done. -/
abbrev InPlace (ε α : Type) : Type := ExceptT ε (StateM Stores) α

namespace InPlace

def perform {ε α : Type} (a : InPlace ε α) (s : Stores) : Except ε α × Stores :=
  ((ExceptT.run a).run s).run

def describeStack (account : Account) (name : String) : InPlace CloudError Stack := do
  match ((← get).stackStore account).present[name]? with
  | some stack => pure stack
  | none => throw (.notFound name)

def createStack (account : Account) (request : StackCreation) : InPlace CloudError Unit := do
  if request.name ∈ ((← get).stackStore account).present then
    throw (.alreadyExists request.name)
  modify fun s => s.insertStack account request.name ⟨request.name, .createInProgress, []⟩
  modify fun s => s.setStackStore account { s.stackStore account with
    created := (s.stackStore account).created ++ [request] }

def updateStack (account : Account) (request : UpdateRequest) : InPlace CloudError Unit :=
  modify fun s => s.setStackStore account { s.stackStore account with
    updated := (s.stackStore account).updated ++ [request] }

def deleteStack (account : Account) (name : String) : InPlace CloudError Unit := do
  let before := (← get).stackStore account
  modify (·.removeStack account name)
  if name ∉ before.present then throw (.notFound name)

def attachmentsAt (i : Nat) (volumes : List Volume) : Option Nat :=
  volumes[i]?.map (·.attachments.length)

def detachVolume (id : String) (attachment : Attachment) : InPlace CloudError Unit := do
  let before := (← get).volumes
  match before.findIdx? (·.id = id) with
  | none => throw (.notFound id)
  | some i =>
    modify fun s => { s with volumes := s.volumes.modify i fun v =>
      { v with attachments := v.attachments.filter (·.instanceId ≠ attachment.instanceId) } }
    if attachmentsAt i (← get).volumes = attachmentsAt i before then
      throw (.incorrectState id ("not attached to " ++ attachment.instanceId))

def deleteVolume (id : String) : InPlace CloudError Unit := do
  let before := (← get).volumes
  match before.findIdx? (·.id = id) with
  | none => throw (.notFound id)
  | some i =>
    if attachmentsAt i before ≠ some 0 then throw (.incorrectState id "volume is in use")
    modify fun s => { s with volumes := s.volumes.eraseIdx i }

def describeGroup (group : String) : InPlace CloudError (List GroupMember) := do
  match (← get).groups[group]? with
  | some members => pure members
  | none => throw (.notFound group)

def isParked (id : String) (m : GroupMember) : Bool :=
  m.instanceId = id && m.lifecycleState = GroupMember.parkedState

def completeLifecycleAction (action : LifecycleAction) : InPlace CloudError Unit := do
  match (← get).groups[action.group]?.bind (·.findIdx? (isParked action.instanceId)) with
  | none => throw (.notFound ("lifecycle action of " ++ action.instanceId))
  | some i =>
    modify fun s => { s with groups := s.groups.modify action.group (·.modify i fun m =>
      { m with lifecycleState := releasedState }) }
    modify fun s => { s with completed := s.completed ++ [action] }

def listObjects (bucket : String) : InPlace CloudError (List String) := do
  match (← get).buckets[bucket]? with
  | some objects => pure objects
  | none => throw (.notFound bucket)

def headBucket (bucket : String) : InPlace CloudError Unit := do
  if bucket ∉ (← get).buckets then throw (.notFound bucket)

def createBucket (bucket : String) : InPlace CloudError Unit := do
  if bucket ∈ (← get).buckets then throw (.alreadyExists bucket)
  modify fun s => { s with buckets := s.buckets.insert bucket [] }

def deleteObjects (bucket : String) (objects : List String) : InPlace CloudError Unit := do
  if bucket ∉ (← get).buckets then throw (.notFound bucket)
  modify fun s => { s with buckets := s.buckets.modify bucket (·.filter (· ∉ objects)) }

def deleteBucket (bucket : String) : InPlace CloudError Unit := do
  match (← get).buckets[bucket]? with
  | none => throw (.notFound bucket)
  | some objects =>
    if !objects.isEmpty then throw (.incorrectState bucket "bucket is not empty")
    modify fun s => { s with buckets := s.buckets.erase bucket }

def createKey (cluster : String) : InPlace CloudError Unit := do
  let before := (← get).keys
  modify fun s => { s with keys := s.keys.insert cluster }
  if cluster ∈ before then throw (.alreadyExists (Stores.keyName cluster))

def deleteKey (cluster : String) : InPlace CloudError Unit := do
  let before := (← get).keys
  modify fun s => { s with keys := s.keys.erase cluster }
  if cluster ∉ before then throw (.notFound (Stores.keyName cluster))

def call (failingRenderer : Bool) : (c : Cloud.Call) → InPlace c.Fault c.Value
  | .guestClients _ => pure ()
  | .accountId => pure Sandbox.accountId
  | .describeStack account name => describeStack account name
  | .createStack account name body tags => createStack account ⟨name, body, tags⟩
  | .updateStack account name body => updateStack account ⟨name, body⟩
  | .deleteStack account name => deleteStack account name
  | .describeVolumes conditions => do pure ((← get).describeVolumes conditions)
  | .stopInstance _ _ => pure ()
  | .waitUntilInstanceStopped _ => pure ()
  | .detachVolume volume attachment _ => detachVolume volume attachment
  | .waitUntilVolumeAvailable _ => pure ()
  | .deleteVolume id => deleteVolume id
  | .describeGroup group => describeGroup group
  | .completeLifecycleAction action => completeLifecycleAction action
  | .headBucket bucket => headBucket bucket
  | .createBucket bucket => createBucket bucket
  | .listObjects bucket => listObjects bucket
  | .deleteObjects bucket keys => deleteObjects bucket keys
  | .deleteBucket bucket => deleteBucket bucket
  | .currentKey cluster => do pure ((← get).currentKey cluster)
  | .desiredKey cluster => pure (Stores.keyName cluster)
  | .createKey cluster => createKey cluster
  | .deleteKey cluster => deleteKey cluster
  | .renderTemplate account cluster state =>
    ExceptT.mk (pure (Sandbox.render failingRenderer account cluster state))

end InPlace

end ClusterKeeper.Memory
