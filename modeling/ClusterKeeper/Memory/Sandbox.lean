import ClusterKeeper.Error
import ClusterKeeper.Memory.Stores

/-!
# A sandbox

A cloud in memory, with the faults that can be injected into it.
-/

set_option autoImplicit false

namespace ClusterKeeper.Memory

/-! ## Injected faults

A fault makes the calls of one operation of one service fail, so many times or
for good. The earliest one for a call is used; a later one has to wait until
it is used up. -/

inductive Service where
  | guestStacks
  | hostStacks
  | machines
  | groups
  | buckets
  | keys
  deriving DecidableEq, Repr

structure Fault where
  service : Service
  operation : String
  error : CloudError
  remaining : Option Nat
  deriving DecidableEq, Repr

namespace Fault

def isFor (f : Fault) (service : Service) (operation : String) : Bool :=
  f.service = service && f.operation = operation

def used (f : Fault) : Option Fault :=
  match f.remaining with
  | none => some f
  | some n => if n ≤ 1 then none else some { f with remaining := some (n - 1) }

def take (service : Service) (operation : String) :
    List Fault → Option (CloudError × List Fault)
  | [] => none
  | f :: rest =>
    if f.isFor service operation then some (f.error, f.used.toList ++ rest)
    else (take service operation rest).map fun (e, faults) => (e, f :: faults)

end Fault

/-! ## The cloud of a sandbox

A cloud in memory that writes down the calls that change something and fails
where faults were injected. Its templates are one line that names what they
were made from. -/

structure Sandbox where
  stores : Stores
  faults : List Fault
  calls : List String
  failingRenderer : Bool

namespace Sandbox

def accountId : String := "123456789012"

def template (account : String) (cluster : Cluster) (state : StackState) : String :=
  "account=" ++ account ++ " cluster=" ++ cluster.id ++ " version=" ++
    state.versionBundleVersion ++ " workers=" ++ state.workerCount ++ " master=" ++
    state.masterInstanceResourceName

def render (failing : Bool) (account : String) (cluster : Cluster) (state : StackState) :
    Except String String :=
  if failing then .error "template syntax error" else .ok (template account cluster state)

def conduct (failingRenderer : Bool) : Conduct where
  accountId := accountId
  render := render failingRenderer
  checksDevice := false
  updatesInPlace := false

def new (failingRenderer : Bool) : Sandbox := ⟨.empty, [], [], failingRenderer⟩

def service? : Cloud.Call → Option Service
  | .guestClients _ | .accountId | .desiredKey _ | .renderTemplate _ _ _ => none
  | .describeStack .guest _ | .createStack .guest _ _ _ | .updateStack .guest _ _
  | .deleteStack .guest _ => some .guestStacks
  | .describeStack .host _ | .createStack .host _ _ _ | .updateStack .host _ _
  | .deleteStack .host _ => some .hostStacks
  | .describeVolumes _ | .stopInstance _ _ | .waitUntilInstanceStopped _
  | .detachVolume _ _ _ | .waitUntilVolumeAvailable _ | .deleteVolume _ => some .machines
  | .describeGroup _ | .completeLifecycleAction _ => some .groups
  | .headBucket _ | .createBucket _ | .listObjects _ | .deleteObjects _ _
  | .deleteBucket _ => some .buckets
  | .currentKey _ | .createKey _ | .deleteKey _ => some .keys

def flag (b : Bool) : String := if b then "true" else "false"

def arguments? : Cloud.Call → Option (List String)
  | .createStack _ name _ _ | .updateStack _ name _ | .deleteStack _ name => some [name]
  | .stopInstance id force => some [id, "force=" ++ flag force]
  | .waitUntilInstanceStopped id | .waitUntilVolumeAvailable id | .deleteVolume id => some [id]
  | .detachVolume volume attachment force =>
    some [volume, attachment.instanceId, "force=" ++ flag force]
  | .completeLifecycleAction action => some [action.instanceId]
  | .createBucket bucket | .deleteBucket bucket => some [bucket]
  | .deleteObjects bucket keys => some [bucket, toString keys.length]
  | .createKey cluster | .deleteKey cluster => some [cluster]
  | _ => none

def line? (c : Cloud.Call) : Option String :=
  (arguments? c).map fun arguments => " ".intercalate (c.name :: arguments)

def takeFault (m : Sandbox) (c : Cloud.Call) : Option (CloudError × Sandbox) := do
  let (e, faults) ← Fault.take (← service? c) c.name m.faults
  pure (e, { m with faults := faults })

def answer (c : Cloud.Call) (m : Sandbox) : Except c.Fault c.Value × Sandbox :=
  let m := { m with calls := m.calls ++ (line? c).toList }
  match m.takeFault c with
  | some (e, m) => (Cloud.failWith c e, m)
  | none =>
    let (reply, stores) := m.stores.answer (conduct m.failingRenderer) c
    (reply, { m with stores := stores })

def encrypt (key : String) (plain : List UInt8) : List UInt8 :=
  (key ++ ":").toUTF8.toList ++ plain.reverse

def decrypt (key : String) (cipher : List UInt8) : Except CloudError (List UInt8) :=
  let mark := (key ++ ":").toUTF8.toList
  if mark.isPrefixOf cipher then .ok (cipher.drop mark.length).reverse
  else .error (.incorrectState key "ciphertext was encrypted with another key")

end Sandbox

def sampleCluster (version : String) : Cluster where
  metadata := ⟨some "a1b2c", none, some "default", none⟩
  spec := {
    id := "a1b2c"
    masters := ⟨"m5.large", "ami-1", 1, false⟩
    workers := ⟨"m5.xlarge", "ami-1", 3, true⟩
    vpc := ⟨"10.1.0.0/16", "vpc-123"⟩
    version }

def beingDeleted (c : Cluster) : Cluster :=
  { c with metadata := { c.metadata with deletionTimestamp := some "2026-01-01T00:00:00Z" } }

end ClusterKeeper.Memory
