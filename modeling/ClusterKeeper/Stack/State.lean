import ClusterKeeper.Cloud.Basic
import ClusterKeeper.Cluster.Basic
import ClusterKeeper.Digest.Sha256

/-!
# States of the main stack

What is known and wanted of the main stack of a cluster, and what is to be done about the
difference.
-/

set_option autoImplicit false

namespace ClusterKeeper

/-! ## Name of the master instance

The logical name of the master in the template changes with its image, its
instance type and its configuration, which makes the cloud replace the
machine. It is made from a digest of these three, each ended by a zero byte. -/

namespace MasterName

def encode (parts : List String) : List UInt8 :=
  parts.flatMap fun part => part.toUTF8.toList ++ [0]

def hexDigit (n : Nat) : Char := Nat.digitChar n

def hexByte (b : UInt8) : List Char := [hexDigit (b.toNat / 16), hexDigit (b.toNat % 16)]

def leadingDigits (digest : List UInt8) : String :=
  String.ofList ((digest.take 4).flatMap hexByte)

def ofParts (image instanceType cloudConfigVersion : String) : String :=
  "MasterInstance" ++
    leadingDigits (Sha256.digest (encode [image, instanceType, cloudConfigVersion]))

end MasterName

/-! ## States

A state is read from the outputs of the stack or derived from the cluster. A
state without a name stands for a stack that does not exist, one that has a
name and nothing else for a stack whose outputs cannot be read. -/

structure UpdateRequest where
  stack : String
  body : String
  deriving DecidableEq, Repr

structure StackState where
  name : String := ""
  masterImageId : String := ""
  masterInstanceType : String := ""
  masterCloudConfigVersion : String := ""
  masterInstanceResourceName : String := ""
  masterMonitoring : Bool := false
  workerCount : String := ""
  workerImageId : String := ""
  workerInstanceType : String := ""
  workerCloudConfigVersion : String := ""
  workerMonitoring : Bool := false
  versionBundleVersion : String := ""
  shouldScale : Bool := false
  shouldUpdate : Bool := false
  updateRequest : Option UpdateRequest := none
  deriving DecidableEq, Repr

def StackOutputs.get (o : StackOutputs) (key : String) : Except Error String :=
  match lastValue? key o.pairs with
  | some value => .ok value
  | none => .error (.notFound ("output " ++ key ++ " of stack " ++ o.stack))

namespace StackState

def absent : StackState := {}

def unread (name : String) : StackState := { name }

def exists? (s : StackState) : Bool := s.name ≠ ""

def hasOutputs (s : StackState) : Bool := s.versionBundleVersion ≠ ""

def ofOutputs (o : StackOutputs) (name : String) : Except Error StackState := do
  let masterImageId ← o.get "MasterImageID"
  let masterInstanceType ← o.get "MasterInstanceType"
  let masterCloudConfigVersion ← o.get "MasterCloudConfigVersion"
  let masterInstanceResourceName ← o.get "MasterInstanceResourceName"
  let workerCount ← o.get "WorkerCount"
  let workerImageId ← o.get "WorkerImageID"
  let workerInstanceType ← o.get "WorkerInstanceType"
  let workerCloudConfigVersion ← o.get "WorkerCloudConfigVersion"
  let versionBundleVersion ← o.get "VersionBundleVersion"
  pure {
    name, masterImageId, masterInstanceType, masterCloudConfigVersion,
    masterInstanceResourceName, workerCount, workerImageId, workerInstanceType,
    workerCloudConfigVersion, versionBundleVersion }

def desired (c : Cluster) (cloudConfigVersion : String) : StackState where
  name := Names.guestMainStack c.id
  masterImageId := c.spec.masters.imageId
  masterInstanceType := c.spec.masters.instanceType
  masterCloudConfigVersion := cloudConfigVersion
  masterInstanceResourceName :=
    MasterName.ofParts c.spec.masters.imageId c.spec.masters.instanceType cloudConfigVersion
  masterMonitoring := c.spec.masters.monitoring
  workerCount := toString c.spec.workers.count.toNat
  workerImageId := c.spec.workers.imageId
  workerInstanceType := c.spec.workers.instanceType
  workerCloudConfigVersion := cloudConfigVersion
  workerMonitoring := c.spec.workers.monitoring
  versionBundleVersion := c.spec.version

end StackState

/-! ## Scaling and updating

A stack is scaled if the number of workers is all that differs. It is updated,
which replaces the master, if a machine type, the version or the number of
workers differs and updates are allowed. A new image or configuration alone
changes nothing. -/

inductive Decision where
  | scale
  | update
  | keep
  deriving DecidableEq, Repr

namespace StackState

def needsScaling (current desired : StackState) : Bool :=
  current.masterImageId = desired.masterImageId &&
  current.masterInstanceType = desired.masterInstanceType &&
  current.masterCloudConfigVersion = desired.masterCloudConfigVersion &&
  current.workerImageId = desired.workerImageId &&
  current.workerInstanceType = desired.workerInstanceType &&
  current.workerCloudConfigVersion = desired.workerCloudConfigVersion &&
  current.versionBundleVersion = desired.versionBundleVersion &&
  current.workerCount ≠ desired.workerCount

def needsUpdate (current desired : StackState) (updatesAllowed : Bool) : Bool :=
  (current.masterInstanceType ≠ desired.masterInstanceType ||
    current.workerInstanceType ≠ desired.workerInstanceType ||
    current.versionBundleVersion ≠ desired.versionBundleVersion ||
    current.workerCount ≠ desired.workerCount) && updatesAllowed

/-- At most one of the two. Scaling goes before updating. -/
def decide (current desired : StackState) (updatesAllowed : Bool) : Decision :=
  if current.needsScaling desired then .scale
  else if current.needsUpdate desired updatesAllowed then .update
  else .keep

end StackState

end ClusterKeeper
