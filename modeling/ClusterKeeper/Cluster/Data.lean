import ClusterKeeper.Cluster.Basic
import ClusterKeeper.Data.Format
import ClusterKeeper.Timestamp

/-!
# Clusters as data

A cluster has metadata, all of whose fields are optional, and a specification,
of which only the monitoring of machines has a default. Fields of the metadata
that the operator has no use for must still be of the right type.
-/

set_option autoImplicit false

namespace ClusterKeeper

namespace Metadata

def isText (j : Json) : Bool := j.string?.isSome

def isBool (j : Json) : Bool := j.bool?.isSome

def isWord (j : Json) : Bool :=
  j.integer?.any fun n => -(Word.count63 : Int) ≤ n && n < Word.count63

def isTimestamp (j : Json) : Bool := j.string?.any Timestamp.isValid

def isListOf (item : Json → Bool) (j : Json) : Bool := j.array?.any (·.all item)

def isTextMap (j : Json) : Bool := j.object?.any (·.all fun (_, v) => isText v)

def isRecordOf (known : List (String × (Json → Bool))) (j : Json) : Bool :=
  j.object?.any fun fields => known.all fun (name, valid) =>
    (fields.lookup name).all fun v => v.isNull || valid v

def isOwnerReference : Json → Bool :=
  isRecordOf [("apiVersion", isText), ("blockOwnerDeletion", isBool), ("controller", isBool),
    ("kind", isText), ("name", isText), ("uid", isText)]

def isManagedFields : Json → Bool :=
  isRecordOf [("apiVersion", isText), ("fieldsType", isText), ("manager", isText),
    ("operation", isText), ("subresource", isText), ("time", isTimestamp)]

def known : List (String × (Json → Bool)) :=
  [("annotations", isTextMap), ("creationTimestamp", isTimestamp),
   ("deletionGracePeriodSeconds", isWord), ("deletionTimestamp", isTimestamp),
   ("finalizers", isListOf isText), ("generateName", isText), ("generation", isWord),
   ("labels", isTextMap), ("managedFields", isListOf isManagedFields), ("name", isText),
   ("namespace", isText), ("ownerReferences", isListOf isOwnerReference),
   ("resourceVersion", isText), ("selfLink", isText), ("uid", isText)]

def decode (j : Json) : Option Metadata :=
  if isRecordOf known j then
    let text (name : String) := (j.get? name).bind Json.string?
    some ⟨text "name", text "generateName", text "namespace", text "deletionTimestamp"⟩
  else none

end Metadata

def NodeGroup.decode (j : Json) : Option NodeGroup := do
  let f := Json.format
  let fields ← f.fields? ["instanceType", "imageId", "count", "monitoring"] j
  let instanceType ← required? fields "instanceType" f.text?
  let imageId ← required? fields "imageId" f.text?
  let count ← required? fields "count" f.word32?
  let monitoring ← defaulted? fields "monitoring" f.bool? false
  pure ⟨instanceType, imageId, count, monitoring⟩

def Network.decode (j : Json) : Option Network := do
  let fields ← Json.fields? ["cidr", "peerId"] j
  let cidr ← required? fields "cidr" Json.string?
  let peerId ← required? fields "peerId" Json.string?
  pure ⟨cidr, peerId⟩

namespace ClusterSpec

def single? (name : String) (j : Json) : Option String := do
  required? (← Json.fields? [name] j) name Json.string?

def decode (j : Json) : Option ClusterSpec := do
  let fields ← Json.fields? ["cluster", "masters", "workers", "vpc", "versionBundle"] j
  let id ← required? fields "cluster" (single? "id")
  let masters ← required? fields "masters" NodeGroup.decode
  let workers ← required? fields "workers" NodeGroup.decode
  let vpc ← required? fields "vpc" Network.decode
  let version ← required? fields "versionBundle" (single? "version")
  pure ⟨id, masters, workers, vpc, version⟩

def nodeGroup (g : NodeGroup) : Json :=
  .object [("instanceType", .string g.instanceType), ("imageId", .string g.imageId),
    ("count", .integer g.count.toNat), ("monitoring", .bool g.monitoring)]

def toJson (s : ClusterSpec) : Json :=
  .object [
    ("cluster", .object [("id", .string s.id)]),
    ("masters", nodeGroup s.masters),
    ("workers", nodeGroup s.workers),
    ("vpc", .object [("cidr", .string s.vpc.cidr), ("peerId", .string s.vpc.peerId)]),
    ("versionBundle", .object [("version", .string s.version)])]

end ClusterSpec

namespace Metadata

def toJson (m : Metadata) : Json :=
  .object ([("name", m.name), ("generateName", m.generateName),
    ("namespace", m.namespaceName), ("deletionTimestamp", m.deletionTimestamp)].filterMap
      fun (name, value) => value.map fun v => (name, .string v))

end Metadata

namespace Cluster

def decode (j : Json) : Option Cluster := do
  let fields ← Json.fields? ["metadata", "spec"] j
  let metadata ← required? fields "metadata" Metadata.decode
  let spec ← required? fields "spec" ClusterSpec.decode
  pure ⟨metadata, spec⟩

def toJson (c : Cluster) : Json :=
  .object [("apiVersion", .string apiVersion), ("kind", .string kind),
    ("metadata", c.metadata.toJson), ("spec", c.spec.toJson)]

end Cluster

end ClusterKeeper
