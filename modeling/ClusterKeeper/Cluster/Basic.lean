import ClusterKeeper.Resource

/-!
# Clusters

The object that passes are made for: a guest cluster with its machines,
network and version.
-/

set_option autoImplicit false

namespace ClusterKeeper

structure NodeGroup where
  instanceType : String
  imageId : String
  count : UInt32
  monitoring : Bool
  deriving DecidableEq, Repr

structure Network where
  cidr : String
  peerId : String
  deriving DecidableEq, Repr

structure ClusterSpec where
  id : String
  masters : NodeGroup
  workers : NodeGroup
  vpc : Network
  version : String
  deriving DecidableEq, Repr

structure Metadata where
  name : Option String
  generateName : Option String
  namespaceName : Option String
  deletionTimestamp : Option String
  deriving DecidableEq, Repr

structure Cluster where
  metadata : Metadata
  spec : ClusterSpec
  deriving DecidableEq, Repr

namespace Cluster

def apiGroup : String := "provider.aws-operator.io"

def versionName : String := "v1alpha1"

def apiVersion : String := apiGroup ++ "/" ++ versionName

def kind : String := "AwsCluster"

def id (c : Cluster) : String := c.spec.id

def isBeingDeleted (c : Cluster) : Bool := c.metadata.deletionTimestamp.isSome

def anyName (c : Cluster) : String :=
  (c.metadata.name.orElse fun _ => c.metadata.generateName).getD ""

def key (c : Cluster) : String :=
  match c.metadata.namespaceName with
  | some space => space ++ "/" ++ c.anyName
  | none => c.anyName

instance : Managed Cluster where
  version c := c.spec.version
  isBeingDeleted := isBeingDeleted

end Cluster

end ClusterKeeper
