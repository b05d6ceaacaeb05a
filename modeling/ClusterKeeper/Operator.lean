import ClusterKeeper.Config
import ClusterKeeper.Reconciler
import ClusterKeeper.Resources
import ClusterKeeper.Resources.MainStack

/-!
# The operator

Each version bundle of the configuration gets a resource set of its own, all
with the same five resources in the same order.
-/

set_option autoImplicit false

namespace ClusterKeeper.Operator

def startPass (updatesAllowed : Bool) (cluster : Cluster) : Action Cloud PassContext := do
  let answer ← Cloud.guestClients cluster.id
  Cloud.orFail ("create AWS clients for cluster " ++ cluster.id) answer
  pure ⟨updatesAllowed⟩

def resources (c : Config) (bundle : VersionBundle) : ResourceSet.Builder Cloud Cluster :=
  ResourceSet.Builder.new
    |>.setPolicy c.retry
    |>.setProject c.installationName
    |>.addCrud EncryptionKey.resource
    |>.addCrud Bucket.resource
    |>.add (LooseVolumes.resource c.volumeDeletionPolicy)
    |>.addCrud (MainStack.resource bundle.cloudConfigVersion c.volumeDeletionPolicy)
    |>.addCrud Drainer.resource

def resourceSet (c : Config) (bundle : VersionBundle) :
    Except Error (ResourceSet Cloud Cluster) :=
  (resources c bundle).build (ResourceSet.handlesVersion bundle.version)
    (startPass c.guestUpdateEnabled)

def reconciler (c : Config) : Except Error (Reconciler Cloud Cluster) := do
  let sets ← c.versionBundles.mapM (resourceSet c)
  pure ⟨← Router.ofList sets⟩

end ClusterKeeper.Operator
