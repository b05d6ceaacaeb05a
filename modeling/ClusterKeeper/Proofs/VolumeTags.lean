import ClusterKeeper.Volumes

/-!
# Tags of the volumes of a cluster

The volumes of a cluster carry the tag of their owner. A tag with a name tells the one with
the etcd data, and any value of another tag tells those that were made for persistent
volumes. A listing by kinds finds the same volumes.
-/

set_option autoImplicit false

namespace ClusterKeeper

abbrev Tags : Type := List (String × String)

namespace Volumes

section

variable (cluster : String) (tags : Tags)

def isOwned : Bool := tags.lookup (Names.ownershipTag cluster) = some Names.owned

def holdsEtcd : Bool := tags.lookup Names.nameTag = some (Names.etcdVolume cluster)

/-- The name is that of the etcd volume of the cluster, or there is a persistent volume
that this one was made for. -/
def isLoose : Bool :=
  holdsEtcd cluster tags || (tags.lookup Names.persistentVolumeTag).isSome

theorem matches_etcd : (VolumeKind.etcd cluster).matches tags = holdsEtcd cluster tags := rfl

theorem any_matches_loose :
    [VolumeKind.etcd cluster, .persistent].any (·.matches tags) = isLoose cluster tags := by
  simp [isLoose, holdsEtcd, VolumeKind.matches]

end

variable {cluster : String}

def isListed (cluster : String) (kinds : List VolumeKind) (tags : Tags) : Bool :=
  isOwned cluster tags && (kinds.isEmpty || kinds.any (·.matches tags))

theorem isListed_etcd : isListed cluster [.etcd cluster] =
    fun tags => isOwned cluster tags && holdsEtcd cluster tags := by
  funext tags
  simp [isListed, matches_etcd]

theorem isListed_loose : isListed cluster [.etcd cluster, .persistent] =
    fun tags => isOwned cluster tags && isLoose cluster tags := by
  funext tags
  rw [isListed, any_matches_loose]
  rfl

end Volumes

namespace Trial

def ownedBy (cluster : String) : String × String := (Names.ownershipTag cluster, Names.owned)

def volumes : List Volume :=
  [⟨"vol-1", [⟨"/dev/xvdh", "i-1"⟩], [ownedBy "a1b2c", (Names.nameTag, Names.etcdVolume "a1b2c")]⟩,
   ⟨"vol-2", [], [ownedBy "other", (Names.nameTag, Names.etcdVolume "other")]⟩]

theorem volumes_nodup : (volumes.map (·.id)).Nodup := by decide

example : (volumes.filter fun v => Volumes.isOwned "a1b2c" v.tags &&
    Volumes.isLoose "a1b2c" v.tags).map (·.id) = ["vol-1"] := by decide

end Trial

end ClusterKeeper
