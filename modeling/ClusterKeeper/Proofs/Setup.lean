import ClusterKeeper.Proofs.Observations
import ClusterKeeper.Proofs.Releases
import ClusterKeeper.Proofs.VolumeService

/-!
# Creation of a cluster

While a cluster is created or updated, its things are put in where they are
missing, its volumes may be retired and its instances let go of. Where all of
this leads is the same throughout.
-/

set_option autoImplicit false

namespace ClusterKeeper.Memory

structure Aim where
  conduct : Conduct
  cluster : Cluster
  cloudConfigVersion : String
  updatesAllowed : Bool

def releasedIn (groups : Table (List GroupMember)) : Option String → Table (List GroupMember)
  | none => groups
  | some group => groups.modify group (List.map released)

namespace Aim

variable (a : Aim)

def stackName : String := Names.guestMainStack a.cluster.id

def desired : StackState := StackState.desired a.cluster a.cloudConfigVersion

def body : String :=
  match a.conduct.render a.conduct.accountId a.cluster a.desired with
  | .ok body => body
  | .error _ => ""

def freshStack : Stack := ⟨a.stackName, .createInProgress, []⟩

def creation : StackCreation :=
  ⟨a.stackName, a.body, [(Names.ownershipTag a.cluster.id, Names.owned)]⟩

def isEtcd (tags : Tags) : Bool :=
  Volumes.isOwned a.cluster.id tags && Volumes.holdsEtcd a.cluster.id tags

def current (s : Stores) : StackState := .observed a.stackName s.guest.present[a.stackName]?

def due (s : Stores) : Bool :=
  (a.current s).hasOutputs && (a.current s).decide a.desired a.updatesAllowed = .update

def group (s : Stores) : Option String := Drainer.groupOf s.guest.present[a.stackName]?

def settledGuest (store : StackStore) : StackStore :=
  if a.stackName ∈ store.present then { store with updated := [] }
  else ⟨store.present.insert a.stackName a.freshStack, store.created ++ [a.creation], []⟩

/-- The stores with everything as a creation leaves it. Nothing is said of how
often an update was asked for and in which order hooks were completed. -/
def settled (s : Stores) : Stores where
  guest := a.settledGuest s.guest
  host := s.host
  volumes := if a.due s then s.volumes.filter (fun v => !a.isEtcd v.tags) else s.volumes
  groups := releasedIn s.groups (a.group s)
  completed := []
  buckets := s.buckets.insertIfNew (a.conduct.bucket a.cluster) []
  keys := s.keys.insert a.cluster.id

end Aim

def Stores.contents (s : Stores) : Stores :=
  { s with guest := { s.guest with updated := [] }, completed := [] }

structure Settling (a : Aim) (before after : Stores) : Prop where
  ends : a.settled after = a.settled before
  key : a.cluster.id ∈ before.keys → a.cluster.id ∈ after.keys
  bucket : a.conduct.bucket a.cluster ∈ before.buckets →
    a.conduct.bucket a.cluster ∈ after.buckets
  stack : a.stackName ∈ before.guest.present → a.stackName ∈ after.guest.present
  due : a.due after = a.due before
  group : a.group after = a.group before
  volumes : Thins a.isEtcd before.volumes after.volumes
  groups : ∀ group, group ∈ after.groups ↔ group ∈ before.groups
  waiting : ∀ group id, after.waiting group id ≤ before.waiting group id
  completions : ∀ group id, after.completions group id + after.waiting group id =
    before.completions group id + before.waiting group id

namespace Settling

variable {a : Aim} {s s' s'' : Stores}

theorem refl (a : Aim) (s : Stores) : Settling a s s where
  ends := rfl
  key h := h
  bucket h := h
  stack h := h
  due := rfl
  group := rfl
  volumes := .refl _
  groups _ := Iff.rfl
  waiting _ _ := Nat.le_refl _
  completions _ _ := rfl

theorem trans (h : Settling a s s') (h' : Settling a s' s'') : Settling a s s'' where
  ends := h'.ends.trans h.ends
  key hk := h'.key (h.key hk)
  bucket hb := h'.bucket (h.bucket hb)
  stack hs := h'.stack (h.stack hs)
  due := h'.due.trans h.due
  group := h'.group.trans h.group
  volumes := h.volumes.trans h'.volumes
  groups group := (h'.groups group).trans (h.groups group)
  waiting group id := Nat.le_trans (h'.waiting group id) (h.waiting group id)
  completions group id := (h'.completions group id).trans (h.completions group id)

theorem of_keys (a : Aim) (s : Stores) :
    Settling a s { s with keys := s.keys.insert a.cluster.id } := by
  refine { refl a s with ends := ?_, key := fun _ => Std.ExtTreeSet.mem_insert_self }
  exact congrArg (fun keys => { a.settled s with keys }) (Keys.insert_insert _ _)

theorem of_buckets (h : a.conduct.bucket a.cluster ∉ s.buckets) :
    Settling a s { s with buckets := s.buckets.insert (a.conduct.bucket a.cluster) [] } := by
  refine { refl a s with ends := ?_, bucket := fun _ => Std.ExtTreeMap.mem_insert_self }
  exact congrArg (fun buckets => { a.settled s with buckets }) (Table.insertIfNew_insert h _)

theorem of_updated (a : Aim) (s : Stores) (updated : List UpdateRequest) :
    Settling a s { s with guest := { s.guest with updated } } := by
  refine { refl a s with ends := ?_ }
  refine congrArg (fun guest => { a.settled s with guest }) ?_
  unfold Aim.settledGuest
  split <;> rfl

theorem of_volumes {volumes : List Volume} (hdue : a.due s = true)
    (h : Thins a.isEtcd s.volumes volumes) : Settling a s { s with volumes := volumes } := by
  refine { refl a s with ends := ?_, volumes := h }
  refine congrArg (fun volumes => { a.settled s with volumes }) ?_
  have hdue' : a.due { s with volumes := volumes } = true := hdue
  rw [hdue, hdue', if_pos rfl, if_pos rfl, h.others]

/-- A stack that does not exist and one that is being created say nothing about
themselves. -/
theorem due_of_fresh (hs : s.guest.present[a.stackName]? = none ∨
    s.guest.present[a.stackName]? = some a.freshStack) : a.due s = false := by
  rcases hs with hs | hs <;> rw [Aim.due, Aim.current, hs] <;> rfl

theorem group_of_fresh (hs : s.guest.present[a.stackName]? = none ∨
    s.guest.present[a.stackName]? = some a.freshStack) : a.group s = none := by
  rcases hs with hs | hs <;> rw [Aim.group, hs] <;> rfl

theorem of_creation (h : a.stackName ∉ s.guest.present) :
    Settling a s { s with guest := { s.guest with
      present := s.guest.present.insert a.stackName a.freshStack
      created := s.guest.created ++ [a.creation] } } := by
  have hbefore : s.guest.present[a.stackName]? = none := Std.ExtTreeMap.getElem?_eq_none h
  have hafter : (s.guest.present.insert a.stackName a.freshStack)[a.stackName]? =
      some a.freshStack := (Table.getElem?_insert _ _ _ _).trans (if_pos rfl)
  have hdue := due_of_fresh (.inl hbefore)
  have hgroup := group_of_fresh (.inl hbefore)
  refine { refl a s with ends := ?_, stack := ?_, due := ?_, group := ?_ }
  · have hguest : a.settledGuest { s.guest with
        present := s.guest.present.insert a.stackName a.freshStack
        created := s.guest.created ++ [a.creation] } = a.settledGuest s.guest := by
      rw [Aim.settledGuest, Aim.settledGuest, if_neg h, if_pos Std.ExtTreeMap.mem_insert_self]
    rw [Aim.settled, Aim.settled, hguest, hdue, hgroup, due_of_fresh (.inr hafter),
      group_of_fresh (.inr hafter)]
  · exact fun _ => Std.ExtTreeMap.mem_insert_self
  · rw [hdue, due_of_fresh (.inr hafter)]
  · rw [hgroup, group_of_fresh (.inr hafter)]

theorem waiting_insert {s : Stores} {group : String} {after : List GroupMember}
    {completed : List LifecycleAction} (other id : String) :
    ({ s with groups := s.groups.insert group after, completed } : Stores).waiting other id =
      if group = other then Memory.waiting id after else s.waiting other id := by
  rw [Stores.waiting, Table.getElem?_insert]
  split <;> rfl

theorem of_release {action : LifecycleAction} {members after : List GroupMember}
    (hgroup : a.group s = some action.group) (hg : s.groups[action.group]? = some members)
    (hr : release action.instanceId members = some after) :
    Settling a s { s with
      groups := s.groups.insert action.group after
      completed := s.completed ++ [action] } := by
  have hbefore : ∀ id, s.waiting action.group id = Memory.waiting id members := fun id => by
    rw [Stores.waiting, hg, Option.elim_some]
  refine { refl a s with ends := ?_, groups := ?_, waiting := ?_, completions := ?_ }
  · have hgroups : releasedIn (s.groups.insert action.group after) (a.group s) =
        releasedIn s.groups (a.group s) := by
      rw [hgroup]
      exact Table.modify_insert hg (released_of_release hr)
    exact congrArg (fun groups => { a.settled s with groups }) hgroups
  · intro group
    rw [Std.ExtTreeMap.mem_insert, Std.LawfulEqCmp.compare_eq_iff_eq]
    exact ⟨fun h => h.elim (fun h => h ▸ Table.mem_of_some hg) id, .inr⟩
  · intro group id
    rw [waiting_insert]
    split
    · next hk =>
      subst hk
      have hw := waiting_of_release hr id
      rw [hbefore]
      omega
    · exact Nat.le_refl _
  · intro group id
    have hcount : ({ s with
        groups := s.groups.insert action.group after
        completed := s.completed ++ [action] } : Stores).completions group id =
          s.completions group id +
            if action.group = group ∧ action.instanceId = id then 1 else 0 := by
      rw [Stores.completions, List.countP_append, List.countP_singleton]
      simp only [decide_eq_true_eq]
      rfl
    rw [hcount, waiting_insert]
    by_cases hk : action.group = group
    · subst hk
      have hw := waiting_of_release hr id
      rw [if_pos rfl, hbefore, ← hw]
      by_cases hid : action.instanceId = id
      · rw [if_pos ⟨rfl, hid⟩, if_pos hid.symm]
        omega
      · rw [if_neg fun h => hid h.2, if_neg fun h => hid h.symm]
        omega
    · rw [if_neg fun h => hk h.1, if_neg hk, Nat.add_zero]

end Settling

def setup (a : Aim) (tampered : Cloud.Call → Prop) : Regime where
  conduct := a.conduct
  tampered := tampered
  Moves := Settling a
  refl := Settling.refl a
  trans := Settling.trans

structure Prepared (a : Aim) (s : Stores) : Prop where
  key : a.cluster.id ∈ s.keys
  bucket : a.conduct.bucket a.cluster ∈ s.buckets
  stack : a.stackName ∈ s.guest.present
  volumes : a.due s = true → Thinning.Spared a.isEtcd s

structure Settled (a : Aim) (s : Stores) : Prop extends Prepared a s where
  members : ∀ group, a.group s = some group → group ∈ s.groups ∧ ∀ id, s.waiting group id = 0

theorem Settled.releasedIn_eq {a : Aim} {s : Stores} (h : Settled a s) :
    releasedIn s.groups (a.group s) = s.groups := by
  cases hg : a.group s with
  | none => rfl
  | some group =>
    refine Table.modify_eq_self fun members hm => map_released_eq_self fun id => ?_
    have hw := (h.members group hg).2 id
    rwa [Stores.waiting, hm, Option.elim_some] at hw

theorem Settled.contents_eq {a : Aim} {s : Stores} (h : Settled a s) :
    s.contents = a.settled s := by
  have hvolumes : (if a.due s then s.volumes.filter (fun v => !a.isEtcd v.tags) else s.volumes) =
      s.volumes := by
    split
    · next hdue => exact ((Thins.refl s.volumes).eq_filter (h.volumes hdue)).symm
    · rfl
  have hguest : a.settledGuest s.guest = { s.guest with updated := [] } := if_pos h.stack
  rw [Aim.settled, hguest, hvolumes, h.releasedIn_eq, Table.insertIfNew_of_mem h.bucket,
    Keys.insert_of_mem h.key]
  rfl

theorem Settling.prepared {a : Aim} {s s' : Stores} (hm : Settling a s s') (h : Prepared a s) :
    Prepared a s' where
  key := hm.key h.key
  bucket := hm.bucket h.bucket
  stack := hm.stack h.stack
  volumes hdue := (h.volumes (hm.due ▸ hdue)).thins hm.volumes

theorem Settling.settled {a : Aim} {s s' : Stores} (hm : Settling a s s') (h : Settled a s) :
    Settled a s' where
  toPrepared := hm.prepared h.toPrepared
  members group hg := by
    obtain ⟨hin, hw⟩ := h.members group (hm.group ▸ hg)
    exact ⟨(hm.groups group).mpr hin, fun id => Nat.le_zero.mp (hw id ▸ hm.waiting group id)⟩

/-- How often each hook was completed can be read off what else is left. -/
theorem Settling.completions_of_contents {a : Aim} {s s₁ s₂ : Stores} (h₁ : Settling a s s₁)
    (h₂ : Settling a s s₂) (h : s₁.contents = s₂.contents) (group id : String) :
    s₁.completions group id = s₂.completions group id := by
  have hwaiting : s₁.waiting group id = s₂.waiting group id := by
    show s₁.contents.waiting group id = s₂.contents.waiting group id
    rw [h]
  have hsum := (h₁.completions group id).trans (h₂.completions group id).symm
  omega

end ClusterKeeper.Memory
