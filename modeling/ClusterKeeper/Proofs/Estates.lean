import ClusterKeeper.Proofs.Locations
import ClusterKeeper.Proofs.Observations
import ClusterKeeper.Proofs.VolumeService

/-!
# What belongs to a cluster

The places that the names of a cluster, the tags of its volumes and the outputs
of its stack lead to. Calls that keep to them go by what is there and leave
nothing different anywhere else. Different clusters have nothing in common.
-/

set_option autoImplicit false

namespace ClusterKeeper

namespace Names

variable {account cluster other : String}

theorem guestMainStack_inj (h : guestMainStack cluster = guestMainStack other) :
    cluster = other := (String.append_right_inj _).mp ((String.append_left_inj _).mp h)

theorem hostMainStack_inj (h : hostMainStack cluster = hostMainStack other) :
    cluster = other := (String.append_right_inj _).mp ((String.append_left_inj _).mp h)

theorem hostSetupStack_inj (h : hostSetupStack cluster = hostSetupStack other) :
    cluster = other := (String.append_right_inj _).mp ((String.append_left_inj _).mp h)

/-- The ends of the names differ. -/
theorem hostMainStack_ne_hostSetupStack (cluster other : String) :
    hostMainStack cluster ≠ hostSetupStack other := by
  intro h
  have hlast := congrArg (fun name => name.toList.reverse.head?) h
  simp [hostMainStack, hostSetupStack] at hlast

theorem bucket_inj (h : bucket account cluster = bucket account other) : cluster = other :=
  (String.append_right_inj _).mp h

end Names

abbrev Volume.OwnedBy (v : Volume) (cluster : String) : Prop :=
  v.tags.lookup (Names.ownershipTag cluster) = some Names.owned

namespace Memory

structure Estate where
  conduct : Conduct
  cluster : Cluster
  stores : Stores

namespace Estate

def stack (e : Estate) : String := Names.guestMainStack e.cluster.id

def group? (e : Estate) : Option String := Drainer.groupOf e.stores.guest.present[e.stack]?

def Has (e : Estate) : Location → Prop
  | .key cluster => cluster = e.cluster.id
  | .bucket name => name = e.conduct.bucket e.cluster
  | .stack account name => (account, name) ∈ (StackDeletion.ofCluster e.cluster.id).targets
  | .volume id => ∃ v ∈ e.stores.volumes, v.id = id ∧ v.OwnedBy e.cluster.id
  | .group name => e.group? = some name

def listing (e : Estate) : List Condition :=
  [.tag (Names.ownershipTag e.cluster.id) Names.owned]

structure Covers (e : Estate) (x : Cloud.Call) : Prop where
  place : ∀ place, place? x = some place → e.Has place
  listing : ∀ conditions, x = .describeVolumes conditions → conditions = e.listing

structure Solid (e : Estate) (s : Stores) : Prop where
  nodup : (s.volumes.map (·.id)).Nodup
  volumes : Shrinks e.stores.volumes s.volumes
  group : ∀ name, Drainer.groupOf s.guest.present[e.stack]? = some name → e.group? = some name

def Agree (e : Estate) (s s' : Stores) : Prop := ∀ place, e.Has place → s.held place = s'.held place

variable {e : Estate} {k : Conduct} {s s' : Stores} {x : Cloud.Call} {place : Location}
  {name : String} {v : Volume}

theorem Solid.start (hn : (e.stores.volumes.map (·.id)).Nodup) : e.Solid e.stores where
  nodup := hn
  volumes := .refl _
  group _ h := h

theorem has_stack (e : Estate) : e.Has (.stack .guest e.stack) := List.mem_cons_self

theorem Covers.of_place (hx : place? x = some place) (hp : e.Has place) : e.Covers x where
  place place' hx' := by
    rw [hx] at hx'
    cases hx'
    exact hp
  listing conditions hl := by
    subst hl
    cases hx

theorem Covers.of_placeless (hx : place? x = none)
    (hl : ∀ conditions, x ≠ .describeVolumes conditions) : e.Covers x where
  place place hx' := by
    rw [hx] at hx'
    cases hx'
  listing conditions heq := absurd heq (hl conditions)

theorem covers_listing (e : Estate) : e.Covers (.describeVolumes e.listing) where
  place _ hx := nomatch hx
  listing conditions heq := by
    cases heq
    rfl

/-! What a call does to places. -/

theorem shrinks_answer (hn : (s.volumes.map (·.id)).Nodup) (k : Conduct) (x : Cloud.Call) :
    Shrinks s.volumes (s.answer k x).2.volumes := by
  cases hx : place? x with
  | none =>
    rw [Stores.answer_of_unchanging (Stores.changes_of_placeless hx)]
    exact .refl _
  | some place => exact (Stores.located_of_place k hx).shrinks hn

theorem held_of_not_has (hx : e.Covers x) (hn : (s.volumes.map (·.id)).Nodup)
    (hp : ¬e.Has place) : (s.answer k x).2.held place = s.held place := by
  cases hplace : place? x with
  | none => rw [Stores.answer_of_unchanging (Stores.changes_of_placeless hplace)]
  | some place' =>
    refine (Stores.located_of_place k hplace).elsewhere hn fun heq => hp ?_
    exact heq ▸ hx.place place' hplace

/-- A stack that was not there is created without outputs, and outputs that are
there stay as they are. -/
theorem groupOf_answer (hk : k.updatesInPlace = false) (hn : (s.volumes.map (·.id)).Nodup)
    (x : Cloud.Call) {group : String}
    (h : Drainer.groupOf (s.answer k x).2.guest.present[name]? = some group) :
    Drainer.groupOf s.guest.present[name]? = some group := by
  cases hx : place? x with
  | none => rwa [Stores.answer_of_unchanging (Stores.changes_of_placeless hx)] at h
  | some place =>
    by_cases hplace : place = .stack .guest name
    · subst hplace
      cases x with
      | describeStack _ _ => rwa [Stores.answer_of_unchanging rfl] at h
      | createStack account name' body tags =>
        cases hx
        have ha : s.answer k (.createStack .guest name body tags) =
            s.settle () (s.createStack .guest ⟨name, body, tags⟩) := Stores.answer_of_change rfl
        rw [ha, Stores.createStack] at h
        split at h
        · exact h
        · exact absurd ((Table.getElem?_insert _ _ _ _).trans (if_pos rfl) ▸ h) nofun
      | updateStack account name' body =>
        cases hx
        have ha : s.answer k (.updateStack .guest name body) =
            s.settle () (s.updateStack k .guest ⟨name, body⟩) := Stores.answer_of_change rfl
        rw [ha, Stores.updateStack, if_neg (by rw [hk]; exact Bool.false_ne_true)] at h
        exact h
      | deleteStack account name' =>
        cases hx
        have ha : s.answer k (.deleteStack .guest name) =
            s.settle () (s.deleteStack .guest name) := Stores.answer_of_change rfl
        rw [ha, Stores.deleteStack] at h
        split at h
        · exact absurd ((Table.getElem?_erase _ _ _).trans (if_pos rfl) ▸ h) nofun
        · exact h
      | _ => cases hx
    · have hother : .stack .guest name ≠ place := fun heq => hplace heq.symm
      have hheld : (s.answer k x).2.guest.present[name]? = s.guest.present[name]? :=
        (Stores.located_of_place k hx).elsewhere hn hother
      rwa [hheld] at h

theorem Solid.answer (h : e.Solid s) (hk : k.updatesInPlace = false) (x : Cloud.Call) :
    e.Solid (s.answer k x).2 where
  nodup := (shrinks_answer h.nodup k x).nodup h.nodup
  volumes := h.volumes.trans (shrinks_answer h.nodup k x)
  group _ hg := h.group _ (groupOf_answer hk h.nodup x hg)

/-! What a call tells of the places of the cluster. -/

theorem holds_listing (e : Estate) (v : Volume) :
    e.listing.all (Condition.holdsFor · v) = decide (v.OwnedBy e.cluster.id) := by
  rw [listing, List.all_cons, List.all_nil, Bool.and_true, holdsFor_tag]

theorem Solid.has_volume (h : e.Solid s) (hv : v ∈ s.volumes) (ho : v.OwnedBy e.cluster.id) :
    e.Has (.volume v.id) := by
  obtain ⟨w, hw, hid, htags, -⟩ := h.volumes.origin v hv
  exact ⟨w, hw, hid, by rw [Volume.OwnedBy, htags]; exact ho⟩

theorem Solid.has_listed (h : e.Solid s) (hv : v ∈ s.describeVolumes e.listing) :
    e.Has (.volume v.id) := by
  obtain ⟨hv, ho⟩ := List.mem_filter.mp hv
  rw [holds_listing] at ho
  exact h.has_volume hv (of_decide_eq_true ho)

theorem describeVolumes_eq (h : e.Solid s) (h' : e.Solid s')
    (hn : (e.stores.volumes.map (·.id)).Nodup) (heq : e.Agree s s') :
    s.describeVolumes e.listing = s'.describeVolumes e.listing := by
  refine filter_eq_of_volumeIn hn h.volumes.ids h'.volumes.ids fun id ⟨v, hv, ho, hid⟩ => ?_
  rw [holds_listing] at ho
  subst hid
  refine heq (.volume v.id) ?_
  rcases List.mem_append.mp hv with hv | hv
  · exact h.has_volume hv (of_decide_eq_true ho)
  · exact h'.has_volume hv (of_decide_eq_true ho)

/-- A call that keeps to the cluster goes by what belongs to it. -/
theorem Agree.answer (heq : e.Agree s s') (hx : e.Covers x) (h : e.Solid s) (h' : e.Solid s')
    (hn : (e.stores.volumes.map (·.id)).Nodup) (k : Conduct) :
    (s.answer k x).1 = (s'.answer k x).1 ∧ e.Agree (s.answer k x).2 (s'.answer k x).2 := by
  cases hplace : place? x with
  | none =>
    have hchanges := Stores.changes_of_placeless hplace
    rw [Stores.answer_of_unchanging hchanges k s, Stores.answer_of_unchanging hchanges k s']
    refine ⟨?_, heq⟩
    by_cases hl : ∃ conditions, x = .describeVolumes conditions
    · obtain ⟨conditions, rfl⟩ := hl
      obtain rfl := hx.listing conditions rfl
      exact congrArg Except.ok (describeVolumes_eq h h' hn heq)
    · exact Stores.answer_of_placeless hplace (fun conditions hc => hl ⟨conditions, hc⟩) k s s'
  | some place =>
    have hlocated := Stores.located_of_place k hplace
    have hhas := hx.place place hplace
    obtain ⟨hr, hhere⟩ := hlocated.here h.nodup h'.nodup (heq place hhas)
    refine ⟨hr, fun other ho => ?_⟩
    by_cases hother : other = place
    · subst hother
      exact hhere
    · rw [hlocated.elsewhere h.nodup hother, hlocated.elsewhere h'.nodup hother]
      exact heq other ho

theorem guest_stack (h : e.Has (.stack .guest name)) :
    name = Names.guestMainStack e.cluster.id := by
  simpa [Has, StackDeletion.targets, StackDeletion.ofCluster] using h

theorem host_stack (h : e.Has (.stack .host name)) :
    name = Names.hostMainStack e.cluster.id ∨ name = Names.hostSetupStack e.cluster.id := by
  simpa [Has, StackDeletion.targets, StackDeletion.ofCluster] using h

/-- Different clusters have no place in common, as long as they share no volume and
no group. -/
theorem not_has_of_has {one two : Cluster} (hids : one.id ≠ two.id)
    (hn : (s.volumes.map (·.id)).Nodup)
    (howned : ∀ v ∈ s.volumes, v.OwnedBy one.id → ¬v.OwnedBy two.id)
    (hgroups : ∀ name, (Estate.mk k one s).group? = some name →
      (Estate.mk k two s).group? ≠ some name)
    (h : (Estate.mk k one s).Has place) : ¬(Estate.mk k two s).Has place := by
  intro h'
  cases place with
  | key cluster => exact hids (h.symm.trans h')
  | bucket name => exact hids (Names.bucket_inj (h.symm.trans h'))
  | stack account name =>
    cases account with
    | guest => exact hids (Names.guestMainStack_inj ((guest_stack h).symm.trans (guest_stack h')))
    | host =>
      rcases host_stack h with h₁ | h₁ <;> rcases host_stack h' with h₂ | h₂
      · exact hids (Names.hostMainStack_inj (h₁.symm.trans h₂))
      · exact Names.hostMainStack_ne_hostSetupStack _ _ (h₁.symm.trans h₂)
      · exact Names.hostMainStack_ne_hostSetupStack _ _ (h₂.symm.trans h₁)
      · exact hids (Names.hostSetupStack_inj (h₁.symm.trans h₂))
  | volume id =>
    obtain ⟨v, hv, hid, ho⟩ := h
    obtain ⟨w, hw, hid', ho'⟩ := h'
    obtain rfl := List.inj_on_of_nodup_map hn hv hw (hid.trans hid'.symm)
    exact howned v hv ho ho'
  | group name => exact hgroups name h h'

end Estate

end Memory

end ClusterKeeper
