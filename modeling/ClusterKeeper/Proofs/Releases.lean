import ClusterKeeper.Proofs.Tables
import ClusterKeeper.Proofs.UnreliableCloud
import ClusterKeeper.Resources

/-!
# Releases of instances

A release turns one waiting entry of an instance into a released one. How often
an instance still waits is counted, since a group may list it more than once.
-/

set_option autoImplicit false

namespace ClusterKeeper.Memory

def isWaiting (id : String) (m : GroupMember) : Bool :=
  decide (m.instanceId = id ∧ m.lifecycleState = GroupMember.parkedState)

def waiting (id : String) (members : List GroupMember) : Nat := members.countP (isWaiting id)

def released (m : GroupMember) : GroupMember :=
  if m.lifecycleState = GroupMember.parkedState then { m with lifecycleState := releasedState }
  else m

variable {id other : String} {members after : List GroupMember} {m : GroupMember}

theorem isWaiting_release (m : GroupMember) (other : String) :
    isWaiting other { m with lifecycleState := releasedState } = false := by
  have h : releasedState ≠ GroupMember.parkedState := by decide
  simp [isWaiting, h]

theorem waiting_cons (other : String) (m : GroupMember) (members : List GroupMember) :
    waiting other (m :: members) = waiting other members + if isWaiting other m then 1 else 0 :=
  List.countP_cons

/-- A release is about the first member or about the rest. -/
theorem release_cons_some {m : GroupMember} {rest : List GroupMember}
    (h : release id (m :: rest) = some after) :
    isWaiting id m = true ∧ after = { m with lifecycleState := releasedState } :: rest ∨
      isWaiting id m = false ∧ ∃ rest', release id rest = some rest' ∧ after = m :: rest' := by
  rw [release] at h
  split at h
  · next hm =>
    cases h
    exact .inl ⟨decide_eq_true hm, rfl⟩
  · next hm =>
    obtain ⟨rest', hr, rfl⟩ := Option.map_eq_some_iff.mp h
    exact .inr ⟨decide_eq_false hm, rest', hr, rfl⟩

theorem release_cons_none {m : GroupMember} {rest : List GroupMember}
    (h : release id (m :: rest) = none) : isWaiting id m = false ∧ release id rest = none := by
  rw [release] at h
  split at h
  · cases h
  · next hm => exact ⟨decide_eq_false hm, Option.map_eq_none_iff.mp h⟩

theorem released_of_release (h : release id members = some after) :
    after.map released = members.map released := by
  induction members generalizing after with
  | nil => cases h
  | cons m rest ih =>
    rcases release_cons_some h with ⟨hm, rfl⟩ | ⟨-, rest', hr, rfl⟩
    · have hstate : m.lifecycleState = GroupMember.parkedState := (of_decide_eq_true hm).2
      have hne : releasedState ≠ GroupMember.parkedState := by decide
      simp [released, hstate, hne]
    · rw [List.map_cons, List.map_cons, ih hr]

theorem waiting_of_release (h : release id members = some after) (other : String) :
    waiting other after + (if other = id then 1 else 0) = waiting other members := by
  induction members generalizing after with
  | nil => cases h
  | cons m rest ih =>
    rcases release_cons_some h with ⟨hm, rfl⟩ | ⟨-, rest', hr, rfl⟩
    · rw [waiting_cons, waiting_cons, isWaiting_release m other]
      by_cases ho : other = id
      · subst ho
        simp [hm]
      · have hid : m.instanceId = id := (of_decide_eq_true hm).1
        have hw : isWaiting other m = false :=
          decide_eq_false fun hw => ho (hw.1.symm.trans hid)
        simp [hw, ho]
    · rw [waiting_cons, waiting_cons, ← ih hr]
      omega

theorem waiting_of_release_none (h : release id members = none) : waiting id members = 0 := by
  induction members with
  | nil => rfl
  | cons m rest ih =>
    obtain ⟨hm, hr⟩ := release_cons_none h
    rw [waiting_cons, ih hr, hm]
    rfl

theorem released_of_isWaiting (h : isWaiting id m = true) :
    released m = { m with lifecycleState := releasedState } :=
  if_pos (of_decide_eq_true h).2

theorem not_parked_released (m : GroupMember) :
    (released m).lifecycleState ≠ GroupMember.parkedState := by
  by_cases h : m.lifecycleState = GroupMember.parkedState
  · rw [released, if_pos h]
    show releasedState ≠ GroupMember.parkedState
    decide
  · rwa [released, if_neg h]

theorem waiting_release (members : List GroupMember) (id other : String) :
    waiting other ((release id members).getD members) =
      waiting other members - if id = other then 1 else 0 := by
  cases hr : release id members with
  | none =>
    by_cases hid : id = other
    · subst hid
      simp [waiting_of_release_none hr]
    · simp [hid]
  | some after =>
    have h := waiting_of_release hr other
    by_cases hid : id = other
    · subst hid
      simp at h ⊢
      omega
    · simp [hid, Ne.symm hid] at h ⊢
      omega

/-- A release is about one member, which was parked. -/
theorem exists_of_release (h : release id members = some after) :
    ∃ (i : Nat) (m : GroupMember), members[i]? = some m ∧ isWaiting id m = true ∧
      ∀ j, after[j]? = if j = i then some (released m) else members[j]? := by
  induction members generalizing after with
  | nil => cases h
  | cons m rest ih =>
    rcases release_cons_some h with ⟨hm, rfl⟩ | ⟨-, rest', hr, rfl⟩
    · refine ⟨0, m, rfl, hm, fun j => ?_⟩
      cases j <;> simp [released_of_isWaiting hm]
    · obtain ⟨i, m', hi, hm', hafter⟩ := ih hr
      refine ⟨i + 1, m', hi, hm', fun j => ?_⟩
      cases j <;> simp [hafter]

theorem map_released_eq_self (h : ∀ id, waiting id members = 0) :
    members.map released = members := by
  have hself : ∀ m ∈ members, released m = id m := by
    intro m hm
    apply if_neg
    intro hp
    have hw : isWaiting m.instanceId m = true := decide_eq_true ⟨rfl, hp⟩
    exact absurd hw (List.countP_eq_zero.mp (h m.instanceId) m hm)
  rw [List.map_congr_left hself, List.map_id]

/-- Every waiting entry gets an action of its own. -/
theorem countP_parked (group id : String) (members : List GroupMember) :
    (Drainer.parked group members).countP (fun a => decide (a.instanceId = id)) =
      waiting id members := by
  rw [Drainer.parked, List.countP_map, List.countP_filter]
  apply List.countP_congr
  intro m _
  simp [isWaiting]

namespace Stores

variable {k : Conduct} {s : Stores} {action : LifecycleAction}

def waiting (s : Stores) (group id : String) : Nat :=
  (s.groups[group]?).elim 0 (Memory.waiting id)

def completions (s : Stores) (group id : String) : Nat :=
  s.completed.countP fun a => decide (a.group = group ∧ a.instanceId = id)

theorem answer_complete_of_some {members after : List GroupMember}
    (hg : s.groups[action.group]? = some members)
    (hr : release action.instanceId members = some after) :
    s.answer k (.completeLifecycleAction action) = (.ok (), { s with
      groups := s.groups.insert action.group after
      completed := s.completed ++ [action] }) := by
  apply (answer_of_change rfl).trans
  rw [completeLifecycleAction, hg, Option.bind_some, hr]
  rfl

theorem answer_complete_of_none
    (h : s.groups[action.group]?.bind (release action.instanceId) = none) :
    s.answer k (.completeLifecycleAction action) =
      (.error (.notFound ("lifecycle action of " ++ action.instanceId)), s) := by
  apply (answer_of_change rfl).trans
  rw [completeLifecycleAction, h]
  rfl

theorem groups_complete (k : Conduct) (s : Stores) (action : LifecycleAction) (group : String) :
    (s.answer k (.completeLifecycleAction action)).2.groups[group]? =
      s.groups[group]?.map fun members => if action.group = group
        then (release action.instanceId members).getD members else members := by
  cases hr : s.groups[action.group]?.bind (release action.instanceId) with
  | none =>
    rw [answer_complete_of_none hr]
    by_cases hgroup : action.group = group
    · subst hgroup
      cases hg : s.groups[action.group]? with
      | none => rfl
      | some members =>
        rw [hg, Option.bind_some] at hr
        simp [hr]
    · simp [hgroup]
  | some after =>
    obtain ⟨members, hg, hrelease⟩ := Option.bind_eq_some_iff.mp hr
    rw [answer_complete_of_some hg hrelease, Table.getElem?_insert]
    by_cases hgroup : action.group = group
    · subst hgroup
      simp [hg, hrelease]
    · simp [hgroup]

/-- One instance waits once less, if it waits at all. -/
theorem waiting_complete (k : Conduct) (s : Stores) (action : LifecycleAction)
    (group id : String) :
    (s.answer k (.completeLifecycleAction action)).2.waiting group id =
      s.waiting group id -
        if action.group = group ∧ action.instanceId = id then 1 else 0 := by
  rw [waiting, waiting, groups_complete]
  cases s.groups[group]? with
  | none => simp
  | some members =>
    by_cases hgroup : action.group = group
    · simp [hgroup, waiting_release]
    · simp [hgroup]

end Stores

end ClusterKeeper.Memory
