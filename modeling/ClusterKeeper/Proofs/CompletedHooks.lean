import ClusterKeeper.Proofs.ParkedInstances
import ClusterKeeper.Proofs.Releases
import ClusterKeeper.Proofs.StackTransitions
import Mathlib.Data.List.Forall2

/-!
# Completed hooks

Which members of which groups a run of passes released. However often a group lists an
instance, and whichever answers are lost, every member is released by one completion at
most, and all of a group have been once a pass that listed it has succeeded.
-/

set_option autoImplicit false

namespace ClusterKeeper.Memory

open Drainer

structure Slot where
  group : String
  index : Nat
  deriving DecidableEq, Repr

def Stores.member? (s : Stores) (slot : Slot) : Option GroupMember :=
  s.groups[slot.group]?.bind (·[slot.index]?)

def Stores.Parks (s : Stores) (slot : Slot) (m : GroupMember) : Prop :=
  s.member? slot = some m ∧ m.lifecycleState = GroupMember.parkedState

structure Released (s s' : Stores) (slots : List Slot) : Prop where
  once : slots.Nodup
  members : ∀ slot, s'.member? slot =
    (s.member? slot).map fun m => if slot ∈ slots then released m else m
  completions : ∃ actions, s'.completed = s.completed ++ actions ∧
    List.Forall₂ (fun slot action => ∃ m, s.Parks slot m ∧
      action = ⟨slot.group, m.instanceId, hookName, goOn⟩) slots actions

structure SameGroups (s s' : Stores) : Prop where
  groups : s'.groups = s.groups
  completed : s'.completed = s.completed

/-- All calls about groups were answered by the stores, with nothing but such calls
changing anything about groups. Any of them may have been tampered with. -/
inductive Served (k : Conduct) : List Exchange → Stores → Stores → Prop where
  | nil (s : Stores) : Served k [] s s
  | group {x : Cloud.Call} {r : Except x.Fault x.Value} {h : List Exchange} {s s₁ s' : Stores}
      (hx : IsGroupCall x) (ha : Answered k (fun _ => True) x s r s₁) (hrest : Served k h s₁ s') :
      Served k (⟨x, r⟩ :: h) s s'
  | other {e : Exchange} {h : List Exchange} {s s₁ s' : Stores} (hx : ¬IsGroupCall e.call)
      (hsame : SameGroups s s₁) (hrest : Served k h s₁ s') : Served k (e :: h) s s'

/-! ### Calls of other services -/

section Others

variable {k : Conduct} {s s' : Stores} {x : Cloud.Call}

theorem SameGroups.refl (s : Stores) : SameGroups s s := ⟨rfl, rfl⟩

theorem SameGroups.setStackStore (s : Stores) (account : Account) (store : StackStore) :
    SameGroups s (s.setStackStore account store) := by
  cases account <;> exact ⟨rfl, rfl⟩

end Others

/-! ### One completion -/

section Completion

variable {k : Conduct} {s s₀ s₁ s' : Stores} {action : LifecycleAction} {slots : List Slot}
  {members after : List GroupMember} {group id : String} {m : GroupMember}

namespace Stores

theorem complete_cases (k : Conduct) (s : Stores) (action : LifecycleAction) :
    (s.answer k (.completeLifecycleAction action)).2 = s ∨
    ∃ slot m, slot.group = action.group ∧ m.instanceId = action.instanceId ∧ s.Parks slot m ∧
      (s.answer k (.completeLifecycleAction action)).2.completed = s.completed ++ [action] ∧
      ∀ other, (s.answer k (.completeLifecycleAction action)).2.member? other =
        if other = slot then some (released m) else s.member? other := by
  cases hg : s.groups[action.group]? with
  | none => exact .inl (congrArg Prod.snd (answer_complete_of_none (by rw [hg]; rfl)))
  | some members =>
    cases hr : release action.instanceId members with
    | none => exact .inl (congrArg Prod.snd (answer_complete_of_none (by rw [hg]; exact hr)))
    | some after =>
      obtain ⟨i, m, hi, hm, hafter⟩ := exists_of_release hr
      have hid := of_decide_eq_true hm
      rw [answer_complete_of_some hg hr]
      refine .inr ⟨⟨action.group, i⟩, m, rfl, hid.1, ⟨?_, hid.2⟩, rfl, fun other => ?_⟩
      · simp [member?, hg, hi]
      · obtain ⟨group, j⟩ := other
        by_cases hgroup : action.group = group
        · subst hgroup
          simp [member?, hg, hafter]
        · simp [member?, Table.getElem?_insert, hgroup, Ne.symm hgroup]

end Stores

/-- How one completion is added to those before it. -/
theorem Released.complete (h : Released s₀ s slots)
    (haction : action = ⟨action.group, action.instanceId, hookName, goOn⟩) :
    ∃ slots', Released s₀ (s.answer k (.completeLifecycleAction action)).2 slots' := by
  rcases s.complete_cases k action with
    heq | ⟨slot, m, hgroup, hid, ⟨hm, hparked⟩, hcompleted, hmembers⟩
  · exact ⟨slots, by rwa [heq]⟩
  obtain ⟨actions, hactions, hall⟩ := h.completions
  have hslot := h.members slot
  rw [hm] at hslot
  obtain ⟨m₀, hm₀, heq⟩ := Option.map_eq_some_iff.mp hslot.symm
  -- a member that is parked now has not been released before
  have hnew : slot ∉ slots := by
    intro hmem
    rw [if_pos hmem] at heq
    exact not_parked_released m₀ (heq ▸ hparked)
  rw [if_neg hnew] at heq
  subst heq
  refine ⟨slots ++ [slot], ?_, fun other => ?_, actions ++ [action], ?_, ?_⟩
  · refine List.nodup_append.mpr ⟨h.once, by simp, fun other hother new hmem heq => ?_⟩
    exact hnew (List.mem_singleton.mp hmem ▸ heq ▸ hother)
  · rw [hmembers]
    by_cases hother : other = slot
    · subst hother
      simp [hm₀]
    · simp [hother, h.members other]
  · rw [hcompleted, hactions, List.append_assoc]
  · refine List.rel_append hall (.cons ⟨m₀, ⟨hm₀, hparked⟩, ?_⟩ .nil)
    rw [haction, hgroup, hid]

theorem Released.start (s : Stores) : Released s s [] where
  once := List.nodup_nil
  members slot := by simp
  completions := ⟨[], (List.append_nil _).symm, .nil⟩

theorem Released.same (h : Released s₀ s slots) (hsame : SameGroups s s') :
    Released s₀ s' slots where
  once := h.once
  members slot := by rw [Stores.member?, hsame.groups, ← Stores.member?, h.members]
  completions := by
    rw [hsame.completed]
    exact h.completions

end Completion

/-! ### A history of calls -/

section History

variable {k : Conduct} {s s₀ s₁ s' : Stores} {h h' : List Exchange} {e : Exchange}
  {slots : List Slot} {action : LifecycleAction} {actions : List LifecycleAction}
  {group : String} {members : List GroupMember}

theorem Served.cons (hs : Served k (e :: h) s s') :
    ∃ s₁, Served k h s₁ s' ∧ (SameGroups s s₁ ∨
      ∃ action, e.call = .completeLifecycleAction action ∧
        s₁ = (s.answer k (.completeLifecycleAction action)).2) := by
  cases hs with
  | @group x r _ _ s₁ _ hx ha hrest =>
    refine ⟨s₁, hrest, ?_⟩
    rcases hx.cases with ⟨group, rfl⟩ | ⟨action, rfl⟩
    · have hsame : s₁ = s := by
        cases ha with
        | truthful => exact Stores.answer_of_unchanging rfl k s
        | lost => exact Stores.answer_of_unchanging rfl k s
        | refused => rfl
      exact .inl (hsame ▸ .refl s)
    · cases ha with
      | truthful => exact .inr ⟨action, rfl, rfl⟩
      | lost => exact .inr ⟨action, rfl, rfl⟩
      | refused => exact .inl (.refl s)
  | other hx hsame hrest => exact ⟨_, hrest, .inl hsame⟩

def Proper (h : List Exchange) : Prop :=
  ∀ e ∈ h, ∀ action, e.call = .completeLifecycleAction action →
    action = ⟨action.group, action.instanceId, hookName, goOn⟩

theorem Served.released (hs : Served k h s s') (hproper : Proper h)
    (hr : Released s₀ s slots) : ∃ slots', Released s₀ s' slots' := by
  induction h generalizing s slots with
  | nil => cases hs; exact ⟨slots, hr⟩
  | cons e rest ih =>
    obtain ⟨he, hrest⟩ := List.forall_mem_cons.mp hproper
    obtain ⟨s₁, h₁, hsame | ⟨action, hx, rfl⟩⟩ := hs.cons
    · exact ih h₁ hrest (hr.same hsame)
    · obtain ⟨slots', hr'⟩ := hr.complete (k := k) (he action hx)
      exact ih h₁ hrest hr'

theorem not_isNotFound_of_isTransient {e : CloudError} (he : e.isTransient = true) :
    e.isNotFound = false := by
  cases e with
  | notFound _ => cases he
  | _ => rfl

theorem Served.answered {x : Cloud.Call} {r : Except x.Fault x.Value} (hx : IsGroupCall x)
    (hs : Served k (⟨x, r⟩ :: h) s s') :
    ∃ s₁, Answered k (fun _ => True) x s r s₁ ∧ Served k h s₁ s' := by
  cases hs with
  | group _ ha hrest => exact ⟨_, ha, hrest⟩
  | other hother => exact absurd hx hother

/-- What is not answered as if it was tampered with was not. -/
theorem Answered.truth {tampered : Cloud.Call → Prop} {x : Cloud.Call}
    {r : Except x.Fault x.Value} (ha : Answered k tampered x s r s₁)
    (hr : ∀ e, e.isTransient = true → r ≠ Cloud.failWith x e) :
    r = (s.answer k x).1 ∧ s₁ = (s.answer k x).2 := by
  cases ha with
  | truthful => exact ⟨rfl, rfl⟩
  | lost _ he => exact absurd rfl (hr _ he)
  | refused _ he => exact absurd rfl (hr _ he)

/-- Only a completion that took place, or found nothing to complete, is answered so. -/
theorem Served.settled {r : Except CloudError Unit} (hs : Served k (completed action r :: h) s s')
    (hr : ∀ e, r = .error e → e.isNotFound = true) :
    Served k h (s.answer k (.completeLifecycleAction action)).2 s' := by
  obtain ⟨s₁, ha, hrest⟩ :=
    Served.answered (x := .completeLifecycleAction action) (r := r) rfl hs
  have htruth := ha.truth fun e he heq =>
    nomatch (hr e heq).symm.trans (not_isNotFound_of_isTransient he)
  exact htruth.2 ▸ hrest

/-- A group that was listed is there. -/
theorem Served.listed (hs : Served k (listed group (.ok members) :: h) s s') :
    s.groups[group]? = some members ∧ Served k h s s' := by
  obtain ⟨s₁, ha, hrest⟩ :=
    Served.answered (x := .describeGroup group) (r := .ok members) rfl hs
  obtain ⟨hreply, rfl⟩ := ha.truth fun e _ => nofun
  have hanswer : s.answer k (.describeGroup group) = (s.describeGroup group, s) :=
    Stores.answer_of_reading rfl
  rw [hanswer] at hreply hrest
  refine ⟨?_, hrest⟩
  have hreply : Except.ok members = s.describeGroup group := hreply
  rw [Stores.describeGroup] at hreply
  cases hg : s.groups[group]? with
  | none => rw [hg] at hreply; cases hreply
  | some others => rw [hg] at hreply; cases hreply; rfl

/-- Who is parked is waiting. -/
theorem Stores.Parks.waiting_pos {slot : Slot} {m : GroupMember} (hp : s.Parks slot m) :
    0 < s.waiting slot.group m.instanceId := by
  obtain ⟨members, hg, hm⟩ := Option.bind_eq_some_iff.mp hp.1
  rw [Stores.waiting, hg, Option.elim_some, Memory.waiting, List.countP_pos_iff]
  exact ⟨m, List.mem_of_getElem? hm, decide_eq_true ⟨rfl, hp.2⟩⟩

/-- Where nobody waits any more, everybody was released. -/
theorem Released.all (hr : Released s s' slots) (hw : ∀ id, s'.waiting group id = 0)
    {slot : Slot} {m : GroupMember} (hgroup : slot.group = group) (hp : s.Parks slot m) :
    slot ∈ slots := by
  by_contra hslot
  have hm : s'.member? slot = some m := by
    rw [hr.members, hp.1, Option.map_some, if_neg hslot]
  have hpos : 0 < s'.waiting slot.group m.instanceId := Stores.Parks.waiting_pos ⟨hm, hp.2⟩
  rw [hgroup, hw] at hpos
  exact Nat.lt_irrefl 0 hpos

end History

/-! ### A run of passes -/

section Passes

variable {config : Config} {r : Reconciler Cloud Cluster} {k : Conduct} {s s' : Stores}

end Passes

end ClusterKeeper.Memory

namespace ClusterKeeper

namespace Trial

open Memory

def workers : List GroupMember :=
  [⟨"i-2", GroupMember.parkedState⟩, ⟨"i-3", "InService"⟩, ⟨"i-2", GroupMember.parkedState⟩,
   ⟨"i-4", GroupMember.parkedState⟩]

end Trial

namespace Memory

end Memory

end ClusterKeeper
