import ClusterKeeper.Proofs.Regime
import ClusterKeeper.Proofs.VolumeTags
import ClusterKeeper.Resources

/-!
# Removal of volumes

Volumes are told apart by their tags. Those that are doomed lose attachments
and disappear in the end; all others are left as they are.
-/

set_option autoImplicit false

namespace ClusterKeeper

structure Thins (doomed : Tags → Bool) (before after : List Volume) : Prop where
  ids : (after.map (·.id)).Sublist (before.map (·.id))
  origin : ∀ v ∈ after, ∃ w ∈ before, w.id = v.id ∧ w.tags = v.tags ∧
    v.attachments ⊆ w.attachments
  others : after.filter (fun v => !doomed v.tags) = before.filter (fun v => !doomed v.tags)

namespace Thins

variable {doomed : Tags → Bool} {v : Volume} {before after later : List Volume}

theorem refl (volumes : List Volume) : Thins doomed volumes volumes where
  ids := .refl _
  origin v hv := ⟨v, hv, rfl, rfl, fun _ ha => ha⟩
  others := rfl

theorem trans (h : Thins doomed before after) (h' : Thins doomed after later) :
    Thins doomed before later where
  ids := h'.ids.trans h.ids
  origin v hv := by
    obtain ⟨w, hw, hid, htags, ha⟩ := h'.origin v hv
    obtain ⟨u, hu, hid', htags', ha'⟩ := h.origin w hw
    exact ⟨u, hu, hid'.trans hid, htags'.trans htags, fun _ hm => ha' (ha hm)⟩
  others := h'.others.trans h.others

theorem cons (v : Volume) (h : Thins doomed before after) :
    Thins doomed (v :: before) (v :: after) where
  ids := h.ids.cons_cons v.id
  origin w hw := by
    rcases List.mem_cons.mp hw with rfl | hw
    · exact ⟨w, List.mem_cons_self, rfl, rfl, fun _ ha => ha⟩
    · obtain ⟨u, hu, hrest⟩ := h.origin w hw
      exact ⟨u, List.mem_cons_of_mem _ hu, hrest⟩
  others := by rw [List.filter_cons, List.filter_cons, h.others]

/-- The first volume loses some of its attachments. -/
theorem loosen (hv : doomed v.tags = true) (keep : Attachment → Bool) (rest : List Volume) :
    Thins doomed (v :: rest) ({ v with attachments := v.attachments.filter keep } :: rest) where
  ids := .refl _
  origin w hw := by
    rcases List.mem_cons.mp hw with rfl | hw
    · exact ⟨v, List.mem_cons_self, rfl, rfl, fun _ ha => (List.mem_filter.mp ha).1⟩
    · exact ⟨w, List.mem_cons_of_mem _ hw, rfl, rfl, fun _ ha => ha⟩
  others := by rw [List.filter_cons_of_neg (by simp [hv]), List.filter_cons_of_neg (by simp [hv])]

/-- The first volume is removed. -/
theorem drop (hv : doomed v.tags = true) (rest : List Volume) :
    Thins doomed (v :: rest) rest where
  ids := List.sublist_cons_self _ _
  origin w hw := ⟨w, List.mem_cons_of_mem _ hw, rfl, rfl, fun _ ha => ha⟩
  others := by rw [List.filter_cons_of_neg (by simp [hv])]

theorem nodup (h : Thins doomed before after) (hn : (before.map (·.id)).Nodup) :
    (after.map (·.id)).Nodup := hn.sublist h.ids

/-- Once none of the doomed is left, the others are all there is. -/
theorem eq_filter (h : Thins doomed before after) (hd : ∀ v ∈ after, doomed v.tags = false) :
    after = before.filter (fun v => !doomed v.tags) := by
  rw [← h.others, List.filter_eq_self.mpr fun v hv => by rw [hd v hv]; rfl]

end Thins

namespace Memory

variable {doomed : Tags → Bool} {id instanceId : String} {isMeant : Attachment → Bool}
  {volumes after : List Volume}

/-- A detachment is about the first volume of the id or about the rest. -/
theorem detach_cons_ok {v : Volume} {rest : List Volume}
    (h : detach id instanceId isMeant (v :: rest) = .ok after) :
    v.id = id ∧ after = { v with attachments := v.attachments.filter (!isMeant ·) } :: rest ∨
      v.id ≠ id ∧ ∃ rest', detach id instanceId isMeant rest = .ok rest' ∧ after = v :: rest' := by
  rw [detach] at h
  split at h
  · next hv =>
    split at h
    · cases h
      exact .inl ⟨hv, rfl⟩
    · cases h
  · next hv =>
    cases hr : detach id instanceId isMeant rest with
    | error e => rw [hr] at h; cases h
    | ok rest' =>
      rw [hr] at h
      cases h
      exact .inr ⟨hv, rest', rfl, rfl⟩

theorem detach_cons_error {e : CloudError} {v : Volume} {rest : List Volume}
    (h : detach id instanceId isMeant (v :: rest) = .error e) :
    v.id = id ∧ v.attachments.any isMeant = false ∧ Volumes.isDetached e = true ∨
      v.id ≠ id ∧ detach id instanceId isMeant rest = .error e := by
  rw [detach] at h
  split at h
  · next hv =>
    split at h
    · cases h
    · next hnone =>
      cases h
      exact .inl ⟨hv, Bool.eq_false_iff.mpr hnone, rfl⟩
  · next hv =>
    cases hr : detach id instanceId isMeant rest with
    | ok rest' => rw [hr] at h; cases h
    | error e' =>
      rw [hr] at h
      cases h
      exact .inr ⟨hv, rfl⟩

/-- And so is a removal. -/
theorem removeVolume_cons_ok {v : Volume} {rest : List Volume}
    (h : removeVolume id (v :: rest) = .ok after) :
    v.id = id ∧ after = rest ∨
      v.id ≠ id ∧ ∃ rest', removeVolume id rest = .ok rest' ∧ after = v :: rest' := by
  rw [removeVolume] at h
  split at h
  · next hv =>
    split at h
    · cases h
      exact .inl ⟨hv, rfl⟩
    · cases h
  · next hv =>
    cases hr : removeVolume id rest with
    | error e => rw [hr] at h; cases h
    | ok rest' =>
      rw [hr] at h
      cases h
      exact .inr ⟨hv, rest', rfl, rfl⟩

theorem removeVolume_cons_error {e : CloudError} {v : Volume} {rest : List Volume}
    (h : removeVolume id (v :: rest) = .error e) :
    v.id = id ∧ v.attachments ≠ [] ∨ v.id ≠ id ∧ removeVolume id rest = .error e := by
  rw [removeVolume] at h
  split at h
  · next hv =>
    split at h
    · cases h
    · next hused => exact .inl ⟨hv, fun hnil => hused (List.isEmpty_iff.mpr hnil)⟩
  · next hv =>
    cases hr : removeVolume id rest with
    | ok rest' => rw [hr] at h; cases h
    | error e' =>
      rw [hr] at h
      cases h
      exact .inr ⟨hv, rfl⟩

theorem detach_thins (hd : ∀ v ∈ volumes, v.id = id → doomed v.tags = true)
    (h : detach id instanceId isMeant volumes = .ok after) : Thins doomed volumes after := by
  induction volumes generalizing after with
  | nil => cases h
  | cons v rest ih =>
    rcases detach_cons_ok h with ⟨hv, rfl⟩ | ⟨-, rest', hr, rfl⟩
    · exact .loosen (hd v List.mem_cons_self hv) _ _
    · exact (ih (fun w hw => hd w (List.mem_cons_of_mem _ hw)) hr).cons v

theorem removeVolume_thins (hd : ∀ v ∈ volumes, v.id = id → doomed v.tags = true)
    (h : removeVolume id volumes = .ok after) : Thins doomed volumes after := by
  induction volumes generalizing after with
  | nil => cases h
  | cons v rest ih =>
    rcases removeVolume_cons_ok h with ⟨hv, rfl⟩ | ⟨-, rest', hr, rfl⟩
    · exact .drop (hd v List.mem_cons_self hv) _
    · exact (ih (fun w hw => hd w (List.mem_cons_of_mem _ hw)) hr).cons v

def Detached (id : String) (isMeant : Attachment → Bool) (volumes : List Volume) : Prop :=
  ∀ v ∈ volumes, v.id = id → ∀ a ∈ v.attachments, isMeant a = false

theorem Detached.cons_of_ne {v : Volume} (hv : v.id ≠ id) (h : Detached id isMeant volumes) :
    Detached id isMeant (v :: volumes) := by
  intro w hw hid
  rcases List.mem_cons.mp hw with rfl | hw
  · exact absurd hid hv
  · exact h w hw hid

/-- Under unique ids the first volume of an id is the only one. -/
theorem ne_of_nodup {v w : Volume} {rest : List Volume}
    (hn : ((v :: rest).map (·.id)).Nodup) (hw : w ∈ rest) : w.id ≠ v.id := fun hid =>
  (List.nodup_cons.mp hn).1 (List.mem_map.mpr ⟨w, hw, hid⟩)

theorem Detached.cons_of_nodup {v : Volume} {rest : List Volume}
    (hn : ((v :: rest).map (·.id)).Nodup) (hv : v.id = id)
    (ha : ∀ a ∈ v.attachments, isMeant a = false) : Detached id isMeant (v :: rest) := by
  intro w hw hid
  rcases List.mem_cons.mp hw with rfl | hw
  · exact ha
  · exact absurd (hid.trans hv.symm) (ne_of_nodup hn hw)

theorem detached_of_ok (hn : (volumes.map (·.id)).Nodup)
    (h : detach id instanceId isMeant volumes = .ok after) : Detached id isMeant after := by
  induction volumes generalizing after with
  | nil => cases h
  | cons v rest ih =>
    rcases detach_cons_ok h with ⟨hv, rfl⟩ | ⟨hv, rest', hr, rfl⟩
    · refine .cons_of_nodup hn hv fun a ha => ?_
      simpa using (List.mem_filter.mp ha).2
    · exact (ih (List.nodup_cons.mp hn).2 hr).cons_of_ne hv

/-- A detachment that fails had nothing to do. -/
theorem detached_of_error {e : CloudError} (hn : (volumes.map (·.id)).Nodup)
    (h : detach id instanceId isMeant volumes = .error e) :
    Volumes.isDetached e = true ∧ Detached id isMeant volumes := by
  induction volumes with
  | nil =>
    cases h
    exact ⟨rfl, fun v hv => absurd hv List.not_mem_nil⟩
  | cons v rest ih =>
    rcases detach_cons_error h with ⟨hv, hnone, he⟩ | ⟨hv, hr⟩
    · have ha : ∀ a ∈ v.attachments, isMeant a = false := by simpa using hnone
      exact ⟨he, .cons_of_nodup hn hv ha⟩
    · obtain ⟨he, hrest⟩ := ih (List.nodup_cons.mp hn).2 hr
      exact ⟨he, hrest.cons_of_ne hv⟩

theorem removed_of_ok (hn : (volumes.map (·.id)).Nodup)
    (h : removeVolume id volumes = .ok after) : ∀ v ∈ after, v.id ≠ id := by
  induction volumes generalizing after with
  | nil => cases h
  | cons v rest ih =>
    rcases removeVolume_cons_ok h with ⟨hv, rfl⟩ | ⟨hv, rest', hr, rfl⟩
    · exact fun w hw hid => ne_of_nodup hn hw (hid.trans hv.symm)
    · exact List.forall_mem_cons.mpr ⟨hv, ih (List.nodup_cons.mp hn).2 hr⟩

/-- A removal of what is not attached fails only if there is nothing to
remove. -/
theorem removed_of_error {e : CloudError} (hf : ∀ v ∈ volumes, v.id = id → v.attachments = [])
    (h : removeVolume id volumes = .error e) :
    e.isNotFound = true ∧ ∀ v ∈ volumes, v.id ≠ id := by
  induction volumes with
  | nil =>
    cases h
    exact ⟨rfl, fun v hv => absurd hv List.not_mem_nil⟩
  | cons v rest ih =>
    rcases removeVolume_cons_error h with ⟨hv, hused⟩ | ⟨hv, hr⟩
    · exact absurd (hf v List.mem_cons_self hv) hused
    · obtain ⟨he, hrest⟩ := ih (fun w hw => hf w (List.mem_cons_of_mem _ hw)) hr
      exact ⟨he, List.forall_mem_cons.mpr ⟨hv, hrest⟩⟩

end Memory

end ClusterKeeper
