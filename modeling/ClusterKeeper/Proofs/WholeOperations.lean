import ClusterKeeper.Memory.InPlace
import ClusterKeeper.Proofs.Tables
import ClusterKeeper.Proofs.UnreliableCloud

/-!
# Operations as a whole

Although the operations of the sandbox go step by step and take nothing back,
each is made as a whole or not at all: what is written before a failure is
what was there.
-/

set_option autoImplicit false

namespace ClusterKeeper.Memory

/-! ### Positions in lists -/

section Positions

variable {id instanceId : String} {isMeant : Attachment → Bool} {volumes : List Volume}

def relieved (isMeant : Attachment → Bool) (v : Volume) : Volume :=
  { v with attachments := v.attachments.filter (!isMeant ·) }

open InPlace (attachmentsAt)

theorem attachmentsAt_zero (v : Volume) (rest : List Volume) :
    attachmentsAt 0 (v :: rest) = some v.attachments.length := rfl

theorem attachmentsAt_succ (i : Nat) (v : Volume) (rest : List Volume) :
    attachmentsAt (i + 1) (v :: rest) = attachmentsAt i rest := by
  simp [attachmentsAt]

/-- The number of attachments tells whether any was meant. -/
theorem length_relieved (isMeant : Attachment → Bool) (v : Volume) :
    (relieved isMeant v).attachments.length = v.attachments.length ↔
      v.attachments.any isMeant = false := by
  show (v.attachments.filter (!isMeant ·)).length = v.attachments.length ↔ _
  rw [List.length_filter_eq_length_iff]
  simp

theorem relieved_eq_self {v : Volume} (h : v.attachments.any isMeant = false) :
    relieved isMeant v = v := by
  have hfilter : v.attachments.filter (!isMeant ·) = v.attachments := by
    rw [List.filter_eq_self]
    simpa using h
  rw [relieved, hfilter]

/-- A detachment that leaves the number of attachments leaves everything. -/
theorem modify_relieved_eq_self {i : Nat}
    (h : attachmentsAt i (volumes.modify i (relieved isMeant)) = attachmentsAt i volumes) :
    volumes.modify i (relieved isMeant) = volumes := by
  induction volumes generalizing i with
  | nil => simp
  | cons v rest ih =>
    cases i with
    | zero =>
      rw [List.modify_zero_cons, attachmentsAt_zero, attachmentsAt_zero, Option.some.injEq,
        length_relieved] at h
      rw [List.modify_zero_cons, relieved_eq_self h]
    | succ i =>
      rw [List.modify_succ_cons, attachmentsAt_succ, attachmentsAt_succ] at h
      rw [List.modify_succ_cons, ih h]

theorem detach_at (id instanceId : String) (isMeant : Attachment → Bool) (volumes : List Volume) :
    detach id instanceId isMeant volumes =
      match volumes.findIdx? (·.id = id) with
      | none => .error (.notFound id)
      | some i =>
        if attachmentsAt i (volumes.modify i (relieved isMeant)) = attachmentsAt i volumes then
          .error (.incorrectState id ("not attached to " ++ instanceId))
        else .ok (volumes.modify i (relieved isMeant)) := by
  induction volumes with
  | nil => rfl
  | cons v rest ih =>
    by_cases hv : v.id = id
    · subst hv
      have hlength := length_relieved isMeant v
      simp only [detach, List.findIdx?_cons, decide_true, if_true, List.modify_zero_cons,
        attachmentsAt_zero, Option.some.injEq, hlength]
      cases v.attachments.any isMeant <;> rfl
    · simp only [detach, hv, List.findIdx?_cons, ih]
      cases rest.findIdx? (·.id = id) with
      | none => rfl
      | some i =>
        simp only [decide_false, Bool.false_eq_true, if_false, Option.map_some,
          List.modify_succ_cons, attachmentsAt_succ]
        split <;> rfl

theorem removeVolume_at (id : String) (volumes : List Volume) :
    removeVolume id volumes =
      match volumes.findIdx? (·.id = id) with
      | none => .error (.notFound id)
      | some i =>
        if attachmentsAt i volumes ≠ some 0 then .error (.incorrectState id "volume is in use")
        else .ok (volumes.eraseIdx i) := by
  induction volumes with
  | nil => rfl
  | cons v rest ih =>
    by_cases hv : v.id = id
    · cases ha : v.attachments <;>
        simp [removeVolume, List.findIdx?_cons, attachmentsAt_zero, hv, ha]
    · simp only [removeVolume, hv, List.findIdx?_cons, ih]
      cases rest.findIdx? (·.id = id) with
      | none => rfl
      | some i =>
        simp only [decide_false, Bool.false_eq_true, if_false, Option.map_some,
          attachmentsAt_succ, List.eraseIdx_cons_succ]
        split <;> rfl

theorem release_at (id : String) (members : List GroupMember) :
    release id members = (members.findIdx? (InPlace.isParked id)).map fun i =>
      members.modify i fun m => { m with lifecycleState := releasedState } := by
  induction members with
  | nil => rfl
  | cons m rest ih =>
    by_cases hm : m.instanceId = id ∧ m.lifecycleState = GroupMember.parkedState
    · simp [release, List.findIdx?_cons, InPlace.isParked, hm]
    · have hparked : InPlace.isParked id m = false := by simpa [InPlace.isParked] using hm
      rw [release, if_neg hm, ih, List.findIdx?_cons, hparked]
      cases rest.findIdx? (InPlace.isParked id) <;> rfl

end Positions

/-! ### Steps -/

namespace InPlace

variable {ε α β : Type}

@[simp]
theorem perform_pure (a : α) (s : Stores) : perform (pure a : InPlace ε α) s = (.ok a, s) := rfl

@[simp]
theorem perform_throw (e : ε) (s : Stores) :
    perform (throw e : InPlace ε α) s = (.error e, s) := rfl

@[simp]
theorem perform_get (s : Stores) : perform (get : InPlace ε Stores) s = (.ok s, s) := rfl

@[simp]
theorem perform_modify (f : Stores → Stores) (s : Stores) :
    perform (modify f : InPlace ε PUnit) s = (.ok (), f s) := rfl

@[simp]
theorem perform_bind (a : InPlace ε α) (f : α → InPlace ε β) (s : Stores) :
    perform (a >>= f) s = match perform a s with
      | (.ok v, s') => perform (f v) s'
      | (.error e, s') => (.error e, s') := by
  simp only [perform, ExceptT.run_bind, StateT.run_bind]
  show Id.run _ = _
  generalize (ExceptT.run a).run s = x
  obtain ⟨r, s'⟩ := x
  cases r <;> rfl

/-! ### Operations -/

open Stores (settle)

theorem perform_describeStack (account : Account) (name : String) (s : Stores) :
    perform (describeStack account name) s = (s.describeStack account name, s) := by
  simp only [describeStack, Stores.describeStack, perform_bind, perform_get]
  cases (s.stackStore account).present[name]? <;> rfl

theorem perform_describeGroup (group : String) (s : Stores) :
    perform (describeGroup group) s = (s.describeGroup group, s) := by
  simp only [describeGroup, Stores.describeGroup, perform_bind, perform_get]
  cases s.groups[group]? <;> rfl

theorem perform_listObjects (bucket : String) (s : Stores) :
    perform (listObjects bucket) s = (s.listObjects bucket, s) := by
  simp only [listObjects, Stores.listObjects, perform_bind, perform_get]
  cases s.buckets[bucket]? <;> rfl

theorem perform_headBucket (bucket : String) (s : Stores) :
    perform (headBucket bucket) s = ((s.listObjects bucket).map fun _ => (), s) := by
  simp only [headBucket, Stores.listObjects, perform_bind, perform_get]
  cases h : s.buckets[bucket]? with
  | none => simp [Table.not_mem_of_none h]; rfl
  | some objects => simp [Table.mem_of_some h]; rfl

theorem perform_createStack (account : Account) (request : StackCreation) (s : Stores) :
    perform (createStack account request) s = s.settle () (s.createStack account request) := by
  by_cases h : request.name ∈ (s.stackStore account).present
  · simp [createStack, Stores.createStack, h, settle]
  · simp only [createStack, Stores.createStack, h, settle, if_false, perform_bind, perform_get,
      perform_modify]
    cases account <;> rfl

theorem perform_updateStack (failing : Bool) (account : Account) (request : UpdateRequest)
    (s : Stores) :
    perform (updateStack account request) s =
      s.settle () (s.updateStack (Sandbox.conduct failing) account request) := rfl

theorem perform_deleteStack (account : Account) (name : String) (s : Stores) :
    perform (deleteStack account name) s = s.settle () (s.deleteStack account name) := by
  by_cases h : name ∈ (s.stackStore account).present
  · simp [deleteStack, Stores.deleteStack, h, settle]
  · have hsame : s.removeStack account name = s := by
      rw [Stores.removeStack, Table.erase_of_not_mem h]
      cases account <;> rfl
    simp [deleteStack, Stores.deleteStack, h, settle, hsame]

theorem perform_detachVolume (failing : Bool) (id : String) (attachment : Attachment)
    (s : Stores) :
    perform (detachVolume id attachment) s =
      s.settle () (s.detachVolume (Sandbox.conduct failing) id attachment) := by
  have hmeant : (fun v : Volume => { v with
      attachments := v.attachments.filter (·.instanceId ≠ attachment.instanceId) }) =
      relieved fun a => decide (a.instanceId = attachment.instanceId) &&
        (!(Sandbox.conduct failing).checksDevice || decide (a.device = attachment.device)) := by
    funext v
    simp [relieved, Sandbox.conduct]
  simp only [detachVolume, Stores.detachVolume, detach_at, perform_bind, perform_get, hmeant]
  cases s.volumes.findIdx? (·.id = id) with
  | none => rfl
  | some i =>
    simp only [perform_bind, perform_modify, perform_get]
    split
    · next h =>
      rw [modify_relieved_eq_self h]
      rfl
    · rfl

theorem perform_deleteVolume (id : String) (s : Stores) :
    perform (deleteVolume id) s = s.settle () (s.deleteVolume id) := by
  simp only [deleteVolume, Stores.deleteVolume, removeVolume_at, perform_bind, perform_get]
  cases s.volumes.findIdx? (·.id = id) with
  | none => rfl
  | some i =>
    by_cases h : attachmentsAt i s.volumes = some 0
    · simp [h]
      rfl
    · simp [h]
      rfl

theorem perform_completeLifecycleAction (action : LifecycleAction) (s : Stores) :
    perform (completeLifecycleAction action) s =
      s.settle () (s.completeLifecycleAction action) := by
  simp only [completeLifecycleAction, Stores.completeLifecycleAction, perform_bind, perform_get]
  cases hmembers : s.groups[action.group]? with
  | none => rfl
  | some members =>
    simp only [Option.bind_some, release_at]
    cases members.findIdx? (isParked action.instanceId) with
    | none => rfl
    | some i =>
      simp [settle, Table.modify_of_some hmembers]

theorem perform_createBucket (bucket : String) (s : Stores) :
    perform (createBucket bucket) s = s.settle () (s.createBucket bucket) := by
  by_cases h : bucket ∈ s.buckets <;> simp [createBucket, Stores.createBucket, h, settle]

theorem perform_deleteObjects (bucket : String) (objects : List String) (s : Stores) :
    perform (deleteObjects bucket objects) s = s.settle () (s.deleteObjects bucket objects) := by
  simp only [deleteObjects, Stores.deleteObjects, Stores.listObjects, perform_bind, perform_get]
  cases h : s.buckets[bucket]? with
  | none =>
    simp [Table.not_mem_of_none h]
    rfl
  | some present =>
    simp [Table.mem_of_some h, Table.modify_of_some h]
    rfl

theorem perform_deleteBucket (bucket : String) (s : Stores) :
    perform (deleteBucket bucket) s = s.settle () (s.deleteBucket bucket) := by
  simp only [deleteBucket, Stores.deleteBucket, Stores.listObjects, perform_bind, perform_get]
  cases s.buckets[bucket]? with
  | none => rfl
  | some objects => cases objects <;> rfl

theorem perform_createKey (cluster : String) (s : Stores) :
    perform (createKey cluster) s = s.settle () (s.createKey cluster) := by
  simp only [createKey, Stores.createKey, perform_bind, perform_get, perform_modify]
  by_cases h : cluster ∈ s.keys
  · simp [h, settle, Keys.insert_of_mem h]
  · simp [h, settle]

theorem perform_deleteKey (cluster : String) (s : Stores) :
    perform (deleteKey cluster) s = s.settle () (s.deleteKey cluster) := by
  simp only [deleteKey, Stores.deleteKey, perform_bind, perform_get, perform_modify]
  by_cases h : cluster ∈ s.keys
  · simp [h, settle]
  · simp [h, settle, Keys.erase_of_not_mem h]

section

variable {c : Cloud.Call} {a : InPlace c.Fault c.Value} {k : Conduct} {s : Stores}

theorem perform_of_change {value : c.Value} {r : Except c.Fault Stores}
    (ha : perform a s = s.settle value r) (hc : s.attempt k c = r.map (value, ·)) :
    perform a s = s.answer k c :=
  ha.trans (Stores.answer_of_change hc).symm

theorem perform_of_reading {r : Except c.Fault c.Value}
    (ha : perform a s = (r, s)) (hc : s.attempt k c = r.map (·, s)) :
    perform a s = s.answer k c :=
  ha.trans (Stores.answer_of_reading hc).symm

end

/-- What is written before a failure is what was there. -/
theorem perform_call (failing : Bool) (c : Cloud.Call) (s : Stores) :
    perform (call failing c) s = s.answer (Sandbox.conduct failing) c := by
  cases c with
  | describeStack account name => exact perform_of_reading (perform_describeStack _ _ s) rfl
  | createStack account name body tags => exact perform_of_change (perform_createStack _ _ s) rfl
  | updateStack account name body =>
    exact perform_of_change (perform_updateStack failing _ _ s) rfl
  | deleteStack account name => exact perform_of_change (perform_deleteStack _ _ s) rfl
  | detachVolume volume attachment force =>
    exact perform_of_change (perform_detachVolume failing _ _ s) rfl
  | deleteVolume id => exact perform_of_change (perform_deleteVolume _ s) rfl
  | describeGroup group => exact perform_of_reading (perform_describeGroup _ s) rfl
  | completeLifecycleAction action =>
    exact perform_of_change (perform_completeLifecycleAction _ s) rfl
  | headBucket bucket =>
    apply perform_of_reading (perform_headBucket bucket s)
    rw [Stores.attempt]
    cases s.listObjects bucket <;> rfl
  | createBucket bucket => exact perform_of_change (perform_createBucket _ s) rfl
  | listObjects bucket => exact perform_of_reading (perform_listObjects _ s) rfl
  | deleteObjects bucket objects => exact perform_of_change (perform_deleteObjects _ _ s) rfl
  | deleteBucket bucket => exact perform_of_change (perform_deleteBucket _ s) rfl
  | createKey cluster => exact perform_of_change (perform_createKey _ s) rfl
  | deleteKey cluster => exact perform_of_change (perform_deleteKey _ s) rfl
  | renderTemplate account cluster state => cases failing <;> rfl
  | _ => rfl

end InPlace

end ClusterKeeper.Memory
