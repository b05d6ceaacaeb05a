import ClusterKeeper.Proofs.Tables
import ClusterKeeper.Proofs.VolumeRemoval
import Mathlib.Data.List.Nodup

/-!
# Places in the stores

Most calls are about a single place. What a call answers and leaves there only
depends on what is there, and it leaves all other places alone.
-/

set_option autoImplicit false

namespace ClusterKeeper.Memory

inductive Location where
  | key (cluster : String)
  | bucket (name : String)
  | stack (account : Account) (name : String)
  | volume (id : String)
  | group (name : String)

abbrev Location.Content : Location → Type
  | key _ => Bool
  | bucket _ => Option (List String)
  | stack _ _ => Option Stack
  | volume _ => Option Volume
  | group _ => Option (List GroupMember)

def volumeIn (volumes : List Volume) (id : String) : Option Volume :=
  volumes.find? fun v => decide (v.id = id)

def Stores.held (s : Stores) : (place : Location) → place.Content
  | .key cluster => s.keys.contains cluster
  | .bucket name => s.buckets[name]?
  | .stack account name => (s.stackStore account).present[name]?
  | .volume id => volumeIn s.volumes id
  | .group name => s.groups[name]?

def place? : Cloud.Call → Option Location
  | .describeStack account name | .createStack account name _ _ | .updateStack account name _
  | .deleteStack account name => some (.stack account name)
  | .detachVolume id _ _ | .deleteVolume id => some (.volume id)
  | .describeGroup group => some (.group group)
  | .completeLifecycleAction action => some (.group action.group)
  | .headBucket name | .createBucket name | .listObjects name | .deleteObjects name _
  | .deleteBucket name => some (.bucket name)
  | .currentKey cluster | .createKey cluster | .deleteKey cluster => some (.key cluster)
  | _ => none

/-! Volumes found by their ids. -/

section Volumes

variable {id instanceId other : String} {isMeant : Attachment → Bool} {volumes after : List Volume}
  {v : Volume}

theorem volumeIn_cons (v : Volume) (rest : List Volume) (id : String) :
    volumeIn (v :: rest) id = if v.id = id then some v else volumeIn rest id := by
  rw [volumeIn, List.find?_cons]
  by_cases h : v.id = id
  · rw [decide_eq_true h, if_pos h]
  · rw [decide_eq_false h, if_neg h]
    rfl

theorem volumeIn_eq_none (h : ∀ v ∈ volumes, v.id ≠ id) : volumeIn volumes id = none :=
  List.find?_eq_none.mpr fun v hv => by simpa using h v hv

/-- Volumes in a known order are known by their ids. -/
theorem filterMap_volumeIn {order : List String} (h : (volumes.map (·.id)).Sublist order)
    (hn : order.Nodup) : order.filterMap (volumeIn volumes) = volumes := by
  induction order generalizing volumes with
  | nil =>
    rw [List.sublist_nil, List.map_eq_nil_iff] at h
    rw [h]
    rfl
  | cons first order ih =>
    obtain ⟨hnew, hrest⟩ := List.nodup_cons.mp hn
    cases volumes with
    | nil => exact List.filterMap_eq_nil_iff.mpr fun _ _ => rfl
    | cons v rest =>
      cases h with
      | cons _ h =>
        have hnone : volumeIn (v :: rest) first = none := volumeIn_eq_none fun w hw hid =>
          hnew (hid ▸ h.subset (List.mem_map_of_mem hw))
        rw [List.filterMap_cons_none hnone, ih h hrest]
      | cons_cons _ h =>
        have hsome : volumeIn (v :: rest) v.id = some v := by rw [volumeIn_cons, if_pos rfl]
        have hskip : ∀ id ∈ order, volumeIn (v :: rest) id = volumeIn rest id := by
          intro id hid
          rw [volumeIn_cons, if_neg]
          rintro rfl
          exact hnew hid
        rw [List.filterMap_cons_some hsome, List.filterMap_congr hskip, ih h hrest]

theorem volumeIn_filter (p : Volume → Bool) (hn : (volumes.map (·.id)).Nodup) (id : String) :
    volumeIn (volumes.filter p) id = (volumeIn volumes id).filter p := by
  induction volumes with
  | nil => rfl
  | cons v rest ih =>
    have ih := ih (List.nodup_cons.mp hn).2
    rw [List.filter_cons, volumeIn_cons v rest]
    by_cases hid : v.id = id
    · rw [if_pos hid]
      by_cases hp : p v = true
      · rw [if_pos hp, volumeIn_cons, if_pos hid, Option.filter_some_pos hp]
      · rw [if_neg hp, Option.filter_some_neg (Bool.eq_false_iff.mpr hp)]
        exact volumeIn_eq_none fun w hw heq =>
          ne_of_nodup hn (List.mem_filter.mp hw).1 (heq.trans hid.symm)
    · rw [if_neg hid, ← ih]
      by_cases hp : p v = true
      · rw [if_pos hp, volumeIn_cons, if_neg hid]
      · rw [if_neg hp]

theorem mem_of_volumeIn (h : volumeIn volumes id = some v) : v ∈ volumes ∧ v.id = id := by
  have hid : decide (v.id = id) = true :=
    List.find?_some (p := fun v : Volume => decide (v.id = id)) h
  exact ⟨List.mem_of_find?_eq_some h, of_decide_eq_true hid⟩

/-- So they can be compared by their ids, those of a kind as well as all. -/
theorem filter_eq_of_volumeIn {order : List String} {volumes' : List Volume} {p : Volume → Bool}
    (hn : order.Nodup) (h : (volumes.map (·.id)).Sublist order)
    (h' : (volumes'.map (·.id)).Sublist order)
    (heq : ∀ id, (∃ v ∈ volumes ++ volumes', p v = true ∧ v.id = id) →
      volumeIn volumes id = volumeIn volumes' id) :
    volumes.filter p = volumes'.filter p := by
  have hsub : ∀ {l : List Volume}, (l.map (·.id)).Sublist order →
      ((l.filter p).map (·.id)).Sublist order := fun hl => (List.filter_sublist.map _).trans hl
  have hsame : volumeIn (volumes.filter p) = volumeIn (volumes'.filter p) := by
    funext id
    rw [volumeIn_filter p (hn.sublist h), volumeIn_filter p (hn.sublist h')]
    by_cases hid : ∃ v ∈ volumes ++ volumes', p v = true ∧ v.id = id
    · rw [heq id hid]
    · have hnone : ∀ {l : List Volume}, l ⊆ volumes ++ volumes' →
          (volumeIn l id).filter p = none := by
        intro l hl
        refine Option.filter_eq_none_iff.mpr fun v hv hp => hid ?_
        obtain ⟨hv, heq⟩ := mem_of_volumeIn hv
        exact ⟨v, hl hv, hp, heq⟩
      rw [hnone (List.subset_append_left _ _), hnone (List.subset_append_right _ _)]
  rw [← filterMap_volumeIn (hsub h) hn, hsame, filterMap_volumeIn (hsub h') hn]

abbrev Shrinks : List Volume → List Volume → Prop := Thins fun _ => true

inductive Replaces (id : String) (volumes : List Volume) :
    Except CloudError (Option Volume) → Except CloudError (List Volume) → Prop where
  | refused (e : CloudError) : Replaces id volumes (.error e) (.error e)
  | put {v? : Option Volume} {after : List Volume} (here : volumeIn after id = v?)
      (elsewhere : ∀ other, id ≠ other → volumeIn after other = volumeIn volumes other)
      (shrinks : Shrinks volumes after) : Replaces id volumes (.ok v?) (.ok after)

theorem Replaces.cons {judged : Except CloudError (Option Volume)}
    {r : Except CloudError (List Volume)} (hv : v.id ≠ id) (h : Replaces id volumes judged r) :
    Replaces id (v :: volumes) judged (r.map (v :: ·)) := by
  cases h with
  | refused e => exact .refused e
  | put here elsewhere shrinks =>
    refine .put ?_ (fun other ho => ?_) (shrinks.cons v)
    · rw [volumeIn_cons, if_neg hv, here]
    · rw [volumeIn_cons, volumeIn_cons, elsewhere other ho]

def loosened (id instanceId : String) (isMeant : Attachment → Bool) :
    Option Volume → Except CloudError (Option Volume)
  | none => .error (.notFound id)
  | some v =>
    if v.attachments.any isMeant then
      .ok (some { v with attachments := v.attachments.filter (!isMeant ·) })
    else .error (.incorrectState id ("not attached to " ++ instanceId))

theorem replaces_detach (id instanceId : String) (isMeant : Attachment → Bool)
    (volumes : List Volume) :
    Replaces id volumes (loosened id instanceId isMeant (volumeIn volumes id))
      (detach id instanceId isMeant volumes) := by
  induction volumes with
  | nil => exact .refused _
  | cons v rest ih =>
    rw [detach, volumeIn_cons]
    by_cases hv : v.id = id
    · rw [if_pos hv, if_pos hv, loosened]
      split
      · refine .put ?_ (fun other ho => ?_) (.loosen rfl _ rest)
        · rw [volumeIn_cons, if_pos hv]
        · have hne : v.id ≠ other := hv ▸ ho
          rw [volumeIn_cons, volumeIn_cons, if_neg hne, if_neg hne]
      · exact .refused _
    · rw [if_neg hv, if_neg hv]
      exact ih.cons hv

def discarded (id : String) : Option Volume → Except CloudError (Option Volume)
  | none => .error (.notFound id)
  | some v =>
    if v.attachments.isEmpty then .ok none else .error (.incorrectState id "volume is in use")

theorem replaces_removeVolume (hn : (volumes.map (·.id)).Nodup) (id : String) :
    Replaces id volumes (discarded id (volumeIn volumes id)) (removeVolume id volumes) := by
  induction volumes with
  | nil => exact .refused _
  | cons v rest ih =>
    rw [removeVolume, volumeIn_cons]
    by_cases hv : v.id = id
    · rw [if_pos hv, if_pos hv, discarded]
      split
      · refine .put (volumeIn_eq_none fun w hw hid => ?_) (fun other ho => ?_) (.drop rfl rest)
        · exact ne_of_nodup hn hw (hid.trans hv.symm)
        · rw [volumeIn_cons, if_neg (hv ▸ ho)]
      · exact .refused _
    · rw [if_neg hv, if_neg hv]
      exact (ih (List.nodup_cons.mp hn).2).cons hv

end Volumes

namespace Stores

variable {k : Conduct} {s s' : Stores} {x : Cloud.Call} {place : Location}

inductive Settles {ε : Type} (place : Location) (s : Stores) :
    Except ε place.Content → Except ε Stores → Prop where
  | refused (e : ε) : Settles place s (.error e) (.error e)
  | put {content : place.Content} {after : Stores} (here : after.held place = content)
      (elsewhere : ∀ other, other ≠ place → after.held other = s.held other)
      (shrinks : Shrinks s.volumes after.volumes) : Settles place s (.ok content) (.ok after)

def About {ε : Type} (place : Location) (change : Stores → Except ε Stores) : Prop :=
  ∃ judge : place.Content → Except ε place.Content, ∀ s : Stores,
    (s.volumes.map (·.id)).Nodup → Settles place s (judge (s.held place)) (change s)

def found {α : Type} (name : String) : Option α → Except CloudError α
  | some a => .ok a
  | none => .error (.notFound name)

theorem describeStack_eq (s : Stores) (account : Account) (name : String) :
    s.describeStack account name = found name (s.held (.stack account name)) := by
  rw [describeStack, held]
  cases (s.stackStore account).present[name]? <;> rfl

theorem describeGroup_eq (s : Stores) (group : String) :
    s.describeGroup group = found group (s.held (.group group)) := by
  rw [describeGroup, held]
  cases s.groups[group]? <;> rfl

theorem listObjects_eq (s : Stores) (name : String) :
    s.listObjects name = found name (s.held (.bucket name)) := by
  rw [listObjects, held]
  cases s.buckets[name]? <;> rfl

def fresh {α : Type} (name : String) (a : α) : Option α → Except CloudError (Option α)
  | some _ => .error (.alreadyExists name)
  | none => .ok (some a)

/-! What each part of the stores can be replaced with. -/

theorem Settles.keys {ε : Type} {cluster : String} {keys : Std.ExtTreeSet String} {b : Bool}
    (hhere : keys.contains cluster = b)
    (h : ∀ other, cluster ≠ other → keys.contains other = s.keys.contains other) :
    Settles (ε := ε) (.key cluster) s (.ok b) (.ok { s with keys }) := by
  refine .put hhere (fun other ho => ?_) (.refl _)
  cases other with
  | key other => exact h other fun heq => ho (heq ▸ rfl)
  | _ => rfl

theorem Settles.buckets {ε : Type} {name : String} {buckets : Table (List String)}
    {objects? : Option (List String)} (hhere : buckets[name]? = objects?)
    (h : ∀ other, name ≠ other → buckets[other]? = s.buckets[other]?) :
    Settles (ε := ε) (.bucket name) s (.ok objects?) (.ok { s with buckets }) := by
  refine .put hhere (fun other ho => ?_) (.refl _)
  cases other with
  | bucket other => exact h other fun heq => ho (heq ▸ rfl)
  | _ => rfl

theorem Settles.volumes {id : String} {judged : Except CloudError (Option Volume)}
    {r : Except CloudError (List Volume)} (h : Replaces id s.volumes judged r) :
    Settles (.volume id) s judged (r.map fun volumes => { s with volumes }) := by
  cases h with
  | refused e => exact .refused e
  | put here elsewhere shrinks =>
    refine .put here (fun other ho => ?_) shrinks
    cases other with
    | volume other => exact elsewhere other fun heq => ho (heq ▸ rfl)
    | _ => rfl

theorem Settles.groups {ε : Type} {name : String} {groups : Table (List GroupMember)}
    {completed : List LifecycleAction} {members? : Option (List GroupMember)}
    (hhere : groups[name]? = members?)
    (h : ∀ other, name ≠ other → groups[other]? = s.groups[other]?) :
    Settles (ε := ε) (.group name) s (.ok members?) (.ok { s with groups, completed }) := by
  refine .put hhere (fun other ho => ?_) (.refl _)
  cases other with
  | group other => exact h other fun heq => ho (heq ▸ rfl)
  | _ => rfl

theorem Settles.stacks {ε : Type} {account : Account} {name : String} {store : StackStore}
    {stack? : Option Stack} (hhere : store.present[name]? = stack?)
    (h : ∀ other, name ≠ other →
      store.present[other]? = (s.stackStore account).present[other]?) :
    Settles (ε := ε) (.stack account name) s (.ok stack?)
      (.ok (s.setStackStore account store)) := by
  have hstore : ∀ account', (s.setStackStore account store).stackStore account' =
      if account = account' then store else s.stackStore account' := by
    intro account'
    cases account <;> cases account' <;> rfl
  refine .put ?_ (fun other ho => ?_) (by cases account <;> exact .refl _)
  · rw [held, hstore, if_pos rfl]
    exact hhere
  · cases other with
    | stack account' other =>
      rw [held, hstore]
      split
      · next heq =>
        subst heq
        exact h other fun heq => ho (heq ▸ rfl)
      · rfl
    | _ => cases account <;> rfl

/-! The changes that calls make. -/

theorem about_createKey (cluster : String) : About (.key cluster) (createKey · cluster) := by
  refine ⟨fun present : Bool => if present then .error (.alreadyExists (keyName cluster))
    else .ok true, fun s _ => ?_⟩
  show Settles _ s (if s.keys.contains cluster then _ else _) (if cluster ∈ s.keys then _ else _)
  by_cases h : cluster ∈ s.keys
  · rw [if_pos h, if_pos (Std.ExtTreeSet.contains_iff_mem.mpr h)]
    exact .refused _
  · rw [if_neg h, if_neg (h ∘ Std.ExtTreeSet.contains_iff_mem.mp)]
    exact .keys (by simp) fun other ho => by simp [Std.ExtTreeSet.contains_insert, ho]

theorem about_deleteKey (cluster : String) : About (.key cluster) (deleteKey · cluster) := by
  refine ⟨fun present : Bool => if present then .ok false
    else .error (.notFound (keyName cluster)), fun s _ => ?_⟩
  show Settles _ s (if s.keys.contains cluster then _ else _) (if cluster ∈ s.keys then _ else _)
  by_cases h : cluster ∈ s.keys
  · rw [if_pos h, if_pos (Std.ExtTreeSet.contains_iff_mem.mpr h)]
    exact .keys (by simp) fun other ho => by simp [Std.ExtTreeSet.contains_erase, ho]
  · rw [if_neg h, if_neg (h ∘ Std.ExtTreeSet.contains_iff_mem.mp)]
    exact .refused _

theorem settles_bucket_insert {ε : Type} (s : Stores) (name : String) (objects : List String) :
    Settles (ε := ε) (.bucket name) s (.ok (some objects))
      (.ok { s with buckets := s.buckets.insert name objects }) :=
  .buckets ((Table.getElem?_insert _ _ _ _).trans (if_pos rfl)) fun _ ho =>
    (Table.getElem?_insert _ _ _ _).trans (if_neg ho)

theorem about_createBucket (name : String) : About (.bucket name) (createBucket · name) := by
  refine ⟨fresh (α := List String) name [], fun s _ => ?_⟩
  show Settles (.bucket name) s (fresh name [] s.buckets[name]?) (if name ∈ s.buckets then _ else _)
  cases h : s.buckets[name]? with
  | some objects =>
    rw [if_pos (Table.mem_of_some h)]
    exact .refused _
  | none =>
    rw [if_neg (Table.not_mem_of_none h)]
    exact settles_bucket_insert s name []

theorem about_deleteObjects (name : String) (keys : List String) :
    About (.bucket name) (deleteObjects · name keys) := by
  refine ⟨fun objects? : Option (List String) => (found name objects?).map fun objects =>
    some (objects.filter (· ∉ keys)), fun s _ => ?_⟩
  unfold deleteObjects listObjects held
  dsimp only
  cases s.buckets[name]? with
  | some objects => exact settles_bucket_insert s name _
  | none => exact .refused _

theorem about_deleteBucket (name : String) : About (.bucket name) (deleteBucket · name) := by
  refine ⟨fun objects? : Option (List String) => (found name objects?).bind fun objects =>
    if objects.isEmpty then .ok none
      else .error (.incorrectState name "bucket is not empty"), fun s _ => ?_⟩
  unfold deleteBucket listObjects held
  dsimp only
  cases s.buckets[name]? with
  | some objects =>
    show Settles _ s (if objects.isEmpty then _ else _) (if objects.isEmpty then _ else _)
    split
    · exact .buckets ((Table.getElem?_erase _ _ _).trans (if_pos rfl)) fun _ ho =>
        (Table.getElem?_erase _ _ _).trans (if_neg ho)
    · exact .refused _
  | none => exact .refused _

theorem settles_stack_insert {ε : Type} (s : Stores) (account : Account) (name : String)
    (stack : Stack) (created : List StackCreation) (updated : List UpdateRequest) :
    Settles (ε := ε) (.stack account name) s (.ok (some stack)) (.ok (s.setStackStore account
      ⟨(s.stackStore account).present.insert name stack, created, updated⟩)) :=
  .stacks ((Table.getElem?_insert _ _ _ _).trans (if_pos rfl)) fun _ ho =>
    (Table.getElem?_insert _ _ _ _).trans (if_neg ho)

theorem about_createStack (account : Account) (request : StackCreation) :
    About (.stack account request.name) (createStack · account request) := by
  refine ⟨fresh (α := Stack) request.name ⟨request.name, .createInProgress, []⟩,
    fun s _ => ?_⟩
  unfold createStack held
  dsimp only
  cases h : (s.stackStore account).present[request.name]? with
  | some stack =>
    rw [if_pos (Table.mem_of_some h)]
    exact .refused _
  | none =>
    rw [if_neg (Table.not_mem_of_none h)]
    exact settles_stack_insert s account request.name _ _ _

theorem about_updateStack (k : Conduct) (account : Account) (request : UpdateRequest) :
    About (.stack account request.stack) (updateStack k · account request) := by
  refine ⟨fun stack? : Option Stack => if k.updatesInPlace then
      (found request.stack stack?).map fun stack =>
        some { stack with status := .updateInProgress }
    else .ok stack?, fun s _ => ?_⟩
  unfold updateStack held
  dsimp only
  split
  · cases (s.stackStore account).present[request.stack]? with
    | some stack => exact settles_stack_insert s account request.stack _ _ _
    | none => exact .refused _
  · exact .stacks rfl fun _ _ => rfl

theorem about_deleteStack (account : Account) (name : String) :
    About (.stack account name) (deleteStack · account name) := by
  refine ⟨fun stack? : Option Stack => (found name stack?).map fun _ => none, fun s _ => ?_⟩
  unfold deleteStack held
  dsimp only
  cases h : (s.stackStore account).present[name]? with
  | some stack =>
    rw [if_pos (Table.mem_of_some h)]
    exact .stacks ((Table.getElem?_erase _ _ _).trans (if_pos rfl)) fun _ ho =>
      (Table.getElem?_erase _ _ _).trans (if_neg ho)
  | none =>
    rw [if_neg (Table.not_mem_of_none h)]
    exact .refused _

theorem about_detachVolume (k : Conduct) (id : String) (attachment : Attachment) :
    About (.volume id) (detachVolume k · id attachment) :=
  ⟨_, fun s _ => .volumes (replaces_detach id attachment.instanceId _ s.volumes)⟩

theorem about_deleteVolume (id : String) : About (.volume id) (deleteVolume · id) :=
  ⟨_, fun _ hn => .volumes (replaces_removeVolume hn id)⟩

theorem about_completeLifecycleAction (action : LifecycleAction) :
    About (.group action.group) (completeLifecycleAction · action) := by
  refine ⟨fun members? : Option (List GroupMember) =>
    (found ("lifecycle action of " ++ action.instanceId)
      (members?.bind (release action.instanceId))).map some, fun s _ => ?_⟩
  unfold completeLifecycleAction held
  dsimp only
  cases s.groups[action.group]?.bind (release action.instanceId) with
  | some members =>
    exact .groups ((Table.getElem?_insert _ _ _ _).trans (if_pos rfl)) fun _ ho =>
      (Table.getElem?_insert _ _ _ _).trans (if_neg ho)
  | none => exact .refused _

structure Located (k : Conduct) (x : Cloud.Call) (place : Location) : Prop where
  here : ∀ {s s' : Stores}, (s.volumes.map (·.id)).Nodup → (s'.volumes.map (·.id)).Nodup →
    s.held place = s'.held place → (s.answer k x).1 = (s'.answer k x).1 ∧
      (s.answer k x).2.held place = (s'.answer k x).2.held place
  elsewhere : ∀ {s : Stores} {other : Location}, (s.volumes.map (·.id)).Nodup → other ≠ place →
    (s.answer k x).2.held other = s.held other
  shrinks : ∀ {s : Stores}, (s.volumes.map (·.id)).Nodup →
    Shrinks s.volumes (s.answer k x).2.volumes

theorem Located.change {change : Stores → Except x.Fault Stores} (value : x.Value)
    (ha : ∀ s : Stores, s.attempt k x = (change s).map (value, ·)) (h : About place change) :
    Located k x place := by
  obtain ⟨judge, h⟩ := h
  have ha : ∀ s : Stores, s.answer k x = s.settle value (change s) :=
    fun s => answer_of_change (ha s)
  refine ⟨?_, ?_, ?_⟩
  · intro s s' hn hn' heq
    have hs := h s hn
    have hs' := h s' hn'
    rw [heq] at hs
    rw [ha, ha]
    generalize judge (s'.held place) = judged at hs hs'
    generalize change s = r at hs ⊢
    generalize change s' = r' at hs' ⊢
    cases hs with
    | refused e =>
      cases hs'
      exact ⟨rfl, heq⟩
    | put here _ _ =>
      cases hs' with
      | put here' _ _ => exact ⟨rfl, here.trans here'.symm⟩
  · intro s other hn ho
    have hs := h s hn
    rw [ha]
    generalize judge (s.held place) = judged at hs
    generalize change s = r at hs ⊢
    cases hs with
    | refused e => rfl
    | put _ elsewhere _ => exact elsewhere other ho
  · intro s hn
    have hs := h s hn
    rw [ha]
    generalize judge (s.held place) = judged at hs
    generalize change s = r at hs ⊢
    cases hs with
    | refused e => exact .refl _
    | put _ _ shrinks => exact shrinks

theorem Located.reading (read : place.Content → Except x.Fault x.Value)
    (ha : ∀ s : Stores, s.attempt k x = (read (s.held place)).map (·, s)) :
    Located k x place := by
  have ha : ∀ s : Stores, s.answer k x = (read (s.held place), s) :=
    fun s => answer_of_reading (ha s)
  refine ⟨fun {s s'} _ _ heq => ?_, fun {s other} _ _ => ?_, fun {s} _ => ?_⟩
  · rw [ha, ha]
    exact ⟨congrArg read heq, heq⟩
  · rw [ha]
  · rw [ha]
    exact .refl _

theorem located_of_place (k : Conduct) (hx : place? x = some place) : Located k x place := by
  cases x with
  | describeStack account name =>
    cases hx
    exact .reading (found (α := Stack) name) fun s =>
      congrArg (Except.map (·, s)) (s.describeStack_eq account name)
  | createStack account name body tags =>
    cases hx
    exact .change () (fun _ => rfl) (about_createStack account ⟨name, body, tags⟩)
  | updateStack account name body =>
    cases hx
    exact .change () (fun _ => rfl) (about_updateStack k account ⟨name, body⟩)
  | deleteStack account name =>
    cases hx
    exact .change () (fun _ => rfl) (about_deleteStack account name)
  | detachVolume id attachment force =>
    cases hx
    exact .change () (fun _ => rfl) (about_detachVolume k id attachment)
  | deleteVolume id =>
    cases hx
    exact .change () (fun _ => rfl) (about_deleteVolume id)
  | describeGroup group =>
    cases hx
    exact .reading (found (α := List GroupMember) group) fun s =>
      congrArg (Except.map (·, s)) (s.describeGroup_eq group)
  | completeLifecycleAction action =>
    cases hx
    exact .change () (fun _ => rfl) (about_completeLifecycleAction action)
  | headBucket name =>
    cases hx
    refine .reading (fun objects? : Option (List String) =>
      (found name objects?).map fun _ => ()) fun s => ?_
    rw [attempt, listObjects_eq]
    cases found name (s.held (.bucket name)) <;> rfl
  | createBucket name =>
    cases hx
    exact .change () (fun _ => rfl) (about_createBucket name)
  | listObjects name =>
    cases hx
    exact .reading (found (α := List String) name) fun s =>
      congrArg (Except.map (·, s)) (s.listObjects_eq name)
  | deleteObjects name keys =>
    cases hx
    exact .change () (fun _ => rfl) (about_deleteObjects name keys)
  | deleteBucket name =>
    cases hx
    exact .change () (fun _ => rfl) (about_deleteBucket name)
  | currentKey cluster =>
    cases hx
    refine .reading (fun present : Bool => .ok (if present then keyName cluster else ""))
      fun s => ?_
    exact congrArg (fun name => Except.ok (name, s))
      (if_congr Std.ExtTreeSet.contains_iff_mem rfl rfl).symm
  | createKey cluster =>
    cases hx
    exact .change () (fun _ => rfl) (about_createKey cluster)
  | deleteKey cluster =>
    cases hx
    exact .change () (fun _ => rfl) (about_deleteKey cluster)
  | _ => cases hx

theorem changes_of_placeless (hx : place? x = none) : x.changes = false := by
  cases x with
  | guestClients | accountId | describeVolumes | stopInstance | waitUntilInstanceStopped
  | waitUntilVolumeAvailable | desiredKey | renderTemplate => rfl
  | _ => cases hx

/-- What is asked of no place in particular has one answer at all times, a listing
apart. -/
theorem answer_of_placeless (hx : place? x = none)
    (hl : ∀ conditions, x ≠ .describeVolumes conditions) (k : Conduct) (s s' : Stores) :
    (s.answer k x).1 = (s'.answer k x).1 := by
  cases x with
  | describeVolumes conditions => exact absurd rfl (hl conditions)
  | renderTemplate account cluster state =>
    have hr : ∀ s : Stores, s.answer k (.renderTemplate account cluster state) =
        (k.render account cluster state, s) := fun _ => answer_of_reading rfl
    rw [hr, hr]
  | guestClients | accountId | stopInstance | waitUntilInstanceStopped | waitUntilVolumeAvailable
  | desiredKey => rfl
  | _ => cases hx

/-! What the stores hold, however they came to it. -/

def holdings (s : Stores) : Stores where
  guest := ⟨s.guest.present, [], []⟩
  host := ⟨s.host.present, [], []⟩
  volumes := s.volumes
  groups := s.groups
  completed := []
  buckets := s.buckets
  keys := s.keys

theorem holdings_eq {order : List Volume} (hn : (order.map (·.id)).Nodup)
    (h : Shrinks order s.volumes) (h' : Shrinks order s'.volumes)
    (heq : ∀ place, s.held place = s'.held place) : s.holdings = s'.holdings := by
  have hguest : s.guest.present = s'.guest.present :=
    Std.ExtTreeMap.ext_getElem? fun {name} => heq (.stack .guest name)
  have hhost : s.host.present = s'.host.present :=
    Std.ExtTreeMap.ext_getElem? fun {name} => heq (.stack .host name)
  have hbuckets : s.buckets = s'.buckets :=
    Std.ExtTreeMap.ext_getElem? fun {name} => heq (.bucket name)
  have hgroups : s.groups = s'.groups :=
    Std.ExtTreeMap.ext_getElem? fun {name} => heq (.group name)
  have hkeys : s.keys = s'.keys :=
    Std.ExtTreeSet.ext_contains fun {cluster} => heq (.key cluster)
  have hvolumes : s.volumes = s'.volumes := by
    rw [← filterMap_volumeIn h.ids hn, ← filterMap_volumeIn h'.ids hn]
    exact List.filterMap_congr fun id _ => heq (.volume id)
  rw [holdings, holdings, hguest, hhost, hbuckets, hgroups, hkeys, hvolumes]

end Stores

end ClusterKeeper.Memory
