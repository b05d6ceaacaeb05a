import ClusterKeeper.Proofs.HaltingPasses
import ClusterKeeper.Proofs.Procedures
import ClusterKeeper.Proofs.Retirement
import ClusterKeeper.Proofs.Routing
import ClusterKeeper.Proofs.VolumeTags

/-!
# Removing loose volumes

What an attempt to take the loose volumes of a cluster away asks of the cloud. A volume is
deleted after all of its attachments were given up, and the first failure ends the
attempt.
-/

set_option autoImplicit false

namespace ClusterKeeper

variable {c : Cancellation}

namespace Volumes

open Procedure

def Loosening (volume : String) (a : Attachment) : Procedure :=
  InTurn Made (forcedRound volume a)

def Disposal (volume : String) : Procedure := fun h o =>
  ∃ o' : Option (Except CloudError Unit), o = o'.map Except.isOk ∧
    Attempts (Made (.deleteVolume volume)).judged h o'

def Removal (v : Volume) : Procedure :=
  AndThen (InTurn (Loosening v.id) v.attachments) (Disposal v.id)

theorem Loosening.calls {volume : String} {l : List Attachment} {h : List Exchange}
    {o : Option Bool} {e : Exchange} (hrun : InTurn (Loosening volume) l h o) (he : e ∈ h) :
    ∃ a ∈ l, e.call ∈ forcedRound volume a := by
  obtain ⟨a, ha, _, _, hround, he⟩ := hrun.calls he
  obtain ⟨x, hx, _, _, hmade, he⟩ := InTurn.calls hround he
  exact ⟨a, ha, hmade.call_eq he ▸ hx⟩

/-- All of the attachments were given up. -/
theorem Loosening.tolerated {volume : String} {l : List Attachment} {h : List Exchange}
    (hrun : InTurn (Loosening volume) l h (some true)) :
    ∀ a ∈ l, ∀ x ∈ forcedRound volume a, ∃ e ∈ h, e.call = x ∧ e.tolerated = true := by
  intro a ha x hx
  obtain ⟨_, hsub, hround⟩ := hrun.forall_of_succeeded a ha
  obtain ⟨_, hsub', hmade⟩ := hround.forall_of_succeeded x hx
  obtain ⟨e, he, hcall⟩ := hmade.tolerated
  exact ⟨e, hsub.subset (hsub'.subset he), hcall⟩

theorem Disposal.calls {volume : String} {h : List Exchange} {o : Option Bool} {e : Exchange}
    (hrun : Disposal volume h o) (he : e ∈ h) : e.call = .deleteVolume volume := by
  obtain ⟨_, -, hattempts⟩ := hrun
  exact hattempts.forall (P := fun e => e.call = .deleteVolume volume)
    (fun _ _ hmade _ he => hmade.call_eq he) e he

theorem Removal.calls {v : Volume} {h : List Exchange} {o : Option Bool} {e : Exchange}
    (hrun : Removal v h o) (he : e ∈ h) :
    (∃ a ∈ v.attachments, e.call ∈ forcedRound v.id a) ∨ e.call = .deleteVolume v.id := by
  cases hrun with
  | first hloose => exact .inl (Loosening.calls hloose he)
  | both hloose hdisposed =>
    exact (List.mem_append.mp he).imp (Loosening.calls hloose) hdisposed.calls

/-- The volume is deleted only after all of its attachments were given up. -/
theorem Removal.loosened {v : Volume} {before after : List Exchange} {o : Option Bool}
    {id : String} {answer : Except CloudError Unit}
    (hrun : Removal v (before ++ ⟨.deleteVolume id, answer⟩ :: after) o) :
    v.id = id ∧ ∀ a ∈ v.attachments, ∀ x ∈ forcedRound id a,
      ∃ e ∈ before, e.call = x ∧ e.tolerated = true := by
  have hother : ∀ {h o'}, InTurn (Loosening v.id) v.attachments h o' →
      (⟨.deleteVolume id, answer⟩ : Exchange) ∉ h := by
    intro h o' hloose he
    obtain ⟨a, -, hx⟩ := Loosening.calls hloose he
    simp [forcedRound] at hx
  generalize hh : before ++ (⟨.deleteVolume id, answer⟩ : Exchange) :: after = history at hrun
  cases hrun with
  | first hloose => exact absurd (hh ▸ List.mem_append_right _ List.mem_cons_self) (hother hloose)
  | both hloose hdisposed =>
    rcases split_of_append hh with ⟨rest, rfl⟩ | ⟨within, rfl, rfl⟩
    · exact absurd (List.mem_append_right _ List.mem_cons_self) (hother hloose)
    · have hcall := hdisposed.calls (e := ⟨.deleteVolume id, answer⟩)
        (List.mem_append_right within List.mem_cons_self)
      obtain rfl : id = v.id := Cloud.Call.deleteVolume.inj hcall
      refine ⟨rfl, fun a ha x hx => ?_⟩
      obtain ⟨e, he, hcall⟩ := Loosening.tolerated hloose a ha x hx
      exact ⟨e, List.mem_append_left within he, hcall⟩

theorem Loosening.leavesOff (volume : String) (a : Attachment) :
    LeavesOff (Loosening volume a) := InTurn.leavesOff Made.leavesOff _

theorem Disposal.leavesOff (volume : String) : LeavesOff (Disposal volume) := by
  rintro h b ⟨o, ho, hrun⟩
  cases o with
  | none => cases ho
  | some r =>
    exact ⟨none, rfl, Attempts.leavesOff (judged_leavesOff (Made.leavesOff _)) h r hrun⟩

theorem Removal.leavesOff (v : Volume) : LeavesOff (Removal v) :=
  AndThen.leavesOff (InTurn.leavesOff (Loosening.leavesOff v.id) _) (Disposal.leavesOff v.id)

theorem detach_pursues (volume : String) (a : Attachment) :
    (detach volume a .forced).Pursues c (Loosening volume a) := by
  have hdetach : (Action.call (S := Cloud) (.detachVolume volume a true) >>= fun answer =>
      Cloud.orFail ("detach volume " ++ volume ++ " from instance " ++ a.instanceId)
        (Cloud.accept isDetached () answer)).Pursues c (Made (.detachVolume volume a true)) :=
    .call (.of_cases (fun _ => rfl) (Cloud.isOk_accept_error _ _))
  have hwait : (Action.call (S := Cloud) (.waitUntilVolumeAvailable volume) >>= fun answer =>
      Cloud.orFail ("wait for volume " ++ volume ++ " to become available")
        (Cloud.accept CloudError.isNotFound () answer)).Pursues c
          (Made (.waitUntilVolumeAvailable volume)) :=
    .call (.of_cases (fun _ => rfl) (Cloud.isOk_accept_error _ _))
  have hnext := Action.Pursues.next (Made.leavesOff _) hdetach fun _ =>
    Action.Pursues.last (Made.leavesOff _) hwait
  rwa [bind_assoc] at hnext

theorem delete_pursues (policy : RetryPolicy) (volume : String) :
    (delete policy volume).Pursues c (Disposal volume) := by
  have hjudges : Judges (.deleteVolume volume) (Cloud.accept CloudError.isNotFound ()) :=
    .of_cases (fun _ => rfl) (Cloud.isOk_accept_error _ _)
  have honce : (deleteOnce volume).Unfolds (Made (.deleteVolume volume)).judged := by
    refine .call_bind .left fun answer => .pure (.answered answer nofun) (.answered answer ?_)
    exact fun b hb => (Option.some.inj hb).symm.trans (hjudges answer)
  have hretry := policy.unfolds_retry (judged_leavesOff (Made.leavesOff _)) honce
  refine Action.Unfolds.bind (.lift hretry) ?_ ?_ ?_
  · rintro h ⟨_ | r, ho, hrun⟩
    · exact keeping_none.mpr ⟨none, rfl, hrun⟩
    · cases ho
  · rintro h e c' ⟨_ | r, ho, -⟩ <;> cases ho
  · rintro h r c' ⟨_ | _, ho, hrun⟩ <;> cases ho
    have hjudged : Disposal volume h (some r.isOk) := ⟨some r, rfl, hrun⟩
    have hleft := Disposal.leavesOff volume h _ hjudged
    rw [← List.append_nil h] at hjudged hleft
    refine .orFail (keeping_none.mpr hleft) fun r' hr => keeping_some.mpr ⟨rfl, ?_⟩
    rw [← hr] at hjudged
    exact hjudged

end Volumes

namespace LooseVolumes

open Procedure Volumes

inductive Attempt (cluster : String) : Procedure where
  | left : Attempt cluster [] none
  | unlisted (e : CloudError) {o : Option Bool} (ho : o ≠ some true) :
      Attempt cluster
        [⟨.describeVolumes [.tag (Names.ownershipTag cluster) Names.owned], .error e⟩] o
  | listed (volumes : List Volume) {h : List Exchange} {o : Option Bool}
      (hremoved : InTurn Removal (volumes.filter fun v => isLoose cluster v.tags) h o) :
      Attempt cluster
        (⟨.describeVolumes [.tag (Names.ownershipTag cluster) Names.owned], .ok volumes⟩ :: h) o

theorem Attempt.leavesOff (cluster : String) : LeavesOff (Attempt cluster) := by
  intro h b hrun
  cases hrun with
  | unlisted e => exact .unlisted e nofun
  | listed volumes hremoved =>
    exact .listed volumes (InTurn.leavesOff Removal.leavesOff _ _ _ hremoved)

theorem remove_pursues (policy : RetryPolicy) (v : Volume) :
    (remove policy v).Pursues c (Removal v) :=
  .bind (InTurn.leavesOff (Loosening.leavesOff v.id) _)
    (.forM (Loosening.leavesOff v.id) (detach_pursues v.id) _) fun _ => delete_pursues policy v.id

theorem ensureDeleted_pursues (policy : RetryPolicy) (context : PassContext) (cluster : Cluster) :
    ((resource policy).ensureDeleted context cluster).Pursues c (Attempt cluster.id) := by
  have hkinds : (fun v : Volume => [VolumeKind.etcd cluster.id, .persistent].isEmpty ||
      [VolumeKind.etcd cluster.id, .persistent].any (·.matches v.tags)) =
      fun v => isLoose cluster.id v.tags := by
    funext v
    exact any_matches_loose cluster.id v.tags
  refine .call_bind (keeping_none.mpr .left) fun (answer : Except CloudError (List Volume)) => ?_
  cases answer with
  | error e =>
    exact Program.Unfolds.pure (keeping_none.mpr (.unlisted e nofun))
      (keeping_some.mpr ⟨rfl, .unlisted e nofun⟩)
  | ok volumes =>
    show Action.Unfolds ((volumes.filter _).forM (remove policy)) c _
    rw [hkinds]
    refine (Action.Pursues.forM Removal.leavesOff (remove_pursues policy) _).mono ?_
    rintro h o ⟨o', rfl, hrun⟩
    exact ⟨o', rfl, .listed volumes hrun⟩

theorem resource_of_name {config : Config} {bundle : VersionBundle} {r : Resource Cloud Cluster}
    (hr : r ∈ (Operator.resources config bundle).resources) (hname : r.name = "ebs_volume") :
    r = ((resource config.volumeDeletionPolicy).wrap (.retrying config.retry)).wrap
      (.measuring config.installationName) := by
  refine Operator.eq_of_name hr ?_ hname
  simp [Operator.resources_eq, Operator.leading]

/-- No volume is deleted that was not listed, is not loose or has an attachment that was
not given up since the listing. -/
def DetachedFirst (cluster : String) (h : List Exchange) : Prop :=
  ∀ before id answer after, h = before ++ ⟨.deleteVolume id, answer⟩ :: after →
    ∃ (volumes : List Volume) (v : Volume), before.head? =
        some ⟨.describeVolumes [.tag (Names.ownershipTag cluster) Names.owned], .ok volumes⟩ ∧
      v ∈ volumes ∧ isLoose cluster v.tags = true ∧ v.id = id ∧
      ∀ a ∈ v.attachments, ∀ x ∈ forcedRound id a, ∃ e ∈ before, e.call = x ∧ e.tolerated = true

theorem Attempt.detachedFirst {cluster : String} {h : List Exchange} {o : Option Bool}
    (hrun : Attempt cluster h o) : DetachedFirst cluster h := by
  intro before id answer after hh
  cases hrun with
  | left => simp at hh
  | unlisted => cases before <;> simp at hh
  | listed volumes hremoved =>
    cases before with
    | nil => simp at hh
    | cons first before =>
      obtain ⟨rfl, rfl⟩ := List.cons.inj hh
      obtain ⟨v, hv, earlier, within, rest, o', rfl, hremoval⟩ := hremoved.split
      obtain ⟨hlisted, hloose⟩ := List.mem_filter.mp hv
      obtain ⟨hid, hloosened⟩ := hremoval.loosened
      refine ⟨volumes, v, rfl, hlisted, hloose, hid, fun a ha x hx => ?_⟩
      obtain ⟨e, he, hcall⟩ := hloosened a ha x hx
      exact ⟨e, List.mem_cons_of_mem _ (List.mem_append_right earlier he), hcall⟩

theorem Attempt.stops_nothing {cluster : String} {h : List Exchange} {o : Option Bool}
    (hrun : Attempt cluster h o) : ∀ e ∈ h, ∀ id force, e.call ≠ .stopInstance id force := by
  intro e he id force hstop
  cases hrun with
  | left => cases he
  | unlisted =>
    rw [List.mem_singleton.mp he] at hstop
    cases hstop
  | listed volumes hremoved =>
    rcases List.mem_cons.mp he with rfl | he
    · cases hstop
    · obtain ⟨v, -, _, _, hremoval, he⟩ := hremoved.calls he
      rcases hremoval.calls he with ⟨a, -, hx⟩ | hx
      · rw [hstop] at hx
        simp [forcedRound] at hx
      · cases hstop.symm.trans hx

/-- One attempt after the other, each with a listing of its own. Nothing is asked for that
is not part of such an attempt, wherever the deletion is left off. -/
theorem loose_volumes_removed {config : Config} {bundle : VersionBundle}
    {r : Resource Cloud Cluster} (hr : r ∈ (Operator.resources config bundle).resources)
    (hname : r.name = "ebs_volume") (context : PassContext) (cluster : Cluster)
    (c : Cancellation) :
    (∀ limit, (r.ensure .delete context cluster).Halts limit) ∧
    ∀ t o, ((r.ensure .delete context cluster).run c).Comes t o →
      Keeping c (Attempts fun h o => (Attempt cluster.id).judged h o ∧
        DetachedFirst cluster.id h) (exchanges t) o ∧
      ∀ e ∈ exchanges t, ∀ id force, e.call ≠ .stopInstance id force := by
  obtain rfl := resource_of_name hr hname
  constructor
  · exact fun limit => .managed config.retry config.installationName "ebs_volume" .ensureDeleted
      (ensure_halts config.volumeDeletionPolicy .delete context cluster)
  intro t o ht
  have hattempts := Action.Unfolds.changing config.retry config.installationName "ebs_volume"
    (o := .ensureDeleted) rfl (judged_leavesOff (Attempt.leavesOff cluster.id))
    (ensureDeleted_pursues (c := c) config.volumeDeletionPolicy context cluster)
  obtain ⟨o', rfl, hrun⟩ := hattempts t o ht
  refine ⟨⟨o', rfl, hrun.mono fun h o ho => ⟨ho, Attempt.detachedFirst ho⟩⟩, ?_⟩
  exact hrun.forall fun h o ho => Attempt.stops_nothing ho

def removalsOfTrial : Transcript Cloud :=
  let a : Attachment := ⟨"/dev/xvdh", "i-1"⟩
  let v : Volume := ⟨"vol-1", [a], [Trial.ownedBy "a1b2c", (Names.nameTag, "a1b2c-etcd")]⟩
  let listing : Entry (Engine Cloud) := .call (S := Cloud)
    (.describeVolumes [.tag (Names.ownershipTag "a1b2c") Names.owned]) (.ok [v])
  [.reported .attempt, listing, .call (S := Cloud) (.detachVolume v.id a true) (.error .throttled),
   .turned ⟨Trial.config.retry, 0, 0⟩ (some (.ofMilliseconds 200)),
   .slept (.ofMilliseconds 200),
   .reported .attempt, listing,
   .call (S := Cloud) (.detachVolume v.id a true) (.error (.incorrectState "vol-1" "available")),
   .call (S := Cloud) (.waitUntilVolumeAvailable v.id) (.ok ()),
   .patience 1, .reported .attempt, .call (S := Cloud) (.deleteVolume v.id) (.ok ()),
   .reported .settled, .reported .settled,
   .reported (.measured (.duration ⟨"ebs_volume", .ensureDeleted, "trial"⟩ true))]

def ensured : Resource Cloud Cluster :=
  ((resource Trial.config.volumeDeletionPolicy).wrap (.retrying Trial.config.retry)).wrap
    (.measuring Trial.config.installationName)

theorem removalsOfTrial_ends : ((ensured.ensure .delete ⟨true⟩ Trial.cluster).run .none).Ends
    removalsOfTrial (.ok (), .none) :=
  .request (.request (.request (.request (.request (.request (.request (.request (.request
    (.request (.request (.request (.request (.request (.request (.pure _)))))))))))))))

theorem loose_volumes_removed_trial :
    ensured ∈ (Operator.resources Trial.config ⟨"1.0.0", "v1"⟩).resources ∧
    ensured.name = "ebs_volume" ∧
    Attempts (fun h o => (Attempt "a1b2c").judged h o ∧ DetachedFirst "a1b2c" h)
      (exchanges removalsOfTrial) (some (.ok () : Except Error Unit)) := by
  have hmem : ensured ∈ (Operator.resources Trial.config ⟨"1.0.0", "v1"⟩).resources :=
    .tail _ (.tail _ (.head _))
  have hremoved := (loose_volumes_removed hmem rfl ⟨true⟩ Trial.cluster .none).2
    removalsOfTrial (some (.ok (), .none)) removalsOfTrial_ends
  exact ⟨hmem, rfl, (keeping_some.mp hremoved.1).2⟩

end LooseVolumes

end ClusterKeeper
