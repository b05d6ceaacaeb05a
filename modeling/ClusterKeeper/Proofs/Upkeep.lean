import ClusterKeeper.Proofs.Retirement
import ClusterKeeper.Resources

/-!
# Work on volumes

Detaching and deleting a volume takes calls about this volume and the instances
it is attached to. Where these are taken at any time, so is all that is done to
volumes that were listed.
-/

set_option autoImplicit false

namespace ClusterKeeper

namespace Volumes

def retireCalls (volume : Volume) : List Cloud.Call :=
  (volume.attachments.flatMap fun a =>
    detachCalls volume.id a .graceful ++ detachCalls volume.id a .forced) ++
  [.deleteVolume volume.id]

def removeCalls (volume : Volume) : List Cloud.Call :=
  (volume.attachments.flatMap fun a => detachCalls volume.id a .forced) ++
  [.deleteVolume volume.id]

theorem removeCalls_subset (volume : Volume) : removeCalls volume ⊆ retireCalls volume := by
  intro x hx
  rcases List.mem_append.mp hx with hx | hx
  · obtain ⟨a, ha, hx⟩ := List.mem_flatMap.mp hx
    exact List.mem_append_left _
      (List.mem_flatMap.mpr ⟨a, ha, List.mem_append_right _ hx⟩)
  · exact List.mem_append_right _ hx

def Concerns (volume : String) : Cloud.Call → Prop
  | .stopInstance _ _ | .waitUntilInstanceStopped _ => True
  | .detachVolume id _ _ | .waitUntilVolumeAvailable id | .deleteVolume id => id = volume
  | _ => False

theorem concerns_of_detach {volume : String} {a : Attachment} {options : DetachOptions} :
    ∀ x ∈ detachCalls volume a options, Concerns volume x := by
  obtain ⟨force, shutdown, wait⟩ := options
  cases shutdown <;> cases wait <;> simp [detachCalls, Concerns]

theorem concerns_of_mem {volume : Volume} {x : Cloud.Call} (hx : x ∈ retireCalls volume) :
    Concerns volume.id x := by
  rcases List.mem_append.mp hx with hx | hx
  · obtain ⟨a, -, hx⟩ := List.mem_flatMap.mp hx
    rcases List.mem_append.mp hx with hx | hx
    · exact concerns_of_detach x hx
    · exact concerns_of_detach x hx
  · obtain rfl := List.mem_singleton.mp hx
    rfl

end Volumes

namespace Discipline.Allows

variable {σ α : Type} {d : Discipline σ} {s : σ} {policy : RetryPolicy}

/-- A call and the failure that comes of an answer that is not expected. -/
theorem exchange {message : String} (x : Cloud.Call)
    {f : Except x.Fault x.Value → Except CloudError α}
    (hx : d.Allows (Action.call (S := Cloud) x) (fun _ => True) s) :
    d.Allows (Action.call (S := Cloud) x >>= fun answer => Cloud.orFail message (f answer))
      (fun _ => True) s :=
  .bind hx fun _ _ => .orFail fun _ _ => trivial

/-- And what is done after it. -/
theorem exchange_bind {β : Type} {message : String} (x : Cloud.Call)
    {f : Except x.Fault x.Value → Except CloudError β} {rest : β → Action Cloud α}
    (hx : d.Allows (Action.call (S := Cloud) x) (fun _ => True) s)
    (hrest : ∀ b, d.Allows (rest b) (fun _ => True) s) :
    d.Allows (Action.call (S := Cloud) x >>= fun answer =>
      Cloud.orFail message (f answer) >>= rest) (fun _ => True) s :=
  .bind hx fun _ _ => .bind (Q := fun _ => True) (.orFail fun _ _ => trivial) fun b _ => hrest b

theorem detach {volume : String} {a : Attachment} {options : Volumes.DetachOptions}
    (hcalls : ∀ x ∈ Volumes.detachCalls volume a options,
      d.Allows (Action.call (S := Cloud) x) (fun _ => True) s) :
    d.Allows (Volumes.detach volume a options) (fun _ => True) s := by
  obtain ⟨force, shutdown, wait⟩ := options
  have hdetach : d.Allows (Volumes.detach volume a ⟨force, false, wait⟩) (fun _ => True) s := by
    refine .exchange_bind (.detachVolume volume a force)
      (hcalls _ (List.mem_append_right _ List.mem_cons_self)) fun _ => ?_
    cases wait with
    | false => exact .pure trivial
    | true =>
      exact .exchange (.waitUntilVolumeAvailable volume) (hcalls _
        (List.mem_append_right _ (List.mem_cons_of_mem _ List.mem_cons_self)))
  cases shutdown with
  | false => exact hdetach
  | true =>
    refine .bind (R := fun _ => True) ?_ fun _ _ => hdetach
    refine .exchange_bind (.stopInstance a.instanceId force)
      (hcalls _ List.mem_cons_self) fun _ => ?_
    exact .exchange (.waitUntilInstanceStopped a.instanceId)
      (hcalls _ (List.mem_cons_of_mem _ List.mem_cons_self))

theorem delete {volume : String} (hrepeats : d.environment.repeats)
    (hcall : d.Allows (Action.call (S := Cloud) (.deleteVolume volume)) (fun _ => True) s) :
    d.Allows (Volumes.delete policy volume) (fun _ => True) s :=
  .bind (.retry hrepeats hcall) fun _ _ => .orFail fun _ _ => trivial

theorem detachRound {volume : Volume} {options : Volumes.DetachOptions}
    (hcalls : ∀ a ∈ volume.attachments, ∀ x ∈ Volumes.detachCalls volume.id a options,
      d.Allows (Action.call (S := Cloud) x) (fun _ => True) s) :
    d.Allows (Volumes.detachRound volume options) (fun _ => True) s :=
  .forM _ fun a ha => .bind (.result (.detach (hcalls a ha))) fun _ _ => .pure trivial

section

variable {volume : Volume} (hrepeats : d.environment.repeats)
include hrepeats

theorem retire (hcalls : ∀ x ∈ Volumes.retireCalls volume,
      d.Allows (Action.call (S := Cloud) x) (fun _ => True) s) :
    d.Allows (Volumes.retire policy volume) (fun _ => True) s := by
  have hattached : ∀ a ∈ volume.attachments, ∀ x ∈ Volumes.detachCalls volume.id a .graceful ++
      Volumes.detachCalls volume.id a .forced,
      d.Allows (Action.call (S := Cloud) x) (fun _ => True) s := fun a ha x hx =>
    hcalls x (List.mem_append_left _ (List.mem_flatMap.mpr ⟨a, ha, hx⟩))
  refine .bind (.detachRound fun a ha x hx => hattached a ha x (List.mem_append_left _ hx))
    fun _ _ => ?_
  refine .bind (.detachRound fun a ha x hx => hattached a ha x (List.mem_append_right _ hx))
    fun _ _ => ?_
  exact .bind (.result (.delete hrepeats (hcalls _ (List.mem_append_right _ List.mem_cons_self))))
    fun _ _ => .pure trivial

theorem remove (hcalls : ∀ x ∈ Volumes.removeCalls volume,
      d.Allows (Action.call (S := Cloud) x) (fun _ => True) s) :
    d.Allows (LooseVolumes.remove policy volume) (fun _ => True) s := by
  refine .bind (.forM _ fun a ha => .detach fun x hx => hcalls x (List.mem_append_left _
    (List.mem_flatMap.mpr ⟨a, ha, hx⟩))) fun _ _ => ?_
  exact .delete hrepeats (hcalls _ (List.mem_append_right _ List.mem_cons_self))

end

variable {cluster : String} {G : Volume → Prop}
  (hlisted : d.Allows (Action.call (S := Cloud)
    (.describeVolumes [.tag (Names.ownershipTag cluster) Names.owned]))
    (fun answer => ∀ volumes : List Volume, answer = .ok volumes → ∀ v ∈ volumes, G v) s)
include hlisted

/-- Only volumes of one of the kinds are left of a listing. -/
theorem list (kinds : List VolumeKind) :
    d.Allows (Volumes.list cluster kinds) (fun volumes => ∀ v ∈ volumes, G v ∧
      (kinds.isEmpty || kinds.any (·.matches v.tags)) = true) s := by
  refine .bind hlisted fun answer h => .bind (.orFail h) fun volumes h => .pure fun v hv => ?_
  obtain ⟨hv, hkind⟩ := List.mem_filter.mp hv
  exact ⟨h v hv, hkind⟩

variable (hrepeats : d.environment.repeats)
include hrepeats

theorem retireEtcd (hcalls : ∀ v, G v → Volumes.holdsEtcd cluster v.tags = true →
      ∀ x ∈ Volumes.retireCalls v, d.Allows (Action.call (S := Cloud) x) (fun _ => True) s) :
    d.Allows (Volumes.retireEtcd policy cluster) (fun _ => True) s := by
  refine .bind (.result (.list hlisted [.etcd cluster])) fun listing h => ?_
  cases listing with
  | ok volumes =>
    refine .forM volumes fun v hv => .retire hrepeats ?_
    obtain ⟨hG, hkind⟩ := h volumes rfl v hv
    exact hcalls v hG (by simpa [Volumes.matches_etcd] using hkind)
  | error e => exact .pure trivial

theorem removeLoose (hcalls : ∀ v, G v → Volumes.isLoose cluster v.tags = true →
      ∀ x ∈ Volumes.removeCalls v, d.Allows (Action.call (S := Cloud) x) (fun _ => True) s) :
    d.Allows (Volumes.list cluster [.etcd cluster, .persistent] >>= fun volumes =>
      volumes.forM (LooseVolumes.remove policy)) (fun _ => True) s := by
  refine .bind (.list hlisted _) fun volumes h => .forM volumes fun v hv => .remove hrepeats ?_
  obtain ⟨hG, hkind⟩ := h v hv
  exact hcalls v hG ((Volumes.any_matches_loose cluster v.tags).symm.trans hkind)

end Discipline.Allows

end ClusterKeeper
