import ClusterKeeper.Proofs.VolumeRemoval
import Mathlib.Data.List.Nodup

/-!
# Volumes taken out of service

Listing, detaching and deleting the doomed volumes while others may be doing the
same.
-/

set_option autoImplicit false

namespace ClusterKeeper

namespace Memory

theorem holdsFor_tag (key value : String) (v : Volume) :
    Condition.holdsFor (.tag key value) v = decide (v.tags.lookup key = some value) := by
  have hkey : (("tag:" ++ key).drop 4).toString = key := by
    rw [← String.toList_inj]
    simp
  have hstart : ("tag:" ++ key).startsWith "tag:" = true := by simp
  show Option.any [value].contains (v.tags.lookup (if ("tag:" ++ key).startsWith "tag:" = true
    then (("tag:" ++ key).drop 4).toString else "tag:" ++ key)) = _
  rw [if_pos hstart, hkey]
  cases v.tags.lookup key with
  | none => rfl
  | some w => simp

structure Slated (doomed : Tags → Bool) (id : String) (bound : List Attachment) (s : Stores) :
    Prop where
  nodup : (s.volumes.map (·.id)).Nodup
  meant : ∀ v ∈ s.volumes, v.id = id → doomed v.tags = true
  bounded : ∀ v ∈ s.volumes, v.id = id → v.attachments ⊆ bound

def Removed (id : String) (s : Stores) : Prop := ∀ v ∈ s.volumes, v.id ≠ id

variable {doomed : Tags → Bool} {id : String} {bound : List Attachment} {s s' : Stores}

theorem Slated.thins (h : Slated doomed id bound s) (ht : Thins doomed s.volumes s'.volumes) :
    Slated doomed id bound s' where
  nodup := ht.nodup h.nodup
  meant v hv hid := by
    obtain ⟨w, hw, hid', htags, -⟩ := ht.origin v hv
    exact htags ▸ h.meant w hw (hid'.trans hid)
  bounded v hv hid := by
    obtain ⟨w, hw, hid', -, ha⟩ := ht.origin v hv
    exact fun _ hm => h.bounded w hw (hid'.trans hid) (ha hm)

theorem Slated.weaken {bound' : List Attachment} (h : Slated doomed id bound s)
    (hb : bound ⊆ bound') : Slated doomed id bound' s :=
  ⟨h.nodup, h.meant, fun v hv hid _ hm => hb (h.bounded v hv hid hm)⟩

namespace Stores

variable {k : Conduct}

/-- A detachment leaves nothing meant attached and counts as a success. -/
theorem answer_detachVolume_cases (k : Conduct) (a : Attachment) (force : Bool)
    (h : Slated doomed id bound s) :
    Thins doomed s.volumes (s.answer k (.detachVolume id a force)).2.volumes ∧
    (∃ volumes, (s.answer k (.detachVolume id a force)).2 = { s with volumes := volumes }) ∧
    (Cloud.accept Volumes.isDetached () (s.answer k (.detachVolume id a force)).1 = .ok ()) ∧
    ∀ v ∈ (s.answer k (.detachVolume id a force)).2.volumes, v.id = id → a ∉ v.attachments := by
  have hself :
      (a.instanceId = a.instanceId && (!k.checksDevice || a.device = a.device)) = true := by
    simp
  have hout : ∀ {volumes : List Volume}, Detached id (fun b => b.instanceId = a.instanceId &&
      (!k.checksDevice || b.device = a.device)) volumes →
      ∀ v ∈ volumes, v.id = id → a ∉ v.attachments := by
    intro volumes hd v hv hid ha
    exact Bool.false_ne_true ((hd v hv hid a ha).symm.trans hself)
  have ha : s.answer k (.detachVolume id a force) = s.settle () (s.detachVolume k id a) :=
    answer_of_change rfl
  rw [ha, detachVolume]
  cases hr : detach id a.instanceId (fun b => b.instanceId = a.instanceId &&
      (!k.checksDevice || b.device = a.device)) s.volumes with
  | ok volumes =>
    exact ⟨detach_thins h.meant hr, ⟨volumes, rfl⟩, rfl, hout (detached_of_ok h.nodup hr)⟩
  | error e =>
    obtain ⟨he, hd⟩ := detached_of_error h.nodup hr
    refine ⟨.refl _, ⟨s.volumes, rfl⟩, ?_, hout hd⟩
    show Cloud.accept _ _ (Except.error e) = _
    rw [Cloud.accept, if_pos he]

/-- A deletion of a volume that is attached nowhere counts as a success. -/
theorem answer_deleteVolume_cases (h : Slated doomed id [] s) :
    Thins doomed s.volumes (s.answer k (.deleteVolume id)).2.volumes ∧
    (∃ volumes, (s.answer k (.deleteVolume id)).2 = { s with volumes := volumes }) ∧
    (Cloud.accept CloudError.isNotFound () (s.answer k (.deleteVolume id)).1 = .ok ()) ∧
    Removed id (s.answer k (.deleteVolume id)).2 := by
  have hfree : ∀ v ∈ s.volumes, v.id = id → v.attachments = [] := fun v hv hid =>
    List.subset_nil.mp (h.bounded v hv hid)
  have ha : s.answer k (.deleteVolume id) = s.settle () (s.deleteVolume id) :=
    answer_of_change rfl
  rw [ha, deleteVolume]
  cases hr : removeVolume id s.volumes with
  | ok volumes =>
    exact ⟨removeVolume_thins h.meant hr, ⟨volumes, rfl⟩, rfl, removed_of_ok h.nodup hr⟩
  | error e =>
    obtain ⟨he, hd⟩ := removed_of_error hfree hr
    refine ⟨.refl _, ⟨s.volumes, rfl⟩, ?_, hd⟩
    show Cloud.accept _ _ (Except.error e) = _
    rw [Cloud.accept, if_pos he]

end Stores

structure Thinning (g : Regime) (doomed : Tags → Bool) (due : Stores → Prop) : Prop where
  stays : ∀ {s s'}, g.Moves s s' → due s → due s'
  thins : ∀ {s s'}, g.Moves s s' → Thins doomed s.volumes s'.volumes
  allows : ∀ {s volumes}, due s → Thins doomed s.volumes volumes →
    g.Moves s { s with volumes := volumes }

namespace Thinning

open Regime Discipline

variable {g : Regime} {due : Stores → Prop} {P : Prop} {c : Cancellation} {a : Attachment}
  {force : Bool}

variable {policy : RetryPolicy} {volume : Volume} {options : Volumes.DetachOptions}

theorem does_stopInstance (hP : ∀ x, IsMachineCall x → g.tampered x → P) (instanceId : String)
    (force : Bool) :
    g.Does P (Volumes.stopInstance instanceId force) (fun _ _ => True) c s := by
  refine .exchange_bind (.stopInstance instanceId force) (F := fun _ _ => True)
    (fun _ _ => .of_unchanging rfl trivial) ⟨rfl, fun _ _ => rfl⟩ (hP _ rfl) fun _ _ _ _ => ?_
  exact .exchange (.waitUntilInstanceStopped instanceId) (fun _ _ => .of_unchanging rfl trivial)
    ⟨rfl, fun _ _ => rfl⟩ (hP _ rfl)

theorem does_wait (hP : ∀ x, IsMachineCall x → g.tampered x → P) (id message : String) :
    g.Does P (Cloud.waitUntilVolumeAvailable id >>= fun answer =>
      Cloud.orFail message (Cloud.accept CloudError.isNotFound () answer)) (fun _ _ => True) c s :=
  .exchange (.waitUntilVolumeAvailable id) (fun _ _ => .of_unchanging rfl trivial)
    ⟨rfl, fun _ _ => rfl⟩ (hP _ rfl)

/-- The doomed volume is detached, whether this call does it or another has. -/
theorem serves_detachVolume (t : Thinning g doomed due) (hdue : due s)
    (h : Slated doomed id (a :: bound) s) :
    g.Serves P (.detachVolume id a force) (Cloud.accept Volumes.isDetached ())
      (fun _ => Slated doomed id bound) s := by
  obtain ⟨ht, ⟨volumes, heq⟩, hr, ha⟩ := Stores.answer_detachVolume_cases g.conduct a force h
  have h' := h.thins ht
  refine ⟨?_, trivial, .of_ok hr ⟨h'.nodup, h'.meant, fun v hv hid b hb => ?_⟩⟩
  · rw [heq] at ht ⊢
    exact t.allows hdue ht
  · rcases List.mem_cons.mp (h'.bounded v hv hid hb) with rfl | hb
    · exact absurd hb (ha v hv hid)
    · exact hb

theorem serves_deleteVolume (t : Thinning g doomed due) (hdue : due s)
    (h : Slated doomed id [] s) :
    g.Serves P (.deleteVolume id) (Cloud.accept CloudError.isNotFound ()) (fun _ => Removed id)
      s := by
  obtain ⟨ht, ⟨volumes, heq⟩, hr, hgone⟩ := Stores.answer_deleteVolume_cases (k := g.conduct) h
  refine ⟨?_, fun v hv hid => List.subset_nil.mp (h.bounded v hv hid), .of_ok hr hgone⟩
  rw [heq] at ht ⊢
  exact t.allows hdue ht

/-- One attachment less is left. -/
theorem does_detach (t : Thinning g doomed due) (hP : ∀ x, IsMachineCall x → g.tampered x → P)
    (hdue : due s) (h : Slated doomed id (a :: bound) s) :
    g.Does P (Volumes.detach id a options) (fun _ => Slated doomed id bound) c s := by
  have hrunning : ∀ (wait : Bool) (s : Stores), due s → Slated doomed id (a :: bound) s →
      g.Does P (Volumes.detach id a ⟨options.force, false, wait⟩)
        (fun _ => Slated doomed id bound) c s := by
    intro wait s hdue h
    refine .exchange_bind (.detachVolume id a options.force) (fun s₁ hm =>
      t.serves_detachVolume (t.stays hm hdue) (h.thins (t.thins hm))) ⟨rfl, fun _ _ => rfl⟩
      (hP _ rfl) fun _ _ _ h => ?_
    cases wait with
    | false => exact .pure h
    | true => exact (does_wait hP id _).imp fun _ _ hm _ => h.thins (t.thins hm)
  obtain ⟨force, shutdown, wait⟩ := options
  cases shutdown with
  | false => exact hrunning wait s hdue h
  | true =>
    apply Does.bind (does_stopInstance hP a.instanceId force)
    intro _ s₁ hm _
    exact hrunning wait s₁ (t.stays hm hdue) (h.thins (t.thins hm))

/-- However often it is repeated, a volume attached nowhere is gone in the end. -/
theorem does_delete (t : Thinning g doomed due) (hP : ∀ x, IsMachineCall x → g.tampered x → P)
    (hrepeats : P → ∃ x, g.tampered x) (hdue : due s) (h : Slated doomed id [] s) :
    g.Does P (Volumes.delete policy id) (fun _ => Removed id) c s := by
  refine .bind (.retry (F := fun _ => Removed id) hrepeats fun s₁ hm => ?_)
    fun _ _ _ h => .orFail h
  exact Does.called (c := c) (Does.expect (.deleteVolume id) (fun s₂ hm' =>
    t.serves_deleteVolume (t.stays (g.trans hm hm') hdue) (h.thins (t.thins (g.trans hm hm'))))
    ⟨rfl, fun _ _ => rfl⟩ (hP _ rfl))

theorem does_remove (t : Thinning g doomed due) (hP : ∀ x, IsMachineCall x → g.tampered x → P)
    (hrepeats : P → ∃ x, g.tampered x) (hdue : due s)
    (h : Slated doomed volume.id volume.attachments s) :
    g.Does P (LooseVolumes.remove policy volume) (fun _ => Removed volume.id) c s := by
  refine .bind (Does.forM (I := fun bound s => due s ∧ Slated doomed volume.id bound s)
    volume.attachments ?_ ⟨hdue, h⟩) fun _ s₁ _ h => t.does_delete hP hrepeats h.1 h.2
  intro a rest s₁ h
  exact (t.does_detach hP h.1 h.2).imp fun _ _ hm h' => ⟨t.stays hm h.1, h'⟩

theorem does_detachRound (t : Thinning g doomed due) (hP : ∀ x, IsMachineCall x → ¬g.tampered x)
    (hdue : due s) (h : Slated doomed volume.id volume.attachments s) :
    g.Does P (Volumes.detachRound volume options) (fun _ => Slated doomed volume.id []) c s := by
  refine (Does.forM (I := fun bound s => due s ∧ Slated doomed volume.id bound s)
    volume.attachments ?_ ⟨hdue, h⟩).imp fun _ _ _ h => h.2
  intro a rest s₁ h
  apply Does.bind (t.does_detach (P := False) hP h.1 h.2).result
  rintro (e | ⟨⟩) s₂ hm h'
  · exact h'.elim
  · exact .pure ⟨t.stays hm h.1, h'⟩

theorem does_retire (t : Thinning g doomed due) (hP : ∀ x, IsMachineCall x → ¬g.tampered x)
    (hdue : due s) (h : Slated doomed volume.id volume.attachments s) :
    g.Does P (Volumes.retire policy volume) (fun _ => Removed volume.id) c s := by
  apply Does.bind (t.does_detachRound hP hdue h)
  intro _ s₁ hm₁ h₁
  have hdue₁ := t.stays hm₁ hdue
  apply Does.bind (t.does_detachRound hP hdue₁ (h₁.weaken (List.nil_subset _)))
  intro _ s₂ hm₂ h₂
  apply Does.bind (t.does_delete (P := False) hP False.elim (t.stays hm₂ hdue₁) h₂).result
  rintro (e | ⟨⟩) s₃ _ h
  · exact h.elim
  · exact .pure h

structure Remaining (doomed : Tags → Bool) (due : Stores → Prop) (rest : List Volume)
    (s : Stores) : Prop where
  due : due s
  nodup : (s.volumes.map (·.id)).Nodup
  slated : ∀ v ∈ rest, Slated doomed v.id v.attachments s
  all : ∀ v ∈ s.volumes, doomed v.tags = true → ∃ w ∈ rest, w.id = v.id

theorem remaining_of_listed {volumes : List Volume} (hdue : due s)
    (hn : (s.volumes.map (·.id)).Nodup)
    (hv : volumes = s.volumes.filter fun v => doomed v.tags) :
    Remaining doomed due volumes s where
  due := hdue
  nodup := hn
  slated v hm := by
    obtain ⟨hm, hd⟩ := List.mem_filter.mp (hv ▸ hm)
    have heq : ∀ w ∈ s.volumes, w.id = v.id → w = v := fun w hw hid =>
      List.inj_on_of_nodup_map hn hw hm hid
    exact ⟨hn, fun w hw hid => heq w hw hid ▸ hd, fun w hw hid => heq w hw hid ▸ fun _ h => h⟩
  all v hm hd := ⟨v, hv ▸ List.mem_filter.mpr ⟨hm, hd⟩, rfl⟩

theorem Remaining.next (t : Thinning g doomed due) {rest : List Volume}
    (h : Remaining doomed due (volume :: rest) s) (hm : g.Moves s s')
    (hgone : Removed volume.id s') : Remaining doomed due rest s' where
  due := t.stays hm h.due
  nodup := (t.thins hm).nodup h.nodup
  slated v hv := (h.slated v (List.mem_cons_of_mem _ hv)).thins (t.thins hm)
  all v hv hd := by
    obtain ⟨u, hu, hid, htags, -⟩ := (t.thins hm).origin v hv
    obtain ⟨w, hw, hwid⟩ := h.all u hu (htags ▸ hd)
    rcases List.mem_cons.mp hw with rfl | hw
    · exact absurd (hwid.trans hid).symm (hgone v hv)
    · exact ⟨w, hw, hwid.trans hid⟩

def Spared (doomed : Tags → Bool) (s : Stores) : Prop := ∀ v ∈ s.volumes, doomed v.tags = false

theorem Remaining.spared (h : Remaining doomed due [] s) : Spared doomed s := by
  intro v hv
  cases hd : doomed v.tags with
  | false => rfl
  | true =>
    obtain ⟨w, hw, -⟩ := h.all v hv hd
    exact absurd hw List.not_mem_nil

theorem Spared.thins (h : Spared doomed s) (ht : Thins doomed s.volumes s'.volumes) :
    Spared doomed s' := by
  intro v hv
  obtain ⟨w, hw, -, htags, -⟩ := ht.origin v hv
  exact htags ▸ h w hw

theorem does_forM {f : Volume → Action Cloud PUnit} {volumes : List Volume}
    (t : Thinning g doomed due) (h : Remaining doomed due volumes s)
    (hf : ∀ v s, due s → Slated doomed v.id v.attachments s →
      g.Does P (f v) (fun _ => Removed v.id) c s) :
    g.Does P (volumes.forM f) (fun _ => Spared doomed) c s := by
  refine (Does.forM volumes (fun v rest s h => ?_) h).imp fun _ _ _ h => h.spared
  exact (hf v s h.due (h.slated v List.mem_cons_self)).imp fun _ _ hm hgone => h.next t hm hgone

theorem does_list (hP : ∀ x, IsMachineCall x → g.tampered x → P) (cluster : String)
    (kinds : List VolumeKind) :
    g.Does P (Volumes.list cluster kinds) (fun volumes s => volumes =
      s.volumes.filter fun v => Volumes.isListed cluster kinds v.tags) c s := by
  have hfilter : ∀ volumes : List Volume, (volumes.filter fun v =>
      [Condition.tag (Names.ownershipTag cluster) Names.owned].all (Condition.holdsFor · v)).filter
        (fun v => kinds.isEmpty || kinds.any (·.matches v.tags)) =
      volumes.filter fun v => Volumes.isListed cluster kinds v.tags := by
    intro volumes
    rw [List.filter_filter]
    apply List.filter_congr
    intro v _
    rw [List.all_cons, List.all_nil, Bool.and_true, holdsFor_tag, Bool.and_comm]
    rfl
  refine .exchange_bind (.describeVolumes [.tag (Names.ownershipTag cluster) Names.owned])
    (f := id) (F := fun volumes s => volumes = s.volumes.filter fun v =>
      [Condition.tag (Names.ownershipTag cluster) Names.owned].all (Condition.holdsFor · v))
    (fun _ _ => .of_unchanging rfl rfl) ⟨rfl, fun _ _ => rfl⟩ (hP _ rfl) fun volumes s₁ _ h => ?_
  apply Does.pure
  rw [h]
  exact hfilter s₁.volumes

/-- All volumes of the kinds are removed, or the removal fails. -/
theorem does_removeLoose {cluster : Cluster} {context : PassContext}
    (t : Thinning g (fun tags => Volumes.isOwned cluster.id tags &&
      Volumes.isLoose cluster.id tags) due)
    (hP : ∀ x, IsMachineCall x → g.tampered x → P) (hrepeats : P → ∃ x, g.tampered x)
    (hdue : due s) (hn : (s.volumes.map (·.id)).Nodup) :
    g.Does P ((LooseVolumes.resource policy).ensureDeleted context cluster)
      (fun _ => Spared fun tags => Volumes.isOwned cluster.id tags &&
        Volumes.isLoose cluster.id tags) c s := by
  apply Does.bind (does_list hP cluster.id _)
  intro volumes s₁ hm hv
  rw [Volumes.isListed_loose] at hv
  apply t.does_forM (remaining_of_listed (t.stays hm hdue) ((t.thins hm).nodup hn) hv)
  exact fun v s hdue h => t.does_remove hP hrepeats hdue h

/-- Nothing that could fail does fail here. -/
theorem does_retireEtcd {cluster : String}
    (t : Thinning g (fun tags => Volumes.isOwned cluster tags &&
      Volumes.holdsEtcd cluster tags) due)
    (hP : ∀ x, IsMachineCall x → ¬g.tampered x) (hdue : due s)
    (hn : (s.volumes.map (·.id)).Nodup) :
    g.Does P (Volumes.retireEtcd policy cluster)
      (fun _ => Spared fun tags => Volumes.isOwned cluster tags &&
        Volumes.holdsEtcd cluster tags) c s := by
  apply Does.bind (does_list (P := False) hP cluster [.etcd cluster]).result
  rintro (e | volumes) s₁ hm hv
  · exact hv.elim
  rw [Volumes.isListed_etcd] at hv
  apply t.does_forM (remaining_of_listed (t.stays hm hdue) ((t.thins hm).nodup hn) hv)
  exact fun v s hdue h => t.does_retire hP hdue h

end Thinning

end Memory

end ClusterKeeper
