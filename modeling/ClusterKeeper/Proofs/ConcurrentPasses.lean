import ClusterKeeper.Proofs.Interleaving
import ClusterKeeper.Proofs.LossyPasses
import ClusterKeeper.Proofs.Teardown

/-!
# Concurrent passes of one cluster

However the calls of several passes for one cluster are interleaved, all of them
succeed at the first attempt, and together they do what one of them would have
done on its own.
-/

set_option autoImplicit false

namespace ClusterKeeper

open Memory

namespace Memory

/-- What can be said of passes underway together that started from `s`, where
one on its own would have come to `alone`. -/
structure Together (k : Conduct) (n : Nat) (s alone : Stores)
    (t : Crowd (Engine Cloud) (Except Error Unit) Stores) : Prop where
  undisturbed : ∀ c next, .request c next ∈ t.programs → Undisturbed t.state c
  completions : ∀ group id, t.state.completions group id + t.state.waiting group id =
    s.completions group id + s.waiting group id
  terminates : Acc (fun t' t => Crowd.Step (truthful k).engine t t') t
  succeed : (∀ t', ¬t.Step (truthful k).engine t') →
    t.programs = List.replicate n (.pure (.ok ())) ∧ t.state.contents = alone.contents ∧
      ∀ group id, t.state.completions group id = alone.completions group id

variable {k : Conduct} {cluster : Cluster} {config : Config} {bundle : VersionBundle}
  {r : Reconciler Cloud Cluster} {s s' : Stores} {n : Nat}

theorem Purging.completions_eq (h : Purging k cluster s s') (group id : String) :
    s'.completions group id = s.completions group id := by
  show (s'.purged k cluster).completions group id = (s.purged k cluster).completions group id
  rw [h.ends]

theorem Purging.waiting_eq (h : Purging k cluster s s') (group id : String) :
    s'.waiting group id = s.waiting group id := by
  show (s'.purged k cluster).waiting group id = (s.purged k cluster).waiting group id
  rw [h.ends]

theorem together_deleting (hroute : r.router.route cluster = .ok (Operator.bundleSet config bundle))
    (hn : (s.volumes.map (·.id)).Nodup) (hpos : 0 < n) :
    ∃ alone, s.runAlone k (r.ensure .delete cluster) = (some (.ok ()), alone) ∧
      ∀ t, Crowd.Reaches (truthful k).engine ⟨List.replicate n (r.ensure .delete cluster), s⟩ t →
        Together k n s alone t := by
  have hreach : (teardown k cluster fun _ => False).Reaches False (r.ensure .delete cluster)
      (Gone k cluster) s := (Teardown.reaches_gone hroute hn).mono fun ⟨_, hx⟩ => hx
  obtain ⟨alone, hrun, hmalone, halone⟩ := hreach.runAlone fun _ h => h
  refine ⟨alone, hrun, fun t ht => ?_⟩
  obtain ⟨hundisturbed, hm, hdone⟩ := Regime.interleaved (g := teardown k cluster fun _ => False)
    (fun _ h => h) Purging.gone hreach hpos ht
  refine ⟨hundisturbed, fun group id => ?_, (Crowd.terminates _).apply t, fun hstuck => ?_⟩
  · rw [hm.completions_eq, hm.waiting_eq]
  · obtain ⟨hprograms, hgone⟩ := hdone hstuck
    have heq : t.state = alone :=
      hgone.eq_purged.trans ((hm.ends.trans hmalone.ends.symm).trans halone.eq_purged.symm)
    exact ⟨hprograms, heq ▸ rfl, fun group id => heq ▸ rfl⟩

theorem together_creating {a : Aim} (o : Orderly a fun _ => False)
    (hroute : r.router.route a.cluster = .ok (Operator.bundleSet config bundle))
    (hversion : a.cloudConfigVersion = bundle.cloudConfigVersion)
    (hallowed : a.updatesAllowed = config.guestUpdateEnabled)
    (hgroup : ∀ group, a.group s = some group → group ∈ s.groups)
    (hn : (s.volumes.map (·.id)).Nodup) (hpos : 0 < n) :
    ∃ alone, s.runAlone a.conduct (r.ensure .create a.cluster) = (some (.ok ()), alone) ∧
      ∀ t, Crowd.Reaches (truthful a.conduct).engine
          ⟨List.replicate n (r.ensure .create a.cluster), s⟩ t →
        Together a.conduct n s alone t := by
  have hreach : (setup a fun _ => False).Reaches False (r.ensure .create a.cluster)
      (Settled a) s :=
    (Setup.reaches_settled o hroute hversion hallowed (.inl hgroup) hn).mono fun ⟨_, hx⟩ => hx
  obtain ⟨alone, hrun, hmalone, halone⟩ := hreach.runAlone fun _ h => h
  refine ⟨alone, hrun, fun t ht => ?_⟩
  obtain ⟨hundisturbed, hm, hdone⟩ := Regime.interleaved (g := setup a fun _ => False)
    (fun _ h => h) Settling.settled hreach hpos ht
  refine ⟨hundisturbed, hm.completions, (Crowd.terminates _).apply t, fun hstuck => ?_⟩
  obtain ⟨hprograms, hsettled⟩ := hdone hstuck
  have hsame : t.state.contents = alone.contents :=
    hsettled.contents_eq.trans ((hm.ends.trans hmalone.ends.symm).trans halone.contents_eq.symm)
  exact ⟨hprograms, hsame, hm.completions_of_contents hmalone hsame⟩

end Memory

/-- Any number of passes in one direction, each of them one that the
configuration makes for the cluster. -/
theorem concurrent_passes (k : Conduct) (config : Config) (cluster : Cluster)
    (direction : Direction) (s : Stores) (n : Nat)
    (hrender : ∀ account cluster state, (k.render account cluster state).isOk = true)
    (hstacks : k.updatesInPlace = false) (hvalid : config.validate = .ok ())
    (hcovers : config.Covers cluster) (hn : (s.volumes.map (·.id)).Nodup)
    (hgroup : direction = .create → ∀ group, Drainer.groupOf
      s.guest.present[Names.guestMainStack cluster.id]? = some group → group ∈ s.groups)
    (hpos : 0 < n) :
    ∃ r, Operator.reconciler config = .ok r ∧
      ∃ alone, s.runAlone k (r.ensure direction cluster) = (some (.ok ()), alone) ∧
        ∀ t, Crowd.Reaches (truthful k).engine
            ⟨List.replicate n (r.ensure direction cluster), s⟩ t →
          Together k n s alone t := by
  obtain ⟨r, hr, hroute⟩ := Operator.reconciler_of_validate hvalid
  obtain ⟨bundle, -, -, hroute⟩ := hroute cluster hcovers
  refine ⟨r, hr, ?_⟩
  cases direction with
  | delete => exact together_deleting hroute hn hpos
  | create =>
    exact together_creating (a := Aim.of k config bundle cluster)
      (orderly_of_rendering hrender hstacks fun _ _ h => h) hroute rfl rfl (hgroup rfl) hn hpos

theorem Trial.group_known (group : String) (h : Drainer.groupOf
    Trial.stores.guest.present[Names.guestMainStack Trial.cluster.id]? = some group) :
    group ∈ Trial.stores.groups := by
  have hstack : Trial.stores.guest.present[Names.guestMainStack Trial.cluster.id]? =
      some ⟨Names.guestMainStack "a1b2c", .createComplete, Trial.outputs⟩ :=
    (Table.getElem?_insert _ _ _ _).trans (if_pos rfl)
  rw [hstack] at h
  have hname : group = "workers" := by
    have houtputs : lastValue? workerGroupOutput Trial.outputs = some "workers" := by decide
    exact Option.some.inj (h.symm.trans houtputs)
  rw [hname]
  exact Std.ExtTreeMap.mem_insert_self

theorem concurrent_passes_trial :
    (∀ account cluster state,
        ((Sandbox.conduct false).render account cluster state).isOk = true) ∧
      (Sandbox.conduct false).updatesInPlace = false ∧ Trial.config.validate = .ok () ∧
      Trial.config.Covers Trial.cluster ∧ (Trial.stores.volumes.map (·.id)).Nodup ∧
      (∀ group, Drainer.groupOf Trial.stores.guest.present[Names.guestMainStack
        Trial.cluster.id]? = some group → group ∈ Trial.stores.groups) ∧ 0 < 2 ∧
      ∃ r, Operator.reconciler Trial.config = .ok r ∧
        ∃ alone, Trial.stores.runAlone (Sandbox.conduct false) (r.ensure .create Trial.cluster) =
            (some (.ok ()), alone) ∧
          ∀ t, Crowd.Reaches (truthful (Sandbox.conduct false)).engine
              ⟨List.replicate 2 (r.ensure .create Trial.cluster), Trial.stores⟩ t →
            Together (Sandbox.conduct false) 2 Trial.stores alone t :=
  ⟨fun _ _ _ => rfl, rfl, Trial.config_valid, Trial.config_covers, Trial.volumes_nodup,
    Trial.group_known, Nat.two_pos,
    concurrent_passes (Sandbox.conduct false) Trial.config Trial.cluster .create Trial.stores 2
      (fun _ _ _ => rfl) rfl Trial.config_valid Trial.config_covers Trial.volumes_nodup
      (fun _ => Trial.group_known) Nat.two_pos⟩

end ClusterKeeper
