import ClusterKeeper.Proofs.SetupPasses
import ClusterKeeper.Proofs.Teardown

/-!
# Passes under lossy responses

Calls may be lost before or after they took effect. However many passes a deletion takes,
and whatever some of them came to, the first that succeeds has deleted the cluster and
nothing else. A creation whose calls about machines are answered faithfully leaves what one
pass without losses would have left, and it stays that way.
-/

set_option autoImplicit false

namespace ClusterKeeper

open Memory

/-- What passes delete despite the losses is exactly what one pass without
losses deletes, and such a pass succeeds wherever the others were left off. -/
theorem deletion_despite_losses (k : Conduct) (config : Config) (cluster : Cluster) (s : Stores)
    (hvalid : config.validate = .ok ())
    (hdeleted : cluster.isBeingDeleted = true) (hcovers : config.Covers cluster)
    (hn : (s.volumes.map (·.id)).Nodup) :
    ∃ r, Operator.reconciler config = .ok r ∧
      ∀ os s', Rounds (unreliable k fun _ => True).engine (r.reconcile cluster) s os s' →
        (some (.ok ()) ∈ os → s' = s.purged k cluster) ∧ Purging k cluster s s' ∧
        s'.runAlone k (r.reconcile cluster) = (some (.ok ()), s.purged k cluster) := by
  obtain ⟨r, hr, hroute⟩ := Operator.reconciler_of_validate hvalid
  obtain ⟨bundle, -, -, hroute⟩ := hroute cluster hcovers
  refine ⟨r, hr, fun os s' hrounds => ?_⟩
  have hdirection : r.reconcile cluster = r.ensure .delete cluster :=
    congrArg (r.ensure · cluster) (if_pos hdeleted)
  rw [hdirection] at hrounds ⊢
  have hlossy : ∀ s₁, Purging k cluster s s₁ → (teardown k cluster fun _ => True).Reaches
      (Teardown.Excuse fun _ => True) (r.ensure .delete cluster) (Gone k cluster) s₁ :=
    fun s₁ hm => Teardown.reaches_gone hroute (hm.volumes.nodup hn)
  obtain ⟨hm, hgone⟩ := Regime.Reaches.rounds (g := teardown k cluster fun _ => True) hlossy
    Purging.gone hrounds
  have halone : (teardown k cluster fun _ => False).Reaches False (r.ensure .delete cluster)
      (Gone k cluster) s' :=
    (Teardown.reaches_gone hroute (hm.volumes.nodup hn)).mono fun ⟨_, hx⟩ => hx
  obtain ⟨s₂, hrun, hm₂, hgone₂⟩ := halone.runAlone fun _ h => h
  refine ⟨fun ho => (hgone ho).eq_purged.trans hm.ends, hm, hrun.trans ?_⟩
  exact congrArg _ (hgone₂.eq_purged.trans (hm₂.ends.trans hm.ends))

theorem deletion_despite_losses_trial :
    Trial.config.validate = .ok () ∧ (beingDeleted Trial.cluster).isBeingDeleted = true ∧
      Trial.config.Covers (beingDeleted Trial.cluster) ∧
      (Trial.stores.volumes.map (·.id)).Nodup ∧
      ∃ r, Operator.reconciler Trial.config = .ok r ∧
        ∀ os s', Rounds (unreliable (Sandbox.conduct false) fun _ => True).engine
            (r.reconcile (beingDeleted Trial.cluster)) Trial.stores os s' →
          (some (.ok ()) ∈ os →
            s' = Trial.stores.purged (Sandbox.conduct false) (beingDeleted Trial.cluster)) ∧
          Purging (Sandbox.conduct false) (beingDeleted Trial.cluster) Trial.stores s' ∧
          s'.runAlone (Sandbox.conduct false) (r.reconcile (beingDeleted Trial.cluster)) =
            (some (.ok ()),
              Trial.stores.purged (Sandbox.conduct false) (beingDeleted Trial.cluster)) :=
  ⟨Trial.config_valid, rfl, Trial.config_covers, Trial.volumes_nodup,
    deletion_despite_losses (Sandbox.conduct false) Trial.config (beingDeleted Trial.cluster)
      Trial.stores Trial.config_valid rfl Trial.config_covers Trial.volumes_nodup⟩

def Memory.Aim.of (k : Conduct) (config : Config) (bundle : VersionBundle) (cluster : Cluster) :
    Aim := ⟨k, cluster, bundle.cloudConfigVersion, config.guestUpdateEnabled⟩

theorem Memory.orderly_of_rendering {a : Aim} {tampered : Cloud.Call → Prop}
    (hrender : ∀ account cluster state, (a.conduct.render account cluster state).isOk = true)
    (hstacks : a.conduct.updatesInPlace = false) (ht : ∀ x, IsMachineCall x → ¬tampered x) :
    Orderly a tampered where
  renders := by
    obtain ⟨body, hbody⟩ := isOk_iff.mp (hrender a.conduct.accountId a.cluster a.desired)
    rw [Aim.body, hbody]
  leavesStacks := hstacks
  machines := ht

/-- The order of the releases and the number of updates asked for may depend on
the losses, but how often each hook was completed does not. -/
theorem creation_despite_losses (k : Conduct) (config : Config) (cluster : Cluster) (s : Stores)
    (hrender : ∀ account cluster state, (k.render account cluster state).isOk = true)
    (hstacks : k.updatesInPlace = false) (hvalid : config.validate = .ok ())
    (hdeleted : cluster.isBeingDeleted = false) (hcovers : config.Covers cluster)
    (hn : (s.volumes.map (·.id)).Nodup) :
    ∃ r, Operator.reconciler config = .ok r ∧
      ∃ bundle ∈ config.versionBundles, bundle.version = cluster.spec.version ∧
        ∀ os s', Rounds (unreliable k fun x => ¬IsMachineCall x).engine (r.reconcile cluster)
            s os s' → some (.ok ()) ∈ os →
          s'.contents = (Aim.of k config bundle cluster).settled s ∧
          ∃ s₁, s.runAlone k (r.reconcile cluster) = (some (.ok ()), s₁) ∧
            s'.contents = s₁.contents ∧
            ∀ group id, s'.completions group id = s₁.completions group id := by
  obtain ⟨r, hr, hroute⟩ := Operator.reconciler_of_validate hvalid
  obtain ⟨bundle, hbundle, hversion, hroute⟩ := hroute cluster hcovers
  refine ⟨r, hr, bundle, hbundle, hversion, fun os s' hrounds ho => ?_⟩
  have hdirection : r.reconcile cluster = r.ensure .create cluster :=
    congrArg (r.ensure · cluster) (if_neg (ne_true_of_eq_false hdeleted))
  rw [hdirection] at hrounds ⊢
  have hlossy : Orderly (Aim.of k config bundle cluster) fun x => ¬IsMachineCall x :=
    orderly_of_rendering hrender hstacks fun _ hx h => h hx
  have hfail : Setup.Excuse fun x => ¬IsMachineCall x := ⟨.accountId, nofun⟩
  obtain ⟨hm, hsettled⟩ := Regime.Reaches.rounds
    (g := setup (Aim.of k config bundle cluster) fun x => ¬IsMachineCall x)
    (fun s₁ hm => Setup.reaches_settled hlossy hroute rfl rfl (.inr hfail) (hm.volumes.nodup hn))
    Settling.settled hrounds
  have hs' := hsettled ho
  have hgroup : ∀ group, (Aim.of k config bundle cluster).group s = some group →
      group ∈ s.groups := fun group hg =>
    (hm.groups group).mp (hs'.members group (hm.group.trans hg)).1
  have halone : (setup (Aim.of k config bundle cluster) fun _ => False).Reaches False
      (r.ensure .create cluster) (Settled (Aim.of k config bundle cluster)) s :=
    (Setup.reaches_settled (orderly_of_rendering hrender hstacks fun _ _ h => h) hroute rfl rfl
      (.inl hgroup) hn).mono fun ⟨_, hx⟩ => hx
  obtain ⟨s₁, hrun, hm₁, hs₁⟩ := halone.runAlone fun _ h => h
  have hends : s'.contents = (Aim.of k config bundle cluster).settled s :=
    hs'.contents_eq.trans hm.ends
  have hsame : s'.contents = s₁.contents :=
    hends.trans (hm₁.ends.symm.trans hs₁.contents_eq.symm)
  exact ⟨hends, s₁, hrun, hsame, hm.completions_of_contents hm₁ hsame⟩

theorem creation_despite_losses_trial :
    (∀ account cluster state,
        ((Sandbox.conduct false).render account cluster state).isOk = true) ∧
      (Sandbox.conduct false).updatesInPlace = false ∧ Trial.config.validate = .ok () ∧
      Trial.cluster.isBeingDeleted = false ∧ Trial.config.Covers Trial.cluster ∧
      (Trial.stores.volumes.map (·.id)).Nodup ∧
      ∃ r, Operator.reconciler Trial.config = .ok r ∧
        ∃ bundle ∈ Trial.config.versionBundles, bundle.version = Trial.cluster.spec.version ∧
          ∀ os s', Rounds (unreliable (Sandbox.conduct false) fun x => ¬IsMachineCall x).engine
              (r.reconcile Trial.cluster) Trial.stores os s' → some (.ok ()) ∈ os →
            s'.contents = (Aim.of (Sandbox.conduct false) Trial.config bundle
              Trial.cluster).settled Trial.stores ∧
            ∃ s₁, Trial.stores.runAlone (Sandbox.conduct false) (r.reconcile Trial.cluster) =
                (some (.ok ()), s₁) ∧ s'.contents = s₁.contents ∧
              ∀ group id, s'.completions group id = s₁.completions group id :=
  ⟨fun _ _ _ => rfl, rfl, Trial.config_valid, rfl, Trial.config_covers, Trial.volumes_nodup,
    creation_despite_losses (Sandbox.conduct false) Trial.config Trial.cluster Trial.stores
      (fun _ _ _ => rfl) rfl Trial.config_valid rfl Trial.config_covers Trial.volumes_nodup⟩

end ClusterKeeper
