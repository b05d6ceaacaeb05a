import ClusterKeeper.Pass.Engine
import ClusterKeeper.Proofs.Halting
import ClusterKeeper.Proofs.Retirement
import ClusterKeeper.Proofs.Routing

/-!
# Updates and the volumes before them

An update that replaces the master is sent once in every attempt, after the
volumes have been dealt with and whatever came of that.
-/

set_option autoImplicit false

namespace ClusterKeeper

open Memory

variable {limit : Nat}

namespace Volumes

theorem detach_halts (volume : String) (a : Attachment) (options : DetachOptions) :
    (detach volume a options).Halts limit := by
  have hdetach : ∀ wait : Bool, (detach volume a ⟨options.force, false, wait⟩).Halts limit := by
    intro wait
    refine .bind (.call (S := Cloud) _) fun _ => .bind (.orFail _) fun _ => ?_
    cases wait with
    | false => exact .pure _
    | true => exact .exchange _
  obtain ⟨force, shutdown, wait⟩ := options
  cases shutdown with
  | false => exact hdetach wait
  | true =>
    refine .bind (.bind (.call (S := Cloud) _) fun _ => .bind (.orFail _) fun _ => ?_)
      fun _ => hdetach wait
    exact .exchange _

theorem detachRound_halts (volume : Volume) (options : DetachOptions) :
    (detachRound volume options).Halts limit :=
  .forM _ fun a => .bind (detach_halts volume.id a options).result fun _ => .pure _

theorem delete_halts (policy : RetryPolicy) (volume : String) :
    (delete policy volume).Halts limit :=
  .bind (.lift (policy.retry_halts ((Program.halts_ask _).bind fun _ => Program.halts_pure _)))
    fun _ => .orFail _

theorem retire_halts (policy : RetryPolicy) (volume : Volume) :
    (retire policy volume).Halts limit := by
  refine .bind (detachRound_halts volume _) fun _ => .bind (detachRound_halts volume _) fun _ => ?_
  exact .bind (delete_halts policy volume.id).result fun _ => .pure _

theorem retireEtcd_halts (policy : RetryPolicy) (cluster : String) :
    (retireEtcd policy cluster).Halts limit := by
  have hlist : (list cluster [.etcd cluster]).Halts limit :=
    .bind (.call (S := Cloud) _) fun _ => .bind (.orFail _) fun _ => .pure _
  refine .bind hlist.result fun listing => ?_
  cases listing with
  | ok volumes => exact .forM volumes (retire_halts policy)
  | error e => exact .pure _

end Volumes

namespace MainStack

theorem applyUpdate_halts (policy : RetryPolicy) (cluster : Cluster) (change : StackState) :
    (applyUpdate policy cluster change).Halts limit := by
  unfold applyUpdate
  split
  · exact .pure _
  · split
    · exact .bind (Volumes.retireEtcd_halts policy cluster.id) fun _ => .exchange _
    · split
      · exact .exchange _
      · exact .pure _

end MainStack

structure RetiresFirst (policy volumePolicy : RetryPolicy) (cluster : String)
    (request : UpdateRequest) (apply : Action Cloud Unit) : Prop where
  attempts : ∀ c t r c', (apply.run c).Ends t (r, c') → c' = c ∧ ∃ n, policy.Permits n ∧
    Repeated (UpdateAttempt volumePolicy cluster request) n (exchanges t) r
  halts : ∀ limit, apply.Halts limit

/-- Of every update that the difference of two states called for. -/
theorem update_after_retirement {cloudConfigVersion project : String}
    {policy volumePolicy : RetryPolicy} {context : PassContext} {cluster : Cluster}
    {current desired change : StackState} {made : Transcript Cloud} {c c' : Cancellation}
    {p : Patch StackState StackState StackDeletion}
    (hmade : ((((MainStack.resource cloudConfigVersion volumePolicy).managed policy
      project).updatePatch context cluster current desired).run c).Ends made (.ok p, c'))
    (hchange : p.update = some change) (hupdate : change.shouldUpdate = true) :
    ∃ body, change.updateRequest = some ⟨desired.name, body⟩ ∧
      RetiresFirst policy volumePolicy cluster.id ⟨desired.name, body⟩
        (((MainStack.resource cloudConfigVersion volumePolicy).managed policy project).applyUpdate
          context cluster change) := by
  obtain ⟨body, hrequest⟩ :=
    (MainStack.updatePatch_yields made _ c' hmade).2 p rfl change hchange
  refine ⟨body, hrequest, fun c => ?_, fun limit => ?_⟩
  · have happly := MainStack.applyUpdate_yields (c := c) volumePolicy cluster hrequest hupdate
    have hretried := happly.retrying policy "stack" (o := .applyUpdateChange) rfl
    refine Action.Yields.measuring project "stack" .applyUpdateChange
      (hretried.mono fun t r h ms => ?_)
    rw [exchanges_append, exchanges_measured, List.append_nil]
    exact h.repeated fun _ _ h => h
  · have happly : (MainStack.applyUpdate volumePolicy cluster change).Halts limit :=
      MainStack.applyUpdate_halts volumePolicy cluster change
    exact (happly.retrying policy "stack" .applyUpdateChange).measuring project "stack"
      .applyUpdateChange

namespace Trial

def outdated : StackState :=
  { StackState.desired cluster "v1" with masterInstanceType := "m4.large" }

def renewal : StackState :=
  MainStack.updateChange (.desired cluster "v1") .update
    (Sandbox.template Sandbox.accountId cluster (.desired cluster "v1"))

theorem renews : ∃ t, ((((MainStack.resource "v1" config.volumeDeletionPolicy).managed
    config.retry config.installationName).updatePatch ⟨true⟩ cluster outdated
      (.desired cluster "v1")).run .none).Ends t (.ok (.ofUpdate renewal), .none) := by
  have hrun : ((((MainStack.resource "v1" config.volumeDeletionPolicy).managed
      config.retry config.installationName).updatePatch ⟨true⟩ cluster outdated
        (.desired cluster "v1")).run .none).run (S := Engine Cloud) (Engine.rehearse (S := Cloud)
          (Stores.answer (Sandbox.conduct false)) fun _ s => s) Stores.empty =
      (some (.ok (.ofUpdate renewal), .none), Stores.empty) := rfl
  exact Program.ends_of_run hrun

end Trial

theorem update_after_retirement_trial :
    ∃ t, ((((MainStack.resource "v1" Trial.config.volumeDeletionPolicy).managed Trial.config.retry
        Trial.config.installationName).updatePatch ⟨true⟩ Trial.cluster Trial.outdated
          (.desired Trial.cluster "v1")).run .none).Ends t (.ok (.ofUpdate Trial.renewal), .none) ∧
      Trial.renewal.shouldUpdate = true ∧ ∃ body,
        Trial.renewal.updateRequest = some ⟨Names.guestMainStack "a1b2c", body⟩ ∧
        RetiresFirst Trial.config.retry Trial.config.volumeDeletionPolicy "a1b2c"
          ⟨Names.guestMainStack "a1b2c", body⟩
          (((MainStack.resource "v1" Trial.config.volumeDeletionPolicy).managed Trial.config.retry
            Trial.config.installationName).applyUpdate ⟨true⟩ Trial.cluster Trial.renewal) := by
  obtain ⟨t, ht⟩ := Trial.renews
  exact ⟨t, ht, rfl, update_after_retirement ht rfl rfl⟩

end ClusterKeeper
