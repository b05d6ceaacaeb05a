import ClusterKeeper.Memory.Sandbox
import ClusterKeeper.Operator
import ClusterKeeper.Proofs.Candor
import ClusterKeeper.Proofs.Observations

/-!
# Candid resources

Each of the five resources succeeds exactly when what it was answered calls for
it. The answers of the machines are the exception while a cluster is created:
volumes are then retired as well as can be.
-/

set_option autoImplicit false

namespace ClusterKeeper

open Memory

def Direction.counts : Direction → Cloud.Call → Bool
  | .create, x => !decide (Sandbox.service? x = some .machines)
  | .delete, _ => true

theorem Direction.counts_of_harmless {x : Cloud.Call} (direction : Direction)
    (hx : decide (Sandbox.service? x = some .machines) = false) : direction.counts x = true := by
  cases direction with
  | create => rw [counts, hx]; rfl
  | delete => rfl

variable {K : Type} {counts : Cloud.Call → Bool} {c : Cancellation} {context : PassContext}
  {policy : RetryPolicy} {project : String}

/-! Resources that compare states -/

section Crud

variable {r : CrudResource Cloud K} {object : K}

inductive CandidPatch (counts : Cloud.Call → Bool) (r : CrudResource Cloud K)
    (context : PassContext) (object : K) (c : Cancellation) : r.Patch → Prop where
  | empty : CandidPatch counts r context object c .empty
  | create {change : r.CreateChange}
      (h : Candid counts (r.applyCreate context object change) (fun _ => True) c) :
      CandidPatch counts r context object c (.ofCreate change)
  | update {change : r.UpdateChange}
      (h : Candid counts (r.applyUpdate context object change) (fun _ => True) c) :
      CandidPatch counts r context object c (.ofUpdate change)
  | delete {change : r.DeleteChange}
      (h : Candid counts (r.applyDelete context object change) (fun _ => True) c) :
      CandidPatch counts r context object c (.ofDelete change)

theorem Candid.applyIfPresent_last {α : Type} {change : α} {apply : α → Action Cloud Unit}
    (hc : c.skipsResource = false) (h : Candid counts (apply change) (fun _ => True) c) :
    Candid counts (CrudResource.applyIfPresent (some change) apply (Pure.pure ()))
      (fun _ => True) c :=
  h.bind fun _ _ => Weighs.unlessCanceled hc (Candid.pure trivial)

theorem CandidPatch.apply {p : r.Patch} (hc : c.skipsResource = false)
    (hp : CandidPatch counts r context object c p) :
    Candid counts ((r.managed policy project).applyPatch context object p) (fun _ => True) c := by
  cases hp with
  | empty => exact .pure trivial
  | create h => exact .applyIfPresent_last hc (h.managed policy project r.name .applyCreateChange)
  | update h => exact h.managed policy project r.name .applyUpdateChange
  | delete h => exact .applyIfPresent_last hc (h.managed policy project r.name .applyDeleteChange)

theorem Candid.withStates {C : r.State → Prop} {rest : r.State → r.State → Action Cloud Unit}
    (hc : c.skipsResource = false)
    (hcurrent : Candid counts (r.currentState context object) C c)
    (hdesired : Candid counts (r.desiredState context object) (fun _ => True) c)
    (hrest : ∀ current desired, C current →
      Candid counts (rest current desired) (fun _ => True) c) :
    Candid counts ((r.managed policy project).withStates context object rest) (fun _ => True)
      c := by
  apply Candid.bind (hcurrent.managed policy project r.name .getCurrentState)
  intro current hC
  refine Weighs.unlessCanceled hc (Candid.bind
    (hdesired.managed policy project r.name .getDesiredState) fun desired _ => ?_)
  exact Weighs.unlessCanceled hc (hrest current desired hC)

theorem Candid.deletion {current desired : r.State} (hc : c.skipsResource = false)
    (hdelete : Candid counts (r.deletePatch context object current desired)
      (CandidPatch counts r context object c) c) :
    Candid counts (do
      let p ← (r.managed policy project).deletePatch context object current desired
      (r.managed policy project).applyPatch context object p) (fun _ => True) c :=
  Candid.bind (hdelete.managed policy project r.name .newDeletePatch) fun _ hp => hp.apply hc

theorem Candid.creation {current desired : r.State} (hc : c.skipsResource = false)
    (hcreate : Candid counts (r.createPatch context object current desired)
      (CandidPatch counts r context object c) c)
    (hupdate : Candid counts (r.updatePatch context object current desired)
      (CandidPatch counts r context object c) c) :
    Candid counts (do
      let p ← (r.managed policy project).createPatch context object current desired
      (r.managed policy project).applyPatch context object p
      Action.unlessCanceled do
        let p ← (r.managed policy project).updatePatch context object current desired
        (r.managed policy project).applyPatch context object p) (fun _ => True) c := by
  apply Candid.bind (hcreate.managed policy project r.name .newCreatePatch)
  intro p hp
  refine (hp.apply hc).bind fun _ _ => Weighs.unlessCanceled hc ?_
  exact Candid.bind (hupdate.managed policy project r.name .newUpdatePatch)
    fun _ hp => hp.apply hc

end Crud

variable {cluster : Cluster} {direction : Direction}

namespace EncryptionKey

theorem candid (hc : c.skipsResource = false) :
    Candid direction.counts ((resource.managed policy project).toResource.ensure direction context
      cluster) (fun _ => True) c := by
  have hcurrent : Candid direction.counts (resource.currentState context cluster) (fun _ => True)
      c :=
    .exchange (x := .currentKey cluster.id) (direction.counts_of_harmless rfl)
      (.of_cases (fun _ => rfl) fun _ => rfl)
  have hdesired : Candid direction.counts (resource.desiredState context cluster) (fun _ => True)
      c :=
    .exchange (x := .desiredKey cluster.id) (direction.counts_of_harmless rfl)
      (.of_cases (fun _ => rfl) fun _ => rfl)
  cases direction with
  | create =>
    refine .withStates hc hcurrent hdesired fun current desired _ => .creation hc ?_ (.pure .empty)
    apply Candid.pure
    split
    · exact .create (.exchange (x := .createKey cluster.id) rfl
        (.of_cases (fun _ => rfl) (Cloud.isOk_accept_error _ _)))
    · exact .empty
  | delete =>
    refine .withStates hc hcurrent hdesired fun current desired _ => .deletion hc ?_
    apply Candid.pure
    split
    · exact .empty
    · exact .delete (.exchange (x := .deleteKey cluster.id) rfl
        (.of_cases (fun _ => rfl) (Cloud.isOk_accept_error _ _)))

end EncryptionKey

theorem lookUpAccount_candid : Candid direction.counts lookUpAccount (fun _ => True) c :=
  .exchange (x := .accountId) (direction.counts_of_harmless rfl)
    (.of_cases (fun _ => rfl) fun _ => rfl)

namespace Bucket

theorem nameFor_candid : Candid direction.counts (nameFor cluster) (fun _ => True) c :=
  lookUpAccount_candid.bind fun _ _ => .pure trivial

theorem empty_candid (bucket : String) :
    Candid direction.counts (empty bucket) (fun _ => True) c := by
  refine .exchange_bind (x := .listObjects bucket) (direction.counts_of_harmless rfl)
    (.of_cases (fun _ => rfl) (Cloud.isOk_accept_error _ _)) fun keys => ?_
  split
  · exact .exchange (x := .deleteObjects bucket keys) (direction.counts_of_harmless rfl)
      (.of_cases (fun _ => rfl) (Cloud.isOk_accept_error _ _))
  · exact .pure trivial

theorem candid (hc : c.skipsResource = false) :
    Candid direction.counts ((resource.managed policy project).toResource.ensure direction context
      cluster) (fun _ => True) c := by
  have hcurrent : Candid direction.counts (resource.currentState context cluster) (fun _ => True)
      c :=
    nameFor_candid.bind fun bucket _ => .exchange (x := .headBucket bucket)
      (direction.counts_of_harmless rfl) (.of_cases (fun _ => rfl) (Cloud.isOk_accept_error _ _))
  have hdesired : Candid direction.counts (resource.desiredState context cluster) (fun _ => True)
      c := nameFor_candid
  cases direction with
  | create =>
    refine .withStates hc hcurrent hdesired fun current bucket _ => .creation hc ?_ (.pure .empty)
    apply Candid.pure
    split
    · exact .create (.exchange (x := .createBucket bucket) rfl
        (.of_cases (fun _ => rfl) (Cloud.isOk_accept_error _ _)))
    · exact .empty
  | delete =>
    refine .withStates hc hcurrent hdesired fun bucket desired _ => .deletion hc ?_
    apply Candid.pure
    split
    · exact .empty
    · exact .delete ((empty_candid bucket).bind fun _ _ => .exchange (x := .deleteBucket bucket) rfl
        (.of_cases (fun _ => rfl) (Cloud.isOk_accept_error _ _)))

end Bucket

namespace Volumes

variable {volumePolicy : RetryPolicy}

theorem detach_candid (volume : String) (a : Attachment) (options : DetachOptions) :
    Candid Direction.delete.counts (detach volume a options) (fun _ => True) c := by
  have hdetach : ∀ wait : Bool, Candid Direction.delete.counts
      (detach volume a ⟨options.force, false, wait⟩) (fun _ => True) c := by
    intro wait
    refine .exchange_bind (x := .detachVolume volume a options.force) rfl
      (.of_cases (fun _ => rfl) (Cloud.isOk_accept_error _ _)) fun _ => ?_
    cases wait with
    | false => exact .pure trivial
    | true =>
      exact .exchange (x := .waitUntilVolumeAvailable volume) rfl
        (.of_cases (fun _ => rfl) (Cloud.isOk_accept_error _ _))
  obtain ⟨force, shutdown, wait⟩ := options
  cases shutdown with
  | false => exact hdetach wait
  | true =>
    have hstop : Candid Direction.delete.counts (stopInstance a.instanceId force) (fun _ => True)
        c :=
      .exchange_bind (x := .stopInstance a.instanceId force) rfl
        (.of_cases (fun _ => rfl) (Cloud.isOk_accept_error _ _)) fun _ =>
          .exchange (x := .waitUntilInstanceStopped a.instanceId) rfl
            (.of_cases (fun _ => rfl) (Cloud.isOk_accept_error _ _))
    exact hstop.bind fun _ _ => hdetach wait

theorem delete_candid (volume : String) :
    Candid Direction.delete.counts (delete volumePolicy volume) (fun _ => True) c := by
  apply Weighs.retry_bind (A := fun h r => r.isOk = h.all Exchange.tolerated)
  · intro t r ht
    obtain ⟨answer, rfl, hr⟩ := ends_deleteOnce ht
    exact ⟨[⟨.deleteVolume volume, answer⟩], .call (x := .deleteVolume volume) rfl answer,
      hr.trans (Bool.and_true _).symm⟩
  · intro h answer hA
    rw [← List.append_nil h] at hA
    cases answer with
    | ok _ => exact .pure ⟨hA, fun _ _ => trivial⟩
    | error e => exact .throw ⟨hA, fun _ _ => trivial⟩

theorem list_candid (kinds : List VolumeKind) :
    Candid Direction.delete.counts (list cluster.id kinds) (fun _ => True) c :=
  .exchange_bind (x := .describeVolumes _) rfl (.of_cases (fun _ => rfl) fun _ => rfl)
    fun _ => .pure trivial

end Volumes

theorem LooseVolumes.candid {volumePolicy : RetryPolicy} :
    Candid direction.counts ((((resource volumePolicy).wrap (.retrying policy)).wrap
      (.measuring project)).ensure direction context cluster) (fun _ => True) c := by
  cases direction with
  | create => exact (Candid.pure trivial).managed policy project "ebs_volume" .ensureCreated
  | delete =>
    have hremove : ∀ volume, Candid Direction.delete.counts (remove volumePolicy volume)
        (fun _ => True) c := fun volume =>
      (Candid.forM _ fun a => Volumes.detach_candid volume.id a .forced).bind fun _ _ =>
        Volumes.delete_candid volume.id
    exact ((Volumes.list_candid _).bind fun volumes _ => .forM volumes hremove).managed policy
      project "ebs_volume" .ensureDeleted

/-! Volumes that are retired before an update -/

namespace Volumes

variable {volumePolicy : RetryPolicy}

theorem detach_silent (volume : String) (a : Attachment) (options : DetachOptions) :
    Silent Direction.create.counts (detach volume a options) c := by
  have hdetach : ∀ wait : Bool, Silent Direction.create.counts
      (detach volume a ⟨options.force, false, wait⟩) c := by
    intro wait
    refine .call_bind rfl fun _ => .bind (.orFail _) fun _ => ?_
    cases wait with
    | false => exact .pure _
    | true => exact .call_bind rfl fun _ => .orFail _
  obtain ⟨force, shutdown, wait⟩ := options
  cases shutdown with
  | false => exact hdetach wait
  | true =>
    refine .bind (.call_bind rfl fun _ => .bind (.orFail _) fun _ => ?_) fun _ => hdetach wait
    exact .call_bind rfl fun _ => .orFail _

theorem delete_silent (volume : String) :
    Silent Direction.create.counts (delete volumePolicy volume) c := by
  apply Weighs.retry_bind (A := fun h _ => h = [])
  · intro t r ht
    obtain ⟨answer, rfl, -⟩ := ends_deleteOnce ht
    exact ⟨[], .call_ignored (x := .deleteVolume volume) rfl answer, rfl⟩
  · rintro _ answer rfl
    exact Silent.orFail answer

theorem detachRound_candid (volume : Volume) (options : DetachOptions) :
    Candid Direction.create.counts (detachRound volume options) (fun _ => True) c :=
  .forM _ fun a => .after_silent (detach_silent volume.id a options) fun _ => .pure trivial

theorem retireEtcd_candid (id : String) :
    Candid Direction.create.counts (retireEtcd volumePolicy id) (fun _ => True) c := by
  have hlist : Silent Direction.create.counts (list id [.etcd id]) c :=
    .call_bind rfl fun _ => .bind (.orFail _) fun _ => .pure _
  refine .after_silent hlist fun listing => ?_
  cases listing with
  | error e => exact .pure trivial
  | ok volumes =>
    refine .forM volumes fun volume => (detachRound_candid volume _).bind fun _ _ => ?_
    refine (detachRound_candid volume _).bind fun _ _ => ?_
    exact .after_silent (delete_silent volume.id) fun _ => .pure trivial

end Volumes

/-- What a description says of the stack, or that there is none, is taken as it is. -/
theorem judges_ofAnswer (name : String) :
    Judges (.describeStack .guest name) (StackState.ofAnswer name) := by
  refine .of_cases (fun stack => ?_) fun e => by cases e <;> rfl
  unfold StackState.ofAnswer StackOutputs.ofAnswer
  dsimp only
  cases stack.status.outputsAccessible with
  | false => rfl
  | true =>
    rcases StackState.ofOutputs_cases ⟨stack.name, stack.outputs⟩ name with ⟨state, h⟩ | ⟨what, h⟩
    · simp only [if_true, h]; rfl
    · simp only [if_true, h]; rfl

theorem judges_groupOfAnswer (name : String) :
    Judges (.describeStack .guest name) (Drainer.groupOfAnswer name) := by
  refine .of_cases (fun stack => ?_) fun e => by cases e <;> rfl
  unfold Drainer.groupOfAnswer StackOutputs.ofAnswer
  dsimp only
  cases stack.status.outputsAccessible <;> rfl

namespace MainStack

variable {cloudConfigVersion : String} {volumePolicy : RetryPolicy}

theorem render_candid (state : StackState) (account : String) :
    Candid direction.counts (render cluster state account) (fun _ => True) c := by
  apply Candid.call_bind (x := .renderTemplate account cluster state)
    (direction.counts_of_harmless rfl)
  · intro answer ht
    cases answer with
    | ok body => exact .pure trivial
    | error source => cases ht
  · intro answer ht
    cases answer with
    | ok body => cases ht
    | error source => exact ⟨_, rfl⟩

theorem submit_candid (request : UpdateRequest) :
    Candid direction.counts (submit request) (fun _ => True) c :=
  .exchange (x := .updateStack .guest request.stack request.body)
    (direction.counts_of_harmless rfl) (.of_cases (fun _ => rfl) (Cloud.isOk_accept_error _ _))

theorem applyUpdate_candid (change : StackState) :
    Candid Direction.create.counts (applyUpdate volumePolicy cluster change) (fun _ => True) c := by
  unfold applyUpdate
  split
  · exact .pure trivial
  · split
    · exact (Volumes.retireEtcd_candid cluster.id).bind fun _ _ => submit_candid _
    · split
      · exact submit_candid _
      · exact .pure trivial

/-- Each deletion is tried, and what is left over are the stacks whose answers were
not tolerated. -/
theorem deleteAll_weighs (targets : List (Account × String)) :
    Weighs Direction.delete.counts (deleteAll targets) c fun h r => ∃ failed, r = .ok failed ∧
      (failed = [] ↔ h.all Exchange.tolerated = true) := by
  induction targets with
  | nil => exact .pure ⟨[], rfl, fun _ => rfl, fun _ => rfl⟩
  | cons target rest ih =>
    obtain ⟨account, name⟩ := target
    have hjudges : Judges (.deleteStack account name) (Cloud.accept CloudError.isNotFound ()) :=
      .of_cases (fun _ => rfl) (Cloud.isOk_accept_error _ _)
    refine Weighs.call_bind (x := .deleteStack account name) rfl
      fun (answer : Except CloudError Unit) => ih.bind ?_ ?_
    · rintro h failed ⟨_, heq, hfailed⟩
      rw [← Except.ok.inj heq] at hfailed
      have hr : (Cloud.accept CloudError.isNotFound () answer).isOk =
        (Exchange.mk (.deleteStack account name) answer).tolerated := hjudges answer
      cases ha : Cloud.accept CloudError.isNotFound () answer with
      | ok _ =>
        rw [ha] at hr
        refine .pure ⟨failed, rfl, ?_⟩
        rw [List.append_nil, List.all_cons, ← hr]
        exact hfailed
      | error e =>
        rw [ha] at hr
        refine .pure ⟨name :: failed, rfl, ?_⟩
        rw [List.append_nil, List.all_cons, ← hr]
        simp [Except.isOk, Except.toBool]
    · rintro h e ⟨failed, heq, -⟩
      cases heq

theorem applyDelete_candid (change : StackDeletion) :
    Candid Direction.delete.counts
      ((resource cloudConfigVersion volumePolicy).applyDelete context cluster change)
      (fun _ => True) c := by
  apply (deleteAll_weighs change.targets).bind
  · rintro h failed ⟨_, heq, hfailed⟩
    rw [← Except.ok.inj heq, ← List.append_nil h] at hfailed
    by_cases hf : failed = []
    · rw [if_neg fun h => h hf]
      exact .pure ⟨(hfailed.mp hf).symm, fun _ _ => trivial⟩
    · rw [if_pos hf]
      refine .throw ⟨?_, fun _ _ => trivial⟩
      exact (Bool.eq_false_iff.mpr fun h => hf (hfailed.mpr h)).symm
  · rintro h e ⟨failed, heq, -⟩
    cases heq

theorem candid (hc : c.skipsResource = false) :
    Candid direction.counts (((resource cloudConfigVersion volumePolicy).managed policy
      project).toResource.ensure direction context cluster) (fun _ => True) c := by
  have hcurrent : Candid direction.counts
      ((resource cloudConfigVersion volumePolicy).currentState context cluster) (fun _ => True)
      c :=
    .reading (direction.counts_of_harmless rfl) (judges_ofAnswer _)
  cases direction with
  | create =>
    refine .withStates hc hcurrent (.pure trivial) fun current desired _ => .creation hc ?_ ?_
    · apply Candid.pure
      split
      · exact .empty
      · refine .create (lookUpAccount_candid.bind fun account _ =>
          (render_candid desired account).bind fun body _ => ?_)
        exact .exchange (x := .createStack .guest desired.name body _) rfl
          (.of_cases (fun _ => rfl) (Cloud.isOk_accept_error _ _))
    · rcases updatePatch_cases cloudConfigVersion volumePolicy context cluster current desired
        with ⟨heq, -⟩ | ⟨heq, -⟩
      · rw [heq]
        exact .pure .empty
      · rw [heq]
        refine lookUpAccount_candid.bind fun account _ => ?_
        refine (render_candid desired account).bind fun body _ => .pure (.update ?_)
        exact applyUpdate_candid (updateChange desired _ body)
  | delete =>
    refine .withStates hc hcurrent (.pure trivial) fun current desired _ => .deletion hc ?_
    exact .pure (.delete (applyDelete_candid _))

end MainStack

namespace Drainer

variable {t : Transcript Cloud} {c' : Cancellation}

/-- Without a group the pass is canceled, which is no failure. -/
theorem currentState_ends (context : PassContext) {r : Except Error (List LifecycleAction)}
    (ht : ((resource.currentState context cluster).run c).Ends t (r, c')) :
    (c' = c ∨ c' = c.cancelPass) ∧ ∃ h, Adds direction.counts t h ∧
      r.isOk = h.all Exchange.tolerated := by
  have hgroup : Candid direction.counts (do
      let answer ← Cloud.describeStack .guest (Names.guestMainStack cluster.id)
      liftM (groupOfAnswer (Names.guestMainStack cluster.id) answer)) (fun _ => True) c :=
    .reading (direction.counts_of_harmless rfl) (judges_groupOfAnswer _)
  have hstate : resource.currentState context cluster = ((do
      let answer ← Cloud.describeStack .guest (Names.guestMainStack cluster.id)
      liftM (groupOfAnswer (Names.guestMainStack cluster.id) answer)) >>= _) :=
    (bind_assoc _ _ _).symm
  rw [hstate] at ht
  rcases Action.ends_bind ht with ⟨t₁, group?, c₁, t₂, rfl, h₁, h₂⟩ | ⟨e, rfl, h₁⟩
  · obtain ⟨rfl, h, hadds, hok, -⟩ := hgroup t₁ _ c₁ h₁
    cases group? with
    | none =>
      obtain ⟨rfl, heq⟩ := Program.ends_pure h₂
      cases heq
      rw [List.append_nil]
      exact ⟨.inr rfl, h, hadds, hok⟩
    | some group =>
      have hmembers : Candid direction.counts (do
          let answer ← Cloud.describeGroup group
          let members ← Cloud.orFail
            ("describe instances of auto scaling group " ++ group) answer
          pure (parked group members)) (fun _ => True) c₁ :=
        .exchange_bind (x := .describeGroup group) (direction.counts_of_harmless rfl)
          (.of_cases (fun _ => rfl) fun _ => rfl) fun _ => .pure trivial
      obtain ⟨hc, h', hadds', hok', -⟩ := hmembers t₂ r c' h₂
      refine ⟨.inl hc, h ++ h', hadds.append hadds', ?_⟩
      rw [List.all_append, ← hok, ← hok']
      rfl
  · obtain ⟨hc, h, hadds, hok, -⟩ := hgroup t _ c' h₁
    exact ⟨.inl hc, h, hadds, hok⟩

theorem withStates_ends {rest : List LifecycleAction → List LifecycleAction → Action Cloud Unit}
    (hc : c.skipsResource = false)
    (hrest : ∀ current desired, Candid direction.counts (rest current desired) (fun _ => True) c)
    {r : Except Error Unit}
    (ht : (((resource.managed policy project).withStates context cluster rest).run c).Ends t
      (r, c')) :
    ∃ h, Adds direction.counts t h ∧ r.isOk = h.all Exchange.tolerated := by
  have hcurrent : ∀ t r c', (((resource.managed policy project).currentState context
      cluster).run c).Ends t (r, c') → (c' = c ∨ c' = c.cancelPass) ∧ ∃ h,
        Adds direction.counts t h ∧ r.isOk = h.all Exchange.tolerated := by
    intro t r c' ht
    obtain ⟨t₁, rfl, h₁⟩ := Action.ends_measuring ht
    obtain ⟨hc', h, hadds, hok⟩ := currentState_ends context h₁
    exact ⟨hc', h, by simpa using hadds.append (.measured _), hok⟩
  rcases Action.ends_bind ht with ⟨t₁, current, c₁, t₂, rfl, h₁, h₂⟩ | ⟨e, rfl, h₁⟩
  · obtain ⟨hc₁, h, hadds, hok⟩ := hcurrent t₁ _ c₁ h₁
    rcases Action.ends_unlessCanceled h₂ with ⟨-, rfl, rfl, -⟩ | ⟨hgo, h₂⟩
    · rw [List.append_nil]
      exact ⟨h, hadds, hok⟩
    · obtain rfl : c₁ = c := hc₁.resolve_right fun hs => by
        rw [hs] at hgo
        cases (Bool.or_true c.resource).symm.trans hgo
      have hdesired : Candid direction.counts (resource.desiredState context cluster)
          (fun _ => True) c₁ := .pure trivial
      obtain ⟨-, h', hadds', hok', -⟩ := Candid.bind
        (hdesired.managed policy project "drainer" .getDesiredState)
        (fun desired _ => Weighs.unlessCanceled hc (hrest current desired)) t₂ r c' h₂
      refine ⟨h ++ h', hadds.append hadds', ?_⟩
      rw [List.all_append, ← hok, ← hok']
      rfl
  · exact (hcurrent t _ c' h₁).2

theorem ends (hc : c.skipsResource = false) {r : Except Error Unit}
    (ht : (((resource.managed policy project).toResource.ensure direction context cluster).run
      c).Ends t (r, c')) :
    ∃ h, Adds direction.counts t h ∧ r.isOk = h.all Exchange.tolerated := by
  cases direction with
  | create =>
    refine withStates_ends hc (fun current desired => .creation hc (.pure .empty) ?_) ht
    apply Candid.pure
    split
    · exact .empty
    · refine .update (.forM _ fun action => ?_)
      exact .exchange (x := .completeLifecycleAction action) rfl
        (.of_cases (fun _ => rfl) (Cloud.isOk_accept_error _ _))
  | delete => exact withStates_ends hc (fun current desired => .deletion hc (.pure .empty)) ht

end Drainer

end ClusterKeeper
