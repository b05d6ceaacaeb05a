import ClusterKeeper.Proofs.Outline
import ClusterKeeper.Proofs.Portions

/-!
# The order of calls

A pass makes its changes in the order of its resources. While a cluster is created its
stack is either created or changed, never both, and only an update comes with work on
its volumes. While a cluster is deleted nothing is made anew.
-/

set_option autoImplicit false

namespace ClusterKeeper

open Memory

def Cloud.Call.mutates : Cloud.Call → Bool
  | stopInstance _ _ => true
  | x => x.changes

def mutations (h : List Exchange) : List Cloud.Call :=
  (h.map Exchange.call).filter Cloud.Call.mutates

theorem mutations_append (h h' : List Exchange) :
    mutations (h ++ h') = mutations h ++ mutations h' := by
  rw [mutations, List.map_append, List.filter_append]
  rfl

theorem mem_mutations {h : List Exchange} {x : Cloud.Call} :
    x ∈ mutations h ↔ (∃ e ∈ h, e.call = x) ∧ x.mutates = true := by
  rw [mutations, List.mem_filter, List.mem_map]

theorem forall_mutations {h : List Exchange} {P : Cloud.Call → Prop}
    (hP : ∀ e ∈ h, e.call.mutates = true → P e.call) : ∀ x ∈ mutations h, P x := by
  intro x hx
  obtain ⟨⟨e, he, rfl⟩, hm⟩ := mem_mutations.mp hx
  exact hP e he hm

theorem mutations_eq_nil {h : List Exchange} (hn : ∀ e ∈ h, e.call.mutates = false) :
    mutations h = [] := by
  refine List.eq_nil_iff_forall_not_mem.mpr (forall_mutations fun e he hm => ?_)
  cases (hn e he).symm.trans hm

namespace MainStack

def Founds (cluster : Cluster) (x : Cloud.Call) : Prop :=
  ∃ body, x = .createStack .guest (Names.guestMainStack cluster.id) body
    [(Names.ownershipTag cluster.id, Names.owned)]

def Submits (cluster : Cluster) (x : Cloud.Call) : Prop :=
  ∃ body, x = .updateStack .guest (Names.guestMainStack cluster.id) body

inductive Changes (config : Config) (cluster : Cluster) (h : List Exchange) (ended : Prop) :
    List Cloud.Call → Prop where
  | none : Changes config cluster h ended []
  | created {failure : CloudError} {calls : List Cloud.Call}
      (ht : Tells cluster h (.error failure)) (hcalls : ∀ x ∈ calls, Founds cluster x) :
      Changes config cluster h ended calls
  | scaled {stack : Stack} {calls : List Cloud.Call} (ht : Tells cluster h (.ok stack))
      (hd : config.Decides cluster stack .scale) (hcalls : ∀ x ∈ calls, Submits cluster x) :
      Changes config cluster h ended calls
  | updated {stack : Stack} {calls : List Cloud.Call} (ht : Tells cluster h (.ok stack))
      (hd : config.Decides cluster stack .update)
      (hcalls : ∀ x ∈ calls, Submits cluster x ∨ Clears cluster h x)
      (hlast : ended → ∀ x, calls.getLast? = some x → Submits cluster x) :
      Changes config cluster h ended calls

end MainStack

structure CreationOrder (config : Config) (cluster : Cluster) (h : List Exchange)
    (ended : Prop) : Prop where
  changes : ∃ keys buckets stack hooks,
    mutations h = keys ++ buckets ++ stack ++ hooks ∧
    (∀ x ∈ keys, x = .createKey cluster.id) ∧
    (∀ x ∈ buckets, ∃ account, LearnsAccount h account ∧
      x = .createBucket (Names.bucket account cluster.id)) ∧
    MainStack.Changes config cluster h ended stack ∧
    ∀ x ∈ hooks, ∃ action, x = .completeLifecycleAction action
  guest : ∀ e ∈ h, e.call.account? ≠ some .host

def DeletionOrder (cluster : Cluster) (h : List Exchange) : Prop :=
  ∃ keys buckets volumes deletions,
    mutations h = keys ++ buckets ++ volumes ++ deletions ∧
    (∀ x ∈ keys, x = .deleteKey cluster.id) ∧
    (∀ x ∈ buckets, ∃ account, LearnsAccount h account ∧
      (x = .deleteBucket (Names.bucket account cluster.id) ∨
        ∃ objects, x = .deleteObjects (Names.bucket account cluster.id) objects)) ∧
    (∀ x ∈ volumes, ∃ v, ListsVolume cluster h v ∧
      Volumes.isLoose cluster.id v.tags = true ∧
      (x = .deleteVolume v.id ∨ ∃ a ∈ v.attachments, x = .detachVolume v.id a true)) ∧
    ∀ x ∈ deletions, ∃ target ∈ (StackDeletion.ofCluster cluster.id).targets,
      x = .deleteStack target.1 target.2

/-! What the mutations in each repertoire are. -/

section Repertoires

variable {cluster : Cluster} {h : List Exchange} {x : Cloud.Call}

theorem EncryptionKey.changed_of_calls {id : String} {direction : Direction}
    (hx : x ∈ calls id direction) (hm : x.mutates = true) :
    x = match direction with
      | .create => .createKey id
      | .delete => .deleteKey id := by
  cases direction with
  | create =>
    simp only [calls, List.mem_cons, List.not_mem_nil, or_false] at hx
    rcases hx with rfl | rfl | rfl
    · cases hm
    · cases hm
    · rfl
  | delete =>
    simp only [calls, List.mem_cons, List.not_mem_nil, or_false] at hx
    rcases hx with rfl | rfl | rfl
    · cases hm
    · cases hm
    · rfl

theorem EncryptionKey.account_of_calls {id : String} {direction : Direction}
    (hx : x ∈ calls id direction) : x.account? = none := by
  cases x with
  | createStack | updateStack | deleteStack | describeStack =>
    cases direction <;> simp [calls] at hx
  | _ => rfl

theorem Bucket.created_of_makes {bucket : String} (hx : Makes bucket .create x)
    (hm : x.mutates = true) : x = .createBucket bucket := by
  cases x with
  | createBucket name => exact congrArg Cloud.Call.createBucket hx
  | headBucket => cases hm
  | _ => exact hx.elim

theorem Bucket.deleted_of_makes {bucket : String} (hx : Makes bucket .delete x)
    (hm : x.mutates = true) :
    x = .deleteBucket bucket ∨ ∃ objects, x = .deleteObjects bucket objects := by
  cases x with
  | deleteBucket name => exact .inl (congrArg Cloud.Call.deleteBucket hx)
  | deleteObjects name objects =>
    exact .inr ⟨objects, congrArg (Cloud.Call.deleteObjects · objects) hx⟩
  | headBucket | listObjects => cases hm
  | _ => exact hx.elim

theorem Bucket.account_of_makes {bucket : String} {direction : Direction}
    (hx : Makes bucket direction x) : x.account? = none := by
  cases x with
  | headBucket | createBucket | listObjects | deleteObjects | deleteBucket => rfl
  | _ => cases direction <;> exact hx.elim

theorem LooseVolumes.removed_of_makes (hx : Makes cluster h x) (hm : x.mutates = true) :
    ∃ v, ListsVolume cluster h v ∧
      Volumes.isLoose cluster.id v.tags = true ∧
      (x = .deleteVolume v.id ∨ ∃ a ∈ v.attachments, x = .detachVolume v.id a true) := by
  rcases hx with rfl | ⟨v, hv, hkind, hx⟩
  · cases hm
  refine ⟨v, hv, hkind, ?_⟩
  rcases List.mem_append.mp hx with hx | hx
  · obtain ⟨a, ha, hx⟩ := List.mem_flatMap.mp hx
    obtain rfl | rfl : x = .detachVolume v.id a true ∨ x = .waitUntilVolumeAvailable v.id := by
      simpa [Volumes.detachCalls, Volumes.DetachOptions.forced] using hx
    · exact .inr ⟨a, ha, rfl⟩
    · cases hm
  · exact .inl (List.mem_singleton.mp hx)

theorem MainStack.changed_of_makes (hx : Makes cluster .create x) (hm : x.mutates = true) :
    Founds cluster x ∨ Submits cluster x := by
  cases x with
  | createStack account name body tags =>
    obtain ⟨rfl, rfl, rfl⟩ := hx
    exact .inl ⟨body, rfl⟩
  | updateStack account name body =>
    obtain ⟨rfl, rfl⟩ := hx
    exact .inr ⟨body, rfl⟩
  | describeStack | accountId | renderTemplate => cases hm
  | _ => exact hx.elim

theorem MainStack.deleted_of_makes (hx : Makes cluster .delete x) (hm : x.mutates = true) :
    ∃ target ∈ (StackDeletion.ofCluster cluster.id).targets,
      x = .deleteStack target.1 target.2 := by
  cases x with
  | deleteStack account name => exact ⟨(account, name), hx, rfl⟩
  | describeStack => cases hm
  | _ => exact hx.elim

theorem MainStack.account_of_makes (hx : Makes cluster .create x) : x.account? ≠ some .host := by
  cases x with
  | createStack | updateStack | describeStack =>
    obtain ⟨rfl, -⟩ := hx
    exact nofun
  | accountId | renderTemplate => exact nofun
  | _ => exact hx.elim

theorem MainStack.account_of_retires (hx : Retires cluster h x) : x.account? = none := by
  rcases hx with rfl | ⟨v, -, -, hx⟩
  · rfl
  have hx := Volumes.concerns_of_mem hx
  cases x with
  | stopInstance | waitUntilInstanceStopped | detachVolume | waitUntilVolumeAvailable
  | deleteVolume => rfl
  | _ => exact hx.elim

theorem Drainer.completed_of_makes {group : String} {direction : Direction}
    (hx : Makes group direction x) (hm : x.mutates = true) :
    direction = .create ∧ ∃ action, x = .completeLifecycleAction action := by
  cases x with
  | completeLifecycleAction action =>
    cases direction with
    | create => exact ⟨rfl, action, rfl⟩
    | delete => exact hx.elim
  | describeGroup => cases hm
  | _ => cases direction <;> exact hx.elim

theorem Drainer.account_of_makes {group : String} {direction : Direction}
    (hx : Makes group direction x) : x.account? = none := by
  cases x with
  | describeGroup | completeLifecycleAction => rfl
  | _ => cases direction <;> exact hx.elim

end Repertoires

section Stack

open Discipline Witnessing

variable {config : Config} {cluster : Cluster} {h h' : List Exchange} {ended : Prop}
  {context : PassContext} {policy volumePolicy : RetryPolicy} {project cloudConfigVersion : String}

def Settled (h : List Exchange) : Prop :=
  ∀ x, (mutations h).getLast? = some x → ¬IsMachineCall x

theorem settled_nil : Settled [] := by
  intro x hx
  have hx : none = some x := hx
  cases hx

theorem Settled.append (hs : Settled h) (hs' : Settled h') : Settled (h ++ h') := by
  intro x hx
  rw [mutations_append, List.getLast?_append] at hx
  cases hlast : (mutations h').getLast? with
  | none => rw [hlast] at hx; exact hs x hx
  | some y => rw [hlast] at hx; exact hs' x (hlast.trans hx)

def SparesMachines (x : Cloud.Call) : Prop := x.mutates = true → ¬IsMachineCall x

theorem settled_of_spares (hq : ∀ e ∈ h, SparesMachines e.call) : Settled h := fun _ hx =>
  forall_mutations (P := fun x => ¬IsMachineCall x) hq _ (List.mem_of_getLast? hx)

theorem settled_submission {e : Exchange} (he : e.call.isStackUpdate = true) :
    Settled (h ++ [e]) := by
  obtain ⟨x, reply⟩ := e
  cases x with
  | updateStack account name body =>
    intro y hy
    rw [mutations_append, List.getLast?_append] at hy
    cases hy
    cases account <;> exact nofun
  | _ => cases he

theorem settled_of_repeated {α ε : Type} {A : List Exchange → Except ε α → Prop} {n : Nat}
    {x : Except ε α} (hr : Repeated A n h x) (hA : ∀ h x, A h x → Settled h) : Settled h := by
  induction hr with
  | last h => exact hA _ _ h
  | again h _ ih => exact (hA _ _ h).append ih

theorem settled_of_allows {α : Type} {a : Action Cloud α} {c : Cancellation}
    {t : Transcript Cloud} {x : Except Error α × Cancellation}
    (ha : (witnessing (exchanges t) SparesMachines).Allows a (fun _ => True) ())
    (ht : (a.run c).Ends t x) : Settled (exchanges t) :=
  settled_of_spares (taken_of_after (ha c () trivial) ht.after (List.Subset.refl _))

theorem settled_applyUpdate {change : StackState} {c : Cancellation} {t : Transcript Cloud}
    {x : Except Error Unit × Cancellation}
    (ht : ((((MainStack.resource cloudConfigVersion volumePolicy).managed policy
      project).applyUpdate context cluster change).run c).Ends t x) : Settled (exchanges t) := by
  obtain ⟨result, c'⟩ := x
  by_cases hupdate : change.updateRequest.isSome = true ∧ change.shouldUpdate = true
  · obtain ⟨request, hrequest⟩ := Option.isSome_iff_exists.mp hupdate.1
    have happly := MainStack.applyUpdate_yields (c := c) volumePolicy cluster hrequest hupdate.2
    have hretried := happly.retrying policy "stack" (o := .applyUpdateChange) rfl
    obtain ⟨t₁, rfl, ht₁⟩ := Action.ends_measuring ht
    obtain ⟨n, -, hn⟩ := (hretried t₁ result c' ht₁).2.repeated fun _ _ h => h
    rw [exchanges_append, exchanges_measured, List.append_nil]
    refine settled_of_repeated hn ?_
    rintro _ _ ⟨listing, answer, hretired⟩
    exact settled_submission rfl
  · refine settled_of_allows (.managed policy .applyUpdateChange trivial ?_) ht
    show Allows _ (MainStack.applyUpdate volumePolicy cluster change) _ _
    unfold MainStack.applyUpdate
    split
    · exact .pure trivial
    · next request hrequest =>
      rw [if_neg fun hu => hupdate ⟨hrequest ▸ rfl, hu⟩]
      split
      · exact .exchange (.updateStack .guest request.stack request.body)
          (allows nofun fun _ _ => trivial)
      · exact .pure trivial

theorem settled_step (s : ((MainStack.resource cloudConfigVersion volumePolicy).managed policy
      project).Step) {c : Cancellation} {t : Transcript Cloud}
    {x : Except Error s.Value × Cancellation}
    (ht : ((((MainStack.resource cloudConfigVersion volumePolicy).managed policy
      project).perform context cluster s).run c).Ends t x) : Settled (exchanges t) := by
  have hcall : ∀ x, SparesMachines x →
      (witnessing (exchanges t) SparesMachines).Allows (Action.call (S := Cloud) x)
        (fun _ => True) () := fun x hx => allows hx fun _ _ => trivial
  have haccount : (witnessing (exchanges t) SparesMachines).Allows lookUpAccount
      (fun _ => True) () := .exchange (f := id) .accountId (hcall _ nofun)
  have hbody : ∀ state account, (witnessing (exchanges t) SparesMachines).Allows
      (MainStack.render cluster state account) (fun _ => True) () := fun _ _ =>
    .render (hcall _ nofun)
  have hdeletion : ∀ account name, SparesMachines (.deleteStack account name) := by
    intro account name
    cases account <;> exact nofun
  cases s with
  | applyUpdate => exact settled_applyUpdate ht
  | currentState =>
    exact settled_of_allows (.managed policy .getCurrentState trivial
      (.bind (hcall (.describeStack .guest _) nofun) fun _ _ => .except fun _ _ => trivial)) ht
  | desiredState =>
    exact settled_of_allows (.managed policy .getDesiredState trivial (.pure trivial)) ht
  | createPatch =>
    exact settled_of_allows (.managed policy .newCreatePatch trivial (.pure trivial)) ht
  | deletePatch =>
    exact settled_of_allows (.managed policy .newDeletePatch trivial (.pure trivial)) ht
  | updatePatch current desired =>
    refine settled_of_allows (.managed policy .newUpdatePatch trivial ?_) ht
    rcases MainStack.updatePatch_cases cloudConfigVersion volumePolicy context cluster current
      desired with ⟨heq, -⟩ | ⟨heq, -⟩
    · rw [heq]
      exact .pure trivial
    · rw [heq]
      exact .bind haccount fun account _ => .bind (hbody desired account) fun _ _ =>
        .pure trivial
  | applyCreate desired =>
    refine settled_of_allows (.managed policy .applyCreateChange trivial ?_) ht
    exact .bind haccount fun account _ => .bind (hbody desired account) fun body _ =>
      .exchange (.createStack .guest (StackState.name desired) body _) (hcall _ nofun)
  | applyDelete deletion =>
    exact settled_of_allows (.managed policy .applyDeleteChange trivial
      (.deleteStacks fun target _ => hcall _ (hdeletion target.1 target.2))) ht

/-- Unless it is left off, a pass is not done with the stack before the update that its
work on volumes is for. -/
theorem Portion.settled {direction : Direction} (hportion : Portion direction context cluster ended
      ((MainStack.resource cloudConfigVersion volumePolicy).managed policy project).toResource h)
    (he : ended) : Settled h := by
  rcases hportion.ends he with rfl | ⟨t, x, ht, rfl⟩
  · exact settled_nil
  · exact CrudResource.of_steps settled_nil (fun _ _ => Settled.append)
      (fun s _ _ _ ht => settled_step s ht) ht

structure Founded (config : Config) (cluster : Cluster) (h : List Exchange) (x : Cloud.Call) :
    Prop where
  creations : x.isStackCreation = true → ∃ failure, Tells cluster h (.error failure)
  machines : IsMachineCall x →
    ∃ stack, Tells cluster h (.ok stack) ∧ config.Decides cluster stack .update
  updates : x.isStackUpdate = true → ∃ stack decision, decision ≠ .keep ∧
    Tells cluster h (.ok stack) ∧ config.Decides cluster stack decision

theorem founded_of_heeded (hh : Heeded (fun x before => ∃ desired,
      config.Desires cluster desired ∧
        UpdateGate.Opens cluster desired config.guestUpdateEnabled x before) h) :
    ∀ e ∈ h, Founded config cluster h e.call := by
  intro e he
  obtain ⟨before, after, rfl⟩ := List.append_of_mem he
  obtain ⟨desired, hdesired, ho⟩ := hh before e after rfl
  have hm : before <+: before ++ e :: after := List.prefix_append _ _
  refine ⟨fun hx => ?_, fun hx => ?_, fun hx => ?_⟩
  · obtain ⟨failure, ht⟩ := ho.creations hx
    exact ⟨failure, ht.moves hm⟩
  · obtain ⟨stack, ht, hd⟩ := (ho.machines hx).decides hdesired
    exact ⟨stack, ht.moves hm, hd⟩
  · obtain ⟨decision, hk, hdecided⟩ := ho.updates hx
    obtain ⟨stack, ht, hd⟩ := hdecided.decides hdesired
    exact ⟨stack, decision, hk, ht.moves hm, hd⟩

theorem MainStack.Clears.machine {x : Cloud.Call} (hx : Clears cluster h x) : IsMachineCall x := by
  obtain ⟨v, -, -, hx⟩ := hx
  exact Volumes.isMachineCall_of_concerns (Volumes.concerns_of_mem hx)

/-- All that is done about the stack goes back to the same description of it. -/
theorem stack_changes {calls : List Cloud.Call}
    (hcalls : ∀ x ∈ calls, MainStack.Founds cluster x ∨ MainStack.Submits cluster x ∨
      MainStack.Clears cluster h x)
    (hfounded : ∀ x ∈ calls, Founded config cluster h x)
    (hlast : ended → ∀ x, calls.getLast? = some x → ¬IsMachineCall x) :
    MainStack.Changes config cluster h ended calls := by
  have hupdate : ∀ x ∈ calls, MainStack.Submits cluster x → ∃ stack decision, decision ≠ .keep ∧
      Tells cluster h (.ok stack) ∧ config.Decides cluster stack decision := by
    rintro _ hx ⟨body, rfl⟩
    exact (hfounded _ hx).updates rfl
  by_cases hcreated : ∃ x ∈ calls, MainStack.Founds cluster x
  · obtain ⟨_, hx, body, rfl⟩ := hcreated
    obtain ⟨failure, ht⟩ := (hfounded _ hx).creations rfl
    refine .created ht fun y hy => (hcalls y hy).resolve_right ?_
    rintro (hs | hc)
    · obtain ⟨stack, -, -, ht', -⟩ := hupdate y hy hs
      cases ht.unique ht'
    · obtain ⟨stack, ht', -⟩ := (hfounded y hy).machines hc.machine
      cases ht.unique ht'
  have hcalls : ∀ x ∈ calls, MainStack.Submits cluster x ∨ MainStack.Clears cluster h x :=
    fun x hx => (hcalls x hx).resolve_left fun hf => hcreated ⟨x, hx, hf⟩
  have hsubmits : ∀ x ∈ calls, ¬IsMachineCall x → MainStack.Submits cluster x := fun x hx hm =>
    (hcalls x hx).resolve_right fun hc => hm hc.machine
  have hended : ended → ∀ x, calls.getLast? = some x → MainStack.Submits cluster x :=
    fun he x hx => hsubmits x (List.mem_of_getLast? hx) (hlast he x hx)
  by_cases hmachine : ∃ x ∈ calls, IsMachineCall x
  · obtain ⟨x, hx, hm⟩ := hmachine
    obtain ⟨stack, ht, hd⟩ := (hfounded x hx).machines hm
    exact .updated ht hd hcalls hended
  have hsubmits : ∀ x ∈ calls, MainStack.Submits cluster x := fun x hx =>
    hsubmits x hx fun hm => hmachine ⟨x, hx, hm⟩
  cases calls with
  | nil => exact .none
  | cons x rest =>
    obtain ⟨stack, decision, hk, ht, hd⟩ :=
      hupdate x List.mem_cons_self (hsubmits x List.mem_cons_self)
    cases decision with
    | keep => exact absurd rfl hk
    | scale => exact .scaled ht hd hsubmits
    | update => exact .updated ht hd hcalls hended

end Stack

section Passes

variable {config : Config} {cluster : Cluster} {bundle : VersionBundle} {context : PassContext}
  {h : List Exchange} {ended : Prop}

structure Portions (direction : Direction) (cluster : Cluster) (h : List Exchange)
    (ended : Prop) where
  key : List Exchange
  bucket : List Exchange
  volumes : List Exchange
  stack : List Exchange
  drainer : List Exchange
  history : h = ⟨.guestClients cluster.id, Except.ok ()⟩ ::
    (key ++ (bucket ++ (volumes ++ (stack ++ drainer))))
  key_calls : ∀ e ∈ key, e.call ∈ EncryptionKey.calls cluster.id direction
  bucket_calls : ∀ e ∈ bucket, e.call = .accountId ∨ ∃ account, LearnsAccount h account ∧
    Bucket.Makes (Names.bucket account cluster.id) direction e.call
  volume_calls : ∀ e ∈ volumes, direction = .delete ∧ LooseVolumes.Makes cluster h e.call
  stack_calls : ∀ e ∈ stack, MainStack.Makes cluster direction e.call ∨
    direction = .create ∧ MainStack.Retires cluster h e.call
  stack_settled : ended → Settled stack
  drainer_calls : ∀ e ∈ drainer,
    e.call = .describeStack .guest (Names.guestMainStack cluster.id) ∨
      ∃ group, Drainer.Makes group direction e.call

theorem portions_of_each {direction : Direction} (hportions : Each
      (Portion direction context cluster ended) (Operator.bundleSet config bundle).resources h) :
    Nonempty (Portions direction cluster
      (⟨.guestClients cluster.id, Except.ok ()⟩ :: h) ended) := by
  obtain ⟨key, _, rfl, hkey, hportions⟩ := each_cons hportions
  obtain ⟨bucket, _, rfl, hbucket, hportions⟩ := each_cons hportions
  obtain ⟨volumes, _, rfl, hvolumes, hportions⟩ := each_cons hportions
  obtain ⟨stack, _, rfl, hstack, hportions⟩ := each_cons hportions
  obtain ⟨drainer, _, rfl, hdrainer, hportions⟩ := each_cons hportions
  obtain rfl := each_nil hportions
  refine ⟨⟨key, bucket, volumes, stack, drainer, by rw [List.append_nil], calls_of_key hkey,
    calls_of_bucket ?_ hbucket, calls_of_volumes ?_ hvolumes, calls_of_stack ?_ hstack,
    hstack.settled, calls_of_drainer hdrainer⟩⟩
  all_goals grind

theorem Portions.mutations_eq {direction : Direction} (s : Portions direction cluster h ended) :
    mutations h = mutations s.key ++ mutations s.bucket ++ mutations s.volumes ++
      mutations s.stack ++ mutations s.drainer := by
  have hstart : ∀ h', mutations (⟨.guestClients cluster.id, Except.ok ()⟩ :: h') = mutations h' :=
    fun _ => rfl
  rw [congrArg mutations s.history, hstart]
  simp only [mutations_append, List.append_assoc]

theorem Portions.stack_subset {direction : Direction} (s : Portions direction cluster h ended) :
    s.stack ⊆ h := by
  obtain ⟨key, bucket, volumes, stack, drainer, rfl⟩ := s
  grind

theorem Portions.volumes_eq_nil (s : Portions .create cluster h ended) : s.volumes = [] :=
  List.eq_nil_iff_forall_not_mem.mpr fun e he => nomatch (s.volume_calls e he).1

theorem Portions.guest (s : Portions .create cluster h ended) :
    ∀ e ∈ h, e.call.account? ≠ some .host := by
  have hnone : ∀ {x : Cloud.Call}, x.account? = none → x.account? ≠ some .host := fun hx => by
    rw [hx]
    exact nofun
  intro e he
  rw [s.history, s.volumes_eq_nil, List.nil_append] at he
  simp only [List.mem_cons, List.mem_append] at he
  rcases he with rfl | he | he | he | he
  · exact nofun
  · exact hnone (EncryptionKey.account_of_calls (s.key_calls e he))
  · rcases s.bucket_calls e he with hx | ⟨account, -, hx⟩
    · exact hnone (hx ▸ rfl)
    · exact hnone (Bucket.account_of_makes hx)
  · rcases s.stack_calls e he with hx | ⟨-, hx⟩
    · exact MainStack.account_of_makes hx
    · exact hnone (MainStack.account_of_retires hx)
  · rcases s.drainer_calls e he with hx | ⟨group, hx⟩
    · rw [hx]
      exact nofun
    · exact hnone (Drainer.account_of_makes hx)

theorem Portions.creationOrder (s : Portions .create cluster h ended)
    (hh : Heeded (fun x before => ∃ desired, config.Desires cluster desired ∧
      UpdateGate.Opens cluster desired config.guestUpdateEnabled x before) h) :
    CreationOrder config cluster h ended := by
  refine ⟨⟨mutations s.key, mutations s.bucket, mutations s.stack, mutations s.drainer, ?_, ?_, ?_,
    ?_, ?_⟩, s.guest⟩
  · rw [s.mutations_eq, s.volumes_eq_nil]
    exact congrArg (· ++ mutations s.stack ++ mutations s.drainer) (List.append_nil _)
  · exact forall_mutations fun e he hm => EncryptionKey.changed_of_calls (s.key_calls e he) hm
  · refine forall_mutations fun e he hm => ?_
    rcases s.bucket_calls e he with hx | ⟨account, ha, hx⟩
    · cases hx ▸ hm
    · exact ⟨account, ha, Bucket.created_of_makes hx hm⟩
  · refine stack_changes (forall_mutations fun e he hm => ?_) (forall_mutations fun e he _ =>
      founded_of_heeded hh e (s.stack_subset he)) s.stack_settled
    rcases s.stack_calls e he with hx | ⟨-, hx | hx⟩
    · exact (MainStack.changed_of_makes hx hm).imp_right .inl
    · cases hx ▸ hm
    · exact .inr (.inr hx)
  · refine forall_mutations fun e he hm => ?_
    rcases s.drainer_calls e he with hx | ⟨group, hx⟩
    · cases hx ▸ hm
    · exact (Drainer.completed_of_makes hx hm).2

theorem Portions.deletionOrder (s : Portions .delete cluster h ended) :
    DeletionOrder cluster h := by
  have hdrainer : mutations s.drainer = [] := by
    refine List.eq_nil_iff_forall_not_mem.mpr (forall_mutations fun e he hm => ?_)
    rcases s.drainer_calls e he with hx | ⟨group, hx⟩
    · cases hx ▸ hm
    · exact nomatch (Drainer.completed_of_makes hx hm).1
  refine ⟨mutations s.key, mutations s.bucket, mutations s.volumes, mutations s.stack,
    ?_, ?_, ?_, ?_, ?_⟩
  · rw [s.mutations_eq, hdrainer, List.append_nil]
  · exact forall_mutations fun e he hm => EncryptionKey.changed_of_calls (s.key_calls e he) hm
  · refine forall_mutations fun e he hm => ?_
    rcases s.bucket_calls e he with hx | ⟨account, ha, hx⟩
    · cases hx ▸ hm
    · exact ⟨account, ha, Bucket.deleted_of_makes hx hm⟩
  · exact forall_mutations fun e he hm => LooseVolumes.removed_of_makes (s.volume_calls e he).2 hm
  · refine forall_mutations fun e he hm => ?_
    rcases s.stack_calls e he with hx | ⟨hd, -⟩
    · exact MainStack.deleted_of_makes hx hm
    · exact nomatch hd

variable {r : Reconciler Cloud Cluster}

theorem portions_of_pass {direction : Direction} {o : Option (Except Error Unit)}
    (hr : Operator.reconciler config = .ok r)
    (hl : (r.ensure direction cluster).Leads anyCloud.environment.engine [] o h) :
    (∀ e ∈ h, e.call = .guestClients cluster.id) ∨
      Nonempty (Portions direction cluster h (o.isSome = true)) := by
  refine (portions_of_leads hr hl).imp_right ?_
  rintro ⟨bundle, context, h', rfl, hportions⟩
  exact portions_of_each hportions

/-- A pass that does not get access to the account of the cluster changes nothing. -/
theorem mutations_of_refused (hh : ∀ e ∈ h, e.call = .guestClients cluster.id) :
    mutations h = [] :=
  mutations_eq_nil fun e he => by rw [hh e he]; rfl

/-- Whatever the cloud answers, and wherever the pass is left off. -/
theorem calls_in_order (hr : Operator.reconciler config = .ok r) (cluster : Cluster) :
    (∀ o h, (r.ensure .create cluster).Leads anyCloud.environment.engine [] o h →
      CreationOrder config cluster h (o.isSome = true)) ∧
    ∀ o h, (r.ensure .delete cluster).Leads anyCloud.environment.engine [] o h →
      DeletionOrder cluster h := by
  refine ⟨fun o h hl => ?_, fun o h hl => ?_⟩
  · rcases portions_of_pass hr hl with hh | ⟨⟨s⟩⟩
    · refine ⟨⟨[], [], [], [], mutations_of_refused hh, List.forall_mem_nil _,
        List.forall_mem_nil _, .none, List.forall_mem_nil _⟩, ?_⟩
      intro e he
      rw [hh e he]
      exact nofun
    · exact s.creationOrder (UpdateGate.heeded hr hl)
  · rcases portions_of_pass hr hl with hh | ⟨⟨s⟩⟩
    · exact ⟨[], [], [], [], mutations_of_refused hh, List.forall_mem_nil _,
        List.forall_mem_nil _, List.forall_mem_nil _, List.forall_mem_nil _⟩
    · exact s.deletionOrder

end Passes

namespace Trial

def teardown : Option (Except Error Unit) × Stores × List Exchange :=
  (operator.ensure .delete cluster).run (watched (Engine.rehearse (S := Cloud)
    (Stores.answer (Sandbox.conduct false)) fun _ s => s)) (stores, [])

theorem teardown_leads : (operator.ensure .delete cluster).Leads anyCloud.environment.engine []
    teardown.1 teardown.2.2 :=
  Program.Leads.of_run Prod.snd _ (watched_answers _) (operator.ensure .delete cluster) (stores, [])

end Trial

theorem calls_in_order_trial :
    Operator.reconciler Trial.config = .ok Trial.operator ∧
      CreationOrder Trial.config Trial.cluster Trial.intrusion.2.2
        (Trial.intrusion.1.isSome = true) ∧
      DeletionOrder Trial.cluster Trial.teardown.2.2 :=
  have horder := calls_in_order Trial.reconciler_eq Trial.cluster
  ⟨Trial.reconciler_eq, horder.1 _ _ Trial.intrusion_leads, horder.2 _ _ Trial.teardown_leads⟩

end ClusterKeeper
