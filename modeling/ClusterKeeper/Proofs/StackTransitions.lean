import ClusterKeeper.Proofs.GatedUpdates
import ClusterKeeper.Proofs.Observations

/-!
# Stacks in transition

While the cloud is at work on a stack, its status says so. Only some of these
statuses keep a pass from reading the outputs; in the others it acts on what it
reads, be it out of date.
-/

set_option autoImplicit false

namespace ClusterKeeper

open Memory

def StackStatus.inProgress : StackStatus → Bool
  | createInProgress | rollbackInProgress | deleteInProgress | updateInProgress
  | updateCompleteCleanupInProgress | updateRollbackInProgress
  | updateRollbackCompleteCleanupInProgress => true
  | _ => false

def Config.Decides (c : Config) (cluster : Cluster) (stack : Stack) (decision : Decision) : Prop :=
  ∃ current desired,
    Exchange.Shows cluster
      ⟨.describeStack .guest (Names.guestMainStack cluster.id), Except.ok stack⟩ current ∧
    c.Desires cluster desired ∧ current.decide desired c.guestUpdateEnabled = decision

/-- How a pass that creates a cluster treats the stack it was told of. -/
structure Careful (config : Config) (cluster : Cluster) (stack : Stack) (h : List Exchange) :
    Prop where
  creation : ∀ e ∈ h, e.call.isStackCreation = false
  unread : stack.status.outputsAccessible = false →
    ∀ e ∈ h, ¬IsMachineCall e.call ∧ e.call.isStackUpdate = false
  machines : ∀ e ∈ h, IsMachineCall e.call → config.Decides cluster stack .update
  updates : ∀ e ∈ h, e.call.isStackUpdate = true →
    ∃ decision, decision ≠ .keep ∧ config.Decides cluster stack decision

section Passes

variable {config : Config} {cluster : Cluster} {stack : Stack} {r : Reconciler Cloud Cluster}
  {h h' : List Exchange} {o : Option (Except Error Unit)}

theorem Tells.unique {answer answer' : Except CloudError Stack} (ht : Tells cluster h answer)
    (ht' : Tells cluster h answer') : answer = answer' := by
  cases Option.some.inj (ht.symm.trans ht')
  rfl

theorem Config.Decides.accessible {decision : Decision}
    (hd : config.Decides cluster stack decision) : stack.status.outputsAccessible = true := by
  obtain ⟨current, desired, ⟨shown, heq, hs, -⟩, -⟩ := hd
  cases heq
  exact hs

theorem UpdateGate.Decided.decides {desired : StackState} {decision : Decision}
    (hd : Decided cluster desired config.guestUpdateEnabled decision h)
    (hdesired : config.Desires cluster desired) :
    ∃ stack, Tells cluster h (.ok stack) ∧ config.Decides cluster stack decision := by
  obtain ⟨e, current, he, hs, hd⟩ := hd
  obtain ⟨stack, rfl, -⟩ := id hs
  exact ⟨stack, he, current, desired, hs, hdesired, hd⟩

/-- Each call follows from what the pass was told before it made the call. -/
theorem careful_of_heeded (ht : Tells cluster h (.ok stack))
    (hh : Heeded (fun x before => ∃ desired, config.Desires cluster desired ∧
      UpdateGate.Opens cluster desired config.guestUpdateEnabled x before) h) :
    Careful config cluster stack h := by
  have hopens : ∀ e ∈ h, ∃ before desired, before <+: h ∧ config.Desires cluster desired ∧
      UpdateGate.Opens cluster desired config.guestUpdateEnabled e.call before := by
    intro e he
    obtain ⟨before, after, rfl⟩ := List.append_of_mem he
    obtain ⟨desired, hdesired, hx⟩ := hh before e after rfl
    exact ⟨before, desired, List.prefix_append _ _, hdesired, hx⟩
  have hdecides : ∀ {before desired decision}, before <+: h → config.Desires cluster desired →
      UpdateGate.Decided cluster desired config.guestUpdateEnabled decision before →
      config.Decides cluster stack decision := by
    intro before desired decision hm hdesired hd
    obtain ⟨stack', ht', hd⟩ := hd.decides hdesired
    cases ht.unique (ht'.moves hm)
    exact hd
  have hmachines : ∀ e ∈ h, IsMachineCall e.call → config.Decides cluster stack .update := by
    intro e he hx
    obtain ⟨before, desired, hm, hdesired, ho⟩ := hopens e he
    exact hdecides hm hdesired (ho.machines hx)
  have hupdates : ∀ e ∈ h, e.call.isStackUpdate = true →
      ∃ decision, decision ≠ .keep ∧ config.Decides cluster stack decision := by
    intro e he hx
    obtain ⟨before, desired, hm, hdesired, ho⟩ := hopens e he
    obtain ⟨decision, hk, hd⟩ := ho.updates hx
    exact ⟨decision, hk, hdecides hm hdesired hd⟩
  refine ⟨fun e he => ?_, fun hs e he => ⟨fun hx => ?_, ?_⟩, hmachines, hupdates⟩
  · refine Bool.eq_false_iff.mpr fun hx => ?_
    obtain ⟨before, desired, hm, -, ho⟩ := hopens e he
    obtain ⟨failure, ht'⟩ := ho.creations hx
    cases ht.unique (ht'.moves hm)
  · cases hs.symm.trans (hmachines e he hx).accessible
  · refine Bool.eq_false_iff.mpr fun hx => ?_
    obtain ⟨decision, -, hd⟩ := hupdates e he hx
    cases hs.symm.trans hd.accessible

/-- A program does not see what was said before it started. -/
theorem Recording.leads_append {α : Type} {p : Program (Engine Cloud) α} {o : Option α}
    (hl : p.Leads anyCloud.environment.engine h o h') :
    ∃ t, h' = h ++ t ∧ ∀ h₀, p.Leads anyCloud.environment.engine h₀ o (h₀ ++ t) := by
  induction hl with
  | ended a h =>
    refine ⟨[], (List.append_nil h).symm, fun h₀ => ?_⟩
    rw [List.append_nil]
    exact .ended a h₀
  | left p h =>
    refine ⟨[], (List.append_nil h).symm, fun h₀ => ?_⟩
    rw [List.append_nil]
    exact .left p h₀
  | @answered x _ h _ _ reply _ hr _ ih =>
    obtain ⟨t, rfl, ih⟩ := ih
    cases x with
    | call x =>
      cases hr
      refine ⟨⟨x, reply⟩ :: t, by simp, fun h₀ => .answered (r := reply) rfl ?_⟩
      have h₁ := ih (h₀ ++ [⟨x, reply⟩])
      rwa [List.append_assoc] at h₁
    | patience =>
      obtain ⟨rfl, hn⟩ := hr
      exact ⟨t, rfl, fun h₀ => .answered (r := reply) ⟨rfl, hn⟩ (ih h₀)⟩
    | _ =>
      cases hr
      exact ⟨t, rfl, fun h₀ => .answered (r := reply) rfl (ih h₀)⟩

/-- No pass of a run touches the machines unless the stack is described in a way
that calls for an update. -/
theorem unwarranted_of_rounds (hr : Operator.reconciler config = .ok r)
    {os : List (Option (Except Error Unit))}
    (hrounds : Rounds anyCloud.environment.engine (r.ensure .create cluster) [] os h)
    (hnone : ∀ stack, config.Decides cluster stack .update →
      ⟨.describeStack .guest (Names.guestMainStack cluster.id), Except.ok stack⟩ ∉ h) :
    ∀ e ∈ h, ¬IsMachineCall e.call := by
  induction hrounds with
  | start => exact fun e he => absurd he List.not_mem_nil
  | another _ hl ih =>
    obtain ⟨t, rfl, hpass⟩ := Recording.leads_append hl
    intro e he hx
    rcases List.mem_append.mp he with he | he
    · exact ih (fun stack hd hs => hnone stack hd (List.mem_append_left _ hs)) e he hx
    · obtain ⟨before, after, rfl⟩ := List.append_of_mem he
      obtain ⟨desired, hdesired, ho⟩ := UpdateGate.heeded hr (hpass []) before e after rfl
      obtain ⟨stack, ht, hd⟩ := (ho.machines hx).decides hdesired
      have hs := List.mem_append_left (e :: after) (List.mem_of_find?_eq_some ht)
      exact hnone stack hd (List.mem_append_right _ hs)

/-- Whatever the cloud answers, and in whichever status a stack is described. -/
theorem stack_in_transition (hr : Operator.reconciler config = .ok r) (cluster : Cluster) :
    (∀ o h, (r.ensure .create cluster).Leads anyCloud.environment.engine [] o h →
      ∀ stack, Tells cluster h (.ok stack) → Careful config cluster stack h) ∧
    ∀ os h, Rounds anyCloud.environment.engine (r.ensure .create cluster) [] os h →
      (∀ stack, config.Decides cluster stack .update →
        ⟨.describeStack .guest (Names.guestMainStack cluster.id), Except.ok stack⟩ ∉ h) →
      ∀ e ∈ h, ¬IsMachineCall e.call :=
  ⟨fun _ _ hl _ ht => careful_of_heeded ht (UpdateGate.heeded hr hl),
    fun _ _ hrounds hnone => unwarranted_of_rounds hr hrounds hnone⟩

end Passes

namespace Trial

def operator : Reconciler Cloud Cluster where
  router := ⟨config.versionBundles.map (Operator.bundleSet config), nofun⟩

theorem reconciler_eq : Operator.reconciler config = .ok operator := rfl

def updating : Stack := ⟨Names.guestMainStack "a1b2c", .updateInProgress, outputs⟩

def busy : Stores :=
  { stores with guest := { stores.guest with
      present := (∅ : Table Stack).insert (Names.guestMainStack "a1b2c") updating } }

def intrusion : Option (Except Error Unit) × Stores × List Exchange :=
  (operator.ensure .create cluster).run (watched (Engine.rehearse (S := Cloud)
    (Stores.answer (Sandbox.conduct false)) fun _ s => s)) (busy, [])

theorem intrusion_leads : (operator.ensure .create cluster).Leads anyCloud.environment.engine []
    intrusion.1 intrusion.2.2 :=
  Program.Leads.of_run Prod.snd _ (watched_answers _) (operator.ensure .create cluster) (busy, [])

theorem intrusion_tells : Tells cluster intrusion.2.2 (.ok updating) := by
  with_unfolding_all rfl

theorem intrusion_machines :
    intrusion.2.2.any (fun e => Sandbox.service? e.call = some .machines) = true := by
  with_unfolding_all rfl

end Trial

theorem stack_in_transition_trial :
    Operator.reconciler Trial.config = .ok Trial.operator ∧
      Tells Trial.cluster Trial.intrusion.2.2 (.ok Trial.updating) ∧
      Careful Trial.config Trial.cluster Trial.updating Trial.intrusion.2.2 :=
  ⟨Trial.reconciler_eq, Trial.intrusion_tells,
    (stack_in_transition Trial.reconciler_eq Trial.cluster).1 _ _ Trial.intrusion_leads _
      Trial.intrusion_tells⟩

/-- Not every stack that the cloud is at work on is left alone. -/
theorem update_in_progress_not_left_alone :
    ¬∀ (config : Config) (r : Reconciler Cloud Cluster) (cluster : Cluster),
      Operator.reconciler config = .ok r →
      ∀ o h, (r.ensure .create cluster).Leads anyCloud.environment.engine [] o h →
      ∀ stack, Tells cluster h (.ok stack) → stack.status.inProgress = true →
      ∀ e ∈ h, ¬IsMachineCall e.call ∧ e.call.isStackCreation = false ∧
        e.call.isStackUpdate = false := by
  intro hall
  have hcalls := hall Trial.config Trial.operator Trial.cluster Trial.reconciler_eq _ _
    Trial.intrusion_leads Trial.updating Trial.intrusion_tells rfl
  obtain ⟨e, he, hx⟩ := List.any_eq_true.mp Trial.intrusion_machines
  have hx : Sandbox.service? e.call = some .machines := of_decide_eq_true hx
  exact (hcalls e he).1 hx

end ClusterKeeper
