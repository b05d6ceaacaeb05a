import ClusterKeeper.Proofs.CallOrder
import ClusterKeeper.Proofs.Unfolding

/-!
# Parked instances

What a pass that creates a cluster asks of the cloud about the hooks of its workers:
the group is looked up and listed once, and every attempt goes through the instances
that were listed as parked, in that order.
-/

set_option autoImplicit false

namespace ClusterKeeper

open Memory

namespace Drainer

inductive Unknown : Except CloudError Stack → Prop where
  | missing {e : CloudError} (h : e.isNotFound = true) : Unknown (.error e)
  | inaccessible {stack : Stack} (h : stack.status.outputsAccessible = false) :
      Unknown (.ok stack)
  | unnamed {stack : Stack} (h : lastValue? workerGroupOutput stack.outputs = none) :
      Unknown (.ok stack)

structure Publishes (stack : Stack) (group : String) : Prop where
  accessible : stack.status.outputsAccessible = true
  named : lastValue? workerGroupOutput stack.outputs = some group

def described (cluster : Cluster) (answer : Except CloudError Stack) : Exchange :=
  ⟨.describeStack .guest (Names.guestMainStack cluster.id), answer⟩

def listed (group : String) (answer : Except CloudError (List GroupMember)) : Exchange :=
  ⟨.describeGroup group, answer⟩

def completed (action : LifecycleAction) (answer : Except CloudError Unit) : Exchange :=
  ⟨.completeLifecycleAction action, answer⟩

inductive Looks (cluster : Cluster) :
    List Exchange → Option (Except Error (List LifecycleAction) × Cancellation) → Prop where
  | failed {e : CloudError} (h : e.isNotFound = false) :
      Looks cluster [described cluster (.error e)] (some (.error (.executionFailed
        ("describe stack " ++ Names.guestMainStack cluster.id) e), .none))
  | unknown {answer : Except CloudError Stack} (h : Unknown answer) :
      Looks cluster [described cluster answer] (some (.ok [], Cancellation.none.cancelPass))
  | unlisted {stack : Stack} {group : String} (h : Publishes stack group) (e : CloudError) :
      Looks cluster [described cluster (.ok stack), listed group (.error e)]
        (some (.error (.executionFailed
          ("describe instances of auto scaling group " ++ group) e), .none))
  | found {stack : Stack} {group : String} (h : Publishes stack group)
      (members : List GroupMember) :
      Looks cluster [described cluster (.ok stack), listed group (.ok members)]
        (some (.ok (parked group members), .none))
  | start : Looks cluster [] none
  | asking {stack : Stack} {group : String} (h : Publishes stack group) :
      Looks cluster [described cluster (.ok stack)] none
  | left {h : List Exchange} {r : Except Error (List LifecycleAction) × Cancellation}
      (hl : Looks cluster h (some r)) : Looks cluster h none

/-- An attempt goes through the instances in their order. A hook that is gone is as good
as completed; any other failure is the end of the attempt. -/
inductive Attempt : List LifecycleAction → List Exchange → Option (Except Error Unit) → Prop where
  | through : Attempt [] [] (some (.ok ()))
  | next {action : LifecycleAction} {rest : List LifecycleAction} {h : List Exchange}
      {o : Option (Except Error Unit)} (ha : Attempt rest h o) :
      Attempt (action :: rest) (completed action (.ok ()) :: h) o
  | gone {action : LifecycleAction} {rest : List LifecycleAction} {h : List Exchange}
      {o : Option (Except Error Unit)} {e : CloudError} (he : e.isNotFound = true)
      (ha : Attempt rest h o) : Attempt (action :: rest) (completed action (.error e) :: h) o
  | stopped {action : LifecycleAction} {rest : List LifecycleAction} {e : CloudError}
      (he : e.isNotFound = false) :
      Attempt (action :: rest) [completed action (.error e)] (some (.error (.executionFailed
        ("complete lifecycle action of instance " ++ action.instanceId) e)))
  | start (actions : List LifecycleAction) : Attempt actions [] none
  | left {actions : List LifecycleAction} {h : List Exchange} {r : Except Error Unit}
      (ha : Attempt actions h (some r)) : Attempt actions h none

inductive Drains (cluster : Cluster) :
    List Exchange → Option (Except Error Unit × Cancellation) → Prop where
  | left {h : List Exchange} (hl : Looks cluster h none) : Drains cluster h none
  | failed {h : List Exchange} {e : Error} {c : Cancellation}
      (hl : Looks cluster h (some (.error e, c))) : Drains cluster h (some (.error e, c))
  | canceled {h : List Exchange} {actions : List LifecycleAction} {c : Cancellation}
      (hl : Looks cluster h (some (.ok actions, c))) (hc : c.pass = true) :
      Drains cluster h (some (.ok (), c))
  | worked {h h' : List Exchange} {actions : List LifecycleAction}
      {o : Option (Except Error Unit)} (hl : Looks cluster h (some (.ok actions, .none)))
      (ha : Attempts (Attempt actions) h' o) :
      Drains cluster (h ++ h') (o.map (·, Cancellation.none))

/-! ### The drainer does so -/

section Turn

variable {cluster : Cluster} {c : Cancellation}

/-- Either the group is not known and the pass is canceled, or the group is listed. -/
theorem Looks.ok_cases {h : List Exchange} {actions : List LifecycleAction}
    (hl : Looks cluster h (some (.ok actions, c))) :
    (c.pass = true ∧ ∃ answer, Unknown answer ∧ h = [described cluster answer]) ∨
    c = .none ∧ ∃ stack group members, Publishes stack group ∧
      h = [described cluster (.ok stack), listed group (.ok members)] ∧
      actions = parked group members := by
  cases hl with
  | unknown hu => exact .inl ⟨rfl, _, hu, rfl⟩
  | found hp members => exact .inr ⟨rfl, _, _, members, hp, rfl, rfl⟩

end Turn

section Calls

variable {cluster : Cluster} {h : List Exchange} {e : Exchange}

def Completes (actions : List LifecycleAction) (e : Exchange) : Prop :=
  ∃ action ∈ actions, ∃ answer, e = completed action answer

theorem Attempt.calls {actions : List LifecycleAction} {o : Option (Except Error Unit)}
    (ha : Attempt actions h o) : ∀ e ∈ h, Completes actions e := by
  have hcons : ∀ {first : LifecycleAction} {rest : List LifecycleAction}
      {answer : Except CloudError Unit} {h : List Exchange}, (∀ e ∈ h, Completes rest e) →
      ∀ e ∈ completed first answer :: h, Completes (first :: rest) e := by
    intro first rest answer h hrest
    refine List.forall_mem_cons.mpr ⟨⟨first, List.mem_cons_self, answer, rfl⟩, fun e he => ?_⟩
    obtain ⟨action, haction, heq⟩ := hrest e he
    exact ⟨action, List.mem_cons_of_mem first haction, heq⟩
  induction ha with
  | through => exact List.forall_mem_nil _
  | next _ ih => exact hcons ih
  | gone _ _ ih => exact hcons ih
  | stopped _ => exact hcons (List.forall_mem_nil _)
  | start => exact List.forall_mem_nil _
  | left _ ih => exact ih

theorem Looks.calls {o : Option (Except Error (List LifecycleAction) × Cancellation)}
    (hl : Looks cluster h o) : ∀ e ∈ h, ∀ action, e.call ≠ .completeLifecycleAction action := by
  induction hl with
  | left _ ih => exact ih
  | _ => simp [described, listed]

/-- A turn completes hooks only once it has the group listed. Without that it only succeeds
if it cancels the pass. -/
theorem Drains.cases {o : Option (Except Error Unit × Cancellation)}
    (hd : Drains cluster h o) :
    ((∀ e ∈ h, ∀ action, e.call ≠ .completeLifecycleAction action) ∧
      ∀ c, o = some (.ok (), c) →
        c.pass = true ∧ ∃ answer, Unknown answer ∧ h = [described cluster answer]) ∨
    ∃ stack group members h' o', h = described cluster (.ok stack) ::
        listed group (.ok members) :: h' ∧ Publishes stack group ∧
      Attempts (Attempt (parked group members)) h' o' ∧ o = o'.map (·, Cancellation.none) := by
  cases hd with
  | left hl => exact .inl ⟨hl.calls, nofun⟩
  | failed hl => exact .inl ⟨hl.calls, nofun⟩
  | canceled hl hc =>
    refine .inl ⟨hl.calls, fun c heq => ?_⟩
    cases heq
    rcases hl.ok_cases with hunknown | ⟨rfl, -⟩
    · exact hunknown
    · cases hc
  | worked hl ha =>
    rcases hl.ok_cases with ⟨hpass, -⟩ | ⟨-, stack, group, members, hp, rfl, rfl⟩
    · cases hpass
    · exact .inr ⟨stack, group, members, _, _, rfl, hp, ha, rfl⟩

/-- Hooks are completed only for instances that this pass has found parked. -/
theorem Drains.parked {o : Option (Except Error Unit × Cancellation)} (hd : Drains cluster h o)
    {action : LifecycleAction} (he : e ∈ h) (hx : e.call = .completeLifecycleAction action) :
    ∃ stack group members, described cluster (.ok stack) ∈ h ∧ Publishes stack group ∧
      listed group (.ok members) ∈ h ∧ action ∈ Drainer.parked group members := by
  rcases hd.cases with ⟨hnone, -⟩ | ⟨stack, group, members, h', o', rfl, hp, ha, -⟩
  · exact absurd hx (hnone e he action)
  refine ⟨stack, group, members, List.mem_cons_self,
    hp, List.mem_cons_of_mem _ List.mem_cons_self, ?_⟩
  simp only [List.mem_cons] at he
  rcases he with rfl | rfl | he
  · cases hx
  · cases hx
  · obtain ⟨other, hother, answer, rfl⟩ := ha.forall (fun _ _ => Attempt.calls) e he
    cases hx
    exact hother

end Calls

end Drainer

/-! ### No other resource makes calls about groups -/

section Last

variable {K : Type} {direction : Direction} {context : PassContext} {object : K}
  {first : List (Resource Cloud K)} {final : Resource Cloud K} {t : Transcript Cloud}
  {o : Option (Except Error Unit)}

def Parts (direction : Direction) (context : PassContext) (object : K)
    (first : List (Resource Cloud K)) (final : Resource Cloud K) (h : List Exchange)
    (o : Option (Except Error Unit)) : Prop :=
  ∃ before after, h = before ++ after ∧
    Each (Portion direction context object False) first before ∧
    (after = [] ∨ ∃ t o', ((final.ensure direction context object).run .none).Comes t o' ∧
      after = exchanges t ∧ o = o'.map Prod.fst)

theorem Stops.comes (ht : Stops direction context object [final] t o) :
    ∃ o', ((final.ensure direction context object).run .none).Comes t o' ∧
      o = o'.map Prod.fst := by
  cases ht with
  | failed h => exact ⟨some _, h, rfl⟩
  | canceled h hc => exact ⟨some _, h, rfl⟩
  | between => exact ⟨none, Program.comes_start _, rfl⟩
  | within h => exact ⟨none, h, rfl⟩

theorem Course.parts (ht : Course direction context object (first ++ [final]) t o) :
    Parts direction context object first final (exchanges t) o := by
  induction first generalizing t with
  | nil =>
    refine ⟨[], exchanges t, rfl, .nil, .inr ⟨t, ?_⟩⟩
    rcases course_cons.mp ht with hstops | ⟨turn, t', rfl, rfl, hrest⟩
    · obtain ⟨o', hcomes, ho⟩ := hstops.comes
      exact ⟨o', hcomes, rfl, ho⟩
    · obtain ⟨rfl, ho⟩ := course_nil.mp hrest
      rw [List.append_nil]
      rcases ho with rfl | rfl
      · exact ⟨none, turn.ends.left, rfl, rfl⟩
      · exact ⟨some _, turn.ends, rfl, rfl⟩
  | cons resource rest ih =>
    rcases course_cons.mp ht with hstops | ⟨turn, t', rfl, rfl, hrest⟩
    · have hportion : Portion direction context object False resource (exchanges t) :=
        ⟨hstops.portion.comes, False.elim⟩
      refine ⟨exchanges t, [], (List.append_nil _).symm, ?_, .inl rfl⟩
      have hfirst := Each.cons hportion (each_missed rest)
      rwa [List.append_nil] at hfirst
    · obtain ⟨before, after, heq, hbefore, hafter⟩ := ih hrest
      refine ⟨exchanges turn.transcript ++ before, after, ?_, .cons (.of_ends turn.ends) hbefore,
        hafter⟩
      rw [exchanges_append, heq, List.append_assoc]

end Last

section Calls

variable {cluster : Cluster} {direction : Direction} {x : Cloud.Call} {h : List Exchange}

end Calls

section Passes

variable {config : Config} {r : Reconciler Cloud Cluster} {cluster : Cluster}
  {o : Option (Except Error Unit)} {h : List Exchange}

end Passes

end ClusterKeeper
