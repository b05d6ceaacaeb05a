import ClusterKeeper.Proofs.RetryLoop
import ClusterKeeper.Proofs.Observations
import ClusterKeeper.Proofs.Routing

/-!
# Deleting the stacks of a cluster

Every attempt goes through all the stacks, whatever becomes of each. What is left over
when the attempts are used up is what the last attempt could not delete.
-/

set_option autoImplicit false

namespace ClusterKeeper

variable {S : Signature} {α β K : Type}

namespace StackDeletion

def gone : Except CloudError Unit → Bool
  | .ok _ => true
  | .error e => e.isNotFound

theorem accept_of_gone {answer : Except CloudError Unit} (h : gone answer = true) :
    Cloud.accept CloudError.isNotFound () answer = .ok () := by
  cases answer with
  | ok _ => rfl
  | error e => exact if_pos h

theorem accept_of_not_gone {answer : Except CloudError Unit} (h : gone answer = false) :
    ∃ e, Cloud.accept CloudError.isNotFound () answer = .error e := by
  cases answer with
  | ok _ => cases h
  | error e => exact ⟨e, if_neg (Bool.eq_false_iff.mp h)⟩

structure Sweep (targets : List (Account × String)) where
  answers : List ((Account × String) × Except CloudError Unit)
  complete : answers.map Prod.fst = targets

variable {targets : List (Account × String)}

def Sweep.calls (s : Sweep targets) : List Exchange :=
  s.answers.map fun a => ⟨.deleteStack a.1.1 a.1.2, a.2⟩

def Sweep.left (s : Sweep targets) : List String :=
  (s.answers.filter fun a => !gone a.2).map fun a => a.1.2

def Sweep.result (s : Sweep targets) : Except Error Unit :=
  if s.left = [] then .ok ()
  else .error (.deletionMustBeRetried ("stacks " ++ ", ".intercalate s.left))

def Sweep.none : Sweep [] := ⟨[], rfl⟩

def Sweep.cons (target : Account × String) (answer : Except CloudError Unit)
    (s : Sweep targets) : Sweep (target :: targets) :=
  ⟨(target, answer) :: s.answers, congrArg (target :: ·) s.complete⟩

theorem Sweep.left_cons_gone {target : Account × String} {answer : Except CloudError Unit}
    (s : Sweep targets) (h : gone answer = true) : (s.cons target answer).left = s.left := by
  simp [left, cons, h]

theorem Sweep.left_cons {target : Account × String} {answer : Except CloudError Unit}
    (s : Sweep targets) (h : gone answer = false) :
    (s.cons target answer).left = target.2 :: s.left := by
  simp [left, cons, h]

theorem Sweep.isOk_result (s : Sweep targets) : s.result.isOk = decide (s.left = []) := by
  unfold result
  split
  · next h => simp [h, Except.isOk, Except.toBool]
  · next h => simp [h, Except.isOk, Except.toBool]

end StackDeletion

namespace MainStack

open StackDeletion

variable {cloudConfigVersion project : String} {policy volumePolicy : RetryPolicy}
  {context : PassContext} {cluster : Cluster} {c : Cancellation}

/-- No answer keeps the next stack from being deleted. -/
theorem deleteAll_yields (targets : List (Account × String)) :
    (deleteAll targets).Yields c fun t r =>
      ∃ s : Sweep targets, exchanges t = s.calls ∧ r = .ok s.left := by
  induction targets with
  | nil => exact .pure ⟨.none, rfl, rfl⟩
  | cons target rest ih =>
    refine Action.Yields.call_bind (S := Cloud) (x := .deleteStack target.1 target.2)
      fun (answer : Except CloudError Unit) => ih.bind ?_ ?_
    · rintro t failed ⟨s, hcalls, hleft⟩
      cases hleft
      have hexchanges : exchanges (.call (S := Cloud) (.deleteStack target.1 target.2) answer ::
          (t ++ [])) = (s.cons target answer).calls := by
        rw [List.append_nil]
        exact congrArg (List.cons _) hcalls
      cases hgone : gone answer with
      | true =>
        rw [accept_of_gone hgone]
        exact .pure ⟨s.cons target answer, hexchanges, by rw [s.left_cons_gone hgone]⟩
      | false =>
        obtain ⟨e, haccept⟩ := accept_of_not_gone hgone
        rw [haccept]
        exact .pure ⟨s.cons target answer, hexchanges, by rw [s.left_cons hgone]⟩
    · rintro t e ⟨s, -, hleft⟩
      cases hleft

theorem applyDelete_yields (change : StackDeletion) :
    ((resource cloudConfigVersion volumePolicy).applyDelete context cluster change).Yields c
      fun t r => ∃ s : Sweep change.targets, exchanges t = s.calls ∧ r = s.result := by
  apply (deleteAll_yields change.targets).bind
  · rintro t failed ⟨s, hcalls, hleft⟩
    cases hleft
    by_cases hnil : s.left = []
    · rw [if_neg fun h => h hnil]
      exact .pure ⟨s, by rw [List.append_nil, hcalls], (if_pos hnil).symm⟩
    · rw [if_pos hnil]
      exact .throw ⟨s, by rw [List.append_nil, hcalls], (if_neg hnil).symm⟩
  · rintro t e ⟨s, -, hleft⟩
    cases hleft

def Removable (answer : Except CloudError Stack) : Prop :=
  ∀ e, answer = .error e → e.isNotFound = true

/-- Neither the status of a stack nor its outputs keep it from being deleted. -/
theorem ofAnswer_of_removable (name : String) {answer : Except CloudError Stack}
    (h : Removable answer) : ∃ state, StackState.ofAnswer name answer = .ok state := by
  cases answer with
  | ok stack =>
    cases ha : stack.status.outputsAccessible with
    | false =>
      refine ⟨.unread name, ?_⟩
      simp [StackState.ofAnswer, StackOutputs.ofAnswer, ha]
    | true =>
      simp only [StackState.ofAnswer, StackOutputs.ofAnswer, ha, if_true]
      rcases StackState.ofOutputs_cases ⟨stack.name, stack.outputs⟩ name with
        ⟨state, h⟩ | ⟨what, h⟩ <;> rw [h] <;> exact ⟨_, rfl⟩
  | error e =>
    have he := h e rfl
    cases e with
    | notFound _ => exact ⟨.absent, rfl⟩
    | _ => cases he

theorem ofAnswer_of_error (name : String) {e : CloudError} (he : e.isNotFound = false) :
    StackState.ofAnswer name (.error e) =
      .error (.executionFailed ("describe stack " ++ name) e) := by
  cases e with
  | notFound _ => cases he
  | _ => rfl

end MainStack

/-! ### Runs in which no pause is refused -/

namespace Action

def Persists (a : Action Cloud α) (c : Cancellation)
    (Q : List Exchange → Except Error α → Prop) : Prop :=
  a.Yields c fun t r => Obliging t → Q (exchanges t) r

variable {policy : RetryPolicy} {project resource : String} {o : Operation} {c : Cancellation}
  {Q : List Exchange → Except Error α → Prop}

theorem Persists.pure {a : α} (h : Q [] (.ok a)) : (Pure.pure a : Action Cloud α).Persists c Q :=
  Yields.pure fun _ => h

theorem Persists.mono {a : Action Cloud α} {Q' : List Exchange → Except Error α → Prop}
    (h : a.Persists c Q) (hQ : ∀ h r, Q h r → Q' h r) : a.Persists c Q' :=
  Yields.mono h fun _ _ hr ht => hQ _ _ (hr ht)

theorem Persists.bind {a : Action Cloud β} {f : β → Action Cloud α}
    {A : List Exchange → Except Error β → Prop} (ha : a.Persists c A)
    (hf : ∀ b, (f b).Persists c fun h' r => ∀ h, A h (.ok b) → Q (h ++ h') r)
    (he : ∀ h e, A h (.error e) → Q h (.error e)) : (a >>= f).Persists c Q := by
  refine Yields.bind ha (fun t b hA => Yields.mono (hf b) fun t' r hQ ht => ?_) ?_
  · rw [exchanges_append]
    exact hQ ht.right _ (hA ht.left)
  · exact fun t e hA ht => he _ e (hA ht)

theorem Persists.unlessCanceled {a : Action Cloud Unit}
    {Q : List Exchange → Except Error Unit → Prop} (hc : c.skipsResource = false)
    (h : a.Persists c Q) : (Action.unlessCanceled a).Persists c Q := Yields.unlessCanceled hc h

theorem Persists.measuring {a : Action Cloud α} (h : a.Persists c Q) :
    ((Middleware.measuring project).around resource o a).Persists c Q := by
  refine Yields.measuring project resource o (Yields.mono h fun t r hQ ms ht => ?_)
  rw [exchanges_append, exchanges_measured, List.append_nil]
  exact hQ ht.left

/-- What is not a change is not repeated. -/
theorem Persists.reading {a : Action Cloud α} (policy : RetryPolicy) (project resource : String)
    (ho : o.mutates = false) (h : a.Persists c Q) :
    ((Middleware.measuring project).around resource o
      ((Middleware.retrying policy).around resource o a)).Persists c Q := by
  rw [Middleware.meets_retrying_of_reading policy resource a ho]
  exact h.measuring

/-- A step that makes no call hands on its value. -/
theorem Persists.constant_bind {b : β} {f : β → Action Cloud α} (policy : RetryPolicy)
    (project resource : String) (ho : o.mutates = false) (hf : (f b).Persists c Q) :
    ((Middleware.measuring project).around resource o
      ((Middleware.retrying policy).around resource o (Pure.pure b)) >>= f).Persists c Q := by
  rw [Middleware.meets_retrying_of_reading policy resource (Pure.pure b) ho]
  have hb : ((Middleware.measuring project).around resource o
      (Pure.pure b : Action Cloud β)).Yields c fun t r => exchanges t = [] ∧ r = .ok b :=
    .measuring project resource o (.pure fun ms => ⟨exchanges_measured ms, rfl⟩)
  refine Yields.bind hb ?_ ?_
  · rintro t b' ⟨hnil, heq⟩
    cases heq
    refine Yields.mono hf fun t' r hQ ht => ?_
    rw [exchanges_append, hnil]
    exact hQ ht.right
  · rintro t e ⟨-, heq⟩
    cases heq

theorem Persists.changing {a : Action Cloud α} {A : Transcript Cloud → Except Error α → Prop}
    (policy : RetryPolicy) (project resource : String) (ho : o.mutates = true) (h : a.Yields c A)
    (hQ : ∀ t r, policy.Trials A t r → Obliging t → Q (exchanges t) r) :
    ((Middleware.measuring project).around resource o
      ((Middleware.retrying policy).around resource o a)).Persists c Q :=
  .measuring ((h.repeating policy resource ho).mono fun t r ⟨x⟩ ht => hQ t r x ht)

end Action

/-! ### Coming to an end -/

namespace Action

def Whole (a : Action S α) : Prop := ∀ c, Program.Whole (a.run c)

theorem Whole.pure (a : α) : (Pure.pure a : Action S α).Whole := fun _ => trivial

theorem Whole.throw (e : Error) : (MonadExcept.throw e : Action S α).Whole := fun _ => trivial

theorem Whole.bind {a : Action S β} {f : β → Action S α} (ha : a.Whole) (hf : ∀ b, (f b).Whole) :
    (a >>= f).Whole := by
  intro c
  rw [run_bind]
  refine (ha c).bind ?_
  rintro ⟨e | b, c'⟩
  · trivial
  · exact hf b c'

theorem Whole.call (x : S.Call) : (Action.call x).Whole := by
  intro c
  rw [Action.call, run_lift]
  exact (Program.whole_ask _).bind fun _ => trivial

theorem Whole.except (r : Except Error α) : (liftM r : Action S α).Whole := by
  cases r with
  | ok a => exact .pure a
  | error e => exact .throw e

theorem Whole.unlessCanceled {a : Action S Unit} (ha : a.Whole) :
    (Action.unlessCanceled a).Whole := by
  intro c
  show Program.Whole ((if c.skipsResource then Pure.pure () else a : Action S Unit).run c)
  split
  · trivial
  · exact ha c

theorem whole_reports (ms : List Measurement) :
    Program.Whole (ms.forM fun m => Engine.report (S := S) (.measured m)) := by
  induction ms with
  | nil => trivial
  | cons m ms ih => exact (Program.whole_ask _).bind fun _ => ih

theorem Whole.managed {policy : RetryPolicy} {limit : UInt32} {a : Action S α} (ha : a.Whole)
    (hlimit : policy.maxAttempts = some limit) (project resource : String) (o : Operation) :
    ((Middleware.measuring project).around resource o
      ((Middleware.retrying policy).around resource o a)).Whole := fun c =>
  Program.Whole.bind (whole_retrying hlimit resource o ha c) fun _ =>
    (whole_reports _).bind fun _ => trivial

/-- A step that makes no call hands on its value. -/
theorem Whole.constant_bind (policy : RetryPolicy) (project resource : String) {o : Operation}
    (ho : o.mutates = false) {b : β} {f : β → Action S α} (hf : (f b).Whole) :
    ((Middleware.measuring project).around resource o
      ((Middleware.retrying policy).around resource o (Pure.pure b)) >>= f).Whole := by
  rw [Middleware.meets_retrying_of_reading policy resource (Pure.pure b) ho]
  intro c
  have hrun : (((Middleware.measuring project).around resource o
      (Pure.pure b : Action S β)).run c) =
        Program.bind ((Middleware.measurements ⟨resource, o, project⟩ (.ok b)).forM fun m =>
          Engine.report (S := S) (.measured m)) fun _ => .pure (.ok b, c) := rfl
  rw [run_bind, hrun, Program.bind_assoc]
  exact (whole_reports _).bind fun _ => hf c

end Action

namespace MainStack

open StackDeletion

variable {cloudConfigVersion project : String} {policy volumePolicy : RetryPolicy}
  {context : PassContext} {cluster : Cluster} {c : Cancellation} {limit : UInt32}

theorem deleteAll_whole (targets : List (Account × String)) : (deleteAll targets).Whole := by
  induction targets with
  | nil => exact .pure []
  | cons target rest ih =>
    refine .bind (.call (S := Cloud) _) fun answer => .bind ih fun failed => ?_
    split
    · exact .pure failed
    · exact .pure (target.2 :: failed)

theorem applyDelete_whole (change : StackDeletion) :
    ((resource cloudConfigVersion volumePolicy).applyDelete context cluster change).Whole := by
  refine .bind (deleteAll_whole change.targets) fun failed => ?_
  split
  · exact .throw _
  · exact .pure ()

theorem ensureDeleted_whole (hlimit : policy.maxAttempts = some limit) :
    (((resource cloudConfigVersion volumePolicy).managed policy project).toResource.ensure .delete
      context cluster).Whole := by
  have hcurrent : ((resource cloudConfigVersion volumePolicy).currentState context cluster).Whole :=
    .bind (.call (S := Cloud) _) fun answer => .except _
  refine .bind (hcurrent.managed hlimit project "stack" .getCurrentState) fun current => ?_
  refine .unlessCanceled (.constant_bind (o := .getDesiredState)
    (b := StackState.desired cluster cloudConfigVersion) policy project "stack" rfl ?_)
  refine .unlessCanceled (.constant_bind (o := .newDeletePatch)
    (b := Patch.ofDelete (StackDeletion.ofCluster cluster.id)) policy project "stack" rfl ?_)
  exact .bind ((applyDelete_whole _).managed hlimit project "stack" .applyDeleteChange) fun _ =>
    .unlessCanceled (.pure ())

def description (cluster : Cluster) (answer : Except CloudError Stack) : Exchange :=
  ⟨.describeStack .guest (Names.guestMainStack cluster.id), answer⟩

abbrev ClusterSweep (cluster : Cluster) : Type :=
  Sweep (StackDeletion.ofCluster cluster.id).targets

def SweepsUpTo (limit : UInt32) (cluster : Cluster) (h : List Exchange) (r : Except Error Unit) :
    Prop :=
  ∃ (failed : List (ClusterSweep cluster)) (last : ClusterSweep cluster),
    h = (failed ++ [last]).flatMap Sweep.calls ∧ (∀ s ∈ failed, s.left ≠ []) ∧
    failed.length + 1 ≤ max 1 limit.toNat ∧
    (last.left = [] ∧ r = .ok () ∨
      last.left ≠ [] ∧ failed.length + 1 = max 1 limit.toNat ∧
        r = .error (.deletionMustBeRetried ("stacks " ++ ", ".intercalate last.left)))

theorem sweeps_of_trials (hlimit : policy.maxAttempts = some limit)
    (helapsed : policy.maxElapsed = none) {t : Transcript Cloud} {r : Except Error Unit}
    (x : policy.Trials (fun t r => ∃ s : ClusterSweep cluster,
      exchanges t = s.calls ∧ r = s.result) t r) (ht : Obliging t) :
    SweepsUpTo limit cluster (exchanges t) r := by
  obtain ⟨failed, last, hlength, hcalls, hfailed, rfl⟩ := x.described fun _ _ h => h
  refine ⟨failed, last, hcalls, fun s hs hnil => ?_, hlength ▸ x.calls_le hlimit, ?_⟩
  · have hleft := hfailed s hs
    rw [s.isOk_result, decide_eq_false_iff_not] at hleft
    exact hleft hnil
  · by_cases hnil : last.left = []
    · exact .inl ⟨hnil, if_pos hnil⟩
    · refine .inr ⟨hnil, ?_, if_neg hnil⟩
      rw [hlength]
      refine (x.ok_or_exhausted hlimit helapsed ht).resolve_left fun hok => ?_
      rw [last.isOk_result, decide_eq_true_eq] at hok
      exact hnil hok

theorem currentState_persists (cloudConfigVersion : String) (volumePolicy : RetryPolicy)
    (context : PassContext) (cluster : Cluster) (c : Cancellation) :
    ((resource cloudConfigVersion volumePolicy).currentState context cluster).Persists c
      fun h r => ∃ answer, h = [description cluster answer] ∧
        r = StackState.ofAnswer (Names.guestMainStack cluster.id) answer := by
  refine Action.Yields.call_bind (S := Cloud)
    (x := .describeStack .guest (Names.guestMainStack cluster.id))
    fun (answer : Except CloudError Stack) => ?_
  cases hstate : StackState.ofAnswer (Names.guestMainStack cluster.id) answer with
  | ok state => exact .pure fun _ => ⟨answer, rfl, hstate.symm⟩
  | error e => exact .throw fun _ => ⟨answer, rfl, hstate.symm⟩

def Deletes (limit : UInt32) (cluster : Cluster) (h : List Exchange) (r : Except Error Unit) :
    Prop :=
  ∃ answer, (Removable answer → ∃ h', h = description cluster answer :: h' ∧
      SweepsUpTo limit cluster h' r) ∧
    ∀ e, answer = .error e → e.isNotFound = false →
      h = [description cluster answer] ∧
        r = .error (.executionFailed ("describe stack " ++ Names.guestMainStack cluster.id) e)

theorem ensureDeleted_persists (hlimit : policy.maxAttempts = some limit)
    (helapsed : policy.maxElapsed = none) (hc : c.skipsResource = false) :
    (((resource cloudConfigVersion volumePolicy).managed policy project).toResource.ensure .delete
      context cluster).Persists c (Deletes limit cluster) := by
  have hcurrent := currentState_persists cloudConfigVersion volumePolicy context cluster c
  have happly : (((resource cloudConfigVersion volumePolicy).managed policy project).applyDelete
      context cluster (.ofCluster cluster.id)).Persists c (SweepsUpTo limit cluster) :=
    .changing policy project "stack" (o := .applyDeleteChange) rfl (applyDelete_yields _)
      fun t r x ht => sweeps_of_trials hlimit helapsed x ht
  refine .bind (hcurrent.reading policy project "stack" (o := .getCurrentState) rfl)
    (fun state => Action.Persists.mono (Q := SweepsUpTo limit cluster) ?_ ?_) ?_
  · refine .unlessCanceled hc (.constant_bind (o := .getDesiredState)
      (b := StackState.desired cluster cloudConfigVersion) policy project "stack" rfl ?_)
    refine .unlessCanceled hc (.constant_bind (o := .newDeletePatch)
      (b := Patch.ofDelete (StackDeletion.ofCluster cluster.id)) policy project "stack" rfl ?_)
    refine .bind happly (fun _ => .unlessCanceled hc (.pure fun h hh => ?_)) fun _ _ h => h
    rwa [List.append_nil]
  · rintro h' r hsweeps _ ⟨answer, rfl, hstate⟩
    refine ⟨answer, fun _ => ⟨h', rfl, hsweeps⟩, ?_⟩
    rintro e rfl he
    rw [ofAnswer_of_error _ he] at hstate
    cases hstate
  · rintro _ e ⟨answer, rfl, hstate⟩
    refine ⟨answer, fun hanswer => ?_, ?_⟩
    · obtain ⟨state, hok⟩ := ofAnswer_of_removable (Names.guestMainStack cluster.id) hanswer
      cases hstate.trans hok
    · rintro e' rfl he
      rw [ofAnswer_of_error _ he] at hstate
      exact ⟨rfl, congrArg Except.error (Except.error.inj hstate)⟩

theorem stack_of_name {config : Config} {bundle : VersionBundle} {r : Resource Cloud Cluster}
    (hr : r ∈ (Operator.resources config bundle).resources) (hname : r.name = "stack") :
    r = ((resource bundle.cloudConfigVersion config.volumeDeletionPolicy).managed config.retry
      config.installationName).toResource := by
  refine Operator.eq_of_name hr ?_ hname
  simp [Operator.resources_eq, Operator.leading]

/-- Each attempt goes through all three stacks. Either one leaves nothing behind, or the
last one allowed decides what the error tells. If it is not known whether there is a
stack, nothing is deleted. -/
theorem stacks_swept {config : Config} {bundle : VersionBundle} {limit : UInt32}
    (hlimit : config.retry.maxAttempts = some limit) (helapsed : config.retry.maxElapsed = none)
    {r : Resource Cloud Cluster} (hr : r ∈ (Operator.resources config bundle).resources)
    (hname : r.name = "stack") (context : PassContext) (cluster : Cluster) {c : Cancellation}
    (hc : c.skipsResource = false) :
    ((r.ensure .delete context cluster).run c).Whole ∧
    ∀ t result c', ((r.ensure .delete context cluster).run c).Ends t (result, c') →
      c' = c ∧ (Obliging t → Deletes limit cluster (exchanges t) result) := by
  obtain rfl := stack_of_name hr hname
  exact ⟨ensureDeleted_whole hlimit c, ensureDeleted_persists hlimit helapsed hc⟩

def sweepsOfTrial : Transcript Cloud :=
  let id := Trial.cluster.id
  let deletion (account : Account) (name : String) (answer : Except CloudError Unit) :
      Entry (Engine Cloud) := .call (S := Cloud) (.deleteStack account name) answer
  let measured (o : Operation) : Entry (Engine Cloud) :=
    .reported (.measured (.duration ⟨"stack", o, "trial"⟩ true))
  [.call (S := Cloud) (.describeStack .guest (Names.guestMainStack id))
     (.ok ⟨Names.guestMainStack id, .rollbackFailed, []⟩),
   measured .getCurrentState, measured .getDesiredState, measured .newDeletePatch,
   .reported .attempt,
   deletion .guest (Names.guestMainStack id) (.ok ()),
   deletion .host (Names.hostMainStack id) (.error .throttled),
   deletion .host (Names.hostSetupStack id) (.ok ()),
   .turned ⟨Trial.config.retry, 0, 0⟩ (some (.ofMilliseconds 200)),
   .slept (.ofMilliseconds 200),
   .reported .attempt,
   deletion .guest (Names.guestMainStack id) (.error (.notFound "stack")),
   deletion .host (Names.hostMainStack id) (.ok ()),
   deletion .host (Names.hostSetupStack id) (.error (.notFound "stack")),
   .reported .settled, measured .applyDeleteChange]

theorem sweepsOfTrial_obliging : Obliging sweepsOfTrial := obliging_of_all rfl

def ensured : Resource Cloud Cluster :=
  ((resource "v1" Trial.config.volumeDeletionPolicy).managed Trial.config.retry
    Trial.config.installationName).toResource

theorem sweepsOfTrial_ends :
    ((ensured.ensure .delete ⟨true⟩ Trial.cluster).run .none).Ends sweepsOfTrial
      (.ok (), .none) :=
  .request (.request (.request (.request (.request (.request (.request (.request (.request
    (.request (.request (.request (.request (.request (.request (.request (.pure _))))))))))))))))

theorem stacks_swept_trial :
    Trial.config.retry.maxAttempts = some 3 ∧ Trial.config.retry.maxElapsed = none ∧
    ensured ∈ (Operator.resources Trial.config ⟨"1.0.0", "v1"⟩).resources ∧
    ensured.name = "stack" ∧ Deletes 3 Trial.cluster (exchanges sweepsOfTrial) (.ok ()) := by
  have hmem : ensured ∈ (Operator.resources Trial.config ⟨"1.0.0", "v1"⟩).resources :=
    .tail _ (.tail _ (.tail _ (.head _)))
  refine ⟨rfl, rfl, hmem, rfl, ?_⟩
  have hswept := stacks_swept rfl rfl hmem rfl ⟨true⟩ Trial.cluster (c := .none) rfl
  exact (hswept.2 sweepsOfTrial (.ok ()) .none sweepsOfTrial_ends).2 sweepsOfTrial_obliging

end MainStack

end ClusterKeeper
