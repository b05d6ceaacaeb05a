import ClusterKeeper.Proofs.HaltingPasses
import ClusterKeeper.Proofs.Observations
import ClusterKeeper.Proofs.PendingUpdates
import ClusterKeeper.Proofs.Procedures
import ClusterKeeper.Proofs.Results
import ClusterKeeper.Proofs.StackDeletions

/-!
# What is observed of a stack

A stack is nothing but the last values of nine outputs to a pass that creates a cluster,
if its status lets these be read. Where one of them is missing the stack is left alone.
-/

set_option autoImplicit false

namespace ClusterKeeper

namespace StackState

def keys : List String :=
  ["MasterImageID", "MasterInstanceType", "MasterCloudConfigVersion",
   "MasterInstanceResourceName", "WorkerCount", "WorkerImageID", "WorkerInstanceType",
   "WorkerCloudConfigVersion", "VersionBundleVersion"]

def read? (name : String) (value? : String → Option String) : Option StackState := do
  let masterImageId ← value? "MasterImageID"
  let masterInstanceType ← value? "MasterInstanceType"
  let masterCloudConfigVersion ← value? "MasterCloudConfigVersion"
  let masterInstanceResourceName ← value? "MasterInstanceResourceName"
  let workerCount ← value? "WorkerCount"
  let workerImageId ← value? "WorkerImageID"
  let workerInstanceType ← value? "WorkerInstanceType"
  let workerCloudConfigVersion ← value? "WorkerCloudConfigVersion"
  let versionBundleVersion ← value? "VersionBundleVersion"
  pure {
    name, masterImageId, masterInstanceType, masterCloudConfigVersion,
    masterInstanceResourceName, workerCount, workerImageId, workerInstanceType,
    workerCloudConfigVersion, versionBundleVersion }

variable {name : String} {value? value?' : String → Option String} {state : StackState}

theorem read?_congr (h : ∀ key ∈ keys, value? key = value?' key) :
    read? name value? = read? name value?' := by
  simp only [keys, List.forall_mem_cons] at h
  obtain ⟨h₁, h₂, h₃, h₄, h₅, h₆, h₇, h₈, h₉, -⟩ := h
  rw [read?, h₁, h₂, h₃, h₄, h₅, h₆, h₇, h₈, h₉]
  rfl

theorem version_of_read? (h : read? name value? = some state) :
    (∀ key ∈ keys, ∃ value, value? key = some value) ∧
      value? "VersionBundleVersion" = some state.versionBundleVersion := by
  simp only [read?, Option.bind_eq_bind, Option.bind_eq_some_iff] at h
  obtain ⟨_, h₁, _, h₂, _, h₃, _, h₄, _, h₅, _, h₆, _, h₇, _, h₈, _, h₉, heq⟩ := h
  cases heq
  simp only [keys, List.forall_mem_cons]
  exact ⟨⟨⟨_, h₁⟩, ⟨_, h₂⟩, ⟨_, h₃⟩, ⟨_, h₄⟩, ⟨_, h₅⟩, ⟨_, h₆⟩, ⟨_, h₇⟩, ⟨_, h₈⟩, ⟨_, h₉⟩, nofun⟩,
    h₉⟩

theorem exists_read? (name : String) (h : ∀ key ∈ keys, ∃ value, value? key = some value) :
    ∃ state, read? name value? = some state := by
  simp only [keys, List.forall_mem_cons] at h
  obtain ⟨⟨_, h₁⟩, ⟨_, h₂⟩, ⟨_, h₃⟩, ⟨_, h₄⟩, ⟨_, h₅⟩, ⟨_, h₆⟩, ⟨_, h₇⟩, ⟨_, h₈⟩, ⟨_, h₉⟩, -⟩ := h
  rw [read?, h₁, h₂, h₃, h₄, h₅, h₆, h₇, h₈, h₉]
  exact ⟨_, rfl⟩

theorem toOption_get (o : StackOutputs) (key : String) :
    (o.get key).toOption = lastValue? key o.pairs := by
  rw [StackOutputs.get]
  cases lastValue? key o.pairs <;> rfl

/-- What a state is read from, apart from the error if that is not possible. -/
theorem toOption_ofOutputs (o : StackOutputs) (name : String) :
    (ofOutputs o name).toOption = read? name fun key => lastValue? key o.pairs := by
  simp only [ofOutputs, toOption_bind, toOption_get]
  rfl

theorem observed_some (name : String) (stack : Stack) :
    observed name (some stack) = if stack.status.outputsAccessible then
      (read? name fun key => lastValue? key stack.outputs).getD (unread name)
    else unread name := by
  rw [← toOption_ofOutputs ⟨stack.name, stack.outputs⟩ name]
  simp only [observed]
  cases ofOutputs ⟨stack.name, stack.outputs⟩ name <;> rfl

theorem ofAnswer_ok (name : String) (stack : Stack) :
    ofAnswer name (.ok stack) = .ok (observed name (some stack)) := by
  cases ha : stack.status.outputsAccessible with
  | false => simp [ofAnswer, StackOutputs.ofAnswer, observed, ha]
  | true =>
    simp only [ofAnswer, StackOutputs.ofAnswer, observed, ha, if_true]
    rcases ofOutputs_cases ⟨stack.name, stack.outputs⟩ name with ⟨_, h⟩ | ⟨_, h⟩ <;> simp only [h]

end StackState

namespace Stack

structure Readable (s : Stack) : Prop where
  accessible : s.status.outputsAccessible = true
  complete : ∀ key ∈ StackState.keys, ∃ value, lastValue? key s.outputs = some value
  version : lastValue? "VersionBundleVersion" s.outputs ≠ some ""

structure Alike (s s' : Stack) : Prop where
  accessible : s.status.outputsAccessible = s'.status.outputsAccessible
  values : ∀ key ∈ StackState.keys, lastValue? key s.outputs = lastValue? key s'.outputs

theorem Alike.observed {s s' : Stack} (h : s.Alike s') (name : String) :
    StackState.observed name (some s) = StackState.observed name (some s') := by
  rw [StackState.observed_some, StackState.observed_some, h.accessible,
    StackState.read?_congr h.values]

theorem hasOutputs_observed (name : String) {s : Stack} :
    (StackState.observed name (some s)).hasOutputs = true ↔ s.Readable := by
  rw [StackState.observed_some]
  constructor
  · intro h
    split at h
    · next ha =>
      cases hread : StackState.read? name fun key => lastValue? key s.outputs with
      | none =>
        rw [hread] at h
        cases h
      | some state =>
        obtain ⟨hcomplete, hversion⟩ := StackState.version_of_read? hread
        rw [hread] at h
        refine ⟨ha, hcomplete, fun hempty => ?_⟩
        have hne : state.versionBundleVersion ≠ "" := of_decide_eq_true h
        exact hne (Option.some.inj (hversion.symm.trans hempty))
    · cases h
  · rintro ⟨ha, hcomplete, hversion⟩
    obtain ⟨state, hread⟩ := StackState.exists_read? name hcomplete
    have hstate := (StackState.version_of_read? hread).2
    rw [if_pos ha, hread]
    exact decide_eq_true fun hempty => hversion (hstate.trans (congrArg some hempty))

theorem exists_observed (id : String) (s : Stack) :
    (StackState.observed (Names.guestMainStack id) (some s)).exists? = true := by
  have hname := UpdateGate.name_of_answer (StackState.ofAnswer_ok (Names.guestMainStack id) s)
  rw [StackState.exists?, hname]
  exact decide_eq_true (UpdateGate.guestMainStack_ne_empty id)

end Stack

def Cloud.Call.prepares : Cloud.Call → Bool
  | accountId | renderTemplate _ _ _ => true
  | _ => false

namespace MainStack

def Founding (cluster : Cluster) (e : Exchange) : Prop :=
  ∃ body, e.call = .createStack .guest (Names.guestMainStack cluster.id) body
    [(Names.ownershipTag cluster.id, Names.owned)]

def Establishes (cluster : Cluster) (h : List Exchange) (o : Option (Except Error Unit)) : Prop :=
  o ≠ none → (∀ e ∈ h, e.call.prepares = true → e.reply.isOk = true) →
    ∃ e ∈ h, Founding cluster e

structure Settled (cluster : Cluster) (answer : Except CloudError Stack) (h : List Exchange)
    (o : Option (Except Error Unit)) : Prop where
  founding : ∀ what, answer = .error (.notFound what) → Establishes cluster h o
  unreadable : ∀ s, answer = .ok s → ¬s.Readable → h = [] ∧ ∀ r ∈ o, r = .ok ()
  failure : ∀ e, answer = .error e → e.isNotFound = false → h = [] ∧
    ∀ r ∈ o, r = .error (.executionFailed ("describe stack " ++ Names.guestMainStack cluster.id) e)

variable {cloudConfigVersion project : String} {policy volumePolicy : RetryPolicy}
  {context : PassContext} {cluster : Cluster} {c : Cancellation} {state : StackState}

theorem Establishes.append {h : List Exchange} {o o' : Option (Except Error Unit)}
    (hf : Establishes cluster h o) (ho : o ≠ none) (h' : List Exchange) :
    Establishes cluster (h ++ h') o' := by
  intro _ hprepared
  obtain ⟨e, he, hfounding⟩ := hf ho (List.forall_mem_append.mp hprepared).1
  exact ⟨e, List.mem_append_left h' he, hfounding⟩

theorem establishes_leavesOff (cluster : Cluster) : LeavesOff (Establishes cluster) :=
  fun _ _ _ hne => absurd rfl hne

theorem settled_start (answer : Except CloudError Stack) : Settled cluster answer [] none where
  founding _ _ := fun hne => absurd rfl hne
  unreadable _ _ _ := ⟨rfl, nofun⟩
  failure _ _ _ := ⟨rfl, nofun⟩

theorem establishes_of_attempts {h : List Exchange} {o : Option (Except Error Unit)}
    (ht : Attempts (Establishes cluster) h o) : Establishes cluster h o := by
  cases ht with
  | last hA => exact hA
  | again hA _ => exact hA.append nofun _

theorem establishes_of_unprepared {h : List Exchange} {o : Option (Except Error Unit)}
    {e : Exchange} (he : e ∈ h) (hx : e.call.prepares = true) (hr : e.reply.isOk = false) :
    Establishes cluster h o := by
  intro _ hprepared
  cases hr.symm.trans (hprepared e he hx)

theorem applyCreate_establishes (cloudConfigVersion : String) (volumePolicy : RetryPolicy)
    (context : PassContext) (cluster : Cluster) (c : Cancellation) :
    ((resource cloudConfigVersion volumePolicy).applyCreate context cluster
      (StackState.desired cluster cloudConfigVersion)).Unfolds c
        (Keeping c (Establishes cluster)) := by
  have hleft : ∀ h, Keeping c (Establishes cluster) h none := fun h =>
    keeping_none.mpr fun hne => absurd rfl hne
  refine .call_bind (x := .accountId) (hleft _) fun (account : Except CloudError String) => ?_
  cases account with
  | error e =>
    exact Program.Unfolds.pure (hleft _)
      (keeping_some.mpr ⟨rfl, establishes_of_unprepared List.mem_cons_self rfl rfl⟩)
  | ok account =>
  refine .call_bind (x := .renderTemplate account cluster (.desired cluster cloudConfigVersion))
    (hleft _) fun (body : Except String String) => ?_
  cases body with
  | error source =>
    exact Program.Unfolds.pure (hleft _) (keeping_some.mpr
      ⟨rfl, establishes_of_unprepared (List.mem_cons_of_mem _ List.mem_cons_self) rfl rfl⟩)
  | ok body =>
  refine .call_bind (x := .createStack .guest (Names.guestMainStack cluster.id) body
    [(Names.ownershipTag cluster.id, Names.owned)]) (hleft _) fun answer => ?_
  refine .orFail (hleft _) fun r _ => keeping_some.mpr ⟨rfl, fun _ _ => ?_⟩
  exact ⟨_, List.mem_cons_of_mem _ (List.mem_cons_of_mem _ List.mem_cons_self), body, rfl⟩

/-- Without outputs nothing is done about a stack that exists. -/
theorem updatePatch_of_no_outputs {desired : StackState} (ho : state.hasOutputs = false) :
    (resource cloudConfigVersion volumePolicy).updatePatch context cluster state desired =
      pure .empty := by
  rcases updatePatch_cases cloudConfigVersion volumePolicy context cluster state desired with
    ⟨heq, -⟩ | ⟨-, ho'⟩
  · exact heq
  · cases ho.symm.trans ho'

section Rest

variable {Q : List Exchange → Option (Except Error Unit × Cancellation) → Prop}

def update (cloudConfigVersion project : String) (policy volumePolicy : RetryPolicy)
    (context : PassContext) (cluster : Cluster) (state desired : StackState) :
    Action Cloud Unit :=
  let r := (resource cloudConfigVersion volumePolicy).managed policy project
  r.updatePatch context cluster state desired >>= r.applyPatch context cluster

theorem update_unfolds {desired : StackState} (ho : state.hasOutputs = false) (hleft : Q [] none)
    (hend : Q [] (some (.ok (), c))) :
    (update cloudConfigVersion project policy volumePolicy context cluster state
      desired).Unfolds c Q := by
  show Action.Unfolds ((Middleware.measuring project).around "stack" .newUpdatePatch
    ((Middleware.retrying policy).around "stack" .newUpdatePatch
      ((resource cloudConfigVersion volumePolicy).updatePatch context cluster state desired)) >>=
        _) c Q
  rw [updatePatch_of_no_outputs ho]
  exact .constant_bind policy project "stack" (o := .newUpdatePatch) rfl (.pure hleft hend)

def rest (cloudConfigVersion project : String) (policy volumePolicy : RetryPolicy)
    (context : PassContext) (cluster : Cluster) (state : StackState) : Action Cloud Unit :=
  let r := (resource cloudConfigVersion volumePolicy).managed policy project
  Action.unlessCanceled do
    let desired ← r.desiredState context cluster
    Action.unlessCanceled do
      let p ← r.createPatch context cluster state desired
      r.applyPatch context cluster p
      Action.unlessCanceled
        (update cloudConfigVersion project policy volumePolicy context cluster state desired)

/-- Only the two patches matter. -/
theorem rest_unfolds (hc : c.skipsResource = false)
    {p : (resource cloudConfigVersion volumePolicy).Patch}
    (hp : (if state.exists? then .empty else .ofCreate (.desired cluster cloudConfigVersion)) = p)
    (h : (((resource cloudConfigVersion volumePolicy).managed policy project).applyPatch context
      cluster p >>= fun _ => Action.unlessCanceled (update cloudConfigVersion project policy
        volumePolicy context cluster state (.desired cluster cloudConfigVersion))).Unfolds c Q) :
    (rest cloudConfigVersion project policy volumePolicy context cluster state).Unfolds c Q := by
  have hskip : ∀ {P : Prop}, c.skipsResource = true → P := fun h => nomatch hc.symm.trans h
  refine .unlessCanceled hskip fun _ => ?_
  refine .constant_bind (o := .getDesiredState)
    (b := StackState.desired cluster cloudConfigVersion) policy project "stack" rfl ?_
  refine .unlessCanceled hskip fun _ => ?_
  have hpatch : (resource cloudConfigVersion volumePolicy).createPatch context cluster state
      (StackState.desired cluster cloudConfigVersion) = pure p := congrArg pure hp
  show Action.Unfolds ((Middleware.measuring project).around "stack" .newCreatePatch
    ((Middleware.retrying policy).around "stack" .newCreatePatch
      ((resource cloudConfigVersion volumePolicy).createPatch context cluster state _)) >>=
        _) c _
  rw [hpatch]
  exact .constant_bind policy project "stack" (o := .newCreatePatch) rfl h

theorem rest_unfolds_of_unreadable (hc : c.skipsResource = false)
    (he : state.exists? = true) (ho : state.hasOutputs = false) :
    (rest cloudConfigVersion project policy volumePolicy context cluster state).Unfolds c
      fun h o => h = [] ∧ ∀ r ∈ o, r = (.ok (), c) := by
  refine rest_unfolds hc (if_pos he) ?_
  refine Action.Unfolds.unlessCanceled (fun h => nomatch hc.symm.trans h) fun _ => ?_
  exact update_unfolds ho ⟨rfl, nofun⟩ ⟨rfl, fun r hr => (Option.some.inj hr).symm⟩

theorem rest_unfolds_of_absent (hc : c.skipsResource = false) :
    (rest cloudConfigVersion project policy volumePolicy context cluster .absent).Unfolds c
      fun h o => Establishes cluster h (o.map Prod.fst) := by
  have hleft : ∀ h, Establishes cluster h none := fun h hne => absurd rfl hne
  have hcreate := Action.Unfolds.changing policy project "stack" (o := .applyCreateChange) rfl
    (establishes_leavesOff cluster)
    (applyCreate_establishes cloudConfigVersion volumePolicy context cluster c)
  refine rest_unfolds hc (if_neg nofun) ?_
  show Action.Unfolds ((((resource cloudConfigVersion volumePolicy).managed policy
    project).applyCreate context cluster (StackState.desired cluster cloudConfigVersion) >>=
      fun _ => Action.unlessCanceled (pure ())) >>= _) c _
  rw [bind_assoc]
  refine .bind hcreate (fun h _ => hleft h) (fun h e c' hfailed => ?_) fun h u c' hdone => ?_
  · exact ⟨hleft h, establishes_of_attempts (keeping_some.mp hfailed).2⟩
  -- What comes after does not take the creation back.
  · have hcreated := establishes_of_attempts (keeping_some.mp hdone).2
    exact fun t o _ => hcreated.append nofun (exchanges t)

def onward (cloudConfigVersion project : String) (policy volumePolicy : RetryPolicy)
    (context : PassContext) (cluster : Cluster) (r : Except Error StackState) :
    Action Cloud Unit :=
  (Middleware.measuring project).around "stack" .getCurrentState (liftM r) >>=
    rest cloudConfigVersion project policy volumePolicy context cluster

/-- After the stack was described only the state that was read of it matters. -/
theorem ensure_run (cloudConfigVersion project : String) (policy volumePolicy : RetryPolicy)
    (context : PassContext) (cluster : Cluster) (c : Cancellation) :
    ((((resource cloudConfigVersion volumePolicy).managed policy project).toResource.ensure .create
      context cluster).run c) =
    (Engine.call (S := Cloud) (.describeStack .guest (Names.guestMainStack cluster.id))).bind
      fun answer => (onward cloudConfigVersion project policy volumePolicy context cluster
        (StackState.ofAnswer (Names.guestMainStack cluster.id) answer)).run c := by
  show ((Middleware.measuring project).around "stack" .getCurrentState
    ((Middleware.retrying policy).around "stack" .getCurrentState
      ((resource cloudConfigVersion volumePolicy).currentState context cluster)) >>=
        rest cloudConfigVersion project policy volumePolicy context cluster).run c = _
  rw [Middleware.meets_retrying_of_reading policy "stack" _ rfl]
  rfl

theorem settled_of_error {answer : Except CloudError Stack} {e : Error}
    (he : StackState.ofAnswer (Names.guestMainStack cluster.id) answer = .error e) :
    Settled cluster answer [] (some (.error e)) where
  founding := by
    rintro what rfl
    cases he
  unreadable := by
    rintro s rfl
    cases (StackState.ofAnswer_ok _ s).symm.trans he
  failure := by
    rintro e' rfl he'
    have heq := Except.error.inj ((ofAnswer_of_error _ he').symm.trans he)
    exact ⟨rfl, fun r hr => (Option.some.inj hr).symm.trans (congrArg Except.error heq.symm)⟩

theorem rest_settled (hc : c.skipsResource = false) {answer : Except CloudError Stack}
    (hs : StackState.ofAnswer (Names.guestMainStack cluster.id) answer = .ok state) :
    (rest cloudConfigVersion project policy volumePolicy context cluster state).Unfolds c
      fun h o => Settled cluster answer h (o.map Prod.fst) := by
  cases answer with
  | ok s =>
    obtain rfl := Except.ok.inj ((StackState.ofAnswer_ok _ s).symm.trans hs)
    by_cases hr : s.Readable
    · exact fun t o _ => ⟨nofun, fun s' hs' hn => absurd (Except.ok.inj hs' ▸ hr) hn, nofun⟩
    · have ho : (StackState.observed (Names.guestMainStack cluster.id) (some s)).hasOutputs =
          false := Bool.eq_false_iff.mpr (mt (Stack.hasOutputs_observed _).mp hr)
      refine (rest_unfolds_of_unreadable hc (Stack.exists_observed _ s) ho).mono ?_
      rintro h o ⟨hnil, hend⟩
      refine ⟨nofun, fun _ _ _ => ⟨hnil, fun r hr => ?_⟩, nofun⟩
      obtain ⟨ended, hended, rfl⟩ := Option.mem_map.mp hr
      rw [hend ended hended]
  | error e =>
    cases e with
    | notFound what =>
      cases hs
      refine (rest_unfolds_of_absent hc).mono fun h o hf => ⟨fun _ _ => hf, nofun, ?_⟩
      rintro e ⟨⟩ he
      cases he
    | _ => cases hs

theorem settled_after (hc : c.skipsResource = false) (answer : Except CloudError Stack) :
    (onward cloudConfigVersion project policy volumePolicy context cluster
      (StackState.ofAnswer (Names.guestMainStack cluster.id) answer)).Unfolds c
      fun h o => Settled cluster answer h (o.map Prod.fst) := by
  generalize hstate : StackState.ofAnswer (Names.guestMainStack cluster.id) answer = r
  have hlift : (liftM r : Action Cloud StackState).Unfolds c
      fun h o => h = [] ∧ ∀ ended ∈ o, ended = (r, c) := by
    cases r with
    | ok state => exact .pure ⟨rfl, nofun⟩ ⟨rfl, fun _ he => (Option.some.inj he).symm⟩
    | error e =>
      exact Program.Unfolds.pure ⟨rfl, nofun⟩ ⟨rfl, fun _ he => (Option.some.inj he).symm⟩
  refine .bind (hlift.measuring fun h ended ⟨hnil, _⟩ => ⟨hnil, nofun⟩) ?_ ?_ ?_
  · rintro _ ⟨rfl, -⟩
    exact settled_start answer
  · rintro _ e c' ⟨rfl, hended⟩
    cases hended _ rfl
    exact ⟨settled_start answer, settled_of_error hstate⟩
  · rintro _ state c' ⟨rfl, hended⟩
    cases hended _ rfl
    exact rest_settled hc hstate

end Rest

/-- What is done about a stack goes by the answer. It is created if and only if there is
none, changed only if it can be read, and otherwise left alone or reported. -/
structure Reaction (cluster : Cluster) (answer : Except CloudError Stack) (h : List Exchange)
    (o : Option (Except Error Unit)) : Prop extends Settled cluster answer h o where
  creation : (∃ e ∈ h, e.call.isStackCreation = true) → ∃ what, answer = .error (.notFound what)
  update : (∃ e ∈ h, e.call.isStackUpdate = true) → ∃ s, answer = .ok s ∧ s.Readable

def Observes (cluster : Cluster) (h : List Exchange) (o : Option (Except Error Unit)) : Prop :=
  h = [] ∧ o = none ∨
    ∃ answer h', h = description cluster answer :: h' ∧ Reaction cluster answer h' o

theorem readable_of_shows {s : Stack} {current : StackState}
    (hs : Exchange.Shows cluster (description cluster (.ok s)) current) : s.Readable := by
  obtain ⟨s', heq, ha, hread, ho⟩ := hs
  cases heq
  refine (Stack.hasOutputs_observed (Names.guestMainStack cluster.id)).mp ?_
  simp only [StackState.observed, ha, if_true, hread]
  exact ho

theorem ensure_observes {config : Config} (bundle : VersionBundle) (hc : c.skipsResource = false)
    {t : Transcript Cloud} {o : Option (Except Error Unit × Cancellation)}
    (ht : ((((resource bundle.cloudConfigVersion config.volumeDeletionPolicy).managed config.retry
      config.installationName).toResource.ensure .create context cluster).run c).Comes t o) :
    Observes cluster (exchanges t) (o.map Prod.fst) := by
  have hcanceled : c = .none := by
    obtain ⟨_ | _, _ | _⟩ := c <;> cases hc
    rfl
  subst hcanceled
  have hawaits := Recording.heeded_of_does (PendingUpdates.does_stack rfl) ht
  have hopens := Recording.heeded_of_does (UpdateGate.does_stack rfl
    (@UpdateGate.takes_description cluster (.desired cluster bundle.cloudConfigVersion) _ _ [])
    (fun _ _ hk he => UpdateGate.admits_createStack hk he _)
    fun _ _ hk => UpdateGate.does_updatePatch hk) ht
  rw [ensure_run] at ht
  rcases Program.comes_request.mp ht with ⟨rfl, rfl⟩ | ⟨answer, t, rfl, hnext⟩
  · exact .inl ⟨rfl, rfl⟩
  refine .inr ⟨answer, exchanges t, rfl, settled_after hc answer t o hnext, ?_, ?_⟩
  · rintro ⟨e, he, hx⟩
    obtain ⟨before, after, heq⟩ := List.append_of_mem he
    obtain ⟨what, htells⟩ := (hawaits (description cluster answer :: before) e after
      (congrArg _ heq)).creations hx
    cases htells
    exact ⟨what, rfl⟩
  · rintro ⟨e, he, hx⟩
    obtain ⟨before, after, heq⟩ := List.append_of_mem he
    obtain ⟨_, _, first, current, hfirst, hshows, _⟩ := (hopens
      (description cluster answer :: before) e after (congrArg _ heq)).updates hx
    cases hfirst
    obtain ⟨s, hs⟩ : ∃ s, answer = .ok s := by
      obtain ⟨s, heq, -⟩ := hshows
      cases heq
      exact ⟨s, rfl⟩
    subst hs
    exact ⟨s, rfl, readable_of_shows hshows⟩

def described (cluster : Cluster) (answer : Except CloudError Stack) : Entry (Engine Cloud) :=
  .call (S := Cloud) (.describeStack .guest (Names.guestMainStack cluster.id)) answer

theorem ensure_comes (answer : Except CloudError Stack) {t : Transcript Cloud}
    {o : Option (Except Error Unit × Cancellation)} :
    ((((resource cloudConfigVersion volumePolicy).managed policy project).toResource.ensure .create
      context cluster).run c).Comes (described cluster answer :: t) o ↔
    ((onward cloudConfigVersion project policy volumePolicy context cluster
      (StackState.ofAnswer (Names.guestMainStack cluster.id) answer)).run c).Comes t o := by
  rw [ensure_run]
  exact Program.comes_request_cons (S := Engine Cloud)

/-- Whatever is answered, the stack is created if and only if there is none, changed only if
it can be read, and otherwise left alone or reported. Nothing counts but what is observed of
it: after stacks of which the same is observed the same is asked, with the same result. -/
theorem stack_observed {config : Config} {bundle : VersionBundle}
    {r : Resource Cloud Cluster} (hr : r ∈ (Operator.resources config bundle).resources)
    (hname : r.name = "stack") (context : PassContext) (cluster : Cluster) {c : Cancellation}
    (hc : c.skipsResource = false) :
    (∀ limit, (r.ensure .create context cluster).Halts limit) ∧
    (∀ t o, ((r.ensure .create context cluster).run c).Comes t o →
      Observes cluster (exchanges t) (o.map Prod.fst)) ∧
    ∀ s s' : Stack, s.Alike s' → ∀ t o,
      ((r.ensure .create context cluster).run c).Comes (described cluster (.ok s) :: t) o ↔
        ((r.ensure .create context cluster).run c).Comes (described cluster (.ok s') :: t) o := by
  obtain rfl := stack_of_name hr hname
  refine ⟨fun limit => ?_, fun t o ht => ensure_observes bundle hc ht, fun s s' h t o => ?_⟩
  · exact ((resource_halts _ _).managed _ _).ensure .create context cluster
  · rw [ensure_comes, ensure_comes, StackState.ofAnswer_ok, StackState.ofAnswer_ok, h.observed]

def partialStack : Stack :=
  ⟨Names.guestMainStack "a1b2c", .updateInProgress, [("MasterImageID", "ami-1")]⟩

def observationOfTrial : Transcript Cloud :=
  described Trial.cluster (.ok partialStack) ::
    [.getCurrentState, .getDesiredState, .newCreatePatch, .newUpdatePatch].map fun o =>
      .reported (.measured (.duration ⟨"stack", o, "trial"⟩ true))

theorem observationOfTrial_ends :
    ((ensured.ensure .create ⟨true⟩ Trial.cluster).run .none).Ends observationOfTrial
      (.ok (), .none) :=
  .request (.request (.request (.request (.request (.pure _)))))

/-- The status and an output more make no difference. -/
theorem partialStack_alike : partialStack.Alike
    { partialStack with
      status := .updateComplete
      outputs := ("KeyPair", "ops") :: partialStack.outputs } :=
  ⟨rfl, by decide⟩

theorem stack_observed_trial :
    ensured ∈ (Operator.resources Trial.config ⟨"1.0.0", "v1"⟩).resources ∧
    ensured.name = "stack" ∧ Cancellation.none.skipsResource = false ∧
    Observes Trial.cluster (exchanges observationOfTrial) (some (.ok ())) ∧
    ((ensured.ensure .create ⟨true⟩ Trial.cluster).run .none).Comes
      (described Trial.cluster (.ok { partialStack with
        status := .updateComplete
        outputs := ("KeyPair", "ops") :: partialStack.outputs }) :: observationOfTrial.tail)
      (some (.ok (), .none)) := by
  have hmem : ensured ∈ (Operator.resources Trial.config ⟨"1.0.0", "v1"⟩).resources :=
    .tail _ (.tail _ (.tail _ (.head _)))
  have hobserved := stack_observed hmem rfl ⟨true⟩ Trial.cluster (c := .none) rfl
  exact ⟨hmem, rfl, rfl,
    hobserved.2.1 observationOfTrial (some (.ok (), .none)) observationOfTrial_ends,
    (hobserved.2.2 _ _ partialStack_alike _ _).mp observationOfTrial_ends⟩

end MainStack

end ClusterKeeper
