import ClusterKeeper.Proofs.Admission
import ClusterKeeper.Proofs.Agreement
import ClusterKeeper.Proofs.Routing

/-!
# The gate before updates

What a pass that creates a cluster may do to the machines and the stack of the
cluster depends on what it was told about the stack, and on whether updates are
allowed.
-/

set_option autoImplicit false

namespace ClusterKeeper

open Memory

def Exchange.Shows (cluster : Cluster) (e : Exchange) (current : StackState) : Prop :=
  ∃ stack : Stack,
    e = ⟨.describeStack .guest (Names.guestMainStack cluster.id), Except.ok stack⟩ ∧
    stack.status.outputsAccessible = true ∧
    StackState.ofOutputs ⟨stack.name, stack.outputs⟩ (Names.guestMainStack cluster.id) =
      .ok current ∧
    current.hasOutputs = true

def Config.Desires (c : Config) (cluster : Cluster) (desired : StackState) : Prop :=
  ∃ bundle ∈ c.versionBundles, bundle.version = cluster.spec.version ∧
    desired = .desired cluster bundle.cloudConfigVersion

def Tells (cluster : Cluster) (h : List Exchange) (answer : Except CloudError Stack) : Prop :=
  firstDescription h = some ⟨.describeStack .guest (Names.guestMainStack cluster.id), answer⟩

theorem Tells.moves {cluster : Cluster} {h h' : List Exchange} {answer : Except CloudError Stack}
    (ht : Tells cluster h answer) (hm : h <+: h') : Tells cluster h' answer :=
  firstDescription_moves ht hm

namespace UpdateGate

def Decided (cluster : Cluster) (desired : StackState) (allowed : Bool) (decision : Decision)
    (h : List Exchange) : Prop :=
  ∃ e current, firstDescription h = some e ∧ e.Shows cluster current ∧
    current.decide desired allowed = decision

/-- A stack is created if none could be described. Machines are touched before
updates only, and the stack is changed to update or to scale it. -/
structure Opens (cluster : Cluster) (desired : StackState) (allowed : Bool) (x : Cloud.Call)
    (h : List Exchange) : Prop where
  creations : x.isStackCreation = true → ∃ failure, Tells cluster h (.error failure)
  machines : IsMachineCall x → Decided cluster desired allowed .update h
  updates : x.isStackUpdate = true →
    ∃ decision, decision ≠ .keep ∧ Decided cluster desired allowed decision h

variable {cluster : Cluster} {desired : StackState} {allowed : Bool} {decision : Decision}
  {h h' : List Exchange} {c : Cancellation} {policy volumePolicy : RetryPolicy} {project : String}
  {context : PassContext}

theorem Decided.moves (hd : Decided cluster desired allowed decision h) (hm : h <+: h') :
    Decided cluster desired allowed decision h' := by
  obtain ⟨e, current, he, hd⟩ := hd
  exact ⟨e, current, firstDescription_moves he hm, hd⟩

abbrev gated (cluster : Cluster) (desired : StackState) (allowed : Bool) :
    Discipline (List Exchange) := recording (Opens cluster desired allowed)

open Discipline Recording

theorem takes_quiet : Takes (Opens cluster desired allowed) (fun x => x.isQuiet = true) h := by
  intro x hx h' _
  obtain ⟨hcreation, hupdate⟩ := Cloud.Call.not_stackChange_of_quiet hx
  exact ⟨fun hc => (nomatch hcreation.symm.trans hc),
    fun hm => absurd hm (Cloud.Call.not_machine_of_quiet hx),
    fun hu => nomatch hupdate.symm.trans hu⟩

theorem takes_description (name : String) (h : List Exchange) :
    Opens cluster desired allowed (.describeStack .guest name) h := ⟨nofun, nofun, nofun⟩

theorem takes_machines (hd : Decided cluster desired allowed .update h) :
    Takes (Opens cluster desired allowed) IsMachineCall h := by
  intro x hx h' hm
  obtain ⟨hcreation, hupdate⟩ := Cloud.Call.not_stackChange_of_machine hx
  exact ⟨fun hc => (nomatch hcreation.symm.trans hc), fun _ => hd.moves hm,
    fun hu => nomatch hupdate.symm.trans hu⟩

theorem admits_submit (hd : Decided cluster desired allowed decision h) (hk : decision ≠ .keep)
    (request : UpdateRequest) :
    Admits (Opens cluster desired allowed) (MainStack.submit request) h :=
  .bind (.call fun _ hm => ⟨nofun, nofun, fun _ => ⟨decision, hk, hd.moves hm⟩⟩) fun _ =>
    .orFail _

/-- What was decided can be done. -/
theorem admits_applyUpdate (hd : Decided cluster desired allowed decision h) (body : String) :
    Admits (Opens cluster desired allowed) (MainStack.applyUpdate policy cluster
      (MainStack.updateChange desired decision body)) h := by
  cases decision with
  | keep => exact .pure _
  | scale => exact admits_submit hd nofun _
  | update =>
    apply Admits.bind (admits_retireEtcd (takes_machines hd) cluster.id)
    exact fun _ => admits_submit hd nofun _

/-- Only outputs that could be read make a state that has outputs. -/
theorem shows_of_answer {answer : Except CloudError Stack} {current : StackState}
    (ha : StackState.ofAnswer (Names.guestMainStack cluster.id) answer = .ok current)
    (ho : current.hasOutputs = true) :
    Exchange.Shows cluster ⟨.describeStack .guest (Names.guestMainStack cluster.id), answer⟩
      current := by
  cases answer with
  | ok stack =>
    cases hs : stack.status.outputsAccessible with
    | true =>
      simp only [StackState.ofAnswer, StackOutputs.ofAnswer, hs, if_true] at ha
      cases hr : StackState.ofOutputs ⟨stack.name, stack.outputs⟩
          (Names.guestMainStack cluster.id) with
      | ok state =>
        rw [hr] at ha
        cases ha
        exact ⟨stack, rfl, hs, hr, ho⟩
      | error e =>
        rw [hr] at ha
        cases e <;> cases ha
        cases ho
    | false =>
      simp only [StackState.ofAnswer, StackOutputs.ofAnswer, hs] at ha
      cases ha
      cases ho
  | error e =>
    cases e <;> cases ha
    cases ho

def Told (cluster : Cluster) (current : StackState) (before h : List Exchange) : Prop :=
  ∃ answer,
    h = before ++ [⟨.describeStack .guest (Names.guestMainStack cluster.id), answer⟩] ∧
    StackState.ofAnswer (Names.guestMainStack cluster.id) answer = .ok current

theorem does_currentStack {takes : Cloud.Call → List Exchange → Prop} {cloudConfigVersion : String}
    (hd : takes (.describeStack .guest (Names.guestMainStack cluster.id)) h) :
    (recording takes).Does True
      ((MainStack.resource cloudConfigVersion volumePolicy).currentState context cluster)
      (fun current h' => Told cluster current h h') c h := by
  have hcall : (recording takes).Does True
      (Cloud.describeStack .guest (Names.guestMainStack cluster.id)) (fun r h' => h' =
        h ++ [⟨.describeStack .guest (Names.guestMainStack cluster.id), r⟩]) c h :=
    .call hd fun _ _ hr => ⟨⟨_, hr.symm⟩, hr⟩
  refine .bind hcall fun answer h' _ hr => .except ?_
  cases ha : StackState.ofAnswer (Names.guestMainStack cluster.id) answer with
  | ok current => exact ⟨answer, hr, ha⟩
  | error e => exact trivial

def Known (cluster : Cluster) (current : StackState) (h : List Exchange) : Prop :=
  ∃ answer, Tells cluster h answer ∧
    StackState.ofAnswer (Names.guestMainStack cluster.id) answer = .ok current

theorem Told.known {current : StackState} (ht : Told cluster current h h')
    (hn : firstDescription h = none) : Known cluster current h' := by
  obtain ⟨answer, rfl, ha⟩ := ht
  exact ⟨answer, firstDescription_append hn, ha⟩

theorem Known.moves {current : StackState} (hk : Known cluster current h) (hm : h <+: h') :
    Known cluster current h' := by
  obtain ⟨answer, he, ha⟩ := hk
  exact ⟨answer, he.moves hm, ha⟩

theorem Known.decided {current : StackState} (hk : Known cluster current h)
    (ho : current.hasOutputs = true) :
    Decided cluster desired allowed (current.decide desired allowed) h := by
  obtain ⟨answer, he, ha⟩ := hk
  exact ⟨_, current, he, shows_of_answer ha ho, rfl⟩

/-- Outputs are read for the stack that was asked for. -/
theorem name_of_ofOutputs (o : StackOutputs) (name : String) (state : StackState)
    (hs : StackState.ofOutputs o name = .ok state) : state.name = name := by
  have hbind : ∀ (key : String) (f : String → Except Error StackState),
      (∀ value state, f value = .ok state → state.name = name) →
      ∀ state, (o.get key >>= f) = .ok state → state.name = name := by
    intro key f hf state hs
    cases hg : o.get key with
    | ok value => rw [hg] at hs; exact hf value state hs
    | error e => rw [hg] at hs; cases hs
  rw [StackState.ofOutputs] at hs
  revert state
  iterate 9 refine hbind _ _ fun _ => ?_
  rintro _ ⟨⟩
  rfl

theorem name_of_answer {name : String} {stack : Stack} {current : StackState}
    (ha : StackState.ofAnswer name (.ok stack) = .ok current) : current.name = name := by
  unfold StackState.ofAnswer StackOutputs.ofAnswer at ha
  cases hs : stack.status.outputsAccessible with
  | false =>
    simp only [hs, if_neg Bool.false_ne_true] at ha
    cases ha
    rfl
  | true =>
    simp only [hs, if_true] at ha
    cases hr : StackState.ofOutputs ⟨stack.name, stack.outputs⟩ name with
    | ok state =>
      rw [hr] at ha
      cases ha
      exact name_of_ofOutputs _ name _ hr
    | error e =>
      rw [hr] at ha
      cases e <;> cases ha
      rfl

theorem guestMainStack_ne_empty (id : String) : Names.guestMainStack id ≠ "" := by
  intro h
  have hlist := congrArg String.toList h
  simp [Names.guestMainStack] at hlist

/-- A stack that could be described exists. -/
theorem Known.failure {current : StackState} (hk : Known cluster current h)
    (he : current.exists? = false) : ∃ failure, Tells cluster h (.error failure) := by
  obtain ⟨answer, hd, ha⟩ := hk
  cases answer with
  | error failure => exact ⟨failure, hd⟩
  | ok stack =>
    rw [StackState.exists?, name_of_answer ha] at he
    exact absurd (of_decide_eq_false he) (not_not_intro (guestMainStack_ne_empty cluster.id))

theorem admits_createStack {cloudConfigVersion : String} {current : StackState}
    (hk : Known cluster current h) (he : current.exists? = false) (state : StackState) :
    Admits (Opens cluster desired allowed)
      ((MainStack.resource cloudConfigVersion volumePolicy).applyCreate context cluster state)
      h := by
  apply Admits.bind (admits_lookUpAccount takes_quiet)
  intro account
  apply Admits.bind (admits_render takes_quiet state account)
  intro body
  exact .bind (.call fun _ hm => ⟨fun _ => (hk.moves hm).failure he, nofun, nofun⟩) fun _ =>
    .orFail _

theorem does_updatePatch {cloudConfigVersion : String} {current : StackState}
    (hk : Known cluster current h) :
    (gated cluster desired allowed).Does True
      ((MainStack.resource cloudConfigVersion volumePolicy).updatePatch ⟨allowed⟩ cluster
        current desired)
      (fun p h => (gated cluster desired allowed).Carries True
        (MainStack.resource cloudConfigVersion volumePolicy) ⟨allowed⟩ cluster
        (fun _ _ => True) c h p) c h := by
  have hbody : Admits (Opens cluster desired allowed)
      (lookUpAccount >>= MainStack.render cluster desired) h :=
    .bind (admits_lookUpAccount takes_quiet) fun account =>
      admits_render takes_quiet desired account
  apply mainStack_updatePatch (fun _ => trivial) (hbody.does fun _ _ _ => trivial)
  intro ho body h₁ h₂ hm₁ _ hm₂
  have hd : Decided cluster desired allowed (current.decide desired allowed) h₂ :=
    (hk.moves (hm₁.trans hm₂)).decided ho
  exact admits_applyUpdate hd body c h₂ (List.prefix_refl h₂)

/-- What is done about the stack goes by what it was described to be at first. -/
theorem does_stack {takes : Cloud.Call → List Exchange → Prop} {cloudConfigVersion : String}
    (hn : firstDescription h = none)
    (hd : takes (.describeStack .guest (Names.guestMainStack cluster.id)) h)
    (hcreate : ∀ current h, Known cluster current h → current.exists? = false → Admits takes
      ((MainStack.resource cloudConfigVersion volumePolicy).applyCreate ⟨allowed⟩ cluster
        (.desired cluster cloudConfigVersion)) h)
    (hupdate : ∀ current h, Known cluster current h → (recording takes).Does True
      ((MainStack.resource cloudConfigVersion volumePolicy).updatePatch ⟨allowed⟩ cluster
        current (.desired cluster cloudConfigVersion))
      (fun p h => (recording takes).Carries True
        (MainStack.resource cloudConfigVersion volumePolicy) ⟨allowed⟩ cluster
        (fun _ _ => True) .none h p) .none h) :
    (recording takes).Does True
      (((MainStack.resource cloudConfigVersion volumePolicy).managed policy
        project).toResource.ensure .create ⟨allowed⟩ cluster) (fun _ _ => True) .none h := by
  apply Does.ensureCreated (C := fun current h' => Told cluster current h h')
    (D := fun current d h => d = StackState.desired cluster cloudConfigVersion ∧
      Known cluster current h)
    (M := fun current d h => d = StackState.desired cluster cloudConfigVersion ∧
      Known cluster current h) rfl (fun h => h) (does_currentStack hd)
  · exact fun current h₁ _ ht => .pure ⟨rfl, ht.known hn⟩
  · rintro current _ h₁ _ ⟨rfl, hk⟩
    apply Does.pure
    split
    · exact .empty ⟨rfl, hk⟩
    · next he =>
      apply Carries.create _
      intro h₂ hm₂
      exact (hcreate current h₂ (hk.moves hm₂) (Bool.eq_false_iff.mpr he)).does
        fun _ _ hm => ⟨rfl, hk.moves (hm₂.trans hm)⟩
  · rintro current _ h₁ _ ⟨rfl, hk⟩
    exact hupdate current h₁ hk

variable {config : Config} {bundle : VersionBundle} {r r' : Reconciler Cloud Cluster}

/-- All that a pass does besides describing and dealing with the stack is quiet. -/
theorem reaches_of_stack {takes : Cloud.Call → List Exchange → Prop}
    (hq : ∀ h, Takes takes (fun x => x.isQuiet = true) h)
    (hd : ∀ name h, takes (.describeStack .guest name) h)
    (hstack : ∀ h, firstDescription h = none → (recording takes).Does True
      (((MainStack.resource bundle.cloudConfigVersion config.volumeDeletionPolicy).managed
        config.retry config.installationName).toResource.ensure .create
          ⟨config.guestUpdateEnabled⟩ cluster) (fun _ _ => True) .none h)
    (hn : firstDescription h = none)
    (hr : r.router.route cluster = .ok (Operator.bundleSet config bundle)) :
    (recording takes).Reaches True (r.ensure .create cluster) (fun _ => True) h := by
  have hquiet : ∀ h, Takes (fun x _ => x.isQuiet = true) (fun x => x.isQuiet = true) h :=
    fun _ _ hx _ _ => hx
  apply Reaches.ensureFrom hr (Does.unseen ((Allows.startPass _ (Admits.quiet (hquiet h) rfl)).does
    fun _ _ _ heq => heq) (hq h) hn)
  intro h₀ _ hn₀
  apply Ensures.runResources_cons (Does.unseen ((admits_key (hquiet h₀)).does
    fun _ _ _ => trivial) (hq h₀) hn₀)
  rintro h₁ _ ⟨-, hn₁⟩
  apply Ensures.runResources_cons (Does.unseen ((admits_bucket (hquiet h₁)).does
    fun _ _ _ => trivial) (hq h₁) hn₁)
  rintro h₂ _ ⟨-, hn₂⟩
  apply Ensures.runResources_cons (Does.unseen (admits_volumes.does fun _ _ _ => trivial)
    (hq h₂) hn₂)
  rintro h₃ _ ⟨-, hn₃⟩
  exact .runResources_cons (hstack h₃ hn₃) fun h₄ _ _ =>
    .runResources_last (ensures_drainer (hq h₄) fun name h _ => hd name h)

/-- A pass keeps to what it was told. -/
theorem reaches_end (hn : firstDescription h = none)
    (hr : r.router.route cluster = .ok (Operator.bundleSet config bundle)) :
    (gated cluster (.desired cluster bundle.cloudConfigVersion) config.guestUpdateEnabled).Reaches
      True (r.ensure .create cluster) (fun _ => True) h :=
  reaches_of_stack (fun _ => takes_quiet) takes_description (fun h hn => does_stack hn
    (takes_description _ h) (fun _ _ hk he => admits_createStack hk he _)
      fun _ _ hk => does_updatePatch hk) hn hr

def Parting (cluster : Cluster) (desired : StackState) (h : List Exchange) : Prop :=
  ∃ before e current, h = before ++ [e] ∧ e.Shows cluster current ∧
    current.decide desired true = .update

theorem decide_eq_of_ne {current : StackState} (hd : current.decide desired true ≠ .update)
    (allowed allowed' : Bool) :
    current.decide desired allowed = current.decide desired allowed' := by
  have hkeep : ∀ allowed, current.decide desired allowed =
      if current.needsScaling desired then .scale else .keep := by
    intro allowed
    unfold StackState.decide at hd ⊢
    split
    · rfl
    · next hs =>
      rw [if_neg hs] at hd
      refine if_neg fun hu => hd (if_pos ?_)
      cases allowed with
      | true => exact hu
      | false => exact absurd ((Bool.and_false _).symm.trans hu) Bool.false_ne_true
  rw [hkeep allowed, hkeep allowed']

theorem agrees_stack {cloudConfigVersion : String} (allowed' : Bool)
    (hdesired : desired = StackState.desired cluster cloudConfigVersion) :
    Action.Agrees (gated cluster desired allowed).environment (Parting cluster desired)
      (((MainStack.resource cloudConfigVersion volumePolicy).managed policy
        project).toResource.ensure .create ⟨allowed⟩ cluster)
      (((MainStack.resource cloudConfigVersion volumePolicy).managed policy
        project).toResource.ensure .create ⟨allowed'⟩ cluster) c h := by
  subst hdesired
  apply agrees_withStates (C := fun current h' => Told cluster current h h')
    (D := fun current d h' => d = StackState.desired cluster cloudConfigVersion ∧
      Told cluster current h h') (does_currentStack (takes_description _ h))
    (fun current h₁ _ ht => .pure ⟨rfl, ht⟩)
  rintro current _ h₁ _ ⟨rfl, ht⟩
  by_cases hp : current.hasOutputs = true ∧
      current.decide (.desired cluster cloudConfigVersion) true = .update
  · obtain ⟨answer, hh, ha⟩ := ht
    exact .parted _ _ ⟨h, _, current, hh, shows_of_answer ha hp.1, hp.2⟩
  have hupdate : (MainStack.resource cloudConfigVersion volumePolicy).updatePatch ⟨allowed⟩ cluster
      current (.desired cluster cloudConfigVersion) =
      (MainStack.resource cloudConfigVersion volumePolicy).updatePatch ⟨allowed'⟩ cluster
        current (.desired cluster cloudConfigVersion) := by
    unfold MainStack.resource
    dsimp only
    by_cases ho : current.hasOutputs = true
    · rw [decide_eq_of_ne (fun hd => hp ⟨ho, hd⟩) allowed allowed']
    · rw [if_neg ho, if_neg ho]
  have hmanaged : ((MainStack.resource cloudConfigVersion volumePolicy).managed policy
      project).updatePatch ⟨allowed⟩ cluster current (.desired cluster cloudConfigVersion) =
      ((MainStack.resource cloudConfigVersion volumePolicy).managed policy
        project).updatePatch ⟨allowed'⟩ cluster current (.desired cluster cloudConfigVersion) :=
    congrArg (fun update => (Middleware.measuring project).around "stack" .newUpdatePatch
      ((Middleware.retrying policy).around "stack" .newUpdatePatch update)) hupdate
  refine .of_eq ?_
  rw [hmanaged]
  rfl

theorem agrees_pass {allowed' : Bool}
    (hr : r.router.route cluster = .ok (Operator.bundleSet config bundle))
    (hr' : r'.router.route cluster =
      .ok (Operator.bundleSet { config with guestUpdateEnabled := allowed' } bundle)) :
    (r.ensure .create cluster).Agrees
      (gated cluster (.desired cluster bundle.cloudConfigVersion)
        config.guestUpdateEnabled).environment.engine
      (Parting cluster (.desired cluster bundle.cloudConfigVersion))
      (r'.ensure .create cluster) h := by
  refine Program.Agrees.bind ?_ _
  show Action.Agrees _ _ (r.pass .create cluster) (r'.pass .create cluster) .none h
  rw [Reconciler.pass, Reconciler.pass, hr, hr']
  have hstart : ∀ allowed', (Operator.startPass allowed' cluster >>= fun context =>
      runResources .create context cluster (Operator.resources config bundle).resources) =
      (do
        let answer ← Cloud.guestClients cluster.id
        Cloud.orFail ("create AWS clients for cluster " ++ cluster.id) answer) >>= fun _ =>
          runResources .create ⟨allowed'⟩ cluster (Operator.resources config bundle).resources := by
    intro allowed'
    simp only [Operator.startPass, bind_assoc, pure_bind]
  show Action.Agrees _ _ (Operator.startPass config.guestUpdateEnabled cluster >>= fun context =>
      runResources .create context cluster (Operator.resources config bundle).resources)
    (Operator.startPass allowed' cluster >>= fun context =>
      runResources .create context cluster (Operator.resources config bundle).resources) _ _
  rw [hstart, hstart]
  refine Does.agrees (F := fun _ _ => True) (Admits.does (.bind (.quiet takes_quiet rfl)
    fun _ => .orFail _) fun _ _ _ => trivial) fun _ h₀ _ _ => ?_
  refine agrees_runResources_cons rfl ((admits_key takes_quiet).does fun _ _ _ => trivial)
    fun h₁ _ _ => ?_
  refine agrees_runResources_cons rfl ((admits_bucket takes_quiet).does fun _ _ _ => trivial)
    fun h₂ _ _ => ?_
  refine agrees_runResources_cons rfl (admits_volumes.does fun _ _ _ => trivial) fun h₃ _ _ => ?_
  exact agrees_runResources_head rfl (agrees_stack allowed' rfl)

theorem desires_of_bundleFor (hb : config.bundleFor cluster = .ok bundle) :
    config.Desires cluster (.desired cluster bundle.cloudConfigVersion) :=
  ⟨bundle, (Config.mem_of_bundleFor hb).1, (Config.mem_of_bundleFor hb).2, rfl⟩

theorem ensure_of_no_bundle {e : Error} (hr : Operator.reconciler config = .ok r)
    (hb : config.bundleFor cluster = .error e) :
    r.ensure .create cluster = .pure (.error e) := by
  have hroute : r.router.route cluster = .error e := by
    rw [Operator.route_of_reconciler hr cluster, hb]
    rfl
  rw [Reconciler.ensure, Reconciler.pass, hroute]
  rfl

/-- A pass that creates a cluster heeds what the pass of each bundle heeds. -/
theorem heeded_of_reaches {takes : Cloud.Call → List Exchange → Prop}
    (hr : Operator.reconciler config = .ok r)
    (htakes : ∀ bundle, config.bundleFor cluster = .ok bundle →
      r.router.route cluster = .ok (Operator.bundleSet config bundle) →
      ∃ takes', (recording takes').Reaches True (r.ensure .create cluster) (fun _ => True) [] ∧
        ∀ x before, takes' x before → takes x before)
    {o : Option (Except Error Unit)}
    (hl : (r.ensure .create cluster).Leads anyCloud.environment.engine [] o h) :
    Heeded takes h := by
  cases hb : config.bundleFor cluster with
  | error e =>
    rw [ensure_of_no_bundle hr hb] at hl
    have hh : h = [] := by cases hl <;> rfl
    subst hh
    intro before _ _ heq
    cases before <;> cases heq
  | ok bundle =>
    have hroute : r.router.route cluster = .ok (Operator.bundleSet config bundle) := by
      rw [Operator.route_of_reconciler hr cluster, hb]
      rfl
    obtain ⟨takes', hreaches, hmono⟩ := htakes bundle hb hroute
    exact (Recording.heeded hreaches hl).mono hmono

/-- Every pass that creates a cluster goes through the gate. -/
theorem heeded (hr : Operator.reconciler config = .ok r) {o : Option (Except Error Unit)}
    (hl : (r.ensure .create cluster).Leads anyCloud.environment.engine [] o h) :
    Heeded (fun x before => ∃ desired, config.Desires cluster desired ∧
      Opens cluster desired config.guestUpdateEnabled x before) h :=
  heeded_of_reaches hr (fun _ hb hroute => ⟨_, reaches_end rfl hroute, fun _ _ hx =>
    ⟨_, desires_of_bundleFor hb, hx⟩⟩) hl

theorem agrees_of_reconciler {allowed' : Bool} (hr : Operator.reconciler config = .ok r)
    (hr' : Operator.reconciler { config with guestUpdateEnabled := allowed' } = .ok r') :
    (r.ensure .create cluster).Agrees anyCloud.environment.engine
      (fun h => ∃ desired, config.Desires cluster desired ∧ Parting cluster desired h)
      (r'.ensure .create cluster) h := by
  cases hb : config.bundleFor cluster with
  | error e =>
    rw [ensure_of_no_bundle hr hb, ensure_of_no_bundle hr' hb]
    exact .same _ h
  | ok bundle =>
    have hroute : r.router.route cluster = .ok (Operator.bundleSet config bundle) := by
      rw [Operator.route_of_reconciler hr cluster, hb]
      rfl
    have hroute' : r'.router.route cluster =
        .ok (Operator.bundleSet { config with guestUpdateEnabled := allowed' } bundle) := by
      rw [Operator.route_of_reconciler hr' cluster]
      exact congrArg (Except.map _) hb
    exact (agrees_pass hroute hroute').mono (fun _ _ _ _ hr => hr) fun h hp =>
      ⟨_, desires_of_bundleFor hb, hp⟩

end UpdateGate

end ClusterKeeper
