import ClusterKeeper.Proofs.Courses
import ClusterKeeper.Proofs.StackTransitions

/-!
# Scaling and the master

An update that no retirement of volumes comes before is one that scales. Of all that
the outputs say it leaves the name of the master out of account, so the master stays
only if this is the name that its other outputs make.
-/

set_option autoImplicit false

namespace ClusterKeeper

open Memory

def JustRetired (policy : RetryPolicy) (cluster : Cluster) (h : List Exchange) : Prop :=
  ∃ earlier listing done,
    h = earlier ++
      ⟨.describeVolumes [.tag (Names.ownershipTag cluster.id) Names.owned], listing⟩ :: done ∧
    Each (Volumes.Retired policy) (Volumes.etcdAmong cluster.id listing) done

def Renders (cluster : Cluster) (state : StackState) (body : String) (h : List Exchange) : Prop :=
  ∃ account, (⟨.renderTemplate account cluster state, Except.ok body⟩ : Exchange) ∈ h

theorem Renders.moves {cluster : Cluster} {state : StackState} {body : String}
    {h h' : List Exchange} (hr : Renders cluster state body h) (hm : h <+: h') :
    Renders cluster state body h' := by
  obtain ⟨account, hr⟩ := hr
  exact ⟨account, hm.subset hr⟩

structure Rendition (config : Config) (cluster : Cluster) (body : String) (h : List Exchange)
    (current desired : StackState) : Prop where
  read : ∃ e, firstDescription h = some e ∧ e.Shows cluster current
  wanted : config.Desires cluster desired
  rendered : Renders cluster desired body h

/-- Whether the output with the name of the master is the name of a master with the image, the
type and the configuration that are in the other outputs. -/
def StackState.NamesItsMaster (s : StackState) : Prop :=
  s.masterInstanceResourceName =
    MasterName.ofParts s.masterImageId s.masterInstanceType s.masterCloudConfigVersion

def Scales (config : Config) (cluster : Cluster) (x : Cloud.Call) (before : List Exchange) : Prop :=
  ∀ account name body, x = .updateStack account name body →
    ¬JustRetired config.volumeDeletionPolicy cluster before →
    ∃ current desired, Rendition config cluster body before current desired ∧
      current.DiffersInWorkersOnly desired ∧
      (current.masterInstanceResourceName = desired.masterInstanceResourceName ↔
        current.NamesItsMaster)

namespace Scaling

open Discipline Recording UpdateGate

def Sends (policy : RetryPolicy) (cluster : Cluster) (desired : StackState) (allowed : Bool)
    (x : Cloud.Call) (h : List Exchange) : Prop :=
  ∀ account name body, x = .updateStack account name body →
    Renders cluster desired body h ∧
      (JustRetired policy cluster h ∨ Decided cluster desired allowed .scale h)

variable {policy volumePolicy : RetryPolicy} {cluster : Cluster} {desired : StackState}
  {allowed : Bool} {x : Cloud.Call} {h h' : List Exchange} {c : Cancellation}
  {cloudConfigVersion body : String}

theorem sends_of_other (hx : x.isStackUpdate = false) (h : List Exchange) :
    Sends policy cluster desired allowed x h := by
  rintro account name body rfl
  cases hx

theorem takes_quiet : Takes (Sends policy cluster desired allowed)
    (fun x => x.isQuiet = true) h := fun _ hx h' _ =>
  sends_of_other (Cloud.Call.not_stackChange_of_quiet hx).2 h'

theorem takes_machines : Takes (Sends policy cluster desired allowed) IsMachineCall h :=
  fun _ hx h' _ => sends_of_other (Cloud.Call.not_stackChange_of_machine hx).2 h'

theorem does_body : (recording (Sends policy cluster desired allowed)).Does True
    (lookUpAccount >>= MainStack.render cluster desired)
    (fun body h' => Renders cluster desired body h') c h := by
  refine .bind ((admits_lookUpAccount takes_quiet).does fun _ _ _ => trivial)
    fun account h₁ _ _ => ?_
  have hcall : (recording (Sends policy cluster desired allowed)).Does True
      (Cloud.renderTemplate account cluster desired) (fun r h' => h' =
        h₁ ++ [⟨.renderTemplate account cluster desired, r⟩]) c h₁ :=
    .call (sends_of_other rfl h₁) fun _ _ hr => ⟨⟨_, hr.symm⟩, hr⟩
  refine .bind hcall fun answer h₂ _ hr => ?_
  cases answer with
  | ok body => exact .pure ⟨account, hr ▸ List.mem_append_right _ List.mem_cons_self⟩
  | error source => exact .throw trivial

/-- Whatever comes of the volumes, they have been retired by then. -/
theorem does_retireEtcd : (recording (Sends policy cluster desired allowed)).Does True
    (Volumes.retireEtcd volumePolicy cluster.id) (fun _ h' => JustRetired volumePolicy cluster h')
    c h := by
  refine (does_of_yields (admits_retireEtcd takes_machines cluster.id)
    (Volumes.retireEtcd_yields volumePolicy cluster.id)).imp ?_
  rintro _ _ - ⟨t, rfl, -, listing, done, ht, hretired⟩
  exact ⟨h, listing, done, by rw [ht], hretired⟩

theorem does_submit (request : UpdateRequest) (hr : Renders cluster desired request.body h)
    (hd : JustRetired policy cluster h ∨ Decided cluster desired allowed .scale h) :
    (recording (Sends policy cluster desired allowed)).Does True (MainStack.submit request)
      (fun _ _ => True) c h := by
  have hcall : (recording (Sends policy cluster desired allowed)).Does True
      (Cloud.updateStack .guest request.stack request.body) (fun _ _ => True) c h := by
    refine .call ?_ fun _ _ hr => ⟨⟨_, hr.symm⟩, trivial⟩
    rintro _ _ _ ⟨⟩
    exact ⟨hr, hd⟩
  exact .bind hcall fun _ _ _ _ => (Admits.orFail _).does fun _ _ _ => trivial

theorem does_applyUpdate {decision : Decision}
    (hd : Decided cluster desired allowed decision h) (hr : Renders cluster desired body h) :
    (recording (Sends policy cluster desired allowed)).Does True
      (MainStack.applyUpdate policy cluster (MainStack.updateChange desired decision body))
      (fun _ _ => True) c h := by
  cases decision with
  | keep => exact .pure trivial
  | scale => exact does_submit ⟨desired.name, body⟩ hr (.inr hd)
  | update =>
    exact .bind does_retireEtcd fun _ h' hm hretired =>
      does_submit ⟨desired.name, body⟩ (hr.moves hm) (.inl hretired)

theorem does_updatePatch {current : StackState} (hk : Known cluster current h) :
    (recording (Sends policy cluster desired allowed)).Does True
      ((MainStack.resource cloudConfigVersion policy).updatePatch ⟨allowed⟩ cluster current desired)
      (fun p h => (recording (Sends policy cluster desired allowed)).Carries True
        (MainStack.resource cloudConfigVersion policy) ⟨allowed⟩ cluster (fun _ _ => True) c h p)
      c h := by
  apply mainStack_updatePatch (fun _ => trivial) does_body
  intro ho body h₁ h₂ hm₁ hbody hm₂
  exact does_applyUpdate ((hk.moves (hm₁.trans hm₂)).decided ho) (hbody.moves hm₂)

theorem admits_createStack {context : PassContext} {state : StackState} :
    Admits (Sends policy cluster desired allowed)
      ((MainStack.resource cloudConfigVersion volumePolicy).applyCreate context cluster state)
      h := by
  refine .bind (admits_lookUpAccount takes_quiet) fun account => ?_
  refine .bind (admits_render takes_quiet state account) fun body => ?_
  exact .bind (.call fun h' _ => sends_of_other rfl h') fun _ => .orFail _

variable {config : Config} {bundle : VersionBundle} {r : Reconciler Cloud Cluster}

theorem reaches_end (hn : firstDescription h = none)
    (hr : r.router.route cluster = .ok (Operator.bundleSet config bundle)) :
    (recording (Sends config.volumeDeletionPolicy cluster
      (.desired cluster bundle.cloudConfigVersion) config.guestUpdateEnabled)).Reaches True
        (r.ensure .create cluster) (fun _ => True) h :=
  reaches_of_stack (fun _ => takes_quiet) (fun _ => sends_of_other rfl)
    (fun h hn => does_stack hn (sends_of_other rfl h) (fun _ _ _ _ => admits_createStack)
      fun _ _ hk => does_updatePatch hk) hn hr

/-- The wanted name is made from what else is wanted. -/
theorem namesItsMaster_of_desires (hd : config.Desires cluster desired) :
    desired.NamesItsMaster := by
  obtain ⟨bundle, -, -, rfl⟩ := hd
  rfl

theorem name_eq_iff {current : StackState} (hd : config.Desires cluster desired)
    (hdiff : current.DiffersInWorkersOnly desired) :
    current.masterInstanceResourceName = desired.masterInstanceResourceName ↔
      current.NamesItsMaster := by
  have hname := namesItsMaster_of_desires hd
  rw [StackState.NamesItsMaster] at hname ⊢
  rw [hname, hdiff.masterImageId, hdiff.masterInstanceType, hdiff.masterCloudConfigVersion]

theorem scales_of_sends (hd : config.Desires cluster desired)
    (hx : Sends config.volumeDeletionPolicy cluster desired allowed x h) :
    Scales config cluster x h := by
  intro account name body heq hretired
  obtain ⟨hrendered, hdecided⟩ := hx account name body heq
  obtain ⟨e, current, he, hs, hdecision⟩ := hdecided.resolve_left hretired
  have hdiff := StackState.differs_of_scale hdecision
  exact ⟨current, desired, ⟨⟨e, he, hs⟩, hd, hrendered⟩, hdiff, name_eq_iff hd hdiff⟩

end Scaling

/-- Whatever the cloud answers, the outputs of the stack included. -/
theorem scaled_by_outputs {config : Config} {r : Reconciler Cloud Cluster}
    (hr : Operator.reconciler config = .ok r) (cluster : Cluster) :
    ∀ o h, (r.ensure .create cluster).Leads anyCloud.environment.engine [] o h →
      Heeded (Scales config cluster) h := fun _ _ hl =>
  UpdateGate.heeded_of_reaches hr (fun _ hb hroute => ⟨_, Scaling.reaches_end rfl hroute,
    fun _ _ hx => Scaling.scales_of_sends (UpdateGate.desires_of_bundleFor hb) hx⟩) hl

namespace Trial

def understaffed : Stack where
  name := Names.guestMainStack "a1b2c"
  status := .updateComplete
  outputs :=
    [("MasterImageID", "ami-1"), ("MasterInstanceType", "m5.large"),
     ("MasterCloudConfigVersion", "v1"), ("MasterInstanceResourceName", "MasterInstance0a1b2c3d"),
     ("WorkerCount", "2"), ("WorkerImageID", "ami-1"), ("WorkerInstanceType", "m5.xlarge"),
     ("WorkerCloudConfigVersion", "v1"), ("VersionBundleVersion", "1.0.0")]

def smallStores : Stores :=
  { stores with guest := { stores.guest with
      present := (∅ : Table Stack).insert (Names.guestMainStack "a1b2c") understaffed } }

def growth : Option (Except Error Unit) × Stores × List Exchange :=
  (operator.ensure .create cluster).run (watched (Engine.rehearse (S := Cloud)
    (Stores.answer (Sandbox.conduct false)) fun _ s => s)) (smallStores, [])

theorem growth_leads : (operator.ensure .create cluster).Leads anyCloud.environment.engine []
    growth.1 growth.2.2 :=
  Program.Leads.of_run Prod.snd _ (watched_answers _) (operator.ensure .create cluster)
    (smallStores, [])

theorem growth_tells : Tells cluster growth.2.2 (.ok understaffed) := by
  with_unfolding_all rfl

theorem growth_updates : growth.2.2.any (fun e => e.call.isStackUpdate) = true := by
  with_unfolding_all rfl

theorem growth_spares :
    growth.2.2.all (fun e => Sandbox.service? e.call ≠ some .machines) = true := by
  with_unfolding_all rfl

/-- The pass scales, and no volume was looked for before it did. -/
theorem growth_scales : ∃ before after account name body reply,
    growth.2.2 = before ++ ⟨.updateStack account name body, reply⟩ :: after ∧
      ¬JustRetired config.volumeDeletionPolicy cluster before := by
  obtain ⟨⟨x, reply⟩, he, hx⟩ := List.any_eq_true.mp growth_updates
  obtain ⟨before, after, heq⟩ := List.append_of_mem he
  cases x with
  | updateStack account name body =>
    refine ⟨before, after, account, name, body, reply, heq, ?_⟩
    rintro ⟨earlier, listing, done, rfl, -⟩
    have hlisted := List.all_eq_true.mp growth_spares
      ⟨.describeVolumes [.tag (Names.ownershipTag cluster.id) Names.owned], listing⟩
      (by rw [heq]; grind)
    exact absurd rfl (of_decide_eq_true hlisted)
  | _ => cases hx

theorem masterName_ne : MasterName.ofParts "ami-1" "m5.large" "v1" ≠ "MasterInstance0a1b2c3d" := by
  decide +kernel

/-- What the outputs say of the master is not what is wanted of it. -/
theorem growth_names {before : List Exchange} {current desired : StackState} {body : String}
    (hm : before <+: growth.2.2) (hr : Rendition config cluster body before current desired) :
    current.masterInstanceResourceName ≠ desired.masterInstanceResourceName := by
  obtain ⟨e, he, stack, rfl, -, hcurrent, -⟩ := hr.read
  have hstack : Tells cluster growth.2.2 (.ok stack) := Tells.moves he hm
  cases hstack.unique growth_tells
  have hname : current.masterInstanceResourceName = "MasterInstance0a1b2c3d" := by
    cases hcurrent
    rfl
  obtain ⟨bundle, hb, -, hdesired⟩ := hr.wanted
  obtain rfl := List.mem_singleton.mp hb
  rw [hname, hdesired]
  exact masterName_ne.symm

end Trial

theorem scaled_by_outputs_trial :
    Operator.reconciler Trial.config = .ok Trial.operator ∧
      Heeded (Scales Trial.config Trial.cluster) Trial.growth.2.2 ∧
      ∃ before after account name body reply,
        Trial.growth.2.2 = before ++ ⟨.updateStack account name body, reply⟩ :: after ∧
        ¬JustRetired Trial.config.volumeDeletionPolicy Trial.cluster before :=
  ⟨Trial.reconciler_eq, scaled_by_outputs Trial.reconciler_eq Trial.cluster _ _ Trial.growth_leads,
    Trial.growth_scales⟩

/-- Not every update that scales is for a template with the master that the stack has. -/
theorem scaling_renames_master :
    ¬∀ (config : Config) (r : Reconciler Cloud Cluster) (cluster : Cluster),
      Operator.reconciler config = .ok r →
      ∀ o h, (r.ensure .create cluster).Leads anyCloud.environment.engine [] o h →
      ∀ before after account name body reply,
        h = before ++ ⟨.updateStack account name body, reply⟩ :: after →
        ¬JustRetired config.volumeDeletionPolicy cluster before →
        ∃ current desired, Rendition config cluster body before current desired ∧
          current.masterInstanceResourceName = desired.masterInstanceResourceName := by
  intro hall
  obtain ⟨before, after, account, name, body, reply, heq, hretired⟩ := Trial.growth_scales
  obtain ⟨current, desired, hr, hname⟩ := hall Trial.config Trial.operator Trial.cluster
    Trial.reconciler_eq _ _ Trial.growth_leads before after account name body reply heq hretired
  exact Trial.growth_names (heq ▸ List.prefix_append _ _) hr hname

end ClusterKeeper
