import ClusterKeeper.Proofs.Launching
import ClusterKeeper.Proofs.Routing
import ClusterKeeper.Proofs.UpdateGate

/-!
# Updates and the permission for them

From the configuration file and the command line to every single call: without
permission no machine is touched and a stack is scaled at most, and with it
nothing happens to a stack whose outputs give no reason.
-/

set_option autoImplicit false

namespace ClusterKeeper

open Memory

structure StackState.DiffersInWorkersOnly (current desired : StackState) : Prop where
  masterImageId : current.masterImageId = desired.masterImageId
  masterInstanceType : current.masterInstanceType = desired.masterInstanceType
  masterCloudConfigVersion : current.masterCloudConfigVersion = desired.masterCloudConfigVersion
  workerImageId : current.workerImageId = desired.workerImageId
  workerInstanceType : current.workerInstanceType = desired.workerInstanceType
  workerCloudConfigVersion : current.workerCloudConfigVersion = desired.workerCloudConfigVersion
  versionBundleVersion : current.versionBundleVersion = desired.versionBundleVersion
  workerCount : current.workerCount ≠ desired.workerCount

def StackState.Outdated (current desired : StackState) : Prop :=
  current.masterInstanceType ≠ desired.masterInstanceType ∨
    current.workerInstanceType ≠ desired.workerInstanceType ∨
    current.versionBundleVersion ≠ desired.versionBundleVersion ∨
    current.workerCount ≠ desired.workerCount

theorem StackState.differs_of_scale {current desired : StackState} {allowed : Bool}
    (h : current.decide desired allowed = .scale) : current.DiffersInWorkersOnly desired := by
  unfold StackState.decide at h
  split at h
  · next hs =>
    simp only [needsScaling, Bool.and_eq_true, decide_eq_true_eq] at hs
    obtain ⟨⟨⟨⟨⟨⟨⟨h₁, h₂⟩, h₃⟩, h₄⟩, h₅⟩, h₆⟩, h₇⟩, h₈⟩ := hs
    exact ⟨h₁, h₂, h₃, h₄, h₅, h₆, h₇, h₈⟩
  · split at h <;> cases h

/-- An update takes permission and a reason. -/
theorem StackState.outdated_of_update {current desired : StackState} {allowed : Bool}
    (h : current.decide desired allowed = .update) :
    allowed = true ∧ current.Outdated desired := by
  unfold StackState.decide at h
  split at h
  · cases h
  · split at h
    · next hu =>
      simp only [needsUpdate, Bool.and_eq_true, Bool.or_eq_true, decide_eq_true_eq] at hu
      obtain ⟨((h₁ | h₂) | h₃) | h₄, hallowed⟩ := hu
      · exact ⟨hallowed, .inl h₁⟩
      · exact ⟨hallowed, .inr (.inl h₂)⟩
      · exact ⟨hallowed, .inr (.inr (.inl h₃))⟩
      · exact ⟨hallowed, .inr (.inr (.inr h₄))⟩
    · cases h

def Restrained (file : Config) (cluster : Cluster) (x : Cloud.Call) (before : List Exchange) :
    Prop :=
  ¬IsMachineCall x ∧ (x.isStackUpdate = true → ∃ e ∈ before, ∃ current desired,
    e.Shows cluster current ∧ file.Desires cluster desired ∧ current.DiffersInWorkersOnly desired)

def Warranted (file : Config) (cluster : Cluster) (x : Cloud.Call) (before : List Exchange) :
    Prop :=
  IsMachineCall x ∨ x.isStackUpdate = true → ∃ e ∈ before, ∃ current desired,
    e.Shows cluster current ∧ file.Desires cluster desired ∧ current.Outdated desired

def watched {τ : Type} (answer : (x : Engine.Call Cloud) → τ → Engine.Reply x × τ) :
    (x : Engine.Call Cloud) → τ × List Exchange → Engine.Reply x × (τ × List Exchange)
  | .call x, s =>
    let (r, t) := answer (.call x) s.1
    (r, t, s.2 ++ [⟨x, r⟩])
  | x, s =>
    let (r, t) := answer x s.1
    (r, t, s.2)

/-- What the permission decides of the passes that create a cluster. -/
structure Gated (file : Config) (allowed : Bool) (r : Reconciler Cloud Cluster)
    (cluster : Cluster) : Prop where
  restrained : allowed = false → ∀ o h,
    (r.ensure .create cluster).Leads anyCloud.environment.engine [] o h →
      Heeded (Restrained file cluster) h
  warranted : allowed = true → ∀ o h,
    (r.ensure .create cluster).Leads anyCloud.environment.engine [] o h →
      Heeded (Warranted file cluster) h
  alike : ∀ s' a' r' file', Launch.start s' a' = .ok r' → Launch.Finds s' a'.configFile file' →
    { file' with guestUpdateEnabled := file.guestUpdateEnabled } = file →
    ∀ (τ : Type) (answer : (x : Engine.Call Cloud) → τ → Engine.Reply x × τ) (t : τ),
      (r.ensure .create cluster).run (watched answer) (t, []) =
          (r'.ensure .create cluster).run (watched answer) (t, []) ∨
        Launch.updatesAllowed a' file' ≠ allowed ∧
        ∃ before e current desired,
          before ++ [e] <+: ((r.ensure .create cluster).run (watched answer) (t, [])).2.2 ∧
          before ++ [e] <+: ((r'.ensure .create cluster).run (watched answer) (t, [])).2.2 ∧
          e.Shows cluster current ∧ file.Desires cluster desired ∧
          current.decide desired true = .update

theorem watched_answers {τ : Type} (answer : (x : Engine.Call Cloud) → τ → Engine.Reply x × τ)
    (x : Engine.Call Cloud) (s : τ × List Exchange) :
    anyCloud.environment.engine.Answers x s.2 (watched answer x s).1 (watched answer x s).2.2 := by
  cases x with
  | patience => exact ⟨rfl, .inl trivial⟩
  | _ => rfl

theorem watched_grows {τ : Type} (answer : (x : Engine.Call Cloud) → τ → Engine.Reply x × τ)
    (x : Engine.Call Cloud) (s : τ × List Exchange) : s.2 <+: (watched answer x s).2.2 := by
  cases x with
  | call x => exact List.prefix_append _ _
  | _ => exact List.prefix_refl _

theorem restrained_of_opens {file : Config} {cluster : Cluster} {desired : StackState}
    {x : Cloud.Call} {before : List Exchange} (hdesired : file.Desires cluster desired)
    (h : UpdateGate.Opens cluster desired false x before) : Restrained file cluster x before := by
  have hnone : ¬UpdateGate.Decided cluster desired false .update before := by
    rintro ⟨e, current, -, -, hd⟩
    cases (StackState.outdated_of_update hd).1
  constructor
  · exact fun hm => hnone (h.machines hm)
  · intro hu
    obtain ⟨decision, hk, e, current, he, hs, hd⟩ := h.updates hu
    cases decision with
    | keep => exact absurd rfl hk
    | scale =>
      exact ⟨e, List.mem_of_find?_eq_some he, current, desired, hs, hdesired,
        StackState.differs_of_scale hd⟩
    | update => exact absurd ⟨e, current, he, hs, hd⟩ hnone

theorem warranted_of_opens {file : Config} {cluster : Cluster} {desired : StackState}
    {allowed : Bool} {x : Cloud.Call} {before : List Exchange}
    (hdesired : file.Desires cluster desired)
    (h : UpdateGate.Opens cluster desired allowed x before) : Warranted file cluster x before := by
  have hupdate : UpdateGate.Decided cluster desired allowed .update before →
      ∃ e ∈ before, ∃ current desired, e.Shows cluster current ∧ file.Desires cluster desired ∧
        current.Outdated desired := by
    rintro ⟨e, current, he, hs, hd⟩
    exact ⟨e, List.mem_of_find?_eq_some he, current, desired, hs, hdesired,
      (StackState.outdated_of_update hd).2⟩
  rintro (hm | hu)
  · exact hupdate (h.machines hm)
  · obtain ⟨decision, hk, e, current, he, hs, hd⟩ := h.updates hu
    cases decision with
    | keep => exact absurd rfl hk
    | scale =>
      have hcount := (StackState.differs_of_scale hd).workerCount
      exact ⟨e, List.mem_of_find?_eq_some he, current, desired, hs, hdesired,
        .inr (.inr (.inr hcount))⟩
    | update => exact hupdate ⟨e, current, he, hs, hd⟩

theorem alike_of_reconciler {config : Config} {allowed' : Bool} {r r' : Reconciler Cloud Cluster}
    {cluster : Cluster} (hr : Operator.reconciler config = .ok r)
    (hr' : Operator.reconciler { config with guestUpdateEnabled := allowed' } = .ok r')
    {τ : Type} (answer : (x : Engine.Call Cloud) → τ → Engine.Reply x × τ) (t : τ) :
    (r.ensure .create cluster).run (watched answer) (t, []) =
        (r'.ensure .create cluster).run (watched answer) (t, []) ∨
      allowed' ≠ config.guestUpdateEnabled ∧
      ∃ before e current desired,
        before ++ [e] <+: ((r.ensure .create cluster).run (watched answer) (t, [])).2.2 ∧
        before ++ [e] <+: ((r'.ensure .create cluster).run (watched answer) (t, [])).2.2 ∧
        e.Shows cluster current ∧ config.Desires cluster desired ∧
        current.decide desired true = .update := by
  by_cases hallowed : allowed' = config.guestUpdateEnabled
  · subst hallowed
    cases hr.symm.trans hr'
    exact .inl rfl
  apply (Program.Agrees.run (S := Engine Cloud) (watched answer) Prod.snd
    (UpdateGate.agrees_of_reconciler hr hr')
    List.prefix_refl List.IsPrefix.trans (watched_grows answer) (watched_answers answer) (t, [])
    rfl).imp_right
  rintro ⟨_, ⟨desired, hdesired, before, e, current, rfl, hs, hd⟩, hp, hp'⟩
  exact ⟨hallowed, before, e, current, desired, hp, hp', hs, hdesired, hd⟩

theorem gated_of_reconciler {file : Config} {a : RunArguments} {r : Reconciler Cloud Cluster}
    (hr : Operator.reconciler (Launch.override a file) = .ok r) (cluster : Cluster) :
    Gated file (Launch.updatesAllowed a file) r cluster where
  restrained hallowed o h hl := by
    refine (UpdateGate.heeded hr hl).mono ?_
    rintro x before ⟨desired, hdesired, hx⟩
    exact restrained_of_opens hdesired (hallowed ▸ hx)
  warranted _ o h hl := by
    refine (UpdateGate.heeded hr hl).mono ?_
    rintro x before ⟨desired, hdesired, hx⟩
    exact warranted_of_opens hdesired hx
  alike s' a' r' file' hs' hf' hsame τ answer t := by
    obtain ⟨found, hfound, hr'⟩ := Launch.finds_of_start hs'
    cases hfound.unique hf'
    have hoverride : Launch.override a' file' = { Launch.override a file with
        guestUpdateEnabled := Launch.updatesAllowed a' file' } :=
      congrArg (fun c : Config => { c with
        guestUpdateEnabled := Launch.updatesAllowed a' file' }) hsame
    exact alike_of_reconciler hr (hoverride ▸ hr') answer t

/-- Whatever the cloud answers, and however its answers change. -/
theorem update_gate (s : Launch.Surroundings) (a : RunArguments) (r : Reconciler Cloud Cluster)
    (hstart : Launch.start s a = .ok r) (cluster : Cluster) :
    ∃ file, Launch.Finds s a.configFile file ∧
      Gated file (Launch.updatesAllowed a file) r cluster := by
  obtain ⟨file, hfile, hr⟩ := Launch.finds_of_start hstart
  exact ⟨file, hfile, gated_of_reconciler hr cluster⟩

theorem update_gate_trial :
    ∃ r, Launch.start Trial.surroundings Trial.arguments = .ok r ∧
      ∃ file, Launch.Finds Trial.surroundings Trial.arguments.configFile file ∧
        Gated file (Launch.updatesAllowed Trial.arguments file) r Trial.cluster := by
  obtain ⟨r, hr⟩ := Trial.starts
  exact ⟨r, hr, update_gate Trial.surroundings Trial.arguments r hr Trial.cluster⟩

end ClusterKeeper
