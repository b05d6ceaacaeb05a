import ClusterKeeper.Proofs.PendingUpdates
import ClusterKeeper.Proofs.Scaling
import Mathlib.Data.List.Induction

/-!
# Convergence

A stack whose outputs say what is wanted of it is left alone. If an update that is
accepted, and nothing else, makes the outputs say what its template was rendered from,
a cluster takes at most one of them, however many passes there are.
-/

set_option autoImplicit false

namespace ClusterKeeper

open Memory

namespace StackState

def outputs (s : StackState) : List (String × String) :=
  [("MasterImageID", s.masterImageId), ("MasterInstanceType", s.masterInstanceType),
   ("MasterCloudConfigVersion", s.masterCloudConfigVersion),
   ("MasterInstanceResourceName", s.masterInstanceResourceName), ("WorkerCount", s.workerCount),
   ("WorkerImageID", s.workerImageId), ("WorkerInstanceType", s.workerInstanceType),
   ("WorkerCloudConfigVersion", s.workerCloudConfigVersion),
   ("VersionBundleVersion", s.versionBundleVersion)]

def RecordedIn (s : StackState) (outputs : String → Option String) : Prop :=
  ∀ p ∈ s.outputs, outputs p.1 = some p.2

def readable (s : StackState) (name : String) : StackState :=
  { s with
    name
    masterMonitoring := false
    workerMonitoring := false
    shouldScale := false
    shouldUpdate := false
    updateRequest := none }

theorem ofOutputs_of_recorded {s : StackState} {o : StackOutputs}
    (h : s.RecordedIn fun key => lastValue? key o.pairs) (name : String) :
    ofOutputs o name = .ok (s.readable name) := by
  have hget : ∀ p ∈ s.outputs, o.get p.1 = .ok p.2 := by
    intro p hp
    have hvalue : lastValue? p.1 o.pairs = some p.2 := h p hp
    rw [StackOutputs.get, hvalue]
  simp only [outputs, List.forall_mem_cons] at hget
  obtain ⟨h₁, h₂, h₃, h₄, h₅, h₆, h₇, h₈, h₉, -⟩ := hget
  rw [ofOutputs, h₁, h₂, h₃, h₄, h₅, h₆, h₇, h₈, h₉]
  rfl

/-- What cannot be read does not count. -/
theorem decide_readable (s : StackState) (name : String) (allowed : Bool) :
    (s.readable name).decide s allowed = .keep := by
  simp [decide, needsScaling, needsUpdate, readable]

theorem recordedIn_outputs (s : StackState) : s.RecordedIn fun key => lastValue? key s.outputs := by
  simp only [RecordedIn, outputs, List.forall_mem_cons]
  exact ⟨rfl, rfl, rfl, rfl, rfl, rfl, rfl, rfl, rfl, nofun⟩

end StackState

inductive Shown (outputs : String → Option String) : Except CloudError Stack → Prop where
  | read {stack : Stack} (hs : stack.status.outputsAccessible = true)
      (ho : ∀ key, lastValue? key stack.outputs = outputs key) : Shown outputs (.ok stack)
  | failed {failure : CloudError} (hf : failure.isNotFound = false) : Shown outputs (.error failure)

inductive StackStep (cluster : Cluster) (before : List Exchange)
    (outputs : String → Option String) : Exchange → (String → Option String) → Prop where
  | described {answer : Except CloudError Stack} (h : Shown outputs answer) :
      StackStep cluster before outputs
        ⟨.describeStack .guest (Names.guestMainStack cluster.id), answer⟩ outputs
  | updated {body : String} {outputs' : String → Option String}
      (h : ∀ object state, Renders object state body before →
        ∀ key, outputs' key = (lastValue? key state.outputs).or (outputs key)) :
      StackStep cluster before outputs
        ⟨.updateStack .guest (Names.guestMainStack cluster.id) body, Except.ok ()⟩ outputs'
  | other {e : Exchange}
      (hd : e.call ≠ .describeStack .guest (Names.guestMainStack cluster.id))
      (hu : e.accepts = true →
        ∀ body, e.call ≠ .updateStack .guest (Names.guestMainStack cluster.id) body) :
      StackStep cluster before outputs e outputs

inductive StackRun (cluster : Cluster) (initial : String → Option String) :
    List Exchange → (String → Option String) → Prop where
  | start : StackRun cluster initial [] initial
  | next {h : List Exchange} {outputs outputs' : String → Option String} {e : Exchange}
      (hrun : StackRun cluster initial h outputs) (hs : StackStep cluster h outputs e outputs') :
      StackRun cluster initial (h ++ [e]) outputs'

def CreationPass (config : Config) (spec : ClusterSpec) (h : List Exchange) : Prop :=
  ∃ allowed r cluster o,
    Operator.reconciler { config with guestUpdateEnabled := allowed } = .ok r ∧
      cluster.spec = spec ∧ (r.ensure .create cluster).Leads anyCloud.environment.engine [] o h

/-- What the passes of a run have in common once an update has been accepted. -/
structure Converges (histories : List (List Exchange)) : Prop where
  once : histories.flatten.countP Exchange.accepts ≤ 1
  rest : Heeded (fun x before => x.Disturbs → ∀ e ∈ before, e.accepts = false) histories.flatten
  later : ∀ earlier later, histories = earlier ++ later →
    (∃ h ∈ earlier, ∃ e ∈ h, e.accepts = true) → ∀ h ∈ later, ∀ e ∈ h, ¬e.call.Disturbs

section

variable {takes : Cloud.Call → List Exchange → Prop} {h h' : List Exchange} {cluster : Cluster}
  {initial outputs outputs' : String → Option String} {e : Exchange}

theorem Heeded.left (hh : Heeded takes (h ++ h')) : Heeded takes h := by
  rintro before e after rfl
  exact hh before e (after ++ h') (by simp)

theorem Heeded.append (hh : Heeded takes h)
    (hh' : ∀ before e after, h' = before ++ e :: after → takes e.call (h ++ before)) :
    Heeded takes (h ++ h') := by
  induction h' using List.reverseRecOn with
  | nil => rwa [List.append_nil]
  | append_singleton h' e ih =>
    rw [← List.append_assoc]
    refine (ih fun before e' after heq => hh' before e' (after ++ [e]) (by simp [heq])).next ?_
    exact hh' h' e [] rfl

/-- If what comes after the first is not accepted, there is one at most. -/
theorem countP_accepts_le_one
    (hh : Heeded (fun x before => x.Disturbs → ∀ e ∈ before, e.accepts = false) h) :
    h.countP Exchange.accepts ≤ 1 := by
  induction h using List.reverseRecOn with
  | nil => exact Nat.zero_le 1
  | append_singleton h e ih =>
    by_cases he : e.accepts = true
    · have hnone := hh h e [] rfl (.inr (.inr (Exchange.isStackUpdate_of_accepts he)))
      have hzero : h.countP Exchange.accepts = 0 :=
        List.countP_eq_zero.mpr fun e' he' => Bool.eq_false_iff.mp (hnone e' he')
      simp [hzero, he]
    · simpa [he] using ih hh.left

theorem StackRun.last (hrun : StackRun cluster initial (h ++ [e]) outputs) :
    ∃ prior, StackRun cluster initial h prior ∧ StackStep cluster h prior e outputs := by
  generalize heq : h ++ [e] = l at hrun
  cases hrun with
  | start => simp at heq
  | next hrun hs =>
    obtain ⟨rfl, hlast⟩ := List.append_inj' heq rfl
    cases hlast
    exact ⟨_, hrun, hs⟩

theorem StackRun.left (hrun : StackRun cluster initial (h ++ h') outputs) :
    ∃ prior, StackRun cluster initial h prior := by
  induction h' using List.reverseRecOn generalizing outputs with
  | nil => exact ⟨outputs, List.append_nil h ▸ hrun⟩
  | append_singleton h' e ih =>
    rw [← List.append_assoc] at hrun
    obtain ⟨prior, hrun, -⟩ := hrun.last
    exact ih hrun

theorem StackStep.kept (hs : StackStep cluster h outputs e outputs') (he : e.accepts = false) :
    outputs' = outputs := by
  cases hs with
  | described => rfl
  | updated => cases he
  | other => rfl

theorem StackStep.shown {answer : Except CloudError Stack} (hs : StackStep cluster h outputs
    ⟨.describeStack .guest (Names.guestMainStack cluster.id), answer⟩ outputs') :
    Shown outputs answer := by
  cases hs with
  | described hshown => exact hshown
  | other hd => exact absurd rfl hd

/-- An update makes the outputs say what it was rendered from. -/
theorem StackStep.recorded {object : Cluster} {desired : StackState} {body : String}
    (hs : StackStep cluster h outputs e outputs') (he : e.accepts = true)
    (hx : e.call = .updateStack .guest (Names.guestMainStack cluster.id) body)
    (hr : Renders object desired body h) : desired.RecordedIn outputs' := by
  cases hs with
  | described => cases hx
  | updated hset =>
    cases hx
    intro p hp
    have hvalue : lastValue? p.1 desired.outputs = some p.2 := desired.recordedIn_outputs p hp
    rw [hset object desired hr, hvalue]
    rfl
  | other _ hu => exact absurd hx (hu he body)

end

namespace Convergence

open UpdateGate

variable {config : Config} {cluster : Cluster} {desired : StackState} {h before : List Exchange}
  {initial start now : String → Option String} {x : Cloud.Call} {stack : Stack}
  {current : StackState}

structure Grounds (cluster : Cluster) (desired : StackState) (x : Cloud.Call)
    (before : List Exchange) : Prop where
  creations : x.isStackCreation = true → ∃ what, Tells cluster before (.error (.notFound what))
  changes : IsMachineCall x ∨ x.isStackUpdate = true →
    ∃ allowed decision, decision ≠ .keep ∧ Decided cluster desired allowed decision before
  updates : x.isStackUpdate = true → ∃ object body,
    x = .updateStack .guest (Names.guestMainStack cluster.id) body ∧
      Renders object desired body before
  pending : x.Disturbs → Pending before

/-- The same is wanted in all passes. -/
theorem grounds_of_passes (config : Config) (cluster : Cluster) :
    ∃ desired, ∀ h, CreationPass config cluster.spec h → Heeded (Grounds cluster desired) h := by
  refine ⟨(config.bundleFor cluster).toOption.elim .absent fun bundle =>
    .desired cluster bundle.cloudConfigVersion, ?_⟩
  rintro h ⟨allowed, r, ⟨metadata, _⟩, o, hr, rfl, hl⟩
  have hawaits := PendingUpdates.heeded hr hl
  have hopens : Heeded (fun x before => ∃ bundle, config.bundleFor cluster = .ok bundle ∧
      Opens ⟨metadata, cluster.spec⟩ (.desired cluster bundle.cloudConfigVersion) allowed x
        before) h := by
    refine heeded_of_reaches hr (fun bundle hb hroute => ?_) hl
    exact ⟨_, reaches_end rfl hroute, fun _ _ hx => ⟨bundle, hb, hx⟩⟩
  have hsends : Heeded (fun x before => ∃ bundle, config.bundleFor cluster = .ok bundle ∧
      Scaling.Sends config.volumeDeletionPolicy ⟨metadata, cluster.spec⟩
        (.desired cluster bundle.cloudConfigVersion) allowed x before) h := by
    refine heeded_of_reaches hr (fun bundle hb hroute => ?_) hl
    exact ⟨_, Scaling.reaches_end rfl hroute, fun _ _ hx => ⟨bundle, hb, hx⟩⟩
  intro before e after heq
  have ha := hawaits before e after heq
  obtain ⟨bundle, hb, ho⟩ := hopens before e after heq
  obtain ⟨_, hb', hs⟩ := hsends before e after heq
  cases hb.symm.trans hb'
  rw [hb]
  refine ⟨ha.creations, ?_, fun hu => ?_, ha.pending⟩
  · rintro (hm | hu)
    · exact ⟨allowed, .update, nofun, ho.machines hm⟩
    · exact ⟨allowed, ho.updates hu⟩
  · obtain ⟨body, hx⟩ := ha.target hu
    exact ⟨_, body, hx, (hs _ _ _ hx).1⟩

structure Along (cluster : Cluster) (desired : StackState) (start now : String → Option String)
    (h : List Exchange) : Prop where
  shown : ∀ answer, Tells cluster h answer → Shown start answer
  kept : (∀ e ∈ h, e.accepts = false) → now = start
  updated : (∃ e ∈ h, e.accepts = true) → desired.RecordedIn now

/-- No update is accepted before the stack is described. -/
theorem none_accepted (hh : Heeded (Grounds cluster desired) h) (hp : Pending h) :
    ∀ e ∈ h, e.accepts = false := by
  intro e he
  refine Bool.eq_false_iff.mpr fun haccepts => ?_
  obtain ⟨before, after, rfl⟩ := List.append_of_mem he
  obtain ⟨-, -, -, e', -, hfirst, -⟩ := (hh before e after rfl).changes
    (.inr (Exchange.isStackUpdate_of_accepts haccepts))
  cases (hp before e after rfl haccepts).symm.trans hfirst

theorem along_of_heeded (hh : Heeded (Grounds cluster desired) h)
    (hrun : StackRun cluster initial (before ++ h) now) :
    ∃ start, StackRun cluster initial before start ∧ Along cluster desired start now h := by
  induction h using List.reverseRecOn generalizing now with
  | nil =>
    refine ⟨now, List.append_nil before ▸ hrun, nofun, fun _ => rfl, ?_⟩
    rintro ⟨e, he, -⟩
    cases he
  | append_singleton h e ih =>
    rw [← List.append_assoc] at hrun
    obtain ⟨prior, hrun, hs⟩ := hrun.last
    obtain ⟨start, hstart, ha⟩ := ih hh.left hrun
    refine ⟨start, hstart, fun answer ht => ?_, fun hnone => ?_, ?_⟩
    · cases hfirst : firstDescription h with
      | some d => exact ha.shown answer (hfirst.trans
          ((firstDescription_moves hfirst (List.prefix_append _ _)).symm.trans ht))
      | none =>
        rw [Tells, firstDescription_append hfirst] at ht
        split at ht
        · cases ht
          rw [← ha.kept (none_accepted hh.left (pending_of_undescribed hfirst))]
          exact hs.shown
        · cases ht
    · obtain ⟨hh', he⟩ := List.forall_mem_append.mp hnone
      rw [hs.kept (he e List.mem_cons_self), ha.kept hh']
    · rintro ⟨e', he', haccepts⟩
      by_cases he : e.accepts = true
      · obtain ⟨object, body, hx, hr⟩ := (hh h e [] rfl).updates
          (Exchange.isStackUpdate_of_accepts he)
        obtain ⟨account, hr⟩ := hr
        exact hs.recorded he hx ⟨account, List.mem_append_right before hr⟩
      · rw [hs.kept (Bool.eq_false_iff.mpr he)]
        rcases List.mem_append.mp he' with he' | he'
        · exact ha.updated ⟨e', he', haccepts⟩
        · cases List.mem_singleton.mp he'
          exact absurd haccepts he

/-- Outputs that say what is wanted call for nothing. -/
theorem not_decided (hs : Shown start (.ok stack)) (hrecorded : desired.RecordedIn start)
    (hcurrent : Exchange.Shows cluster
      ⟨.describeStack .guest (Names.guestMainStack cluster.id), Except.ok stack⟩ current)
    (allowed : Bool) : current.decide desired allowed = .keep := by
  cases hs with
  | read _ ho =>
    obtain ⟨_, heq, -, hread, -⟩ := hcurrent
    cases heq
    have hkeys : desired.RecordedIn fun key => lastValue? key stack.outputs := fun p hp =>
      (ho p.1).trans (hrecorded p hp)
    rw [StackState.ofOutputs_of_recorded (o := ⟨stack.name, stack.outputs⟩) hkeys] at hread
    cases hread
    exact desired.decide_readable _ allowed

/-- A pass disturbs nothing if the outputs said what is wanted when it started. -/
theorem not_recorded (hg : Grounds cluster desired x h) (ha : Along cluster desired start now h)
    (hx : x.Disturbs) : ¬desired.RecordedIn start := by
  intro hrecorded
  have hchange : IsMachineCall x ∨ x.isStackUpdate = true := by
    rcases hx with hm | hc | hu
    · exact .inl hm
    · obtain ⟨what, ht⟩ := hg.creations hc
      cases ha.shown _ ht with
      | failed hf => cases hf
    · exact .inr hu
  obtain ⟨allowed, decision, hk, e, current, hfirst, hs, hd⟩ := hg.changes hchange
  obtain ⟨stack, rfl, -⟩ := id hs
  exact hk (hd.symm.trans (not_decided (ha.shown _ hfirst) hrecorded hs allowed))

/-- From one pass to the next: after an accepted update the outputs say what is wanted, and
then nothing is disturbed. -/
theorem rests_of_passes {histories : List (List Exchange)}
    (hpasses : ∀ h ∈ histories, Heeded (Grounds cluster desired) h)
    (hrun : StackRun cluster initial histories.flatten now) :
    Heeded (fun x before => x.Disturbs → ∀ e ∈ before, e.accepts = false) histories.flatten ∧
      ((∃ e ∈ histories.flatten, e.accepts = true) → desired.RecordedIn now) := by
  induction histories using List.reverseRecOn generalizing now with
  | nil =>
    refine ⟨fun before e after heq => ?_, ?_⟩
    · cases before <;> cases heq
    · rintro ⟨e, he, -⟩
      cases he
  | append_singleton histories h ih =>
    have hpass := hpasses h (List.mem_append_right _ List.mem_cons_self)
    have hearlier : ∀ {now}, StackRun cluster initial histories.flatten now →
        Heeded (fun x before => x.Disturbs → ∀ e ∈ before, e.accepts = false) histories.flatten ∧
          ((∃ e ∈ histories.flatten, e.accepts = true) → desired.RecordedIn now) :=
      ih fun h hh => hpasses h (List.mem_append_left _ hh)
    rw [List.flatten_append, List.flatten_singleton] at hrun ⊢
    obtain ⟨start, hstart, ha⟩ := along_of_heeded hpass hrun
    refine ⟨(hearlier hstart).1.append ?_, ?_⟩
    · rintro before e after rfl hx
      rw [← List.append_assoc] at hrun
      obtain ⟨_, hrun⟩ := hrun.left
      obtain ⟨start, hstart, ha⟩ := along_of_heeded hpass.left hrun
      have hg := hpass before e after rfl
      refine List.forall_mem_append.mpr ⟨fun e' he' => ?_, none_accepted hpass.left (hg.pending hx)⟩
      exact Bool.eq_false_iff.mpr fun haccepts =>
        not_recorded hg ha hx ((hearlier hstart).2 ⟨e', he', haccepts⟩)
    · rintro ⟨e, he, haccepts⟩
      by_cases hsome : ∃ e ∈ h, e.accepts = true
      · exact ha.updated hsome
      have hnone : ∀ e ∈ h, e.accepts = false := fun e he =>
        Bool.eq_false_iff.mpr fun haccepts => hsome ⟨e, he, haccepts⟩
      rw [ha.kept hnone]
      rcases List.mem_append.mp he with he | he
      · exact (hearlier hstart).2 ⟨e, he, haccepts⟩
      · cases (hnone e he).symm.trans haccepts

theorem converges_of_rest {histories : List (List Exchange)}
    (hrest : Heeded (fun x before => x.Disturbs → ∀ e ∈ before, e.accepts = false)
      histories.flatten) : Converges histories := by
  refine ⟨countP_accepts_le_one hrest, hrest, ?_⟩
  rintro earlier later rfl ⟨h, hh, e, he, haccepts⟩ h' hh' e' he' hx
  obtain ⟨before, after, heq⟩ := List.append_of_mem (List.mem_flatten.mpr ⟨h', hh', he'⟩)
  have hnone := hrest (earlier.flatten ++ before) e' after
    (by rw [List.flatten_append, heq, List.append_assoc]) hx e
    (List.mem_append_left _ (List.mem_flatten.mpr ⟨h, hh, he⟩))
  cases hnone.symm.trans haccepts

end Convergence

/-- Whatever else the cloud answers, whatever the outputs say at first, and wherever passes are
left off. -/
theorem stack_converges (config : Config) (cluster : Cluster) :
    (∀ histories initial outputs, (∀ h ∈ histories, CreationPass config cluster.spec h) →
      StackRun cluster initial histories.flatten outputs → Converges histories) ∧
    ∀ (cloudConfigVersion : String) (o : StackOutputs),
      (StackState.desired cluster cloudConfigVersion).RecordedIn
        (fun key => lastValue? key o.pairs) →
      ∃ current, StackState.ofOutputs o (Names.guestMainStack cluster.id) = .ok current ∧
        current = { StackState.desired cluster cloudConfigVersion with
          masterMonitoring := false, workerMonitoring := false } ∧
        ∀ allowed, current.decide (.desired cluster cloudConfigVersion) allowed = .keep := by
  refine ⟨fun histories initial outputs hpasses hrun => ?_, fun cloudConfigVersion o hrecorded => ?_⟩
  · obtain ⟨desired, hgrounds⟩ := Convergence.grounds_of_passes config cluster
    exact Convergence.converges_of_rest
      (Convergence.rests_of_passes (fun h hh => hgrounds h (hpasses h hh)) hrun).1
  · exact ⟨_, StackState.ofOutputs_of_recorded hrecorded _, rfl, StackState.decide_readable _ _⟩

namespace Trial

def wanted : StackState := .desired cluster "v1"

def responsive : (x : Cloud.Call) → List (String × String) →
    Except x.Fault x.Value × List (String × String)
  | .describeStack _ name, s => (.ok ⟨name, .updateComplete, s⟩, s)
  | .updateStack .guest name _, s =>
    if name = Names.guestMainStack cluster.id then (.ok (), s ++ wanted.outputs)
    else (.error (.notFound name), s)
  | .renderTemplate _ _ state, s =>
    (if state = wanted then .ok "template" else .error "no such template", s)
  | .accountId, s => (.ok Sandbox.accountId, s)
  | .currentKey _, s | .desiredKey _, s => (.ok "key", s)
  | .describeVolumes _, s => (.ok [], s)
  | .describeGroup _, s => (.ok [], s)
  | .guestClients _, s | .headBucket _, s => (.ok (), s)
  | x, s => (Cloud.failWith x .throttled, s)

def responsively : (x : Engine.Call Cloud) → List (String × String) × List Exchange →
    Engine.Reply x × (List (String × String) × List Exchange) :=
  watched (Engine.rehearse (S := Cloud) responsive fun _ s => s)

def RendersWanted (h : List Exchange) : Prop :=
  ∀ object state body, Renders object state body h → state = wanted

theorem lastValue?_append (key : String) (pairs more : List (String × String)) :
    lastValue? key (pairs ++ more) = (lastValue? key more).or (lastValue? key pairs) := by
  rw [lastValue?, List.reverse_append, List.lookup_append]
  rfl

theorem responsive_renders (x : Cloud.Call) (s : List (String × String)) {before : List Exchange}
    (hr : RendersWanted before) : RendersWanted (before ++ [⟨x, (responsive x s).1⟩]) := by
  rintro object state body ⟨account, hmem⟩
  rcases List.mem_append.mp hmem with hmem | hmem
  · exact hr object state body ⟨account, hmem⟩
  · obtain ⟨rfl, hreply⟩ := Exchange.mk.inj (List.mem_singleton.mp hmem)
    have hreply : (if state = wanted then Except.ok "template" else .error "no such template") =
        Except.ok body := (eq_of_heq hreply).symm
    by_contra hne
    rw [if_neg hne] at hreply
    cases hreply

theorem responsive_step (x : Cloud.Call) (s : List (String × String)) {before : List Exchange}
    (hr : RendersWanted before) :
    StackStep cluster before (fun key => lastValue? key s) ⟨x, (responsive x s).1⟩
      (fun key => lastValue? key (responsive x s).2) := by
  cases x with
  | describeStack account name =>
    by_cases hx : account = .guest ∧ name = Names.guestMainStack cluster.id
    · obtain ⟨rfl, rfl⟩ := hx
      exact .described (.read rfl fun _ => rfl)
    · refine .other (fun heq => ?_) nofun
      cases heq
      exact hx ⟨rfl, rfl⟩
  | updateStack account name body =>
    cases account with
    | host => exact .other nofun nofun
    | guest =>
      rw [responsive]
      split
      · next hname =>
        subst hname
        refine .updated fun object state hrendered key => ?_
        rw [hr object state body hrendered]
        exact lastValue?_append key s _
      · exact .other nofun nofun
  | _ => exact .other nofun nofun

/-- What is assumed of clouds holds of this one. -/
theorem responsively_runs {α : Type} (p : Program (Engine Cloud) α) (s : List (String × String))
    {initial : String → Option String} (earlier h : List Exchange)
    (hr : RendersWanted (earlier ++ h))
    (hrun : StackRun cluster initial (earlier ++ h) fun key => lastValue? key s) :
    RendersWanted (earlier ++ (p.run responsively (s, h)).2.2) ∧
      StackRun cluster initial (earlier ++ (p.run responsively (s, h)).2.2)
        fun key => lastValue? key (p.run responsively (s, h)).2.1 := by
  induction p generalizing s h with
  | pure a => exact ⟨hr, hrun⟩
  | request x next ih =>
    cases x with
    | call x =>
      refine ih (responsive x s).1 (responsive x s).2 _ ?_ ?_
      · rw [← List.append_assoc]
        exact responsive_renders x s hr
      · rw [← List.append_assoc]
        exact hrun.next (responsive_step x s hr)
    | report r => cases r <;> exact ih _ _ h hr hrun
    | _ => exact ih _ _ h hr hrun
  | unfinished => exact ⟨hr, hrun⟩

def idleOperator : Reconciler Cloud Cluster where
  router := ⟨config.versionBundles.map
    (Operator.bundleSet { config with guestUpdateEnabled := false }), nofun⟩

def replacement : Option (Except Error Unit) × List (String × String) × List Exchange :=
  (operator.ensure .create cluster).run responsively (outputs, [])

def aftermath : Option (Except Error Unit) × List (String × String) × List Exchange :=
  (idleOperator.ensure .create cluster).run responsively (replacement.2.1, [])

theorem replacement_updates : replacement.2.2.any Exchange.accepts = true := by
  decide +kernel

theorem passes_create : ∀ h ∈ [replacement.2.2, aftermath.2.2], CreationPass config cluster.spec h := by
  intro h hh
  simp only [List.mem_cons, List.not_mem_nil, or_false] at hh
  rcases hh with rfl | rfl
  · exact ⟨true, operator, cluster, replacement.1, rfl, rfl, Program.Leads.of_run Prod.snd _
      (watched_answers _) (operator.ensure .create cluster) (outputs, [])⟩
  · exact ⟨false, idleOperator, cluster, aftermath.1, rfl, rfl, Program.Leads.of_run Prod.snd _
      (watched_answers _) (idleOperator.ensure .create cluster) (replacement.2.1, [])⟩

theorem passes_run : StackRun cluster (fun key => lastValue? key outputs)
    [replacement.2.2, aftermath.2.2].flatten fun key => lastValue? key aftermath.2.1 := by
  have hfirst := responsively_runs (operator.ensure .create cluster) outputs [] []
    (fun _ _ _ ⟨_, hmem⟩ => nomatch hmem) .start
  have hsecond := responsively_runs (idleOperator.ensure .create cluster) replacement.2.1
    replacement.2.2 [] ((List.append_nil replacement.2.2).symm ▸ hfirst.1)
    ((List.append_nil replacement.2.2).symm ▸ hfirst.2)
  have hflatten : ∀ h h' : List Exchange, [h, h'].flatten = h ++ h' := fun h h' => by simp
  rw [hflatten]
  exact hsecond.2

end Trial

/-- One pass updates, the next one finds nothing to do. -/
theorem stack_converges_trial :
    (∃ e ∈ Trial.replacement.2.2, e.accepts = true) ∧
      Converges [Trial.replacement.2.2, Trial.aftermath.2.2] ∧
      ∃ current, StackState.ofOutputs ⟨"", Trial.wanted.outputs⟩
          (Names.guestMainStack Trial.cluster.id) = .ok current ∧
        current.decide Trial.wanted true = .keep := by
  obtain ⟨e, he, haccepts⟩ := List.any_eq_true.mp Trial.replacement_updates
  obtain ⟨hruns, hreads⟩ := stack_converges Trial.config Trial.cluster
  obtain ⟨current, hcurrent, -, hkeep⟩ := hreads "v1" ⟨"", Trial.wanted.outputs⟩
    Trial.wanted.recordedIn_outputs
  exact ⟨⟨e, he, haccepts⟩, hruns _ _ _ Trial.passes_create Trial.passes_run, current, hcurrent,
    hkeep true⟩

end ClusterKeeper
