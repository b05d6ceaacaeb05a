import ClusterKeeper.Proofs.UpdateGate

/-!
# Pending updates

An update that is accepted is the last that a pass has to do with the stack and the
machines. Only an attempt that fails is repeated, and an attempt whose update was
accepted does not fail.
-/

set_option autoImplicit false

namespace ClusterKeeper

open Memory

def Exchange.accepts (e : Exchange) : Bool := e.call.isStackUpdate && e.reply.isOk

def Cloud.Call.Disturbs (x : Cloud.Call) : Prop :=
  IsMachineCall x ∨ x.isStackCreation = true ∨ x.isStackUpdate = true

theorem Exchange.isStackUpdate_of_accepts {e : Exchange} (he : e.accepts = true) :
    e.call.isStackUpdate = true := (Bool.and_eq_true_iff.mp he).1

theorem Exchange.not_accepts {e : Exchange} (he : e.call.isStackUpdate = false) :
    e.accepts = false := by
  rw [accepts, he, Bool.false_and]

def Pending (h : List Exchange) : Prop :=
  ∀ before e after, h = before ++ e :: after → e.accepts = true → firstDescription before = none

section

variable {h h' : List Exchange} {e : Exchange}

theorem pending_of_undescribed (hn : firstDescription h = none) : Pending h := by
  rintro before e after rfl -
  cases hb : firstDescription before with
  | none => rfl
  | some d => cases hn.symm.trans (firstDescription_moves hb (List.prefix_append _ _))

theorem Pending.next (hp : Pending h) (he : e.accepts = false) : Pending (h ++ [e]) := by
  intro before e' after heq he'
  rcases List.eq_nil_or_concat after with rfl | ⟨after', e'', rfl⟩
  · obtain ⟨-, hlast⟩ := List.append_inj' heq rfl
    cases hlast
    cases he.symm.trans he'
  · have heq : h ++ [e] = (before ++ e' :: after') ++ [e''] := by
      rw [heq, List.concat_eq_append, List.append_assoc, List.cons_append]
    exact hp before e' after' (List.append_inj' heq rfl).1 he'

end

structure Awaits (cluster : Cluster) (x : Cloud.Call) (h : List Exchange) : Prop where
  creations : x.isStackCreation = true → ∃ what, Tells cluster h (.error (.notFound what))
  target : x.isStackUpdate = true →
    ∃ body, x = .updateStack .guest (Names.guestMainStack cluster.id) body
  pending : x.Disturbs → Pending h

namespace PendingUpdates

open Discipline Recording UpdateGate

variable {α : Type} {cluster : Cluster} {x : Cloud.Call} {h h' : List Exchange}
  {c : Cancellation} {policy volumePolicy : RetryPolicy} {project cloudConfigVersion : String}
  {allowed : Bool} {current desired : StackState}

theorem awaits_of_harmless (hx : x.isStackCreation = false ∧ x.isStackUpdate = false)
    (hp : IsMachineCall x → Pending h) : Awaits cluster x h := by
  refine ⟨fun hc => ?_, fun hu => ?_, ?_⟩
  · cases hx.1.symm.trans hc
  · cases hx.2.symm.trans hu
  · rintro (hm | hc | hu)
    · exact hp hm
    · cases hx.1.symm.trans hc
    · cases hx.2.symm.trans hu

theorem takes_quiet : Takes (Awaits cluster) (fun x => x.isQuiet = true) h := fun _ hx _ _ =>
  awaits_of_harmless (Cloud.Call.not_stackChange_of_quiet hx) fun hm =>
    absurd hm (Cloud.Call.not_machine_of_quiet hx)

theorem takes_description (name : String) (h : List Exchange) :
    Awaits cluster (.describeStack .guest name) h := awaits_of_harmless ⟨rfl, rfl⟩ nofun

/-- Without an update nothing is accepted, whatever comes of the action. -/
theorem Does.stays {a : Action Cloud α} {F : α → List Exchange → Prop} {C : Cloud.Call → Prop}
    (ha : (recording fun x _ => C x).Does True a F c h) (hC : ∀ x, C x → x.isStackUpdate = false)
    (htakes : ∀ x, C x → ∀ h', h <+: h' → Pending h' → Awaits cluster x h') (hp : Pending h) :
    a.Meets (recording (Awaits cluster)).environment
      (fun r c' h' => c' = c ∧ h <+: h' ∧ Outcome True F r h' ∧ Pending h') c h := by
  refine Program.Meets.mono (Program.Meets.widen (I := fun h' => h <+: h' ∧ Pending h') ha
    ⟨List.prefix_refl h, hp⟩ id ?_ (fun x h₁ r h₂ hr => hr) ?_) ?_
  · rintro (x | _ | _ | _ | _) h₁ ⟨hm, hp₁⟩ hx
    · exact htakes x hx h₁ hm hp₁
    · exact hx
    · exact hx
    · trivial
    · trivial
  · rintro (x | _ | _ | _ | _) h₁ r h₂ ⟨hm, hp₁⟩ hx hr
    · cases hr
      exact ⟨hm.trans (List.prefix_append _ _), hp₁.next (Exchange.not_accepts (hC x hx))⟩
    · cases hr; exact ⟨hm, hp₁⟩
    · cases hr; exact ⟨hm, hp₁⟩
    · cases hr.1; exact ⟨hm, hp₁⟩
    · cases hr; exact ⟨hm, hp₁⟩
  · rintro ⟨r, c'⟩ h' ⟨⟨hc, hm, hr⟩, -, hp'⟩
    exact ⟨hc, hm, hr, hp'⟩

def Tries (cluster : Cluster) (a : Action Cloud Unit) (c : Cancellation) (h : List Exchange) :
    Prop :=
  a.Meets (recording (Awaits cluster)).environment
    (fun r c' h' => c' = c ∧ h <+: h' ∧ (r.isOk = false → Pending h')) c h

theorem tries_submit (body : String) (hp : Pending h) :
    Tries cluster (MainStack.submit ⟨Names.guestMainStack cluster.id, body⟩) c h := by
  have hx : Awaits cluster (.updateStack .guest (Names.guestMainStack cluster.id) body) h :=
    ⟨nofun, fun _ => ⟨body, rfl⟩, fun _ => hp⟩
  have hend : ∀ answer : Except CloudError Unit,
      (Cloud.orFail ("update stack " ++ Names.guestMainStack cluster.id)
        (Cloud.accept CloudError.isNoUpdatesToPerform () answer)).Meets
      (recording (Awaits cluster)).environment
      (fun r c' h' => c' = c ∧ h <+: h' ∧ (r.isOk = false → Pending h')) c
      (h ++ [⟨.updateStack .guest (Names.guestMainStack cluster.id) body, answer⟩]) := by
    intro answer
    cases answer with
    | ok _ => exact ⟨rfl, List.prefix_append _ _, nofun⟩
    | error e =>
      rw [Cloud.accept]
      split
      · exact ⟨rfl, List.prefix_append _ _, nofun⟩
      · exact ⟨rfl, List.prefix_append _ _, fun _ => hp.next rfl⟩
  refine (Action.meets_bind _ _).2 ((Action.meets_call _ _).2 ⟨hx, fun answer h' hr => ?_⟩)
  cases hr
  exact hend answer

/-- The machines come before the update. -/
theorem tries_applyUpdate (hname : desired.name = Names.guestMainStack cluster.id)
    (decision : Decision) (body : String) (hp : Pending h) :
    Tries cluster (MainStack.applyUpdate policy cluster
      (MainStack.updateChange desired decision body)) c h := by
  have hsubmit : ∀ {c h}, Pending h →
      Tries cluster (MainStack.submit ⟨desired.name, body⟩) c h := by
    rw [hname]
    exact tries_submit body
  cases decision with
  | keep => exact (Action.meets_pure _).2 ⟨rfl, List.prefix_refl h, fun _ => hp⟩
  | scale => exact hsubmit hp
  | update =>
    have hadmits : Admits (fun x _ => IsMachineCall x) (Volumes.retireEtcd policy cluster.id) h :=
      admits_retireEtcd (fun _ hx _ _ => hx) cluster.id
    have hretire : (Volumes.retireEtcd policy cluster.id).Meets
        (recording (Awaits cluster)).environment (fun r c' h' => c' = c ∧ h <+: h' ∧
          Outcome True (fun _ _ => True) r h' ∧ Pending h') c h :=
      Does.stays (hadmits.does fun _ _ _ => trivial)
        (fun _ hx => (Cloud.Call.not_stackChange_of_machine hx).2)
        (fun _ hx _ _ hp' =>
          awaits_of_harmless (Cloud.Call.not_stackChange_of_machine hx) fun _ => hp') hp
    refine (Action.meets_bind _ _).2 (Action.Meets.mono hretire ?_)
    rintro (e | ⟨⟩) _ h₁ ⟨rfl, hm, -, hp₁⟩
    · exact ⟨rfl, hm, fun _ => hp₁⟩
    · rw [Action.onward_ok]
      apply Action.Meets.mono (hsubmit hp₁)
      exact fun r c' h₂ ⟨hc, hm', hr⟩ => ⟨hc, hm.trans hm', hr⟩

/-- Another attempt is made only if nothing was accepted so far. -/
theorem does_attempts {a : Action Cloud Unit} (hp : Pending h)
    (ha : ∀ {h'}, Pending h' → Tries cluster a c h') :
    (recording (Awaits cluster)).Does True ((Middleware.measuring project).around "stack"
      .applyUpdateChange ((Middleware.retrying policy).around "stack" .applyUpdateChange a))
      (fun _ _ => True) c h := by
  refine (Middleware.meets_measuring project "stack" .applyUpdateChange _).2
    (Middleware.retrying_meets policy "stack" .applyUpdateChange
      (I := fun c' h' => c' = c ∧ h <+: h' ∧ Pending h') ?_ ⟨rfl, List.prefix_refl h, hp⟩)
  rintro _ h₁ ⟨rfl, hm, hp₁⟩
  apply Action.Meets.mono (ha hp₁)
  rintro r _ h₂ ⟨rfl, hm', hr⟩
  have hm₂ := hm.trans hm'
  refine ⟨⟨rfl, hm₂, ?_⟩, fun hf => ⟨⟨rfl, hm₂, hr hf⟩, trivial⟩⟩
  cases r <;> trivial

/-- Only what is not found can be taken for a stack that does not exist. -/
theorem Known.notFound (hk : Known cluster current h) (he : current.exists? = false) :
    ∃ what, Tells cluster h (.error (.notFound what)) := by
  obtain ⟨answer, hd, ha⟩ := hk
  cases answer with
  | ok stack =>
    rw [StackState.exists?, name_of_answer ha] at he
    exact absurd (of_decide_eq_false he) (not_not_intro (guestMainStack_ne_empty cluster.id))
  | error failure =>
    cases failure with
    | notFound what => exact ⟨what, hd⟩
    | _ => cases ha

/-- However often it is tried, creating a stack accepts no update. -/
theorem does_creation (hk : Known cluster current h) (he : current.exists? = false)
    (hp : Pending h) (state : StackState) :
    (recording (Awaits cluster)).Does True
      (((MainStack.resource cloudConfigVersion volumePolicy).managed policy project).applyCreate
        ⟨allowed⟩ cluster state) (fun _ h' => Pending h') c h := by
  have hquiet : Takes (fun x _ => x.isStackUpdate = false) (fun x => x.isQuiet = true) h :=
    fun _ hx _ _ => (Cloud.Call.not_stackChange_of_quiet hx).2
  have hadmits : Admits (fun x _ => x.isStackUpdate = false)
      (((MainStack.resource cloudConfigVersion volumePolicy).managed policy project).applyCreate
        ⟨allowed⟩ cluster state) h := by
    refine .managed policy .applyCreateChange (.bind (admits_lookUpAccount hquiet) fun account => ?_)
    refine .bind (admits_render hquiet state account) fun body => ?_
    exact .bind (.call fun _ _ => rfl) fun _ => .orFail _
  refine Action.Meets.mono (Does.stays (hadmits.does (F := fun _ _ => True) fun _ _ _ => trivial)
    (fun _ hx => hx) (fun x hx h' hm hp' => ⟨fun _ => Known.notFound (hk.moves hm) he, ?_,
      fun _ => hp'⟩) hp) ?_
  · exact fun hu => nomatch hx.symm.trans hu
  · rintro (e | ⟨⟩) c' h' ⟨hc, hm, -, hp'⟩
    · exact ⟨hc, hm, trivial⟩
    · exact ⟨hc, hm, hp'⟩

/-- Rendering takes place before anything is done. -/
theorem does_patchFor (decision : Decision) (hp : Pending h) :
    (recording (Awaits cluster)).Does True (MainStack.patchFor cluster desired decision)
      (fun p h' => (∃ body, p = .ofUpdate (MainStack.updateChange desired decision body)) ∧
        Pending h') c h := by
  have hquiet : Takes (fun x _ => x.isQuiet = true) (fun x => x.isQuiet = true) h :=
    fun _ hx _ _ => hx
  have hpatch : (recording fun x _ => x.isQuiet = true).Does True
      (MainStack.patchFor cluster desired decision)
      (fun p _ => ∃ body, p = .ofUpdate (MainStack.updateChange desired decision body)) c h := by
    refine .bind ((admits_lookUpAccount hquiet).does fun _ _ _ => trivial) fun account h₁ hm _ => ?_
    refine .bind ((admits_render (hquiet.moves hm) desired account).does fun _ _ _ => trivial)
      fun body _ _ _ => ?_
    exact .pure ⟨body, rfl⟩
  refine Action.Meets.mono (Does.stays hpatch
    (fun _ hx => (Cloud.Call.not_stackChange_of_quiet hx).2)
    (fun x hx h' hm _ => takes_quiet x hx h' (List.prefix_refl h')) hp) ?_
  rintro (e | p) c' h' ⟨hc, hm, hp', hpending⟩
  · exact ⟨hc, hm, trivial⟩
  · exact ⟨hc, hm, hp', hpending⟩

/-- One description, then what it calls for. -/
theorem does_stack (hn : firstDescription h = none) :
    (recording (Awaits cluster)).Does True
      (((MainStack.resource cloudConfigVersion volumePolicy).managed policy
        project).toResource.ensure .create ⟨allowed⟩ cluster) (fun _ _ => True) .none h := by
  apply Does.withStates (C := fun current h' => Told cluster current h h' ∧ Pending h')
    (D := fun current d h' => d = StackState.desired cluster cloudConfigVersion ∧
      Known cluster current h' ∧ Pending h') rfl
  · refine (does_currentStack (takes_description _ h)).imp ?_
    rintro current _ - ⟨answer, rfl, ha⟩
    exact ⟨⟨answer, rfl, ha⟩, (pending_of_undescribed hn).next rfl⟩
  · exact fun current h₁ _ ⟨ht, hp⟩ => .pure ⟨rfl, ht.known hn, hp⟩
  rintro current _ h₁ _ ⟨rfl, hk, hp⟩
  have hcreate : (recording (Awaits cluster)).Does True
      ((MainStack.resource cloudConfigVersion volumePolicy).createPatch ⟨allowed⟩ cluster current
        (.desired cluster cloudConfigVersion))
      (fun p h' => (p = .empty ∨ current.exists? = false ∧
        p = .ofCreate (StackState.desired cluster cloudConfigVersion)) ∧
        Known cluster current h' ∧ Pending h') .none h₁ := by
    refine .pure ⟨?_, hk, hp⟩
    split
    · exact .inl rfl
    · next he => exact .inr ⟨Bool.eq_false_iff.mpr he, rfl⟩
  apply Does.bind (.observation policy .newCreatePatch rfl hcreate)
  rintro p h₂ _ ⟨hpatch, hk₂, hp₂⟩
  have happly : (recording (Awaits cluster)).Does True
      (((MainStack.resource cloudConfigVersion volumePolicy).managed policy project).applyPatch
        ⟨allowed⟩ cluster p) (fun _ h' => Pending h') .none h₂ := by
    rcases hpatch with rfl | ⟨he, rfl⟩
    · exact (CrudResource.meets_applyPatch_empty _ _ _).2 ⟨rfl, List.prefix_refl h₂, hp₂⟩
    · exact (CrudResource.meets_applyPatch_create _ _ _ _).2 (does_creation hk₂ he hp₂ _)
  refine .bind happly fun _ h₃ _ hp₃ => .unlessCanceled rfl ?_
  have hupdate : (recording (Awaits cluster)).Does True
      ((MainStack.resource cloudConfigVersion volumePolicy).updatePatch ⟨allowed⟩ cluster current
        (.desired cluster cloudConfigVersion))
      (fun p h' => (p = .empty ∨ ∃ decision body, p = .ofUpdate (MainStack.updateChange
        (StackState.desired cluster cloudConfigVersion) decision body)) ∧ Pending h') .none h₃ := by
    rcases MainStack.updatePatch_cases cloudConfigVersion volumePolicy ⟨allowed⟩ cluster current
      (.desired cluster cloudConfigVersion) with ⟨heq, -⟩ | ⟨heq, -⟩
    · rw [heq]
      exact .pure ⟨.inl rfl, hp₃⟩
    · rw [heq]
      exact (does_patchFor _ hp₃).imp fun _ _ _ ⟨⟨body, hbody⟩, hp⟩ => ⟨.inr ⟨_, body, hbody⟩, hp⟩
  apply Does.bind (.observation policy .newUpdatePatch rfl hupdate)
  rintro p h₄ _ ⟨rfl | ⟨decision, body, rfl⟩, hp₄⟩
  · exact (CrudResource.meets_applyPatch_empty _ _ _).2 ⟨rfl, List.prefix_refl h₄, trivial⟩
  · exact (CrudResource.meets_applyPatch_update _ _ _ _).2
      (does_attempts hp₄ fun hp' => tries_applyUpdate rfl decision body hp')

variable {config : Config} {r : Reconciler Cloud Cluster} {o : Option (Except Error Unit)}

/-- Whatever the cloud answers to a pass that creates a cluster, left off or not. -/
theorem heeded (hr : Operator.reconciler config = .ok r)
    (hl : (r.ensure .create cluster).Leads anyCloud.environment.engine [] o h) :
    Heeded (Awaits cluster) h :=
  heeded_of_reaches hr (fun _ _ hroute => ⟨_, reaches_of_stack (fun _ => takes_quiet)
    takes_description (fun _ hn => does_stack hn) rfl hroute, fun _ _ hx => hx⟩) hl

end PendingUpdates

end ClusterKeeper
