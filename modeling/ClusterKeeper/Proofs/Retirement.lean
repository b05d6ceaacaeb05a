import ClusterKeeper.Proofs.Tolerance
import ClusterKeeper.Proofs.VolumeTags

/-!
# Retiring volumes

The calls that take volumes out of service before an update, and the order in
which they are made whatever the cloud answers. A call that fails ends the
round it belongs to and nothing else.
-/

set_option autoImplicit false

namespace ClusterKeeper

variable {α β ε : Type}

inductive Chain : List Cloud.Call → List Exchange → Prop where
  | done : Chain [] []
  | linked {e : Exchange} {calls : List Cloud.Call} {h : List Exchange} (he : e.tolerated = true)
      (hrest : Chain calls h) : Chain (e.call :: calls) (e :: h)
  | broken {e : Exchange} {calls : List Cloud.Call} (he : e.tolerated = false) :
      Chain (e.call :: calls) [e]

inductive Each (P : β → List Exchange → Prop) : List β → List Exchange → Prop where
  | nil : Each P [] []
  | cons {b : β} {rest : List β} {h h' : List Exchange} (hb : P b h) (hrest : Each P rest h') :
      Each P (b :: rest) (h ++ h')

inductive Repeated (A : List Exchange → Except ε α → Prop) :
    Nat → List Exchange → Except ε α → Prop where
  | last {h : List Exchange} {r : Except ε α} (hA : A h r) : Repeated A 1 h r
  | again {h h' : List Exchange} {e : ε} {n : Nat} {r : Except ε α} (hA : A h (.error e))
      (hrest : Repeated A n h' r) : Repeated A (n + 1) (h ++ h') r

namespace Volumes

def gracefulRound (volume : String) (a : Attachment) : List Cloud.Call :=
  [.stopInstance a.instanceId false, .waitUntilInstanceStopped a.instanceId,
   .detachVolume volume a false, .waitUntilVolumeAvailable volume]

def forcedRound (volume : String) (a : Attachment) : List Cloud.Call :=
  [.detachVolume volume a true, .waitUntilVolumeAvailable volume]

def Deletion (policy : RetryPolicy) (volume : String) (h : List Exchange) : Prop :=
  ∃ n r, policy.Permits n ∧ Repeated (fun h (r : Except CloudError Unit) =>
    ∃ e, h = [e] ∧ e.call = .deleteVolume volume ∧ r.isOk = e.tolerated) n h r

inductive Retired (policy : RetryPolicy) (volume : Volume) : List Exchange → Prop where
  | intro {graceful forced deletion : List Exchange}
      (hgraceful : Each (fun a => Chain (gracefulRound volume.id a)) volume.attachments graceful)
      (hforced : Each (fun a => Chain (forcedRound volume.id a)) volume.attachments forced)
      (hdeletion : Deletion policy volume.id deletion) :
      Retired policy volume (graceful ++ forced ++ deletion)

def etcdAmong (cluster : String) : Except CloudError (List Volume) → List Volume
  | .ok volumes => volumes.filter fun v => holdsEtcd cluster v.tags
  | .error _ => []

end Volumes

inductive UpdateAttempt (policy : RetryPolicy) (cluster : String) (request : UpdateRequest) :
    List Exchange → Except Error Unit → Prop where
  | intro (listing : Except CloudError (List Volume)) (answer : Except CloudError Unit)
      {h : List Exchange}
      (hretired : Each (Volumes.Retired policy) (Volumes.etcdAmong cluster listing) h) :
      UpdateAttempt policy cluster request
        (⟨.describeVolumes [.tag (Names.ownershipTag cluster) Names.owned], listing⟩ :: h ++
          [⟨.updateStack .guest request.stack request.body, answer⟩])
        ((Cloud.accept CloudError.isNoUpdatesToPerform () answer).mapError
          (.executionFailed ("update stack " ++ request.stack)))

theorem Tried.repeated {A : Transcript Cloud → Except ε α → Prop}
    {B : List Exchange → Except ε α → Prop} {n : Nat} {t : Transcript Cloud} {r : Except ε α}
    (h : Tried A n t r) (hAB : ∀ t r, A t r → B (exchanges t) r) :
    Repeated B n (exchanges t) r := by
  induction h with
  | @last t refusal r h hrefusal =>
    have heq : exchanges (.reported .attempt :: t ++ refusal ++ [.reported .settled]) =
        exchanges t := by
      rcases hrefusal with rfl | ⟨turn, rfl⟩ <;> simp
    rw [heq]
    exact .last (hAB t r h)
  | @again t t' e n r h turn d _ ih =>
    have heq : exchanges (.reported .attempt :: t ++ [.turned turn (some d), .slept d] ++ t') =
        exchanges t ++ exchanges t' := by
      simp
    rw [heq]
    exact .again (hAB t (.error e) h) ih

theorem RetryPolicy.Retried.repeated {p : RetryPolicy} {A : Transcript Cloud → Except ε α → Prop}
    {B : List Exchange → Except ε α → Prop} {t : Transcript Cloud} {r : Except ε α}
    (h : p.Retried A t r) (hAB : ∀ t r, A t r → B (exchanges t) r) :
    ∃ n, p.Permits n ∧ Repeated B n (exchanges t) r := by
  cases h with
  | bounded hn h => exact ⟨_, hn, h.repeated hAB⟩
  | patient ready hn h => exact ⟨_, hn, h.repeated hAB⟩

namespace Chain

variable {xs ys : List Cloud.Call} {h h' : List Exchange}

theorem append (hx : Chain xs h) (ht : h.all Exchange.tolerated = true) (hy : Chain ys h') :
    Chain (xs ++ ys) (h ++ h') := by
  induction hx with
  | done => exact hy
  | linked he _ ih => exact .linked he (ih (Bool.and_eq_true_iff.mp ht).2)
  | broken he =>
    rw [List.all_cons, he] at ht
    cases ht

theorem cut (hx : Chain xs h) (ht : h.all Exchange.tolerated = false) : Chain (xs ++ ys) h := by
  induction hx with
  | done => cases ht
  | linked he _ ih =>
    rw [List.all_cons, he, Bool.true_and] at ht
    exact .linked he (ih ht)
  | broken he => exact .broken he

end Chain

namespace Volumes

variable {c : Cancellation}

def Follows (calls : List Cloud.Call) (a : Action Cloud α) (c : Cancellation) : Prop :=
  a.Yields c fun t r => Chain calls (exchanges t) ∧
    r.isOk = (exchanges t).all Exchange.tolerated

theorem Follows.pure {a : α} : Follows [] (Pure.pure a) c := Action.Yields.pure ⟨.done, rfl⟩

theorem Follows.bind {xs ys : List Cloud.Call} {a : Action Cloud β} {f : β → Action Cloud α}
    (ha : Follows xs a c) (hf : ∀ b, Follows ys (f b) c) : Follows (xs ++ ys) (a >>= f) c := by
  apply Action.Yields.bind ha
  · rintro t b ⟨hchain, hok⟩
    apply (hf b).mono
    rintro t' r ⟨hchain', hok'⟩
    rw [exchanges_append, List.all_append, ← hok, ← hok']
    exact ⟨hchain.append hok.symm hchain', rfl⟩
  · rintro t e ⟨hchain, hok⟩
    exact ⟨hchain.cut hok.symm, hok⟩

theorem Follows.call {x : Cloud.Call} {message : String}
    {f : Except x.Fault x.Value → Except CloudError α}
    (hf : Judges x f) :
    Follows [x] (Action.call (S := Cloud) x >>= fun answer =>
      Cloud.orFail message (f answer)) c := by
  refine .call_bind fun answer => ?_
  have hf := hf answer
  cases hr : f answer with
  | ok a =>
    rw [hr] at hf
    exact .pure ⟨.linked hf.symm .done, hf.trans (Bool.and_true _).symm⟩
  | error e =>
    rw [hr] at hf
    exact .throw ⟨.broken hf.symm, hf.trans (Bool.and_true _).symm⟩

theorem Follows.call_bind {x : Cloud.Call} {message : String} {ys : List Cloud.Call}
    {f : Except x.Fault x.Value → Except CloudError β} {rest : β → Action Cloud α}
    (hf : Judges x f)
    (hrest : ∀ b, Follows ys (rest b) c) :
    Follows (x :: ys) (Action.call (S := Cloud) x >>= fun answer =>
      Cloud.orFail message (f answer) >>= rest) c := by
  rw [← bind_assoc]
  exact .bind (.call hf) hrest

def detachCalls (volume : String) (a : Attachment) (options : DetachOptions) : List Cloud.Call :=
  (if options.shutdown then
    [.stopInstance a.instanceId options.force, .waitUntilInstanceStopped a.instanceId]
  else []) ++
  .detachVolume volume a options.force ::
    if options.wait then [.waitUntilVolumeAvailable volume] else []

theorem detach_follows (volume : String) (a : Attachment) (options : DetachOptions) :
    Follows (detachCalls volume a options) (detach volume a options) c := by
  have hdetach : ∀ wait : Bool, Follows (.detachVolume volume a options.force ::
      if wait then [.waitUntilVolumeAvailable volume] else [])
      (detach volume a ⟨options.force, false, wait⟩) c := by
    intro wait
    refine .call_bind (x := .detachVolume volume a options.force)
      (.of_cases (fun _ => rfl) (Cloud.isOk_accept_error _ _)) fun _ => ?_
    cases wait with
    | false => exact .pure
    | true =>
      exact .call (x := .waitUntilVolumeAvailable volume)
        (.of_cases (fun _ => rfl) (Cloud.isOk_accept_error _ _))
  obtain ⟨force, shutdown, wait⟩ := options
  cases shutdown with
  | false => exact hdetach wait
  | true =>
    have hstop : Follows [.stopInstance a.instanceId force, .waitUntilInstanceStopped a.instanceId]
        (stopInstance a.instanceId force) c := by
      refine .call_bind (x := .stopInstance a.instanceId force)
        (.of_cases (fun _ => rfl) (Cloud.isOk_accept_error _ _)) fun _ => ?_
      exact .call (x := .waitUntilInstanceStopped a.instanceId)
        (.of_cases (fun _ => rfl) (Cloud.isOk_accept_error _ _))
    exact hstop.bind fun _ => hdetach wait

theorem each_of_forM {f : β → Action Cloud PUnit} {P : β → List Exchange → Prop} (l : List β)
    (hf : ∀ b, (f b).Yields c fun t r => r = .ok ⟨⟩ ∧ P b (exchanges t)) :
    (l.forM f).Yields c fun t r => r = .ok ⟨⟩ ∧ Each P l (exchanges t) := by
  induction l with
  | nil => exact .pure ⟨rfl, .nil⟩
  | cons b rest ih =>
    apply Action.Yields.bind (hf b)
    · rintro t _ ⟨-, hb⟩
      apply ih.mono
      rintro t' r ⟨rfl, hrest⟩
      rw [exchanges_append]
      exact ⟨rfl, .cons hb hrest⟩
    · rintro t e ⟨heq, -⟩
      cases heq

/-- A failure of one attachment is not in the way of the others. -/
theorem detachRound_yields (volume : Volume) (options : DetachOptions) :
    (detachRound volume options).Yields c fun t r => r = .ok ⟨⟩ ∧
      Each (fun a => Chain (detachCalls volume.id a options)) volume.attachments (exchanges t) := by
  refine each_of_forM _ fun a => ?_
  refine .result_bind (detach_follows volume.id a options) fun t r h => .pure ⟨rfl, ?_⟩
  rw [List.append_nil]
  exact h.1

theorem delete_yields (policy : RetryPolicy) (volume : String) :
    (delete policy volume).Yields c fun t _ => Deletion policy volume (exchanges t) := by
  have hretry : (liftM (policy.retry (deleteOnce volume)) :
      Action Cloud (Except CloudError Unit)).Yields c
        fun t _ => Deletion policy volume (exchanges t) := by
    apply Action.Yields.lift
    intro t r ht
    obtain ⟨n, hn, hr⟩ := (policy.retried_of_retry (fun _ _ h => ends_deleteOnce h) ht).repeated
      (B := fun h r => ∃ e, h = [e] ∧ e.call = .deleteVolume volume ∧ r.isOk = e.tolerated) (by
        rintro _ r ⟨answer, rfl, hr⟩
        exact ⟨_, rfl, rfl, hr⟩)
    exact ⟨n, r, hn, hr⟩
  refine .bind hretry (fun t answer h => ?_) fun _ _ h => h
  cases answer with
  | ok a => exact .pure (by simpa using h)
  | error e => exact .throw (by simpa using h)

theorem retire_yields (policy : RetryPolicy) (volume : Volume) :
    (retire policy volume).Yields c fun t r => r = .ok ⟨⟩ ∧
      Retired policy volume (exchanges t) := by
  apply Action.Yields.bind (detachRound_yields volume .graceful)
  · rintro t₁ _ ⟨-, hgraceful⟩
    apply Action.Yields.bind (detachRound_yields volume .forced)
    · rintro t₂ _ ⟨-, hforced⟩
      refine .result_bind (delete_yields policy volume.id) fun t₃ r hdelete => .pure ⟨rfl, ?_⟩
      rw [List.append_nil, exchanges_append, exchanges_append, ← List.append_assoc]
      exact .intro hgraceful hforced hdelete
    · rintro t e ⟨heq, -⟩
      cases heq
  · rintro t e ⟨heq, -⟩
    cases heq

theorem list_yields (cluster : String) :
    (list cluster [.etcd cluster]).Yields c fun t r => ∃ listing,
      exchanges t = [⟨.describeVolumes [.tag (Names.ownershipTag cluster) Names.owned], listing⟩] ∧
      r.toOption.getD [] = etcdAmong cluster listing := by
  refine .call_bind fun listing => ?_
  cases listing with
  | ok volumes =>
    refine .pure ⟨.ok volumes, rfl, ?_⟩
    simp [Except.toOption, etcdAmong, matches_etcd]
  | error e => exact .throw ⟨.error e, rfl, rfl⟩

theorem retireEtcd_yields (policy : RetryPolicy) (cluster : String) :
    (retireEtcd policy cluster).Yields c fun t r => r = .ok ⟨⟩ ∧ ∃ listing h,
      exchanges t =
        ⟨.describeVolumes [.tag (Names.ownershipTag cluster) Names.owned], listing⟩ :: h ∧
      Each (Retired policy) (etcdAmong cluster listing) h := by
  refine .result_bind (list_yields cluster) fun t r ⟨listing, ht, hr⟩ => ?_
  cases r with
  | ok volumes =>
    obtain rfl : volumes = etcdAmong cluster listing := hr
    apply (each_of_forM _ fun volume => retire_yields policy volume).mono
    rintro t' r ⟨hr, hretired⟩
    refine ⟨hr, listing, exchanges t', ?_, hretired⟩
    rw [exchanges_append, ht]
    rfl
  | error e =>
    have hnone : etcdAmong cluster listing = [] := hr.symm
    refine .pure ⟨rfl, listing, [], ?_, hnone ▸ .nil⟩
    rw [List.append_nil, ht]

end Volumes

namespace MainStack

variable {c : Cancellation}

theorem submit_yields (request : UpdateRequest) :
    (submit request).Yields c fun t r => ∃ answer : Except CloudError Unit,
      exchanges t = [⟨.updateStack .guest request.stack request.body, answer⟩] ∧
      r = (Cloud.accept CloudError.isNoUpdatesToPerform () answer).mapError
        (.executionFailed ("update stack " ++ request.stack)) := by
  refine .call_bind fun answer => ?_
  cases haccept : Cloud.accept CloudError.isNoUpdatesToPerform () answer with
  | ok _ => exact .pure ⟨answer, rfl, by rw [haccept]; rfl⟩
  | error e => exact .throw ⟨answer, rfl, by rw [haccept]; rfl⟩

theorem applyUpdate_yields (policy : RetryPolicy) (cluster : Cluster) {change : StackState}
    {request : UpdateRequest} (hrequest : change.updateRequest = some request)
    (hupdate : change.shouldUpdate = true) :
    (applyUpdate policy cluster change).Yields c fun t r =>
      UpdateAttempt policy cluster.id request (exchanges t) r := by
  unfold applyUpdate
  rw [hrequest]
  dsimp only
  rw [if_pos hupdate]
  apply Action.Yields.bind (Volumes.retireEtcd_yields policy cluster.id)
  · rintro t _ ⟨-, listing, h, ht, hretired⟩
    apply (submit_yields request).mono
    rintro t' _ ⟨answer, ht', rfl⟩
    rw [exchanges_append, ht, ht']
    exact .intro listing answer hretired
  · rintro t e ⟨heq, -⟩
    cases heq

def Asks (desired : StackState) (p : Patch StackState StackState StackDeletion) : Prop :=
  ∀ change, p.update = some change → ∃ body, change.updateRequest = some ⟨desired.name, body⟩

theorem asks_empty (desired : StackState) : Asks desired .empty :=
  fun _ hp => nomatch hp

theorem lookUpAccount_yields : lookUpAccount.Yields c fun _ _ => True := by
  refine .call_bind fun answer => ?_
  cases answer with
  | ok account => exact .pure trivial
  | error e => exact .throw trivial

theorem render_yields (cluster : Cluster) (state : StackState) (account : String) :
    (render cluster state account).Yields c fun _ _ => True := by
  refine .call_bind fun answer => ?_
  cases answer with
  | ok body => exact .pure trivial
  | error source => exact .throw trivial

theorem updatePatch_yields {cloudConfigVersion : String} {policy volumePolicy : RetryPolicy}
    {project : String} {context : PassContext} {cluster : Cluster} {current desired : StackState} :
    (((resource cloudConfigVersion volumePolicy).managed policy project).updatePatch context
      cluster current desired).Yields c fun _ r => ∀ p, r = .ok p → Asks desired p := by
  have hbody : ∀ decision, (patchFor cluster desired decision).Yields c fun _ r =>
      ∀ p, r = .ok p → Asks desired p := by
    intro decision
    refine .bind lookUpAccount_yields (fun _ account _ => ?_) fun _ _ _ _ heq => nomatch heq
    refine .bind (render_yields cluster desired account) (fun _ body _ => ?_)
      fun _ _ _ _ heq => nomatch heq
    refine .pure ?_
    rintro p heq change hp
    cases heq
    cases hp
    exact ⟨body, rfl⟩
  have hpatch : ((resource cloudConfigVersion volumePolicy).updatePatch context cluster current
      desired).Yields c fun _ r => ∀ p, r = .ok p → Asks desired p := by
    rcases updatePatch_cases cloudConfigVersion volumePolicy context cluster current desired
      with ⟨heq, -⟩ | ⟨heq, -⟩
    · rw [heq]
      refine .pure fun p heq => ?_
      cases heq
      exact asks_empty desired
    · rw [heq]
      exact hbody _
  exact .measuring project "stack" .newUpdatePatch (hpatch.mono fun _ _ h _ => h)

end MainStack

end ClusterKeeper
