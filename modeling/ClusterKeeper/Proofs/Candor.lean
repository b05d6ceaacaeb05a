import ClusterKeeper.Proofs.Counting

/-!
# Candid actions

An action is candid if it succeeds exactly when all answers that count are
tolerated. Rules say how candid actions are made of candid parts.
-/

set_option autoImplicit false

namespace ClusterKeeper

variable {α β ε K : Type} {counts : Cloud.Call → Bool} {c : Cancellation}

def Weighs (counts : Cloud.Call → Bool) (a : Action Cloud α) (c : Cancellation)
    (Q : List Exchange → Except Error α → Prop) : Prop :=
  a.Yields c fun t r => ∃ h, Adds counts t h ∧ Q h r

def Owed (F : α → Prop) (h : List Exchange) (r : Except Error α) : Prop :=
  r.isOk = h.all Exchange.tolerated ∧ ∀ a, r = .ok a → F a

def Candid (counts : Cloud.Call → Bool) (a : Action Cloud α) (F : α → Prop) (c : Cancellation) :
    Prop :=
  Weighs counts a c (Owed F)

def Silent (counts : Cloud.Call → Bool) (a : Action Cloud α) (c : Cancellation) : Prop :=
  Weighs counts a c fun h _ => h = []

namespace Weighs

variable {Q Q' : List Exchange → Except Error α → Prop}

theorem mono {a : Action Cloud α} (ha : Weighs counts a c Q) (hQ : ∀ h r, Q h r → Q' h r) :
    Weighs counts a c Q' :=
  Action.Yields.mono ha fun _ _ ⟨h, hadds, hq⟩ => ⟨h, hadds, hQ h _ hq⟩

theorem pure {a : α} (h : Q [] (.ok a)) : Weighs counts (Pure.pure a) c Q :=
  Action.Yields.pure ⟨[], .nil, h⟩

theorem throw {e : Error} (h : Q [] (.error e)) :
    Weighs counts (MonadExcept.throw e : Action Cloud α) c Q :=
  Action.Yields.throw ⟨[], .nil, h⟩

theorem bind {a : Action Cloud β} {f : β → Action Cloud α}
    {A : List Exchange → Except Error β → Prop} (ha : Weighs counts a c A)
    (hf : ∀ h b, A h (.ok b) → Weighs counts (f b) c fun h' r => Q (h ++ h') r)
    (he : ∀ h e, A h (.error e) → Q h (.error e)) : Weighs counts (a >>= f) c Q := by
  apply Action.Yields.bind ha
  · rintro t b ⟨h, hadds, hA⟩
    apply Action.Yields.mono (hf h b hA)
    rintro t' r ⟨h', hadds', hQ⟩
    exact ⟨h ++ h', hadds.append hadds', hQ⟩
  · rintro t e ⟨h, hadds, hA⟩
    exact ⟨h, hadds, he h e hA⟩

theorem call_bind {x : Cloud.Call} (hx : counts x = true)
    {f : Except x.Fault x.Value → Action Cloud α}
    (hf : ∀ r, Weighs counts (f r) c fun h r' => Q (⟨x, r⟩ :: h) r') :
    Weighs counts (Action.call (S := Cloud) x >>= f) c Q := by
  refine Action.Yields.call_bind fun answer => Action.Yields.mono (hf answer) ?_
  rintro t r ⟨h, hadds, hQ⟩
  exact ⟨⟨x, answer⟩ :: h, (Adds.call hx answer).append hadds, hQ⟩

theorem call_ignored_bind {x : Cloud.Call} (hx : counts x = false)
    {f : Except x.Fault x.Value → Action Cloud α} (hf : ∀ r, Weighs counts (f r) c Q) :
    Weighs counts (Action.call (S := Cloud) x >>= f) c Q := by
  refine Action.Yields.call_bind fun answer => Action.Yields.mono (hf answer) ?_
  rintro t r ⟨h, hadds, hQ⟩
  exact ⟨h, (Adds.call_ignored hx answer).append hadds, hQ⟩

theorem result_bind {a : Action Cloud β} {f : Except Error β → Action Cloud α}
    {A : List Exchange → Except Error β → Prop} (ha : Weighs counts a c A)
    (hf : ∀ h r, A h r → Weighs counts (f r) c fun h' r' => Q (h ++ h') r') :
    Weighs counts (a.result >>= f) c Q := by
  apply Action.Yields.result_bind ha
  rintro t r ⟨h, hadds, hA⟩
  apply Action.Yields.mono (hf h r hA)
  rintro t' r' ⟨h', hadds', hQ⟩
  exact ⟨h ++ h', hadds.append hadds', hQ⟩

theorem retry_bind {policy : RetryPolicy} {step : Program (Engine Cloud) (Except ε β)}
    {f : Except ε β → Action Cloud α} {A : List Exchange → Except ε β → Prop}
    (hstep : ∀ t r, step.Ends t r → ∃ h, Adds counts t h ∧ A h r)
    (hf : ∀ h r, A h r → Weighs counts (f r) c fun h' r' => Q (h ++ h') r') :
    Weighs counts (liftM (policy.retry step) >>= f) c Q := by
  have hretry : Weighs counts (liftM (policy.retry step) : Action Cloud (Except ε β)) c
      fun h r => ∃ r', r = .ok r' ∧ A h r' := by
    apply Action.Yields.lift
    intro t r ht
    obtain ⟨h, hadds, hA⟩ := (policy.retried_of_retry hstep ht).adds fun _ _ h => h
    exact ⟨h, hadds, r, rfl, hA⟩
  apply hretry.bind
  · rintro h _ ⟨r, heq, hA⟩
    cases heq
    exact hf h _ hA
  · rintro h e ⟨r, heq, -⟩
    cases heq

theorem unlessCanceled {a : Action Cloud Unit} {Q : List Exchange → Except Error Unit → Prop}
    (hc : c.skipsResource = false) (ha : Weighs counts a c Q) :
    Weighs counts (Action.unlessCanceled a) c Q := Action.Yields.unlessCanceled hc ha

/-- Retrying and measuring do not change what counts. -/
theorem managed {a : Action Cloud α} (policy : RetryPolicy) (project resource : String)
    (o : Operation) (ha : Weighs counts a c Q) :
    Weighs counts ((Middleware.measuring project).around resource o
      ((Middleware.retrying policy).around resource o a)) c Q := by
  have hretried : Weighs counts ((Middleware.retrying policy).around resource o a) c Q := by
    cases ho : o.mutates with
    | true =>
      apply Action.Yields.mono (Action.Yields.retrying policy resource ho ha)
      exact fun _ _ h => h.adds fun _ _ h => h
    | false => rwa [Middleware.meets_retrying_of_reading policy resource a ho]
  apply Action.Yields.measuring project resource o
  apply Action.Yields.mono hretried
  rintro t r ⟨h, hadds, hQ⟩ ms
  refine ⟨h, ?_, hQ⟩
  simpa using hadds.append (.measured ms)

end Weighs

namespace Silent

theorem pure (a : α) : Silent counts (Pure.pure a) c := Weighs.pure rfl

theorem throw (e : Error) : Silent counts (MonadExcept.throw e : Action Cloud α) c :=
  Weighs.throw rfl

theorem orFail {message : String} (r : Except CloudError α) :
    Silent counts (Cloud.orFail message r) c := by
  cases r with
  | ok a => exact pure a
  | error e => exact throw _

theorem bind {a : Action Cloud β} {f : β → Action Cloud α} (ha : Silent counts a c)
    (hf : ∀ b, Silent counts (f b) c) : Silent counts (a >>= f) c := by
  apply Weighs.bind ha
  · rintro _ b rfl
    exact hf b
  · exact fun _ _ h => h

/-- A call that does not count, and what is made of its answer. -/
theorem call_bind {x : Cloud.Call} (hx : counts x = false)
    {f : Except x.Fault x.Value → Action Cloud α} (hf : ∀ r, Silent counts (f r) c) :
    Silent counts (Action.call (S := Cloud) x >>= f) c := Weighs.call_ignored_bind hx hf

end Silent

namespace Candid

variable {F : α → Prop} {G : β → Prop}

theorem pure {a : α} (h : F a) : Candid counts (Pure.pure a) F c := by
  refine Weighs.pure ⟨rfl, fun a' heq => ?_⟩
  cases heq
  exact h

theorem bind {a : Action Cloud α} {f : α → Action Cloud β} (ha : Candid counts a F c)
    (hf : ∀ a, F a → Candid counts (f a) G c) : Candid counts (a >>= f) G c := by
  apply Weighs.bind ha
  · rintro h a ⟨hok, hF⟩
    apply Weighs.mono (hf a (hF a rfl))
    rintro h' r ⟨hok', hG⟩
    rw [Owed, List.all_append, ← hok, ← hok']
    exact ⟨rfl, hG⟩
  · rintro h e ⟨hok, -⟩
    exact ⟨hok, fun _ heq => nomatch heq⟩

/-- A call that counts is the end unless its answer is tolerated. -/
theorem call_bind {x : Cloud.Call} (hx : counts x = true)
    {f : Except x.Fault x.Value → Action Cloud α}
    (hok : ∀ r, (Exchange.mk x r).tolerated = true → Candid counts (f r) F c)
    (herror : ∀ r, (Exchange.mk x r).tolerated = false → ∃ e, f r = throw e) :
    Candid counts (Action.call (S := Cloud) x >>= f) F c := by
  apply Weighs.call_bind hx
  intro r
  cases ht : (Exchange.mk x r).tolerated with
  | true =>
    apply Weighs.mono (hok r ht)
    rintro h r' ⟨hr, hF⟩
    rw [Owed, List.all_cons, ht, Bool.true_and]
    exact ⟨hr, hF⟩
  | false =>
    obtain ⟨e, he⟩ := herror r ht
    rw [he]
    refine Weighs.throw ⟨?_, fun _ heq => nomatch heq⟩
    rw [List.all_cons, ht]
    rfl

theorem exchange_bind {x : Cloud.Call} {message : String}
    {f : Except x.Fault x.Value → Except CloudError α} {rest : α → Action Cloud β}
    (hx : counts x = true) (hf : Judges x f) (hrest : ∀ a, Candid counts (rest a) G c) :
    Candid counts (Action.call (S := Cloud) x >>= fun answer =>
      Cloud.orFail message (f answer) >>= rest) G c := by
  apply call_bind hx
  · intro r ht
    have hr := (hf r).trans ht
    cases hfr : f r with
    | ok a => exact hrest a
    | error e => rw [hfr] at hr; cases hr
  · intro r ht
    have hr := (hf r).trans ht
    cases hfr : f r with
    | ok a => rw [hfr] at hr; cases hr
    | error e => exact ⟨_, rfl⟩

theorem exchange {x : Cloud.Call} {message : String}
    {f : Except x.Fault x.Value → Except CloudError α} (hx : counts x = true) (hf : Judges x f) :
    Candid counts (Action.call (S := Cloud) x >>= fun answer =>
      Cloud.orFail message (f answer)) (fun _ => True) c := by
  have h : Candid counts (Action.call (S := Cloud) x >>= fun answer =>
      Cloud.orFail message (f answer) >>= Pure.pure) (fun _ => True) c :=
    exchange_bind hx hf fun _ => pure trivial
  simpa only [bind_pure] using h

/-- A call and the state that is read off its answer. -/
theorem reading_bind {x : Cloud.Call} {f : Except x.Fault x.Value → Except Error α}
    {rest : α → Action Cloud β} (hx : counts x = true) (hf : Judges x f)
    (hrest : ∀ a, Candid counts (rest a) G c) :
    Candid counts (Action.call (S := Cloud) x >>= fun answer => liftM (f answer) >>= rest) G c := by
  apply call_bind hx
  · intro r ht
    have hr := (hf r).trans ht
    cases hfr : f r with
    | ok a => exact hrest a
    | error e => rw [hfr] at hr; cases hr
  · intro r ht
    have hr := (hf r).trans ht
    cases hfr : f r with
    | ok a => rw [hfr] at hr; cases hr
    | error e => exact ⟨e, rfl⟩

theorem reading {x : Cloud.Call} {f : Except x.Fault x.Value → Except Error α}
    (hx : counts x = true) (hf : Judges x f) :
    Candid counts (Action.call (S := Cloud) x >>= fun answer => liftM (f answer)) (fun _ => True)
      c := by
  have h : Candid counts (Action.call (S := Cloud) x >>= fun answer =>
      liftM (f answer) >>= Pure.pure) (fun _ => True) c :=
    reading_bind hx hf fun _ => pure trivial
  simpa only [bind_pure] using h

theorem forM {f : β → Action Cloud PUnit} (l : List β)
    (hf : ∀ b, Candid counts (f b) (fun _ => True) c) :
    Candid counts (l.forM f) (fun _ => True) c := by
  induction l with
  | nil => exact pure trivial
  | cons b rest ih => exact bind (hf b) fun _ _ => ih

/-- What no answer counts of can be done before. -/
theorem after_silent {a : Action Cloud β} {f : Except Error β → Action Cloud α}
    (ha : Silent counts a c) (hf : ∀ r, Candid counts (f r) F c) :
    Candid counts (a.result >>= f) F c := by
  apply Weighs.result_bind ha
  rintro _ r rfl
  exact hf r

end Candid

end ClusterKeeper
