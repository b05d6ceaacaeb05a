import ClusterKeeper.Proofs.PassRules

/-!
# Transcripts

What a run asked for and was replied, from its beginning to its end. Unlike a
history of the calls alone, a transcript shows where attempts start and which
of them is the last.
-/

set_option autoImplicit false

namespace ClusterKeeper

variable {S : Signature} {α β ε σ : Type}

structure Entry (S : Signature) where
  request : S.Call
  reply : S.Reply request

abbrev Transcript (S : Signature) : Type := List (Entry (Engine S))

namespace Entry

def call (x : S.Call) (r : S.Reply x) : Entry (Engine S) := ⟨.call x, r⟩

def turned (turn : RetryPolicy.Turn) (delay : Option Duration) : Entry (Engine S) :=
  ⟨.nextDelay turn, delay⟩

def slept (d : Duration) : Entry (Engine S) := ⟨.sleep d, ()⟩

def patience (n : Nat) : Entry (Engine S) := ⟨.patience, n⟩

def reported (r : Report) : Entry (Engine S) := ⟨.report r, ()⟩

end Entry

namespace Program

inductive Ends : Program S α → List (Entry S) → α → Prop where
  | pure (a : α) : Ends (.pure a) [] a
  | request {c : S.Call} {next : S.Reply c → Program S α} {r : S.Reply c} {t : List (Entry S)}
      {a : α} (h : Ends (next r) t a) : Ends (.request c next) (⟨c, r⟩ :: t) a

variable {p : Program S α} {f : α → Program S β} {t : List (Entry S)} {a : α} {b : β}

theorem ends_pure {a' : α} (h : (Program.pure a : Program S α).Ends t a') : t = [] ∧ a' = a := by
  cases h
  exact ⟨rfl, rfl⟩

theorem ends_request {c : S.Call} {next : S.Reply c → Program S α}
    (h : (Program.request c next).Ends t a) :
    ∃ r t', t = ⟨c, r⟩ :: t' ∧ (next r).Ends t' a := by
  cases h with
  | request h => exact ⟨_, _, rfl, h⟩

theorem ends_ask {c : S.Call} {r : S.Reply c} (h : (ask c).Ends t r) : t = [⟨c, r⟩] := by
  obtain ⟨r', t', rfl, hr⟩ := ends_request h
  obtain ⟨rfl, rfl⟩ := ends_pure hr
  rfl

theorem ends_bind (h : (p.bind f).Ends t b) :
    ∃ t₁ a t₂, t = t₁ ++ t₂ ∧ p.Ends t₁ a ∧ (f a).Ends t₂ b := by
  induction p generalizing t with
  | pure a => exact ⟨[], a, t, rfl, .pure a, h⟩
  | request c next ih =>
    obtain ⟨r, t', rfl, hr⟩ := ends_request h
    obtain ⟨t₁, a, t₂, rfl, h₁, h₂⟩ := ih r hr
    exact ⟨⟨c, r⟩ :: t₁, a, t₂, rfl, .request h₁, h₂⟩
  | unfinished => cases h

/-- Answering from a state gives a transcript. -/
theorem ends_of_run {answer : (c : S.Call) → σ → S.Reply c × σ} {s s' : σ}
    (h : p.run answer s = (some a, s')) : ∃ t, p.Ends t a := by
  induction p generalizing s with
  | pure a' => cases h; exact ⟨[], .pure a⟩
  | request c next ih =>
    obtain ⟨t, ht⟩ := ih _ h
    exact ⟨_, .request ht⟩
  | unfinished => cases h

end Program

namespace Engine

variable {t : Transcript S}

theorem ends_call {x : S.Call} {r : S.Reply x} (h : (Engine.call x).Ends t r) :
    t = [.call x r] := Program.ends_ask h

theorem ends_report {r : Report} {u : Unit} (h : (report (S := S) r).Ends t u) :
    t = [.reported r] := Program.ends_ask h

theorem ends_nextDelay {turn : RetryPolicy.Turn} {delay : Option Duration}
    (h : (nextDelay (S := S) turn).Ends t delay) : t = [.turned turn delay] := Program.ends_ask h

theorem ends_sleep {d : Duration} {u : Unit} (h : (sleep (S := S) d).Ends t u) :
    t = [.slept d] := Program.ends_ask h

theorem ends_patience {n : Nat} (h : (Engine.patience (S := S)).Ends t n) :
    t = [.patience n] := Program.ends_ask h

/-- Measuring shows in reports only. -/
theorem ends_reports {ms : List Measurement} {u : Unit}
    (h : (ms.forM fun m => report (S := S) (.measured m)).Ends t u) :
    t = ms.map fun m => .reported (.measured m) := by
  induction ms generalizing t with
  | nil => exact (Program.ends_pure h).1
  | cons m ms ih =>
    obtain ⟨t₁, _, t₂, rfl, h₁, h₂⟩ := Program.ends_bind h
    rw [ends_report h₁, ih h₂]
    rfl

end Engine

inductive Tried (A : Transcript S → Except ε α → Prop) :
    Nat → Transcript S → Except ε α → Prop where
  | last {t refusal : Transcript S} {r : Except ε α} (h : A t r)
      (hrefusal : refusal = [] ∨ ∃ turn, refusal = [.turned turn none]) :
      Tried A 1 (.reported .attempt :: t ++ refusal ++ [.reported .settled]) r
  | again {t t' : Transcript S} {e : ε} {n : Nat} {r : Except ε α} (h : A t (.error e))
      (turn : RetryPolicy.Turn) (d : Duration) (hrest : Tried A n t' r) :
      Tried A (n + 1) (.reported .attempt :: t ++ [.turned turn (some d), .slept d] ++ t') r

namespace RetryPolicy

def Permits (p : RetryPolicy) (n : Nat) : Prop :=
  ∀ limit, p.maxAttempts = some limit → n ≤ max 1 limit.toNat

def granted (p : RetryPolicy) (pauses slept : Nat) : Program (Engine S) (Option Duration) :=
  if p.exhaustedBy (pauses + 1) then pure none else Engine.nextDelay ⟨p, pauses, slept⟩

variable {step : σ → Program (Engine S) (Except ε α × σ)} {s s' : σ}
  {A : Transcript S → Except ε α → Prop} {r : Except ε α} {t : Transcript S}

inductive Concludes (p : RetryPolicy) (pauses slept : Nat) :
    Except ε α → Transcript S → Prop where
  | succeeded (a : α) : Concludes p pauses slept (.ok a) []
  | exhausted (e : ε) (h : p.exhaustedBy (pauses + 1) = true) :
      Concludes p pauses slept (.error e) []
  | declined (e : ε) (h : p.exhaustedBy (pauses + 1) = false) :
      Concludes p pauses slept (.error e) [.turned ⟨p, pauses, slept⟩ none]

theorem Concludes.refusal {p : RetryPolicy} {pauses slept : Nat} {refusal : Transcript S}
    (h : p.Concludes pauses slept r refusal) :
    refusal = [] ∨ ∃ turn, refusal = [.turned turn none] := by
  cases h with
  | succeeded a => exact .inl rfl
  | exhausted e h => exact .inl rfl
  | declined e h => exact .inr ⟨_, rfl⟩

theorem ends_granted {p : RetryPolicy} {pauses slept : Nat} {delay : Option Duration}
    (h : (p.granted (S := S) pauses slept).Ends t delay) :
    p.exhaustedBy (pauses + 1) = true ∧ t = [] ∧ delay = none ∨
      p.exhaustedBy (pauses + 1) = false ∧ t = [.turned ⟨p, pauses, slept⟩ delay] := by
  unfold granted at h
  split at h
  · next hp =>
    obtain ⟨rfl, rfl⟩ := Program.ends_pure h
    exact .inl ⟨hp, rfl, rfl⟩
  · next hp => exact .inr ⟨Bool.eq_false_iff.mpr hp, Engine.ends_nextDelay h⟩

theorem attempts_succ (p : RetryPolicy) (step : σ → Program (Engine S) (Except ε α × σ))
    (left pauses slept : Nat) (s : σ) :
    p.attempts step (left + 1) pauses slept s = (Engine.report .attempt).bind fun _ =>
      (step s).bind fun ended => match ended with
        | (.ok a, s) => (Engine.report .settled).bind fun _ => .pure (.ok a, s)
        | (.error e, s) => (p.granted pauses slept).bind fun delay => match delay with
          | none => (Engine.report .settled).bind fun _ => .pure (.error e, s)
          | some d => (Engine.sleep d).bind fun _ =>
            p.attempts step left (pauses + 1) (slept + d.nanoseconds) s := by
  rw [attempts]
  congr 1
  funext _
  congr 1
  funext ⟨r, s⟩
  cases r with
  | ok a => rfl
  | error e =>
    unfold granted
    dsimp only
    split <;> rfl

/-- The first attempt is the last one, or it has failed and there are others after a
pause. -/
theorem ends_attempts_succ {p : RetryPolicy} {left pauses slept : Nat}
    (h : (p.attempts step (left + 1) pauses slept s).Ends t (r, s')) :
    (∃ t₁ refusal, (step s).Ends t₁ (r, s') ∧ p.Concludes pauses slept r refusal ∧
      t = .reported .attempt :: t₁ ++ refusal ++ [.reported .settled]) ∨
    ∃ t₁ e s₁ d t₂, (step s).Ends t₁ (.error e, s₁) ∧ p.exhaustedBy (pauses + 1) = false ∧
      t = .reported .attempt :: t₁ ++ [.turned ⟨p, pauses, slept⟩ (some d), .slept d] ++ t₂ ∧
        (p.attempts step left (pauses + 1) (slept + d.nanoseconds) s₁).Ends t₂ (r, s') := by
  rw [attempts_succ] at h
  obtain ⟨_, _, t₀, rfl, hreport, h₀⟩ := Program.ends_bind h
  cases Engine.ends_report hreport
  obtain ⟨t₁, ⟨r₁, s₁⟩, t₂, rfl, h₁, h₂⟩ := Program.ends_bind h₀
  cases r₁ with
  | ok a =>
    obtain ⟨_, _, t₃, rfl, hsettled, h₃⟩ := Program.ends_bind h₂
    cases Engine.ends_report hsettled
    obtain ⟨rfl, heq⟩ := Program.ends_pure h₃
    cases heq
    exact .inl ⟨t₁, [], h₁, .succeeded a, by simp⟩
  | error e =>
    obtain ⟨refusal, delay, t₃, rfl, hdelay, h₃⟩ := Program.ends_bind h₂
    cases delay with
    | none =>
      obtain ⟨_, _, t₄, rfl, hsettled, h₄⟩ := Program.ends_bind h₃
      cases Engine.ends_report hsettled
      obtain ⟨rfl, heq⟩ := Program.ends_pure h₄
      cases heq
      refine .inl ⟨t₁, refusal, h₁, ?_, by simp⟩
      rcases ends_granted hdelay with ⟨hexhausted, rfl, -⟩ | ⟨hmore, rfl⟩
      · exact .exhausted e hexhausted
      · exact .declined e hmore
    | some d =>
      obtain ⟨_, _, t₄, rfl, hsleep, h₄⟩ := Program.ends_bind h₃
      cases Engine.ends_sleep hsleep
      obtain ⟨hmore, rfl⟩ := (ends_granted hdelay).resolve_left nofun
      exact .inr ⟨t₁, e, s₁, d, t₄, h₁, hmore, by simp, h₄⟩

/-- What every attempt keeps the retried whole keeps. -/
theorem tried_of_attempts (p : RetryPolicy)
    (hstep : ∀ t r s', (step s).Ends t (r, s') → s' = s ∧ A t r) {left pauses slept : Nat}
    (h : (p.attempts step left pauses slept s).Ends t (r, s')) :
    s' = s ∧ ∃ n ≤ left, Tried A n t r := by
  induction left generalizing pauses slept t with
  | zero => cases h
  | succ left ih =>
    rcases ends_attempts_succ h with
      ⟨t₁, refusal, h₁, hconcludes, rfl⟩ | ⟨t₁, e, s₁, d, t₂, h₁, -, rfl, h₂⟩
    · obtain ⟨rfl, hA⟩ := hstep t₁ r s' h₁
      exact ⟨rfl, 1, by omega, .last hA hconcludes.refusal⟩
    · obtain ⟨rfl, hA⟩ := hstep t₁ _ s₁ h₁
      obtain ⟨hs, n, hn, hrest⟩ := ih h₂
      exact ⟨hs, n + 1, by omega, .again hA _ d hrest⟩

inductive Retried (p : RetryPolicy) (A : Transcript S → Except ε α → Prop) :
    Transcript S → Except ε α → Prop where
  | bounded {n : Nat} {t : Transcript S} {r : Except ε α} (hn : p.Permits n) (h : Tried A n t r) :
      Retried p A t r
  | patient {n : Nat} {t : Transcript S} {r : Except ε α} (ready : Nat) (hn : p.Permits n)
      (h : Tried A n t r) : Retried p A (.patience ready :: t) r

theorem retried_of_retryWith (p : RetryPolicy)
    (hstep : ∀ t r s', (step s).Ends t (r, s') → s' = s ∧ A t r)
    (h : (p.retryWith step s).Ends t (r, s')) : s' = s ∧ p.Retried A t r := by
  unfold retryWith at h
  split at h
  · next limit hlimit =>
    obtain ⟨hs, n, hn, ht⟩ := p.tried_of_attempts hstep h
    refine ⟨hs, .bounded (fun limit' hl => ?_) ht⟩
    cases hlimit.symm.trans hl
    exact hn
  · next hlimit =>
    obtain ⟨_, k, t', rfl, hp, hrest⟩ := Program.ends_bind h
    cases Engine.ends_patience hp
    obtain ⟨hs, n, -, ht⟩ := p.tried_of_attempts hstep hrest
    refine ⟨hs, .patient k (fun limit hl => ?_) ht⟩
    cases hlimit.symm.trans hl

theorem retried_of_retry (p : RetryPolicy) {step : Program (Engine S) (Except ε α)}
    (hstep : ∀ t r, step.Ends t r → A t r) (h : (p.retry step).Ends t r) : p.Retried A t r := by
  obtain ⟨t₁, ⟨r₁, _⟩, t₂, rfl, h₁, h₂⟩ := Program.ends_bind h
  obtain ⟨rfl, rfl⟩ := Program.ends_pure h₂
  rw [List.append_nil]
  refine (p.retried_of_retryWith (fun t r _ h => ⟨rfl, ?_⟩) h₁).2
  obtain ⟨t₃, r₃, t₄, rfl, h₃, h₄⟩ := Program.ends_bind h
  obtain ⟨rfl, heq⟩ := Program.ends_pure h₄
  cases heq
  rw [List.append_nil]
  exact hstep t₃ r h₃

end RetryPolicy

namespace Action

variable {c c' : Cancellation} {t : Transcript S} {r : Except Error α}

theorem ends_bind {a : Action S β} {f : β → Action S α}
    (h : ((a >>= f).run c).Ends t (r, c')) :
    (∃ t₁ b c₁ t₂, t = t₁ ++ t₂ ∧ (a.run c).Ends t₁ (.ok b, c₁) ∧
      ((f b).run c₁).Ends t₂ (r, c')) ∨
    ∃ e, r = .error e ∧ (a.run c).Ends t (.error e, c') := by
  rw [run_bind] at h
  obtain ⟨t₁, ⟨r₁, c₁⟩, t₂, rfl, h₁, h₂⟩ := Program.ends_bind h
  cases r₁ with
  | ok b => exact .inl ⟨t₁, b, c₁, t₂, rfl, h₁, h₂⟩
  | error e =>
    obtain ⟨rfl, heq⟩ := Program.ends_pure h₂
    cases heq
    rw [List.append_nil]
    exact .inr ⟨e, rfl, h₁⟩

theorem ends_lift {p : Program (Engine S) α}
    (h : ((liftM p : Action S α).run c).Ends t (r, c')) :
    c' = c ∧ ∃ a, r = .ok a ∧ p.Ends t a := by
  rw [run_lift] at h
  obtain ⟨t₁, a, t₂, rfl, h₁, h₂⟩ := Program.ends_bind h
  obtain ⟨rfl, heq⟩ := Program.ends_pure h₂
  cases heq
  rw [List.append_nil]
  exact ⟨rfl, a, rfl, h₁⟩

theorem ends_result {a : Action S α} {r : Except Error (Except Error α)}
    (h : (a.result.run c).Ends t (r, c')) : ∃ r', r = .ok r' ∧ (a.run c).Ends t (r', c') := by
  obtain ⟨t₁, ⟨r₁, c₁⟩, t₂, rfl, h₁, h₂⟩ := Program.ends_bind h
  obtain ⟨rfl, heq⟩ := Program.ends_pure h₂
  cases heq
  rw [List.append_nil]
  exact ⟨r₁, rfl, h₁⟩

theorem ends_unlessCanceled {rest : Action S Unit} {r : Except Error Unit}
    (h : ((unlessCanceled rest).run c).Ends t (r, c')) :
    c.skipsResource = true ∧ t = [] ∧ r = .ok () ∧ c' = c ∨
      c.skipsResource = false ∧ (rest.run c).Ends t (r, c') := by
  have hrun : (unlessCanceled rest).run c =
      (if c.skipsResource then Pure.pure () else rest : Action S Unit).run c := rfl
  rw [hrun] at h
  cases hc : c.skipsResource with
  | true =>
    rw [hc] at h
    obtain ⟨rfl, heq⟩ := Program.ends_pure h
    cases heq
    exact .inl ⟨rfl, rfl, rfl, rfl⟩
  | false =>
    rw [hc] at h
    exact .inr ⟨rfl, h⟩

/-- Measuring adds reports at the end. -/
theorem ends_measuring {a : Action S α} {project resource : String} {o : Operation}
    (h : (((Middleware.measuring project).around resource o a).run c).Ends t (r, c')) :
    ∃ t₁, t = t₁ ++ (Middleware.measurements ⟨resource, o, project⟩ r).map
        (fun m => .reported (.measured m)) ∧ (a.run c).Ends t₁ (r, c') := by
  obtain ⟨t₁, ⟨r₁, c₁⟩, t₂, rfl, h₁, h₂⟩ := Program.ends_bind h
  obtain ⟨t₃, _, t₄, rfl, h₃, h₄⟩ := Program.ends_bind h₂
  obtain ⟨rfl, heq⟩ := Program.ends_pure h₄
  cases heq
  rw [Engine.ends_reports h₃, List.append_nil]
  exact ⟨t₁, rfl, h₁⟩

def Yields (a : Action S α) (c : Cancellation) (Q : Transcript S → Except Error α → Prop) : Prop :=
  ∀ t r c', (a.run c).Ends t (r, c') → c' = c ∧ Q t r

variable {Q Q' : Transcript S → Except Error α → Prop}

theorem Yields.mono {a : Action S α} (h : a.Yields c Q) (hQ : ∀ t r, Q t r → Q' t r) :
    a.Yields c Q' := fun t r c' ht => ⟨(h t r c' ht).1, hQ t r (h t r c' ht).2⟩

theorem Yields.pure {a : α} (h : Q [] (.ok a)) : (Pure.pure a : Action S α).Yields c Q := by
  intro t r c' ht
  obtain ⟨rfl, heq⟩ := Program.ends_pure ht
  cases heq
  exact ⟨rfl, h⟩

theorem Yields.throw {e : Error} (h : Q [] (.error e)) :
    (MonadExcept.throw e : Action S α).Yields c Q := by
  intro t r c' ht
  obtain ⟨rfl, heq⟩ := Program.ends_pure ht
  cases heq
  exact ⟨rfl, h⟩

theorem Yields.bind {a : Action S β} {f : β → Action S α}
    {A : Transcript S → Except Error β → Prop} (ha : a.Yields c A)
    (hf : ∀ t b, A t (.ok b) → (f b).Yields c fun t' r => Q (t ++ t') r)
    (he : ∀ t e, A t (.error e) → Q t (.error e)) : (a >>= f).Yields c Q := by
  intro t r c' ht
  rcases ends_bind ht with ⟨t₁, b, c₁, t₂, rfl, h₁, h₂⟩ | ⟨e, rfl, h₁⟩
  · obtain ⟨rfl, hA⟩ := ha t₁ _ c₁ h₁
    exact hf t₁ b hA t₂ r c' h₂
  · obtain ⟨rfl, hA⟩ := ha t _ c' h₁
    exact ⟨rfl, he t e hA⟩

theorem Yields.lift {p : Program (Engine S) α} (h : ∀ t a, p.Ends t a → Q t (.ok a)) :
    (liftM p : Action S α).Yields c Q := by
  intro t r c' ht
  obtain ⟨rfl, a, rfl, hp⟩ := ends_lift ht
  exact ⟨rfl, h t a hp⟩

theorem Yields.call_bind {x : S.Call} {f : S.Reply x → Action S α}
    (hf : ∀ r, (f r).Yields c fun t r' => Q (.call x r :: t) r') :
    (Action.call x >>= f).Yields c Q := by
  apply Yields.bind (A := fun t r => ∃ reply, t = [.call x reply] ∧ r = .ok reply)
  · apply Yields.lift
    exact fun t reply ht => ⟨reply, Engine.ends_call ht, rfl⟩
  · rintro _ _ ⟨reply, rfl, heq⟩
    cases heq
    exact hf _
  · rintro _ e ⟨reply, -, heq⟩
    cases heq

/-- However the action ends, it goes on. -/
theorem Yields.result_bind {a : Action S β} {f : Except Error β → Action S α}
    {A : Transcript S → Except Error β → Prop} (ha : a.Yields c A)
    (hf : ∀ t r, A t r → (f r).Yields c fun t' r' => Q (t ++ t') r') :
    (a.result >>= f).Yields c Q := by
  apply Yields.bind (A := fun t r => ∃ r', r = .ok r' ∧ A t r')
  · intro t r c' ht
    obtain ⟨r', rfl, h₁⟩ := ends_result ht
    obtain ⟨hc, hA⟩ := ha t r' c' h₁
    exact ⟨hc, r', rfl, hA⟩
  · rintro t _ ⟨r, heq, hA⟩
    cases heq
    exact hf t _ hA
  · rintro t e ⟨r, heq, -⟩
    cases heq

theorem Yields.unlessCanceled {a : Action S Unit} {Q : Transcript S → Except Error Unit → Prop}
    (hc : c.skipsResource = false) (h : a.Yields c Q) : (Action.unlessCanceled a).Yields c Q := by
  intro t r c' ht
  rcases ends_unlessCanceled ht with ⟨hs, -⟩ | ⟨-, ha⟩
  · cases hc.symm.trans hs
  · exact h t r c' ha

theorem Yields.retrying {a : Action S α} (p : RetryPolicy) (resource : String) {o : Operation}
    (ho : o.mutates = true) (h : a.Yields c Q) :
    ((Middleware.retrying p).around resource o a).Yields c (p.Retried Q) := by
  dsimp only [Middleware.retrying]
  rw [if_pos ho]
  exact fun t r c' ht => p.retried_of_retryWith h ht

theorem Yields.measuring {a : Action S α} (project resource : String) (o : Operation)
    (h : a.Yields c fun t r =>
      ∀ ms : List Measurement, Q (t ++ ms.map fun m => .reported (.measured m)) r) :
    ((Middleware.measuring project).around resource o a).Yields c Q := by
  intro t r c' ht
  obtain ⟨t₁, rfl, h₁⟩ := ends_measuring ht
  obtain ⟨hc, hQ⟩ := h t₁ r c' h₁
  exact ⟨hc, hQ _⟩

end Action

end ClusterKeeper
