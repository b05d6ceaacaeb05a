import ClusterKeeper.Proofs.RetriedSteps
import ClusterKeeper.Proofs.Tolerance
import ClusterKeeper.Rehearsal.Attempts
import Mathlib.Order.Bounds.Basic

/-!
# The retry loop

What a run under a policy consists of: the attempts that failed, each with the pause
after it, and the last attempt. From this one description come how often the operation
is called, what is returned, and why there is no further attempt.
-/

set_option autoImplicit false

namespace ClusterKeeper

variable {S : Signature} {α ε σ : Type}

def Obliging (t : Transcript S) : Prop :=
  ∀ turn : RetryPolicy.Turn, turn.policy.maxElapsed = none → .turned turn none ∉ t

theorem Obliging.left {t t' : Transcript S} (h : Obliging (t ++ t')) : Obliging t :=
  fun turn hturn hmem => h turn hturn (List.mem_append_left t' hmem)

theorem Obliging.right {t t' : Transcript S} (h : Obliging (t ++ t')) : Obliging t' :=
  fun turn hturn hmem => h turn hturn (List.mem_append_right t hmem)

def Entry.refused : Entry (Engine S) → Bool
  | ⟨.nextDelay _, (delay : Option Duration)⟩ => delay.isNone
  | _ => false

theorem obliging_of_all {t : Transcript S} (h : t.all (fun e => !e.refused) = true) :
    Obliging t := by
  intro turn _ hmem
  have hrefused := List.all_eq_true.mp h _ hmem
  cases hrefused

def Entry.pause? : Entry (Engine S) → Option Duration
  | ⟨.sleep d, _⟩ => some d
  | _ => none

def pausesIn (t : Transcript S) : List Duration := t.filterMap Entry.pause?

section Pauses

variable (t t' : Transcript S)

@[simp] theorem pausesIn_nil : pausesIn ([] : Transcript S) = [] := rfl

@[simp] theorem pausesIn_append : pausesIn (t ++ t') = pausesIn t ++ pausesIn t' :=
  List.filterMap_append

@[simp] theorem pausesIn_reported (r : Report) : pausesIn (.reported r :: t) = pausesIn t := rfl

@[simp] theorem pausesIn_turned (turn : RetryPolicy.Turn) (delay : Option Duration) :
    pausesIn (.turned turn delay :: t) = pausesIn t := rfl

@[simp] theorem pausesIn_slept (d : Duration) : pausesIn (.slept d :: t) = d :: pausesIn t := rfl

@[simp] theorem pausesIn_patience (n : Nat) : pausesIn (.patience n :: t) = pausesIn t := rfl

end Pauses

namespace RetryPolicy

structure Setback (S : Signature) (ε : Type) where
  transcript : Transcript S
  failure : ε
  pause : Duration

namespace Setback

def paused : List (Setback S ε) → Nat
  | [] => 0
  | b :: rest => b.pause.nanoseconds + paused rest

def entries (p : RetryPolicy) : (pauses slept : Nat) → List (Setback S ε) → Transcript S
  | _, _, [] => []
  | pauses, slept, b :: rest =>
    .reported .attempt :: b.transcript ++
      [.turned ⟨p, pauses, slept⟩ (some b.pause), .slept b.pause] ++
      entries p (pauses + 1) (slept + b.pause.nanoseconds) rest

end Setback

structure Series (p : RetryPolicy) (A : Transcript S → Except ε α → Prop) (pauses slept : Nat)
    (t : Transcript S) (r : Except ε α) where
  setbacks : List (Setback S ε)
  last : Transcript S
  refusal : Transcript S
  failed : ∀ b ∈ setbacks, A b.transcript (.error b.failure)
  ended : A last r
  lasting : ∀ i < setbacks.length, p.exhaustedBy (pauses + i + 1) = false
  concludes : p.Concludes (pauses + setbacks.length) (slept + Setback.paused setbacks) r refusal
  transcript : t = Setback.entries p pauses slept setbacks ++
    .reported .attempt :: last ++ refusal ++ [.reported .settled]

inductive Opens (p : RetryPolicy) : Transcript S → Prop where
  | bounded {limit : UInt32} (h : p.maxAttempts = some limit) : Opens p []
  | patient (h : p.maxAttempts = none) (ready : Nat) : Opens p [.patience ready]

structure Trials (p : RetryPolicy) (A : Transcript S → Except ε α → Prop) (t : Transcript S)
    (r : Except ε α) where
  opening : Transcript S
  rest : Transcript S
  opens : p.Opens opening
  series : p.Series A 0 0 rest r
  transcript : t = opening ++ rest

section Shape

variable {p : RetryPolicy} {A B : Transcript S → Except ε α → Prop} {pauses slept : Nat}
  {t : Transcript S} {r : Except ε α} {step : σ → Program (Engine S) (Except ε α × σ)} {s s' : σ}

def Series.single (hA : A t r) {refusal : Transcript S}
    (h : p.Concludes pauses slept r refusal) :
    p.Series A pauses slept (.reported .attempt :: t ++ refusal ++ [.reported .settled]) r where
  setbacks := []
  last := t
  refusal := refusal
  failed := List.forall_mem_nil _
  ended := hA
  lasting := nofun
  concludes := h
  transcript := rfl

def Series.after (b : Setback S ε) (hA : A b.transcript (.error b.failure))
    (hmore : p.exhaustedBy (pauses + 1) = false)
    (x : p.Series A (pauses + 1) (slept + b.pause.nanoseconds) t r) :
    p.Series A pauses slept (.reported .attempt :: b.transcript ++
      [.turned ⟨p, pauses, slept⟩ (some b.pause), .slept b.pause] ++ t) r where
  setbacks := b :: x.setbacks
  last := x.last
  refusal := x.refusal
  failed := List.forall_mem_cons.mpr ⟨hA, x.failed⟩
  ended := x.ended
  lasting i hi := by
    cases i with
    | zero => exact hmore
    | succ i =>
      rw [← Nat.add_assoc, Nat.add_right_comm pauses]
      exact x.lasting i (Nat.lt_of_succ_lt_succ hi)
  concludes := by
    have h := x.concludes
    rw [Nat.add_right_comm, Nat.add_assoc, Nat.add_assoc slept] at h
    exact h
  transcript := by
    conv_lhs => rw [x.transcript]
    simp [Setback.entries]

theorem series_of_attempts (p : RetryPolicy)
    (hstep : ∀ t r s', (step s).Ends t (r, s') → s' = s ∧ A t r) {left : Nat}
    (h : (p.attempts step left pauses slept s).Ends t (r, s')) :
    s' = s ∧ Nonempty (p.Series A pauses slept t r) := by
  induction left generalizing pauses slept t with
  | zero => cases h
  | succ left ih =>
    rcases ends_attempts_succ h with
      ⟨t₁, refusal, h₁, hconcludes, rfl⟩ | ⟨t₁, e, s₁, d, t₂, h₁, hmore, rfl, h₂⟩
    · obtain ⟨rfl, hA⟩ := hstep t₁ r s' h₁
      exact ⟨rfl, ⟨.single hA hconcludes⟩⟩
    · obtain ⟨rfl, hA⟩ := hstep t₁ _ s₁ h₁
      obtain ⟨hs, ⟨x⟩⟩ := ih h₂
      exact ⟨hs, ⟨.after ⟨t₁, e, d⟩ hA hmore x⟩⟩

/-- A step that leaves the state as it was is repeated from the same state. -/
theorem trials_of_retryWith (p : RetryPolicy)
    (hstep : ∀ t r s', (step s).Ends t (r, s') → s' = s ∧ A t r)
    (h : (p.retryWith step s).Ends t (r, s')) : s' = s ∧ Nonempty (p.Trials A t r) := by
  unfold retryWith at h
  split at h
  · next limit hlimit =>
    obtain ⟨hs, ⟨x⟩⟩ := p.series_of_attempts hstep h
    exact ⟨hs, ⟨[], t, .bounded hlimit, x, rfl⟩⟩
  · next hlimit =>
    obtain ⟨_, ready, t', rfl, hready, h'⟩ := Program.ends_bind h
    cases Engine.ends_patience hready
    obtain ⟨hs, ⟨x⟩⟩ := p.series_of_attempts hstep h'
    exact ⟨hs, ⟨[.patience ready], t', .patient hlimit ready, x, rfl⟩⟩

theorem trials_of_retry (p : RetryPolicy) {step : Program (Engine S) (Except ε α)}
    (h : (p.retry step).Ends t r) : Nonempty (p.Trials step.Ends t r) := by
  obtain ⟨t₁, ⟨r₁, _⟩, t₂, rfl, h₁, h₂⟩ := Program.ends_bind h
  obtain ⟨rfl, rfl⟩ := Program.ends_pure h₂
  rw [List.append_nil]
  refine (p.trials_of_retryWith (fun t r _ h => ⟨rfl, ?_⟩) h₁).2
  obtain ⟨t₃, r₃, t₄, rfl, h₃, h₄⟩ := Program.ends_bind h
  obtain ⟨rfl, heq⟩ := Program.ends_pure h₄
  cases heq
  rwa [List.append_nil]

end Shape

/-! ### What the description says -/

section Counts

variable {p : RetryPolicy} {A : Transcript S → Except ε α → Prop} {t : Transcript S}
  {r : Except ε α} {limit : UInt32}

def Trials.setbacks (x : p.Trials A t r) : List (Setback S ε) := x.series.setbacks

def Trials.calls (x : p.Trials A t r) : Nat := x.setbacks.length + 1

def Trials.refusal (x : p.Trials A t r) : Transcript S := x.series.refusal

def Trials.Has (x : p.Trials A t r) (outcome : Nat → Except ε α) : Prop :=
  (∀ i b, x.setbacks[i]? = some b → outcome i = .error b.failure) ∧ outcome x.setbacks.length = r

theorem exhaustedBy_eq (hlimit : p.maxAttempts = some limit) (n : Nat) :
    p.exhaustedBy n = decide (limit.toNat ≤ n) := by
  rw [exhaustedBy, hlimit]
  rfl

theorem Trials.concludes (x : p.Trials A t r) :
    p.Concludes x.setbacks.length (Setback.paused x.setbacks) r x.refusal := by
  have h := x.series.concludes
  rwa [Nat.zero_add, Nat.zero_add] at h

/-- Before the last attempt the limit has not been reached. -/
theorem Trials.lt_limit (x : p.Trials A t r) (hlimit : p.maxAttempts = some limit) {i : Nat}
    (hi : i < x.setbacks.length) : i + 1 < limit.toNat := by
  have h := x.series.lasting i hi
  rw [exhaustedBy_eq hlimit, decide_eq_false_iff_not] at h
  omega

theorem Trials.calls_le (x : p.Trials A t r) (hlimit : p.maxAttempts = some limit) :
    x.calls ≤ max 1 limit.toNat := by
  unfold calls
  rcases Nat.eq_zero_or_pos x.setbacks.length with h0 | hpos
  · omega
  · have := x.lt_limit hlimit (Nat.sub_lt hpos Nat.one_pos)
    omega

theorem Trials.calls_eq (x : p.Trials A t r) (hlimit : p.maxAttempts = some limit)
    (hexhausted : p.exhaustedBy x.calls = true) : x.calls = max 1 limit.toNat := by
  have hle := x.calls_le hlimit
  rw [exhaustedBy_eq hlimit, decide_eq_true_eq] at hexhausted
  unfold calls at *
  omega

/-- There is a reason why no attempt follows. -/
theorem Trials.stops (x : p.Trials A t r) :
    r.isOk = true ∨ (∃ limit, p.maxAttempts = some limit ∧ x.calls = max 1 limit.toNat) ∨
      x.refusal = [.turned ⟨p, x.setbacks.length, Setback.paused x.setbacks⟩ none] := by
  generalize hrefusal : x.refusal = refusal
  have hconcludes := x.concludes
  rw [hrefusal] at hconcludes
  cases hconcludes with
  | succeeded a => exact .inl rfl
  | exhausted e hexhausted =>
    cases hlimit : p.maxAttempts with
    | none => simp [exhaustedBy, hlimit] at hexhausted
    | some limit => exact .inr (.inl ⟨limit, rfl, x.calls_eq hlimit hexhausted⟩)
  | declined e h => exact .inr (.inr rfl)

/-- After the last allowed attempt nobody is asked for a pause. -/
theorem Trials.refusal_eq_nil (x : p.Trials A t r) (hlimit : p.maxAttempts = some limit)
    (hcalls : x.calls = max 1 limit.toNat) : x.refusal = [] := by
  have hexhausted : p.exhaustedBy x.calls = true := by
    rw [exhaustedBy_eq hlimit, decide_eq_true_eq]
    omega
  generalize hrefusal : x.refusal = refusal
  have hconcludes := x.concludes
  rw [hrefusal] at hconcludes
  cases hconcludes with
  | succeeded a => rfl
  | exhausted e h => rfl
  | declined e h => cases hexhausted.symm.trans h

theorem pausesIn_entries {setbacks : List (Setback S ε)}
    (h : ∀ b ∈ setbacks, pausesIn b.transcript = []) (pauses slept : Nat) :
    pausesIn (Setback.entries p pauses slept setbacks) = setbacks.map Setback.pause := by
  induction setbacks generalizing pauses slept with
  | nil => rfl
  | cons b rest ih =>
    obtain ⟨hb, hrest⟩ := List.forall_mem_cons.mp h
    simp [Setback.entries, hb, ih hrest]

theorem Opens.pausesIn_eq (h : p.Opens t) : pausesIn t = [] := by
  cases h with
  | bounded h => rfl
  | patient h ready => rfl

/-- Apart from what the operation does there is one pause after each failure but the
last. -/
theorem Trials.pausesIn_eq (x : p.Trials A t r) (hA : ∀ t r, A t r → pausesIn t = []) :
    pausesIn t = x.setbacks.map Setback.pause := by
  have hrefusal : pausesIn x.series.refusal = [] := by
    rcases x.series.concludes.refusal with h | ⟨turn, h⟩ <;> rw [h] <;> rfl
  calc pausesIn t
    _ = pausesIn (x.opening ++ x.rest) := congrArg pausesIn x.transcript
    _ = pausesIn x.rest := by rw [pausesIn_append, x.opens.pausesIn_eq, List.nil_append]
    _ = pausesIn (Setback.entries p 0 0 x.setbacks) := by
      conv_lhs => rw [x.series.transcript]
      simp [hrefusal, hA _ _ x.series.ended, setbacks]
    _ = x.setbacks.map Setback.pause :=
      pausesIn_entries (fun b hb => hA _ _ (x.series.failed b hb)) 0 0

theorem Trials.not_declined (x : p.Trials A t r) (helapsed : p.maxElapsed = none)
    (ht : Obliging t) (turn : Turn) (hturn : turn.policy = p) : x.refusal ≠ [.turned turn none] := by
  intro hrefusal
  refine ht turn (by rw [hturn, helapsed]) ?_
  rw [x.transcript, x.series.transcript]
  have : x.series.refusal = [.turned turn none] := hrefusal
  simp [this]

/-- If no pause is refused, the calls end with a success or with the last one allowed. -/
theorem Trials.ok_or_exhausted (x : p.Trials A t r) (hlimit : p.maxAttempts = some limit)
    (helapsed : p.maxElapsed = none) (ht : Obliging t) :
    r.isOk = true ∨ x.calls = max 1 limit.toNat := by
  rcases x.stops with hok | ⟨limit', hlimit', hcalls⟩ | hrefusal
  · exact .inl hok
  · cases hlimit.symm.trans hlimit'
    exact .inr hcalls
  · exact absurd hrefusal (x.not_declined helapsed ht _ rfl)

/-- The last call is the first one that succeeds, or the last one allowed. -/
theorem Trials.isLeast (x : p.Trials A t r) (hlimit : p.maxAttempts = some limit)
    (helapsed : p.maxElapsed = none) (ht : Obliging t) {outcome : Nat → Except ε α}
    (hx : x.Has outcome) :
    IsLeast {i | (outcome i).isOk = true ∨ i + 1 = max 1 limit.toNat} x.setbacks.length := by
  constructor
  · exact (x.ok_or_exhausted hlimit helapsed ht).imp_left fun hok => hx.2.symm ▸ hok
  · rintro i hi
    by_contra hlt
    replace hlt : i < x.setbacks.length := Nat.lt_of_not_le hlt
    rcases hi with hok | heq
    · rw [hx.1 i _ (List.getElem?_eq_getElem hlt)] at hok
      cases hok
    · have := x.lt_limit hlimit hlt
      omega

end Counts

/-! ### Attempts at a call of the cloud -/

section Exchanges

variable {p : RetryPolicy} {A : Transcript Cloud → Except ε α → Prop} {t : Transcript Cloud}
  {r : Except ε α}

theorem exchanges_entries (setbacks : List (Setback Cloud ε)) (pauses slept : Nat) :
    exchanges (Setback.entries p pauses slept setbacks) =
      setbacks.flatMap fun b => exchanges b.transcript := by
  induction setbacks generalizing pauses slept with
  | nil => rfl
  | cons b rest ih => simp [Setback.entries, ih]

theorem Opens.exchanges_eq (h : p.Opens t) : exchanges t = [] := by
  cases h with
  | bounded h => rfl
  | patient h ready => rfl

theorem Trials.exchanges_eq (x : p.Trials A t r) :
    exchanges t = (x.setbacks.flatMap fun b => exchanges b.transcript) ++
      exchanges x.series.last := by
  have hrefusal : exchanges x.series.refusal = [] := by
    rcases x.series.concludes.refusal with h | ⟨turn, h⟩ <;> rw [h] <;> rfl
  calc exchanges t
    _ = exchanges (x.opening ++ x.rest) := congrArg exchanges x.transcript
    _ = exchanges x.rest := by rw [exchanges_append, x.opens.exchanges_eq, List.nil_append]
    _ = exchanges (Setback.entries p 0 0 x.setbacks) ++ exchanges x.series.last := by
      conv_lhs => rw [x.series.transcript]
      simp [hrefusal, setbacks]
    _ = _ := by rw [exchanges_entries]

/-- If every attempt is of a certain form, the run is a list of these. -/
theorem Trials.described {δ : Type} {calls : δ → List Exchange} {result : δ → Except ε α}
    (x : p.Trials A t r) (hA : ∀ t r, A t r → ∃ d, exchanges t = calls d ∧ r = result d) :
    ∃ (failed : List δ) (last : δ), failed.length + 1 = x.calls ∧
      exchanges t = (failed ++ [last]).flatMap calls ∧
      (∀ d ∈ failed, (result d).isOk = false) ∧ r = result last := by
  have hfailed : ∀ setbacks : List (Setback Cloud ε),
      (∀ b ∈ setbacks, A b.transcript (.error b.failure)) →
      ∃ failed : List δ, failed.length = setbacks.length ∧
        (setbacks.flatMap fun b => exchanges b.transcript) = failed.flatMap calls ∧
        ∀ d ∈ failed, (result d).isOk = false := by
    intro setbacks h
    induction setbacks with
    | nil => exact ⟨[], rfl, rfl, List.forall_mem_nil _⟩
    | cons b rest ih =>
      obtain ⟨hb, hrest⟩ := List.forall_mem_cons.mp h
      obtain ⟨d, hd, hresult⟩ := hA _ _ hb
      obtain ⟨failed, hlength, hcalls, hfailed⟩ := ih hrest
      refine ⟨d :: failed, congrArg (· + 1) hlength, ?_, ?_⟩
      · rw [List.flatMap_cons, List.flatMap_cons, hd, hcalls]
      · exact List.forall_mem_cons.mpr ⟨hresult ▸ rfl, hfailed⟩
  obtain ⟨failed, hlength, hcalls, hfails⟩ := hfailed x.setbacks x.series.failed
  obtain ⟨last, hlast, hresult⟩ := hA _ _ x.series.ended
  refine ⟨failed, last, congrArg (· + 1) hlength, ?_, hfails, hresult⟩
  rw [x.exchanges_eq, hcalls, hlast, List.flatMap_append, List.flatMap_singleton]

end Exchanges

/-! ### Counting in a word -/

def counted (p : RetryPolicy) (step : σ → Program (Engine S) (Except ε α × σ)) :
    (left : Nat) → (made : UInt32) → (slept : Nat) → σ → Program (Engine S) (Except ε α × σ)
  | 0, _, _, _ => .unfinished
  | left + 1, made, slept, s =>
    if made.toNat + 1 = UInt32.size then .unfinished else do
      let attempt := made + 1
      Engine.report .attempt
      let (result, s) ← step s
      match result with
      | .ok a =>
        Engine.report .settled
        pure (.ok a, s)
      | .error e =>
        let delay ← if p.maxAttempts.any (· ≤ attempt) then pure none
          else Engine.nextDelay ⟨p, made.toNat, slept⟩
        match delay with
        | none =>
          Engine.report .settled
          pure (.error e, s)
        | some d =>
          Engine.sleep d
          p.counted step left attempt (slept + d.nanoseconds) s

/-- A bounded policy counts to its bound and no further. -/
theorem attempts_eq_counted {p : RetryPolicy} {limit : UInt32}
    (hlimit : p.maxAttempts = some limit) (step : σ → Program (Engine S) (Except ε α × σ))
    {left slept : Nat} {made : UInt32} (hmade : made.toNat < max 1 limit.toNat) (s : σ) :
    p.attempts step left made.toNat slept s = p.counted step left made slept s := by
  induction left generalizing made slept s with
  | zero => rfl
  | succ left ih =>
    have hword : limit.toNat < UInt32.size := limit.toNat_lt
    have hfits : made.toNat + 1 < UInt32.size := by
      have : UInt32.size = 4294967296 := rfl
      omega
    have hattempt : (made + 1).toNat = made.toNat + 1 := by
      rw [UInt32.toNat_add]
      exact Nat.mod_eq_of_lt hfits
    have hexhausted : p.maxAttempts.any (· ≤ made + 1) = p.exhaustedBy (made.toNat + 1) := by
      rw [exhaustedBy_eq hlimit, hlimit, ← hattempt]
      rfl
    rw [attempts, counted, if_neg (Nat.ne_of_lt hfits)]
    dsimp only
    rw [hexhausted]
    congr 1
    funext _
    congr 1
    funext ended
    obtain ⟨result, s'⟩ := ended
    cases result with
    | ok a => rfl
    | error e =>
      cases hmore : p.exhaustedBy (made.toNat + 1) with
      | true => rfl
      | false =>
        have hnext : (made + 1).toNat < max 1 limit.toNat := by
          rw [exhaustedBy_eq hlimit, decide_eq_false_iff_not] at hmore
          omega
        refine congrArg (Engine.nextDelay _).bind (funext fun delay => ?_)
        cases delay with
        | none => rfl
        | some d =>
          dsimp only
          congr 1
          funext _
          rw [← ih hnext s', hattempt]

def countedRetry (p : RetryPolicy) (limit : UInt32) (step : Program (Engine S) (Except ε α)) :
    Program (Engine S) (Except ε α) := do
  let (result, _) ← p.counted (fun _ => do pure (← step, ())) (max 1 limit.toNat) 0 0 ()
  pure result

theorem retry_eq_countedRetry {p : RetryPolicy} {limit : UInt32}
    (hlimit : p.maxAttempts = some limit) (step : Program (Engine S) (Except ε α)) :
    p.retry step = p.countedRetry limit step := by
  unfold retry retryWith countedRetry
  rw [hlimit]
  dsimp only
  rw [← attempts_eq_counted hlimit _ (Nat.lt_of_lt_of_le Nat.one_pos (Nat.le_max_left 1 _))]
  rfl

theorem whole_retry {p : RetryPolicy} {limit : UInt32} (hlimit : p.maxAttempts = some limit)
    {step : Program (Engine S) (Except ε α)} (hstep : step.Whole) : (p.retry step).Whole := by
  refine Program.Whole.bind (whole_retryWith hlimit (fun _ => ?_) ()) fun _ => trivial
  exact hstep.bind fun _ => trivial

/-- Whoever calls gets the outcome of the last call; all calls before it failed, and
between two calls there is one pause. There is no further call because this one
succeeded, because it was the last one allowed, or because no pause was granted. A
policy with a bound on the calls always comes to an end. -/
theorem retry_loop (p : RetryPolicy) (step : Program (Engine S) (Except ε α)) :
    (∀ t r, (p.retry step).Ends t r → ∃ x : p.Trials step.Ends t r,
      (r.isOk = true ∨ (∃ limit, p.maxAttempts = some limit ∧ x.calls = max 1 limit.toNat) ∨
        x.refusal = [.turned ⟨p, x.setbacks.length, Setback.paused x.setbacks⟩ none]) ∧
      ((∀ t r, step.Ends t r → pausesIn t = []) → pausesIn t = x.setbacks.map Setback.pause) ∧
      ∀ limit, p.maxAttempts = some limit →
        x.calls ≤ max 1 limit.toNat ∧
        (x.calls = max 1 limit.toNat → x.refusal = []) ∧
        (p.maxElapsed = none → Obliging t → ∀ outcome, x.Has outcome →
          IsLeast {i | (outcome i).isOk = true ∨ i + 1 = max 1 limit.toNat}
            x.setbacks.length)) ∧
    ∀ limit, p.maxAttempts = some limit →
      (step.Whole → (p.retry step).Whole) ∧ p.retry step = p.countedRetry limit step := by
  refine ⟨fun t r h => ?_, fun limit hlimit =>
    ⟨whole_retry hlimit, retry_eq_countedRetry hlimit step⟩⟩
  obtain ⟨x⟩ := p.trials_of_retry h
  refine ⟨x, x.stops, x.pausesIn_eq, fun limit hlimit => ⟨x.calls_le hlimit, x.refusal_eq_nil hlimit, ?_⟩⟩
  exact fun helapsed ht outcome hx => x.isLeast hlimit helapsed ht hx

def tryOnce : Program (Engine (Rehearsal.Trial Nat String)) (Except String Nat) :=
  Engine.call (S := Rehearsal.Trial Nat String) ()

def hiccup : Transcript (Rehearsal.Trial Nat String) :=
  [.reported .attempt, .call (S := Rehearsal.Trial Nat String) () (.error "busy"),
   .turned ⟨withMaxAttempts 3, 0, 0⟩ (some (.ofMilliseconds 250)), .slept (.ofMilliseconds 250),
   .reported .attempt, .call (S := Rehearsal.Trial Nat String) () (.ok 7), .reported .settled]

theorem hiccup_ends : ((withMaxAttempts 3).retry tryOnce).Ends hiccup (.ok 7) :=
  .request (.request (.request (.request (.request (.request (.request (.pure _)))))))

theorem retry_loop_hiccup :
    (∃ x : (withMaxAttempts 3).Trials tryOnce.Ends hiccup (.ok 7), x.calls = 2) ∧
      ((withMaxAttempts 3).retry tryOnce).Whole := by
  have hloop := retry_loop (withMaxAttempts 3) tryOnce
  have hcalm : ∀ t r, tryOnce.Ends t r → pausesIn t = [] := by
    intro t r ht
    rw [Engine.ends_call ht]
    rfl
  obtain ⟨x, -, hpauses, -⟩ := hloop.1 hiccup (.ok 7) hiccup_ends
  have hlength : 1 = (x.setbacks.map Setback.pause).length := congrArg List.length (hpauses hcalm)
  refine ⟨⟨x, ?_⟩, (hloop.2 3 rfl).1 (Program.whole_ask _)⟩
  rw [List.length_map] at hlength
  exact congrArg (· + 1) hlength.symm

end RetryPolicy

/-- What an action yields every attempt at it yields. -/
theorem Action.Yields.repeating {a : Action S α} {c : Cancellation}
    {Q : Transcript S → Except Error α → Prop} (p : RetryPolicy) (resource : String)
    {o : Operation} (ho : o.mutates = true) (h : a.Yields c Q) :
    ((Middleware.retrying p).around resource o a).Yields c fun t r => Nonempty (p.Trials Q t r) := by
  dsimp only [Middleware.retrying]
  rw [if_pos ho]
  exact fun t r c' ht => p.trials_of_retryWith h ht

end ClusterKeeper
