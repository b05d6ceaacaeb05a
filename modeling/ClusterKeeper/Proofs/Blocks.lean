import ClusterKeeper.Proofs.Wrapping

/-!
# Blocks of attempts

A step under middleware is taken in a block: attempts at it in a row, each from what the
one before it left canceled, of which all but the last failed. Seen from its protocol a
block is a single step that ends as its last attempt does.
-/

set_option autoImplicit false

namespace ClusterKeeper

variable {S : Signature} {α σ : Type} {Value : σ → Type}

structure Taken (Value : σ → Type) where
  step : σ
  before : Cancellation
  result : Except Error (Value step)
  after : Cancellation

def Taken.entry (k : Taken Value) : Entry (Engine (Asking Value)) :=
  .call (S := Asking Value) (k.step, k.before) (k.result, k.after)

structure Block (Value : σ → Type) extends Taken Value where
  failures : List (Error × Cancellation)

namespace Taken

def attempts (k : Taken Value) : List (Error × Cancellation) → List (Taken Value)
  | [] => [k]
  | (e, c) :: rest =>
    ⟨k.step, k.before, .error e, c⟩ :: attempts ⟨k.step, c, k.result, k.after⟩ rest

theorem length_attempts (k : Taken Value) (failures : List (Error × Cancellation)) :
    (k.attempts failures).length = failures.length + 1 := by
  induction failures generalizing k with
  | nil => rfl
  | cons failure rest ih => exact congrArg (· + 1) (ih _)

theorem step_of_mem_attempts {k k' : Taken Value} {failures : List (Error × Cancellation)}
    (h : k' ∈ k.attempts failures) : k'.step = k.step := by
  induction failures generalizing k with
  | nil => rw [List.mem_singleton.mp h]
  | cons failure rest ih =>
    rcases List.mem_cons.mp h with rfl | h
    · rfl
    · exact ih (k := ⟨k.step, failure.2, k.result, k.after⟩) h

end Taken

def Block.attempts (b : Block Value) : List (Taken Value) := b.toTaken.attempts b.failures

def Entry.taken? : Entry (Engine (Asking Value)) → Option (Taken Value)
  | ⟨.call x, (r : Except Error (Value x.1) × Cancellation)⟩ => some ⟨x.1, x.2, r.1, r.2⟩
  | _ => none

def Entry.measured? : Entry (Engine S) → Option Measurement
  | ⟨.report (.measured m), _⟩ => some m
  | _ => none

def takenIn (t : Transcript (Asking Value)) : List (Taken Value) := t.filterMap Entry.taken?

def measuredIn (t : Transcript S) : List Measurement := t.filterMap Entry.measured?

def Declined (t : Transcript S) : Prop := ∃ turn, .turned turn none ∈ t

section Transcripts

variable {t t' : Transcript (Asking Value)}

@[simp] theorem takenIn_nil : takenIn ([] : Transcript (Asking Value)) = [] := rfl

@[simp] theorem takenIn_append : takenIn (t ++ t') = takenIn t ++ takenIn t' :=
  List.filterMap_append

@[simp] theorem takenIn_entry (k : Taken Value) : takenIn (k.entry :: t) = k :: takenIn t := rfl

@[simp] theorem takenIn_entries (steps : List (Taken Value)) :
    takenIn (steps.map Taken.entry) = steps := by
  induction steps with
  | nil => rfl
  | cons k steps ih => rw [List.map_cons, takenIn_entry, ih]

@[simp] theorem takenIn_reported (r : Report) : takenIn (.reported r :: t) = takenIn t := rfl

@[simp] theorem takenIn_turned (turn : RetryPolicy.Turn) (delay : Option Duration) :
    takenIn (.turned turn delay :: t) = takenIn t := rfl

@[simp] theorem takenIn_slept (d : Duration) : takenIn (.slept d :: t) = takenIn t := rfl

@[simp] theorem takenIn_patience (n : Nat) : takenIn (.patience n :: t) = takenIn t := rfl

@[simp] theorem takenIn_measured (ms : List Measurement) :
    takenIn (ms.map fun m => .reported (.measured m) : Transcript (Asking Value)) = [] := by
  induction ms with
  | nil => rfl
  | cons m ms ih => exact ih

end Transcripts

section Reports

variable {t t' : Transcript S}

@[simp] theorem measuredIn_nil : measuredIn ([] : Transcript S) = [] := rfl

@[simp] theorem measuredIn_append : measuredIn (t ++ t') = measuredIn t ++ measuredIn t' :=
  List.filterMap_append

@[simp] theorem measuredIn_attempt : measuredIn (.reported .attempt :: t) = measuredIn t := rfl

@[simp] theorem measuredIn_settled : measuredIn (.reported .settled :: t) = measuredIn t := rfl

@[simp] theorem measuredIn_turned (turn : RetryPolicy.Turn) (delay : Option Duration) :
    measuredIn (.turned turn delay :: t) = measuredIn t := rfl

@[simp] theorem measuredIn_slept (d : Duration) : measuredIn (.slept d :: t) = measuredIn t := rfl

@[simp] theorem measuredIn_patience (n : Nat) : measuredIn (.patience n :: t) = measuredIn t := rfl

@[simp] theorem measuredIn_measured (ms : List Measurement) :
    measuredIn (ms.map fun m => .reported (.measured m) : Transcript S) = ms := by
  induction ms with
  | nil => rfl
  | cons m ms ih => exact congrArg (m :: ·) ih

theorem Declined.left (h : Declined t) : Declined (t ++ t') :=
  h.imp fun _ => List.mem_append_left t'

theorem Declined.right (h : Declined t') : Declined (t ++ t') :=
  h.imp fun _ => List.mem_append_right t

end Reports

section Attempts

variable {s : σ} {c c' : Cancellation} {result : Except Error (Value s)}
  {t : Transcript (Asking Value)} {M : Taken Value → List Measurement} {p : RetryPolicy}

def Single (f : Action (Asking Value) (Value s)) (M : Taken Value → List Measurement) : Prop :=
  ∀ c t result c', (f.run c).Ends t (result, c') →
    takenIn t = [⟨s, c, result, c'⟩] ∧ measuredIn t = M ⟨s, c, result, c'⟩

theorem single_ask (s : σ) : Single (Asking.ask s) fun _ : Taken Value => [] := by
  intro c t result c' h
  have ht : t = [Taken.entry ⟨s, c, result, c'⟩] := Engine.ends_call h
  subst ht
  exact ⟨rfl, rfl⟩

theorem single_measuring (project resource : String) (operation : σ → Operation) (s : σ) :
    Single ((Middleware.measuring project).around resource (operation s) (Asking.ask s))
      fun k : Taken Value =>
        Middleware.measurements ⟨resource, operation k.step, project⟩ k.result := by
  intro c t result c' h
  obtain ⟨t₁, rfl, h₁⟩ := Action.ends_measuring h
  obtain ⟨htaken, hmeasured⟩ := single_ask s c t₁ result c' h₁
  simp [htaken, hmeasured]

/-- The attempts at a step are a block. -/
theorem ends_attempts {f : Action (Asking Value) (Value s)} (hf : Single f M)
    {left pauses slept : Nat} (h : (p.attempts f.run left pauses slept c).Ends t (result, c')) :
    ∃ failures, takenIn t = Taken.attempts ⟨s, c, result, c'⟩ failures ∧
      measuredIn t = (Taken.attempts ⟨s, c, result, c'⟩ failures).flatMap M ∧
      failures.length < left ∧
      ∀ e, result = .error e →
        p.exhaustedBy (pauses + (failures.length + 1)) = true ∨ Declined t := by
  induction left generalizing pauses slept c t with
  | zero => cases h
  | succ left ih =>
    rcases RetryPolicy.ends_attempts_succ h with
      ⟨t₁, refusal, h₁, hconcludes, rfl⟩ | ⟨t₁, e, c₁, d, t₂, h₁, -, rfl, h₂⟩
    · obtain ⟨htaken, hmeasured⟩ := hf c t₁ result c' h₁
      refine ⟨[], ?_⟩
      cases hconcludes with
      | succeeded a =>
        refine ⟨?_, ?_, Nat.succ_pos left, nofun⟩ <;> simp [htaken, hmeasured, Taken.attempts]
      | exhausted e hexhausted =>
        refine ⟨?_, ?_, Nat.succ_pos left, fun _ _ => .inl hexhausted⟩ <;>
          simp [htaken, hmeasured, Taken.attempts]
      | declined e =>
        refine ⟨?_, ?_, Nat.succ_pos left, fun _ _ => .inr ⟨⟨p, pauses, slept⟩, ?_⟩⟩ <;>
          simp [htaken, hmeasured, Taken.attempts]
    · obtain ⟨htaken, hmeasured⟩ := hf c t₁ _ c₁ h₁
      obtain ⟨failures, htaken', hmeasured', hlength, hlast⟩ := ih h₂
      refine ⟨(e, c₁) :: failures, ?_, ?_, Nat.succ_lt_succ hlength, fun e' he' => ?_⟩
      · simp [htaken, htaken', Taken.attempts]
      · simp [hmeasured, hmeasured', Taken.attempts]
      · refine (hlast e' he').imp (fun hp => ?_) Declined.right
        rwa [List.length_cons, ← Nat.add_assoc pauses, Nat.add_right_comm]

end Attempts

structure Block.Keeps (policy : RetryPolicy) (operation : σ → Operation)
    (t : Transcript (Asking Value)) (b : Block Value) : Prop where
  single : (operation b.step).mutates = false → b.failures = []
  permitted : policy.Permits b.attempts.length
  exhausted : (operation b.step).mutates = true → ∀ e, b.result = .error e →
    policy.exhaustedBy b.attempts.length = true ∨ Declined t

theorem Block.Keeps.imp {policy : RetryPolicy} {operation : σ → Operation}
    {t t' : Transcript (Asking Value)} {b : Block Value} (h : b.Keeps policy operation t)
    (ht : Declined t → Declined t') : b.Keeps policy operation t' :=
  ⟨h.single, h.permitted, fun hm e he => (h.exhausted hm e he).imp_right ht⟩

def Tries (policy : RetryPolicy) (operation : σ → Operation)
    (f : (s : σ) → Action (Asking Value) (Value s)) (M : Block Value → List Measurement) : Prop :=
  ∀ (k : Taken Value) t, ((f k.step).run k.before).Ends t (k.result, k.after) →
    ∃ b : Block Value, k = b.toTaken ∧ takenIn t = b.attempts ∧ measuredIn t = M b ∧
      b.Keeps policy operation t

section Steps

variable {policy : RetryPolicy} {operation : σ → Operation}
  {f : (s : σ) → Action (Asking Value) (Value s)} {M : Taken Value → List Measurement}

theorem block_of_attempts {k : Taken Value} (hf : Single (f k.step) M)
    (hm : (operation k.step).mutates = true) {left : Nat} (hleft : policy.Permits left)
    {t : Transcript (Asking Value)}
    (h : (policy.attempts (f k.step).run left 0 0 k.before).Ends t (k.result, k.after)) :
    ∃ b : Block Value, k = b.toTaken ∧ takenIn t = b.attempts ∧
      measuredIn t = b.attempts.flatMap M ∧ b.Keeps policy operation t := by
  obtain ⟨failures, htaken, hmeasured, hlength, hlast⟩ := ends_attempts hf h
  have hattempts := k.length_attempts failures
  refine ⟨⟨k, failures⟩, rfl, htaken, hmeasured, ?_, ?_, ?_⟩
  · intro hm'
    cases hm.symm.trans hm'
  · intro limit hlimit
    have := hleft limit hlimit
    simp only [Block.attempts, hattempts]
    omega
  · intro _ e he
    rw [Block.attempts, hattempts, ← Nat.zero_add (failures.length + 1)]
    exact hlast e he

theorem tries_retrying (hf : ∀ s, Single (f s) M) (resource : String) :
    Tries policy operation
      (fun s => (Middleware.retrying policy).around resource (operation s) (f s))
      fun b => b.attempts.flatMap M := by
  intro k t h
  dsimp only [Middleware.retrying] at h
  cases hm : (operation k.step).mutates with
  | false =>
    rw [hm] at h
    obtain ⟨htaken, hmeasured⟩ := hf k.step k.before t k.result k.after h
    refine ⟨⟨k, []⟩, rfl, htaken, hmeasured.trans (List.append_nil _).symm, fun _ => rfl,
      fun _ _ => Nat.le_max_left _ _, fun hm' => ?_⟩
    cases hm.symm.trans hm'
  | true =>
    rw [hm] at h
    replace h : (policy.retryWith (f k.step).run k.before).Ends t (k.result, k.after) := h
    unfold RetryPolicy.retryWith at h
    split at h
    · next limit hlimit =>
      refine block_of_attempts (hf k.step) hm (fun limit' hlimit' => ?_) h
      cases hlimit.symm.trans hlimit'
      exact Nat.le_refl _
    · next hlimit =>
      obtain ⟨_, ready, t', rfl, hready, h'⟩ := Program.ends_bind h
      cases Engine.ends_patience hready
      obtain ⟨b, hb, htaken, hmeasured, hkeeps⟩ := block_of_attempts (hf k.step) hm
        (fun limit hlimit' => nomatch hlimit.symm.trans hlimit') h'
      exact ⟨b, hb, htaken, hmeasured, hkeeps.imp (Declined.right (t := [.patience ready]))⟩

theorem tries_retried (policy : RetryPolicy) (operation : σ → Operation) (resource : String) :
    Tries policy operation
      (fun s => (Middleware.retrying policy).around resource (operation s) (Asking.ask s))
      fun _ : Block Value => [] := by
  intro k t h
  obtain ⟨b, hb, htaken, hmeasured, hkeeps⟩ := tries_retrying single_ask resource k t h
  exact ⟨b, hb, htaken, by simp [hmeasured], hkeeps⟩

/-- Measuring on the outside measures the block. -/
theorem Tries.measuring (h : Tries policy operation f fun _ => []) (project resource : String) :
    Tries policy operation
      (fun s => (Middleware.measuring project).around resource (operation s) (f s))
      fun b => Middleware.measurements ⟨resource, operation b.step, project⟩ b.result := by
  intro k t ht
  obtain ⟨t₁, rfl, h₁⟩ := Action.ends_measuring ht
  obtain ⟨b, rfl, htaken, hmeasured, hkeeps⟩ := h k t₁ h₁
  exact ⟨b, rfl, by simp [htaken], by simp [hmeasured], hkeeps.imp Declined.left⟩

end Steps

/-- A run in blocks: what was asked for are their attempts, and with each block as a
single step it is a run of the protocol that is not under any middleware. -/
structure InBlocks (policy : RetryPolicy) (operation : σ → Operation)
    (p : Program (Engine (Asking Value)) α) (t : Transcript (Asking Value)) (a : α)
    (blocks : List (Block Value)) : Prop where
  attempts : takenIn t = blocks.flatMap Block.attempts
  collapsed : p.Ends (blocks.map fun b => b.entry) a
  keeps : ∀ b ∈ blocks, b.Keeps policy operation t

section Runs

variable {policy : RetryPolicy} {operation : σ → Operation}
  {f : (s : σ) → Action (Asking Value) (Value s)} {M : Block Value → List Measurement}

theorem blocks_of_realizes (hf : Tries policy operation f M) {steps : List (Taken Value)}
    {t : Transcript (Asking Value)}
    (h : Program.Realizes (Asking.filling f) (steps.map Taken.entry) t) :
    ∃ blocks : List (Block Value), blocks.map Block.toTaken = steps ∧
      takenIn t = blocks.flatMap Block.attempts ∧ measuredIn t = blocks.flatMap M ∧
        ∀ b ∈ blocks, b.Keeps policy operation t := by
  induction steps generalizing t with
  | nil =>
    cases h
    exact ⟨[], rfl, rfl, rfl, List.forall_mem_nil _⟩
  | cons k steps ih =>
    -- each step of the log is taken in a block of its own
    cases h with
    | @cons _ _ _ t t' hk hrest =>
      obtain ⟨b, rfl, htaken, hmeasured, hkeeps⟩ := hf k t hk
      obtain ⟨blocks, rfl, htaken', hmeasured', hkeeps'⟩ := ih hrest
      refine ⟨b :: blocks, rfl, by simp [htaken, htaken'], by simp [hmeasured, hmeasured'], ?_⟩
      refine List.forall_mem_cons.mpr ⟨hkeeps.imp Declined.left, fun b' hb' => ?_⟩
      exact (hkeeps' b' hb').imp Declined.right

theorem inBlocks {p : Program (Engine (Asking Value)) α} {t : Transcript (Asking Value)} {a : α}
    (hp : ∀ log a, p.Ends log a → ∃ steps : List (Taken Value), log = steps.map Taken.entry)
    (hf : Tries policy operation f M) (h : (p.interpret (Asking.filling f)).Ends t a) :
    ∃ blocks, InBlocks policy operation p t a blocks ∧ measuredIn t = blocks.flatMap M := by
  obtain ⟨log, hlog, hrealizes⟩ := Program.ends_interpret.mp h
  obtain ⟨steps, rfl⟩ := hp log a hlog
  obtain ⟨blocks, rfl, htaken, hmeasured, hkeeps⟩ := blocks_of_realizes hf hrealizes
  rw [List.map_map] at hlog
  exact ⟨blocks, ⟨htaken, hlog, hkeeps⟩, hmeasured⟩

end Runs

end ClusterKeeper
