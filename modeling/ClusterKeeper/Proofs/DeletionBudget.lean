import ClusterKeeper.Proofs.Observations
import ClusterKeeper.Proofs.Routing
import ClusterKeeper.Proofs.Tolerance

/-!
# Deleting a volume within its time

A policy that bounds the time alone says nothing about the number of attempts. There
is a bound all the same: no pause is shorter than half of the first interval, and the
pauses together are no longer than the time.
-/

set_option autoImplicit false

namespace ClusterKeeper

variable {S : Signature} {α ε σ τ : Type}

namespace RetryPolicy

/-- What a randomized strategy may reply. A pause is at least half of the interval and at
most one and a half of it; there is none if it would end after the time of the policy.
More time may have passed than was slept. -/
def Turn.Grants (turn : Turn) (reply : Option Duration) : Prop :=
  ∃ (elapsed : Nat) (d : Duration), turn.slept ≤ elapsed ∧
    turn.interval.nanoseconds ≤ 2 * d.nanoseconds ∧
    2 * d.nanoseconds ≤ 3 * turn.interval.nanoseconds ∧
    reply = if turn.policy.maxElapsed.any fun limit => limit.nanoseconds < elapsed + d.nanoseconds
      then none else some d

theorem Turn.grants_steady (turn : Turn) : turn.Grants turn.steady :=
  ⟨turn.slept, turn.interval, Nat.le_refl _, by omega, by omega, rfl⟩

theorem Turn.Grants.fits {turn : Turn} {d limit : Duration} (h : turn.Grants (some d))
    (hlimit : turn.policy.maxElapsed = some limit) :
    turn.interval.nanoseconds ≤ 2 * d.nanoseconds ∧
      turn.slept + d.nanoseconds ≤ limit.nanoseconds := by
  obtain ⟨elapsed, d', helapsed, hmin, -, hreply⟩ := h
  rw [hlimit, Option.any_some] at hreply
  split at hreply
  · cases hreply
  · next hfits =>
    obtain rfl := Option.some.inj hreply
    rw [decide_eq_true_eq, Nat.not_lt] at hfits
    exact ⟨hmin, Nat.le_trans (Nat.add_le_add_right helapsed _) hfits⟩

structure Rationed (p : RetryPolicy) (limit : Duration) (share : Nat) : Prop where
  unbounded : p.maxAttempts = none
  limited : p.maxElapsed = some limit
  share_pos : 0 < share
  share_le : ∀ n, 2 * share ≤ (p.interval n).nanoseconds

/-- The pause that is granted still fits. -/
theorem Rationed.spent {p : RetryPolicy} {limit d : Duration} {share pauses slept : Nat}
    (hp : p.Rationed limit share) (h : Turn.Grants ⟨p, pauses, slept⟩ (some d))
    (hslept : share * pauses ≤ slept) :
    share * (pauses + 1) ≤ slept + d.nanoseconds ∧ slept + d.nanoseconds ≤ limit.nanoseconds := by
  obtain ⟨hmin, hfits⟩ := h.fits hp.limited
  have hd : share ≤ d.nanoseconds :=
    Nat.le_of_mul_le_mul_left (Nat.le_trans (hp.share_le pauses) hmin) Nat.two_pos
  exact ⟨Nat.add_le_add hslept hd, hfits⟩

end RetryPolicy

def Environment.timed (E : Environment S τ) (ready : Nat) : Environment (Engine S) τ where
  Takes
    | .call x, s => E.Takes x s
    | _, _ => True
  Answers
    | .call x, s, r, s' => E.Answers x s r s'
    | .nextDelay turn, s, delay, s' => turn.Grants delay ∧ s' = s
    | .patience, s, (n : Nat), s' => ready ≤ n ∧ s' = s
    | _, s, _, s' => s' = s
  repeats := False

section Timed

variable {E : Environment S τ} {ready : Nat} {x : τ}

theorem Engine.meets_timed_report (r : Report) (post : Unit → τ → Prop) :
    (report (S := S) r).Meets (E.timed ready) post x ↔ post () x :=
  ⟨fun h => h.2 () x rfl, fun h => ⟨trivial, fun _ _ hx => hx ▸ h⟩⟩

theorem Engine.meets_timed_sleep (d : Duration) (post : Unit → τ → Prop) :
    (sleep (S := S) d).Meets (E.timed ready) post x ↔ post () x :=
  ⟨fun h => h.2 () x rfl, fun h => ⟨trivial, fun _ _ hx => hx ▸ h⟩⟩

end Timed

namespace RetryPolicy

variable {E : Environment S τ} {p : RetryPolicy} {limit : Duration} {share ready : Nat}
  {step : σ → Program (Engine S) (Except ε α × σ)} {F : Except ε α × σ → τ → Prop}
  {I : Nat → σ → τ → Prop}

/-- What holds after so many failures, each followed by a pause. The time that is left
grows shorter with every pause, and so the attempts that are waited for suffice. -/
theorem Rationed.attempts (hp : p.Rationed limit share)
    (hstep : ∀ k s x, share * k ≤ limit.nanoseconds → I k s x →
      (step s).Meets (E.timed ready) (fun r x => F r x ∧ (r.1.isOk = false → I (k + 1) r.2 x)) x)
    {left pauses slept : Nat} (hspent : share * pauses ≤ limit.nanoseconds)
    (hslept : share * pauses ≤ slept) (hleft : limit.nanoseconds < share * (left + pauses))
    (s : σ) (x : τ) (hI : I pauses s x) :
    (p.attempts step left pauses slept s).Meets (E.timed ready) F x := by
  induction left generalizing pauses slept s x with
  | zero =>
    rw [Nat.zero_add] at hleft
    exact absurd hspent (Nat.not_le_of_lt hleft)
  | succ left ih =>
    have hasks : p.granted (S := S) pauses slept = Engine.nextDelay ⟨p, pauses, slept⟩ := by
      simp [granted, exhaustedBy, hp.unbounded]
    rw [attempts_succ, hasks, Program.meets_bind, Engine.meets_timed_report, Program.meets_bind]
    refine (hstep pauses s x hspent hI).mono ?_
    rintro ⟨e | a, s'⟩ x' ⟨hend, hagain⟩
    · refine (Program.meets_bind _ _ _ _).mpr ⟨trivial, ?_⟩
      rintro delay _ ⟨hgrants, rfl⟩
      cases delay with
      | none => exact (Program.meets_bind _ _ _ _).mpr ((Engine.meets_timed_report _ _).mpr hend)
      | some d =>
        obtain ⟨hslept', hfits⟩ := hp.spent hgrants hslept
        refine (Program.meets_bind _ _ _ _).mpr ((Engine.meets_timed_sleep _ _).mpr ?_)
        refine ih (Nat.le_trans hslept' hfits) hslept' ?_ s' _ (hagain rfl)
        rwa [Nat.add_right_comm, Nat.add_assoc] at hleft
    · exact (Program.meets_bind _ _ _ _).mpr ((Engine.meets_timed_report _ _).mpr hend)

theorem Rationed.retryWith (hp : p.Rationed limit share)
    (hready : limit.nanoseconds / share < ready)
    (hstep : ∀ k s x, share * k ≤ limit.nanoseconds → I k s x →
      (step s).Meets (E.timed ready) (fun r x => F r x ∧ (r.1.isOk = false → I (k + 1) r.2 x)) x)
    (s : σ) (x : τ) (hI : I 0 s x) : (p.retryWith step s).Meets (E.timed ready) F x := by
  unfold RetryPolicy.retryWith
  rw [hp.unbounded]
  refine (Program.meets_bind _ _ _ _).mpr ⟨trivial, ?_⟩
  rintro (n : Nat) _ ⟨hn, rfl⟩
  refine hp.attempts hstep (Nat.zero_le _) (Nat.zero_le _) ?_ s _ hI
  have hlt := (Nat.div_lt_iff_lt_mul hp.share_pos).mp (Nat.lt_of_lt_of_le hready hn)
  rwa [Nat.mul_comm] at hlt

theorem Rationed.retry (hp : p.Rationed limit share)
    (hready : limit.nanoseconds / share < ready) {step : Program (Engine S) (Except ε α)}
    {F : Except ε α → τ → Prop} {I : Nat → τ → Prop}
    (hstep : ∀ k x, share * k ≤ limit.nanoseconds → I k x →
      step.Meets (E.timed ready) (fun r x => F r x ∧ (r.isOk = false → I (k + 1) x)) x)
    (x : τ) (hI : I 0 x) : (p.retry step).Meets (E.timed ready) F x := by
  refine (Program.meets_bind _ _ _ _).mpr ?_
  refine hp.retryWith (F := fun ended x => F ended.1 x) (I := fun k _ => I k) hready ?_ () x hI
  exact fun k _ x hk hI => (Program.meets_bind _ _ _ _).mpr (hstep k x hk hI)

/-- The intervals start with two tenths of a second and grow to five seconds. -/
theorem interval_standard (n : Nat) : 200000000 ≤ (standard.interval n).nanoseconds := by
  have hlongest : ∀ n, standard.interval (n + 5) = .ofMilliseconds 5000 := by
    intro n
    induction n with
    | zero => decide +kernel
    | succ n ih =>
      have hfixed : standard.following (.ofMilliseconds 5000) = .ofMilliseconds 5000 := by
        decide +kernel
      exact (congrArg standard.following ih).trans hfixed
  have hfirst : ∀ n < 5, 200000000 ≤ (standard.interval n).nanoseconds := by
    decide +kernel
  rcases Nat.lt_or_ge n 5 with hlt | hge
  · exact hfirst n hlt
  · rw [← Nat.sub_add_cancel hge, hlongest]
    decide

theorem interval_withMaxElapsed (d : Duration) (n : Nat) :
    (withMaxElapsed d).interval n = standard.interval n := by
  induction n with
  | zero => rfl
  | succ n ih => exact congrArg standard.following ih

def leastPause : Nat := 100000000

theorem rationed_withMaxElapsed (d : Duration) : (withMaxElapsed d).Rationed d leastPause where
  unbounded := rfl
  limited := rfl
  share_pos := by decide
  share_le n := by
    rw [interval_withMaxElapsed]
    exact interval_standard n

end RetryPolicy

namespace Volumes

def deletions (volume : String) (answers : List (Except CloudError Unit)) : List Exchange :=
  answers.map (Exchange.mk (.deleteVolume volume))

theorem deletions_snoc (volume : String) (answers : List (Except CloudError Unit))
    (last : Except CloudError Unit) :
    deletions volume (answers ++ [last]) =
      deletions volume answers ++ [⟨.deleteVolume volume, last⟩] := List.map_append

def outcome (volume : String) : Except CloudError Unit → Except Error Unit
  | .ok _ => .ok ()
  | .error e =>
    if e.isNotFound then .ok () else .error (.executionFailed ("delete volume " ++ volume) e)

def Refused (volume : String) (n : Nat) (h : List Exchange) : Prop :=
  ∃ failures : List CloudError, failures.length = n ∧
    (∀ e ∈ failures, e.isNotFound = false) ∧ h = deletions volume (failures.map .error)

theorem Refused.next {volume : String} {n : Nat} {h : List Exchange} {e : CloudError}
    (hr : Refused volume n h) (he : e.isNotFound = false) :
    Refused volume (n + 1) (h ++ [⟨.deleteVolume volume, .error e⟩]) := by
  obtain ⟨failures, rfl, hfailures, rfl⟩ := hr
  refine ⟨failures ++ [e], List.length_append, ?_, ?_⟩
  · exact List.forall_mem_append.mpr ⟨hfailures, List.forall_mem_singleton.mpr he⟩
  · rw [List.map_append]
    exact (deletions_snoc _ _ _).symm

theorem orFail_outcome (volume : String) (last : Except CloudError Unit) (c : Cancellation) :
    (Cloud.orFail ("delete volume " ++ volume)
      (Cloud.accept CloudError.isNotFound () last)).run c = .pure (outcome volume last, c) := by
  cases last with
  | ok _ => rfl
  | error e =>
    dsimp only [Cloud.accept, outcome]
    cases e.isNotFound <;> rfl

/-- However long the pauses are and whatever the cloud answers, deleting a volume comes to
an end. There is one call, and there is at most one more for each tenth of a second of
the time. All calls but the last one failed, and the last one decides. -/
theorem volume_deletion_budget (config : Config) (volume : String) (c : Cancellation) :
    ((delete config.volumeDeletionPolicy volume).run c).Meets
      (anyCloud.environment.timed
        (config.volumeDeletionTimeout.nanoseconds / RetryPolicy.leastPause + 1))
      (fun ended h => ended.2 = c ∧
        ∃ (failures : List CloudError) (last : Except CloudError Unit),
          h = deletions volume (failures.map .error ++ [last]) ∧
          failures.length ≤ config.volumeDeletionTimeout.nanoseconds / RetryPolicy.leastPause ∧
          (∀ e ∈ failures, e.isNotFound = false) ∧ ended.1 = outcome volume last)
      [] := by
  have hp := RetryPolicy.rationed_withMaxElapsed config.volumeDeletionTimeout
  unfold delete
  rw [Action.run_bind, Action.run_lift, Program.bind_assoc]
  refine (Program.meets_bind _ _ _ _).mpr ?_
  refine hp.retry (I := Refused volume) (Nat.lt_succ_self _) ?_ [] ⟨[], rfl, nofun, rfl⟩
  intro k h hk hrefused
  refine (Program.meets_bind _ _ _ _).mpr ⟨trivial, ?_⟩
  rintro (last : Except CloudError Unit) _ rfl
  constructor
  · obtain ⟨failures, rfl, hfailures, rfl⟩ := hrefused
    show ((Cloud.orFail ("delete volume " ++ volume)
      (Cloud.accept CloudError.isNotFound () last)).run c).Meets _ _ _
    rw [orFail_outcome]
    refine ⟨rfl, failures, last, (deletions_snoc _ _ _).symm, ?_, hfailures, rfl⟩
    exact (Nat.le_div_iff_mul_le hp.share_pos).mpr (Nat.mul_comm _ _ ▸ hk)
  · intro hfailed
    cases last with
    | ok _ => cases hfailed
    | error e =>
      rw [Cloud.isOk_accept_error] at hfailed
      exact hrefused.next hfailed

open Memory in
def standstill (ready : Nat) (x : (Engine Cloud).Call) (h : List Exchange) :
    (Engine Cloud).Reply x × List Exchange :=
  match x with
  | .call x =>
    let reply := (Trial.stores.answer (Sandbox.conduct false) x).1
    (reply, h ++ [⟨x, reply⟩])
  | .nextDelay turn => (turn.steady, h)
  | .patience => (ready, h)
  | .sleep _ | .report _ => ((), h)

theorem volume_deletion_budget_standstill :
    ∃ ended h, ((delete Trial.config.volumeDeletionPolicy "vol-1").run .none).run
        (standstill 301) [] = (some ended, h) ∧
      ended.2 = .none ∧ ∃ (failures : List CloudError) (last : Except CloudError Unit),
        h = deletions "vol-1" (failures.map .error ++ [last]) ∧ failures.length ≤ 300 ∧
        (∀ e ∈ failures, e.isNotFound = false) ∧ ended.1 = outcome "vol-1" last := by
  have hready : Trial.config.volumeDeletionTimeout.nanoseconds / RetryPolicy.leastPause + 1 ≤
      301 := by decide
  refine Program.Meets.run _ (volume_deletion_budget Trial.config "vol-1" .none) id ?_
  intro x h _
  cases x with
  | call x => rfl
  | nextDelay turn => exact ⟨turn.grants_steady, rfl⟩
  | patience => exact ⟨hready, rfl⟩
  | sleep d => rfl
  | report r => rfl

end Volumes

end ClusterKeeper
