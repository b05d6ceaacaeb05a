import ClusterKeeper.Proofs.Transcripts
import ClusterKeeper.Cloud.Call

/-!
# Halting

A program ends, whatever it is replied, if no pause is granted any more after
so many.
-/

set_option autoImplicit false

namespace ClusterKeeper

variable {S : Signature} {α β ε σ : Type} {limit : Nat}

namespace Engine

def Limits (limit : Nat) : (c : Engine.Call S) → Engine.Reply c → Prop
  | .nextDelay turn, (delay : Option Duration) => limit ≤ turn.pauses → delay = none
  | .patience, (n : Nat) => limit < n
  | _, _ => True

def limited (limit : Nat) : Environment (Engine S) Unit where
  Takes _ _ := True
  Answers c _ r _ := Limits limit c r
  repeats := False

end Engine

namespace Program

def Halts (limit : Nat) (p : Program (Engine S) α) : Prop :=
  p.Meets (Engine.limited limit) (fun _ _ => True) ()

variable {p : Program (Engine S) α} {f : α → Program (Engine S) β}

theorem halts_pure (a : α) : (Program.pure a : Program (Engine S) α).Halts limit := trivial

theorem halts_ask (c : Engine.Call S) : (ask (S := Engine S) c).Halts limit :=
  ⟨trivial, fun _ _ _ => trivial⟩

theorem Halts.bind (hp : p.Halts limit) (hf : ∀ a, (f a).Halts limit) :
    (p.bind f).Halts limit :=
  (meets_bind _ _ _ _).2 (hp.mono fun a _ _ => hf a)

/-- A program that halts comes to an end against any answers within the limit. -/
theorem Halts.run {answer : (c : Engine.Call S) → σ → Engine.Reply c × σ} (hp : p.Halts limit)
    (ha : ∀ c s, Engine.Limits limit c (answer c s).1) (s : σ) :
    ∃ a s', p.run (S := Engine S) answer s = (some a, s') := by
  induction p generalizing s with
  | pure a => exact ⟨a, s, rfl⟩
  | request c next ih => exact ih _ (hp.2 _ () (ha c s)) _
  | unfinished => exact hp.elim

end Program

open Program

namespace RetryPolicy

variable {step : σ → Program (Engine S) (Except ε α × σ)}

/-- The last attempt that can be made is not followed by a pause. -/
theorem granted_meets (p : RetryPolicy) (pauses slept : Nat) :
    (p.granted (S := S) pauses slept).Meets (Engine.limited limit) (fun delay _ =>
      p.exhaustedBy (pauses + 1) = true ∨ limit ≤ pauses → delay = none) () := by
  unfold granted
  split
  · exact fun _ => rfl
  · next hp => exact ⟨trivial, fun _ _ hd h => hd (h.resolve_left hp)⟩

theorem attempts_halts (p : RetryPolicy) (hstep : ∀ s, (step s).Halts limit) (last : Nat)
    (hlast : p.exhaustedBy (last + 1) = true ∨ limit ≤ last) {left pauses slept : Nat} {s : σ}
    (hleft : left + pauses = last + 1) (hpos : 0 < left) :
    (p.attempts step left pauses slept s).Halts limit := by
  induction left generalizing pauses slept s with
  | zero => exact absurd hpos (Nat.lt_irrefl 0)
  | succ left ih =>
    rw [attempts_succ]
    refine (halts_ask _).bind fun _ => (hstep s).bind ?_
    rintro ⟨r | a, s'⟩
    · refine (meets_bind _ _ _ _).2 ((p.granted_meets pauses slept).mono fun delay _ hdelay => ?_)
      cases delay with
      | none => exact (halts_ask _).bind fun _ => halts_pure _
      | some d =>
        refine (halts_ask _).bind fun _ => ih (by omega) (Nat.pos_of_ne_zero fun h0 => ?_)
        obtain rfl : pauses = last := by omega
        cases hdelay hlast
    · exact (halts_ask _).bind fun _ => halts_pure _

theorem retryWith_halts (p : RetryPolicy) (hstep : ∀ s, (step s).Halts limit) (s : σ) :
    (p.retryWith step s).Halts limit := by
  unfold retryWith
  split
  · next bound hbound =>
    refine p.attempts_halts hstep (max 1 bound.toNat - 1) (.inl ?_) (by omega) (by omega)
    simp only [exhaustedBy, hbound, Option.any_some, decide_eq_true_eq]
    omega
  · refine ⟨trivial, fun (n : Nat) _ (hn : limit < n) => ?_⟩
    exact p.attempts_halts hstep (n - 1) (.inr (by omega)) (by omega) (by omega)

theorem retry_halts (p : RetryPolicy) {step : Program (Engine S) (Except ε α)}
    (hstep : step.Halts limit) : (p.retry step).Halts limit :=
  (p.retryWith_halts (fun _ => hstep.bind fun _ => halts_pure _) ()).bind fun _ => halts_pure _

end RetryPolicy

namespace Action

def Halts (limit : Nat) (a : Action S α) : Prop := ∀ c, Program.Halts limit (a.run c)

theorem Halts.pure (a : α) : (Pure.pure a : Action S α).Halts limit := fun _ => trivial

theorem Halts.throw (e : Error) : (MonadExcept.throw e : Action S α).Halts limit :=
  fun _ => trivial

theorem Halts.bind {a : Action S β} {f : β → Action S α} (ha : a.Halts limit)
    (hf : ∀ b, (f b).Halts limit) : (a >>= f).Halts limit := by
  intro c
  rw [run_bind]
  refine (ha c).bind ?_
  rintro ⟨r | b, c'⟩
  · exact halts_pure _
  · exact hf b c'

theorem Halts.lift {p : Program (Engine S) α} (hp : p.Halts limit) :
    (liftM p : Action S α).Halts limit := fun _ =>
  (hp.bind fun _ => halts_pure _).bind fun _ => halts_pure _

theorem Halts.call (x : S.Call) : (Action.call x).Halts limit := .lift (halts_ask _)

theorem Halts.result {a : Action S α} (ha : a.Halts limit) : a.result.Halts limit := fun c =>
  (ha c).bind fun _ => halts_pure _

theorem Halts.forM {f : β → Action S PUnit} (l : List β) (hf : ∀ b, (f b).Halts limit) :
    (l.forM f).Halts limit := by
  induction l with
  | nil => exact .pure _
  | cons b rest ih => exact .bind (hf b) fun _ => ih

theorem Halts.retrying {a : Action S α} (p : RetryPolicy) (resource : String) (o : Operation)
    (ha : a.Halts limit) : ((Middleware.retrying p).around resource o a).Halts limit := by
  dsimp only [Middleware.retrying]
  split
  · exact fun c => p.retryWith_halts ha c
  · exact ha

theorem Halts.measuring {a : Action S α} (project resource : String) (o : Operation)
    (ha : a.Halts limit) :
    ((Middleware.measuring project).around resource o a).Halts limit := by
  have hreports : ∀ ms : List Measurement,
      (ms.forM fun m => Engine.report (S := S) (.measured m)).Halts limit := by
    intro ms
    induction ms with
    | nil => exact halts_pure _
    | cons m ms ih => exact (halts_ask _).bind fun _ => ih
  exact fun c => (ha c).bind fun _ => (hreports _).bind fun _ => halts_pure _

theorem Halts.orFail {message : String} (r : Except CloudError α) :
    (Cloud.orFail message r).Halts limit := by
  cases r with
  | ok a => exact .pure a
  | error e => exact .throw _

/-- A call and the failure that comes of an answer that is not expected. -/
theorem Halts.exchange {message : String} (x : Cloud.Call)
    {f : Except x.Fault x.Value → Except CloudError α} :
    (Action.call (S := Cloud) x >>= fun answer => Cloud.orFail message (f answer)).Halts limit :=
  .bind (.call (S := Cloud) x) fun _ => .orFail _

end Action

end ClusterKeeper
