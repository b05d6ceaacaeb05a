import ClusterKeeper.Proofs.Courses
import ClusterKeeper.Proofs.ResourceRules

/-!
# What unfolds before the cloud

What can come of an action together with what it asked of the cloud until then,
whether it ended or was left off. One rule for each way in which actions are put
together.
-/

set_option autoImplicit false

namespace ClusterKeeper

variable {α β ε σ : Type}

namespace Program

def Unfolds (p : Program (Engine Cloud) α) (Q : List Exchange → Option α → Prop) : Prop :=
  ∀ t o, p.Comes t o → Q (exchanges t) o

variable {p : Program (Engine Cloud) α} {Q : List Exchange → Option β → Prop}

/-- Any program can be left off at its start. -/
theorem Unfolds.start {Q : List Exchange → Option α → Prop} (h : p.Unfolds Q) : Q [] none :=
  h [] none (comes_start p)

theorem Unfolds.mono {Q Q' : List Exchange → Option α → Prop} (h : p.Unfolds Q)
    (hQ : ∀ h o, Q h o → Q' h o) : p.Unfolds Q' := fun t o ht => hQ _ _ (h t o ht)

theorem Unfolds.pure {b : β} (hstart : Q [] none) (hend : Q [] (some b)) :
    (Program.pure b).Unfolds Q := by
  intro t o ht
  obtain ⟨rfl, rfl | rfl⟩ := comes_pure.mp ht
  · exact hstart
  · exact hend

theorem Unfolds.unfinished (hstart : Q [] none) : Program.unfinished.Unfolds Q := by
  rintro t (_ | b) ht
  · obtain ⟨q, hq⟩ := ht
    cases hq
    exact hstart
  · cases ht

theorem Unfolds.bind {f : α → Program (Engine Cloud) β} {A : List Exchange → Option α → Prop}
    (hp : p.Unfolds A) (hleft : ∀ h, A h none → Q h none)
    (hf : ∀ h a, A h (some a) → (f a).Unfolds fun h' o => Q (h ++ h') o) :
    (p.bind f).Unfolds Q := by
  intro t o ht
  rcases comes_bind.mp ht with ⟨t₁, a, t₂, rfl, h₁, h₂⟩ | ⟨rfl, h⟩
  · rw [exchanges_append]
    exact hf _ a (hp t₁ (some a) h₁) t₂ o h₂
  · exact hleft _ (hp t none h)

theorem Unfolds.map {f : α → β} {A : List Exchange → Option α → Prop} (hp : p.Unfolds A)
    (hQ : ∀ h o, A h o → Q h (o.map f)) : (p.bind fun a => .pure (f a)).Unfolds Q := by
  intro t o ht
  obtain ⟨o', ho', rfl⟩ := comes_map.mp ht
  exact hQ _ o' (hp t o' ho')

theorem Unfolds.call_bind {x : Cloud.Call} {f : Except x.Fault x.Value → Program (Engine Cloud) β}
    (hstart : Q [] none) (hf : ∀ r, (f r).Unfolds fun h o => Q (⟨x, r⟩ :: h) o) :
    ((Engine.call (S := Cloud) x).bind f).Unfolds Q := by
  intro t o ht
  rcases comes_request.mp ht with ⟨rfl, rfl⟩ | ⟨r, t', rfl, h⟩
  · exact hstart
  · exact hf r t' o h

/-- What is not asked of the cloud does not show. -/
theorem Unfolds.aside_bind {x : Engine.Call Cloud} {f : Engine.Reply x → Program (Engine Cloud) β}
    (hx : ∀ r, Entry.exchange? ⟨x, r⟩ = none) (hstart : Q [] none) (hf : ∀ r, (f r).Unfolds Q) :
    ((ask (S := Engine Cloud) x).bind f).Unfolds Q := by
  intro t o ht
  rcases comes_request.mp ht with ⟨rfl, rfl⟩ | ⟨r, t', rfl, h⟩
  · exact hstart
  · have hshown : exchanges (⟨x, r⟩ :: t') = exchanges t' := List.filterMap_cons_none (hx r)
    rw [hshown]
    exact hf r t' o h

theorem Unfolds.report_bind {r : Report} {f : Unit → Program (Engine Cloud) β}
    (hf : (f ()).Unfolds Q) : ((Engine.report (S := Cloud) r).bind f).Unfolds Q :=
  .aside_bind (fun _ => rfl) hf.start fun _ => hf

theorem Unfolds.reports_bind (ms : List Measurement) {f : Unit → Program (Engine Cloud) β}
    (hf : (f ()).Unfolds Q) :
    ((ms.forM fun m => Engine.report (S := Cloud) (.measured m)).bind f).Unfolds Q := by
  induction ms with
  | nil => exact hf
  | cons m ms ih =>
    have hcons : ((m :: ms).forM fun m => Engine.report (S := Cloud) (.measured m)).bind f =
        (Engine.report (S := Cloud) (.measured m)).bind fun _ =>
          (ms.forM fun m => Engine.report (S := Cloud) (.measured m)).bind f := bind_assoc _ _ _
    rw [hcons]
    exact .report_bind ih

end Program

def Keeping (s : σ) (A : List Exchange → Option α → Prop) (h : List Exchange)
    (o : Option (α × σ)) : Prop :=
  ∃ o', o = o'.map (·, s) ∧ A h o'

theorem keeping_none {s : σ} {A : List Exchange → Option α → Prop} {h : List Exchange} :
    Keeping s A h none ↔ A h none := by
  refine ⟨fun ⟨o, ho, hA⟩ => ?_, fun hA => ⟨none, rfl, hA⟩⟩
  cases o with
  | none => exact hA
  | some a => cases ho

theorem keeping_some {s s' : σ} {a : α} {A : List Exchange → Option α → Prop} {h : List Exchange} :
    Keeping s A h (some (a, s')) ↔ s' = s ∧ A h (some a) := by
  constructor
  · rintro ⟨_ | a', ho, hA⟩
    · cases ho
    · cases ho
      exact ⟨rfl, hA⟩
  · rintro ⟨rfl, hA⟩
    exact ⟨some a, rfl, hA⟩

def LeavesOff (A : List Exchange → Option α → Prop) : Prop := ∀ h a, A h (some a) → A h none

theorem LeavesOff.keeping {A : List Exchange → Option α → Prop} (hA : LeavesOff A) (s : σ) :
    LeavesOff (Keeping s A) := by
  rintro h ⟨a, s'⟩ hk
  exact keeping_none.mpr (hA h a (keeping_some.mp hk).2)

inductive Attempts (A : List Exchange → Option (Except ε α) → Prop) :
    List Exchange → Option (Except ε α) → Prop where
  | last {h : List Exchange} {o : Option (Except ε α)} (hA : A h o) : Attempts A h o
  | again {h h' : List Exchange} {e : ε} {o : Option (Except ε α)} (hA : A h (some (.error e)))
      (hrest : Attempts A h' o) : Attempts A (h ++ h') o

theorem Attempts.mono {A B : List Exchange → Option (Except ε α) → Prop} {h : List Exchange}
    {o : Option (Except ε α)} (ht : Attempts A h o) (hAB : ∀ h o, A h o → B h o) :
    Attempts B h o := by
  induction ht with
  | last hA => exact .last (hAB _ _ hA)
  | again hA _ ih => exact .again (hAB _ _ hA) ih

theorem Attempts.leavesOff {A : List Exchange → Option (Except ε α) → Prop} (hA : LeavesOff A) :
    LeavesOff (Attempts A) := by
  intro h r ht
  generalize ho : some r = o at ht
  induction ht with
  | last h => exact .last (hA _ r (ho ▸ h))
  | again h _ ih => exact .again h (ih ho)

/-- The attempt that succeeded is the last one. -/
theorem Attempts.succeeded {A : List Exchange → Option (Except ε α) → Prop} {h : List Exchange}
    {a : α} (ht : Attempts A h (some (.ok a))) :
    ∃ h₁ h₂, h = h₁ ++ h₂ ∧ A h₂ (some (.ok a)) := by
  generalize ho : some (Except.ok a) = o at ht
  induction ht with
  | last hA => exact ⟨[], _, rfl, ho ▸ hA⟩
  | again hA hrest ih =>
    obtain ⟨h₁, h₂, rfl, hlast⟩ := ih ho
    exact ⟨_, h₂, (List.append_assoc _ _ _).symm, hlast⟩

theorem Attempts.forall {A : List Exchange → Option (Except ε α) → Prop} {P : Exchange → Prop}
    {h : List Exchange} {o : Option (Except ε α)} (ht : Attempts A h o)
    (hA : ∀ h o, A h o → ∀ e ∈ h, P e) : ∀ e ∈ h, P e := by
  induction ht with
  | last h => exact hA _ _ h
  | again h _ ih => exact List.forall_mem_append.mpr ⟨hA _ _ h, ih⟩

namespace RetryPolicy

open Program

variable {step : σ → Program (Engine Cloud) (Except ε α × σ)} {s : σ}
  {A : List Exchange → Option (Except ε α) → Prop}

theorem unfolds_granted (p : RetryPolicy) (pauses slept : Nat) {Q : List Exchange → Option β → Prop}
    {f : Option Duration → Program (Engine Cloud) β} (hf : ∀ delay, (f delay).Unfolds Q) :
    ((p.granted pauses slept).bind f).Unfolds Q := by
  unfold granted
  split
  · exact hf none
  · exact .aside_bind (fun _ => rfl) (hf none).start hf

theorem unfolds_attempts (p : RetryPolicy) (hA : LeavesOff A)
    (hstep : (step s).Unfolds (Keeping s A)) (left pauses slept : Nat) :
    (p.attempts step left pauses slept s).Unfolds (Keeping s (Attempts A)) := by
  have hstart : A [] none := keeping_none.mp hstep.start
  induction left generalizing pauses slept with
  | zero => exact .unfinished (keeping_none.mpr (.last hstart))
  | succ left ih =>
    -- after an attempt that came to `r` nothing shows but further attempts
    have hend : ∀ (h : List Exchange) (r : Except ε α), A h (some r) →
        ((Engine.report (S := Cloud) .settled).bind fun _ => .pure (r, s)).Unfolds
          fun h' o => Keeping s (Attempts A) (h ++ h') o := by
      intro h r hr
      refine .report_bind (.pure ?_ ?_) <;> rw [List.append_nil]
      · exact keeping_none.mpr (.last (hA h r hr))
      · exact keeping_some.mpr ⟨rfl, .last hr⟩
    rw [attempts_succ]
    refine .report_bind (.bind hstep (fun h hleft => ?_) ?_)
    · exact keeping_none.mpr (.last (keeping_none.mp hleft))
    · rintro h ⟨r, s'⟩ hkept
      obtain ⟨rfl, hr⟩ := keeping_some.mp hkept
      cases r with
      | ok a => exact hend h (.ok a) hr
      | error e =>
        refine p.unfolds_granted pauses slept fun delay => ?_
        cases delay with
        | none => exact hend h (.error e) hr
        | some d =>
          refine .aside_bind (fun _ => rfl) ?_ fun _ => (ih _ _).mono ?_
          · rw [List.append_nil]
            exact keeping_none.mpr (.last (hA h _ hr))
          · rintro h' o ⟨o', ho, hrest⟩
            exact ⟨o', ho, .again hr hrest⟩

theorem unfolds_retryWith (p : RetryPolicy) (hA : LeavesOff A)
    (hstep : (step s).Unfolds (Keeping s A)) :
    (p.retryWith step s).Unfolds (Keeping s (Attempts A)) := by
  unfold retryWith
  split
  · exact p.unfolds_attempts hA hstep _ 0 0
  · refine .aside_bind (fun _ => rfl) ?_ fun n => p.unfolds_attempts hA hstep n 0 0
    exact keeping_none.mpr (.last (keeping_none.mp hstep.start))

theorem unfolds_retry (p : RetryPolicy) {once : Program (Engine Cloud) (Except ε α)}
    (hA : LeavesOff A) (honce : once.Unfolds A) : (p.retry once).Unfolds (Attempts A) := by
  let step : Unit → Program (Engine Cloud) (Except ε α × Unit) := fun _ =>
    once.bind fun r => .pure (r, ())
  have hstep : (step ()).Unfolds (Keeping () A) := .map honce fun h o ho => ⟨o, rfl, ho⟩
  refine Program.Unfolds.map (p.unfolds_retryWith hA hstep) ?_
  rintro h o ⟨o', rfl, ho'⟩
  cases o' <;> exact ho'

end RetryPolicy

namespace Action

def Unfolds (a : Action Cloud α) (c : Cancellation)
    (Q : List Exchange → Option (Except Error α × Cancellation) → Prop) : Prop :=
  (a.run c).Unfolds Q

variable {c : Cancellation} {Q : List Exchange → Option (Except Error α × Cancellation) → Prop}
  {project resource : String} {o : Operation}

theorem Unfolds.mono {a : Action Cloud α}
    {Q' : List Exchange → Option (Except Error α × Cancellation) → Prop} (h : a.Unfolds c Q)
    (hQ : ∀ h o, Q h o → Q' h o) : a.Unfolds c Q' := Program.Unfolds.mono h hQ

theorem Unfolds.pure {a : α} (hstart : Q [] none) (hend : Q [] (some (.ok a, c))) :
    (Pure.pure a : Action Cloud α).Unfolds c Q := Program.Unfolds.pure hstart hend

theorem Unfolds.bind {a : Action Cloud β} {f : β → Action Cloud α}
    {A : List Exchange → Option (Except Error β × Cancellation) → Prop} (ha : a.Unfolds c A)
    (hleft : ∀ h, A h none → Q h none)
    (herror : ∀ h e c', A h (some (.error e, c')) → Q h none ∧ Q h (some (.error e, c')))
    (hf : ∀ h b c', A h (some (.ok b, c')) → (f b).Unfolds c' fun h' o => Q (h ++ h') o) :
    (a >>= f).Unfolds c Q := by
  unfold Unfolds
  rw [run_bind]
  refine Program.Unfolds.bind ha hleft ?_
  rintro h ⟨e | b, c'⟩ hA
  · refine .pure ?_ ?_ <;> rw [List.append_nil]
    · exact (herror h e c' hA).1
    · exact (herror h e c' hA).2
  · exact hf h b c' hA

theorem Unfolds.lift {p : Program (Engine Cloud) α} {A : List Exchange → Option α → Prop}
    (hp : p.Unfolds A) : (liftM p : Action Cloud α).Unfolds c fun h o =>
      ∃ o', o = o'.map (fun a => (.ok a, c)) ∧ A h o' := by
  unfold Unfolds
  rw [run_lift]
  exact .map hp fun h o ho => ⟨o, rfl, ho⟩

theorem Unfolds.call_bind {x : Cloud.Call} {f : Except x.Fault x.Value → Action Cloud α}
    (hstart : Q [] none) (hf : ∀ r, (f r).Unfolds c fun h o => Q (⟨x, r⟩ :: h) o) :
    (Action.call (S := Cloud) x >>= f).Unfolds c Q := by
  show Program.Unfolds ((Engine.call (S := Cloud) x).bind fun r => (f r).run c) Q
  exact .call_bind hstart hf

theorem Unfolds.unlessCanceled {a : Action Cloud Unit}
    {Q : List Exchange → Option (Except Error Unit × Cancellation) → Prop}
    (hskip : c.skipsResource = true → Q [] none ∧ Q [] (some (.ok (), c)))
    (hrun : c.skipsResource = false → a.Unfolds c Q) : (Action.unlessCanceled a).Unfolds c Q := by
  show Program.Unfolds ((if c.skipsResource then Pure.pure () else a : Action Cloud Unit).run c) Q
  cases hc : c.skipsResource with
  | true => exact .pure (hskip hc).1 (hskip hc).2
  | false => exact hrun hc

theorem Unfolds.measuring {a : Action Cloud α} (hQ : LeavesOff Q) (h : a.Unfolds c Q) :
    ((Middleware.measuring project).around resource o a).Unfolds c Q := by
  refine Program.Unfolds.bind h (fun _ hleft => hleft) ?_
  rintro h ⟨r, c'⟩ hr
  refine .reports_bind _ (.pure ?_ ?_) <;> rw [List.append_nil]
  · exact hQ h _ hr
  · exact hr

/-- What is not a change is not repeated. -/
theorem Unfolds.reading {a : Action Cloud α} (policy : RetryPolicy) (project resource : String)
    (ho : o.mutates = false) (hQ : LeavesOff Q) (h : a.Unfolds c Q) :
    ((Middleware.measuring project).around resource o
      ((Middleware.retrying policy).around resource o a)).Unfolds c Q := by
  rw [Middleware.meets_retrying_of_reading policy resource a ho]
  exact h.measuring hQ

theorem Unfolds.changing {a : Action Cloud α} {A : List Exchange → Option (Except Error α) → Prop}
    (policy : RetryPolicy) (project resource : String) (ho : o.mutates = true) (hA : LeavesOff A)
    (h : a.Unfolds c (Keeping c A)) :
    ((Middleware.measuring project).around resource o
      ((Middleware.retrying policy).around resource o a)).Unfolds c (Keeping c (Attempts A)) := by
  refine .measuring ((Attempts.leavesOff hA).keeping c) ?_
  dsimp only [Middleware.retrying]
  rw [if_pos ho]
  exact policy.unfolds_retryWith hA h

/-- A step that makes no call hands on its value. -/
theorem Unfolds.constant_bind {b : β} {f : β → Action Cloud α} (policy : RetryPolicy)
    (project resource : String) (ho : o.mutates = false) (hf : (f b).Unfolds c Q) :
    ((Middleware.measuring project).around resource o
      ((Middleware.retrying policy).around resource o (Pure.pure b)) >>= f).Unfolds c Q := by
  rw [Middleware.meets_retrying_of_reading policy resource (Pure.pure b) ho]
  have hrun : ((Middleware.measuring project).around resource o
      (Pure.pure b : Action Cloud β)).run c =
        Program.bind ((Middleware.measurements ⟨resource, o, project⟩ (.ok b)).forM fun m =>
          Engine.report (S := Cloud) (.measured m)) fun _ => .pure (.ok b, c) := rfl
  unfold Unfolds
  rw [run_bind, hrun, Program.bind_assoc]
  exact .reports_bind _ hf

end Action

end ClusterKeeper
