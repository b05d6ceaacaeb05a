import ClusterKeeper.Proofs.Outline

/-!
# Middleware around arbitrary steps

What a middleware makes of a resource shows in its outline, whatever the steps do. Reports
can be muted: without those of measuring there is no measuring, and without those of
attempts a single attempt is no retrying.
-/

set_option autoImplicit false

namespace ClusterKeeper

variable {S T : Signature} {α K σ : Type} {Value : σ → Type}

def Asking (Value : σ → Type) : Signature :=
  ⟨σ × Cancellation, fun x => Except Error (Value x.1) × Cancellation⟩

namespace Asking

def ask (s : σ) : Action (Asking Value) (Value s) :=
  Action.ofRun fun c => Engine.call (S := Asking Value) (s, c)

def filling (f : (s : σ) → Action T (Value s)) :
    (x : (Engine (Asking Value)).Call) → Program (Engine T) ((Engine (Asking Value)).Reply x)
  | .call (s, c) => (f s).run c
  | .nextDelay turn => Engine.nextDelay turn
  | .sleep d => Engine.sleep d
  | .patience => Engine.patience
  | .report report => Engine.report report

theorem interpret_ask (f : (s : σ) → Action T (Value s)) (s : σ) :
    (ask s).interpret (filling f) = f s := by
  funext c
  exact Program.interpret_ask (filling f) (.call (s, c))

end Asking

namespace Engine

def muting (mute : Report → Bool) : (x : (Engine S).Call) → Program (Engine S) ((Engine S).Reply x)
  | .call x => Engine.call x
  | .nextDelay turn => Engine.nextDelay turn
  | .sleep d => Engine.sleep d
  | .patience => Engine.patience
  | .report report => if mute report then pure () else Engine.report report

end Engine

def Report.isMeasured : Report → Bool
  | .measured _ => true
  | .attempt | .settled => false

namespace Program

def unmeasured (p : Program (Engine S) α) : Program (Engine S) α :=
  p.interpret (Engine.muting Report.isMeasured)

def unmarked (p : Program (Engine S) α) : Program (Engine S) α :=
  p.interpret (Engine.muting fun report => !report.isMeasured)

end Program

structure Passes (answer : (x : (Engine S).Call) → Program (Engine T) ((Engine S).Reply x)) :
    Prop where
  attempt : (Engine.report .attempt).interpret answer = Engine.report .attempt
  settled : (Engine.report .settled).interpret answer = Engine.report .settled
  nextDelay : ∀ turn, (Engine.nextDelay turn).interpret answer = Engine.nextDelay turn
  sleep : ∀ d, (Engine.sleep d).interpret answer = Engine.sleep d
  patience : Engine.patience.interpret answer = Engine.patience

theorem passes_filling (f : (s : σ) → Action T (Value s)) : Passes (Asking.filling f) :=
  ⟨rfl, rfl, fun _ => rfl, fun _ => rfl, rfl⟩

theorem passes_unmeasured : Passes (Engine.muting (S := S) Report.isMeasured) :=
  ⟨rfl, rfl, fun _ => rfl, fun _ => rfl, rfl⟩

section Retrying

variable {answer : (x : (Engine S).Call) → Program (Engine T) ((Engine S).Reply x)}
  {ε τ : Type} {step : τ → Program (Engine S) (Except ε α × τ)} {p : RetryPolicy}

open Program RetryPolicy

theorem Passes.granted (h : Passes answer) (pauses slept : Nat) :
    (p.granted pauses slept).interpret answer = p.granted pauses slept := by
  unfold RetryPolicy.granted
  split
  · rfl
  · exact h.nextDelay _

theorem Passes.attempts (h : Passes answer) (left pauses slept : Nat) (s : τ) :
    (p.attempts step left pauses slept s).interpret answer =
      p.attempts (fun s => (step s).interpret answer) left pauses slept s := by
  induction left generalizing pauses slept s with
  | zero => rfl
  | succ left ih =>
    rw [attempts_succ, attempts_succ, interpret_bind, h.attempt]
    congr 1
    funext _
    rw [interpret_bind]
    congr 1
    funext ⟨result, s'⟩
    cases result with
    | ok a => exact (interpret_bind _ _).trans (by rw [h.settled]; rfl)
    | error e =>
      refine (interpret_bind _ _).trans ?_
      rw [h.granted]
      congr 1
      funext delay
      cases delay with
      | none => exact (interpret_bind _ _).trans (by rw [h.settled]; rfl)
      | some d =>
        refine (interpret_bind _ _).trans ?_
        rw [h.sleep]
        congr 1
        funext _
        exact ih _ _ _

theorem Passes.retryWith (h : Passes answer) (s : τ) :
    (p.retryWith step s).interpret answer =
      p.retryWith (fun s => (step s).interpret answer) s := by
  unfold RetryPolicy.retryWith
  split
  · exact h.attempts ..
  · refine (interpret_bind _ _).trans ?_
    rw [h.patience]
    exact congrArg _ (funext fun n => h.attempts ..)

theorem Passes.retrying (h : Passes answer) (resource : String) (o : Operation) (a : Action S α) :
    ((Middleware.retrying p).around resource o a).interpret answer =
      (Middleware.retrying p).around resource o (a.interpret answer) := by
  dsimp only [Middleware.retrying]
  split
  · exact funext fun c => h.retryWith c
  · rfl

/-- One attempt is the step itself, but for the reports. -/
theorem unmarked_retryWith {step : τ → Program (Engine S) (Except ε α × τ)} {limit : UInt32}
    (hlimit : p.maxAttempts = some limit) (hone : limit.toNat ≤ 1) (s : τ) :
    (p.retryWith step s).unmarked = (step s).unmarked := by
  have hexhausted : p.exhaustedBy 1 = true := by
    rw [exhaustedBy, hlimit]
    exact decide_eq_true hone
  have hgranted : p.granted (S := S) 0 0 = pure none := if_pos hexhausted
  have hretry : p.retryWith step s = p.attempts step 1 0 0 s := by
    unfold RetryPolicy.retryWith
    rw [hlimit]
    exact congrArg (p.attempts step · 0 0 s) (Nat.max_eq_left hone)
  rw [hretry, attempts_succ]
  refine (interpret_bind (step s) _).trans ?_
  refine (congrArg _ (funext fun ended => ?_)).trans (bind_pure _)
  obtain ⟨result, s'⟩ := ended
  cases result with
  | ok a => rfl
  | error e =>
    dsimp only
    rw [hgranted]
    rfl

theorem unmarked_retrying {limit : UInt32} (hlimit : p.maxAttempts = some limit)
    (hone : limit.toNat ≤ 1) (resource : String) (o : Operation) (a : Action S α) :
    ((Middleware.retrying p).around resource o a).interpret
        (Engine.muting fun report => !report.isMeasured) =
      a.interpret (Engine.muting fun report => !report.isMeasured) := by
  dsimp only [Middleware.retrying]
  split
  · exact funext fun c => unmarked_retryWith hlimit hone c
  · rfl

end Retrying

section Measuring

variable {answer : (x : (Engine S).Call) → Program (Engine T) ((Engine S).Reply x)}
  (project resource : String) (o : Operation) (a : Action S α)

/-- What is done with the reports of measuring is done to each of them. -/
theorem Program.interpret_reports (ms : List Measurement) :
    (ms.forM fun m => Engine.report (S := S) (.measured m)).interpret answer =
      ms.forM fun m => (Engine.report (S := S) (.measured m)).interpret answer := by
  induction ms with
  | nil => rfl
  | cons m ms ih => exact (Program.interpret_bind _ _).trans (congrArg _ (funext fun _ => ih))

theorem interpret_measuring (f : (s : σ) → Action T (Value s)) (a : Action (Asking Value) α) :
    ((Middleware.measuring project).around resource o a).interpret (Asking.filling f) =
      (Middleware.measuring project).around resource o (a.interpret (Asking.filling f)) := by
  funext c
  refine (Program.interpret_bind (a.run c) _).trans (congrArg _ (funext fun ⟨result, c'⟩ => ?_))
  refine (Program.interpret_bind _ _).trans ?_
  rw [Program.interpret_reports]
  rfl

theorem unmeasured_measuring :
    ((Middleware.measuring project).around resource o a).interpret
        (Engine.muting Report.isMeasured) =
      a.interpret (Engine.muting Report.isMeasured) := by
  have hreports : ∀ ms : List Measurement,
      (ms.forM fun m => Engine.report (S := S) (.measured m)).unmeasured = pure () := by
    intro ms
    refine (Program.interpret_reports ms).trans ?_
    induction ms with
    | nil => rfl
    | cons m ms ih => exact ih
  funext c
  refine (Program.interpret_bind (a.run c) _).trans ?_
  refine (congrArg _ (funext fun ⟨result, c'⟩ => ?_)).trans (Program.bind_pure _)
  refine (Program.interpret_bind _ _).trans ?_
  exact congrArg (Program.bind · _) (hreports _)

end Measuring

namespace Middleware

def surrounding (outer inner : Middleware S) : Middleware S where
  around resource operation _ action :=
    outer.around resource operation (inner.around resource operation action)

def Uniform (m : Middleware (Asking Value)) (m' : Middleware S) : Prop :=
  ∀ (f : (s : σ) → Action S (Value s)) (resource : String) (o : Operation) (s : σ)
    (a : Action (Asking Value) (Value s)),
    (m.around resource o a).interpret (Asking.filling f) =
      m'.around resource o (a.interpret (Asking.filling f))

theorem uniform_retrying (p : RetryPolicy) :
    Uniform (retrying (S := Asking Value) p) (retrying (S := S) p) :=
  fun f resource o _ a => (passes_filling f).retrying resource o a

theorem uniform_measuring (project : String) :
    Uniform (measuring (S := Asking Value) project) (measuring (S := S) project) :=
  fun f resource o _ a => interpret_measuring project resource o f a

theorem Uniform.surrounding {outer inner : Middleware (Asking Value)} {outer' inner' : Middleware S}
    (ho : outer.Uniform outer') (hi : inner.Uniform inner') :
    (outer.surrounding inner).Uniform (outer'.surrounding inner') := fun f resource o s a =>
  (ho f resource o s _).trans (congrArg _ (hi f resource o s a))

end Middleware

def Direction.operation : Direction → Operation
  | .create => .ensureCreated
  | .delete => .ensureDeleted

theorem Resource.wrap_wrap (r : Resource S K) (inner outer : Middleware S) :
    (r.wrap inner).wrap outer = r.wrap (outer.surrounding inner) := rfl

namespace CrudResource

theorem wrap_wrap (r : CrudResource S K) (inner outer : Middleware S) :
    (r.wrap inner).wrap outer = r.wrap (outer.surrounding inner) := rfl

variable {r : CrudResource S K} {direction : Direction} {context : PassContext} {object : K}
  {c : Cancellation}

def Step.operation : r.Step → Operation
  | .currentState => .getCurrentState
  | .desiredState => .getDesiredState
  | .createPatch _ _ => .newCreatePatch
  | .updatePatch _ _ => .newUpdatePatch
  | .deletePatch _ _ => .newDeletePatch
  | .applyCreate _ => .applyCreateChange
  | .applyUpdate _ => .applyUpdateChange
  | .applyDelete _ => .applyDeleteChange

theorem performing_eq :
    r.performing context object = Asking.filling (r.perform context object) := by
  funext x
  cases x <;> rfl

/-- A middleware goes around each step. -/
theorem ensure_wrap (m : Middleware S) :
    (r.wrap m).toResource.ensure direction context object =
      (r.through fun s => m.around r.name s.operation
        (r.perform context object s)).toResource.ensure direction context object :=
  ensure_through (r := r.wrap m) direction

def protocolUnder (r : CrudResource S K) (m : Middleware r.Steps) (direction : Direction)
    (context : PassContext) (object : K) (c : Cancellation) :
    Program (Engine r.Steps) (Except Error Unit × Cancellation) :=
  ((r.outline.wrap m).toResource.ensure direction context object).run c

theorem protocolUnder_eq (m : Middleware r.Steps) :
    r.protocolUnder m direction context object c =
      (r.protocol direction context object c).interpret
        (Asking.filling fun s => m.around r.name s.operation s.ask) := by
  have h : (r.outline.toResource.ensure direction context object).interpret
      (Asking.filling fun s => m.around r.name s.operation s.ask) =
        (r.through fun s => (s.ask.interpret (Asking.filling fun s : r.Step =>
          m.around r.name s.operation s.ask))).toResource.ensure direction context object :=
    interpret_ensure direction
  refine (congrArg (Action.run · c) (h.trans ?_)).symm
  exact congrArg (fun f => (r.through f).toResource.ensure direction context object)
    (funext fun s => Asking.interpret_ask _ s)

theorem run_wrap {m : Middleware r.Steps} {m' : Middleware S} (h : m.Uniform m') :
    ((r.wrap m').toResource.ensure direction context object).run c =
      (r.protocolUnder m direction context object c).interpret (r.performing context object) := by
  have hsteps : (fun s => m'.around r.name s.operation (r.perform context object s)) =
      fun s => (m.around r.name s.operation s.ask).interpret (r.performing context object) := by
    funext s
    rw [performing_eq]
    exact ((h _ r.name s.operation s s.ask).trans
      (congrArg _ (Asking.interpret_ask (r.perform context object) s))).symm
  rw [ensure_wrap, hsteps]
  exact congrArg (Action.run · c) (interpret_ensure direction).symm

/-- If the steps come to the same without some requests, so does the whole. -/
theorem interpret_congr {f g : (s : r.Step) → Action T s.Value} {U : Signature}
    {answer : (x : (Engine T).Call) → Program (Engine U) ((Engine T).Reply x)}
    (h : ∀ s, (f s).interpret answer = (g s).interpret answer) :
    ((r.through f).toResource.ensure direction context object).interpret answer =
      ((r.through g).toResource.ensure direction context object).interpret answer := by
  rw [interpret_ensure, interpret_ensure, funext h]

end CrudResource

namespace Resource

variable {r : Resource S K} {direction : Direction} {context : PassContext} {object : K}
  {c : Cancellation}

def outline (r : Resource S K) : Resource (Asking fun _ : Direction => Unit) K where
  name := r.name
  ensureCreated _ _ := Asking.ask .create
  ensureDeleted _ _ := Asking.ask .delete

def protocol (r : Resource S K) (direction : Direction) (context : PassContext) (object : K)
    (c : Cancellation) :
    Program (Engine (Asking fun _ : Direction => Unit)) (Except Error Unit × Cancellation) :=
  (r.outline.ensure direction context object).run c

def protocolUnder (r : Resource S K) (m : Middleware (Asking fun _ : Direction => Unit))
    (direction : Direction) (context : PassContext) (object : K) (c : Cancellation) :
    Program (Engine (Asking fun _ : Direction => Unit)) (Except Error Unit × Cancellation) :=
  ((r.outline.wrap m).ensure direction context object).run c

theorem ensure_wrap (m : Middleware S) :
    (r.wrap m).ensure direction context object =
      m.around r.name direction.operation (r.ensure direction context object) := by
  cases direction <;> rfl

theorem ensure_outline : r.outline.ensure direction context object = Asking.ask direction := by
  cases direction <;> rfl

theorem protocolUnder_run (m : Middleware (Asking fun _ : Direction => Unit)) :
    r.protocolUnder m direction context object c =
      (m.around r.name direction.operation (Asking.ask direction)).run c := by
  rw [protocolUnder, ensure_wrap, ensure_outline]
  rfl

theorem protocolUnder_eq (m : Middleware (Asking fun _ : Direction => Unit)) :
    r.protocolUnder m direction context object c =
      (r.protocol direction context object c).interpret
        (Asking.filling fun d => m.around r.name d.operation (Asking.ask d)) := by
  have h := Asking.interpret_ask (fun d : Direction => m.around r.name d.operation
    (Asking.ask d)) direction
  rw [protocolUnder_run, protocol, ensure_outline]
  exact (congrArg (Action.run · c) h).symm

theorem run_wrap {m : Middleware (Asking fun _ : Direction => Unit)} {m' : Middleware S}
    (h : m.Uniform m') :
    ((r.wrap m').ensure direction context object).run c =
      (r.protocolUnder m direction context object c).interpret
        (Asking.filling fun d => r.ensure d context object) := by
  have hstep := (h (fun d => r.ensure d context object) r.name direction.operation direction
    (Asking.ask direction)).trans
      (congrArg _ (Asking.interpret_ask (fun d => r.ensure d context object) direction))
  rw [protocolUnder_run, ensure_wrap]
  exact (congrArg (Action.run · c) hstep).symm

end Resource

end ClusterKeeper
