import ClusterKeeper.Proofs.Courses
import ClusterKeeper.Resource

/-!
# Outlines of resources

In the outline of a resource every operation is a single request, and what the
operation does is left to the reply. The protocol of a resource is that of its
outline with the operations filled in.
-/

set_option autoImplicit false

namespace ClusterKeeper

variable {S T : Signature} {α β K : Type}

namespace Program

def interpret (answer : (x : S.Call) → Program T (S.Reply x)) : Program S α → Program T α
  | .pure a => .pure a
  | .request x next => (answer x).bind fun r => (next r).interpret answer
  | .unfinished => .unfinished

variable {answer : (x : S.Call) → Program T (S.Reply x)} {p q : Program S α}
  {log : List (Entry S)} {t : List (Entry T)} {a : α}

theorem interpret_bind (p : Program S α) (f : α → Program S β) :
    (p.bind f).interpret answer = (p.interpret answer).bind fun a => (f a).interpret answer := by
  induction p with
  | pure a => rfl
  | request x next ih => simp only [bind, interpret, ih, bind_assoc]
  | unfinished => rfl

theorem interpret_ask (answer : (x : S.Call) → Program T (S.Reply x)) (x : S.Call) :
    (ask x).interpret answer = answer x := bind_pure _

inductive Realizes (answer : (x : S.Call) → Program T (S.Reply x)) :
    List (Entry S) → List (Entry T) → Prop where
  | nil : Realizes answer [] []
  | cons {x : S.Call} {r : S.Reply x} {log : List (Entry S)} {t t' : List (Entry T)}
      (h : (answer x).Ends t r) (hrest : Realizes answer log t') :
      Realizes answer (⟨x, r⟩ :: log) (t ++ t')

theorem After.interpret (hq : p.After log q) (ht : Realizes answer log t) :
    (p.interpret answer).After t (q.interpret answer) := by
  induction hq generalizing t with
  | start p =>
    cases ht
    exact .start _
  | request _ ih =>
    cases ht with
    | cons h hrest => exact h.bind_after (ih hrest)

theorem ends_interpret :
    (p.interpret answer).Ends t a ↔ ∃ log, p.Ends log a ∧ Realizes answer log t := by
  constructor
  · intro h
    induction p generalizing t with
    | pure a' =>
      obtain ⟨rfl, rfl⟩ := ends_pure h
      exact ⟨[], .pure a, .nil⟩
    | request x next ih =>
      obtain ⟨t₁, r, t₂, rfl, h₁, h₂⟩ := ends_bind h
      obtain ⟨log, hlog, ht⟩ := ih r h₂
      exact ⟨⟨x, r⟩ :: log, .request hlog, .cons h₁ ht⟩
    | unfinished => cases h
  · rintro ⟨log, h, ht⟩
    exact ends_of_after (h.after.interpret ht)

end Program

namespace Action

variable {answer : (x : (Engine S).Call) → Program (Engine T) ((Engine S).Reply x)}

def interpret (answer : (x : (Engine S).Call) → Program (Engine T) ((Engine S).Reply x))
    (a : Action S α) : Action T α := ofRun fun c => (a.run c).interpret answer

theorem interpret_bind (a : Action S β) (f : β → Action S α) :
    (a >>= f).interpret answer = a.interpret answer >>= fun b => (f b).interpret answer := by
  funext c
  show ((a >>= f).run c).interpret answer =
    (a.interpret answer >>= fun b => (f b).interpret answer).run c
  rw [run_bind, run_bind, Program.interpret_bind]
  congr 1
  funext ⟨result, c'⟩
  cases result <;> rfl

theorem interpret_unlessCanceled (rest : Action S Unit) :
    (unlessCanceled rest).interpret answer = unlessCanceled (rest.interpret answer) := by
  funext c
  show ((if c.skipsResource then pure () else rest : Action S Unit).run c).interpret answer =
    (if c.skipsResource then pure () else rest.interpret answer : Action T Unit).run c
  cases c.skipsResource <;> rfl

end Action

namespace CrudResource

inductive Step (r : CrudResource S K) where
  | currentState
  | desiredState
  | createPatch (current desired : r.State)
  | updatePatch (current desired : r.State)
  | deletePatch (current desired : r.State)
  | applyCreate (change : r.CreateChange)
  | applyUpdate (change : r.UpdateChange)
  | applyDelete (change : r.DeleteChange)

variable (r : CrudResource S K)

def Step.Value {r : CrudResource S K} : r.Step → Type
  | .currentState | .desiredState => r.State
  | .createPatch _ _ | .updatePatch _ _ | .deletePatch _ _ => r.Patch
  | .applyCreate _ | .applyUpdate _ | .applyDelete _ => Unit

def perform (context : PassContext) (object : K) : (s : r.Step) → Action S s.Value
  | .currentState => r.currentState context object
  | .desiredState => r.desiredState context object
  | .createPatch current desired => r.createPatch context object current desired
  | .updatePatch current desired => r.updatePatch context object current desired
  | .deletePatch current desired => r.deletePatch context object current desired
  | .applyCreate change => r.applyCreate context object change
  | .applyUpdate change => r.applyUpdate context object change
  | .applyDelete change => r.applyDelete context object change

def Steps : Signature := ⟨r.Step × Cancellation, fun x => Except Error x.1.Value × Cancellation⟩

variable {r}

def Step.ask (s : r.Step) : Action r.Steps s.Value :=
  Action.ofRun fun c => Engine.call (S := r.Steps) (s, c)

variable (r)

def outline : CrudResource r.Steps K where
  State := r.State
  CreateChange := r.CreateChange
  UpdateChange := r.UpdateChange
  DeleteChange := r.DeleteChange
  name := r.name
  currentState _ _ := Step.ask (r := r) .currentState
  desiredState _ _ := Step.ask (r := r) .desiredState
  createPatch _ _ current desired := Step.ask (r := r) (.createPatch current desired)
  updatePatch _ _ current desired := Step.ask (r := r) (.updatePatch current desired)
  deletePatch _ _ current desired := Step.ask (r := r) (.deletePatch current desired)
  applyCreate _ _ change := Step.ask (r := r) (.applyCreate change)
  applyUpdate _ _ change := Step.ask (r := r) (.applyUpdate change)
  applyDelete _ _ change := Step.ask (r := r) (.applyDelete change)

def protocol (direction : Direction) (context : PassContext) (object : K) (c : Cancellation) :
    Program (Engine r.Steps) (Except Error Unit × Cancellation) :=
  (r.outline.toResource.ensure direction context object).run c

def performing (context : PassContext) (object : K) :
    (x : (Engine r.Steps).Call) → Program (Engine S) ((Engine r.Steps).Reply x)
  | .call (s, c) => (r.perform context object s).run c
  | .nextDelay turn => Engine.nextDelay turn
  | .sleep d => Engine.sleep d
  | .patience => Engine.patience
  | .report report => Engine.report report

variable {r} {context : PassContext} {object : K}

theorem interpret_ask (s : r.Step) :
    s.ask.interpret (r.performing context object) = r.perform context object s := by
  funext c
  exact Program.interpret_ask (r.performing context object) (.call (s, c))

def through (r : CrudResource S K) (f : (s : r.Step) → Action T s.Value) : CrudResource T K where
  State := r.State
  CreateChange := r.CreateChange
  UpdateChange := r.UpdateChange
  DeleteChange := r.DeleteChange
  name := r.name
  currentState _ _ := f .currentState
  desiredState _ _ := f .desiredState
  createPatch _ _ current desired := f (.createPatch current desired)
  updatePatch _ _ current desired := f (.updatePatch current desired)
  deletePatch _ _ current desired := f (.deletePatch current desired)
  applyCreate _ _ change := f (.applyCreate change)
  applyUpdate _ _ change := f (.applyUpdate change)
  applyDelete _ _ change := f (.applyDelete change)

section Through

variable {U : Signature} {answer : (x : (Engine T).Call) → Program (Engine U) ((Engine T).Reply x)}
  {f : (s : r.Step) → Action T s.Value}

theorem interpret_applyIfPresent (change : Option β) (apply : β → Action T Unit)
    (rest : Action T Unit) :
    (applyIfPresent change apply rest).interpret answer =
      applyIfPresent change (fun x => (apply x).interpret answer) (rest.interpret answer) := by
  cases change with
  | none => rfl
  | some x =>
    simp only [applyIfPresent, Action.interpret_bind, Action.interpret_unlessCanceled]

theorem interpret_applyPatch (p : (r.through f).Patch) :
    ((r.through f).applyPatch context object p).interpret answer =
      (r.through fun s => (f s).interpret answer).applyPatch context object p := by
  obtain ⟨_, update, _⟩ := p
  unfold applyPatch
  rw [interpret_applyIfPresent, interpret_applyIfPresent]
  cases update <;> rfl

theorem interpret_withStates (rest : r.State → r.State → Action T Unit) :
    ((r.through f).withStates context object rest).interpret answer =
      (r.through fun s => (f s).interpret answer).withStates context object
        fun current desired => (rest current desired).interpret answer := by
  simp only [withStates, Action.interpret_bind, Action.interpret_unlessCanceled]
  rfl

/-- The protocol asks for nothing of its own. -/
theorem interpret_ensure (direction : Direction) :
    ((r.through f).toResource.ensure direction context object).interpret answer =
      (r.through fun s => (f s).interpret answer).toResource.ensure direction context object := by
  cases direction with
  | create =>
    refine (interpret_withStates _).trans (congrArg _ ?_)
    funext current desired
    simp only [Action.interpret_bind, Action.interpret_unlessCanceled, interpret_applyPatch]
    rfl
  | delete =>
    refine (interpret_withStates _).trans (congrArg _ ?_)
    funext current desired
    simp only [Action.interpret_bind, interpret_applyPatch]
    rfl

end Through

theorem through_applyPatch :
    (r.through (r.perform context object)).applyPatch context object =
      r.applyPatch context object := by
  funext ⟨_, update, _⟩
  cases update <;> rfl

/-- A protocol looks at a resource through its steps. -/
theorem ensure_through (direction : Direction) :
    r.toResource.ensure direction context object =
      (r.through (r.perform context object)).toResource.ensure direction context object := by
  cases direction with
  | create =>
    refine congrArg (r.withStates context object) ?_
    funext current desired
    rw [through_applyPatch]
    rfl
  | delete =>
    refine congrArg (r.withStates context object) ?_
    funext current desired
    rw [through_applyPatch]
    rfl

/-- Each run of a resource is a run of its outline, step by step. -/
theorem run_eq_interpret (r : CrudResource S K) (direction : Direction) (context : PassContext)
    (object : K) (c : Cancellation) :
    (r.toResource.ensure direction context object).run c =
      (r.protocol direction context object c).interpret (r.performing context object) := by
  have h : ((r.through Step.ask).toResource.ensure direction context object).interpret
      (r.performing context object) = _ := interpret_ensure direction
  simp only [interpret_ask] at h
  exact congrArg (Action.run · c) ((ensure_through direction).trans h.symm)

/-- What joining keeps holds of a run if it holds of each step. -/
theorem of_steps {r : CrudResource Cloud K} {P : List Exchange → Prop} (hnil : P [])
    (hjoin : ∀ h h', P h → P h' → P (h ++ h'))
    (hsteps : ∀ s c t x, ((r.perform context object s).run c).Ends t x → P (exchanges t))
    {direction : Direction} {c : Cancellation} {t : Transcript Cloud}
    {x : Except Error Unit × Cancellation}
    (h : ((r.toResource.ensure direction context object).run c).Ends t x) : P (exchanges t) := by
  rw [run_eq_interpret, Program.ends_interpret] at h
  obtain ⟨log, -, hlog⟩ := h
  induction hlog with
  | nil => exact hnil
  | @cons x _ _ _ _ h _ ih =>
    rw [exchanges_append]
    refine hjoin _ _ ?_ ih
    cases x with
    | call x => exact hsteps x.1 x.2 _ _ h
    | nextDelay => rw [Engine.ends_nextDelay h]; exact hnil
    | sleep => rw [Engine.ends_sleep h]; exact hnil
    | patience => rw [Engine.ends_patience h]; exact hnil
    | report => rw [Engine.ends_report h]; exact hnil

end CrudResource

end ClusterKeeper
