import ClusterKeeper.Proofs.Environment
import ClusterKeeper.Resource

/-!
# Rules for actions

What it takes to show something of an action, one rule for each way in which
actions are put together. Reports and pauses leave the state alone.
-/

set_option autoImplicit false

namespace ClusterKeeper

variable {S : Signature} {α β σ : Type}

namespace Environment

def EngineTakes (E : Environment S σ) : Engine.Call S → σ → Prop
  | .call c, s => E.Takes c s
  | .nextDelay _, _ | .sleep _, _ => E.repeats
  | _, _ => True

def EngineAnswers (E : Environment S σ) :
    (c : Engine.Call S) → σ → Engine.Reply c → σ → Prop
  | .call c, s, r, s' => E.Answers c s r s'
  | .patience, s, (n : Nat), s' => s' = s ∧ (E.repeats ∨ 0 < n)
  | _, s, _, s' => s' = s

def engine (E : Environment S σ) : Environment (Engine S) σ :=
  ⟨E.EngineTakes, E.EngineAnswers, E.repeats⟩

end Environment

variable {E : Environment S σ}

namespace Engine

theorem meets_report (r : Report) (post : Unit → σ → Prop) (s : σ) :
    (report (S := S) r).Meets E.engine post s ↔ post () s :=
  ⟨fun h => h.2 () s rfl, fun h => ⟨trivial, fun _ _ hs => hs ▸ h⟩⟩

theorem meets_reports (ms : List Measurement) (post : Unit → σ → Prop) (s : σ) :
    (ms.forM fun m => report (S := S) (.measured m)).Meets E.engine post s ↔ post () s := by
  induction ms with
  | nil => rfl
  | cons m ms ih =>
    change (Program.bind _ _).Meets E.engine post s ↔ _
    rw [Program.meets_bind, meets_report, ih]

end Engine

namespace Action

def Meets (E : Environment S σ) (a : Action S α)
    (post : Except Error α → Cancellation → σ → Prop) (c : Cancellation) (s : σ) : Prop :=
  (a.run c).Meets E.engine (fun p s => post p.1 p.2 s) s

def Onward (next : α → Cancellation → σ → Prop)
    (post : Except Error β → Cancellation → σ → Prop) :
    Except Error α → Cancellation → σ → Prop
  | .ok a => next a
  | .error e => post (.error e)

variable {post post' : Except Error α → Cancellation → σ → Prop} {c : Cancellation} {s : σ}

theorem onward_ok (next : β → Cancellation → σ → Prop) (b : β) :
    Onward next post (.ok b) c s = next b c s := rfl

theorem onward_iff {next next' : β → Cancellation → σ → Prop}
    (h : ∀ b c s, next b c s ↔ next' b c s) (x : Except Error β) (c : Cancellation) (s : σ) :
    Onward next post x c s ↔ Onward next' post x c s := by
  cases x with
  | ok b => exact h b c s
  | error e => rfl

theorem Meets.mono {a : Action S α} (h : a.Meets E post c s)
    (hp : ∀ r c s, post r c s → post' r c s) : a.Meets E post' c s :=
  Program.Meets.mono h fun p s => hp p.1 p.2 s

theorem meets_congr {a : Action S α} (hp : ∀ r c s, post r c s ↔ post' r c s) :
    a.Meets E post c s ↔ a.Meets E post' c s :=
  ⟨fun h => h.mono fun r c s => (hp r c s).1, fun h => h.mono fun r c s => (hp r c s).2⟩

theorem meets_pure (a : α) : (pure a : Action S α).Meets E post c s ↔ post (.ok a) c s :=
  Iff.rfl

theorem run_bind (a : Action S β) (f : β → Action S α) (c : Cancellation) :
    (a >>= f).run c = (a.run c).bind fun p => match p.1 with
      | .ok b => (f b).run p.2
      | .error e => .pure (.error e, p.2) := by
  change Program.bind _ _ = Program.bind _ _
  congr 1
  funext p
  rcases p with ⟨r | b, c⟩ <;> rfl

theorem meets_bind (a : Action S β) (f : β → Action S α) :
    (a >>= f).Meets E post c s ↔ a.Meets E (Onward (fun b => (f b).Meets E post) post) c s := by
  unfold Meets
  rw [run_bind, Program.meets_bind]
  constructor <;> intro h <;> refine h.mono ?_ <;> rintro ⟨r | b, c⟩ s h <;> exact h

theorem meets_get (post : Except Error Cancellation → Cancellation → σ → Prop) :
    (get : Action S Cancellation).Meets E post c s ↔ post (.ok c) c s := Iff.rfl

theorem meets_modify (f : Cancellation → Cancellation)
    (post : Except Error PUnit → Cancellation → σ → Prop) :
    (modify f : Action S PUnit).Meets E post c s ↔ post (.ok ⟨⟩) (f c) s := Iff.rfl

theorem run_lift (p : Program (Engine S) α) (c : Cancellation) :
    (liftM p : Action S α).run c = p.bind fun a => .pure (.ok a, c) := by
  change Program.bind (Program.bind p _) _ = _
  rw [Program.bind_assoc]
  rfl

theorem meets_lift (p : Program (Engine S) α) :
    (liftM p : Action S α).Meets E post c s ↔
      p.Meets E.engine (fun a s => post (.ok a) c s) s := by
  unfold Meets
  rw [run_lift, Program.meets_bind]
  rfl

theorem meets_except (x : Except Error α) :
    (liftM x : Action S α).Meets E post c s ↔ post x c s := by
  cases x <;> rfl

theorem meets_call (k : S.Call) (post : Except Error (S.Reply k) → Cancellation → σ → Prop) :
    (call k).Meets E post c s ↔
      E.Takes k s ∧ ∀ r s', E.Answers k s r s' → post (.ok r) c s' :=
  (meets_lift _).trans (Program.meets_ask _ _ _)

theorem meets_ofRun (f : Cancellation → Program (Engine S) (Except Error α × Cancellation)) :
    (ofRun f).Meets E post c s ↔
      (f c).Meets E.engine (fun p s => post p.1 p.2 s) s := Iff.rfl

theorem meets_result (a : Action S α)
    (post : Except Error (Except Error α) → Cancellation → σ → Prop) :
    a.result.Meets E post c s ↔ a.Meets E (fun r c s => post (.ok r) c s) c s := by
  rw [result, meets_ofRun, Program.bind_eq, Program.meets_bind]
  rfl

theorem meets_unlessCanceled (rest : Action S Unit)
    (post : Except Error Unit → Cancellation → σ → Prop) :
    (unlessCanceled rest).Meets E post c s ↔
      if c.skipsResource then post (.ok ()) c s else rest.Meets E post c s := by
  rw [unlessCanceled, meets_bind, meets_get]
  show (if c.skipsResource then pure () else rest).Meets E post c s ↔ _
  split <;> rfl

theorem meets_ite (p : Prop) [Decidable p] (a b : Action S α) :
    (if p then a else b).Meets E post c s ↔
      if p then a.Meets E post c s else b.Meets E post c s := by
  split <;> rfl

end Action

end ClusterKeeper
