/-!
# Programs as trees of requests

A program either ends with a value or asks for something and goes on with the
reply. Whoever answers the requests sees every one of them in order and
nothing else, so a statement about all clouds is a statement about all
replies. A tree is finite along each branch; one that was cut off before its
end says so.
-/

set_option autoImplicit false

namespace ClusterKeeper

structure Signature where
  Call : Type
  Reply : Call → Type

inductive Program (S : Signature) (α : Type) : Type where
  | pure (a : α)
  | request (c : S.Call) (next : S.Reply c → Program S α)
  | unfinished

namespace Program

variable {S : Signature} {α β γ σ : Type}

def bind : Program S α → (α → Program S β) → Program S β
  | .pure a, f => f a
  | .request c next, f => .request c fun r => (next r).bind f
  | .unfinished, _ => .unfinished

instance : Monad (Program S) where
  pure := Program.pure
  bind := Program.bind

theorem bind_eq (p : Program S α) (f : α → Program S β) : p >>= f = p.bind f := rfl

theorem bind_pure (p : Program S α) : p.bind .pure = p := by
  induction p with
  | pure a => rfl
  | request c next ih => simp only [bind, ih]
  | unfinished => rfl

theorem bind_assoc (p : Program S α) (f : α → Program S β) (g : β → Program S γ) :
    (p.bind f).bind g = p.bind fun a => (f a).bind g := by
  induction p with
  | pure a => rfl
  | request c next ih => simp only [bind, ih]
  | unfinished => rfl

instance : LawfulMonad (Program S) :=
  .mk' (Program S) bind_pure (fun _ _ => rfl) bind_assoc

def ask (c : S.Call) : Program S (S.Reply c) := .request c .pure

/-- Answers every request from a state. There is no value if the program was
cut off. -/
def run (answer : (c : S.Call) → σ → S.Reply c × σ) : Program S α → σ → Option α × σ
  | .pure a, s => (some a, s)
  | .request c next, s =>
    let (r, s) := answer c s
    (next r).run answer s
  | .unfinished, s => (none, s)

end Program

end ClusterKeeper
