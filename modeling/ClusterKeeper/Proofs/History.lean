import ClusterKeeper.Proofs.ResourceRules

/-!
# Histories of passes

A cloud of which nothing is known answers as it likes. All there is to go by is
what was asked of it and what it answered.
-/

set_option autoImplicit false

namespace ClusterKeeper

structure Exchange where
  call : Cloud.Call
  reply : Except call.Fault call.Value

def recording (takes : Cloud.Call → List Exchange → Prop) : Discipline (List Exchange) where
  environment := {
    Takes := takes
    Answers := fun x h r h' => h' = h ++ [⟨x, r⟩]
    repeats := True }
  Moves := (· <+: ·)
  refl := List.prefix_refl
  trans := List.IsPrefix.trans

abbrev anyCloud : Discipline (List Exchange) := recording fun _ _ => True

def Heeded (takes : Cloud.Call → List Exchange → Prop) (h : List Exchange) : Prop :=
  ∀ before e after, h = before ++ e :: after → takes e.call before

theorem Heeded.mono {takes takes' : Cloud.Call → List Exchange → Prop} {h : List Exchange}
    (hh : Heeded takes h) (ht : ∀ x h, takes x h → takes' x h) : Heeded takes' h :=
  fun before e after heq => ht _ _ (hh before e after heq)

theorem Heeded.next {takes : Cloud.Call → List Exchange → Prop} {h : List Exchange} {e : Exchange}
    (hh : Heeded takes h) (he : takes e.call h) : Heeded takes (h ++ [e]) := by
  intro before e' after heq
  rcases List.eq_nil_or_concat after with rfl | ⟨after', e'', rfl⟩
  · obtain ⟨rfl, he'⟩ := List.append_inj' heq rfl
    cases he'
    exact he
  · have heq : h ++ [e] = (before ++ e' :: after') ++ [e''] := by
      rw [heq, List.concat_eq_append, List.append_assoc, List.cons_append]
    obtain ⟨rfl, -⟩ := List.append_inj' heq rfl
    exact hh before e' after' rfl

namespace Recording

open Discipline

variable {takes : Cloud.Call → List Exchange → Prop} {α β : Type} {h h' : List Exchange}

/-- In every run of the program, left off or not, only calls that are taken are
made. -/
theorem heeded {p : Program (Engine Cloud) α} {post : α → List Exchange → Prop} {o : Option α}
    (hp : p.Meets (recording takes).environment.engine post [])
    (hl : p.Leads anyCloud.environment.engine [] o h) : Heeded takes h := by
  have hl : p.Leads (recording takes).environment.engine [] o h := hl.mono fun _ _ _ _ hr => hr
  refine Program.Meets.keeps (R := fun h h' => Heeded takes h → Heeded takes h') (fun _ hh => hh)
    (fun hab hbc ha => hbc (hab ha)) ?_ hp hl fun before e after heq => ?_
  · intro x h r h' hx hr hh
    cases x with
    | call x => cases hr; exact hh.next hx
    | patience => cases hr.1; exact hh
    | _ => cases hr; exact hh
  · cases before <;> cases heq

abbrev Admits (takes : Cloud.Call → List Exchange → Prop) (a : Action Cloud α)
    (h : List Exchange) : Prop :=
  (recording takes).Allows a (fun _ => True) h

namespace Admits

theorem does {a : Action Cloud α} {c : Cancellation} {F : α → List Exchange → Prop}
    (ha : Admits takes a h) (hF : ∀ a h', h <+: h' → F a h') :
    (recording takes).Does True a F c h :=
  Discipline.Allows.does ha fun a h' hm _ => hF a h' hm

theorem pure (a : α) : Admits takes (Pure.pure a) h := Discipline.Allows.pure trivial

theorem orFail {message : String} (r : Except CloudError α) :
    Admits takes (Cloud.orFail message r) h := Discipline.Allows.orFail fun _ _ => trivial

theorem bind {a : Action Cloud β} {f : β → Action Cloud α} (ha : Admits takes a h)
    (hf : ∀ b, Admits takes (f b) h) : Admits takes (a >>= f) h :=
  Discipline.Allows.bind ha fun b _ => hf b

theorem call {x : Cloud.Call} (hx : ∀ h', h <+: h' → takes x h') :
    Admits takes (Action.call (S := Cloud) x) h := fun _ h₁ hm =>
  .call (hx h₁ hm) fun _ _ hr => ⟨⟨_, hr.symm⟩, trivial⟩

theorem managed (policy : RetryPolicy) (o : Operation) {a : Action Cloud α}
    {project resource : String} (ha : Admits takes a h) :
    Admits takes ((Middleware.measuring project).around resource o
      ((Middleware.retrying policy).around resource o a)) h :=
  Discipline.Allows.managed policy o trivial ha

end Admits

end Recording

end ClusterKeeper
