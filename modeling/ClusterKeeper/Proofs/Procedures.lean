import ClusterKeeper.Proofs.Tolerance
import ClusterKeeper.Proofs.Unfolding

/-!
# Procedures

What is asked of the cloud by an action that goes on only as long as it succeeds, whatever
is answered and wherever it is left off. An outcome tells whether something succeeded;
there is none while it is under way.
-/

set_option autoImplicit false

namespace ClusterKeeper

variable {α β γ ε : Type} {c : Cancellation}

abbrev Procedure : Type := List Exchange → Option Bool → Prop

namespace Procedure

inductive Made (x : Cloud.Call) : Procedure where
  | left : Made x [] none
  | answered (answer : Except x.Fault x.Value) {o : Option Bool}
      (ho : ∀ b ∈ o, b = (Exchange.mk x answer).tolerated) : Made x [⟨x, answer⟩] o

inductive AndThen (A B : Procedure) : Procedure where
  | first {h : List Exchange} {o : Option Bool} (hA : A h o) (ho : o ≠ some true) :
      AndThen A B h o
  | both {h h' : List Exchange} {o : Option Bool} (hA : A h (some true)) (hB : B h' o) :
      AndThen A B (h ++ h') o

inductive InTurn (P : β → Procedure) : List β → Procedure where
  | nil {o : Option Bool} (ho : o ≠ some false) : InTurn P [] [] o
  | stop {b : β} {rest : List β} {h : List Exchange} {o : Option Bool} (hb : P b h o)
      (ho : o ≠ some true) : InTurn P (b :: rest) h o
  | next {b : β} {rest : List β} {h h' : List Exchange} {o : Option Bool}
      (hb : P b h (some true)) (hrest : InTurn P rest h' o) : InTurn P (b :: rest) (h ++ h') o

variable {A B : Procedure} {P : β → Procedure}

theorem Made.leavesOff (x : Cloud.Call) : LeavesOff (Made x) := by
  intro h b hmade
  cases hmade with
  | answered answer ho => exact .answered answer nofun

theorem AndThen.leavesOff (hA : LeavesOff A) (hB : LeavesOff B) : LeavesOff (AndThen A B) := by
  intro h b hrun
  cases hrun with
  | first hfirst ho => exact .first (hA h b hfirst) nofun
  | both hfirst hsecond => exact .both hfirst (hB _ b hsecond)

theorem InTurn.leavesOff (hP : ∀ b, LeavesOff (P b)) (l : List β) : LeavesOff (InTurn P l) := by
  intro h b hrun
  generalize ho : some b = o at hrun
  induction hrun with
  | nil => exact .nil nofun
  | stop hb =>
    subst ho
    exact .stop (hP _ _ _ hb) nofun
  | next hb _ ih => exact .next hb (ih ho)

/-- What is found in two parts is found in the first or behind it. -/
theorem split_of_append {before after h h' : List Exchange} {e : Exchange}
    (heq : before ++ e :: after = h ++ h') :
    (∃ rest, h = before ++ e :: rest) ∨ ∃ within, before = h ++ within ∧
      h' = within ++ e :: after := by
  rcases List.append_eq_append_iff.mp heq with ⟨tail, rfl, htail⟩ | ⟨within, rfl, rfl⟩
  · rcases List.cons_eq_append_iff.mp htail with ⟨rfl, rfl⟩ | ⟨rest, rfl, -⟩
    · exact .inr ⟨[], by simp, rfl⟩
    · exact .inl ⟨rest, rfl⟩
  · exact .inr ⟨within, rfl, rfl⟩

/-- What is asked at some time is asked for one of the elements, and all that was asked for
it until then is among what was asked before. -/
theorem InTurn.split {l : List β} {before after : List Exchange} {e : Exchange}
    {o : Option Bool} (h : InTurn P l (before ++ e :: after) o) :
    ∃ b ∈ l, ∃ earlier within rest o', before = earlier ++ within ∧
      P b (within ++ e :: rest) o' := by
  generalize hh : before ++ e :: after = history at h
  induction h generalizing before with
  | nil => exact absurd hh (by simp)
  | @stop b rest h o hb _ =>
    subst hh
    exact ⟨b, List.mem_cons_self, [], before, after, o, rfl, hb⟩
  | @next b rest h h' o hb hrest ih =>
    rcases split_of_append hh with ⟨tail, rfl⟩ | ⟨within, rfl, htail⟩
    · exact ⟨b, List.mem_cons_self, [], before, tail, some true, rfl, hb⟩
    · obtain ⟨b', hb', earlier, inner, tail, o', rfl, hP⟩ := ih htail.symm
      exact ⟨b', List.mem_cons_of_mem _ hb', h ++ earlier, inner, tail, o',
        (List.append_assoc _ _ _).symm, hP⟩

/-- Whatever succeeded for all elements succeeded for each. -/
theorem InTurn.forall_of_succeeded {l : List β} {h : List Exchange}
    (hrun : InTurn P l h (some true)) : ∀ b ∈ l, ∃ h', h'.Sublist h ∧ P b h' (some true) := by
  generalize ho : some true = o at hrun
  induction hrun with
  | nil => exact fun b hb => absurd hb List.not_mem_nil
  | stop _ hne => exact absurd ho.symm hne
  | @next b rest h h' _ hb _ ih =>
    subst ho
    refine List.forall_mem_cons.mpr ⟨⟨h, List.sublist_append_left h h', hb⟩, fun b' hb' => ?_⟩
    obtain ⟨inner, hsub, hP⟩ := ih rfl b' hb'
    exact ⟨inner, hsub.trans (List.sublist_append_right h h'), hP⟩

theorem InTurn.calls {l : List β} {h : List Exchange} {o : Option Bool} {e : Exchange}
    (hrun : InTurn P l h o) (he : e ∈ h) : ∃ b ∈ l, ∃ h' o', P b h' o' ∧ e ∈ h' := by
  obtain ⟨before, after, rfl⟩ := List.append_of_mem he
  obtain ⟨b, hb, -, within, rest, o', -, hP⟩ := hrun.split
  exact ⟨b, hb, _, o', hP, List.mem_append_right within List.mem_cons_self⟩

theorem Made.call_eq {x : Cloud.Call} {h : List Exchange} {o : Option Bool} {e : Exchange}
    (hmade : Made x h o) (he : e ∈ h) : e.call = x := by
  cases hmade with
  | left => cases he
  | answered => rw [List.mem_singleton.mp he]

theorem Made.tolerated {x : Cloud.Call} {h : List Exchange} (hmade : Made x h (some true)) :
    ∃ e ∈ h, e.call = x ∧ e.tolerated = true := by
  cases hmade with
  | answered answer ho => exact ⟨_, List.mem_singleton.mpr rfl, rfl, (ho true rfl).symm⟩

def judged (A : Procedure) (h : List Exchange) (o : Option (Except ε α)) : Prop :=
  A h (o.map Except.isOk)

theorem judged_leavesOff (hA : LeavesOff A) : LeavesOff (A.judged (α := α) (ε := ε)) :=
  fun h r hr => hA h r.isOk hr

end Procedure

namespace Action

open Procedure

variable {A B : Procedure}

def Pursues (a : Action Cloud α) (c : Cancellation) (A : Procedure) : Prop :=
  a.Unfolds c (Keeping c A.judged)

theorem Pursues.pure {a : α} (hnone : A [] none) (htrue : A [] (some true)) :
    (Pure.pure a : Action Cloud α).Pursues c A :=
  Unfolds.pure (keeping_none.mpr hnone) (keeping_some.mpr ⟨rfl, htrue⟩)

theorem Pursues.bind {f : β → Action Cloud α} {a : Action Cloud β} (hA : LeavesOff A)
    (ha : a.Pursues c A) (hf : ∀ b, (f b).Pursues c B) : (a >>= f).Pursues c (AndThen A B) := by
  refine Unfolds.bind ha (fun h hleft => ?_) (fun h e c' hfailed => ?_) fun h b c' hok => ?_
  · have hnone := keeping_none.mp hleft
    exact keeping_none.mpr (.first hnone nofun)
  · obtain ⟨rfl, hfalse⟩ := keeping_some.mp hfailed
    exact ⟨keeping_none.mpr (.first (hA h false hfalse) nofun),
      keeping_some.mpr ⟨rfl, .first hfalse nofun⟩⟩
  · obtain ⟨rfl, htrue⟩ := keeping_some.mp hok
    refine (hf b).mono ?_
    rintro h' o ⟨o', rfl, hB⟩
    exact ⟨o', rfl, .both htrue hB⟩

theorem Pursues.next {f : β → Action Cloud α} {a : Action Cloud β} {b : γ} {rest : List γ}
    {P : γ → Procedure} (hP : LeavesOff (P b)) (ha : a.Pursues c (P b))
    (hf : ∀ v, (f v).Pursues c (InTurn P rest)) : (a >>= f).Pursues c (InTurn P (b :: rest)) := by
  refine Unfolds.mono (Pursues.bind hP ha hf) ?_
  rintro h o ⟨o', rfl, hrun⟩
  refine ⟨o', rfl, ?_⟩
  cases hrun with
  | first hb ho => exact .stop hb ho
  | both hb hrest => exact .next hb hrest

theorem Pursues.last {a : Action Cloud α} {b : γ} {P : γ → Procedure} (hP : LeavesOff (P b))
    (ha : a.Pursues c (P b)) : a.Pursues c (InTurn P [b]) := by
  rw [← bind_pure a]
  exact .next hP ha fun _ => .pure (.nil nofun) (.nil nofun)

theorem Pursues.forM {f : β → Action Cloud PUnit} {P : β → Procedure}
    (hP : ∀ b, LeavesOff (P b)) (hf : ∀ b, (f b).Pursues c (P b)) (l : List β) :
    (l.forM f).Pursues c (InTurn P l) := by
  induction l with
  | nil => exact .pure (.nil nofun) (.nil nofun)
  | cons b rest ih => exact .next (hP b) (hf b) fun _ => ih

theorem Unfolds.orFail {Q : List Exchange → Option (Except Error α × Cancellation) → Prop}
    {message : String} {r : Except CloudError α} (hleft : Q [] none)
    (hend : ∀ r' : Except Error α, r'.isOk = r.isOk → Q [] (some (r', c))) :
    (Cloud.orFail message r).Unfolds c Q := by
  cases r with
  | ok a => exact .pure hleft (hend (.ok a) rfl)
  | error e => exact Program.Unfolds.pure hleft (hend (.error _) rfl)

theorem Pursues.call {x : Cloud.Call} {message : String}
    {f : Except x.Fault x.Value → Except CloudError α} (hf : Judges x f) :
    (Action.call (S := Cloud) x >>= fun answer => Cloud.orFail message (f answer)).Pursues c
      (Made x) := by
  refine .call_bind (keeping_none.mpr .left) fun answer => ?_
  refine .orFail (keeping_none.mpr (.answered answer nofun)) fun r hr => ?_
  refine keeping_some.mpr ⟨rfl, .answered answer fun b hb => ?_⟩
  rw [← hf answer, ← hr]
  exact (Option.some.inj hb).symm

end Action

end ClusterKeeper
