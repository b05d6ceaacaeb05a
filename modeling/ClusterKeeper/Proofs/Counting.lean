import ClusterKeeper.Proofs.Tolerance

/-!
# Answers that count

What a pass comes to depends on the answers of the attempts that were the last
of their kind. An attempt that is repeated is forgotten, with all attempts that
were made within it.
-/

set_option autoImplicit false

namespace ClusterKeeper

variable {α β ε : Type} {counts : Cloud.Call → Bool}

/-- One entry after the answers of each attempt under way, the innermost attempt
first. A pause drops the attempt before it; the last attempt becomes part of the
one it was made within. -/
def weigh (counts : Cloud.Call → Bool) :
    List (List Exchange) → Entry (Engine Cloud) → List (List Exchange)
  | frames, ⟨.report .attempt, _⟩ => [] :: frames
  | _ :: frames, ⟨.sleep _, _⟩ => frames
  | top :: below :: frames, ⟨.report .settled, _⟩ => (below ++ top) :: frames
  | top :: frames, ⟨.call x, r⟩ => (if counts x then top ++ [⟨x, r⟩] else top) :: frames
  | frames, _ => frames

def counted (counts : Cloud.Call → Bool) (t : Transcript Cloud) : List Exchange :=
  (t.foldl (weigh counts) [[]]).headD []

def Adds (counts : Cloud.Call → Bool) (t : Transcript Cloud) (h : List Exchange) : Prop :=
  ∀ top frames, t.foldl (weigh counts) (top :: frames) = (top ++ h) :: frames

namespace Adds

variable {t t' : Transcript Cloud} {h h' : List Exchange}

theorem counted_eq (ht : Adds counts t h) : counted counts t = h := by
  rw [counted, ht [] [], List.headD_cons, List.nil_append]

theorem nil : Adds counts [] [] := fun top frames => by
  rw [List.foldl_nil, List.append_nil]

theorem append (ht : Adds counts t h) (ht' : Adds counts t' h') :
    Adds counts (t ++ t') (h ++ h') := fun top frames => by
  rw [List.foldl_append, ht, ht', List.append_assoc]

theorem call {x : Cloud.Call} (hx : counts x = true) (r : Except x.Fault x.Value) :
    Adds counts [.call (S := Cloud) x r] [⟨x, r⟩] := fun top frames => by
  show (if counts x then top ++ [⟨x, r⟩] else top) :: frames = _
  rw [if_pos hx]

theorem call_ignored {x : Cloud.Call} (hx : counts x = false) (r : Except x.Fault x.Value) :
    Adds counts [.call (S := Cloud) x r] [] := fun top frames => by
  show (if counts x then top ++ [⟨x, r⟩] else top) :: frames = _
  rw [hx, if_neg Bool.false_ne_true, List.append_nil]

theorem measured (ms : List Measurement) :
    Adds counts (ms.map fun m => .reported (.measured m)) [] := by
  induction ms with
  | nil => exact nil
  | cons m ms ih => exact fun top frames => ih top frames

end Adds

/-- Of all attempts the last one counts. -/
theorem Tried.adds {A : Transcript Cloud → Except ε α → Prop}
    {Q : List Exchange → Except ε α → Prop} {n : Nat} {t : Transcript Cloud} {r : Except ε α}
    (ht : Tried A n t r) (hA : ∀ t r, A t r → ∃ h, Adds counts t h ∧ Q h r) :
    ∃ h, Adds counts t h ∧ Q h r := by
  induction ht with
  | @last t refusal r ht hrefusal =>
    obtain ⟨h, hadds, hQ⟩ := hA t r ht
    refine ⟨h, fun top frames => ?_, hQ⟩
    have hturn : ∀ frames, refusal.foldl (weigh counts) frames = frames := by
      rcases hrefusal with rfl | ⟨turn, rfl⟩
      · exact fun _ => rfl
      · rintro (_ | ⟨top, frames⟩) <;> rfl
    rw [List.cons_append, List.cons_append, List.foldl_cons, List.foldl_append, List.foldl_append]
    show [Entry.reported .settled].foldl (weigh counts)
      (refusal.foldl (weigh counts) (t.foldl (weigh counts) ([] :: top :: frames))) = _
    rw [hadds, hturn]
    rfl
  | @again t t' e n r ht turn d _ ih =>
    obtain ⟨h, hadds, -⟩ := hA t (.error e) ht
    obtain ⟨h', hadds', hQ⟩ := ih
    refine ⟨h', fun top frames => ?_, hQ⟩
    rw [List.cons_append, List.cons_append, List.foldl_cons, List.foldl_append, List.foldl_append]
    show t'.foldl (weigh counts) ([Entry.turned turn (some d), Entry.slept d].foldl (weigh counts)
      (t.foldl (weigh counts) ([] :: top :: frames))) = _
    rw [hadds]
    exact hadds' top frames

theorem RetryPolicy.Retried.adds {p : RetryPolicy} {A : Transcript Cloud → Except ε α → Prop}
    {Q : List Exchange → Except ε α → Prop} {t : Transcript Cloud} {r : Except ε α}
    (ht : p.Retried A t r) (hA : ∀ t r, A t r → ∃ h, Adds counts t h ∧ Q h r) :
    ∃ h, Adds counts t h ∧ Q h r := by
  cases ht with
  | bounded _ ht => exact ht.adds hA
  | patient ready _ ht =>
    obtain ⟨h, hadds, hQ⟩ := ht.adds hA
    exact ⟨h, fun top frames => hadds top frames, hQ⟩

end ClusterKeeper
