/-!
# Results

What a computation that may fail went through, up to its value or to its error.
-/

set_option autoImplicit false

namespace ClusterKeeper

variable {ε ε' α β : Type}

theorem isOk_iff {x : Except ε α} : x.isOk = true ↔ ∃ v, x = .ok v := by
  cases x with
  | ok v => exact ⟨fun _ => ⟨v, rfl⟩, fun _ => rfl⟩
  | error _ => exact ⟨nofun, nofun⟩

theorem eq_ok_iff {x : Except ε Unit} : x = .ok () ↔ x.isOk = true := by
  cases x with
  | ok _ => exact ⟨fun _ => rfl, fun _ => rfl⟩
  | error _ => exact ⟨nofun, nofun⟩

theorem mapError_ok {f : ε → ε'} {x : Except ε α} {v : α} (h : x.mapError f = .ok v) :
    x = .ok v := by
  cases x with
  | ok _ => cases h; rfl
  | error _ => cases h

theorem mapError_error {f : ε → ε'} {x : Except ε α} {e : ε'} (h : x.mapError f = .error e) :
    ∃ source, x = .error source ∧ f source = e := by
  cases x with
  | ok _ => cases h
  | error source => cases h; exact ⟨source, rfl, rfl⟩

theorem toOption_bind (x : Except ε α) (f : α → Except ε β) :
    (x >>= f).toOption = x.toOption.bind fun a => (f a).toOption := by
  cases x <;> rfl

theorem bind_eq_ok {x : Except ε α} {f : α → Except ε β} {v : β} :
    (x >>= f) = .ok v ↔ ∃ u, x = .ok u ∧ f u = .ok v := by
  cases x with
  | ok u =>
    constructor
    · exact fun h => ⟨u, rfl, h⟩
    · rintro ⟨_, ⟨⟩, h⟩
      exact h
  | error _ => exact ⟨nofun, nofun⟩

/-- What fails is the first part, or else the second after it. -/
theorem bind_eq_error {x : Except ε α} {f : α → Except ε β} {e : ε} :
    (x >>= f) = .error e ↔ x = .error e ∨ ∃ u, x = .ok u ∧ f u = .error e := by
  cases x with
  | ok u =>
    constructor
    · exact fun h => .inr ⟨u, rfl, h⟩
    · rintro (⟨⟨⟩⟩ | ⟨_, ⟨⟩, h⟩)
      exact h
  | error _ =>
    constructor
    · exact fun h => by cases h; exact .inl rfl
    · rintro (⟨⟨⟩⟩ | ⟨_, ⟨⟩, _⟩)
      rfl

theorem bind_ok {x : Except ε α} {f : α → Except ε β} {v : β} (h : (x >>= f) = .ok v) :
    ∃ u, x = .ok u ∧ f u = .ok v :=
  bind_eq_ok.mp h

end ClusterKeeper
