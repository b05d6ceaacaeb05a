import Mathlib.Algebra.Order.Field.Basic
import Mathlib.Algebra.Order.Field.Rat
import Mathlib.Tactic.NormNum
import Mathlib.Tactic.Positivity

/-!
# Floats and numbers

A float stands for a rational number, unless it is infinite or not a number. The bound of
floats on a multiplier is a bound of numbers, and no infinity meets it.
-/

set_option autoImplicit false

namespace ClusterKeeper

open Float.Model Float.Model.UnpackedFloat

def unpackedValue? : UnpackedFloat → Option ℚ
  | .notANumber => none
  | .infinity _ => none
  | .zero _ => some 0
  | .finite sign mantissa exponent _ => some (sign.apply mantissa * 2 ^ exponent)

def floatValue? (x : Float) : Option ℚ := unpackedValue? x.toModel.unpack

/-- Mantissas have 53 bits. The first of them is set, except for the smallest exponent. -/
theorem mantissa_of_unpack {b : BitVec Format.binary64.numBits} {sign : Sign} {m : Nat} {e : Int}
    {hm : 0 < m} (h : UnpackedFloat.unpack .binary64 b = .finite sign m e hm) :
    m < 2 ^ 53 ∧ (2 ^ 52 ≤ m ∨ e = -1074) := by
  have hlt : (unpackMantissa b).toNat < 2 ^ 52 := (unpackMantissa b).isLt
  delta UnpackedFloat.unpack at h
  by_cases hspecial : unpackExponent b = -1#11
  · rw [if_pos hspecial] at h
    by_cases hinfinite : unpackMantissa b = 0#52
    · rw [if_pos hinfinite] at h
      cases h
    · rw [if_neg hinfinite] at h
      cases h
  rw [if_neg hspecial] at h
  by_cases hsmallest : unpackExponent b = 0#11
  · rw [if_pos hsmallest] at h
    by_cases hzero : unpackMantissa b = 0#52
    · rw [dif_pos hzero] at h
      cases h
    · rw [dif_neg hzero] at h
      cases h
      refine ⟨by omega, .inr ?_⟩
      rw [hsmallest]
      rfl
  · rw [if_neg hsmallest] at h
    cases h
    have happend : (1#1 ++ unpackMantissa b).toNat = 2 ^ 52 + (unpackMantissa b).toNat := by
      rw [BitVec.toNat_append, ← Nat.shiftLeft_add_eq_or_of_lt (unpackMantissa b).isLt]
      rfl
    exact ⟨by omega, .inl (by omega)⟩

theorem unpack_one :
    (1.0 : Float).toModel.unpack = .finite .positive (2 ^ 52) (-52) (by decide) := rfl

theorem pow_two_pos (e : ℤ) : (0 : ℚ) < 2 ^ e := zpow_pos two_pos e

theorem pow_two_mono {e e' : ℤ} (h : e ≤ e') : (2 : ℚ) ^ e ≤ 2 ^ e' :=
  zpow_le_zpow_right₀ one_le_two h

/-- A number of one and more is seen from the exponent, or else from the mantissa. -/
theorem one_le_scaled_iff {m : Nat} {e : Int} (hlt : m < 2 ^ 53)
    (hfirst : 2 ^ 52 ≤ m ∨ e = -1074) :
    1 ≤ (m : ℚ) * 2 ^ e ↔ -52 < e ∨ -52 = e ∧ 2 ^ 52 ≤ m := by
  rcases lt_trichotomy e (-52) with he | rfl | he
  · have hsmall : (m : ℚ) * 2 ^ e < 1 := calc
      (m : ℚ) * 2 ^ e < 2 ^ 53 * 2 ^ e := by
        exact mul_lt_mul_of_pos_right (by exact_mod_cast hlt) (pow_two_pos e)
      _ ≤ 2 ^ 53 * 2 ^ (-53 : ℤ) := by
        exact mul_le_mul_of_nonneg_left (pow_two_mono (by omega)) (by positivity)
      _ = 1 := by norm_num
    exact iff_of_false (not_le_of_gt hsmall) (by omega)
  · have hscaled : 1 ≤ (m : ℚ) * 2 ^ (-52 : ℤ) ↔ 2 ^ 52 ≤ (m : ℚ) := by
      rw [zpow_neg, le_mul_inv_iff₀ (pow_two_pos 52), one_mul]
      rfl
    rw [hscaled]
    constructor
    · exact fun h => .inr ⟨rfl, by exact_mod_cast h⟩
    · rintro (h | ⟨-, h⟩)
      · exact absurd h (by decide)
      · exact_mod_cast h
  · have hm : 2 ^ 52 ≤ m := hfirst.resolve_right (by omega)
    have hlarge : 1 ≤ (m : ℚ) * 2 ^ e := calc
      (1 : ℚ) ≤ 2 ^ 52 * 2 ^ (-51 : ℤ) := by norm_num
      _ ≤ m * 2 ^ (-51 : ℤ) := by
        exact mul_le_mul_of_nonneg_right (by exact_mod_cast hm) (pow_two_pos _).le
      _ ≤ m * 2 ^ e := by
        exact mul_le_mul_of_nonneg_left (pow_two_mono (by omega)) (by positivity)
    exact iff_of_true hlarge (.inl he)

/-- What is compared as at least one and is finite is a number of one and more. -/
theorem unpacked_one_le_iff {u : UnpackedFloat} (hshape : ∀ sign m e hm,
    u = .finite sign m e hm → m < 2 ^ 53 ∧ (2 ^ 52 ≤ m ∨ e = -1074)) :
    (u.isFinite = true ∧ (1.0 : Float).toModel.unpack.le u = true) ↔
      ∃ q, unpackedValue? u = some q ∧ 1 ≤ q := by
  rw [unpack_one]
  cases u with
  | notANumber => exact ⟨nofun, nofun⟩
  | infinity sign => exact ⟨nofun, nofun⟩
  | zero sign =>
    refine iff_of_false (fun h => by cases h.2) ?_
    rintro ⟨_, ⟨⟩, h⟩
    exact absurd h (by norm_num)
  | finite sign m e hm =>
    obtain ⟨hlt, hfirst⟩ := hshape sign m e hm rfl
    cases sign with
    | negative =>
      refine iff_of_false (fun h => by cases h.2) ?_
      rintro ⟨_, ⟨⟩, h⟩
      have hneg : ((-(m : ℤ) : ℤ) : ℚ) * 2 ^ e ≤ 0 :=
        mul_nonpos_of_nonpos_of_nonneg (by simp) (pow_two_pos e).le
      exact absurd (h.trans hneg) (by norm_num)
    | positive =>
      have hle : (UnpackedFloat.finite .positive (2 ^ 52) (-52) (by decide)).le
          (.finite .positive m e hm) = ((compare (-52) e).then (compare (2 ^ 52) m)).isLE := rfl
      have hvalue : unpackedValue? (.finite .positive m e hm) = some ((m : ℚ) * 2 ^ e) :=
        congrArg (fun k : ℚ => some (k * 2 ^ e)) (Int.cast_natCast m)
      rw [hle, hvalue, Ordering.isLE_then_iff_or, Int.compare_eq_lt, Int.compare_eq_eq,
        Nat.isLE_compare, ← one_le_scaled_iff hlt hfirst]
      constructor
      · exact fun h => ⟨_, rfl, h.2⟩
      · rintro ⟨_, ⟨⟩, h⟩
        exact ⟨rfl, h⟩

/-- Finite floats of at least one are those of numbers of one and more. -/
theorem finite_one_le_iff (x : Float) :
    (x.isFinite && decide (x ≥ 1.0)) = true ↔ ∃ q, floatValue? x = some q ∧ 1 ≤ q := by
  have hle : x ≥ 1.0 ↔ (1.0 : Float).toModel.unpack.le x.toModel.unpack = true :=
    decide_eq_true_iff
  rw [Bool.and_eq_true, decide_eq_true_eq, hle]
  exact unpacked_one_le_iff fun _ _ _ _ h => mantissa_of_unpack h

example : floatValue? (0.0 / 0.0) = none ∧ floatValue? (1.0 / 0.0) = none := ⟨rfl, rfl⟩

end ClusterKeeper
