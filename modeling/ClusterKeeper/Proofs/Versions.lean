import ClusterKeeper.Semver
import Mathlib.Data.List.Basic

/-!
# The text of a version

Of each version there is one text only that it is read from. So versions are equal
exactly if their texts are, with all that is said of pre-releases and builds.
-/

set_option autoImplicit false

namespace ClusterKeeper

namespace Text

theorem toNat_of_isDigit {c : Char} (hc : c.isDigit = true) :
    c.toNat = digitValue c + 48 ∧ digitValue c < 10 := by
  have hrange : 48 ≤ c.toNat ∧ c.toNat ≤ 57 := Char.isDigit_iff_toNat.mp hc
  have hvalue : digitValue c = c.toNat - 48 := rfl
  omega

theorem toDigits_digitValue {c : Char} (hc : c.isDigit = true) :
    Nat.toDigits 10 (digitValue c) = [c] := by
  obtain ⟨hchar, hlt⟩ := toNat_of_isDigit hc
  have hdigit : Nat.digitChar (digitValue c) = c := by
    apply Char.toNat_inj.mp
    rw [Nat.toNat_digitChar_of_lt_ten hlt]
    omega
  rw [Nat.toDigits_of_lt_base hlt, hdigit]

/-- Digits that follow a number other than zero are those of the whole. -/
theorem toDigits_append {digits : List Char} (hd : ∀ c ∈ digits, c.isDigit = true) {n : Nat}
    (hn : 0 < n) : Nat.toDigits 10 n ++ digits =
      Nat.toDigits 10 (digits.foldl (fun n c => n * 10 + digitValue c) n) := by
  induction digits generalizing n with
  | nil => exact List.append_nil _
  | cons c rest ih =>
    obtain ⟨hc, hrest⟩ := List.forall_mem_cons.mp hd
    have hlt := (toNat_of_isDigit hc).2
    calc Nat.toDigits 10 n ++ c :: rest
        = (Nat.toDigits 10 n ++ [c]) ++ rest := by rw [List.append_assoc]; rfl
      _ = Nat.toDigits 10 (n * 10 + digitValue c) ++ rest := by
        rw [← toDigits_digitValue hc, Nat.toDigits_append_toDigits (by omega) hn hlt,
          Nat.mul_comm 10 n]
      _ = _ := ih hrest (by omega)

end Text

namespace Semver

open Text

/-- Without a leading zero the digits are those of their number. -/
theorem toDigits_numberOf {digits : List Char} (hne : digits ≠ [])
    (hd : ∀ c ∈ digits, c.isDigit = true) (hz : hasLeadingZero digits = false) :
    Nat.toDigits 10 (numberOf digits) = digits := by
  cases digits with
  | nil => exact absurd rfl hne
  | cons c rest =>
    obtain ⟨hc, hrest⟩ := List.forall_mem_cons.mp hd
    have hchar := (toNat_of_isDigit hc).1
    have hnumber : numberOf (c :: rest) =
        rest.foldl (fun n c => n * 10 + digitValue c) (digitValue c) := by
      rw [numberOf, List.foldl_cons, Nat.zero_mul, Nat.zero_add]
    rw [hnumber]
    by_cases h0 : 0 < digitValue c
    · rw [← toDigits_append hrest h0, toDigits_digitValue hc]
      rfl
    · obtain rfl : c = '0' := Char.toNat_inj.mp (show c.toNat = 48 by omega)
      cases rest with
      | nil => rfl
      | cons _ _ => cases hz

def markedChars (mark : Char) : List String → List Char
  | [] => []
  | id :: ids => mark :: ['.'].intercalate ((id :: ids).map String.toList)

def chars (v : Semver) : List Char :=
  Nat.toDigits 10 v.major ++ '.' :: (Nat.toDigits 10 v.minor ++ '.' ::
    (Nat.toDigits 10 v.patch ++ (markedChars '-' v.pre ++ markedChars '+' v.build)))

variable {s rest : List Char} {n : Nat} {ids : List String} {allowed : List Char → Bool}
  {mark : Char}

theorem chars_of_number? (h : number? s = some (n, rest)) : s = Nat.toDigits 10 n ++ rest := by
  rw [number?] at h
  split at h
  · cases h
  · next hvalid =>
    cases h
    simp only [Bool.or_eq_true, not_or, Bool.not_eq_true, List.isEmpty_eq_false_iff] at hvalid
    rw [toDigits_numberOf hvalid.1.1 (List.all_eq_true.mp List.all_takeWhile) hvalid.1.2,
      List.takeWhile_append_dropWhile]

theorem chars_of_dot? (h : dot? s = some rest) : s = '.' :: rest := by
  unfold dot? at h
  split at h <;> cases h
  rfl

theorem chars_of_identifiers? (h : identifiers? allowed s = some (ids, rest)) :
    mark :: s = markedChars mark ids ++ rest := by
  rw [identifiers?] at h
  split at h
  · cases h
    obtain ⟨first, others, hfound⟩ := List.exists_cons_of_ne_nil
      (segments_ne_nil '.' (s.takeWhile fun c => isIdentifierChar c || c = '.'))
    have htexts : ∀ found : List (List Char),
        (found.map String.ofList).map String.toList = found := fun found => by simp
    rw [hfound, List.map_cons, markedChars, ← List.map_cons, htexts, ← hfound,
      intercalate_segments, List.cons_append, List.takeWhile_append_dropWhile]
  · cases h

theorem chars_of_marked? (h : marked? mark allowed s = some (ids, rest)) :
    s = markedChars mark ids ++ rest := by
  unfold marked? at h
  split at h
  · split at h
    · next hmark =>
      subst hmark
      exact chars_of_identifiers? h
    · cases h
      rfl
  · cases h
    rfl

/-- A version is read part by part, up to the end. -/
theorem parse?_eq_some {text : String} {v : Semver} : parse? text = some v ↔
    ∃ rest₁ rest₂ rest₃ rest₄, number? text.toList = some (v.major, '.' :: rest₁) ∧
      number? rest₁ = some (v.minor, '.' :: rest₂) ∧ number? rest₂ = some (v.patch, rest₃) ∧
      marked? '-' isPreRelease rest₃ = some (v.pre, rest₄) ∧
      marked? '+' (fun _ => true) rest₄ = some (v.build, []) := by
  constructor
  · intro h
    simp only [parse?, Option.bind_eq_bind, Option.bind_eq_some_iff] at h
    obtain ⟨⟨major, rest⟩, hmajor, rest₁, hdot, ⟨minor, rest'⟩, hminor, rest₂, hdot',
      ⟨patch, rest₃⟩, hpatch, ⟨pre, rest₄⟩, hpre, ⟨build, rest₅⟩, hbuild, hend⟩ := h
    dsimp only at hdot hdot' hpre hbuild hend
    split at hend
    · next hnil =>
      cases hend
      obtain rfl := List.isEmpty_iff.mp hnil
      obtain rfl := chars_of_dot? hdot
      obtain rfl := chars_of_dot? hdot'
      exact ⟨rest₁, rest₂, rest₃, rest₄, hmajor, hminor, hpatch, hpre, hbuild⟩
    · cases hend
  · rintro ⟨rest₁, rest₂, rest₃, rest₄, hmajor, hminor, hpatch, hpre, hbuild⟩
    simp [parse?, dot?, hmajor, hminor, hpatch, hpre, hbuild]

theorem chars_of_parse? {text : String} {v : Semver} (h : parse? text = some v) :
    text.toList = v.chars := by
  obtain ⟨rest₁, rest₂, rest₃, rest₄, hmajor, hminor, hpatch, hpre, hbuild⟩ :=
    parse?_eq_some.mp h
  rw [chars, chars_of_number? hmajor, chars_of_number? hminor, chars_of_number? hpatch,
    chars_of_marked? hpre, chars_of_marked? hbuild, List.append_nil]

/-- What is read alike is written alike. -/
theorem parse?_inj {a b : String} {v : Semver} (ha : parse? a = some v) (hb : parse? b = some v) :
    a = b :=
  String.toList_injective ((chars_of_parse? ha).trans (chars_of_parse? hb).symm)

end Semver

end ClusterKeeper
