/-!
# Numerals and segments

Numbers are written in digits, and many have to fit into a word. Longer texts are cut into
segments.
-/

set_option autoImplicit false

namespace ClusterKeeper

/-! ## Words

How many numbers there are of so many bits. -/

namespace Word

def count32 : Nat := 4294967296

def count63 : Nat := 9223372036854775808

def count64 : Nat := 18446744073709551616

end Word

/-! ## Digits

Digits in base ten and sixteen, and the numbers they write. -/

namespace Text

def digitValue (c : Char) : Nat := c.toNat - '0'.toNat

def hexValue? (c : Char) : Option Nat :=
  if c.isDigit then some (digitValue c)
  else if 'a' ≤ c && c ≤ 'f' then some (c.toNat - 'a'.toNat + 10)
  else if 'A' ≤ c && c ≤ 'F' then some (c.toNat - 'A'.toNat + 10)
  else none

def numberOf (digits : List Char) : Nat :=
  digits.foldl (fun n c => n * 10 + digitValue c) 0

def numberIn? (base : Nat) (digits : List Char) : Option Nat :=
  if digits.isEmpty then none
  else digits.foldlM (fun n c =>
    (hexValue? c).bind fun d => if d < base then some (n * base + d) else none) 0

/-! ## Segments

A text cut at every occurrence of a mark. There is always at least one
segment, and the segments joined by the mark are the text again. -/

def segments (mark : Char) : List Char → List (List Char)
  | [] => [[]]
  | c :: rest =>
    match segments mark rest with
    | [] => [[c]]
    | first :: others => if c = mark then [] :: first :: others else (c :: first) :: others

theorem segments_ne_nil (mark : Char) (s : List Char) : segments mark s ≠ [] := by
  cases s with
  | nil => simp [segments]
  | cons c rest =>
    rw [segments]
    split
    · simp
    · split <;> simp

theorem segments_mark (mark : Char) (s : List Char) :
    segments mark (mark :: s) = [] :: segments mark s := by
  rw [segments]
  split
  · next h => exact absurd h (segments_ne_nil mark s)
  · next h => simp [h]

theorem segments_other {mark c : Char} (h : c ≠ mark) {first : List Char}
    {s : List Char} {others : List (List Char)} (hs : segments mark s = first :: others) :
    segments mark (c :: s) = (c :: first) :: others := by
  simp [segments, hs, h]

theorem intercalate_segments (mark : Char) (s : List Char) :
    [mark].intercalate (segments mark s) = s := by
  induction s with
  | nil => rfl
  | cons c s ih =>
    obtain ⟨first, others, hs⟩ := List.exists_cons_of_ne_nil (segments_ne_nil mark s)
    rw [hs] at ih
    by_cases h : c = mark
    · rw [h, segments_mark, hs]
      simp [List.intercalate] at ih ⊢
      exact ih
    · rw [segments_other h hs]
      cases others <;> simp_all [List.intercalate]

def split (mark : Char) (text : String) : List String :=
  (segments mark text.toList).map String.ofList

end Text

end ClusterKeeper
