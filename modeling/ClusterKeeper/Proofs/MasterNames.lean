import ClusterKeeper.Stack.State
import ClusterKeeper.Text.Basic
import Mathlib.Data.List.Basic
import Mathlib.Tactic.SplitIfs

/-!
# Names of masters

The zero bytes between the parts of a name are the only ones in what is
hashed, so the parts can be told from it. The name shows the first four bytes
of the digest, each in two digits.
-/

set_option autoImplicit false

namespace ClusterKeeper.MasterName

def NulFree (s : String) : Prop := '\x00' ∉ s.toList

instance (s : String) : Decidable (NulFree s) := inferInstanceAs (Decidable ('\x00' ∉ s.toList))

theorem nulFree_append {s t : String} (hs : NulFree s) (ht : NulFree t) : NulFree (s ++ t) := by
  rw [NulFree, String.toList_append, List.mem_append]
  exact fun h => h.elim hs ht

/-! ### The bytes of a text -/

theorem toList_loop (bytes : ByteArray) (i : Nat) (front : List UInt8) :
    ByteArray.toList.loop bytes i front = front.reverse ++ bytes.data.toList.drop i := by
  fun_induction ByteArray.toList.loop bytes i front with
  | case1 i front hi ih =>
    have hlength : i < bytes.data.toList.length := by simpa using hi
    rw [ih, List.drop_eq_getElem_cons hlength]
    simp [ByteArray.get!, hi]
  | case2 i front hi =>
    have hdrop : bytes.data.toList.drop i = [] := List.drop_eq_nil_of_le (by simpa using hi)
    simp [hdrop]

theorem toList_toUTF8 (s : String) :
    s.toUTF8.toList = s.toList.flatMap String.utf8EncodeChar := by
  rw [ByteArray.toList, toList_loop, String.toUTF8_eq_toByteArray, ← String.utf8Encode_toList,
    List.utf8Encode, List.toList_data_toByteArray]
  rfl

theorem toUTF8_inj {s t : String} : s.toUTF8.toList = t.toUTF8.toList ↔ s = t := by
  constructor
  · intro h
    simp only [ByteArray.toList, toList_loop, List.reverse_nil, List.nil_append,
      List.drop_zero, Array.toList_inj] at h
    rw [← String.toByteArray_inj]
    exact ByteArray.ext h
  · rintro rfl
    rfl

/-- Only one character has a zero among its bytes. -/
theorem zero_mem_utf8EncodeChar {c : Char} : 0 ∈ String.utf8EncodeChar c ↔ c = '\x00' := by
  constructor
  · intro h
    have hbound : c.val.toNat < 1114112 := by
      have := c.valid
      simp only [UInt32.isValidChar, Nat.isValidChar] at this
      omega
    have hzero : c.val.toNat = 0 := by
      simp only [String.utf8EncodeChar] at h
      split_ifs at h <;>
        simp only [List.mem_cons, List.not_mem_nil, or_false, ← UInt8.toNat_inj,
          UInt8.toNat_ofNat', UInt8.toNat_zero] at h <;> omega
    exact Char.toNat_inj.mp hzero
  · rintro rfl
    decide

theorem zero_not_mem_toUTF8 {s : String} (h : NulFree s) : 0 ∉ s.toUTF8.toList := by
  intro hzero
  rw [toList_toUTF8, List.mem_flatMap] at hzero
  obtain ⟨c, hc, hmem⟩ := hzero
  exact h (zero_mem_utf8EncodeChar.mp hmem ▸ hc)

/-! ### What is hashed -/

/-- The first zero ends the first part, whatever comes behind it. -/
theorem append_zero_inj {xs ys s t : List UInt8} (hx : 0 ∉ xs) (hy : 0 ∉ ys) :
    xs ++ 0 :: s = ys ++ 0 :: t ↔ xs = ys ∧ s = t := by
  induction xs generalizing ys with
  | nil =>
    cases ys with
    | nil => simp
    | cons y ys =>
      have hne : (0 : UInt8) ≠ y := fun h => hy (h ▸ List.mem_cons_self)
      simp [hne]
  | cons x xs ih =>
    cases ys with
    | nil =>
      have hne : x ≠ 0 := fun h => hx (h ▸ List.mem_cons_self)
      simp [hne]
    | cons y ys =>
      have hx' : 0 ∉ xs := fun h => hx (List.mem_cons_of_mem x h)
      have hy' : 0 ∉ ys := fun h => hy (List.mem_cons_of_mem y h)
      simp [ih hx' hy', and_assoc]

theorem encode_cons (part : String) (parts : List String) :
    encode (part :: parts) = part.toUTF8.toList ++ 0 :: encode parts := by
  simp [encode]

theorem encode_inj {ps qs : List String} (hp : ∀ p ∈ ps, NulFree p) (hq : ∀ q ∈ qs, NulFree q) :
    encode ps = encode qs ↔ ps = qs := by
  induction ps generalizing qs with
  | nil =>
    cases qs with
    | nil => simp
    | cons q qs => rw [encode_cons]; simp [encode]
  | cons p ps ih =>
    cases qs with
    | nil => rw [encode_cons]; simp [encode]
    | cons q qs =>
      simp only [List.forall_mem_cons] at hp hq
      rw [encode_cons, encode_cons,
        append_zero_inj (zero_not_mem_toUTF8 hp.1) (zero_not_mem_toUTF8 hq.1), toUTF8_inj,
        ih hp.2 hq.2, List.cons.injEq]

/-! ### The digits of a name -/

def isLowerHex (c : Char) : Bool := c.isDigit || ('a' ≤ c && c ≤ 'f')

def bigEndian (bytes : List UInt8) : Nat := bytes.foldl (fun n b => n * 256 + b.toNat) 0

theorem isLowerHex_hexDigit : ∀ n < 16, isLowerHex (hexDigit n) = true := by decide

theorem hexValue_hexDigit : ∀ n < 16, Text.hexValue? (hexDigit n) = some n := by decide

theorem isAlphanum_of_isLowerHex {c : Char} (h : isLowerHex c = true) : c.isAlphanum = true := by
  show (c.isAlpha || c.isDigit) = true
  simp only [isLowerHex, Bool.or_eq_true, Bool.and_eq_true, decide_eq_true_eq] at h
  cases h with
  | inl hdigit => rw [hdigit, Bool.or_true]
  | inr hletter =>
    have hlower : c.isLower = true := by
      show (decide ('a' ≤ c) && decide (c ≤ 'z')) = true
      rw [decide_eq_true hletter.1, decide_eq_true (Char.le_trans hletter.2 (by decide))]
      rfl
    show ((c.isUpper || c.isLower) || c.isDigit) = true
    rw [hlower, Bool.or_true, Bool.true_or]

theorem halves_lt (b : UInt8) : b.toNat / 16 < 16 ∧ b.toNat % 16 < 16 := by
  have := b.toNat_lt
  omega

theorem hexByte_inj {a b : UInt8} : hexByte a = hexByte b ↔ a = b := by
  constructor
  · intro h
    simp only [hexByte, List.cons.injEq, and_true] at h
    have hhigh := congrArg Text.hexValue? h.1
    have hlow := congrArg Text.hexValue? h.2
    simp only [hexValue_hexDigit _ (halves_lt a).1, hexValue_hexDigit _ (halves_lt b).1,
      hexValue_hexDigit _ (halves_lt a).2, hexValue_hexDigit _ (halves_lt b).2,
      Option.some.injEq] at hhigh hlow
    exact UInt8.toNat_inj.mp (by omega)
  · rintro rfl
    rfl

theorem hexBytes_inj {as bs : List UInt8} :
    as.flatMap hexByte = bs.flatMap hexByte ↔ as = bs := by
  induction as generalizing bs with
  | nil => cases bs <;> simp [hexByte]
  | cons a as ih =>
    cases bs with
    | nil => simp [hexByte]
    | cons b bs =>
      constructor
      · intro h
        obtain ⟨hbyte, hrest⟩ := List.append_inj h rfl
        rw [hexByte_inj.mp hbyte, ih.mp hrest]
      · rintro ⟨⟩
        rfl

theorem length_hexBytes (bytes : List UInt8) :
    (bytes.flatMap hexByte).length = 2 * bytes.length := by
  induction bytes with
  | nil => rfl
  | cons b bytes ih => simp [hexByte, ih]; omega

theorem isLowerHex_of_mem {bytes : List UInt8} {c : Char} (h : c ∈ bytes.flatMap hexByte) :
    isLowerHex c = true := by
  simp only [List.mem_flatMap, hexByte, List.mem_cons, List.not_mem_nil, or_false] at h
  obtain ⟨b, -, rfl | rfl⟩ := h
  · exact isLowerHex_hexDigit _ (halves_lt b).1
  · exact isLowerHex_hexDigit _ (halves_lt b).2

/-- Two digits write one byte, so reading them goes on from byte to byte. -/
theorem foldlM_hexBytes (bytes : List UInt8) (n : Nat) :
    (bytes.flatMap hexByte).foldlM
      (fun n c => (Text.hexValue? c).bind fun d => if d < 16 then some (n * 16 + d) else none) n =
      some (bytes.foldl (fun n b => n * 256 + b.toNat) n) := by
  induction bytes generalizing n with
  | nil => rfl
  | cons b bytes ih =>
    have hbyte : (n * 16 + b.toNat / 16) * 16 + b.toNat % 16 = n * 256 + b.toNat := by omega
    simp [hexByte, hexValue_hexDigit, halves_lt b, hbyte, ih]

theorem numberIn_hexBytes {bytes : List UInt8} (h : bytes ≠ []) :
    Text.numberIn? 16 (bytes.flatMap hexByte) = some (bigEndian bytes) := by
  have hdigits : (bytes.flatMap hexByte).isEmpty = false := by
    cases bytes with
    | nil => exact absurd rfl h
    | cons b bytes => simp [hexByte]
  rw [Text.numberIn?, hdigits]
  exact foldlM_hexBytes bytes 0

theorem length_digest (message : List UInt8) : (Sha256.digest message).length = 32 := by
  simp [Sha256.digest, Sha256.State.words, Sha256.bytesOfWord]

theorem leadingDigits_inj {d d' : List UInt8} :
    leadingDigits d = leadingDigits d' ↔ d.take 4 = d'.take 4 := by
  rw [leadingDigits, leadingDigits, String.ofList_inj, hexBytes_inj]

theorem ofParts_inj {a b c a' b' c' : String} :
    ofParts a b c = ofParts a' b' c' ↔
      (Sha256.digest (encode [a, b, c])).take 4 = (Sha256.digest (encode [a', b', c'])).take 4 := by
  rw [ofParts, ofParts, String.append_right_inj, leadingDigits_inj]

/-! ### Names and parts -/

def Clash (message message' : List UInt8) : Prop :=
  message ≠ message' ∧ (Sha256.digest message).take 4 = (Sha256.digest message').take 4

def IsLogicalName (s : String) : Prop :=
  0 < s.length ∧ s.length ≤ 255 ∧ ∀ c ∈ s.toList, c.isAlphanum = true

theorem ofParts_eq (a b c : String) :
    ofParts a b c = "MasterInstance" ++
      String.ofList (((Sha256.digest (encode [a, b, c])).take 4).flatMap hexByte) := rfl

theorem length_leading (message : List UInt8) :
    (((Sha256.digest message).take 4).flatMap hexByte).length = 8 := by
  rw [length_hexBytes, List.length_take, length_digest]
  rfl

theorem isLogicalName_of_digits {digits : List Char} (hlength : digits.length = 8)
    (hdigits : ∀ d ∈ digits, isLowerHex d = true) :
    IsLogicalName ("MasterInstance" ++ String.ofList digits) := by
  have hletters : ∀ d ∈ "MasterInstance".toList, d.isAlphanum = true :=
    List.all_eq_true.mp (by decide)
  have hfront : "MasterInstance".length = 14 := by decide
  have htotal : ("MasterInstance" ++ String.ofList digits).length = 22 := by
    simp [hfront, hlength]
  have hall : ∀ d ∈ ("MasterInstance" ++ String.ofList digits).toList, d.isAlphanum = true := by
    simp only [String.toList_append, List.mem_append]
    intro d hd
    cases hd with
    | inl hd => exact hletters d hd
    | inr hd => exact isAlphanum_of_isLowerHex (hdigits d (by simpa using hd))
  rw [IsLogicalName, htotal]
  exact ⟨by decide, by decide, hall⟩

theorem encode_triple_inj {a b c a' b' c' : String}
    (h : ∀ s ∈ [a, b, c, a', b', c'], NulFree s) :
    encode [a, b, c] = encode [a', b', c'] ↔ a = a' ∧ b = b' ∧ c = c' := by
  simp only [List.forall_mem_cons, List.not_mem_nil, false_implies, implies_true, and_true] at h
  obtain ⟨ha, hb, hc, ha', hb', hc'⟩ := h
  have hparts : ∀ p ∈ [a, b, c], NulFree p := by simp [ha, hb, hc]
  have hparts' : ∀ p ∈ [a', b', c'], NulFree p := by simp [ha', hb', hc']
  simp [encode_inj hparts hparts']

/-- Three parts without a zero character can be told from what is hashed for their name, so it
is another one whenever characters are moved from a part to its neighbour, and different parts
have the same name only if their hashes begin alike. Whatever the parts are, their name ends
in the first four bytes of the hash as eight digits, zeros at the front included. -/
theorem parts_told_from_hashed :
    (∀ a b c a' b' c' : String, (∀ s ∈ [a, b, c, a', b', c'], NulFree s) →
      (encode [a, b, c] = encode [a', b', c'] ↔ a = a' ∧ b = b' ∧ c = c') ∧
      ((a, b, c) ≠ (a', b', c') → ofParts a b c = ofParts a' b' c' →
        Clash (encode [a, b, c]) (encode [a', b', c']))) ∧
    (∀ a b c moved : String, (∀ s ∈ [a, b, c, moved], NulFree s) → moved ≠ "" →
      encode [a ++ moved, b, c] ≠ encode [a, moved ++ b, c] ∧
      encode [a, b ++ moved, c] ≠ encode [a, b, moved ++ c]) ∧
    ∀ a b c : String, ∃ digits : List Char,
      ofParts a b c = "MasterInstance" ++ String.ofList digits ∧
      digits.length = 8 ∧ (∀ d ∈ digits, isLowerHex d = true) ∧
      Text.numberIn? 16 digits = some (bigEndian ((Sha256.digest (encode [a, b, c])).take 4)) ∧
      IsLogicalName (ofParts a b c) := by
  refine ⟨?_, ?_, ?_⟩
  · intro a b c a' b' c' h
    have hinj := encode_triple_inj h
    constructor
    · exact hinj
    · intro hne hname
      have hencode : encode [a, b, c] ≠ encode [a', b', c'] := by
        intro heq
        obtain ⟨rfl, rfl, rfl⟩ := hinj.mp heq
        exact hne rfl
      exact ⟨hencode, ofParts_inj.mp hname⟩
  · intro a b c moved h hmoved
    simp only [List.forall_mem_cons, List.not_mem_nil, false_implies, implies_true, and_true] at h
    obtain ⟨ha, hb, hc, hm⟩ := h
    constructor
    · intro heq
      have hparts := (encode_triple_inj (by simp [ha, hb, hc, hm, nulFree_append])).mp heq
      exact hmoved (by simpa using hparts.1)
    · intro heq
      have hparts := (encode_triple_inj (by simp [ha, hb, hc, hm, nulFree_append])).mp heq
      exact hmoved (by simpa using hparts.2.1)
  · intro a b c
    have hbytes : (Sha256.digest (encode [a, b, c])).take 4 ≠ [] := by
      rw [Ne, ← List.length_eq_zero_iff, List.length_take, length_digest]
      decide
    have hlength := length_leading (encode [a, b, c])
    have hdigits : ∀ d ∈ ((Sha256.digest (encode [a, b, c])).take 4).flatMap hexByte,
        isLowerHex d = true := fun d => isLowerHex_of_mem
    exact ⟨_, ofParts_eq a b c, hlength, hdigits, numberIn_hexBytes hbytes,
      isLogicalName_of_digits hlength hdigits⟩

theorem parts_told_from_hashed_shifted :
    encode ["ami-1", "m5.large", "v1"] ≠ encode ["ami-1m", "5.large", "v1"] ∧
      (encode ["ami-1", "m5.large", "v1"] = encode ["ami-1", "m5.large", "v2"] ↔
        "ami-1" = "ami-1" ∧ "m5.large" = "m5.large" ∧ "v1" = "v2") ∧
      ofParts "ami-1" "m5.large" "v1" = "MasterInstance0872e1d2" := by
  have hmoved := parts_told_from_hashed.2.1 "ami-1" "5.large" "v1" "m" (by decide) (by decide)
  have htold := parts_told_from_hashed.1 "ami-1" "m5.large" "v1" "ami-1" "m5.large" "v2" (by decide)
  exact ⟨hmoved.1.symm, htold.1, by decide +kernel⟩

/-- Zero characters can make the same of different parts. -/
example : encode ["\x00", "", ""] = encode ["", "\x00", ""] := by decide +kernel

end ClusterKeeper.MasterName
