import ClusterKeeper.Data.Format
import ClusterKeeper.Duration.Reader
import ClusterKeeper.Proofs.DurationParts
import ClusterKeeper.Proofs.Results
import ClusterKeeper.Proofs.Versions
import Mathlib.Logic.Function.Basic

/-!
# Durations and their texts

What is written for a duration is read as that duration again. On the way the reader
never holds a number that does not fit 64 bits, nor more time than there is in the end.
-/

set_option autoImplicit false

namespace ClusterKeeper.Duration

theorem le_def {a b : Duration} : a ≤ b ↔ a.nanoseconds ≤ b.nanoseconds := Iff.rfl

/-! ### Sums -/

theorem ofNanoseconds?_eq {n : Nat} {d : Duration} (h : n = d.nanoseconds) :
    ofNanoseconds? n = some d := by
  have hnanos := d.nanos_lt
  have hseconds := d.seconds_lt
  have hdiv : n / 1000000000 = d.seconds := by rw [h, nanoseconds]; omega
  have hmod : n % 1000000000 = d.nanos := by rw [h, nanoseconds]; omega
  have hfits : n / 1000000000 < Word.count64 := hdiv ▸ hseconds
  rw [ofNanoseconds?, dif_pos hfits]
  exact congrArg some (Duration.ext hdiv hmod)

theorem nanoseconds_of_ofNanoseconds? {n : Nat} {d : Duration} (h : ofNanoseconds? n = some d) :
    d.nanoseconds = n := by
  rw [ofNanoseconds?] at h
  split at h
  · cases h
    exact Nat.div_add_mod' n 1000000000
  · cases h

/-- There is a duration for each length below that of another. -/
theorem exists_of_le {n : Nat} {d : Duration} (h : n ≤ d.nanoseconds) :
    ∃ d' : Duration, d'.nanoseconds = n := by
  have hnanos := d.nanos_lt
  have hseconds := d.seconds_lt
  have hfits : n / 1000000000 < Word.count64 := by
    rw [nanoseconds] at h
    unfold Word.count64
    omega
  exact ⟨_, nanoseconds_of_ofNanoseconds? (dif_pos hfits)⟩

theorem word_of_lt {n : Nat} (h : n < Word.count64) : word n = pure n := if_pos h

def Amount.Modest (a : Amount) : Prop :=
  match a.grain with
  | .nanoseconds => a.count < 1000000000
  | .seconds => a.count < Word.count64

theorem Amount.Modest.fits {a : Amount} (h : a.Modest) : a.count < Word.count64 := by
  obtain ⟨_ | _, count⟩ := a
  · have hless : count < 1000000000 := h
    show count < Word.count64
    unfold Word.count64
    omega
  · exact h

theorem add_eq {total d : Duration} {a : Amount} (ha : a.Modest)
    (h : total.nanoseconds + a.nanoseconds = d.nanoseconds) : total.add a = .ok d := by
  have hsum := ofNanoseconds?_eq h
  obtain ⟨_ | _, count⟩ := a
  · have hcount : count < 1000000000 := ha
    have hword : word (total.nanos + count) = pure (total.nanos + count) := by
      have := total.nanos_lt
      refine word_of_lt ?_
      unfold Word.count64
      omega
    simp only [Amount.nanoseconds, nanoseconds, Nat.add_assoc] at hsum
    simp only [add, hword, pure_bind, hsum]
    rfl
  · simp only [Amount.nanoseconds] at hsum
    simp only [add, pure_bind, hsum]
    rfl

/-! ### Characters -/

namespace Reader

variable {r r' : Reader} {c : Char} {s s' : List Char} {offset begun n : Nat} {total : Duration}
  {number : Number} {name : List Char}

theorem run_cons (h : r.step c = .ok r') : r.run (c :: s) = r'.run s := by
  rw [run, h]
  rfl

theorem run_append_of_ok (h : r.run s = .ok r') : r.run (s ++ s') = r'.run s' := by
  rw [run_append, h]
  rfl

theorem step_gap_digit (hc : c.isDigit = true) :
    (⟨offset, .gap begun, total⟩ : Reader).step c =
      .ok ⟨offset + c.utf8Size, .whole (Text.digitValue c), total⟩ := if_pos hc

theorem step_whole_digit (hc : c.isDigit = true)
    (hn : n * 10 + Text.digitValue c < Word.count64) :
    (⟨offset, .whole n, total⟩ : Reader).step c =
      .ok ⟨offset + c.utf8Size, .whole (n * 10 + Text.digitValue c), total⟩ := by
  simp only [step, hc, if_true, word_of_lt hn, pure_bind]
  rfl

def IsNameChar (c : Char) : Prop :=
  c.isDigit = false ∧ Text.isBlank c = false ∧ TimeUnit.isLetter c = true

instance (c : Char) : Decidable (IsNameChar c) := inferInstanceAs (Decidable (_ ∧ _ ∧ _))

theorem step_whole_name (hc : IsNameChar c) : (⟨offset, .whole n, total⟩ : Reader).step c =
    .ok ⟨offset + c.utf8Size, .unit ⟨n, none⟩ [c], total⟩ := by
  simp only [step, hc.1, hc.2.1, hc.2.2, if_true, Bool.false_eq_true, if_false]
  rfl

theorem step_unit_name (hc : IsNameChar c) : (⟨offset, .unit number name, total⟩ : Reader).step c =
    .ok ⟨offset + c.utf8Size, .unit number (name ++ [c]), total⟩ := by
  simp only [step, hc.1, hc.2.1, hc.2.2, if_true, Bool.false_eq_true, if_false]
  rfl

/-- A blank ends a number with its unit. -/
theorem step_unit_blank {total' : Duration}
    (h : number.addTo (String.ofList name) total = .ok total') :
    (⟨offset, .unit number name, total⟩ : Reader).step ' ' =
      .ok ⟨offset + 1, .gap (offset + 1), total'⟩ := by
  have hsize : ' '.utf8Size = 1 := rfl
  have hdigit : ' '.isDigit = false := rfl
  have hblank : Text.isBlank ' ' = true := rfl
  simp only [step, hdigit, hblank, Bool.false_eq_true, if_false, if_true, h, hsize]
  rfl

theorem le_ofDigitChars (digits : List Char) (n : Nat) : n ≤ Nat.ofDigitChars 10 digits n := by
  induction digits generalizing n with
  | nil => exact Nat.le_refl n
  | cons c rest ih =>
    rw [Nat.ofDigitChars_cons]
    have := ih (10 * n + (c.toNat - '0'.toNat))
    omega

theorem run_digits (offset : Nat) (total : Duration) {digits : List Char}
    (hd : ∀ c ∈ digits, c.isDigit = true)
    (hfits : Nat.ofDigitChars 10 digits n < Word.count64) :
    ∃ offset', (⟨offset, .whole n, total⟩ : Reader).run digits =
      .ok ⟨offset', .whole (Nat.ofDigitChars 10 digits n), total⟩ := by
  induction digits generalizing offset n with
  | nil => exact ⟨offset, rfl⟩
  | cons c rest ih =>
    obtain ⟨hc, hrest⟩ := List.forall_mem_cons.mp hd
    have hcons : Nat.ofDigitChars 10 (c :: rest) n =
        Nat.ofDigitChars 10 rest (n * 10 + Text.digitValue c) := by
      rw [Nat.ofDigitChars_cons, Nat.mul_comm]
      rfl
    rw [hcons] at hfits ⊢
    have hn : n * 10 + Text.digitValue c < Word.count64 :=
      Nat.lt_of_le_of_lt (le_ofDigitChars rest _) hfits
    rw [run_cons (step_whole_digit hc hn)]
    exact ih _ hrest hfits

theorem run_name (offset : Nat) (number : Number) (name : List Char) (total : Duration)
    {rest : List Char} (h : ∀ c ∈ rest, IsNameChar c) :
    ∃ offset', (⟨offset, .unit number name, total⟩ : Reader).run rest =
      .ok ⟨offset', .unit number (name ++ rest), total⟩ := by
  induction rest generalizing offset name with
  | nil => exact ⟨offset, by rw [List.append_nil]; rfl⟩
  | cons c rest ih =>
    obtain ⟨hc, hrest⟩ := List.forall_mem_cons.mp h
    have hname : name ++ c :: rest = name ++ [c] ++ rest := by simp
    rw [run_cons (step_unit_name hc), hname]
    exact ih _ _ hrest

end Reader

/-! ### Parts and rows -/

def Part.unitName (p : Part) : String :=
  p.name ++ if p.takesPlural && 1 < p.count then "s" else ""

theorem Part.text_eq (p : Part) : p.text = toString p.count ++ p.unitName :=
  String.append_assoc

namespace TimeUnit

theorem unitName_part (u : TimeUnit) (n : Nat) :
    (u.part n).unitName.toList ≠ [] ∧ (∀ c ∈ (u.part n).unitName.toList, Reader.IsNameChar c) ∧
      ofName? (u.part n).unitName = some u := by
  have hall : (u.part n).unitName.toList ≠ [] ∧
      (u.part n).unitName.toList.all (fun c => decide (Reader.IsNameChar c)) = true ∧
      ofName? (u.part n).unitName = some u := by
    by_cases hn : 1 < n <;> cases u <;> simp only [part, Part.unitName, hn] <;> decide
  simpa only [List.all_eq_true, decide_eq_true_eq] using hall

def times (u : TimeUnit) (n : Nat) : Amount := ⟨u.size.grain, n * u.size.count⟩

theorem nanoseconds_times (u : TimeUnit) (n : Nat) :
    (u.times n).nanoseconds = n * u.nanoseconds := by
  rw [nanoseconds, times, Amount.nanoseconds, Amount.nanoseconds]
  cases u.size.grain with
  | nanoseconds => rfl
  | seconds => exact Nat.mul_assoc ..

theorem count_pos (u : TimeUnit) : 0 < u.size.count := by
  cases u <;> decide

theorem fits_of_times {u : TimeUnit} {n : Nat} (h : (u.times n).Modest) : n < Word.count64 :=
  Nat.lt_of_le_of_lt (Nat.le_mul_of_pos_right n u.count_pos) h.fits

end TimeUnit

namespace Reader

variable {offset begun n : Nat} {u : TimeUnit} {total d : Duration}

theorem addTo_part (hn : (u.times n).Modest)
    (h : total.nanoseconds + n * u.nanoseconds = d.nanoseconds) :
    (⟨n, none⟩ : Number).addTo (String.ofList (u.part n).unitName.toList) total = .ok d := by
  have hadd : total.add (u.times n) = pure d :=
    add_eq hn (by rw [TimeUnit.nanoseconds_times]; exact h)
  have hword : word (n * u.size.count) = pure (n * u.size.count) := word_of_lt hn.fits
  rw [TimeUnit.times] at hadd
  simp only [Number.addTo, String.ofList_toList, (u.unitName_part n).2.2, hword, pure_bind, hadd]
  rfl

/-- Behind a part the reader has its number and the name of its unit. -/
theorem run_part (u : TimeUnit) (offset begun : Nat) (total : Duration) (hn : n < Word.count64) :
    ∃ offset', (⟨offset, .gap begun, total⟩ : Reader).run (u.part n).text.toList =
      .ok ⟨offset', .unit ⟨n, none⟩ (u.part n).unitName.toList, total⟩ := by
  obtain ⟨hne, hname, -⟩ := u.unitName_part n
  have hdigits : (toString n).toList = Nat.toDigits 10 n := by
    rw [Nat.toString_eq_ofList_toDigits, String.toList_ofList]
  have hall : ∀ c ∈ Nat.toDigits 10 n, c.isDigit = true :=
    fun c hc => Nat.isDigit_of_mem_toDigits (by decide) (by decide) hc
  rw [Part.text_eq, TimeUnit.part_count, String.toList_append, hdigits]
  have hvalue : Nat.ofDigitChars 10 (Nat.toDigits 10 n) 0 = n := Nat.ofDigitChars_ten_toDigits
  generalize (u.part n).unitName.toList = name at hne hname
  obtain ⟨c, name, rfl⟩ := List.exists_cons_of_ne_nil hne
  obtain ⟨hc, hrest⟩ := List.forall_mem_cons.mp hname
  generalize hlist : Nat.toDigits 10 n = digits at hall hvalue
  obtain ⟨digit, digits, rfl⟩ := List.exists_cons_of_ne_nil (hlist ▸ Nat.toDigits_ne_nil)
  obtain ⟨hdigit, hall⟩ := List.forall_mem_cons.mp hall
  have hread : Nat.ofDigitChars 10 digits (Text.digitValue digit) = n := by
    rw [← hvalue, Nat.ofDigitChars_cons, Nat.mul_zero, Nat.zero_add]
    rfl
  obtain ⟨middle, hrun⟩ := run_digits (offset + digit.utf8Size) total hall (hread.symm ▸ hn)
  obtain ⟨last, hrun'⟩ := run_name (middle + c.utf8Size) ⟨n, none⟩ [c] total hrest
  rw [hread] at hrun
  refine ⟨last, ?_⟩
  rw [List.cons_append, run_cons (step_gap_digit hdigit), run_append_of_ok hrun,
    run_cons (step_whole_name hc)]
  exact hrun'

/-- A row is read as what it adds up to. The sums on the way are lengths of durations,
for they are at most the whole. -/
theorem run_row {p : TimeUnit × Nat} {rest : Row}
    (hmodest : ∀ q ∈ p :: rest, (q.1.times q.2).Modest)
    (h : total.nanoseconds + Row.nanoseconds (p :: rest) = d.nanoseconds) :
    ∃ r, (⟨offset, .gap begun, total⟩ : Reader).run (Row.text (p :: rest)).toList = .ok r ∧
      r.finish = .ok d := by
  induction rest generalizing p offset begun total with
  | nil =>
    have hp := hmodest p List.mem_cons_self
    obtain ⟨last, hrun⟩ := run_part p.1 offset begun total (TimeUnit.fits_of_times hp)
    rw [Row.nanoseconds, Row.nanoseconds, Nat.add_zero] at h
    have htext : Row.text [p] = (p.1.part p.2).text := by simp [Row.text]
    rw [htext]
    exact ⟨_, hrun, addTo_part hp h⟩
  | cons q rest ih =>
    obtain ⟨hp, hrest⟩ := List.forall_mem_cons.mp hmodest
    obtain ⟨middle, hrun⟩ := run_part p.1 offset begun total (TimeUnit.fits_of_times hp)
    rw [Row.nanoseconds, ← Nat.add_assoc] at h
    obtain ⟨total', htotal⟩ := exists_of_le (d := d)
      (n := total.nanoseconds + p.2 * p.1.nanoseconds)
      (Nat.le.intro h)
    have htext : (Row.text (p :: q :: rest)).toList =
        (p.1.part p.2).text.toList ++ ' ' :: (Row.text (q :: rest)).toList := by
      simp [Row.text, String.toList_intercalate]
    rw [htext, run_append_of_ok hrun, run_cons (step_unit_blank (addTo_part hp htotal.symm))]
    rw [← htotal] at h
    exact ih hrest h

end Reader

/-- Each number of the row fits 64 bits, and so does its product with the unit. -/
theorem modest_row {d : Duration} {p : TimeUnit × Nat} (h : p ∈ d.row) :
    (p.1.times p.2).Modest := by
  have hnanos := d.nanos_lt
  have hseconds := d.seconds_lt
  rw [row_eq] at h
  simp only [List.mem_cons, List.not_mem_nil, or_false] at h
  rcases h with rfl | rfl | rfl | rfl | rfl | rfl | rfl | rfl | rfl <;>
    simp only [TimeUnit.times, TimeUnit.size, Amount.Modest, Word.count64] <;> omega

theorem read_text (d : Duration) :
    ∃ r, Reader.start.run d.text.toList = .ok r ∧ r.finish = .ok d := by
  have hzero : Duration.zero.nanoseconds = 0 := rfl
  have hlength : (Row.present d.row).nanoseconds = d.nanoseconds :=
    (Row.nanoseconds_present _).trans d.nanoseconds_row
  have hmodest : ∀ p ∈ Row.present d.row, (p.1.times p.2).Modest :=
    fun p hp => modest_row (List.mem_of_mem_filter hp)
  rw [text_eq]
  cases hrow : Row.present d.row with
  | nil =>
    -- No part at all is read like one part of no seconds.
    have htext : Row.text [] = Row.text [(.second, 0)] := rfl
    rw [hrow] at hlength
    rw [htext]
    refine Reader.run_row ?_ (by rw [hzero, Nat.zero_add]; exact hlength)
    intro q hq
    obtain rfl := List.mem_singleton.mp hq
    exact (by decide : 0 < Word.count64)
  | cons p rest =>
    rw [hrow] at hlength hmodest
    exact Reader.run_row hmodest (by rw [hzero, Nat.zero_add, hlength])

/-! ### What the reader holds -/

theorem of_word {n m : Nat} (h : word n = .ok m) : n < Word.count64 ∧ n = m := by
  rw [word] at h
  split at h
  · next hn =>
    cases h
    exact ⟨hn, rfl⟩
  · cases h

theorem le_of_add {total d : Duration} {a : Amount} (h : total.add a = .ok d) : total ≤ d := by
  obtain ⟨_ | _, count⟩ := a
  · simp only [add] at h
    obtain ⟨nanos, hnanos, h⟩ := bind_ok h
    obtain ⟨-, rfl⟩ := of_word hnanos
    rw [pure_bind] at h
    split at h
    · next hsum =>
      cases h
      rw [le_def, nanoseconds_of_ofNanoseconds? hsum, nanoseconds, ← Nat.add_assoc]
      exact Nat.le_add_right ..
    · cases h
  · simp only [add, pure_bind] at h
    split at h
    · next hsum =>
      cases h
      rw [le_def, nanoseconds_of_ofNanoseconds? hsum]
      exact Nat.le_add_right ..
    · cases h

theorem le_of_addTo {number : Number} {name : String} {total d : Duration}
    (h : number.addTo name total = .ok d) : total ≤ d := by
  unfold Number.addTo at h
  split at h
  · cases h
  · next unit _ =>
    obtain ⟨whole, -, h⟩ := bind_ok h
    obtain ⟨total', htotal, h⟩ := bind_ok h
    have hle := le_of_add htotal
    split at h
    · cases h
      exact hle
    · cases h
    · obtain ⟨amount, -, h⟩ := bind_ok h
      exact Nat.le_trans hle (le_of_add h)

def Fraction.Fits (f : Fraction) : Prop :=
  f.numerator < Word.count64 ∧ f.denominator < Word.count64

theorem Fraction.fits_of_push {f f' : Fraction} {digit : Nat} (h : f.push digit = .ok f') :
    f'.Fits := by
  obtain ⟨denominator, hdenominator, h⟩ := bind_ok h
  obtain ⟨numerator, hnumerator, h⟩ := bind_ok h
  cases h
  obtain ⟨hn, rfl⟩ := of_word hnumerator
  obtain ⟨hd, rfl⟩ := of_word hdenominator
  exact ⟨hn, hd⟩

namespace Reader

def Fits (r : Reader) : Prop :=
  match r.phase with
  | .gap _ => True
  | .whole n => n < Word.count64
  | .fraction n f _ => n < Word.count64 ∧ f.Fits
  | .unit n _ => n.whole < Word.count64 ∧ ∀ f ∈ n.fraction, f.Fits

theorem fits_digit {offset : Nat} {total : Duration} {c : Char} (hc : c.isDigit = true) :
    (⟨offset, .whole (Text.digitValue c), total⟩ : Reader).Fits :=
  Nat.lt_trans (Text.toNat_of_isDigit hc).2 (by decide)

theorem step_fits {r r' : Reader} {c : Char} (h : r.step c = .ok r') (hr : r.Fits) :
    r'.Fits ∧ r.total ≤ r'.total := by
  obtain ⟨offset, phase, total⟩ := r
  have hsame : total ≤ total := Nat.le_refl _
  cases phase with
  | gap begun =>
    simp only [step] at h
    split at h
    · next hc =>
      cases h
      exact ⟨fits_digit hc, hsame⟩
    split at h <;> cases h
    exact ⟨hr, hsame⟩
  | whole n =>
    simp only [step] at h
    split at h
    · obtain ⟨n', hn', h⟩ := bind_ok h
      cases h
      obtain ⟨hn, rfl⟩ := of_word hn'
      exact ⟨hn, hsame⟩
    split at h
    · cases h
      exact ⟨hr, hsame⟩
    split at h
    · cases h
      exact ⟨⟨hr, nofun⟩, hsame⟩
    split at h <;> cases h
    exact ⟨⟨hr, (by decide : 0 < Word.count64), (by decide : 1 < Word.count64)⟩, hsame⟩
  | fraction n f mark =>
    obtain ⟨hn, hf⟩ := hr
    simp only [step] at h
    split at h
    · obtain ⟨f', hf', h⟩ := bind_ok h
      cases h
      exact ⟨⟨hn, Fraction.fits_of_push hf'⟩, hsame⟩
    split at h
    · cases h
      exact ⟨⟨hn, hf⟩, hsame⟩
    split at h <;> cases h
    exact ⟨⟨hn, fun _ h => Option.some.inj h ▸ hf⟩, hsame⟩
  | unit number name =>
    simp only [step] at h
    split at h
    · next hc =>
      obtain ⟨total', htotal, h⟩ := bind_ok h
      cases h
      exact ⟨fits_digit hc, le_of_addTo htotal⟩
    split at h
    · obtain ⟨total', htotal, h⟩ := bind_ok h
      cases h
      exact ⟨trivial, le_of_addTo htotal⟩
    split at h <;> cases h
    exact ⟨hr, hsame⟩

theorem run_fits {r r' : Reader} {s : List Char} (h : r.run s = .ok r') (hr : r.Fits) :
    r'.Fits ∧ r.total ≤ r'.total := by
  induction s generalizing r with
  | nil =>
    cases h
    exact ⟨hr, Nat.le_refl _⟩
  | cons c s ih =>
    obtain ⟨middle, hstep, hrest⟩ := bind_ok h
    obtain ⟨hmiddle, hle⟩ := step_fits hstep hr
    obtain ⟨hfits, hle'⟩ := ih hrest hmiddle
    exact ⟨hfits, Nat.le_trans hle hle'⟩

theorem le_of_finish {r : Reader} {d : Duration} (h : r.finish = .ok d) : r.total ≤ d := by
  unfold finish at h
  split at h
  · split at h <;> cases h
    exact Nat.le_refl _
  · cases h
  · split at h <;> cases h
  · exact le_of_addTo h

/-- The reader never exceeds its bounds nor goes beyond the end. -/
theorem prefix_fits {r r' : Reader} {d : Duration} {s t : List Char} (hr : r.Fits)
    (h : r.run (s ++ t) = .ok r') (hd : r'.finish = .ok d) :
    ∃ middle, r.run s = .ok middle ∧ middle.Fits ∧ middle.total ≤ d := by
  rw [run_append] at h
  obtain ⟨middle, hs, ht⟩ := bind_ok h
  obtain ⟨hmiddle, -⟩ := run_fits hs hr
  exact ⟨middle, hs, hmiddle, Nat.le_trans (run_fits ht hmiddle).2 (le_of_finish hd)⟩

end Reader

/-! ### Round trips -/

theorem parse_text (d : Duration) : parse d.text = .ok d := by
  obtain ⟨r, hrun, hfinish⟩ := d.read_text
  have hzero : d.text ≠ "0" := by
    intro h
    rw [h] at hrun
    obtain rfl : (⟨1, .whole 0, zero⟩ : Reader) = r := Except.ok.inj hrun
    cases hfinish
  rw [parse, if_neg hzero, hrun]
  exact hfinish

theorem text_injective : Function.Injective text := by
  intro a b h
  exact Except.ok.inj (a.parse_text.symm.trans (h ▸ b.parse_text))

/-- What is read out of the text of a duration is that duration, in every format and with
nothing too large on the way. So no two durations have the same text. The texts that are
written again as they were read are those that are written as they have to be, and every
other text that is read is turned into such a one of the same duration. -/
theorem texts_round_trip :
    (∀ d : Duration, parse d.text = .ok d ∧
      (∀ (V : Type) (f : DataFormat V) (v : V), f.text? v = some d.text →
        f.duration? v = some d) ∧
      ∀ s t : List Char, s ++ t = d.text.toList →
        ∃ r, Reader.start.run s = .ok r ∧ r.Fits ∧ r.total ≤ d) ∧
    Function.Injective text ∧
    (∀ (s : String) (d : Duration), parse s = .ok d →
      d.Canonical d.text ∧ parse d.text = parse s ∧ (parse d.text).map text = .ok d.text) ∧
    ∀ s : String, (parse s).map text = .ok s ↔ ∃ d : Duration, d.Canonical s := by
  refine ⟨fun d => ⟨d.parse_text, ?_, ?_⟩, text_injective, ?_, ?_⟩
  · intro V f v hv
    rw [DataFormat.duration?, hv, Option.bind_eq_bind, Option.bind_some, parse_text]
    rfl
  · intro s t hst
    obtain ⟨r, hrun, hfinish⟩ := d.read_text
    rw [← hst] at hrun
    exact Reader.prefix_fits trivial hrun hfinish
  · intro s d hs
    refine ⟨canonical_iff.mpr rfl, d.parse_text.trans hs.symm, ?_⟩
    rw [parse_text]
    rfl
  · intro s
    constructor
    · intro h
      cases hs : parse s with
      | error e =>
        rw [hs] at h
        cases h
      | ok d =>
        rw [hs] at h
        exact ⟨d, canonical_iff.mpr (Except.ok.inj h).symm⟩
    · rintro ⟨d, hd⟩
      rw [canonical_iff.mp hd, parse_text]
      rfl

theorem ninety_seconds_round_trip : parse "90s" = .ok ⟨90, 0, by decide, by decide⟩ ∧
    parse "1m 30s" = parse "90s" := by
  have hparse : parse "90s" = .ok ⟨90, 0, by decide, by decide⟩ := by decide +kernel
  have htext : (⟨90, 0, by decide, by decide⟩ : Duration).text = "1m 30s" := by decide +kernel
  have htrip := texts_round_trip.2.2.1 "90s" _ hparse
  rw [htext] at htrip
  exact ⟨hparse, htrip.2.1⟩

end ClusterKeeper.Duration
