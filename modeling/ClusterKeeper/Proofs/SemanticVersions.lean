import ClusterKeeper.Proofs.Versions

/-!
# Semantic versions

What a semantic version is, said without a reader. A text denotes a version that is well
formed if its characters are those of the version. The reader takes these texts and no
others, and it finds the version that they denote, with its pre-release and its build.
-/

set_option autoImplicit false

namespace ClusterKeeper

namespace Text

variable {p : Char → Bool} {s rest : List Char}

/-! ### Up to a character that stops -/

theorem takeWhile_stopped (hs : ∀ c ∈ s, p c = true) (hstop : ∀ c ∈ rest.head?, p c = false) :
    (s ++ rest).takeWhile p = s := by
  rw [List.takeWhile_append_of_pos hs]
  cases rest with
  | nil => exact List.append_nil s
  | cons c rest => rw [List.takeWhile_cons_of_neg (by simp [hstop c rfl]), List.append_nil]

theorem dropWhile_stopped (hs : ∀ c ∈ s, p c = true) (hstop : ∀ c ∈ rest.head?, p c = false) :
    (s ++ rest).dropWhile p = rest := by
  rw [List.dropWhile_append_of_pos hs]
  cases rest with
  | nil => rfl
  | cons c rest => exact List.dropWhile_cons_of_neg (by simp [hstop c rfl])

/-! ### Numerals -/

theorem numberOf_toDigits (n : Nat) : numberOf (Nat.toDigits 10 n) = n := by
  have hstep : (fun n c => n * 10 + digitValue c) =
      fun n (c : Char) => 10 * n + (c.toNat - '0'.toNat) := by
    funext n c
    rw [Nat.mul_comm, digitValue]
  rw [numberOf, hstep]
  exact Nat.ofDigitChars_ten_toDigits

theorem isDigit_of_mem_toDigits {n : Nat} : ∀ c ∈ Nat.toDigits 10 n, c.isDigit = true :=
  fun _ hc => Nat.isDigit_of_mem_toDigits (by decide) (by decide) hc

theorem toDigits_head {n : Nat} (hn : 0 < n) :
    ∃ c rest, Nat.toDigits 10 n = c :: rest ∧ c ≠ '0' := by
  induction n using Nat.strongRecOn with
  | ind n ih =>
    by_cases hlt : n < 10
    · refine ⟨n.digitChar, [], Nat.toDigits_of_lt_base hlt, fun h0 => ?_⟩
      have hchar : n + 48 = '0'.toNat := by rw [← h0, Nat.toNat_digitChar_of_lt_ten hlt]; omega
      exact absurd hchar (by simp; omega)
    · obtain ⟨c, rest, hdigits, hc⟩ := ih (n / 10) (by omega) (by omega)
      refine ⟨c, rest ++ [(n % 10).digitChar], ?_, hc⟩
      rw [Nat.toDigits_of_base_le (by decide) (by omega), hdigits, List.cons_append]

/-! ### Segments -/

theorem segments_append {mark : Char} {segment s first : List Char} {others : List (List Char)}
    (hm : mark ∉ segment) (hs : segments mark s = first :: others) :
    segments mark (segment ++ s) = (segment ++ first) :: others := by
  induction segment with
  | nil => exact hs
  | cons c segment ih =>
    have hc : c ≠ mark := fun h => hm (h ▸ List.mem_cons_self)
    exact segments_other hc (ih fun h => hm (List.mem_cons_of_mem _ h))

/-- Segments without the mark are found again where the mark joins them. -/
theorem segments_intercalate {mark : Char} {found : List (List Char)} (hne : found ≠ [])
    (hm : ∀ segment ∈ found, mark ∉ segment) :
    segments mark ([mark].intercalate found) = found := by
  induction found with
  | nil => exact absurd rfl hne
  | cons segment others ih =>
    obtain ⟨hsegment, hothers⟩ := List.forall_mem_cons.mp hm
    cases others with
    | nil =>
      have hlast := segments_append hsegment (show segments mark [] = [] :: [] from rfl)
      rw [List.append_nil] at hlast
      rw [List.intercalate_singleton, hlast]
    | cons next others =>
      have hnext := (segments_mark mark _).trans
        (congrArg ([] :: ·) (ih (List.cons_ne_nil _ _) hothers))
      rw [List.intercalate_cons_cons, List.append_assoc, List.singleton_append,
        segments_append hsegment hnext, List.append_nil]

theorem mem_intercalate {mark c : Char} {found : List (List Char)}
    (hc : c ∈ [mark].intercalate found) : c = mark ∨ ∃ segment ∈ found, c ∈ segment := by
  induction found with
  | nil => cases hc
  | cons segment others ih =>
    cases others with
    | nil =>
      rw [List.intercalate_singleton] at hc
      exact .inr ⟨segment, List.mem_cons_self, hc⟩
    | cons next others =>
      rw [List.intercalate_cons_cons, List.mem_append, List.mem_append,
        List.mem_singleton] at hc
      rcases hc with (hc | hc) | hc
      · exact .inr ⟨segment, List.mem_cons_self, hc⟩
      · exact .inl hc
      · exact (ih hc).imp_right fun ⟨found, hf, hc⟩ => ⟨found, List.mem_cons_of_mem _ hf, hc⟩

theorem mem_of_mem_segments {mark c : Char} {s segment : List Char}
    (hsegment : segment ∈ segments mark s) (hc : c ∈ segment) : c ∈ s ∧ c ≠ mark := by
  induction s generalizing segment with
  | nil =>
    obtain rfl := List.mem_singleton.mp hsegment
    cases hc
  | cons d s ih =>
    obtain ⟨first, others, hs⟩ := List.exists_cons_of_ne_nil (segments_ne_nil mark s)
    have hrest : ∀ found ∈ first :: others, c ∈ found → c ∈ d :: s ∧ c ≠ mark :=
      fun found hf hc => ⟨List.mem_cons_of_mem _ (ih (hs ▸ hf) hc).1, (ih (hs ▸ hf) hc).2⟩
    by_cases hd : d = mark
    · rw [hd, segments_mark, hs] at hsegment
      rcases List.mem_cons.mp hsegment with rfl | hsegment
      · cases hc
      · exact hrest segment hsegment hc
    · rw [segments_other hd hs] at hsegment
      rcases List.mem_cons.mp hsegment with rfl | hsegment
      · rcases List.mem_cons.mp hc with rfl | hc
        · exact ⟨List.mem_cons_self, hd⟩
        · exact hrest first List.mem_cons_self hc
      · exact hrest segment (List.mem_cons_of_mem _ hsegment) hc

end Text

namespace Semver

open Text

/-! ### Well-formed versions -/

structure IsIdentifier (id : String) : Prop where
  nonempty : id ≠ ""
  chars : ∀ c ∈ id.toList, c.isAlphanum = true ∨ c = '-'

theorem IsIdentifier.toList_ne_nil {id : String} (h : IsIdentifier id) : id.toList ≠ [] :=
  fun h0 => h.nonempty (String.toList_eq_nil_iff.mp h0)

structure WellFormed (v : Semver) : Prop where
  major : v.major < Word.count64
  minor : v.minor < Word.count64
  patch : v.patch < Word.count64
  pre : ∀ id ∈ v.pre, IsIdentifier id
  numeric : ∀ id ∈ v.pre, (∀ c ∈ id.toList, c.isDigit = true) →
    ∃ n, id.toList = Nat.toDigits 10 n
  build : ∀ id ∈ v.build, IsIdentifier id

def Denotes (text : String) (v : Semver) : Prop := v.WellFormed ∧ text.toList = v.chars

theorem hasLeadingZero_toDigits (n : Nat) : hasLeadingZero (Nat.toDigits 10 n) = false := by
  rcases Nat.eq_zero_or_pos n with rfl | hn
  · rfl
  · obtain ⟨c, rest, hdigits, hc⟩ := toDigits_head hn
    rw [hdigits]
    unfold hasLeadingZero
    split
    · next h => exact absurd (List.cons.inj h).1 hc
    · rfl

/-- Digits are those of a number exactly if there is one and none too many in front. -/
theorem isPreRelease_iff {segment : List Char} (hne : segment ≠ []) :
    isPreRelease segment = true ↔
      ((∀ c ∈ segment, c.isDigit = true) → ∃ n, segment = Nat.toDigits 10 n) := by
  rw [isPreRelease, Bool.not_eq_true', Bool.and_eq_false_imp, List.all_eq_true]
  constructor
  · intro h hd
    exact ⟨numberOf segment, (toDigits_numberOf hne hd (h hd)).symm⟩
  · intro h hd
    obtain ⟨n, hn⟩ := h hd
    exact hn ▸ hasLeadingZero_toDigits n

/-! ### From a text to its version -/

variable {s rest : List Char} {n : Nat} {ids : List String} {allowed : List Char → Bool}
  {mark : Char}

theorem number?_lt (h : number? s = some (n, rest)) : n < Word.count64 := by
  rw [number?] at h
  split at h
  · cases h
  · next hvalid =>
    cases h
    simp only [Bool.or_eq_true, not_or, decide_eq_true_eq] at hvalid
    exact Nat.lt_of_not_le hvalid.2

theorem number?_toDigits (hn : n < Word.count64) (hstop : ∀ c ∈ rest.head?, c.isDigit = false) :
    number? (Nat.toDigits 10 n ++ rest) = some (n, rest) := by
  have hall := isDigit_of_mem_toDigits (n := n)
  have hdigits := takeWhile_stopped hall hstop
  have hrest := dropWhile_stopped hall hstop
  have hvalid : ((Nat.toDigits 10 n).isEmpty || hasLeadingZero (Nat.toDigits 10 n) ||
      decide (Word.count64 ≤ n)) = false := by
    simp [Nat.toDigits_ne_nil, hasLeadingZero_toDigits, hn]
  simp only [number?, hdigits, hrest, numberOf_toDigits, hvalid, Bool.false_eq_true, if_false]

def Allowed (allowed : List Char → Bool) (ids : List String) : Prop :=
  ∀ id ∈ ids, IsIdentifier id ∧ allowed id.toList = true

theorem isIdentifierChar_iff {c : Char} :
    isIdentifierChar c = true ↔ c.isAlphanum = true ∨ c = '-' := by
  rw [isIdentifierChar, Bool.or_eq_true, decide_eq_true_eq]

theorem identifiers?_allowed (h : identifiers? allowed s = some (ids, rest)) :
    Allowed allowed ids := by
  rw [identifiers?] at h
  split at h
  · next hall =>
    cases h
    intro id hid
    obtain ⟨segment, hsegment, rfl⟩ := List.mem_map.mp hid
    obtain ⟨hne, hallowed⟩ := Bool.and_eq_true_iff.mp (List.all_eq_true.mp hall segment hsegment)
    rw [String.toList_ofList]
    refine ⟨⟨fun h0 => ?_, fun c hc => ?_⟩, hallowed⟩
    · rw [String.ofList_eq_empty_iff.mp h0] at hne
      cases hne
    · rw [String.toList_ofList] at hc
      obtain ⟨hinside, hdot⟩ := mem_of_mem_segments hsegment hc
      have hkept := List.all_eq_true.mp List.all_takeWhile c hinside
      rw [Bool.or_eq_true, decide_eq_true_eq] at hkept
      exact isIdentifierChar_iff.mp (hkept.resolve_right hdot)
  · cases h

theorem identifiers?_intercalate (hne : ids ≠ []) (hids : Allowed allowed ids)
    (hstop : ∀ c ∈ rest.head?, (isIdentifierChar c || decide (c = '.')) = false) :
    identifiers? allowed (['.'].intercalate (ids.map String.toList) ++ rest) =
      some (ids, rest) := by
  have hnodot : ∀ segment ∈ ids.map String.toList, '.' ∉ segment := by
    intro segment hsegment hdot
    obtain ⟨id, hid, rfl⟩ := List.mem_map.mp hsegment
    rcases (hids id hid).1.chars '.' hdot with h | h <;> exact absurd h (by decide)
  have hinside : ∀ c ∈ ['.'].intercalate (ids.map String.toList),
      (isIdentifierChar c || decide (c = '.')) = true := by
    intro c hc
    rw [Bool.or_eq_true, decide_eq_true_eq]
    refine (mem_intercalate hc).symm.imp_left fun ⟨segment, hsegment, hc⟩ => ?_
    obtain ⟨id, hid, rfl⟩ := List.mem_map.mp hsegment
    exact isIdentifierChar_iff.mpr ((hids id hid).1.chars c hc)
  have hall : (ids.map String.toList).all
      (fun segment => !segment.isEmpty && allowed segment) = true := by
    rw [List.all_eq_true]
    intro segment hsegment
    obtain ⟨id, hid, rfl⟩ := List.mem_map.mp hsegment
    rw [(hids id hid).2, Bool.and_true, Bool.not_eq_true', List.isEmpty_eq_false_iff]
    exact (hids id hid).1.toList_ne_nil
  have hback : (ids.map String.toList).map String.ofList = ids := by simp
  have hfound := (congrArg (segments '.') (takeWhile_stopped hinside hstop)).trans
    (segments_intercalate (fun h => hne (List.map_eq_nil_iff.mp h)) hnodot)
  have hrest := dropWhile_stopped hinside hstop
  simp only [identifiers?, hfound, hrest, hall, hback, if_true]

/-! ### Behind a mark -/

def Ends (mark : Char) (rest : List Char) : Prop :=
  ∀ c ∈ rest.head?, c ≠ mark ∧ (isIdentifierChar c || decide (c = '.')) = false

theorem head_markedChars {c : Char} (hc : c ∈ (markedChars mark ids ++ rest).head?) :
    c = mark ∨ c ∈ rest.head? := by
  cases ids with
  | nil => exact .inr hc
  | cons _ _ => exact .inl (Option.some.inj hc).symm

theorem marked?_allowed (h : marked? mark allowed s = some (ids, rest)) :
    Allowed allowed ids := by
  unfold marked? at h
  split at h
  · split at h
    · exact identifiers?_allowed h
    · cases h
      exact fun id hid => absurd hid List.not_mem_nil
  · cases h
    exact fun id hid => absurd hid List.not_mem_nil

theorem marked?_markedChars (hids : Allowed allowed ids) (hends : Ends mark rest) :
    marked? mark allowed (markedChars mark ids ++ rest) = some (ids, rest) := by
  cases ids with
  | nil =>
    rw [markedChars, List.nil_append]
    cases rest with
    | nil => rfl
    | cons c rest => exact if_neg (hends c rfl).1
  | cons id others =>
    rw [markedChars, List.cons_append, marked?, if_pos rfl]
    exact identifiers?_intercalate (List.cons_ne_nil _ _) hids fun c hc => (hends c hc).2

/-! ### Texts and versions -/

variable {text : String} {v : Semver}

theorem wellFormed_of_parse? (h : parse? text = some v) : v.WellFormed := by
  obtain ⟨_, _, _, _, hmajor, hminor, hpatch, hpre, hbuild⟩ := parse?_eq_some.mp h
  have hnumeric : ∀ id ∈ v.pre, (∀ c ∈ id.toList, c.isDigit = true) →
      ∃ n, id.toList = Nat.toDigits 10 n := by
    intro id hid
    obtain ⟨hident, hallowed⟩ := marked?_allowed hpre id hid
    exact (isPreRelease_iff hident.toList_ne_nil).mp hallowed
  exact ⟨number?_lt hmajor, number?_lt hminor, number?_lt hpatch,
    fun id hid => (marked?_allowed hpre id hid).1, hnumeric,
    fun id hid => (marked?_allowed hbuild id hid).1⟩

theorem parse?_of_denotes (h : Denotes text v) : parse? text = some v := by
  obtain ⟨hv, hchars⟩ := h
  have hpre : Allowed isPreRelease v.pre := fun id hid =>
    ⟨hv.pre id hid, (isPreRelease_iff (hv.pre id hid).toList_ne_nil).mpr (hv.numeric id hid)⟩
  have hbuild : Allowed (fun _ => true) v.build := fun id hid => ⟨hv.build id hid, rfl⟩
  have hend : Ends '+' [] := fun _ hc => by cases hc
  have hplus : ∀ c ∈ (markedChars '+' v.build ++ []).head?, c = '+' := fun c hc =>
    (head_markedChars hc).resolve_right fun h => by cases h
  have hendpre : Ends '-' (markedChars '+' v.build ++ []) := by
    intro c hc
    cases hplus c hc
    decide
  have hdot : ∀ rest : List Char, ∀ c ∈ ('.' :: rest).head?, c.isDigit = false := by
    intro rest c hc
    cases hc
    rfl
  have hmark : ∀ c ∈ (markedChars '-' v.pre ++ (markedChars '+' v.build ++ [])).head?,
      c.isDigit = false := by
    intro c hc
    rcases head_markedChars hc with rfl | hc
    · rfl
    · cases hplus c hc
      rfl
  rw [chars, ← List.append_nil (markedChars '+' v.build)] at hchars
  exact parse?_eq_some.mpr ⟨_, _, _, _, hchars ▸ number?_toDigits hv.major (hdot _),
    number?_toDigits hv.minor (hdot _), number?_toDigits hv.patch hmark,
    marked?_markedChars hpre hendpre, marked?_markedChars hbuild hend⟩

/-- What is read as a version is the text of it. -/
theorem parse?_iff : parse? text = some v ↔ Denotes text v :=
  ⟨fun h => ⟨wellFormed_of_parse? h, chars_of_parse? h⟩, parse?_of_denotes⟩

example : parse? "1.0.0-rc.1+a" ≠ parse? "1.0.0-rc.1+b" := by decide +kernel

theorem Denotes.unique {v' : Semver} (h : Denotes text v) (h' : Denotes text v') : v = v' :=
  Option.some.inj ((parse?_iff.mpr h).symm.trans (parse?_iff.mpr h'))

end Semver

end ClusterKeeper
