import ClusterKeeper.Proofs.DurationTexts
import ClusterKeeper.Retry.Policy
import Mathlib.Data.List.Forall2
import Mathlib.Data.List.Nodup

/-!
# Fields of retry policies

Every field of a policy is read by itself: it counts where it is present, null
included, and has its standard value where it is not. One field that cannot be
read spoils the whole, and fields of other names do not matter.
-/

set_option autoImplicit false

namespace ClusterKeeper

/-! ### Looking up fields -/

theorem mem_of_lookup {V : Type} {fields : List (String × V)} {name : String} {v : V}
    (h : fields.lookup name = some v) : (name, v) ∈ fields := by
  obtain ⟨front, back, rfl, -⟩ := List.lookup_eq_some_iff.mp h
  simp

/-- Of a name that stands for one value only, it does not matter where it stands. -/
theorem lookup_of_mem {V : Type} {fields : List (String × V)} {name : String} {v : V}
    (h : (name, v) ∈ fields) (hunique : ∀ w, (name, w) ∈ fields → w = v) :
    fields.lookup name = some v := by
  cases hl : fields.lookup name with
  | none =>
    have hne := List.lookup_eq_none_iff.mp hl (name, v) h
    simp at hne
  | some w => rw [hunique w (mem_of_lookup hl)]

theorem lookup_of_not_mem {V : Type} {fields : List (String × V)} {name : String}
    (h : ∀ v, (name, v) ∉ fields) : fields.lookup name = none := by
  cases hl : fields.lookup name with
  | none => rfl
  | some w => exact absurd (mem_of_lookup hl) (h w)

theorem defaulted_isSome {V α : Type} {fields : List (String × V)} {name : String}
    {decode : V → Option α} {value : α} :
    (defaulted? fields name decode value).isSome = true ↔
      ∀ v, fields.lookup name = some v → (decode v).isSome = true := by
  unfold defaulted?
  cases fields.lookup name <;> simp

namespace RetryPolicy

/-! ### What is written and what is left of it -/

/-- What may be read where a value was written. A number can have been written in
another way, and one that is not finite is lost. -/
inductive ReadBack : Json → Json → Prop where
  | same {j : Json} (h : ∀ x, j ≠ .float x) : ReadBack j j
  | number {x : Float} {j : Json} (hx : x.isFinite = true) (h : j.number? = some x) :
    ReadBack (.float x) j
  | lost {x : Float} (hx : x.isFinite = false) : ReadBack (.float x) .null

def FieldReadBack (written read : String × Json) : Prop :=
  written.1 = read.1 ∧ ReadBack written.2 read.2

def Remains (p : RetryPolicy) (kept : List String) (fields : List (String × Json)) : Prop :=
  ∃ known unknown, fields.Perm (known ++ unknown) ∧
    List.Forall₂ FieldReadBack (p.toFields.filter (·.1 ∈ kept)) known ∧
    ∀ f ∈ unknown, f.1 ∉ fieldNames

def only (p : RetryPolicy) (kept : List String) : RetryPolicy where
  maxAttempts := if "maxAttempts" ∈ kept then p.maxAttempts else standard.maxAttempts
  maxElapsed := if "maxElapsed" ∈ kept then p.maxElapsed else standard.maxElapsed
  initialDelay := if "initialDelay" ∈ kept then p.initialDelay else standard.initialDelay
  maxDelay := if "maxDelay" ∈ kept then p.maxDelay else standard.maxDelay
  multiplier := if "multiplier" ∈ kept then p.multiplier else standard.multiplier

theorem names_of_toFields (p : RetryPolicy) : p.toFields.map Prod.fst = fieldNames := rfl

theorem fieldNames_nodup : fieldNames.Nodup := by decide

section Remains

variable {p : RetryPolicy} {kept : List String} {fields written read : List (String × Json)}
  {name : String} {w : Json}

theorem names_of_readBack (h : List.Forall₂ FieldReadBack written read) :
    read.map Prod.fst = written.map Prod.fst := by
  induction h with
  | nil => rfl
  | cons hfield _ ih => simp [ih, hfield.1]

theorem exists_readBack (h : List.Forall₂ FieldReadBack written read) (hw : (name, w) ∈ written) :
    ∃ v, (name, v) ∈ read ∧ ReadBack w v := by
  induction h with
  | nil => simp at hw
  | @cons a b as bs hfield _ ih =>
    obtain ⟨name', v⟩ := b
    cases hw with
    | head =>
      obtain rfl : name = name' := hfield.1
      exact ⟨v, List.mem_cons_self, hfield.2⟩
    | tail _ hw =>
      obtain ⟨v', hv, hback⟩ := ih hw
      exact ⟨v', List.mem_cons_of_mem _ hv, hback⟩

/-- What stands under a known name is what was written there and kept. -/
theorem Remains.lookup (h : Remains p kept fields) (hw : (name, w) ∈ p.toFields) :
    if name ∈ kept then ∃ v, fields.lookup name = some v ∧ ReadBack w v
    else fields.lookup name = none := by
  obtain ⟨known, unknown, hperm, hback, hunknown⟩ := h
  have hname : name ∈ fieldNames := by
    rw [← names_of_toFields p]
    exact List.mem_map_of_mem hw
  have hmem : ∀ v, (name, v) ∈ fields ↔ (name, v) ∈ known := by
    intro v
    rw [hperm.mem_iff, List.mem_append]
    exact or_iff_left fun hv => hunknown _ hv hname
  have hnames := names_of_readBack hback
  have hnodup : (known.map Prod.fst).Nodup := by
    rw [hnames]
    exact fieldNames_nodup.sublist (List.filter_sublist.map Prod.fst)
  by_cases hkept : name ∈ kept
  · rw [if_pos hkept]
    obtain ⟨v, hv, hwv⟩ := exists_readBack hback (List.mem_filter.mpr ⟨hw, by simpa using hkept⟩)
    have hunique : ∀ v', (name, v') ∈ fields → v' = v := by
      intro v' hv'
      have heq := List.inj_on_of_nodup_map hnodup ((hmem v').mp hv') hv rfl
      exact congrArg Prod.snd heq
    exact ⟨v, lookup_of_mem ((hmem v).mpr hv) hunique, hwv⟩
  · rw [if_neg hkept]
    apply lookup_of_not_mem
    intro v hv
    have hread : name ∈ known.map Prod.fst := List.mem_map_of_mem ((hmem v).mp hv)
    rw [hnames, List.mem_map] at hread
    obtain ⟨f, hf, rfl⟩ := hread
    have hfilter := (List.mem_filter.mp hf).2
    exact hkept (by simpa using hfilter)

theorem Remains.defaulted {α : Type} {decode : Json → Option α} {a value : α}
    (h : Remains p kept fields) (hw : (name, w) ∈ p.toFields)
    (hdecode : ∀ v, ReadBack w v → decode v = some a) :
    defaulted? fields name decode value = some (if name ∈ kept then a else value) := by
  have hlookup := h.lookup hw
  by_cases hkept : name ∈ kept
  · rw [if_pos hkept] at hlookup ⊢
    obtain ⟨v, hv, hback⟩ := hlookup
    simp [defaulted?, hv, hdecode v hback]
  · rw [if_neg hkept] at hlookup ⊢
    simp [defaulted?, hlookup]

end Remains

/-! ### Reading one field -/

theorem duration_text (d : Duration) : Json.format.duration? (.string d.text) = some d := by
  show (Duration.parse d.text).toOption = some d
  rw [Duration.parse_text]
  rfl

theorem word32_of_integer {V : Type} {f : DataFormat V} {v : V} {n : Int}
    (h : f.integer? v = some n) :
    f.word32? v = if 0 ≤ n ∧ n < Word.count32 then some n.toNat.toUInt32 else none := by
  rw [DataFormat.word32?, h, Option.bind_eq_bind, Option.bind_some]
  simp only [Bool.and_eq_true, decide_eq_true_eq]

theorem word32_of_toNat (n : UInt32) : Json.format.word32? (.integer n.toNat) = some n := by
  have hn : n.toNat < Word.count32 := n.toNat_lt
  have hrange : 0 ≤ (n.toNat : Int) ∧ (n.toNat : Int) < (Word.count32 : Int) :=
    ⟨Int.natCast_nonneg _, Int.ofNat_lt.mpr hn⟩
  have h : Json.format.integer? (.integer n.toNat) = some (n.toNat : Int) := rfl
  rw [word32_of_integer h, if_pos hrange, Int.toNat_natCast]
  simp

theorem maxAttempts_readBack (limit : Option UInt32) :
    ∀ v, ReadBack (limit.elim .null fun n => .integer n.toNat) v →
      Json.format.optional? Json.format.word32? v = some limit := by
  intro v h
  cases limit with
  | none =>
    cases h
    rfl
  | some n =>
    cases h
    show (Json.format.word32? (.integer n.toNat)).map some = some (some n)
    rw [word32_of_toNat]
    rfl

theorem maxElapsed_readBack (limit : Option Duration) :
    ∀ v, ReadBack (limit.elim .null fun d => .string d.text) v →
      Json.format.optional? Json.format.duration? v = some limit := by
  intro v h
  cases limit with
  | none =>
    cases h
    rfl
  | some d =>
    cases h
    show (Json.format.duration? (.string d.text)).map some = some (some d)
    rw [duration_text]
    rfl

theorem duration_readBack (d : Duration) :
    ∀ v, ReadBack (.string d.text) v → Json.format.duration? v = some d := by
  intro v h
  cases h
  exact duration_text d

theorem multiplier_readBack {x : Float} (hx : x.isFinite = true) :
    ∀ v, ReadBack (.float x) v → Json.format.number? v = some x := by
  intro v h
  cases h with
  | same h => exact absurd rfl (h x)
  | number _ h => exact h
  | lost hlost => simp [hx] at hlost

/-! ### Reading a policy -/

inductive IsCount : Json → Prop where
  | integer {n : Int} (h : 0 ≤ n ∧ n < Word.count32) : IsCount (.integer n)

inductive IsDuration : Json → Prop where
  | text {s : String} {d : Duration} (h : Duration.parse s = .ok d) : IsDuration (.string s)

inductive IsNumber : Json → Prop where
  | integer (n : Int) : IsNumber (.integer n)
  | float (x : Float) : IsNumber (.float x)

def Suits : String → Json → Prop
  | "maxAttempts", v => v = .null ∨ IsCount v
  | "maxElapsed", v => v = .null ∨ IsDuration v
  | "multiplier", v => IsNumber v
  | _, v => IsDuration v

theorem word32_isSome (v : Json) : (Json.format.word32? v).isSome = true ↔ IsCount v := by
  constructor
  · intro h
    cases v with
    | integer n =>
      rw [word32_of_integer (n := n) rfl] at h
      by_cases hn : 0 ≤ n ∧ n < Word.count32
      · exact .integer hn
      · rw [if_neg hn] at h
        cases h
    | _ => cases h
  · rintro ⟨hn⟩
    rw [word32_of_integer rfl, if_pos hn]
    rfl

theorem duration_isSome (v : Json) : (Json.format.duration? v).isSome = true ↔ IsDuration v := by
  constructor
  · intro h
    cases v with
    | string s =>
      cases hs : Duration.parse s with
      | ok d => exact .text hs
      | error e =>
        have hnone : (Duration.parse s).toOption.isSome = true := h
        rw [hs] at hnone
        cases hnone
    | _ => cases h
  · rintro ⟨hs⟩
    show (Duration.parse _).toOption.isSome = true
    rw [hs]
    rfl

theorem number_isSome (v : Json) : (Json.format.number? v).isSome = true ↔ IsNumber v := by
  constructor
  · intro h
    cases v with
    | integer n => exact .integer n
    | float x => exact .float x
    | _ => cases h
  · rintro ⟨⟩ <;> rfl

theorem optional_isSome {α : Type} {decode : Json → Option α} (v : Json) :
    (Json.format.optional? decode v).isSome = true ↔ v = .null ∨ (decode v).isSome = true := by
  cases v with
  | null => simp [DataFormat.optional?, Json.format, Json.isNull]
  | _ => simp [DataFormat.optional?, Json.format, Json.isNull]

section Decode

variable {fields : List (String × Json)} {p : RetryPolicy} {kept : List String}

/-- A policy is read if each of its fields is. -/
theorem decode_object (fields : List (String × Json)) :
    decode Json.format (.object fields) =
      ((defaulted? fields "maxAttempts" (Json.format.optional? Json.format.word32?)
        standard.maxAttempts).bind fun maxAttempts =>
      (defaulted? fields "maxElapsed" (Json.format.optional? Json.format.duration?)
        standard.maxElapsed).bind fun maxElapsed =>
      (defaulted? fields "initialDelay" Json.format.duration?
        standard.initialDelay).bind fun initialDelay =>
      (defaulted? fields "maxDelay" Json.format.duration? standard.maxDelay).bind fun maxDelay =>
      (defaulted? fields "multiplier" Json.format.number?
        standard.multiplier).bind fun multiplier =>
      some ⟨maxAttempts, maxElapsed, initialDelay, maxDelay, multiplier⟩) := rfl

theorem decode_of_remains (hp : p.multiplier.isFinite = true) (h : Remains p kept fields) :
    decode Json.format (.object fields) = some (p.only kept) := by
  rw [decode_object, h.defaulted (by simp [toFields]) (maxAttempts_readBack p.maxAttempts),
    h.defaulted (by simp [toFields]) (maxElapsed_readBack p.maxElapsed),
    h.defaulted (by simp [toFields]) (duration_readBack p.initialDelay),
    h.defaulted (by simp [toFields]) (duration_readBack p.maxDelay),
    h.defaulted (by simp [toFields]) (multiplier_readBack hp)]
  rfl

theorem only_fieldNames (p : RetryPolicy) : p.only fieldNames = p := by
  simp [only, fieldNames]

theorem readBack_toFields (hp : p.multiplier.isFinite = true) {f : String × Json}
    (hf : f ∈ p.toFields) : ReadBack f.2 f.2 := by
  simp only [toFields, List.mem_cons, List.not_mem_nil, or_false] at hf
  rcases hf with rfl | rfl | rfl | rfl | rfl
  · cases p.maxAttempts <;> exact .same nofun
  · cases p.maxElapsed <;> exact .same nofun
  · exact .same nofun
  · exact .same nofun
  · exact .number hp rfl

theorem remains_all (hp : p.multiplier.isFinite = true) : Remains p fieldNames p.toFields := by
  have hall : p.toFields.filter (·.1 ∈ fieldNames) = p.toFields := by
    apply List.filter_eq_self.mpr
    intro f hf
    rw [decide_eq_true_eq, ← names_of_toFields p]
    exact List.mem_map_of_mem hf
  have hsame : List.Forall₂ FieldReadBack p.toFields p.toFields :=
    List.forall₂_same.mpr fun f hf => ⟨rfl, readBack_toFields hp hf⟩
  exact ⟨p.toFields, [], by simp, by rwa [hall], by simp⟩

theorem isSome_bind_iff {α β : Type} {x : Option α} {f : α → Option β} {P : Prop}
    (hf : ∀ a, (f a).isSome = true ↔ P) : (x.bind f).isSome = true ↔ x.isSome = true ∧ P := by
  cases x <;> simp [hf]

/-- An object is read exactly if every known field in it has a value it takes. -/
theorem decode_isSome : (decode Json.format (.object fields)).isSome = true ↔
    ∀ name ∈ fieldNames, ∀ v, fields.lookup name = some v → Suits name v := by
  have hall : (∀ name ∈ fieldNames, ∀ v, fields.lookup name = some v → Suits name v) ↔
      (∀ v, fields.lookup "maxAttempts" = some v → v = .null ∨ IsCount v) ∧
      (∀ v, fields.lookup "maxElapsed" = some v → v = .null ∨ IsDuration v) ∧
      (∀ v, fields.lookup "initialDelay" = some v → IsDuration v) ∧
      (∀ v, fields.lookup "maxDelay" = some v → IsDuration v) ∧
      ∀ v, fields.lookup "multiplier" = some v → IsNumber v := by
    simp [fieldNames, Suits]
  rw [hall, decode_object, isSome_bind_iff fun _ => isSome_bind_iff fun _ =>
    isSome_bind_iff fun _ => isSome_bind_iff fun _ => isSome_bind_iff fun _ =>
    iff_of_true rfl trivial]
  simp only [defaulted_isSome, optional_isSome, word32_isSome, duration_isSome, number_isSome,
    and_true]

theorem decode_of_lost (hp : p.multiplier.isFinite = false) (h : Remains p kept fields)
    (hkept : "multiplier" ∈ kept) : decode Json.format (.object fields) = none := by
  have hwritten : ("multiplier", Json.float p.multiplier) ∈ p.toFields := by simp [toFields]
  have hlookup := h.lookup hwritten
  rw [if_pos hkept] at hlookup
  obtain ⟨v, hv, hback⟩ := hlookup
  rw [← Option.not_isSome_iff_eq_none, decode_isSome]
  intro hall
  have hsuits := hall "multiplier" (by decide) v hv
  cases hback with
  | same h => exact absurd rfl (h _)
  | number hx _ => simp [hp] at hx
  | lost _ => cases hsuits

end Decode

/-! ### Values of a wrong type -/

inductive IllTyped : String → Json → Prop where
  | null {name : String} (h : name ∈ ["initialDelay", "maxDelay", "multiplier"]) :
    IllTyped name .null
  | number {name : String} {v : Json} (h : name ∈ ["maxElapsed", "initialDelay", "maxDelay"])
    (hv : IsNumber v) : IllTyped name v
  | text {name s : String} {e : Duration.ReadError}
    (h : name ∈ ["maxElapsed", "initialDelay", "maxDelay"]) (hs : Duration.parse s = .error e) :
    IllTyped name (.string s)
  | outOfRange {n : Int} (h : ¬(0 ≤ n ∧ n < Word.count32)) : IllTyped "maxAttempts" (.integer n)
  | notInteger {v : Json} (hnull : v ≠ .null) (h : v.integer? = none) : IllTyped "maxAttempts" v

theorem not_isDuration_of_number {v : Json} (h : IsNumber v) : ¬(v = .null ∨ IsDuration v) := by
  cases h <;> rintro (⟨⟨⟩⟩ | ⟨⟨⟩⟩)

theorem not_isDuration_of_text {s : String} {e : Duration.ReadError}
    (hs : Duration.parse s = .error e) : ¬IsDuration (.string s) := by
  rintro ⟨hd⟩
  rw [hs] at hd
  cases hd

theorem IllTyped.not_suits {name : String} {v : Json} (h : IllTyped name v) :
    name ∈ fieldNames ∧ ¬Suits name v := by
  cases h with
  | null h =>
    simp only [List.mem_cons, List.not_mem_nil, or_false] at h
    rcases h with rfl | rfl | rfl <;> exact ⟨by decide, nofun⟩
  | number h hv =>
    have hnot := not_isDuration_of_number hv
    simp only [List.mem_cons, List.not_mem_nil, or_false] at h
    rcases h with rfl | rfl | rfl
    · exact ⟨by decide, hnot⟩
    · exact ⟨by decide, fun hd => hnot (.inr hd)⟩
    · exact ⟨by decide, fun hd => hnot (.inr hd)⟩
  | text h hs =>
    have hnot := not_isDuration_of_text hs
    simp only [List.mem_cons, List.not_mem_nil, or_false] at h
    rcases h with rfl | rfl | rfl
    · exact ⟨by decide, fun hd => hd.elim nofun hnot⟩
    · exact ⟨by decide, hnot⟩
    · exact ⟨by decide, hnot⟩
  | outOfRange h =>
    refine ⟨by decide, fun hs => ?_⟩
    cases hs with
    | inl hnull => cases hnull
    | inr hcount =>
      cases hcount with
      | integer hn => exact h hn
  | notInteger hnull h =>
    refine ⟨by decide, fun hs => ?_⟩
    cases hs with
    | inl hv => exact hnull hv
    | inr hcount =>
      cases hcount with
      | integer => simp [Json.integer?] at h

/-- What is read where a policy with a finite multiplier was written, with any of its fields left
out and any others put in, has the fields that are left and the standard ones for the rest; with
all fields left it is the policy, and the bounds it does not have are written as null. An object
is read exactly if each known field in it has a value it takes, so a single one of a wrong type
is enough for it to be refused. A multiplier that is not finite is written as null, and so
refused, too. -/
theorem fields_read_apart :
    (∀ p : RetryPolicy, p.multiplier.isFinite = true →
      ∀ (kept : List String) (fields : List (String × Json)),
        Remains p kept fields → decode Json.format (.object fields) = some (p.only kept)) ∧
    (∀ p : RetryPolicy, p.multiplier.isFinite = true → decode Json.format p.toJson = some p ∧
      (p.maxAttempts = none ↔ p.toFields.lookup "maxAttempts" = some .null) ∧
      (p.maxElapsed = none ↔ p.toFields.lookup "maxElapsed" = some .null)) ∧
    (∀ fields : List (String × Json), (decode Json.format (.object fields)).isSome = true ↔
      ∀ name ∈ fieldNames, ∀ v, fields.lookup name = some v → Suits name v) ∧
    (∀ (fields : List (String × Json)) (name : String) (v : Json),
      fields.lookup name = some v → IllTyped name v →
      decode Json.format (.object fields) = none) ∧
    ∀ p : RetryPolicy, p.multiplier.isFinite = false →
      ∀ (kept : List String) (fields : List (String × Json)),
        Remains p kept fields → "multiplier" ∈ kept →
        decode Json.format (.object fields) = none := by
  refine ⟨fun p hp kept fields => decode_of_remains hp, ?_, fun fields => decode_isSome, ?_,
    fun p hp kept fields => decode_of_lost hp⟩
  · intro p hp
    have hall := decode_of_remains hp (remains_all hp)
    rw [only_fieldNames] at hall
    refine ⟨hall, ?_, ?_⟩
    · cases h : p.maxAttempts <;> simp [toFields, h]
    · cases h : p.maxElapsed <;> simp [toFields, List.lookup_cons, h]
  · intro fields name v hv hill
    obtain ⟨hname, hsuits⟩ := hill.not_suits
    rw [← Option.not_isSome_iff_eq_none, decode_isSome]
    exact fun hall => hsuits (hall name hname v hv)

theorem fields_read_apart_mixed :
    decode Json.format (.object [("jitter", .bool true), ("multiplier", .integer 2),
        ("maxElapsed", .string "1m 30s"), ("maxAttempts", .null)]) =
      some { standard with
        maxAttempts := none, maxElapsed := some ⟨90, 0, by decide, by decide⟩ } ∧
    decode Json.format (.object [("maxAttempts", .integer 5), ("maxDelay", .null)]) = none ∧
    decode Json.format (.object [("multiplier", .null)]) = none := by
  let p : RetryPolicy := { standard with
    maxAttempts := none, maxElapsed := some ⟨90, 0, by decide, by decide⟩, multiplier := 2.0 }
  let known : List (String × Json) :=
    [("maxAttempts", .null), ("maxElapsed", .string "1m 30s"), ("multiplier", .integer 2)]
  have hfinite : p.multiplier.isFinite = true := by decide +kernel
  have hremains : Remains p ["maxAttempts", "maxElapsed", "multiplier"]
      (known ++ [("jitter", Json.bool true)]).reverse := by
    have htext : (⟨90, 0, by decide, by decide⟩ : Duration).text = "1m 30s" := by decide +kernel
    have htwo : Json.number? (.integer 2) = some 2.0 := by decide +kernel
    refine ⟨known, [("jitter", Json.bool true)], List.reverse_perm _, ?_, ?_⟩
    · exact .cons ⟨rfl, .same nofun⟩
        (.cons ⟨rfl, htext ▸ .same nofun⟩ (.cons ⟨rfl, .number hfinite htwo⟩ .nil))
    · simp [fieldNames]
  have hread := fields_read_apart.1 p hfinite _ _ hremains
  have hrefused := fields_read_apart.2.2.2.1 [("maxAttempts", .integer 5), ("maxDelay", .null)]
    "maxDelay" .null rfl (.null (by decide))
  let unbounded : RetryPolicy := { standard with multiplier := 1.0 / 0.0 }
  have hinfinite : unbounded.multiplier.isFinite = false := by decide +kernel
  have hnull : Remains unbounded ["multiplier"] [("multiplier", .null)] :=
    ⟨[("multiplier", .null)], [], .refl _, .cons ⟨rfl, .lost hinfinite⟩ .nil, by simp⟩
  have hlost := fields_read_apart.2.2.2.2 unbounded hinfinite _ _ hnull (by decide)
  exact ⟨hread, hrefused, hlost⟩

end RetryPolicy

end ClusterKeeper
