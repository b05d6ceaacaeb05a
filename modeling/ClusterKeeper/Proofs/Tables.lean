import ClusterKeeper.Memory.Stores

/-!
# Laws of tables

What is left of a table once an entry is gone, whatever happened to the entry
before, and the same for entries that are put in.
-/

set_option autoImplicit false

namespace ClusterKeeper.Memory

namespace Table

variable {α : Type} {t t' : Table α} {key other : String} {a : α}

theorem mem_of_some (h : t[key]? = some a) : key ∈ t :=
  Std.ExtTreeMap.mem_iff_isSome_getElem?.mpr (by rw [h]; rfl)

theorem not_mem_of_none (h : t[key]? = none) : key ∉ t := by
  rw [Std.ExtTreeMap.mem_iff_isSome_getElem?, h]
  exact Bool.false_ne_true

theorem getElem?_insert (t : Table α) (key other : String) (a : α) :
    (t.insert key a)[other]? = if key = other then some a else t[other]? := by
  simp [Std.ExtTreeMap.getElem?_insert]

theorem getElem?_erase (t : Table α) (key other : String) :
    (t.erase key)[other]? = if key = other then none else t[other]? := by
  simp [Std.ExtTreeMap.getElem?_erase]

theorem erase_insert (t : Table α) (key : String) (a : α) :
    (t.insert key a).erase key = t.erase key := by
  apply Std.ExtTreeMap.ext_getElem?
  intro other
  rw [getElem?_erase, getElem?_erase, getElem?_insert]
  split <;> rfl

theorem erase_erase (t : Table α) (key : String) : (t.erase key).erase key = t.erase key := by
  apply Std.ExtTreeMap.ext_getElem?
  intro other
  rw [getElem?_erase, getElem?_erase]
  split <;> rfl

theorem erase_comm (t : Table α) (key other : String) :
    (t.erase key).erase other = (t.erase other).erase key := by
  apply Std.ExtTreeMap.ext_getElem?
  intro key'
  rw [getElem?_erase, getElem?_erase, getElem?_erase, getElem?_erase]
  split <;> split <;> rfl

theorem erase_of_not_mem (h : key ∉ t) : t.erase key = t := by
  apply Std.ExtTreeMap.ext_getElem?
  intro other
  rw [getElem?_erase]
  split
  · next hk => rw [← hk, Std.ExtTreeMap.getElem?_eq_none h]
  · rfl

theorem getElem?_modify (t : Table α) (key other : String) (f : α → α) :
    (t.modify key f)[other]? = if key = other then t[other]?.map f else t[other]? := by
  rw [Std.ExtTreeMap.getElem?_modify]
  by_cases h : key = other
  · simp [h]
  · simp [h]

theorem getElem?_insertIfNew (t : Table α) (key other : String) (a : α) :
    (t.insertIfNew key a)[other]? = if key = other ∧ key ∉ t then some a else t[other]? := by
  simp [Std.ExtTreeMap.getElem?_insertIfNew]

theorem modify_of_some (h : t[key]? = some a) (f : α → α) :
    t.modify key f = t.insert key (f a) := by
  apply Std.ExtTreeMap.ext_getElem?
  intro other
  rw [getElem?_modify, getElem?_insert]
  by_cases hk : key = other
  · subst hk
    simp [h]
  · simp [hk]

/-- Putting something else in its place does not matter if `f` makes the same of
it. -/
theorem modify_insert {f : α → α} {b : α} (h : t[key]? = some a) (hf : f b = f a) :
    (t.insert key b).modify key f = t.modify key f := by
  apply Std.ExtTreeMap.ext_getElem?
  intro other
  rw [getElem?_modify, getElem?_modify, getElem?_insert]
  by_cases hk : key = other
  · subst hk
    rw [if_pos rfl, if_pos rfl, if_pos rfl, h, Option.map_some, Option.map_some, hf]
  · rw [if_neg hk, if_neg hk, if_neg hk]

theorem modify_eq_self {f : α → α} (h : ∀ a, t[key]? = some a → f a = a) : t.modify key f = t := by
  apply Std.ExtTreeMap.ext_getElem?
  intro other
  rw [getElem?_modify]
  split
  · next hk =>
    subst hk
    cases ha : t[key]? with
    | none => rfl
    | some a => rw [Option.map_some, h a ha]
  · rfl

theorem insertIfNew_of_mem (h : key ∈ t) (a : α) : t.insertIfNew key a = t := by
  apply Std.ExtTreeMap.ext_getElem?
  intro other
  rw [getElem?_insertIfNew, if_neg fun hk => hk.2 h]

theorem insertIfNew_insert (h : key ∉ t) (a : α) :
    (t.insert key a).insertIfNew key a = t.insertIfNew key a := by
  apply Std.ExtTreeMap.ext_getElem?
  intro other
  rw [insertIfNew_of_mem Std.ExtTreeMap.mem_insert_self, getElem?_insertIfNew, getElem?_insert]
  by_cases hk : key = other
  · rw [if_pos hk, if_pos ⟨hk, h⟩]
  · rw [if_neg hk, if_neg fun hk' => hk hk'.1]

theorem mem_erase (t : Table α) (key other : String) :
    other ∈ t.erase key ↔ key ≠ other ∧ other ∈ t := by
  simp [Std.ExtTreeMap.mem_erase]

end Table

abbrev Keys : Type := Std.ExtTreeSet String

namespace Keys

theorem erase_erase (t : Keys) (key : String) : (t.erase key).erase key = t.erase key :=
  Std.ExtTreeSet.ext_mem fun other => by simp [Std.ExtTreeSet.mem_erase]

theorem erase_of_not_mem {t : Keys} {key : String} (h : key ∉ t) : t.erase key = t := by
  apply Std.ExtTreeSet.ext_mem
  intro other
  simp only [Std.ExtTreeSet.mem_erase, ne_eq, Std.LawfulEqCmp.compare_eq_iff_eq]
  exact ⟨And.right, fun ho => ⟨fun hk => h (hk ▸ ho), ho⟩⟩

theorem insert_insert (t : Keys) (key : String) : (t.insert key).insert key = t.insert key :=
  Std.ExtTreeSet.ext_mem fun other => by simp [Std.ExtTreeSet.mem_insert]

theorem insert_of_mem {t : Keys} {key : String} (h : key ∈ t) : t.insert key = t := by
  apply Std.ExtTreeSet.ext_mem
  intro other
  simp only [Std.ExtTreeSet.mem_insert, Std.LawfulEqCmp.compare_eq_iff_eq]
  exact ⟨fun ho => ho.elim (fun hk => hk ▸ h) id, .inr⟩

theorem not_mem_erase (t : Keys) (key : String) : key ∉ t.erase key := by
  simp [Std.ExtTreeSet.mem_erase]

end Keys

end ClusterKeeper.Memory
