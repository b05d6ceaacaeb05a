import ClusterKeeper.Proofs.WholeOperations

/-!
# Faults in turn

What is asked of a sandbox while faults are injected into it. A fault waits
for the operation it is for, behind those for the same operation that came
before it. An operation that no fault waits for does what it does in a sandbox
without faults.
-/

set_option autoImplicit false

namespace ClusterKeeper.Memory

/-! ### Waiting faults -/

abbrev Target : Type := Service × String

def Fault.target (f : Fault) : Target := (f.service, f.operation)

def pending (t : Option Target) (faults : List Fault) : List Fault :=
  faults.filter (some ·.target = t)

section Pending

variable {t : Option Target} {f : Fault} {faults rest : List Fault} {service : Service}
  {operation : String}

theorem pending_append (t : Option Target) (faults rest : List Fault) :
    pending t (faults ++ rest) = pending t faults ++ pending t rest :=
  List.filter_append faults rest

theorem pending_cons_of_eq (h : some f.target = t) (rest : List Fault) :
    pending t (f :: rest) = f :: pending t rest :=
  List.filter_cons_of_pos (by simpa using h)

theorem pending_cons_of_ne (h : some f.target ≠ t) (rest : List Fault) :
    pending t (f :: rest) = pending t rest :=
  List.filter_cons_of_neg (by simpa using h)

theorem pending_none (faults : List Fault) : pending none faults = [] := by
  simp [pending]

theorem Fault.target_of_used {g : Fault} (h : g ∈ f.used.toList) : g.target = f.target := by
  rw [Option.mem_toList] at h
  rw [used] at h
  split at h
  · cases h; rfl
  · split at h <;> cases h
    rfl

theorem pending_used_of_eq (h : some f.target = t) : pending t f.used.toList = f.used.toList :=
  List.filter_eq_self.mpr fun g hg => by simpa [Fault.target_of_used hg] using h

theorem pending_used_of_ne (h : some f.target ≠ t) : pending t f.used.toList = [] :=
  List.filter_eq_nil_iff.mpr fun g hg => by simpa [Fault.target_of_used hg] using h

theorem Fault.isFor_iff : f.isFor service operation = true ↔ f.target = (service, operation) := by
  simp [isFor, target]

theorem Fault.take_of_none (h : pending (some (service, operation)) faults = []) :
    take service operation faults = none := by
  induction faults with
  | nil => rfl
  | cons f rest ih =>
    by_cases hf : f.target = (service, operation)
    · rw [pending_cons_of_eq (congrArg some hf)] at h
      cases h
    · rw [pending_cons_of_ne (by simpa using hf)] at h
      rw [take, if_neg (mt isFor_iff.mp hf), ih h]
      rfl

/-- The first of the waiting faults is used once and the others wait on. -/
theorem Fault.take_of_cons (h : pending (some (service, operation)) faults = f :: rest) :
    ∃ left, take service operation faults = some (f.error, left) ∧
      pending (some (service, operation)) left = f.used.toList ++ rest ∧
      ∀ t, t ≠ some (service, operation) → pending t left = pending t faults := by
  induction faults with
  | nil => cases h
  | cons g faults ih =>
    by_cases hg : g.target = (service, operation)
    · have htarget : some g.target = some (service, operation) := congrArg some hg
      rw [pending_cons_of_eq htarget] at h
      cases h
      refine ⟨_, by rw [take, if_pos (isFor_iff.mpr hg)], ?_, ?_⟩
      · rw [pending_append, pending_used_of_eq htarget]
      · intro t ht
        have hne : some f.target ≠ t := fun h => ht (h ▸ htarget)
        rw [pending_append, pending_used_of_ne hne, pending_cons_of_ne hne, List.nil_append]
    · have htarget : some g.target ≠ some (service, operation) := by simpa using hg
      rw [pending_cons_of_ne htarget] at h
      obtain ⟨left, htake, hfirst, hothers⟩ := ih h
      refine ⟨g :: left, by rw [take, if_neg (mt isFor_iff.mp hg), htake]; rfl, ?_, ?_⟩
      · rw [pending_cons_of_ne htarget, hfirst]
      · intro t ht
        by_cases hgt : some g.target = t
        · rw [pending_cons_of_eq hgt, pending_cons_of_eq hgt, hothers t ht]
        · rw [pending_cons_of_ne hgt, pending_cons_of_ne hgt, hothers t ht]

end Pending

/-! ### Operations -/

inductive Operation where
  | call (c : Cloud.Call)
  | encrypt (key : String) (plain : List UInt8)
  | decrypt (key : String) (cipher : List UInt8)

namespace Operation

def Failure : Operation → Type
  | call c => c.Fault
  | encrypt _ _ | decrypt _ _ => CloudError

def Value : Operation → Type
  | call c => c.Value
  | encrypt _ _ | decrypt _ _ => List UInt8

def target? : Operation → Option Target
  | call c => (Sandbox.service? c).map (·, c.name)
  | encrypt _ _ | decrypt _ _ => none

def failWith : (o : Operation) → CloudError → Except o.Failure o.Value
  | call c, e => Cloud.failWith c e
  | encrypt _ _, e | decrypt _ _, e => .error e

def line? : Operation → Option String
  | call c => Sandbox.line? c
  | encrypt _ _ | decrypt _ _ => none

def inPlace (failingRenderer : Bool) : (o : Operation) → InPlace o.Failure o.Value
  | call c => InPlace.call failingRenderer c
  | encrypt key plain => ExceptT.mk (pure (.ok (Sandbox.encrypt key plain)))
  | decrypt key cipher => ExceptT.mk (pure (Sandbox.decrypt key cipher))

def perform (failingRenderer : Bool) (o : Operation) (s : Stores) :
    Except o.Failure o.Value × Stores :=
  (o.inPlace failingRenderer).perform s

theorem perform_call (failing : Bool) (c : Cloud.Call) (s : Stores) :
    (call c).perform failing s = s.answer (Sandbox.conduct failing) c :=
  InPlace.perform_call failing c s

end Operation

namespace Sandbox

def operate : (o : Operation) → Sandbox → Except o.Failure o.Value × Sandbox
  | .call c, m => m.answer c
  | .encrypt key plain, m => (.ok (encrypt key plain), m)
  | .decrypt key cipher, m => (decrypt key cipher, m)

variable {m : Sandbox} {o : Operation} {c : Cloud.Call} {f : Fault} {rest : List Fault}

theorem takeFault_of_none (h : pending (Operation.call c).target? m.faults = []) :
    m.takeFault c = none := by
  rw [Operation.target?] at h
  cases hs : service? c with
  | none => simp [takeFault, hs]
  | some service =>
    rw [hs] at h
    simp [takeFault, hs, Fault.take_of_none h]

theorem takeFault_of_cons (h : pending (Operation.call c).target? m.faults = f :: rest) :
    ∃ left, m.takeFault c = some (f.error, { m with faults := left }) ∧
      pending (Operation.call c).target? left = f.used.toList ++ rest ∧
      ∀ t, t ≠ (Operation.call c).target? → pending t left = pending t m.faults := by
  rw [Operation.target?] at h ⊢
  cases hs : service? c with
  | none =>
    rw [hs, Option.map_none, pending_none] at h
    cases h
  | some service =>
    rw [hs, Option.map_some] at h
    obtain ⟨left, htake, hleft⟩ := Fault.take_of_cons h
    exact ⟨left, by simp [takeFault, hs, htake], hleft⟩

/-- An operation that no fault waits for. -/
theorem operate_of_none (h : pending o.target? m.faults = []) :
    m.operate o = ((o.perform m.failingRenderer m.stores).1,
      { m with
        calls := m.calls ++ o.line?.toList
        stores := (o.perform m.failingRenderer m.stores).2 }) := by
  cases o with
  | call c =>
    have htake : { m with calls := m.calls ++ (line? c).toList }.takeFault c = none :=
      takeFault_of_none h
    rw [Operation.perform_call]
    simp only [operate, answer, htake]
    rfl
  | encrypt | decrypt =>
    rw [Operation.line?, Option.toList_none, List.append_nil]
    rfl

/-- An operation that a fault waits for. -/
theorem operate_of_cons (h : pending o.target? m.faults = f :: rest) :
    ∃ left, m.operate o = (o.failWith f.error,
        { m with calls := m.calls ++ o.line?.toList, faults := left }) ∧
      pending o.target? left = f.used.toList ++ rest ∧
      ∀ t, t ≠ o.target? → pending t left = pending t m.faults := by
  cases o with
  | call c =>
    obtain ⟨left, htake, hleft⟩ := takeFault_of_cons
      (m := { m with calls := m.calls ++ (line? c).toList }) h
    refine ⟨left, ?_, hleft⟩
    simp only [operate, answer, htake]
    rfl
  | encrypt | decrypt =>
    rw [Operation.target?, pending_none] at h
    cases h

end Sandbox

/-! ### Uses in turn -/

def Fault.Usable (f : Fault) : Prop := f.remaining ≠ some 0

instance (f : Fault) : Decidable f.Usable := inferInstanceAs (Decidable (f.remaining ≠ some 0))

/-- What is left of the faults for one target after so many uses: each is used as often as it
can be before the next one is. -/
def leftAfter : Nat → List Fault → List Fault
  | _, [] => []
  | n, f :: rest =>
    match f.remaining with
    | none => f :: rest
    | some times =>
      if n < times then { f with remaining := some (times - n) } :: rest
      else leftAfter (n - times) rest

section LeftAfter

variable {n times : Nat} {f g : Fault} {faults rest : List Fault}

theorem leftAfter_of_none (h : f.remaining = none) (n : Nat) (rest : List Fault) :
    leftAfter n (f :: rest) = f :: rest := by
  rw [leftAfter, h]

theorem leftAfter_of_lt (h : f.remaining = some times) (hn : n < times) (rest : List Fault) :
    leftAfter n (f :: rest) = { f with remaining := some (times - n) } :: rest := by
  rw [leftAfter, h]
  exact if_pos hn

theorem leftAfter_of_ge (h : f.remaining = some times) (hn : times ≤ n) (rest : List Fault) :
    leftAfter n (f :: rest) = leftAfter (n - times) rest := by
  rw [leftAfter, h]
  exact if_neg (Nat.not_lt.mpr hn)

theorem leftAfter_zero (h : ∀ f ∈ faults, f.Usable) : leftAfter 0 faults = faults := by
  cases faults with
  | nil => rfl
  | cons f rest =>
    cases hf : f.remaining with
    | none => exact leftAfter_of_none hf 0 rest
    | some times =>
      have hpos : times ≠ 0 := fun h0 => h f (by simp) (by rw [hf, h0])
      rw [leftAfter_of_lt hf (by omega), Nat.sub_zero, ← hf]

theorem Fault.used_of_none (h : f.remaining = none) : f.used = some f := by
  rw [used, h]

theorem leftAfter_succ (h : ∀ g ∈ faults, g.Usable) (hn : leftAfter n faults = f :: rest) :
    leftAfter (n + 1) faults = f.used.toList ++ rest := by
  induction faults generalizing n with
  | nil => cases hn
  | cons g faults ih =>
    have htail : ∀ g ∈ faults, g.Usable := fun x hx => h x (List.mem_cons_of_mem g hx)
    cases hg : g.remaining with
    | none =>
      rw [leftAfter_of_none hg] at hn ⊢
      cases hn
      rw [Fault.used_of_none hg]
      rfl
    | some times =>
      by_cases hlt : n < times
      · rw [leftAfter_of_lt hg hlt] at hn
        cases hn
        by_cases hlast : times = n + 1
        · have hused : times - n ≤ 1 := by omega
          rw [leftAfter_of_ge hg (by omega), hlast, Nat.sub_self, leftAfter_zero htail]
          simp [Fault.used]
        · have hused : ¬times - n ≤ 1 := by omega
          rw [leftAfter_of_lt hg (by omega), Fault.used]
          simp [hused, Nat.sub_sub]
      · rw [leftAfter_of_ge hg (by omega)] at hn
        rw [leftAfter_of_ge hg (by omega), Nat.succ_sub (by omega)]
        exact ih htail hn

/-- A fault that comes later waits behind those that are left. -/
theorem leftAfter_snoc (hf : f.Usable) (h : ∀ i < n, leftAfter i faults ≠ []) :
    leftAfter n (faults ++ [f]) = leftAfter n faults ++ [f] := by
  induction faults generalizing n with
  | nil =>
    have hn : n = 0 := Nat.eq_zero_of_not_pos fun hpos => h 0 hpos rfl
    rw [hn, List.nil_append, leftAfter_zero (by simpa using hf)]
    rfl
  | cons g faults ih =>
    rw [List.cons_append]
    cases hg : g.remaining with
    | none => rw [leftAfter_of_none hg, leftAfter_of_none hg, List.cons_append]
    | some times =>
      by_cases hlt : n < times
      · rw [leftAfter_of_lt hg hlt, leftAfter_of_lt hg hlt, List.cons_append]
      · rw [leftAfter_of_ge hg (by omega), leftAfter_of_ge hg (by omega)]
        apply ih
        intro i hi
        have hleft := h (i + times) (by omega)
        rwa [leftAfter_of_ge hg (by omega), Nat.add_sub_cancel] at hleft

end LeftAfter

/-! ### Runs -/

inductive Event where
  | perform (o : Operation)
  | inject (f : Fault)

namespace Sandbox

def step (m : Sandbox) : Event → Sandbox
  | .perform o => (m.operate o).2
  | .inject f => { m with faults := m.faults ++ [f] }

def after (m : Sandbox) (events : List Event) : Sandbox := events.foldl step m

def spared : Sandbox → List Event → List ((o : Operation) × Except o.Failure o.Value)
  | _, [] => []
  | m, .inject f :: rest => spared (m.step (.inject f)) rest
  | m, .perform o :: rest =>
    if pending o.target? m.faults = [] then
      ⟨o, (m.operate o).1⟩ :: spared (m.operate o).2 rest
    else spared (m.operate o).2 rest

def faultless (m : Sandbox) : Sandbox := { m with faults := [] }

end Sandbox

structure Ledger where
  registered : List Fault
  failed : Nat

namespace Ledger

def left (l : Ledger) : List Fault := leftAfter l.failed l.registered

def enter (t : Option Target) (l : Ledger) : Event → Ledger
  | .inject f => if some f.target = t then { l with registered := l.registered ++ [f] } else l
  | .perform o => if o.target? = t ∧ l.left ≠ [] then { l with failed := l.failed + 1 } else l

def of (t : Option Target) (faults : List Fault) (events : List Event) : Ledger :=
  events.foldl (enter t) ⟨pending t faults, 0⟩

structure Agrees (l : Ledger) (t : Option Target) (faults : List Fault) : Prop where
  left : pending t faults = l.left
  earlier : ∀ i < l.failed, leftAfter i l.registered ≠ []
  usable : ∀ f ∈ l.registered, f.Usable

variable {l : Ledger} {t : Option Target} {m : Sandbox} {f : Fault} {o : Operation}

theorem Agrees.inject (h : l.Agrees t m.faults) (hf : f.Usable) :
    (l.enter t (.inject f)).Agrees t (m.step (.inject f)).faults := by
  show (if some f.target = t then { l with registered := l.registered ++ [f] } else l).Agrees t
    (m.faults ++ [f])
  split
  · next ht =>
    -- Each use so far found a fault that was there before, so the new one comes last.
    have hsnoc {n : Nat} (hn : n ≤ l.failed) :
        leftAfter n (l.registered ++ [f]) = leftAfter n l.registered ++ [f] :=
      leftAfter_snoc hf fun i hi => h.earlier i (by omega)
    constructor
    · rw [pending_append, pending_cons_of_eq ht, h.left]
      exact (hsnoc (Nat.le_refl _)).symm
    · intro i hi
      rw [hsnoc (Nat.le_of_lt hi)]
      simp
    · intro g hg
      rw [List.mem_append, List.mem_singleton] at hg
      cases hg with
      | inl hg => exact h.usable g hg
      | inr hg => exact hg ▸ hf
  · next ht =>
    refine ⟨?_, h.earlier, h.usable⟩
    rw [pending_append, pending_cons_of_ne ht, h.left]
    exact List.append_nil _

theorem Agrees.perform (h : l.Agrees t m.faults) :
    (l.enter t (.perform o)).Agrees t (m.step (.perform o)).faults := by
  show (if o.target? = t ∧ l.left ≠ [] then { l with failed := l.failed + 1 } else l).Agrees t
    (m.operate o).2.faults
  cases hp : pending o.target? m.faults with
  | nil =>
    have hsame : ¬(o.target? = t ∧ l.left ≠ []) := by
      rintro ⟨rfl, hleft⟩
      exact hleft (h.left.symm.trans hp)
    rw [if_neg hsame, Sandbox.operate_of_none hp]
    exact h
  | cons f rest =>
    obtain ⟨faults, hoperate, hfirst, hothers⟩ := Sandbox.operate_of_cons hp
    rw [hoperate]
    by_cases ht : o.target? = t
    · subst ht
      have hleft : l.left = f :: rest := h.left.symm.trans hp
      rw [if_pos ⟨rfl, by simp [hleft]⟩]
      refine ⟨hfirst.trans (leftAfter_succ h.usable hleft).symm, ?_, h.usable⟩
      intro i hi
      have hlt : i < l.failed + 1 := hi
      by_cases hlast : i = l.failed
      · rw [Ledger.left, ← hlast] at hleft
        simp [hleft]
      · exact h.earlier i (by omega)
    · rw [if_neg fun hboth => ht hboth.1]
      exact ⟨(hothers t (Ne.symm ht)).trans h.left, h.earlier, h.usable⟩

theorem Agrees.run (h : l.Agrees t m.faults) {events : List Event}
    (hevents : ∀ f, .inject f ∈ events → f.Usable) :
    (events.foldl (enter t) l).Agrees t (m.after events).faults := by
  induction events generalizing l m with
  | nil => exact h
  | cons e rest ih =>
    have hrest : ∀ f, .inject f ∈ rest → f.Usable := fun f hf =>
      hevents f (List.mem_cons_of_mem e hf)
    cases e with
    | perform o => exact ih h.perform hrest
    | inject f => exact ih (h.inject (hevents f List.mem_cons_self)) hrest

end Ledger

namespace Sandbox

variable {m n : Sandbox} {o : Operation} {f : Fault} {rest : List Fault}

def undisturbed (m : Sandbox) (events : List Event) : List Event :=
  (m.spared events).map (.perform ·.1)

structure Faithful (m : Sandbox) (o : Operation) : Prop where
  whole (e : o.Failure) (h : (m.operate o).1 = .error e) : (m.operate o).2.stores = m.stores
  inPlace : (o.inPlace m.failingRenderer).perform m.stores =
    ((m.faultless.operate o).1, (m.faultless.operate o).2.stores)
  struck {f : Fault} {rest : List Fault} (h : pending o.target? m.faults = f :: rest) :
    ∃ faults, pending o.target? faults = f.used.toList ++ rest ∧
      m.operate o = (o.failWith f.error,
        { m with calls := (m.faultless.operate o).2.calls, faults := faults })
  spared (h : pending o.target? m.faults = []) :
    m.operate o = ((m.faultless.operate o).1, { (m.faultless.operate o).2 with faults := m.faults })
  others (t : Option Target) (h : t ≠ o.target?) :
    pending t (m.operate o).2.faults = pending t m.faults

end Sandbox

end ClusterKeeper.Memory
