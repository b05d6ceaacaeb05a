import ClusterKeeper.Duration.Basic
import ClusterKeeper.Duration.Writer
import Mathlib.Data.List.Basic

/-!
# The parts of a duration

Of each unit, from the longest to the shortest, a duration has as many as go into what
the longer ones leave. There is one way only to do that, although months do not go into
years evenly, nor days into months.
-/

set_option autoImplicit false

namespace ClusterKeeper.Duration

def Amount.nanoseconds (a : Amount) : Nat :=
  match a.grain with
  | .nanoseconds => a.count
  | .seconds => a.count * 1000000000

namespace TimeUnit

def nanoseconds (u : TimeUnit) : Nat := u.size.nanoseconds

theorem nanoseconds_pos (u : TimeUnit) : 0 < u.nanoseconds := by
  cases u <;> decide

def written : List TimeUnit :=
  [year, month, day, hour, minute, second, millisecond, microsecond, nanosecond]

def part (u : TimeUnit) (n : Nat) : Part :=
  match u with
  | nanosecond => ⟨n, "ns", false⟩
  | microsecond => ⟨n, "us", false⟩
  | millisecond => ⟨n, "ms", false⟩
  | second => ⟨n, "s", false⟩
  | minute => ⟨n, "m", false⟩
  | hour => ⟨n, "h", false⟩
  | day => ⟨n, "day", true⟩
  | week => ⟨n, "week", true⟩
  | month => ⟨n, "month", true⟩
  | year => ⟨n, "year", true⟩

@[simp] theorem part_count (u : TimeUnit) (n : Nat) : (u.part n).count = n := by
  cases u <;> rfl

end TimeUnit

abbrev Row : Type := List (TimeUnit × Nat)

namespace Row

def nanoseconds : Row → Nat
  | [] => 0
  | (u, n) :: rest => n * u.nanoseconds + nanoseconds rest

def text : Row → String
  | [] => "0s"
  | row => " ".intercalate (row.map fun p => (p.1.part p.2).text)

inductive Numeral : List TimeUnit → Row → Prop where
  | nil : Numeral [] []
  | skip {u : TimeUnit} {units : List TimeUnit} {row : Row} (h : Numeral units row)
      (hless : row.nanoseconds < u.nanoseconds) : Numeral (u :: units) row
  | take {u : TimeUnit} {units : List TimeUnit} {row : Row} {n : Nat} (hn : 0 < n)
      (h : Numeral units row) (hless : row.nanoseconds < u.nanoseconds) :
      Numeral (u :: units) ((u, n) :: row)

/-- How many of the first unit there are and what is left tell two numerals apart. -/
theorem Numeral.inj {units : List TimeUnit} {row row' : Row} (h : Numeral units row)
    (h' : Numeral units row') (heq : row.nanoseconds = row'.nanoseconds) : row = row' := by
  induction h generalizing row' with
  | nil =>
    cases h'
    rfl
  | @skip u units row h hless ih =>
    cases h' with
    | skip h' _ => exact ih h' heq
    | @take _ _ rest n hn _ _ =>
      rw [nanoseconds] at heq
      have := Nat.le_mul_of_pos_left u.nanoseconds hn
      omega
  | @take u units row n hn h hless ih =>
    cases h' with
    | skip h' hless' =>
      rw [nanoseconds] at heq
      have := Nat.le_mul_of_pos_left u.nanoseconds hn
      omega
    | @take _ _ rest n' _ h' hless' =>
      rw [nanoseconds, nanoseconds] at heq
      have hn : n = n' := by
        have hdiv := congrArg (· / u.nanoseconds) heq
        simpa [Nat.mul_comm _ u.nanoseconds, Nat.mul_add_div u.nanoseconds_pos,
          Nat.div_eq_of_lt hless, Nat.div_eq_of_lt hless'] using hdiv
      subst hn
      rw [ih h' (Nat.add_left_cancel heq)]

def split (n : Nat) : List TimeUnit → Row
  | [] => []
  | u :: units => (u, n / u.nanoseconds) :: split (n % u.nanoseconds) units

def residue (n : Nat) (units : List TimeUnit) : Nat :=
  units.foldl (fun n u => n % u.nanoseconds) n

def present (row : Row) : Row := row.filter fun p => p.2 ≠ 0

theorem present_cons_zero (u : TimeUnit) (row : Row) : present ((u, 0) :: row) = present row :=
  List.filter_cons_of_neg (by simp)

theorem present_cons_pos (u : TimeUnit) {n : Nat} (hn : 0 < n) (row : Row) :
    present ((u, n) :: row) = (u, n) :: present row :=
  List.filter_cons_of_pos (by simpa using Nat.ne_of_gt hn)

theorem nanoseconds_present (row : Row) : (present row).nanoseconds = row.nanoseconds := by
  induction row with
  | nil => rfl
  | cons p row ih =>
    obtain ⟨u, n⟩ := p
    rcases Nat.eq_zero_or_pos n with rfl | hn
    · rw [present_cons_zero, ih, nanoseconds, Nat.zero_mul, Nat.zero_add]
    · rw [present_cons_pos u hn, nanoseconds, nanoseconds, ih]

theorem nanoseconds_split (n : Nat) (units : List TimeUnit) :
    (split n units).nanoseconds + residue n units = n := by
  induction units generalizing n with
  | nil => exact Nat.zero_add n
  | cons u units ih =>
    calc n / u.nanoseconds * u.nanoseconds + (split (n % u.nanoseconds) units).nanoseconds +
          residue (n % u.nanoseconds) units
        = n / u.nanoseconds * u.nanoseconds + n % u.nanoseconds := by rw [Nat.add_assoc, ih]
      _ = n := Nat.div_add_mod' n u.nanoseconds

theorem numeral_split (n : Nat) (units : List TimeUnit) :
    Numeral units (present (split n units)) := by
  induction units generalizing n with
  | nil => exact .nil
  | cons u units ih =>
    have hless : (present (split (n % u.nanoseconds) units)).nanoseconds < u.nanoseconds := by
      have hsplit := nanoseconds_split (n % u.nanoseconds) units
      have hmod := Nat.mod_lt n u.nanoseconds_pos
      rw [nanoseconds_present]
      omega
    rw [split]
    rcases Nat.eq_zero_or_pos (n / u.nanoseconds) with hzero | hpos
    · rw [hzero, present_cons_zero]
      exact .skip (ih _) hless
    · rw [present_cons_pos u hpos]
      exact .take hpos (ih _) hless

/-- Nothing is shorter than a nanosecond. -/
theorem nanoseconds_split_written (n : Nat) :
    (split n TimeUnit.written).nanoseconds = n := by
  have hresidue : residue n TimeUnit.written = 0 := Nat.mod_one _
  have hsplit := nanoseconds_split n TimeUnit.written
  rwa [hresidue, Nat.add_zero] at hsplit

end Row

def row (d : Duration) : Row := Row.split d.nanoseconds TimeUnit.written

theorem split_seconds {s n k : Nat} (hn : n < 1000000000) :
    (s * 1000000000 + n) / (k * 1000000000) = s / k ∧
      (s * 1000000000 + n) % (k * 1000000000) = s % k * 1000000000 + n := by
  have hdiv : (s * 1000000000 + n) / (k * 1000000000) = s / k := by
    rw [Nat.mul_comm k, ← Nat.div_div_eq_div_mul]
    congr 1
    omega
  refine ⟨hdiv, ?_⟩
  have hwhole := Nat.div_add_mod (s * 1000000000 + n) (k * 1000000000)
  have hpart := Nat.div_add_mod s k
  rw [hdiv] at hwhole
  generalize s / k = q at hwhole hpart
  rw [Nat.mul_right_comm] at hwhole
  omega

theorem row_eq (d : Duration) : d.row =
    [(.year, d.seconds / 31557600), (.month, d.seconds % 31557600 / 2630016),
     (.day, d.seconds % 31557600 % 2630016 / 86400),
     (.hour, d.seconds % 31557600 % 2630016 % 86400 / 3600),
     (.minute, d.seconds % 31557600 % 2630016 % 86400 % 3600 / 60),
     (.second, d.seconds % 31557600 % 2630016 % 86400 % 60), (.millisecond, d.nanos / 1000000),
     (.microsecond, d.nanos / 1000 % 1000), (.nanosecond, d.nanos % 1000)] := by
  have hn := d.nanos_lt
  have hlong : ∀ (u : TimeUnit) (units : List TimeUnit) (s : Nat), u.size.grain = .seconds →
      Row.split (s * 1000000000 + d.nanos) (u :: units) =
        (u, s / u.size.count) :: Row.split (s % u.size.count * 1000000000 + d.nanos) units := by
    intro u units s hu
    have hsize : u.nanoseconds = u.size.count * 1000000000 := by
      rw [TimeUnit.nanoseconds, Amount.nanoseconds, hu]
    rw [Row.split, hsize, (split_seconds hn).1, (split_seconds hn).2]
  have hshort : Row.split (0 * 1000000000 + d.nanos) [.millisecond, .microsecond, .nanosecond] =
      [(.millisecond, d.nanos / 1000000), (.microsecond, d.nanos / 1000 % 1000),
       (.nanosecond, d.nanos % 1000)] := by
    have hus : d.nanos % 1000000 / 1000 = d.nanos / 1000 % 1000 := by omega
    have hns : d.nanos % 1000000 % 1000 = d.nanos % 1000 := by omega
    simp [Row.split, TimeUnit.nanoseconds, Amount.nanoseconds, TimeUnit.size, hus, hns]
  rw [row, nanoseconds, TimeUnit.written, hlong .year _ _ rfl, hlong .month _ _ rfl,
    hlong .day _ _ rfl, hlong .hour _ _ rfl, hlong .minute _ _ rfl, hlong .second _ _ rfl]
  simp only [TimeUnit.size, Nat.mod_one, Nat.div_one, hshort,
    Nat.mod_mod_of_dvd _ (by decide : 60 ∣ 3600)]

theorem parts_eq (d : Duration) : d.parts = d.row.map fun p => p.1.part p.2 := by
  rw [row_eq]
  rfl

theorem text_eq (d : Duration) : d.text = Row.text (Row.present d.row) := by
  have hfilter : d.parts.filter (·.count ≠ 0) =
      (Row.present d.row).map fun p => p.1.part p.2 := by
    rw [parts_eq, List.filter_map, Row.present]
    congr 2
    funext p
    simp
  rw [text, hfilter]
  cases Row.present d.row with
  | nil => rfl
  | cons p rest => simp [Row.text, Function.comp_def]

def Canonical (d : Duration) (s : String) : Prop :=
  ∃ row, Row.Numeral TimeUnit.written row ∧ row.nanoseconds = d.nanoseconds ∧ s = row.text

theorem nanoseconds_row (d : Duration) : d.row.nanoseconds = d.nanoseconds :=
  Row.nanoseconds_split_written d.nanoseconds

/-- There is exactly one such text. -/
theorem canonical_iff {d : Duration} {s : String} : d.Canonical s ↔ s = d.text := by
  have hrow := Row.numeral_split d.nanoseconds TimeUnit.written
  have hlength : (Row.present d.row).nanoseconds = d.nanoseconds :=
    (Row.nanoseconds_present _).trans d.nanoseconds_row
  rw [text_eq]
  constructor
  · rintro ⟨row, hnumeral, heq, rfl⟩
    rw [hnumeral.inj hrow (heq.trans hlength.symm)]
    rfl
  · rintro rfl
    exact ⟨Row.present d.row, hrow, hlength, rfl⟩

end ClusterKeeper.Duration
