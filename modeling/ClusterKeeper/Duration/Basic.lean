import ClusterKeeper.Text.Basic

/-!
# Durations

Whole seconds in 64 bits and a part below a second in nanoseconds.
-/

set_option autoImplicit false

namespace ClusterKeeper

@[ext]
structure Duration where
  seconds : Nat
  nanos : Nat
  seconds_lt : seconds < 18446744073709551616 := by omega
  nanos_lt : nanos < 1000000000 := by omega
  deriving DecidableEq, Repr

namespace Duration

def zero : Duration := ⟨0, 0, by decide, by decide⟩

instance : Inhabited Duration := ⟨zero⟩

def nanoseconds (d : Duration) : Nat := d.seconds * 1000000000 + d.nanos

def ofNanoseconds? (n : Nat) : Option Duration :=
  if h : n / 1000000000 < Word.count64 then
    some ⟨n / 1000000000, n % 1000000000, h, Nat.mod_lt _ (by omega)⟩
  else none

def ofMilliseconds (n : UInt32) : Duration :=
  have h : n.toNat < Word.count32 := n.toNat_lt
  ⟨n.toNat / 1000, n.toNat % 1000 * 1000000, by unfold Word.count32 at h; omega, by omega⟩

instance : LE Duration := ⟨fun a b => a.nanoseconds ≤ b.nanoseconds⟩

instance : LT Duration := ⟨fun a b => a.nanoseconds < b.nanoseconds⟩

instance (a b : Duration) : Decidable (a ≤ b) :=
  inferInstanceAs (Decidable (a.nanoseconds ≤ b.nanoseconds))

instance (a b : Duration) : Decidable (a < b) :=
  inferInstanceAs (Decidable (a.nanoseconds < b.nanoseconds))

/-! ## Units of duration texts

Short units are counted in nanoseconds and long ones in seconds. A fraction
of a second or minute is taken in nanoseconds, one of a longer unit in
seconds, and one of a nanosecond not at all. -/

inductive TimeUnit where
  | nanosecond
  | microsecond
  | millisecond
  | second
  | minute
  | hour
  | day
  | week
  | month
  | year
  deriving DecidableEq, Repr

inductive Grain where
  | nanoseconds
  | seconds
  deriving DecidableEq, Repr

structure Amount where
  grain : Grain
  count : Nat
  deriving DecidableEq, Repr

namespace TimeUnit

def all : List TimeUnit :=
  [nanosecond, microsecond, millisecond, second, minute, hour, day, week, month, year]

def names : TimeUnit → List String
  | nanosecond => ["nanos", "nsec", "ns"]
  | microsecond => ["usec", "us", "µs"]
  | millisecond => ["millis", "msec", "ms"]
  | second => ["seconds", "second", "secs", "sec", "s"]
  | minute => ["minutes", "minute", "min", "mins", "m"]
  | hour => ["hours", "hour", "hr", "hrs", "h"]
  | day => ["days", "day", "d"]
  | week => ["weeks", "week", "wk", "wks", "w"]
  | month => ["months", "month", "M"]
  | year => ["years", "year", "yr", "yrs", "y"]

def ofName? (name : String) : Option TimeUnit :=
  all.find? fun unit => unit.names.contains name

def size : TimeUnit → Amount
  | nanosecond => ⟨.nanoseconds, 1⟩
  | microsecond => ⟨.nanoseconds, 1000⟩
  | millisecond => ⟨.nanoseconds, 1000000⟩
  | second => ⟨.seconds, 1⟩
  | minute => ⟨.seconds, 60⟩
  | hour => ⟨.seconds, 3600⟩
  | day => ⟨.seconds, 86400⟩
  | week => ⟨.seconds, 604800⟩
  | month => ⟨.seconds, 2630016⟩
  | year => ⟨.seconds, 31557600⟩

def divisible : TimeUnit → Option Amount
  | nanosecond => none
  | microsecond => some ⟨.nanoseconds, 1000⟩
  | millisecond => some ⟨.nanoseconds, 1000000⟩
  | second => some ⟨.nanoseconds, 1000000000⟩
  | minute => some ⟨.nanoseconds, 60000000000⟩
  | unit => some unit.size

end TimeUnit

def TimeUnit.isLetter (c : Char) : Bool := c.isAlpha || c = 'µ'

end Duration

end ClusterKeeper
