import ClusterKeeper.Data.Format
import ClusterKeeper.Duration.Writer

/-!
# Retry policies

How often a failing call is repeated and how long the pauses between the
attempts are. A policy is bounded by a number of attempts, by the time spent,
by both, or not at all. Intervals grow by a factor; it is applied to
floats that count nanoseconds.
-/

set_option autoImplicit false

namespace ClusterKeeper

structure RetryPolicy where
  maxAttempts : Option UInt32
  maxElapsed : Option Duration
  initialDelay : Duration
  maxDelay : Duration
  multiplier : Float

namespace RetryPolicy

def standard : RetryPolicy where
  maxAttempts := some 3
  maxElapsed := none
  initialDelay := .ofMilliseconds 200
  maxDelay := .ofMilliseconds 5000
  multiplier := 2.0

instance : Inhabited RetryPolicy := ⟨standard⟩

def withMaxAttempts (n : UInt32) : RetryPolicy := { standard with maxAttempts := some n }

def withMaxElapsed (d : Duration) : RetryPolicy :=
  { standard with maxAttempts := none, maxElapsed := some d }

def nanosecondsOf (d : Duration) : Float :=
  Float.ofNat d.seconds * 1000000000.0 + Float.ofNat d.nanos

def durationOf (nanoseconds : Float) : Duration :=
  ⟨(nanoseconds / 1000000000.0).toUInt64.toNat, nanoseconds.toUInt64.toNat % 1000000000,
    UInt64.toNat_lt _, Nat.mod_lt _ (by omega)⟩

def following (p : RetryPolicy) (d : Duration) : Duration :=
  if nanosecondsOf d ≥ nanosecondsOf p.maxDelay / p.multiplier then p.maxDelay
  else durationOf (nanosecondsOf d * p.multiplier)

/-- The interval that a number of pauses have gone before. The first one is not
cut to the longest. -/
def interval (p : RetryPolicy) : Nat → Duration
  | 0 => p.initialDelay
  | n + 1 => p.following (p.interval n)

/-- The moment at which the length of the next pause is decided, after so many pauses that took
so many nanoseconds. -/
structure Turn where
  policy : RetryPolicy
  pauses : Nat
  slept : Nat

namespace Turn

def interval (t : Turn) : Duration := t.policy.interval t.pauses

def exceeds (t : Turn) (d : Duration) : Bool :=
  t.policy.maxElapsed.any fun limit => limit.nanoseconds < t.slept + d.nanoseconds

def steady (t : Turn) : Option Duration :=
  if t.exceeds t.interval then none else some t.interval

end Turn

/-! ## Retry policies as data

Every field may be left out and then has its standard value. For the two
bounds, an absent value is something else: there is no bound. -/

def fieldNames : List String :=
  ["maxAttempts", "maxElapsed", "initialDelay", "maxDelay", "multiplier"]

def decode {V : Type} (f : DataFormat V) (v : V) : Option RetryPolicy := do
  let fields ← f.fields? fieldNames v
  let maxAttempts ←
    defaulted? fields "maxAttempts" (f.optional? f.word32?) standard.maxAttempts
  let maxElapsed ←
    defaulted? fields "maxElapsed" (f.optional? f.duration?) standard.maxElapsed
  let initialDelay ← defaulted? fields "initialDelay" f.duration? standard.initialDelay
  let maxDelay ← defaulted? fields "maxDelay" f.duration? standard.maxDelay
  let multiplier ← defaulted? fields "multiplier" f.number? standard.multiplier
  pure ⟨maxAttempts, maxElapsed, initialDelay, maxDelay, multiplier⟩

def toFields (p : RetryPolicy) : List (String × Json) :=
  [("maxAttempts", p.maxAttempts.elim .null fun n => .integer n.toNat),
   ("maxElapsed", p.maxElapsed.elim .null fun d => .string d.text),
   ("initialDelay", .string p.initialDelay.text),
   ("maxDelay", .string p.maxDelay.text),
   ("multiplier", .float p.multiplier)]

def toJson (p : RetryPolicy) : Json := .object p.toFields

end RetryPolicy

end ClusterKeeper
