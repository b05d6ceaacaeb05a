import ClusterKeeper.Text.Basic

/-!
# Timestamps

Dates, times of day and annotations, and the timestamps that are made of them.
-/

set_option autoImplicit false

namespace ClusterKeeper

/-! ## The calendar

The Gregorian calendar for all years, with a year zero before the year one.
Days are counted from the start of 1970. -/

namespace Timestamp

def isLeapYear (year : Int) : Bool :=
  year % 4 = 0 && (year % 100 ≠ 0 || year % 400 = 0)

def daysIn (year : Int) (month : Nat) : Nat :=
  if month = 2 then if isLeapYear year then 29 else 28
  else if [4, 6, 9, 11].contains month then 30
  else 31

def daysBeforeYear (year : Int) : Int :=
  365 * year + (year - 1) / 4 - (year - 1) / 100 + (year - 1) / 400

def daysBeforeMonth (year : Int) : Nat → Nat
  | 0 | 1 => 0
  | month + 2 => daysBeforeMonth year (month + 1) + daysIn year (month + 1)

def dayNumber (year : Int) (month day : Nat) : Int :=
  daysBeforeYear year - daysBeforeYear 1970 + daysBeforeMonth year month + day - 1

/-! ## Clock readings

Hours, and perhaps minutes, seconds and a fraction, as times of day and
offsets are written. Either there is a colon behind each part that another one
follows, or there is none at all. -/

def number? (width low high : Nat) (s : List Char) : Option (Nat × List Char) :=
  let digits := s.take width
  let n := Text.numberOf digits
  if digits.length = width && digits.all Char.isDigit && low ≤ n && n ≤ high then
    some (n, s.drop width)
  else none

structure Clock where
  hours : Nat
  minutes : Nat
  seconds : Nat
  fraction : List Char
  deriving DecidableEq, Repr

namespace Clock

def total (c : Clock) : Nat := c.hours * 3600 + c.minutes * 60 + c.seconds

def next? (colons : Bool) (s : List Char) : Option (List Char) :=
  match s with
  | ':' :: rest => if colons then some rest else none
  | a :: b :: _ => if !colons && a.isDigit && b.isDigit then some s else none
  | _ => none

def fraction? (s : List Char) : Option (List Char × List Char) :=
  match s with
  | '.' :: rest | ',' :: rest =>
    let digits := (rest.take 9).takeWhile Char.isDigit
    if digits.isEmpty then none else some (digits, rest.drop digits.length)
  | _ => some ([], s)

def read? (lastHour lastSecond : Nat) (s : List Char) : Option (Clock × List Char) := do
  let (hours, s) ← number? 2 0 lastHour s
  let colons := s.head? = some ':'
  match next? colons s with
  | none => some (⟨hours, 0, 0, []⟩, s)
  | some s =>
    let (minutes, s) ← number? 2 0 59 s
    match next? colons s with
    | none => some (⟨hours, minutes, 0, []⟩, s)
    | some s =>
      let (seconds, s) ← number? 2 0 lastSecond s
      let (fraction, s) ← fraction? s
      some (⟨hours, minutes, seconds, fraction⟩, s)

def timeOfDay? (s : List Char) : Option (Clock × List Char) :=
  (read? 23 60 s).map fun (c, s) => ({ c with seconds := min c.seconds 59 }, s)

def greatestOffset : Nat := 93599

def rounded (c : Clock) : Nat := if c.fraction.head?.any ('5' ≤ ·) then c.total + 1 else c.total

def offset? (s : List Char) : Option (Int × List Char) := do
  match s with
  | 'Z' :: rest | 'z' :: rest => some (0, rest)
  | '+' :: rest =>
    let (c, rest) ← read? 25 59 rest
    if c.rounded ≤ greatestOffset then some (c.rounded, rest) else none
  | '-' :: rest =>
    let (c, rest) ← read? 25 59 rest
    if c.rounded ≤ greatestOffset then some (-(c.rounded : Int), rest) else none
  | _ => none

end Clock

end Timestamp

/-! ## Annotations of timestamps

Behind a timestamp there can be annotations, each in brackets. The first may
name a time zone; any may give values to a key. They do not change the instant,
but they have to be well formed. An annotation marked as critical must be
understood, and no key is. -/

namespace Timestamp.Annotation

def isWord (first later : Char → Bool) : List Char → Bool
  | [] => false
  | c :: rest => first c && rest.all later

def startsName (c : Char) : Bool := c.isAlpha || c = '.' || c = '_'

def continuesName (c : Char) : Bool := startsName c || c.isDigit || c = '+' || c = '-'

def isZoneName (s : List Char) : Bool :=
  (Text.segments '/' s).all (isWord startsName continuesName)

def isZoneOffset : List Char → Bool
  | sign :: s =>
    (sign = '+' || sign = '-') &&
      match Clock.read? 25 59 s with
      | some (_, []) => s.length ≤ 5
      | _ => false
  | [] => false

def dropCritical : List Char → List Char
  | '!' :: s => s
  | s => s

def isZone (s : List Char) : Bool := isZoneName (dropCritical s) || isZoneOffset (dropCritical s)

def startsKey (c : Char) : Bool := c.isLower || c = '_'

def continuesKey (c : Char) : Bool := startsKey c || c.isDigit || c = '-'

def isAssignment (s : List Char) : Bool :=
  isWord startsKey continuesKey (s.takeWhile (· ≠ '=')) &&
    match s.dropWhile (· ≠ '=') with
    | _ :: values => (Text.segments '-' values).all (isWord Char.isAlphanum Char.isAlphanum)
    | [] => false

def opened (valid : List Char → Bool) : List Char → Bool
  | '[' :: s => valid s
  | _ => false

def isRow (s : List Char) : Bool :=
  let parts := Text.segments ']' s
  parts.getLast? = some [] &&
    match parts.dropLast with
    | [] => true
    | first :: others =>
      opened (fun s => isZone s || isAssignment s) first && others.all (opened isAssignment)

end Timestamp.Annotation

/-! ## Reading timestamps

A date, a time of day and an offset from universal time, with or without marks
between the parts, and annotations. Together they name an instant, which is
counted in seconds from the start of 1970. -/

namespace Timestamp

def year? (s : List Char) : Option (Int × List Char) := do
  match s with
  | '+' :: rest =>
    let (n, rest) ← number? 6 0 9999 rest
    some (n, rest)
  | '-' :: rest =>
    let (n, rest) ← number? 6 1 9999 rest
    some (-(n : Int), rest)
  | _ =>
    let (n, rest) ← number? 4 0 9999 s
    some (n, rest)

def dash? (dashes : Bool) (s : List Char) : Option (List Char) :=
  match s with
  | '-' :: rest => if dashes then some rest else none
  | _ => if dashes then none else some s

def day? (s : List Char) : Option (Int × List Char) := do
  let (year, s) ← year? s
  let dashes := s.head? = some '-'
  let (month, s) ← number? 2 1 12 (← dash? dashes s)
  let (day, s) ← number? 2 1 (daysIn year month) (← dash? dashes s)
  some (dayNumber year month day, s)

/-- Any greatest offset leads from an instant between these to a year of at most
four digits. -/
def isInRange (instant : Int) : Bool := -377705023201 ≤ instant && instant ≤ 253402207200

def instant? (text : String) : Option Int := do
  let (day, s) ← day? text.toList
  match s with
  | [] => none
  | mark :: s =>
    if ['T', 't', ' '].contains mark then
      let (time, s) ← Clock.timeOfDay? s
      let (offset, s) ← Clock.offset? s
      let instant := day * 86400 + time.total - offset
      if Annotation.isRow s && isInRange instant then some instant else none
    else none

def isValid (text : String) : Bool := (instant? text).isSome

end Timestamp

end ClusterKeeper
