import ClusterKeeper.Text.Basic

/-!
# Semantic versions

Three numbers of 64 bits without leading zeros, then optionally identifiers of
a pre-release and of a build. A numeric pre-release identifier has no leading
zero either, however long it is.
-/

set_option autoImplicit false

namespace ClusterKeeper

structure Semver where
  major : Nat
  minor : Nat
  patch : Nat
  pre : List String
  build : List String
  deriving DecidableEq, Repr

namespace Semver

def hasLeadingZero : List Char → Bool
  | '0' :: _ :: _ => true
  | _ => false

def number? (s : List Char) : Option (Nat × List Char) :=
  let digits := s.takeWhile Char.isDigit
  let n := Text.numberOf digits
  if digits.isEmpty || hasLeadingZero digits || Word.count64 ≤ n then none
  else some (n, s.dropWhile Char.isDigit)

def dot? : List Char → Option (List Char)
  | '.' :: rest => some rest
  | _ => none

def isIdentifierChar (c : Char) : Bool := c.isAlphanum || c = '-'

def identifiers? (allowed : List Char → Bool) (s : List Char) :
    Option (List String × List Char) :=
  let inside (c : Char) := isIdentifierChar c || c = '.'
  let found := Text.segments '.' (s.takeWhile inside)
  if found.all fun segment => !segment.isEmpty && allowed segment then
    some (found.map String.ofList, s.dropWhile inside)
  else none

def isPreRelease (segment : List Char) : Bool :=
  !(segment.all Char.isDigit && hasLeadingZero segment)

def marked? (mark : Char) (allowed : List Char → Bool) (s : List Char) :
    Option (List String × List Char) :=
  match s with
  | c :: rest => if c = mark then identifiers? allowed rest else some ([], s)
  | [] => some ([], [])

def parse? (text : String) : Option Semver := do
  let (major, rest) ← number? text.toList
  let (minor, rest) ← number? (← dot? rest)
  let (patch, rest) ← number? (← dot? rest)
  let (pre, rest) ← marked? '-' isPreRelease rest
  let (build, rest) ← marked? '+' (fun _ => true) rest
  if rest.isEmpty then some ⟨major, minor, patch, pre, build⟩ else none

end Semver

end ClusterKeeper
