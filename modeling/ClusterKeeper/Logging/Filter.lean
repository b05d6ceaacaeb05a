import ClusterKeeper.Logging.Event
import ClusterKeeper.Text.Characters
import ClusterKeeper.Text.Basic

/-!
# Log filters

A filter is a list of directives. Each sets how much to let through, of all
events or of those whose target starts with a text and that tell something
under a name. Of the directives that apply the most specific one counts, and of
equal ones the last.
-/

set_option autoImplicit false

namespace ClusterKeeper

inductive LogScope where
  | everything
  | span
  | detail (name : String)
  deriving DecidableEq, Repr

namespace LogScope

def read? (s : List Char) : Option (LogScope × List Char) :=
  let isName (c : Char) : Bool := c ≠ ']' && c ≠ '\x7b'
  match s.dropWhile isName with
  | '\x7b' :: inner =>
    let name := inner.takeWhile (· ≠ '\x7d')
    match inner.dropWhile (· ≠ '\x7d') with
    | _ :: ']' :: rest =>
      if name.isEmpty then none
      else if (s.takeWhile isName).isEmpty && !name.contains '=' then
        some (.detail (String.ofList name), rest)
      else some (.span, rest)
    | _ => none
  | _ :: rest => some (.span, rest)
  | [] => none

def covers (e : LogEvent) : LogScope → Bool
  | .everything => true
  | .span => false
  | .detail name => e.tells name

def name : LogScope → String
  | .detail name => name
  | _ => ""

end LogScope

structure LogDirective where
  target : Option String
  scope : LogScope
  limit : Nat
  deriving DecidableEq, Repr

namespace LogDirective

def limit? (text : String) : Option Nat :=
  let digits := match text.toList with
    | '+' :: rest => rest
    | s => s
  match (Text.numberIn? 10 digits).filter (· ≤ 5) with
  | some limit => some limit
  | none => ["off", "error", "warn", "info", "debug", "trace"].idxOf? text.toLower

def limitBehind? : List Char → Option Nat
  | ['='] => some LogLevel.trace.verbosity
  | '=' :: s => limit? (String.ofList s)
  | s => if s.all Text.isBlank then some LogLevel.trace.verbosity else none

def startsTarget (c : Char) : Bool := Text.isAlphanumeric c || c = '_' || c = ':' || c = '-'

def ofParts? (target rest : List Char) : Option LogDirective := do
  let (scope, rest) ← match rest with
    | '[' :: rest => LogScope.read? rest
    | _ => some (.everything, rest)
  let limit ← limitBehind? rest
  some ⟨if target.isEmpty then none else some (String.ofList target), scope, limit⟩

/-- A level, a target, or a target, a scope and a level. Blanks in front leave
no way to set a level, nor to match an event. -/
def ofText? (text : String) : Option LogDirective :=
  let s := text.toList.dropWhile Text.isBlank
  let isTarget (c : Char) : Bool := c ≠ '=' && c ≠ '['
  if !s.head?.any fun c => c = '[' || startsTarget c then none
  else if s.all isTarget then
    match limit? text with
    | some limit => some ⟨none, .everything, limit⟩
    | none => some ⟨some text, .everything, LogLevel.trace.verbosity⟩
  else
    let d? := ofParts? (s.takeWhile isTarget) (s.dropWhile isTarget)
    if s.length = text.length then d?
    else if s.contains '=' then none
    else d?.map fun d => { d with scope := .span }

def appliesTo (d : LogDirective) (e : LogEvent) : Bool :=
  d.scope.covers e && d.target.all fun t => t.toList.isPrefixOf e.target.toList

def specificity (d : LogDirective) : Nat := d.target.elim 0 fun t => t.utf8ByteSize + 1

def outranks (a b : LogDirective) : Bool :=
  if a.specificity = b.specificity then
    (b.scope.name.toList.map Char.toNat).lex (a.scope.name.toList.map Char.toNat) fun m n => m < n
  else b.specificity < a.specificity

end LogDirective

abbrev LogFilter : Type := List LogDirective

namespace LogFilter

def standard : LogFilter := [⟨none, .everything, LogLevel.info.verbosity⟩]

def ofText (text : String) : LogFilter :=
  match (Text.split ',' text).filterMap LogDirective.ofText? with
  | [] => standard
  | directives => directives

def governing? (f : LogFilter) (e : LogEvent) : Option LogDirective :=
  (f.filter (·.appliesTo e)).foldl (fun best d =>
    match best with
    | none => some d
    | some b => if b.outranks d then some b else some d) none

def passes (f : LogFilter) (e : LogEvent) : Bool :=
  (f.governing? e).any fun d => e.level.verbosity ≤ d.limit

end LogFilter

end ClusterKeeper
