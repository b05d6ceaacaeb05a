import ClusterKeeper.Text.Basic

/-!
# Scalars

The characters of a document and the texts on one or more of its lines.
-/

set_option autoImplicit false

namespace ClusterKeeper.Yaml

/-! ## Characters of YAML

Classes of characters, and the gaps of blanks and line breaks between words. -/

def isBlank (c : Char) : Bool := c = ' ' || c = '\t'

def isBreak (c : Char) : Bool := c = '\n' || c = '\u2028' || c = '\u2029'

def isGap (c : Char) : Bool := isBlank c || isBreak c

def endsWord : List Char → Bool
  | [] => true
  | c :: _ => isGap c

def isAllowed (c : Char) : Bool :=
  c = '\t' || c = '\n' || c = '\r' || c = '\u0085' ||
    (0x20 ≤ c.toNat && c.toNat ≤ 0x7e) || (0xa0 ≤ c.toNat && c.toNat ≤ 0xfffd) ||
    0x10000 ≤ c.toNat

def withNewlines : List Char → List Char
  | [] => []
  | '\r' :: '\n' :: rest => '\n' :: withNewlines rest
  | c :: rest => (if c = '\r' || c = '\u0085' then '\n' else c) :: withNewlines rest

def startsWithMark : List Char → Bool
  | a :: b :: c :: rest => a = b && b = c && (a = '-' || a = '.') && endsWord rest
  | _ => false

def endsLine (gap : List Char) : Bool := gap.getLast?.any isBreak

def indentation (gap : List Char) : Nat := (gap.reverse.takeWhile (!isBreak ·)).length

def foldGap (gap : List Char) : List Char :=
  match gap.filter isBreak with
  | [] => gap
  | first :: others =>
    if first = '\n' then (if others.isEmpty then [' '] else others) else first :: others

def tabsIntoIndentation (indent : Nat) : (column : Option Nat) → List Char → Bool
  | _, [] => false
  | column, c :: rest =>
    if isBreak c then tabsIntoIndentation indent (some 0) rest
    else (c = '\t' && column.any (· < indent)) ||
      tabsIntoIndentation indent (column.map (· + 1)) rest

/-! ## Scalars of YAML

The text of a scalar at the front of some input, and what follows it. A scalar
may go over several lines, which are folded. -/

def flowMarks : List Char := [',', '[', ']', '\x7b', '\x7d']

def plainWord (inFlow : Bool) : List Char → Option (List Char × List Char)
  | [] => some ([], [])
  | c :: rest =>
    if isGap c then some ([], c :: rest)
    else if inFlow && c = ':' && rest.head?.any ('?' :: flowMarks).contains then none
    else if (c = ':' && endsWord rest) || (inFlow && flowMarks.contains c) then
      some ([], c :: rest)
    else (plainWord inFlow rest).map fun (word, rest) => (c :: word, rest)

structure PlainScalar where
  text : List Char
  endedLine : Bool
  rest : List Char

def plainScalar (inFlow : Bool) (indent : Nat) :
    (fuel : Nat) → (text gap rest : List Char) → Option PlainScalar
  | 0, text, gap, rest => some ⟨text, gap.any isBreak, rest⟩
  | fuel + 1, text, gap, rest =>
    if (endsLine gap && startsWithMark rest) || rest.head? = some '#' then
      some ⟨text, gap.any isBreak, rest⟩
    else do
      let (word, rest) ← plainWord inFlow rest
      if word.isEmpty then some ⟨text, gap.any isBreak, rest⟩
      else
        let text := text ++ foldGap gap ++ word
        let gap := rest.takeWhile isGap
        let rest := rest.dropWhile isGap
        if gap.isEmpty then some ⟨text, false, rest⟩
        else if tabsIntoIndentation indent none gap then none
        else if !inFlow && gap.any isBreak && indentation gap < indent then
          some ⟨text, true, rest⟩
        else plainScalar inFlow indent fuel text gap rest

def escapes : List (Char × Char) :=
  [('0', '\x00'), ('a', '\x07'), ('b', '\x08'), ('t', '\t'), ('\t', '\t'), ('n', '\n'),
   ('v', '\x0b'), ('f', '\x0c'), ('r', '\r'), ('e', '\x1b'), (' ', ' '), ('"', '"'),
   ('/', '/'), ('\\', '\\'), ('N', '\u0085'), ('_', '\u00a0'), ('L', '\u2028'),
   ('P', '\u2029')]

def codeEscapes : List (Char × Nat) := [('x', 2), ('u', 4), ('U', 8)]

def escape? : List Char → Option (Char × List Char)
  | [] => none
  | c :: rest =>
    match codeEscapes.lookup c with
    | none => (escapes.lookup c).map (·, rest)
    | some digits => do
      if rest.length < digits then none
      else
        let code ← Text.numberIn? 16 (rest.take digits)
        if code.isValidChar then some (Char.ofNat code, rest.drop digits) else none

def quotedScalar (double : Bool) : (fuel : Nat) → List Char → Option (List Char × List Char)
  | 0, _ => none
  | _ + 1, [] => none
  | fuel + 1, c :: rest =>
    let goOn (text rest : List Char) : Option (List Char × List Char) :=
      (quotedScalar double fuel rest).map fun (more, rest) => (text ++ more, rest)
    if isGap c then
      let gap := c :: rest.takeWhile isGap
      let rest := rest.dropWhile isGap
      if endsLine gap && startsWithMark rest then none else goOn (foldGap gap) rest
    else if double then
      if c = '"' then some ([], rest)
      else if c = '\\' then
        if rest.head?.any isBreak then
          let gap := rest.takeWhile isGap
          let rest := rest.dropWhile isGap
          if endsLine gap && startsWithMark rest then none
          else goOn (gap.tail.filter isBreak) rest
        else do
          let (c, rest) ← escape? rest
          goOn [c] rest
      else goOn [c] rest
    else if c = '\'' then
      if rest.head? = some '\'' then goOn ['\''] rest.tail else some ([], rest)
    else goOn [c] rest

end ClusterKeeper.Yaml
