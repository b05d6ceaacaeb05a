import ClusterKeeper.Yaml.Basic
import ClusterKeeper.Yaml.Scalar

/-!
# Tokens of YAML

Indentation and the colons behind keys are made explicit: a token opens and
closes every block, and one stands before every key. A key is known for one
only when its colon is reached, so the place where it started is remembered;
it has to be on the same line and not far away. Anchors, tags, directives and
block scalars are not part of the language.
-/

set_option autoImplicit false

namespace ClusterKeeper.Yaml

inductive Token where
  | documentStart
  | documentEnd
  | sequenceStart
  | mappingStart
  | blockEnd
  | flowSequenceStart
  | flowSequenceEnd
  | flowMappingStart
  | flowMappingEnd
  | item
  | separator
  | key
  | value
  | scalar (s : Scalar)
  deriving DecidableEq, Repr

structure KeyStart where
  index : Nat
  line : Nat
  column : Nat
  offset : Nat
  required : Bool
  deriving DecidableEq, Repr

structure Scan where
  rest : List Char
  line : Nat
  column : Nat
  offset : Nat
  tokens : List Token
  indents : List Nat
  keys : List (Option KeyStart)
  keyAllowed : Bool

namespace Scan

def ofInput (input : List Char) : Scan := ⟨input, 0, 0, 0, [], [], [none], true⟩

def inFlow (s : Scan) : Bool := 1 < s.keys.length

def advance (s : Scan) : Nat → Scan
  | 0 => s
  | n + 1 =>
    match s.rest with
    | [] => s
    | c :: rest =>
      let s := { s with rest := rest, offset := s.offset + 1 }
      if isBreak c then { s with line := s.line + 1, column := 0 }.advance n
      else { s with column := s.column + 1 }.advance n

def advanceTo (s : Scan) (rest : List Char) : Scan := s.advance (s.rest.length - rest.length)

def emit (s : Scan) (t : Token) : Scan := { s with tokens := s.tokens ++ [t] }

def take (s : Scan) (characters : Nat) (t : Token) : Scan := (s.advance characters).emit t

/-- Skips blanks, comments and breaks. A tab must not stand where a key could
start. Outside of brackets a key may start on a new line. -/
def skipGap : (fuel : Nat) → Scan → Scan
  | 0, s => s
  | fuel + 1, s =>
    let mayskip (c : Char) : Bool := c = ' ' || ((s.inFlow || !s.keyAllowed) && c = '\t')
    let s := s.advanceTo (s.rest.dropWhile mayskip)
    let s := if s.rest.head? = some '#' then s.advanceTo (s.rest.dropWhile (!isBreak ·)) else s
    if s.rest.head?.any isBreak then
      skipGap fuel { s.advance 1 with keyAllowed := s.keyAllowed || !s.inFlow }
    else s

def dropStaleKeys (s : Scan) : Option Scan := do
  let keys ← s.keys.mapM fun
    | none => some none
    | some k =>
      if k.line < s.line || k.offset + 1024 < s.offset then
        if k.required then none else some none
      else some (some k)
  some { s with keys := keys }

def dropKey (s : Scan) : Option Scan :=
  match s.keys with
  | some k :: outer => if k.required then none else some { s with keys := none :: outer }
  | _ => some s

def saveKey (s : Scan) : Option Scan :=
  if s.keyAllowed then do
    let required := !s.inFlow && s.indents.head? = some s.column
    let s ← s.dropKey
    let start : KeyStart := ⟨s.tokens.length, s.line, s.column, s.offset, required⟩
    some { s with keys := some start :: s.keys.tail }
  else some s

def openBlock (s : Scan) (column index : Nat) (t : Token) : Scan :=
  if s.inFlow || s.indents.head?.any (column ≤ ·) then s
  else { s with indents := column :: s.indents, tokens := s.tokens.insertIdx index t }

def closeBlocks (s : Scan) (column : Option Nat) : Scan :=
  if s.inFlow then s
  else
    let isInner (indent : Nat) : Bool := column.all (· < indent)
    let inner := s.indents.takeWhile isInner
    { s with
      indents := s.indents.dropWhile isInner
      tokens := s.tokens ++ inner.map fun _ => Token.blockEnd }

def allowKey (s : Scan) (allowed : Bool) : Scan := { s with keyAllowed := allowed }

def documentMark (s : Scan) : Option Scan := do
  let t := if s.rest.head? = some '-' then Token.documentStart else Token.documentEnd
  some (((← (s.closeBlocks none).dropKey).allowKey false).take 3 t)

def openBracket (s : Scan) (t : Token) : Option Scan := do
  let s ← s.saveKey
  some (({ s with keys := none :: s.keys }.allowKey true).take 1 t)

def closeBracket (s : Scan) (t : Token) : Option Scan := do
  let s ← s.dropKey
  let s := if s.inFlow then { s with keys := s.keys.tail } else s
  some ((s.allowKey false).take 1 t)

def separator (s : Scan) : Option Scan := do
  some (((← s.dropKey).allowKey true).take 1 .separator)

def blockMark (s : Scan) (block t : Token) (allowKeyAfter : Bool) : Option Scan := do
  if !s.inFlow && !s.keyAllowed then none
  else
    let s := s.openBlock s.column s.tokens.length block
    some (((← s.dropKey).allowKey allowKeyAfter).take 1 t)

def valueMark (s : Scan) : Option Scan :=
  match s.keys with
  | some k :: outer =>
    let s := { s with tokens := s.tokens.insertIdx k.index .key, keys := none :: outer }
    some (((s.openBlock k.column k.index .mappingStart).allowKey false).take 1 .value)
  | _ =>
    if s.inFlow then some ((s.allowKey false).take 1 .value)
    else if s.keyAllowed then
      some (((s.openBlock s.column s.tokens.length .mappingStart).allowKey true).take 1 .value)
    else none

def quoted (s : Scan) (double : Bool) : Option Scan := do
  let s ← s.saveKey
  let (text, rest) ← quotedScalar double s.rest.length s.rest.tail
  some (((s.allowKey false).advanceTo rest).emit (.scalar ⟨String.ofList text, false⟩))

def plain (s : Scan) : Option Scan := do
  let s ← s.saveKey
  let indent := s.indents.head?.elim 0 (· + 1)
  let p ← plainScalar s.inFlow indent (s.rest.length + 1) [] [] s.rest
  some (((s.allowKey p.endedLine).advanceTo p.rest).emit
    (.scalar ⟨String.ofList p.text, true⟩))

def indicators : List Char :=
  ['-', '?', ':', ',', '[', ']', '\x7b', '\x7d', '#', '&', '*', '!', '|', '>', '\'', '"',
   '%', '@', '\x60']

def startsPlain (inFlow : Bool) (c : Char) (rest : List Char) : Bool :=
  !(isGap c || indicators.contains c) || (c = '-' && !rest.head?.any isBlank) ||
    (!inFlow && (c = '?' || c = ':') && !endsWord rest)

def next (s : Scan) (c : Char) (rest : List Char) : Option Scan :=
  if s.column = 0 && c = '%' then none
  else if s.column = 0 && startsWithMark (c :: rest) then s.documentMark
  else if c = '[' then s.openBracket .flowSequenceStart
  else if c = '\x7b' then s.openBracket .flowMappingStart
  else if c = ']' then s.closeBracket .flowSequenceEnd
  else if c = '\x7d' then s.closeBracket .flowMappingEnd
  else if c = ',' then s.separator
  else if c = '-' && endsWord rest then s.blockMark .sequenceStart .item true
  else if c = '?' && (s.inFlow || endsWord rest) then
    s.blockMark .mappingStart .key (!s.inFlow)
  else if c = ':' && (s.inFlow || endsWord rest) then s.valueMark
  else if c = '\'' then s.quoted false
  else if c = '"' then s.quoted true
  else if startsPlain s.inFlow c rest then s.plain
  else none

def run : (fuel : Nat) → Scan → Option (List Token)
  | 0, _ => none
  | fuel + 1, s => do
    let s ← (s.skipGap (s.rest.length + 1)).dropStaleKeys
    let s := s.closeBlocks (some s.column)
    match s.rest with
    | [] => (← (s.closeBlocks none).dropKey).tokens
    | c :: rest => (← s.next c rest).run fuel

end Scan

def tokens? (text : String) : Option (List Token) :=
  let input := withNewlines text.toList
  if input.all isAllowed then
    let input := if input.head? = some '\ufeff' then input.tail else input
    Scan.run (input.length + 1) (.ofInput input)
  else none

end ClusterKeeper.Yaml
