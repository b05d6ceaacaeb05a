import ClusterKeeper.Yaml.Token

/-!
# Reading YAML

The tree of a single document. Where a node is missing, nothing stands there.
-/

set_option autoImplicit false

namespace ClusterKeeper.Yaml

def isNext (among : List Token) : List Token → Bool
  | [] => false
  | t :: _ => among.contains t

mutual

def readNode : (fuel : Nat) → (blocks looseItems : Bool) → List Token →
    Option (Node × List Token)
  | 0, _, _, _ => none
  | fuel + 1, blocks, looseItems, tokens =>
    match tokens with
    | .scalar s :: rest => some (.scalar s, rest)
    | .flowSequenceStart :: rest => do
      let (items, rest) ← readFlowItems fuel true rest
      some (.sequence items, rest)
    | .flowMappingStart :: rest => do
      let (entries, rest) ← readFlowEntries fuel true rest
      some (.mapping entries, rest)
    | .sequenceStart :: rest =>
      if blocks then do
        let (items, rest) ← readItems fuel rest
        some (.sequence items, rest)
      else none
    | .mappingStart :: rest =>
      if blocks then do
        let (entries, rest) ← readEntries fuel rest
        some (.mapping entries, rest)
      else none
    | .item :: rest =>
      if looseItems then do
        let (items, rest) ← readLooseItems fuel (.item :: rest)
        some (.sequence items, rest)
      else none
    | _ => none

def readItems : (fuel : Nat) → List Token → Option (List Node × List Token)
  | 0, _ => none
  | fuel + 1, tokens =>
    match tokens with
    | .item :: rest => do
      let (node, rest) ← if isNext [.item, .blockEnd] rest then some (.empty, rest)
        else readNode fuel true false rest
      let (items, rest) ← readItems fuel rest
      some (node :: items, rest)
    | .blockEnd :: rest => some ([], rest)
    | _ => none

def readLooseItems : (fuel : Nat) → List Token → Option (List Node × List Token)
  | 0, _ => none
  | fuel + 1, tokens =>
    match tokens with
    | .item :: rest => do
      let (node, rest) ← if isNext [.item, .key, .value, .blockEnd] rest then some (.empty, rest)
        else readNode fuel true false rest
      let (items, rest) ← readLooseItems fuel rest
      some (node :: items, rest)
    | _ => some ([], tokens)

def readEntries : (fuel : Nat) → List Token → Option (List (Node × Node) × List Token)
  | 0, _ => none
  | fuel + 1, tokens =>
    match tokens with
    | .key :: rest => do
      let (key, rest) ← if isNext [.key, .value, .blockEnd] rest then some (.empty, rest)
        else readNode fuel true true rest
      let (value, rest) ← match rest with
        | .value :: rest =>
          if isNext [.key, .value, .blockEnd] rest then some (.empty, rest)
          else readNode fuel true true rest
        | rest => some (.empty, rest)
      let (entries, rest) ← readEntries fuel rest
      some ((key, value) :: entries, rest)
    | .blockEnd :: rest => some ([], rest)
    | _ => none

def readFlowValue :
    (fuel : Nat) → (closing : Token) → List Token → Option (Node × List Token)
  | 0, _, _ => none
  | fuel + 1, closing, tokens =>
    match tokens with
    | .value :: rest =>
      if isNext [.separator, closing] rest then some (.empty, rest)
      else readNode fuel false false rest
    | rest => some (.empty, rest)

def readFlowItems : (fuel : Nat) → (first : Bool) → List Token →
    Option (List Node × List Token)
  | 0, _, _ => none
  | fuel + 1, first, tokens => do
    let tokens ← match tokens with
      | .flowSequenceEnd :: _ => some tokens
      | .separator :: rest => if first then none else some rest
      | _ => if first then some tokens else none
    match tokens with
    | .flowSequenceEnd :: rest => some ([], rest)
    | .key :: rest =>
      let (key, rest) ← readNode fuel false false rest
      let (value, rest) ← readFlowValue fuel .flowSequenceEnd rest
      let (items, rest) ← readFlowItems fuel false rest
      some (.mapping [(key, value)] :: items, rest)
    | _ =>
      let (node, rest) ← readNode fuel false false tokens
      let (items, rest) ← readFlowItems fuel false rest
      some (node :: items, rest)

def readFlowEntries : (fuel : Nat) → (first : Bool) → List Token →
    Option (List (Node × Node) × List Token)
  | 0, _, _ => none
  | fuel + 1, first, tokens => do
    let tokens ← match tokens with
      | .flowMappingEnd :: _ => some tokens
      | .separator :: rest => if first then none else some rest
      | _ => if first then some tokens else none
    match tokens with
    | .flowMappingEnd :: rest => some ([], rest)
    | .key :: rest =>
      let (key, rest) ← if isNext [.value, .separator, .flowMappingEnd] rest then
          some (.empty, rest)
        else readNode fuel false false rest
      let (value, rest) ← readFlowValue fuel .flowMappingEnd rest
      let (entries, rest) ← readFlowEntries fuel false rest
      some ((key, value) :: entries, rest)
    | _ =>
      let (key, rest) ← readNode fuel false false tokens
      let (entries, rest) ← readFlowEntries fuel false rest
      some ((key, .empty) :: entries, rest)

end

def readBlock (tokens : List Token) : Option (Node × List Token) :=
  readNode (2 * tokens.length + 2) true false tokens

def readContent : List Token → Option (Node × List Token)
  | [] => some (.empty, [])
  | .documentStart :: rest =>
    if rest.isEmpty || isNext [.documentStart, .documentEnd] rest then some (.empty, rest)
    else readBlock rest
  | tokens => readBlock tokens

def document? (tokens : List Token) : Option Node := do
  let (node, rest) ← readContent tokens
  if rest.all (· = .documentEnd) then some node else none

def read? (text : String) : Option Node := do document? (← tokens? text)

end ClusterKeeper.Yaml
