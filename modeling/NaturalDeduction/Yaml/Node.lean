import NaturalDeduction.Yaml.Token

/-! The nodes of a YAML document, read from its tokens. An alias stands for the node that its anchor
names before it, and what is left out is an empty plain scalar. -/
namespace NaturalDeduction.Yaml

inductive Node where
  | scalar (tag : Option Tag) (text : String) (isPlain : Bool)
  | sequence (tag : Option Tag) (items : List Node)
  | mapping (tag : Option Tag) (pairs : List (Node × Node))

namespace Node

def empty : Node := scalar none "" true

/-- Tokens to be read, the names of anchors so far, and their nodes as far as they are complete. -/
structure Feed where
  tokens : List Token
  names : List String
  anchors : List (String × Node)

abbrev Reader := StateT Feed Option

def peek : Reader (Option Token) := do return (← get).tokens.head?

def advance : Reader Unit := modify fun feed => { feed with tokens := feed.tokens.tail }

def expect (token : Token) : Reader Unit := do
  if (← peek) = some token then advance else failure

def isNext (tokens : List Token) : Reader Bool := do
  return (← peek).any fun token => tokens.contains token

structure Properties where
  anchor : Option String
  tag : Option Tag

def readTag : Reader (Option Tag) := do
  match ← peek with
  | some (.tag tag) =>
      advance
      return some tag
  | _ => return none

def readAnchor : Reader (Option String) := do
  match ← peek with
  | some (.anchor name) =>
      advance
      if (← get).names.contains name then failure
      modify fun feed => { feed with names := name :: feed.names }
      return some name
  | _ => return none

def readProperties : Reader Properties := do
  match ← readTag with
  | some tag => return ⟨← readAnchor, some tag⟩
  | none =>
      let anchor ← readAnchor
      return ⟨anchor, ← readTag⟩

def resolveAlias (name : String) : Reader Node := do
  match (← get).anchors.lookup name with
  | some node => return node
  | none => failure

def remember (anchor : Option String) (node : Node) : Reader Unit :=
  match anchor with
  | some name => modify fun feed => { feed with anchors := (name, node) :: feed.anchors }
  | none => return ()

inductive Context where
  | flow
  | block
  /-- A list may stand at the column of the mapping around it. -/
  | inMapping
  deriving DecidableEq, Repr

mutual

def read : Nat → Context → Reader Node
  | 0, _ => failure
  | bound + 1, context => do
      match ← peek with
      | some (.alias name) =>
          advance
          resolveAlias name
      | _ =>
          let properties ← readProperties
          let node ← content bound context properties
          remember properties.anchor node
          return node

def content : Nat → Context → Properties → Reader Node
  | 0, _, _ => failure
  | bound + 1, context, ⟨anchor, tag⟩ => do
      match ← peek, context with
      | some (.scalar text isPlain), _ =>
          advance
          return scalar tag text isPlain
      | some .flowSequenceStart, _ =>
          advance
          return sequence tag (← flowItems bound true)
      | some .flowMappingStart, _ =>
          advance
          return mapping tag (← flowPairs bound true)
      | some .blockEntry, .inMapping => return sequence tag (← looseItems bound)
      | some .blockSequenceStart, .block | some .blockSequenceStart, .inMapping =>
          advance
          return sequence tag (← blockItems bound)
      | some .blockMappingStart, .block | some .blockMappingStart, .inMapping =>
          advance
          return mapping tag (← blockPairs bound)
      | _, _ => if anchor.isSome ∨ tag.isSome then return scalar tag "" true else failure

def readUnless : Nat → Context → List Token → Reader Node
  | 0, _, _ => failure
  | bound + 1, context, tokens => do
      if ← isNext tokens then return empty else read bound context

def readValue : Nat → Context → List Token → Reader Node
  | 0, _, _ => failure
  | bound + 1, context, tokens => do
      if ← isNext [.value] then
        advance
        readUnless bound context tokens
      else return empty

def blockItems : Nat → Reader (List Node)
  | 0 => failure
  | bound + 1 => do
      if ← isNext [.blockEntry] then
        advance
        let item ← readUnless bound .block [.blockEntry, .blockEnd]
        return item :: (← blockItems bound)
      else
        expect .blockEnd
        return []

def looseItems : Nat → Reader (List Node)
  | 0 => failure
  | bound + 1 => do
      if ← isNext [.blockEntry] then
        advance
        let item ← readUnless bound .block [.blockEntry, .key, .value, .blockEnd]
        return item :: (← looseItems bound)
      else return []

def blockPairs : Nat → Reader (List (Node × Node))
  | 0 => failure
  | bound + 1 => do
      if ← isNext [.key] then
        advance
        let key ← readUnless bound .inMapping [.key, .value, .blockEnd]
        let value ← readValue bound .inMapping [.key, .value, .blockEnd]
        return (key, value) :: (← blockPairs bound)
      else
        expect .blockEnd
        return []

/-- Items in brackets. A pair among them is a mapping of its own. -/
def flowItems : Nat → Bool → Reader (List Node)
  | 0, _ => failure
  | bound + 1, isFirst => do
      if ← isNext [.flowSequenceEnd] then
        advance
        return []
      if !isFirst then expect .flowEntry
      if ← isNext [.key] then
        advance
        let key ← readUnless bound .flow [.value, .flowEntry, .flowSequenceEnd]
        let value ← readValue bound .flow [.flowEntry, .flowSequenceEnd]
        return mapping none [(key, value)] :: (← flowItems bound false)
      else if ← isNext [.flowSequenceEnd] then
        advance
        return []
      else
        let item ← read bound .flow
        return item :: (← flowItems bound false)

def flowPairs : Nat → Bool → Reader (List (Node × Node))
  | 0, _ => failure
  | bound + 1, isFirst => do
      if ← isNext [.flowMappingEnd] then
        advance
        return []
      if !isFirst then expect .flowEntry
      if ← isNext [.key] then
        advance
        let key ← readUnless bound .flow [.value, .flowEntry, .flowMappingEnd]
        let value ← readValue bound .flow [.flowEntry, .flowMappingEnd]
        return (key, value) :: (← flowPairs bound false)
      else if ← isNext [.flowMappingEnd] then
        advance
        return []
      else
        let key ← read bound .flow
        return (key, empty) :: (← flowPairs bound false)

end

def skipAll (token : Token) : Reader Unit :=
  modify fun feed => { feed with tokens := feed.tokens.dropWhile (· = token) }

def document (bound : Nat) : Reader (Option Node) := do
  if (← peek).isNone then return none
  let node ←
    if ← isNext [.directive, .documentStart] then do
      skipAll .directive
      expect .documentStart
      if (← peek).isNone || (← isNext [.directive, .documentStart, .documentEnd]) then pure empty
      else read bound .block
    else read bound .block
  skipAll .documentEnd
  if (← peek).isSome then failure
  return some node

/-- Each token takes a few steps. -/
def ofTokens? (tokens : List Token) : Option (Option Node) :=
  ((document (4 * tokens.length + 4)).run ⟨tokens, [], []⟩).map Prod.fst

end Node
end NaturalDeduction.Yaml
