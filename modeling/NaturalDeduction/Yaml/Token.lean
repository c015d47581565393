import NaturalDeduction.Yaml.BlockScalar
import NaturalDeduction.Yaml.FlowScalar

/-! Tokens of YAML documents. Indentation gives the marks of block collections. A key is known as
such only at the colon after it, so the scanner remembers for each flow level where one may have
started, and the marks of keys are put in when all tokens are there. -/
namespace NaturalDeduction.Yaml

inductive Tag where
  /-- The tag that leaves the kind of a node to its text. -/
  | unspecific
  | core (name : String)
  | other
  deriving DecidableEq, Repr

inductive Token where
  | directive
  | documentStart
  | documentEnd
  | blockSequenceStart
  | blockMappingStart
  | blockEnd
  | flowSequenceStart
  | flowSequenceEnd
  | flowMappingStart
  | flowMappingEnd
  | flowEntry
  | blockEntry
  | key
  | value
  | alias (name : String)
  | anchor (name : String)
  | tag (tag : Tag)
  | scalar (text : String) (isPlain : Bool)
  deriving DecidableEq, Repr

/-- Where a key may have started. Below an open mapping at its column there has to be one. -/
structure KeyStart where
  position : Nat
  isRequired : Bool
  index : Nat
  line : Nat
  column : Nat

structure Scanner where
  cursor : Cursor
  /-- The column of the innermost block collection, or -1 outside of all. -/
  indent : Int
  outerIndents : List Int
  /-- For each flow level, the innermost first, where a key may have started. -/
  keyStarts : List (Option KeyStart)
  keyAllowed : Bool
  reversed : List Token
  /-- Before which tokens a key starts, and whether a mapping starts with it. -/
  keys : List (Nat × Bool)

namespace Scanner

def start (chars : List Char) : Scanner :=
  let cursor := Cursor.ofChars chars
  let cursor := if cursor.peek = some '\ufeff' then cursor.next else cursor
  ⟨cursor, -1, [], [none], true, [], []⟩

def inFlow (scanner : Scanner) : Bool := 1 < scanner.keyStarts.length

def push (token : Token) (scanner : Scanner) : Scanner :=
  { scanner with reversed := token :: scanner.reversed }

def moveTo (cursor : Cursor) (scanner : Scanner) : Scanner := { scanner with cursor := cursor }

def allowKey (isAllowed : Bool) (scanner : Scanner) : Scanner :=
  { scanner with keyAllowed := isAllowed }

/-! Keys. -/

def withoutKey? : Option KeyStart → Option (Option KeyStart)
  | some key => if key.isRequired then none else some none
  | none => some none

def dropKey? (scanner : Scanner) : Option Scanner :=
  match scanner.keyStarts with
  | [] => none
  | key :: outer =>
      (withoutKey? key).map fun key => { scanner with keyStarts := key :: outer }

def dropStale? (scanner : Scanner) : Option Scanner := do
  let cursor := scanner.cursor
  let keyStarts ← scanner.keyStarts.mapM fun
    | some key =>
        if key.line ≠ cursor.line ∨ key.index + 1024 < cursor.index then withoutKey? (some key)
        else some (some key)
    | none => some none
  return { scanner with keyStarts := keyStarts }

def saveKey? (scanner : Scanner) : Option Scanner :=
  if scanner.keyAllowed then do
    let scanner ← scanner.dropKey?
    let cursor := scanner.cursor
    let isRequired := !scanner.inFlow && scanner.indent = cursor.column
    let key : KeyStart :=
      ⟨scanner.reversed.length, isRequired, cursor.index, cursor.line, cursor.column⟩
    return { scanner with keyStarts := some key :: scanner.keyStarts.tail }
  else some scanner

/-! Indentation. -/

def unwindWithin (column : Int) : List Int → Scanner → Scanner
  | [], scanner => scanner
  | outer :: rest, scanner =>
      if column < scanner.indent then
        unwindWithin column rest
          { scanner.push .blockEnd with indent := outer, outerIndents := rest }
      else scanner

def unwind (column : Int) (scanner : Scanner) : Scanner :=
  if scanner.inFlow then scanner else unwindWithin column scanner.outerIndents scanner

def indentAt (column : Int) (scanner : Scanner) : Bool × Scanner :=
  if scanner.indent < column then
    (true,
      { scanner with indent := column, outerIndents := scanner.indent :: scanner.outerIndents })
  else (false, scanner)

def openBlock (token : Token) (scanner : Scanner) : Scanner :=
  match scanner.indentAt scanner.cursor.column with
  | (true, scanner) => scanner.push token
  | (false, scanner) => scanner

/-! Tokens. -/

/-- Pass blanks, comments and line breaks. In block context a key may start on a new line. -/
def skipToToken : Nat → Scanner → Scanner
  | 0, scanner => scanner
  | bound + 1, scanner =>
      let cursor := scanner.cursor.skipWhile (· = ' ')
      let cursor := if cursor.peek = some '#' then cursor.skipLine else cursor
      match cursor.lineBreak? with
      | none => scanner.moveTo cursor
      | some (_, cursor) =>
          let scanner := scanner.moveTo cursor
          skipToToken bound (if scanner.inFlow then scanner else scanner.allowKey true)

def fixed (token : Token) (width : Nat) (scanner : Scanner) : Scanner :=
  (scanner.push token).moveTo (scanner.cursor.skip width)

def documentMark? (token : Token) (scanner : Scanner) : Option Scanner := do
  let scanner ← (scanner.unwind (-1)).dropKey?
  return (scanner.allowKey false).fixed token 3

/-- A directive takes its line. Only the first version of the format is known. -/
def directive? (scanner : Scanner) : Option Scanner := do
  let scanner ← (scanner.unwind (-1)).dropKey?
  let line := scanner.cursor.rest.takeWhile fun c => !isBreak c
  let isVersion := line.take 5 = ['%', 'Y', 'A', 'M', 'L']
  if isVersion ∧ ((line.drop 5).dropWhile (· = ' ')).take 2 ≠ ['1', '.'] then none
  return ((scanner.push .directive).allowKey false).moveTo scanner.cursor.skipLine

def openFlow? (token : Token) (scanner : Scanner) : Option Scanner := do
  let scanner ← scanner.saveKey?
  return { (scanner.allowKey true).fixed token 1 with keyStarts := none :: scanner.keyStarts }

def closeFlow? (token : Token) (scanner : Scanner) : Option Scanner := do
  let scanner ← scanner.dropKey?
  match scanner.keyStarts with
  | _ :: level :: outer =>
      return { (scanner.allowKey false).fixed token 1 with keyStarts := level :: outer }
  | _ => none

def flowEntry? (scanner : Scanner) : Option Scanner := do
  let scanner ← scanner.dropKey?
  return (scanner.allowKey true).fixed .flowEntry 1

def inBlock? (opening : Token) (scanner : Scanner) : Option Scanner :=
  if scanner.inFlow then some scanner
  else if scanner.keyAllowed then some (scanner.openBlock opening)
  else none

def blockEntry? (scanner : Scanner) : Option Scanner := do
  let scanner ← (← scanner.inBlock? .blockSequenceStart).dropKey?
  return (scanner.allowKey true).fixed .blockEntry 1

def explicitKey? (scanner : Scanner) : Option Scanner := do
  let scanner ← (← scanner.inBlock? .blockMappingStart).dropKey?
  return (scanner.allowKey (!scanner.inFlow)).fixed .key 1

def value? (scanner : Scanner) : Option Scanner :=
  match scanner.keyStarts with
  | some key :: outer =>
      let scanner := { scanner with keyStarts := none :: outer }
      let (opens, scanner) :=
        if scanner.inFlow then (false, scanner) else scanner.indentAt key.column
      let scanner := { scanner with keys := (key.position, opens) :: scanner.keys }
      some ((scanner.allowKey false).fixed .value 1)
  | _ => do
      let scanner ← (← scanner.inBlock? .blockMappingStart).dropKey?
      return (scanner.allowKey (!scanner.inFlow)).fixed .value 1

def isNameChar (c : Char) : Bool := c.isAlphanum || c = '-' || c = '_'

def name? (token : String → Token) (scanner : Scanner) : Option Scanner := do
  let scanner ← scanner.saveKey?
  let (name, cursor) := scanner.cursor.next.takeWhile isNameChar
  if name.isEmpty then none
  if !(isGap cursor.peek || cursor.peek.any fun c =>
      c ∈ ['?', ':', ',', ']', '}', '%', '@', '\x60']) then none
  return ((scanner.push (token (String.ofList name))).allowKey false).moveTo cursor

def isTagChar (c : Char) : Bool :=
  c.isAlphanum || c ∈ ['-', ';', '/', '?', ':', '@', '&', '=', '+', '$', ',', '_', '.', '!', '~',
    '*', '\x27', '(', ')', '[', ']', '%']

def coreTags : List Char := "tag:yaml.org,2002:".toList

def fullTag (name : List Char) : Tag :=
  if name = ['!'] then .unspecific
  else if coreTags.isPrefixOf name then .core (String.ofList (name.drop coreTags.length))
  else .other

def readTag? (cursor : Cursor) : Option (Tag × Cursor) := do
  let cursor := cursor.next
  if isGap cursor.peek then return (.unspecific, cursor)
  match cursor.peek with
  | some '<' =>
      let (name, cursor) := cursor.next.takeWhile isTagChar
      if name.isEmpty ∨ cursor.peek ≠ some '>' then none
      return (fullTag name, cursor.next)
  | some '!' =>
      let (name, cursor) := cursor.next.takeWhile isTagChar
      if name.isEmpty then none
      return (.core (String.ofList name), cursor)
  | _ =>
      let (name, cursor) := cursor.takeWhile isTagChar
      if name.isEmpty ∨ '!' ∈ name then none
      return (.other, cursor)

def tag? (scanner : Scanner) : Option Scanner := do
  let scanner ← scanner.saveKey?
  let (tag, cursor) ← readTag? scanner.cursor
  if cursor.peek.any fun c => c ≠ ' ' && !isBreak c then none
  return ((scanner.push (.tag tag)).allowKey false).moveTo cursor

def scalarToken (chars : List Char) (isPlain : Bool) : Token :=
  .scalar (String.ofList chars) isPlain

def block? (isFolded : Bool) (scanner : Scanner) : Option Scanner := do
  let scanner ← scanner.dropKey?
  let (chars, cursor) ← blockScalar? isFolded scanner.indent scanner.cursor.next
  return ((scanner.push (scalarToken chars false)).allowKey true).moveTo cursor

def quoted? (quote : Char) (scanner : Scanner) : Option Scanner := do
  let scanner ← scanner.saveKey?
  let cursor := scanner.cursor.next
  let (chars, cursor) ← quotedRest? quote (cursor.rest.length + 1) cursor
  return ((scanner.push (scalarToken chars false)).allowKey false).moveTo cursor

def plain? (scanner : Scanner) : Option Scanner := do
  let scanner ← scanner.saveKey?
  let cursor := scanner.cursor
  let (chars, brokeLine, cursor) :=
    plainRest scanner.inFlow scanner.indent cursor.rest.length cursor
  return ((scanner.push (scalarToken chars true)).allowKey brokeLine).moveTo cursor

def startsPlain (inFlow : Bool) (c : Char) (next : Option Char) : Bool :=
  if c = '-' then !isGap next
  else if c = '?' || c = ':' then !inFlow && !isGap next
  else !(isBlank c || isBreak c || c ∈ [',', '[', ']', '{', '}', '#', '&', '*', '!', '|', '>',
    '\x27', '"', '%', '@', '\x60'])

def token? (c : Char) (scanner : Scanner) : Option Scanner :=
  let cursor := scanner.cursor
  let next := cursor.peekAt 1
  let atMargin := cursor.column = 0
  if c = '%' ∧ atMargin then scanner.directive?
  else if c = '-' ∧ atMargin ∧ cursor.atSeparator then scanner.documentMark? .documentStart
  else if c = '.' ∧ atMargin ∧ cursor.atSeparator then scanner.documentMark? .documentEnd
  else
    match c with
    | '[' => scanner.openFlow? .flowSequenceStart
    | '{' => scanner.openFlow? .flowMappingStart
    | ']' => scanner.closeFlow? .flowSequenceEnd
    | '}' => scanner.closeFlow? .flowMappingEnd
    | ',' => scanner.flowEntry?
    | '*' => scanner.name? .alias
    | '&' => scanner.name? .anchor
    | '!' => scanner.tag?
    | '\x27' => scanner.quoted? c
    | '"' => scanner.quoted? c
    | c =>
        if c = '-' ∧ isGap next then scanner.blockEntry?
        else if c = '?' ∧ (scanner.inFlow ∨ isGap next) then scanner.explicitKey?
        else if c = ':' ∧ (scanner.inFlow ∨ isGap next) then scanner.value?
        else if (c = '|' ∨ c = '>') ∧ !scanner.inFlow then scanner.block? (c = '>')
        else if startsPlain scanner.inFlow c next then scanner.plain?
        else none

def run? : Nat → Scanner → Option Scanner
  | 0, _ => none
  | bound + 1, scanner => do
      let scanner := scanner.skipToToken (scanner.cursor.rest.length + 1)
      let scanner ← scanner.dropStale?
      let scanner := scanner.unwind scanner.cursor.column
      match scanner.cursor.peek with
      | none => (scanner.unwind (-1)).dropKey?
      | some c => run? bound (← scanner.token? c)

end Scanner

def withKeys (keys : List (Nat × Bool)) : Nat → List Token → List Token
  | _, [] => []
  | position, token :: rest =>
      let marks := match keys.lookup position with
        | some true => [.blockMappingStart, .key]
        | some false => [.key]
        | none => []
      marks ++ token :: withKeys keys (position + 1) rest

def tokens? (chars : List Char) : Option (List Token) := do
  if !chars.all isAllowed then none
  let scanner ← (Scanner.start chars).run? (chars.length + 1)
  return withKeys scanner.keys 0 scanner.reversed.reverse

end NaturalDeduction.Yaml
