import NaturalDeduction.Yaml.Cursor

/-! Block scalars of YAML: lines that are kept as they stand, or folded into paragraphs. Their
indentation is that of the first line or given in the header, which also says what becomes of the
line breaks at the end. -/
namespace NaturalDeduction.Yaml

/-- What becomes of the line breaks at the end: one is kept, none, or all. -/
inductive Chomping where
  | clip
  | strip
  | keep
  deriving DecidableEq, Repr

structure Header where
  chomping : Chomping
  increment : Option Nat

def chomping? : Option Char → Option Chomping
  | some '+' => some .keep
  | some '-' => some .strip
  | _ => none

def increment? (c : Option Char) : Option Nat :=
  c.bind fun c => if c.isDigit then some (c.toNat - '0'.toNat) else none

def header? (cursor : Cursor) : Option (Header × Cursor) := do
  let (header, cursor) : Header × Cursor :=
    match chomping? cursor.peek, increment? cursor.peek with
    | some chomping, _ =>
        match increment? (cursor.peekAt 1) with
        | some increment => (⟨chomping, some increment⟩, cursor.skip 2)
        | none => (⟨chomping, none⟩, cursor.next)
    | none, some increment =>
        match chomping? (cursor.peekAt 1) with
        | some chomping => (⟨chomping, some increment⟩, cursor.skip 2)
        | none => (⟨.clip, some increment⟩, cursor.next)
    | none, none => (⟨.clip, none⟩, cursor)
  if header.increment = some 0 then none
  match cursor.peek with
  | some c => if c = ' ' || isBreak c then pure () else none
  | none => pure ()
  let cursor := cursor.skipWhile (· = ' ')
  let cursor := if cursor.peek = some '#' then cursor.skipLine else cursor
  match cursor.peek with
  | none => return (header, cursor)
  | some _ =>
      let (_, cursor) ← cursor.lineBreak?
      return (header, cursor)

def leadingBreaks : Nat → Nat → Cursor → List Char × Nat × Cursor
  | 0, column, cursor => ([], column, cursor)
  | bound + 1, column, cursor =>
      if cursor.peek = some ' ' then
        leadingBreaks bound (max column cursor.next.column) cursor.next
      else
        match cursor.lineBreak? with
        | none => ([], column, cursor)
        | some (c, cursor) =>
            let (breaks, column, cursor) := leadingBreaks bound column cursor
            (c :: breaks, column, cursor)

def indentTo (indent : Nat) : Nat → Cursor → Cursor
  | 0, cursor => cursor
  | bound + 1, cursor =>
      if cursor.column < indent ∧ cursor.peek = some ' ' then indentTo indent bound cursor.next
      else cursor

def innerBreaks (indent : Nat) : Nat → Cursor → List Char × Cursor
  | 0, cursor => ([], cursor)
  | bound + 1, cursor =>
      let cursor := indentTo indent indent cursor
      match cursor.lineBreak? with
      | none => ([], cursor)
      | some (c, cursor) =>
          let (breaks, cursor) := innerBreaks indent bound cursor
          (c :: breaks, cursor)

def startsBlank (cursor : Cursor) : Bool := cursor.peek.any isBlank

def joint (isFolded : Bool) (lineBreak : Char) (breaks : List Char) (line next : Cursor) :
    List Char :=
  if isFolded && lineBreak = '\n' && !startsBlank line && !startsBlank next then
    if breaks.isEmpty then [' '] else []
  else [lineBreak]

def blockLines (isFolded : Bool) (chomping : Chomping) (indent : Nat) :
    Nat → Option Char → List Char → Cursor → List Char × Cursor
  | 0, _, _, cursor => ([], cursor)
  | bound + 1, before, breaks, cursor =>
      if cursor.column = indent ∧ cursor.peek.isSome then
        let (text, after) := cursor.takeWhile fun c => !isBreak c
        match after.lineBreak? with
        | none => (breaks ++ text, after)
        | some (lineBreak, after) =>
            let (further, next) := innerBreaks indent after.rest.length after
            let isLast := next.column ≠ indent ∨ next.peek.isNone
            let between :=
              if isLast then [] else joint isFolded lineBreak further cursor next
            let (chars, cursor) :=
              blockLines isFolded chomping indent bound (some lineBreak) further next
            (breaks ++ text ++ between ++ chars, cursor)
      else
        let final := if chomping = .strip then [] else before.toList
        (final ++ if chomping = .keep then breaks else [], cursor)

/-- A block scalar after its indicator. The indentation is counted from that of the block. -/
def blockScalar? (isFolded : Bool) (outer : Int) (cursor : Cursor) :
    Option (List Char × Cursor) := do
  let (header, cursor) ← header? cursor
  let least := (max (outer + 1) 1).toNat
  let (indent, breaks, cursor) := match header.increment with
    | some increment =>
        let indent := least + increment - 1
        let (breaks, cursor) := innerBreaks indent cursor.rest.length cursor
        (indent, breaks, cursor)
    | none =>
        let (breaks, column, cursor) := leadingBreaks cursor.rest.length 0 cursor
        (max least column, breaks, cursor)
  return blockLines isFolded header.chomping indent (cursor.rest.length + 1) none breaks cursor

end NaturalDeduction.Yaml
