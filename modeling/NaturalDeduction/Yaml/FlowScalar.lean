import NaturalDeduction.Text.Basic
import NaturalDeduction.Yaml.Cursor

/-! Plain and quoted scalars of YAML, which may run over several lines. A single line break in them
is a blank, and of several the first does not count. -/
namespace NaturalDeduction.Yaml

def folded (first : Char) (further : List Char) : List Char :=
  if first ≠ '\n' then first :: further else if further.isEmpty then [' '] else further

/-! Plain scalars. -/

def endsPlain (inFlow : Bool) (c : Char) (next : Option Char) : Bool :=
  isBlank c || isBreak c ||
    (c = ':' && (isGap next || (inFlow && next.any fun d => d ∈ [',', '[', ']', '{', '}']))) ||
    (inFlow && c ∈ [',', '?', '[', ']', '{', '}'])

def plainLength (inFlow : Bool) : List Char → Nat
  | [] => 0
  | c :: rest => if endsPlain inFlow c rest.head? then 0 else plainLength inFlow rest + 1

/-- Line breaks and the blanks around them, or nothing once a separator of documents is met. The
first argument bounds the characters. -/
def plainBreaks : Nat → Cursor → Option (List Char) × Cursor
  | 0, cursor => (some [], cursor)
  | bound + 1, cursor =>
      if cursor.peek = some ' ' then plainBreaks bound cursor.next
      else
        match cursor.lineBreak? with
        | none => (some [], cursor)
        | some (c, cursor) =>
            if cursor.atSeparator then (none, cursor)
            else
              let (breaks, cursor) := plainBreaks bound cursor
              (breaks.map (c :: ·), cursor)

structure Gap where
  chars : List Char
  brokeLine : Bool
  after : Cursor

def plainGap (cursor : Cursor) : Gap :=
  let (blanks, cursor) := cursor.takeWhile (· = ' ')
  match cursor.lineBreak? with
  | none => ⟨blanks, false, cursor⟩
  | some (first, cursor) =>
      if cursor.atSeparator then ⟨[], true, cursor⟩
      else
        match plainBreaks cursor.rest.length cursor with
        | (some further, cursor) => ⟨folded first further, true, cursor⟩
        | (none, cursor) => ⟨[], true, cursor⟩

/-- The rest of a plain scalar, whether a line ended after it, and where it ends. It goes on as long
as words follow that stand right of the indentation. -/
def plainRest (inFlow : Bool) (indent : Int) : Nat → Cursor → List Char × Bool × Cursor
  | 0, cursor => ([], false, cursor)
  | bound + 1, cursor =>
      let length := plainLength inFlow cursor.rest
      let word := cursor.rest.take length
      let gap := plainGap (cursor.skip length)
      let next := gap.after
      let goesOn := !gap.chars.isEmpty && next.peek ≠ some '#' &&
        (inFlow || indent < next.column) && plainLength inFlow next.rest ≠ 0
      if goesOn then
        let (chars, brokeLine, cursor) := plainRest inFlow indent bound next
        (word ++ gap.chars ++ chars, brokeLine, cursor)
      else (word, gap.brokeLine, next)

/-! Quoted scalars. -/

def escapes : List (Char × Char) :=
  [('0', '\x00'), ('a', '\x07'), ('b', '\x08'), ('t', '\t'), ('\t', '\t'), ('n', '\n'),
    ('v', '\x0b'), ('f', '\x0c'), ('r', '\r'), ('e', '\x1b'), (' ', ' '), ('"', '"'),
    ('\\', '\\'), ('/', '/'), ('N', '\u0085'), ('_', '\u00a0'), ('L', '\u2028'), ('P', '\u2029')]

def codeWidth? : Char → Option Nat
  | 'x' => some 2
  | 'u' => some 4
  | 'U' => some 8
  | _ => none

def codeChar? (digits : List Char) (width : Nat) : Option Char := do
  if digits.length ≠ width then none
  let values ← digits.mapM Text.hexValue?
  let code := values.foldl (fun sum digit => sum * 16 + digit) 0
  if code.isValidChar then some (Char.ofNat code) else none

def quotedBreaks? : Nat → Cursor → Option (List Char × Cursor)
  | 0, cursor => some ([], cursor)
  | bound + 1, cursor =>
      if cursor.atSeparator then none
      else
        let cursor := cursor.skipWhile isBlank
        match cursor.lineBreak? with
        | none => some ([], cursor)
        | some (c, cursor) =>
            (quotedBreaks? bound cursor).map fun (breaks, cursor) => (c :: breaks, cursor)

def escape? (cursor : Cursor) : Option (List Char × Cursor) :=
  match cursor.peek with
  | none => none
  | some c =>
      match escapes.lookup c, codeWidth? c, cursor.lineBreak? with
      | some read, _, _ => some ([read], cursor.next)
      | none, some width, _ =>
          (codeChar? (cursor.next.rest.take width) width).map fun read =>
            ([read], cursor.skip (width + 1))
      | none, none, some (_, cursor) => quotedBreaks? cursor.rest.length cursor
      | none, none, none => none

def quotedGap? (cursor : Cursor) : Option (List Char × Cursor) :=
  let (blanks, cursor) := cursor.takeWhile isBlank
  match cursor.lineBreak? with
  | none => some (blanks, cursor)
  | some (first, cursor) =>
      (quotedBreaks? cursor.rest.length cursor).map fun (further, cursor) =>
        (folded first further, cursor)

def quotedPart? (quote c : Char) (cursor : Cursor) : Option (Option (List Char × Cursor)) :=
  if isBlank c || isBreak c then (quotedGap? cursor).map some
  else if c = quote then
    if quote = '\x27' && cursor.peekAt 1 = some quote then some (some ([quote], cursor.skip 2))
    else some none
  else if c = '\\' && quote = '"' then (escape? cursor.next).map some
  else some (some ([c], cursor.next))

def quotedRest? (quote : Char) : Nat → Cursor → Option (List Char × Cursor)
  | 0, _ => none
  | bound + 1, cursor => do
      let c ← cursor.peek
      match ← quotedPart? quote c cursor with
      | none => return ([], cursor.next)
      | some (part, cursor) =>
          let (chars, cursor) ← quotedRest? quote bound cursor
          return (part ++ chars, cursor)

end NaturalDeduction.Yaml
