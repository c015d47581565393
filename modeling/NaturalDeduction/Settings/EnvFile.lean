import NaturalDeduction.Text.Basic

/-! Environment files: statements `NAME=value`, with comments and blank lines between them. A value
may stand in quotes, where a backslash escapes and lines may end; any other value ends with its
line, or at white space before a hash. A value may refer to variables, as in `${NAME}` or, with a
fallback, `${NAME:-text}`. A line that is no statement is passed over. -/
namespace NaturalDeduction.EnvFile

inductive Piece where
  | char (c : Char)
  | reference (name fallback : String)
  deriving DecidableEq, Repr

/-- A name without an equals sign after it is bound to nothing. -/
structure Binding where
  name : String
  value : Option (List Piece)
  deriving DecidableEq, Repr

def isGap (c : Char) : Bool := Text.isSpace c && c ≠ '\n'

def trimStart (chars : List Char) : List Char := chars.dropWhile Text.isSpace

def trimEnd (chars : List Char) : List Char := (trimStart chars.reverse).reverse

def skipLine (chars : List Char) : List Char := (chars.dropWhile (· ≠ '\n')).drop 1

def endLine? (chars : List Char) : Option (List Char) :=
  match chars.dropWhile isGap with
  | [] => some []
  | c :: rest => if c = '#' || c = '\n' then some (skipLine (c :: rest)) else none

/-! Quoted values. -/

def escapes : List (Char × Char) :=
  [('a', '\x07'), ('b', '\x08'), ('f', '\x0c'), ('n', '\n'), ('r', '\r'), ('t', '\t'),
    ('v', '\x0b'), ('\\', '\\'), ('\x27', '\x27'), ('"', '"')]

/-- What a backslash before a character stands for; in single quotes only quotes and backslashes
are escaped. -/
def escaped? (quote c : Char) : Option Char :=
  if quote = '\x27' then if c = '\x27' || c = '\\' then some c else none
  else escapes.lookup c

def unescape (quote : Char) : List Char → List Char
  | [] => []
  | [c] => [c]
  | c :: d :: rest =>
      match if c = '\\' then escaped? quote d else none with
      | some read => read :: unescape quote rest
      | none => c :: unescape quote (d :: rest)

def splitAtQuote? (quote : Char) (afterSlash : Bool) : List Char → Option (List Char × List Char)
  | [] => none
  | c :: rest =>
      if c = quote && !afterSlash then some ([], rest)
      else
        (splitAtQuote? quote (c = '\\') rest).map fun (inside, after) => (c :: inside, after)

def splitAtLastQuote? (quote : Char) (chars : List Char) : Option (List Char × List Char) :=
  match chars.reverse.span (· ≠ quote) with
  | (_, []) => none
  | (after, _ :: inside) => some (inside.reverse, after.reverse)

/-- The value up to the closing quote, and what follows it. Where every quote has a backslash
before it, the last one closes. -/
def quotedValue? (quote : Char) (chars : List Char) : Option (List Char × List Char) :=
  ((splitAtQuote? quote false chars).or (splitAtLastQuote? quote chars)).map
    fun (inside, after) => (unescape quote inside, after)

/-! Statements. -/

def beforeComment : List Char → List Char
  | [] => []
  | c :: rest =>
      if Text.isSpace c && (trimStart rest).head? = some '#' then [] else c :: beforeComment rest

def value? (chars : List Char) : Option (List Char × List Char) :=
  let (line, after) := chars.span (· ≠ '\n')
  match chars.dropWhile isGap with
  | [] => some ([], [])
  | c :: rest =>
      if c = '\x27' || c = '"' then quotedValue? c rest
      else some (trimStart (trimEnd (beforeComment line)), after)

def dropExport (chars : List Char) : List Char :=
  match chars with
  | 'e' :: 'x' :: 'p' :: 'o' :: 'r' :: 't' :: c :: rest =>
      if isGap c then rest.dropWhile isGap else chars
  | chars => chars

def isNameChar (c : Char) : Bool := c ≠ '=' && c ≠ '#' && !Text.isSpace c

def name? (chars : List Char) : Option (List Char × List Char) :=
  let (name, rest) := match chars with
    | '\x27' :: quoted =>
        match quoted.span (· ≠ '\x27') with
        | (_, []) => ([], chars)
        | (name, _ :: rest) => (name, rest)
    | chars => chars.span isNameChar
  if name.isEmpty then none else some (name, rest)

def reference? (chars : List Char) : Option (Piece × Nat) :=
  match chars with
  | '{' :: rest =>
      match rest.span fun c => c ≠ '}' && c ≠ ':' with
      | (name, '}' :: _) => some (.reference (String.ofList name) "", name.length + 2)
      | (name, ':' :: '-' :: rest) =>
          match rest.span (· ≠ '}') with
          | (fallback, '}' :: _) =>
              some (.reference (String.ofList name) (String.ofList fallback),
                name.length + fallback.length + 4)
          | _ => none
      | _ => none
  | _ => none

/-- The pieces of a value. The first argument counts the characters that belong to a reference
already read. -/
def pieces : Nat → List Char → List Piece
  | _, [] => []
  | taken + 1, _ :: rest => pieces taken rest
  | 0, c :: rest =>
      match if c = '$' then reference? rest else none with
      | some (piece, length) => piece :: pieces length rest
      | none => .char c :: pieces 0 rest

def finish (binding : Binding) (rest : List Char) : Option Binding × List Char :=
  match endLine? rest with
  | some after => (some binding, after)
  | none => (none, skipLine rest)

def statement (chars : List Char) : Option Binding × List Char :=
  let chars := dropExport chars
  match name? chars with
  | none => (none, skipLine chars)
  | some (name, rest) =>
      match rest.dropWhile isGap with
      | '=' :: rest =>
          match value? rest with
          | some (value, rest) => finish ⟨String.ofList name, some (pieces 0 value)⟩ rest
          | none => (none, skipLine rest)
      | rest => finish ⟨String.ofList name, none⟩ rest

/-- The bindings of a text. Each turn takes at least one character, and the first argument bounds
the turns. -/
def bindingsWithin : Nat → List Char → List Binding
  | 0, _ => []
  | bound + 1, chars =>
      match trimStart chars with
      | [] => []
      | chars =>
          let (binding, rest) := statement chars
          binding.toList ++ bindingsWithin bound rest

def bindings (text : String) : List Binding :=
  let chars := Text.withoutMark (Text.unifyLineEnds text.toList)
  bindingsWithin chars.length chars

/-! Values. -/

def Piece.fill (outer : String → Option String) (known : List (String × Option String)) :
    Piece → List Char
  | char c => [c]
  | reference name fallback =>
      match outer name, known.lookup name with
      | some value, _ => value.toList
      | none, some value => (value.getD "").toList
      | none, none => fallback.toList

/-- The names with their values, the last binding first. A value may refer to earlier bindings and
to variables set outside, which take precedence. -/
def resolve (outer : String → Option String) (bindings : List Binding) :
    List (String × Option String) :=
  bindings.foldl (fun known binding =>
    let value := binding.value.map fun pieces =>
      String.ofList (pieces.flatMap (Piece.fill outer known))
    (binding.name, value) :: known) []

def mentioned (bindings : List Binding) : List String :=
  bindings.flatMap fun binding =>
    binding.name :: (binding.value.getD []).filterMap fun
      | .char _ => none
      | .reference name _ => some name

inductive Error where
  | nullCharacter
  | equalsInName
  deriving DecidableEq, Repr

def Error.message : Error → String
  | nullCharacter => "embedded null byte"
  | equalsInName => "illegal environment variable name"

def flaw? (name value : String) : Option Error :=
  if '\x00' ∈ name.toList ∨ '\x00' ∈ value.toList then some .nullCharacter
  else if '=' ∈ name.toList then some .equalsInName
  else none

def firstFlaw? (outer : String → Option String) (values : List (String × Option String)) :
    Option Error :=
  values.reverse.findSome? fun (name, _) =>
    match outer name, (values.lookup name).join with
    | none, some value => flaw? name value
    | _, _ => none

def values (outer : String → Option String) (bindings : List Binding) :
    Except Error (List (String × Option String)) :=
  let values := resolve outer bindings
  match firstFlaw? outer values with
  | some error => .error error
  | none => .ok values

end NaturalDeduction.EnvFile
