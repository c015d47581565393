import NaturalDeduction.Settings.Basic
import NaturalDeduction.Text.Uppercase
import NaturalDeduction.Text.Word

/-! How log messages are filtered and laid out, from the `logging` section of the settings. A
level is named in any case; a format has to hold at least one field such as `%(message)s`. -/
namespace NaturalDeduction

structure Logging where
  level : Nat
  format : String
  deriving DecidableEq, Repr

namespace Logging

inductive Error where
  | notMapping (value : Json)
  | unknownLevel (name : String)
  | badFormat (format : String)
  | formatNotText (value : Json)

def Error.message : Error → String
  | notMapping value => "'" ++ value.kindName ++ "' object has no attribute 'get'"
  | unknownLevel name => "Unknown log level: " ++ name
  | badFormat format => "Invalid format '" ++ format ++ "' for '%' style"
  | formatNotText value => "expected string or bytes-like object, got '" ++ value.kindName ++ "'"

def levels : List (String × Nat) :=
  [("CRITICAL", 50), ("FATAL", 50), ("ERROR", 40), ("WARN", 30), ("WARNING", 30), ("INFO", 20),
    ("DEBUG", 10), ("NOTSET", 0)]

def levelName (value : Json) : String := Text.upper value.bareText

def isFlag (c : Char) : Bool := c = '#' || c = '0' || c = '+' || c = ' ' || c = '-'

/-- Letters count in either case, and so do the long s and the i with and without a dot. -/
def isConversion (c : Char) : Bool :=
  c.toLower ∈ ['d', 'i', 'o', 'u', 'x', 'e', 'f', 'g', 'c', 'r', 's', 'a', '%', 'ſ', 'ı', 'İ']

def dropCount : List Char → List Char
  | '*' :: rest => rest
  | chars => chars.dropWhile Text.isDecimal

def dropPrecision : List Char → List Char
  | '.' :: rest =>
      match rest with
      | c :: _ => if c = '*' || Text.isDecimal c then dropCount rest else '.' :: rest
      | [] => ['.']
  | chars => chars

def isField : List Char → Bool
  | '(' :: rest =>
      match rest.span Text.isWordChar with
      | (_ :: _, ')' :: rest) =>
          (dropPrecision (dropCount (rest.dropWhile isFlag))).head?.any isConversion
      | _ => false
  | _ => false

def hasField : List Char → Bool
  | [] => false
  | c :: rest => (c = '%' && isField rest) || hasField rest

def plainFormat : String := "%(message)s"

def readFormat (value : Option Json) : Except Error String :=
  match value.getD (.str Settings.defaultFormat) with
  | .str format =>
      if format = "" then .ok plainFormat
      else if hasField format.toList then .ok format
      else .error (.badFormat format)
  | value => if value.isNothing then .ok plainFormat else .error (.formatNotText value)

def ofSection (fields : List (String × Json)) : Except Error Logging := do
  let name := levelName ((fields.lookup "level").getD (.str Settings.defaultLevel))
  let level ← match levels.lookup name with
    | some level => .ok level
    | none => .error (.unknownLevel name)
  let format ← readFormat (fields.lookup "format")
  return ⟨level, format⟩

def ofSettings (settings : Json) : Except Error Logging :=
  if settings.isNothing then ofSection []
  else
    match settings with
    | .obj fields =>
        match (fields.lookup "logging").getD (.obj []) with
        | .obj fields => ofSection fields
        | other => .error (.notMapping other)
    | other => .error (.notMapping other)

end Logging
end NaturalDeduction
