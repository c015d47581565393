import NaturalDeduction.Json.Basic
import NaturalDeduction.Json.Reader
import NaturalDeduction.Line

/-! Stored problems: premises and a conclusion, together with the lines submitted for them. A
record is kept as a JSON object, one line of text per record. On reading, the premises may also
go by the name of assumptions. -/
namespace NaturalDeduction

structure Record where
  premises : List String
  conclusion : String
  lines : List Entry
  title : Option String
  chapter : Option Number
  deriving DecidableEq, Repr

namespace Record

inductive Error where
  | missing (key : String)
  | notObject (value : Json)
  | notIterable (value : Json)
  | notTriple (value : Json)
  | tooFew (count : Nat)
  | tooMany
  | wrongType (value : Json)

def Error.message : Error → String
  | missing key => Text.quoted key
  | notObject (.arr _) => "list indices must be integers or slices, not str"
  | notObject (.str _) => "string indices must be integers, not 'str'"
  | notObject value => "argument of type '" ++ value.kindName ++ "' is not iterable"
  | notIterable value => "'" ++ value.kindName ++ "' object is not iterable"
  | notTriple value => "cannot unpack non-iterable " ++ value.kindName ++ " object"
  | tooFew count => "not enough values to unpack (expected 3, got " ++ toString count ++ ")"
  | tooMany => "too many values to unpack (expected 3)"
  | wrongType value => "unexpected value " ++ value.display

def readText : Json → Except Error String
  | .str value => .ok value
  | value => .error (.wrongType value)

def readNumber (value : Json) : Except Error Number :=
  match Number.ofJson? value with
  | some number => .ok number
  | none => .error (.wrongType value)

def readElements (value : Json) : Except Error (List Json) :=
  match value.elements? with
  | some items => .ok items
  | none => .error (.notIterable value)

def readEntry (value : Json) : Except Error Entry :=
  match value.elements? with
  | some [formula, rule, citations] => do
      let formula ← readText formula
      let rule ← readText rule
      let citations ← (← readElements citations).mapM readNumber
      return ⟨formula, rule, citations⟩
  | some items => .error (if items.length < 3 then .tooFew items.length else .tooMany)
  | none => .error (.notTriple value)

/-- An absent or null value is left out. -/
def readOptional {α : Type} (read : Json → Except Error α) : Option Json → Except Error (Option α)
  | none | some .null => .ok none
  | some value => (read value).map some

def field (fields : List (String × Json)) (key : String) : Except Error Json :=
  match fields.lookup key with
  | some value => .ok value
  | none => .error (.missing key)

def ofFields (fields : List (String × Json)) : Except Error Record := do
  let premises ← match fields.lookup "premises" with
    | some value => pure value
    | none => field fields "assumptions"
  let premises ← (← readElements premises).mapM readText
  let conclusion ← readText (← field fields "conclusion")
  let lines ← (← readElements ((fields.lookup "lines").getD (.arr []))).mapM readEntry
  let title ← readOptional readText (fields.lookup "title")
  let chapter ← readOptional readNumber (fields.lookup "chapter")
  return ⟨premises, conclusion, lines, title, chapter⟩

def ofJson : Json → Except Error Record
  | .obj fields => ofFields fields
  | value => .error (.notObject value)

def entryJson (entry : Entry) : Json :=
  .arr [.str entry.formula, .str entry.rule, .arr (entry.citations.map Number.toJson)]

def toJson (record : Record) : Json :=
  .obj ([("premises", .ofStrings record.premises), ("conclusion", .str record.conclusion),
      ("lines", .arr (record.lines.map entryJson))] ++
    (record.title.map fun title => ("title", Json.str title)).toList ++
    (record.chapter.map fun chapter => ("chapter", chapter.toJson)).toList)

def toText (record : Record) : String := record.toJson.render

inductive TextError where
  | notJson
  | record (cause : Error)

def ofText (text : String) : Except TextError Record :=
  match Json.parse? text with
  | some value => (ofJson value).mapError .record
  | none => .error .notJson

end Record
end NaturalDeduction
