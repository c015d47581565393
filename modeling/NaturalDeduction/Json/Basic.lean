import NaturalDeduction.Double
import NaturalDeduction.Text.Printable

/-! Data values of JSON documents. Objects keep their fields in the order they were first written,
and integers are unbounded. A number with a fraction or an exponent has double precision. A value
is written as JSON on one line, and shown in messages with its text quoted and with null and the
truth values as capitalised words. -/
namespace NaturalDeduction

inductive Json where
  | null
  | bool (value : Bool)
  | int (value : Int)
  | real (value : Double)
  | str (value : String)
  | arr (items : List Json)
  | obj (fields : List (String × Json))
  deriving Repr, Inhabited

namespace Json

/-- Set a field: a new key goes to the end, a known key keeps its place. -/
def put (key : String) (value : Json) : List (String × Json) → List (String × Json)
  | [] => [(key, value)]
  | (k, v) :: rest => if k = key then (k, value) :: rest else (k, v) :: put key value rest

def get? (key : String) : Json → Option Json
  | obj fields => fields.lookup key
  | _ => none

def hasKey (key : String) (value : Json) : Bool := (value.get? key).isSome

def ofStrings (items : List String) : Json := .arr (items.map .str)

def whole? : Json → Option Int
  | int value => some value
  | real value => value.whole?
  | _ => none

/-- Values that stand for nothing: null, false, zero, and empty text, lists and objects. -/
def isNothing : Json → Bool
  | null => true
  | bool value => !value
  | int value => value = 0
  | real value => value.isZero
  | str value => value = ""
  | arr items => items.isEmpty
  | obj fields => fields.isEmpty

def intChars (value : Int) : List Char :=
  if value < 0 then '-' :: Nat.toDigits 10 value.natAbs else Nat.toDigits 10 value.natAbs

def escape (c : Char) : List Char :=
  match c with
  | '"' => ['\\', '"']
  | '\\' => ['\\', '\\']
  | '\n' => ['\\', 'n']
  | '\r' => ['\\', 'r']
  | '\t' => ['\\', 't']
  | '\x08' => ['\\', 'b']
  | '\x0c' => ['\\', 'f']
  | c =>
      if c.toNat < 0x20 then '\\' :: 'u' :: Text.hexChars 4 c.toNat else [c]

def stringChars (s : String) : List Char := '"' :: (s.toList.flatMap escape ++ ['"'])

def separated (parts : List (List Char)) : List Char := List.intercalate [',', ' '] parts

def spelling : Double.Spelling := ⟨"Infinity".toList, "NaN".toList⟩

mutual

def chars : Json → List Char
  | null => ['n', 'u', 'l', 'l']
  | bool true => ['t', 'r', 'u', 'e']
  | bool false => ['f', 'a', 'l', 's', 'e']
  | int value => intChars value
  | real value => value.chars spelling
  | str value => stringChars value
  | arr items => '[' :: (separated (itemChars items) ++ [']'])
  | obj fields => '{' :: (separated (fieldChars fields) ++ ['}'])

def itemChars : List Json → List (List Char)
  | [] => []
  | value :: rest => value.chars :: itemChars rest

def fieldChars : List (String × Json) → List (List Char)
  | [] => []
  | (key, value) :: rest => (stringChars key ++ ':' :: ' ' :: value.chars) :: fieldChars rest

end

def render (value : Json) : String := String.ofList value.chars

def displaySpelling : Double.Spelling := ⟨['i', 'n', 'f'], ['n', 'a', 'n']⟩

mutual

def displayChars : Json → List Char
  | null => ['N', 'o', 'n', 'e']
  | bool true => ['T', 'r', 'u', 'e']
  | bool false => ['F', 'a', 'l', 's', 'e']
  | int value => intChars value
  | real value => value.chars displaySpelling
  | str value => Text.quotedChars value.toList
  | arr items => '[' :: (separated (displayItems items) ++ [']'])
  | obj fields => '{' :: (separated (displayFields fields) ++ ['}'])

def displayItems : List Json → List (List Char)
  | [] => []
  | value :: rest => value.displayChars :: displayItems rest

def displayFields : List (String × Json) → List (List Char)
  | [] => []
  | (key, value) :: rest =>
      (Text.quotedChars key.toList ++ ':' :: ' ' :: value.displayChars) :: displayFields rest

end

def display (value : Json) : String := String.ofList value.displayChars

def bareText : Json → String
  | str value => value
  | value => value.display

def kindName : Json → String
  | null => "NoneType"
  | bool _ => "bool"
  | int _ => "int"
  | real _ => "float"
  | str _ => "str"
  | arr _ => "list"
  | obj _ => "dict"

/-- What a value yields when it is gone through item by item: a list its items, a text its
characters, an object its keys. -/
def elements? : Json → Option (List Json)
  | arr items => some items
  | str value => some (value.toList.map fun c => .str (String.singleton c))
  | obj fields => some (fields.map fun field => .str field.1)
  | _ => none

end Json

/-- A whole number as a document writes it: an integer, or in double precision. -/
inductive Number where
  | int (value : Int)
  | real (written : Double) (value : Int) (whole : written.whole? = some value)
  deriving DecidableEq, Repr

namespace Number

def value : Number → Int
  | int value | real _ value _ => value

def isInt : Number → Bool
  | int _ => true
  | real _ _ _ => false

def toJson : Number → Json
  | int value => .int value
  | real written _ _ => .real written

def ofJson? : Json → Option Number
  | .int value => some (int value)
  | .real written =>
      match whole : written.whole? with
      | some value => some (real written value whole)
      | none => none
  | _ => none

def text : Number → String
  | int value => toString value
  | real written _ _ => (Json.real written).display

end Number
end NaturalDeduction
