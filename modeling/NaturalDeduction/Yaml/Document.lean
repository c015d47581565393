import NaturalDeduction.Double
import NaturalDeduction.Json.Basic
import NaturalDeduction.Text.Basic
import NaturalDeduction.Yaml.Node
import NaturalDeduction.Yaml.Scalar

/-! The data of a YAML document. A mapping may take in the fields of others, which yield to its own.
Keys that are not text go by their JSON text. -/
namespace NaturalDeduction.Yaml

def realOf (value : Json) : Option Double :=
  match value with
  | .real value => some value
  | .int value => some (.ofDecimal (value < 0) value.natAbs 0)
  | _ => none

def coreScalar? (name text : String) : Option Json :=
  match name, resolve text with
  | "str", _ => some (.str text)
  | "null", _ => some .null
  | "bool", .bool value => some (.bool value)
  | "int", .int value => some (.int value)
  | "float", value => (realOf value).map .real
  | _, _ => none

/-- The sign that takes in other mappings, and the one of a default value. Neither is a value. -/
def isReserved (text : String) : Bool := text = "<<" || text = "="

def scalarJson? (tag : Option Tag) (text : String) (isPlain : Bool) : Option Json :=
  match tag with
  | none => if !isPlain then some (.str text) else if isReserved text then none else resolve text
  | some .unspecific => if isReserved text then none else resolve text
  | some (.core name) => coreScalar? name text
  | some .other => none

def isOfKind (name : String) : Option Tag → Bool
  | none | some .unspecific => true
  | some tag => tag = .core name

def isMerge : Node → Bool
  | .scalar none "<<" true | .scalar (some .unspecific) "<<" _ => true
  | .scalar (some (.core "merge")) _ _ => true
  | _ => false

def key? : Node → Option String
  | .scalar none "=" true => some "="
  | .scalar tag text isPlain =>
      match scalarJson? tag text isPlain with
      | some (.str value) => some value
      | some value => some value.render
      | none => none
  | _ => none

/-- The fields that a value brings into a mapping; of several mappings the first takes precedence.
-/
def mergedFields? : Json → Option (List (String × Json))
  | .obj fields => some fields
  | .arr items => do
      let parts ← items.reverse.mapM fun
        | .obj fields => some fields
        | _ => none
      return parts.flatten
  | _ => none

def putAll (fields : List (String × Json)) (known : List (String × Json)) : List (String × Json) :=
  fields.foldl (fun known (key, value) => Json.put key value known) known

mutual

def toJson? : Node → Option Json
  | .scalar tag text isPlain => scalarJson? tag text isPlain
  | .sequence tag items =>
      if isOfKind "seq" tag then (itemsJson? items).map .arr else none
  | .mapping tag pairs =>
      if isOfKind "map" tag then do
        let (merged, own) ← pairsJson? pairs
        return .obj (putAll own (putAll merged []))
      else none

def itemsJson? : List Node → Option (List Json)
  | [] => some []
  | node :: rest => do
      let value ← toJson? node
      return value :: (← itemsJson? rest)

def pairsJson? : List (Node × Node) → Option (List (String × Json) × List (String × Json))
  | [] => some ([], [])
  | (key, node) :: rest => do
      let value ← toJson? node
      let (merged, own) ← pairsJson? rest
      if isMerge key then return ((← mergedFields? value) ++ merged, own)
      else return (merged, (← key? key, value) :: own)

end

def parse? (text : String) : Option Json := do
  let tokens ← tokens? (Text.unifyLineEnds text.toList)
  match ← Node.ofTokens? tokens with
  | some node => toJson? node
  | none => return .null

end NaturalDeduction.Yaml
