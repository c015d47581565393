import NaturalDeduction.Json.Basic

/-! Validation against a schema, and the schema of stored records. A schema is a list of keywords,
each of which speaks about values of some kind and lets all others pass. All flaws of a value are
collected in the order of the keywords, each with the path to it, and one of them is reported: the
nearest to the root, and among those the one furthest on. A complaint about a choice yields to any
other at its place. -/
namespace NaturalDeduction.Record

inductive Place where
  | key (name : String)
  | position (index : Nat)
  deriving DecidableEq, Repr

inductive Kind where
  | object
  | array
  | string
  | integer
  deriving DecidableEq, Repr

def Kind.name : Kind → String
  | object => "object"
  | array => "array"
  | string => "string"
  | integer => "integer"

def Kind.holds : Kind → Json → Bool
  | object, .obj _ => true
  | array, .arr _ => true
  | string, .str _ => true
  | integer, value => value.whole?.isSome
  | _, _ => false

inductive Keyword where
  | type (kind : Kind)
  | required (keys : List String)
  | oneOf (choices : List (List Keyword))
  | properties (schemas : List (String × List Keyword))
  | items (schema : List Keyword)
  /-- One schema for each of the first items. -/
  | tuple (schemas : List (List Keyword))
  | minItems (count : Nat)
  | maxItems (count : Nat)
  | minimum (bound : Int)

abbrev Schema := List Keyword

mutual

def keywordField : Keyword → String × Json
  | .type kind => ("type", .str kind.name)
  | .required keys => ("required", .ofStrings keys)
  | .oneOf choices => ("oneOf", .arr (schemaItems choices))
  | .properties schemas => ("properties", .obj (namedSchemas schemas))
  | .items schema => ("items", .obj (schemaFields schema))
  | .tuple schemas => ("items", .arr (schemaItems schemas))
  | .minItems count => ("minItems", .int count)
  | .maxItems count => ("maxItems", .int count)
  | .minimum bound => ("minimum", .int bound)

def schemaFields : List Keyword → List (String × Json)
  | [] => []
  | keyword :: rest => keywordField keyword :: schemaFields rest

def schemaItems : List (List Keyword) → List Json
  | [] => []
  | schema :: rest => .obj (schemaFields schema) :: schemaItems rest

def namedSchemas : List (String × List Keyword) → List (String × Json)
  | [] => []
  | (name, schema) :: rest => (name, .obj (schemaFields schema)) :: namedSchemas rest

end

inductive Complaint where
  | notOfKind (kind : Kind)
  | missing (key : String)
  | noChoice
  | severalChoices (choices : List Schema)
  | tooShort
  | tooLong
  | below (bound : Int)

def Complaint.isChoice : Complaint → Bool
  | noChoice | severalChoices _ => true
  | _ => false

structure Flaw where
  path : List Place
  value : Json
  complaint : Complaint

def Flaw.message (flaw : Flaw) : String :=
  let shown := flaw.value.display
  match flaw.complaint with
  | .notOfKind kind => shown ++ " is not of type '" ++ kind.name ++ "'"
  | .missing key => Text.quoted key ++ " is a required property"
  | .noChoice => shown ++ " is not valid under any of the given schemas"
  | .severalChoices choices =>
      shown ++ " is valid under each of " ++
        ", ".intercalate ((schemaItems choices).map Json.display)
  | .tooShort => shown ++ " is too short"
  | .tooLong => shown ++ " is too long"
  | .below bound => shown ++ " is less than the minimum of " ++ toString bound

def Place.below : Place → Place → Bool
  | .key a, .key b => a < b
  | .position i, .position j => i < j
  | .position _, .key _ => true
  | .key _, .position _ => false

def pathBelow : List Place → List Place → Bool
  | a :: as, b :: bs => a.below b || (!b.below a && pathBelow as bs)
  | [], _ :: _ => true
  | _, [] => false

/-- Whether the first flaw is reported rather than the second, which was found before it. -/
def Flaw.outranks (a b : Flaw) : Bool :=
  if a.path.length ≠ b.path.length then a.path.length < b.path.length
  else if a.path = b.path then b.complaint.isChoice && !a.complaint.isChoice
  else pathBelow b.path a.path

def foremost? : List Flaw → Option Flaw
  | [] => none
  | flaw :: rest =>
      some (rest.foldl (fun best next => if next.outranks best then next else best) flaw)

def isBelow (bound : Int) : Json → Bool
  | .int value => value < bound
  | .real value => value.isBelow bound
  | _ => false

def choiceFlaws (path : List Place) (value : Json) : List Schema → List Flaw
  | [] => [⟨path, value, .noChoice⟩]
  | [_] => []
  | first :: more => [⟨path, value, .severalChoices (more ++ [first])⟩]

def eachItem (check : List Place → Json → List Flaw) (path : List Place) :
    Nat → List Json → List Flaw
  | _, [] => []
  | index, value :: rest =>
      check (path ++ [.position index]) value ++ eachItem check path (index + 1) rest

mutual

def keywordFlaws (path : List Place) (value : Json) : Keyword → List Flaw
  | .type kind => if kind.holds value then [] else [⟨path, value, .notOfKind kind⟩]
  | .required keys =>
      match value with
      | .obj _ =>
          (keys.filter fun key => !value.hasKey key).map fun key => ⟨path, value, .missing key⟩
      | _ => []
  | .oneOf choices => choiceFlaws path value (passing path value choices)
  | .properties schemas =>
      match value with
      | .obj fields => propertyFlaws path fields schemas
      | _ => []
  | .items schema =>
      match value with
      | .arr items => eachItem (fun place item => schemaFlaws place item schema) path 0 items
      | _ => []
  | .tuple schemas =>
      match value with
      | .arr items => tupleFlaws path 0 items schemas
      | _ => []
  | .minItems count =>
      match value with
      | .arr items => if items.length < count then [⟨path, value, .tooShort⟩] else []
      | _ => []
  | .maxItems count =>
      match value with
      | .arr items => if count < items.length then [⟨path, value, .tooLong⟩] else []
      | _ => []
  | .minimum bound => if isBelow bound value then [⟨path, value, .below bound⟩] else []

def schemaFlaws (path : List Place) (value : Json) : List Keyword → List Flaw
  | [] => []
  | keyword :: rest => keywordFlaws path value keyword ++ schemaFlaws path value rest

def passing (path : List Place) (value : Json) : List (List Keyword) → List Schema
  | [] => []
  | schema :: rest =>
      if (schemaFlaws path value schema).isEmpty then schema :: passing path value rest
      else passing path value rest

def propertyFlaws (path : List Place) (fields : List (String × Json)) :
    List (String × List Keyword) → List Flaw
  | [] => []
  | (name, schema) :: rest =>
      (match fields.lookup name with
        | some value => schemaFlaws (path ++ [.key name]) value schema
        | none => []) ++ propertyFlaws path fields rest

def tupleFlaws (path : List Place) (index : Nat) :
    List Json → List (List Keyword) → List Flaw
  | value :: values, schema :: rest =>
      schemaFlaws (path ++ [.position index]) value schema ++
        tupleFlaws path (index + 1) values rest
  | _, _ => []

end

def textSchema : Schema := [.type .string]

def listSchema (schema : Schema) : Schema := [.type .array, .items schema]

def citationSchema : Schema := [.type .integer, .minimum 0]

def lineSchema : Schema :=
  [.type .array, .minItems 3, .maxItems 3,
    .tuple [textSchema, textSchema, listSchema citationSchema]]

def recordSchema : Schema :=
  [.type .object, .required ["conclusion"],
    .oneOf [[.required ["premises"]], [.required ["assumptions"]]],
    .properties [("premises", listSchema textSchema), ("assumptions", listSchema textSchema),
      ("conclusion", textSchema), ("lines", listSchema lineSchema), ("title", textSchema),
      ("chapter", [.type .integer])]]

def validate (value : Json) : Option Flaw := foremost? (schemaFlaws [] value recordSchema)

end NaturalDeduction.Record
