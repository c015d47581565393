import NaturalDeduction.Host
import NaturalDeduction.Record.Basic
import NaturalDeduction.Record.Schema
import NaturalDeduction.Text.Basic
import NaturalDeduction.Yaml.Document

/-! Files of stored records. The suffix of the path tells the format: JSON lines, YAML, or else one
JSON document. A document is a single record, a list of records, or a mapping from names to
records. Every entry is validated before it is read. -/
namespace NaturalDeduction.Record

inductive FileError where
  | notJson
  | notYaml (path : String)
  | invalid (path : String) (position : Nat) (flaw : Flaw)
  | noEntries (value : Json)
  | unreadable (cause : Error)

namespace FileError

def message : FileError → String
  | notJson => "invalid JSON"
  | notYaml path => path ++ ": invalid YAML"
  | invalid path position flaw =>
      path ++ ": record " ++ toString position ++ " is invalid: " ++ flaw.message
  | noEntries value => "'" ++ value.kindName ++ "' object is not iterable"
  | unreadable cause => cause.message

/-- Whether the contents of the file are at fault, so that other files can still be checked. -/
def isContents : FileError → Bool
  | notJson | notYaml _ | invalid _ _ _ => true
  | noEntries _ | unreadable _ => false

end FileError

/-- The entries of a document. An object with a conclusion is itself an entry, and a document that
stands for nothing has none. -/
def entries (document : Json) : Except FileError (List Json) :=
  match document with
  | .obj fields =>
      if document.hasKey "conclusion" then .ok [document] else .ok (fields.map Prod.snd)
  | document =>
      if document.isNothing then .ok []
      else
        match document.elements? with
        | some items => .ok items
        | none => .error (.noEntries document)

def jsonDocument (text : String) : Except FileError Json :=
  match Json.parse? text with
  | some document => .ok document
  | none => .error .notJson

def yamlDocument (path text : String) : Except FileError Json :=
  match Yaml.parse? text with
  | some document => .ok document
  | none => .error (.notYaml path)

def jsonLines (text : String) : Except FileError (List Json) :=
  ((Text.fileLines text).filter fun line => !Text.isBlankLine line).mapM fun line =>
    jsonDocument (String.ofList line)

def fileEntries (path text : String) : Except FileError (List Json) :=
  match Path.suffix path with
  | ".jsonl" => jsonLines text
  | ".yaml" | ".yml" => do entries (← yamlDocument (Path.normal path) text)
  | _ => do entries (← jsonDocument text)

def readEntries (path : String) : Nat → List Json → Except FileError (List Record)
  | _, [] => return []
  | position, value :: rest =>
      match validate value with
      | some flaw => .error (.invalid path position flaw)
      | none => do
          let record ← (ofJson value).mapError .unreadable
          let records ← readEntries path (position + 1) rest
          return record :: records

def ofFile (path text : String) : Except FileError (List Record) := do
  let values ← fileEntries path text
  readEntries (Path.normal path) 0 values

end NaturalDeduction.Record
