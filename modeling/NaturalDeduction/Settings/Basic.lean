import NaturalDeduction.Host
import NaturalDeduction.Json.Basic
import NaturalDeduction.Settings.EnvFile
import NaturalDeduction.Yaml.Document

/-! Settings: a YAML document with the sections `logging` and `paths`, completed by defaults.
Environment variables take precedence over the document, and those that are set already over
those of an environment file. -/
namespace NaturalDeduction

namespace Settings

def defaultFormat : String := "%(asctime)s %(levelname)s %(name)s: %(message)s"

def defaultLevel : String := "WARNING"

def levelVariable : String := "NATDED_LOG_LEVEL"

def proofsVariable : String := "NATDED_PROOFS_FILE"

inductive Error where
  | notYaml (path : String)
  | isDirectory (path : String)
  /-- A section is not a mapping; `method` is what was asked of it. -/
  | notMapping (value : Json) (method : String)
  | notAssignable (value : Json)
  | environment (cause : EnvFile.Error)

def Error.message : Error → String
  | notYaml path => path ++ ": invalid YAML"
  | isDirectory path => "[Errno 21] Is a directory: " ++ Text.quoted path
  | notMapping value method =>
      "'" ++ value.kindName ++ "' object has no attribute '" ++ method ++ "'"
  | notAssignable (.arr _) => "list indices must be integers or slices, not str"
  | notAssignable value => "'" ++ value.kindName ++ "' object does not support item assignment"
  | environment cause => cause.message

def withDefault (key : String) (value : Json) (holder : Json) :
    Except Error (List (String × Json)) :=
  match holder with
  | .obj fields => .ok (if (fields.lookup key).isSome then fields else fields ++ [(key, value)])
  | other => .error (.notMapping other "setdefault")

def assign (key value : String) (holder : Json) : Except Error Json :=
  match holder with
  | .obj fields => .ok (.obj (Json.put key (.str value) fields))
  | other => .error (.notAssignable other)

def override (name key : String) (value : Option String) (fields : List (String × Json)) :
    Except Error (List (String × Json)) :=
  match value with
  | none => .ok fields
  | some value => do
      let changed ← assign key value ((fields.lookup name).getD .null)
      return Json.put name changed fields

/-- Complete a document by defaults, then let the two variables take precedence. -/
def complete (document : Json) (level proofs : Option String) :
    Except Error (List (String × Json)) := do
  let document := if document.isNothing then .obj [] else document
  let fields ← withDefault "logging" (.obj []) document
  let fields ← withDefault "paths" (.obj []) (.obj fields)
  let logging := (fields.lookup "logging").getD .null
  let logging ← withDefault "level" (.str defaultLevel) logging
  let logging ← withDefault "format" (.str defaultFormat) (.obj logging)
  let fields := Json.put "logging" (.obj logging) fields
  let fields ← override "logging" "level" level fields
  override "paths" "proofs_file" proofs fields

structure Loaded where
  fields : List (String × Json)
  warnings : List String

def missingWarning (path : String) : String :=
  "Config file " ++ path ++ " not found, using defaults and environment variables"

section
variable {m : Type → Type} [Monad m]

def fileVariables (host : Host m) (path : String) :
    m (Except Error (List (String × Option String))) := do
  match ← host.openFile (Path.normal path) with
  | .text contents =>
      let bindings := EnvFile.bindings contents
      let outer ← (EnvFile.mentioned bindings).mapM fun name => do
        return (name, ← host.getVariable name)
      return (EnvFile.values (fun name => (outer.lookup name).join) bindings).mapError .environment
  | .missing | .belowFile | .directory => return .ok []

def lookUp (host : Host m) (fromFile : List (String × Option String)) (name : String) :
    m (Option String) := do
  match ← host.getVariable name with
  | some value => return some value
  | none => return (fromFile.lookup name).join

def document (host : Host m) (path : String) : m (Except Error (Json × List String)) := do
  match ← host.openFile (Path.normal path) with
  | .missing | .belowFile => return .ok (.obj [], [missingWarning path])
  | .directory => return .error (.isDirectory (Path.normal path))
  | .text contents =>
      match Yaml.parse? contents with
      | some document => return .ok (document, [])
      | none => return .error (.notYaml (Path.normal path))

def load (host : Host m) (configPath envPath : String) : m (Except Error Loaded) := do
  match ← fileVariables host envPath with
  | .error cause => return .error cause
  | .ok fromFile =>
      let level ← lookUp host fromFile levelVariable
      let proofs ← lookUp host fromFile proofsVariable
      let found ← document host configPath
      return do
        let (document, warnings) ← found
        let fields ← complete document level proofs
        return ⟨fields, warnings⟩

end
end Settings
end NaturalDeduction
