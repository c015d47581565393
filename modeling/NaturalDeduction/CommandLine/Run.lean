import NaturalDeduction.CommandLine.Arguments
import NaturalDeduction.Record.Check
import NaturalDeduction.Record.File
import NaturalDeduction.Settings.Logging

/-! The command line: check the records of proof files and print one line for each. The run is
written for any host, so that it can be followed step by step without one. -/
namespace NaturalDeduction.CommandLine

/-- What ends a run before all files are checked. -/
inductive Crash where
  | settings (cause : Settings.Error)
  | logging (cause : Logging.Error)
  | notMapping (value : Json)
  | notPath (value : Json)
  | file (cause : Record.FileError)
  | fault (cause : Fault)

def Crash.message : Crash → String
  | settings cause => cause.message
  | logging cause => cause.message
  | notMapping value => "'" ++ value.kindName ++ "' object has no attribute 'get'"
  | notPath value =>
      "argument should be a str or an os.PathLike object where __fspath__ returns a str, not '" ++
        value.kindName ++ "'"
  | file cause => cause.message
  | fault cause => cause.message

structure Outcome where
  output : List String
  result : Except Crash Nat

def padded (width : Nat) (text : String) : String :=
  text ++ String.ofList (List.replicate (width - text.length) ' ')

def ruleRow (rule : Rule) : String :=
  "  " ++ padded 6 rule.shorthand ++ " " ++ padded 28 rule.label ++ " justifications: " ++
    toString rule.arity

def ruler : String := String.ofList (List.replicate 60 '=')

def ruleTable : List String :=
  ["", "Available rules:", ruler] ++ Rule.all.map ruleRow ++ [ruler]

def reportName (path : String) (position : Nat) (report : Report) : String :=
  match report.title with
  | none | some "" => path ++ "#" ++ toString position
  | some title => title

def failureText (failure : Failure) : String :=
  match failure.position? with
  | some position => " line " ++ toString position ++ ": " ++ failure.message
  | none => " " ++ failure.message

def reportLine (path : String) (position : Nat) (report : Report) : String :=
  let name := reportName path position report
  match report.failure with
  | some failure => "✗ " ++ name ++ ":" ++ failureText failure
  | none =>
      if report.qed then
        "✓ " ++ name ++ ": QED in " ++ toString report.accepted ++ " lines (depends on " ++
          listed report.dependencies ++ ")"
      else
        "… " ++ name ++ ": " ++ toString report.accepted ++
          " lines accepted, conclusion not reached"

def counts (requireQed : Bool) (report : Report) : Bool :=
  !report.valid || (requireQed && !report.qed)

structure Checked where
  output : List String
  failed : Bool

def checkRecords (requireQed : Bool) (path : String) (records : List Record) :
    Except Fault Checked := do
  let reports ← records.mapM Record.check
  let output := reports.mapIdx fun position report => reportLine path position report
  return ⟨output, reports.any (counts requireQed)⟩

def complaint (path cause : String) : Checked := ⟨["✗ " ++ path ++ ": " ++ cause], true⟩

def checkText (requireQed : Bool) (path contents : String) : Except Crash Checked :=
  match Record.ofFile path contents with
  | .ok records => (checkRecords requireQed path records).mapError .fault
  | .error cause =>
      if cause.isContents then .ok (complaint path cause.message) else .error (.file cause)

def checkFile (requireQed : Bool) (path : String) (opened : Opened) : Except Crash Checked :=
  let place := Text.quoted (Path.normal path)
  if '\x00' ∈ path.toList then .ok (complaint path "embedded null byte")
  else
    match opened with
    | .text contents => checkText requireQed path contents
    | .missing => .ok (complaint path ("[Errno 2] No such file or directory: " ++ place))
    | .belowFile => .ok (complaint path ("[Errno 20] Not a directory: " ++ place))
    | .directory => .ok (complaint path ("[Errno 21] Is a directory: " ++ place))

def configuredFiles (settings : List (String × Json)) : Except Crash (List String) :=
  match (settings.lookup "paths").getD .null with
  | .obj fields =>
      match (fields.lookup "proofs_file").getD .null with
      | .str path => .ok [path]
      | value => if value.isNothing then .ok [] else .error (.notPath value)
  | other => .error (.notMapping other)

def chosenFiles (arguments : Arguments) (settings : List (String × Json)) :
    Except Crash (List String) := do
  let files ← if arguments.files.isEmpty then configuredFiles settings else pure arguments.files
  return files.filter (· ≠ "")

section
variable {m : Type → Type} [Monad m]

def checkFiles (host : Host m) (requireQed : Bool) (output : List String) (failed : Bool) :
    List String → m Outcome
  | [] => return ⟨output, .ok (if failed then 1 else 0)⟩
  | path :: rest => do
      let opened ← host.openFile (Path.normal path)
      match checkFile requireQed path opened with
      | .error cause => return ⟨output, .error cause⟩
      | .ok checked =>
          checkFiles host requireQed (output ++ checked.output) (failed || checked.failed) rest

def start (host : Host m) (arguments : Arguments) (settings : List (String × Json)) :
    m Outcome :=
  match Logging.ofSettings (.obj settings) with
  | .error cause => return ⟨[], .error (.logging cause)⟩
  | .ok _ =>
      if arguments.listRules then return ⟨ruleTable, .ok 0⟩
      else
        match chosenFiles arguments settings with
        | .error cause => return ⟨[], .error cause⟩
        | .ok [] => return ⟨[], .ok 2⟩
        | .ok files => checkFiles host arguments.requireQed [] false files

def run (host : Host m) (words : List String) : m Outcome :=
  match Arguments.parse words with
  | .error .usage => return ⟨[], .ok 2⟩
  | .error .help => return ⟨[], .ok 0⟩
  | .ok arguments => do
      match ← Settings.load host arguments.config arguments.env with
      | .error cause => return ⟨[], .error (.settings cause)⟩
      | .ok loaded => start host arguments loaded.fields

end
end NaturalDeduction.CommandLine
