import NaturalDeduction.Text.Word

/-! Command-line arguments. Options may be cut short as long as one option is meant, and take a
value from the next argument or after an equals sign. File names stand together: once an option
follows them, no more may come. Two dashes end the options. -/
namespace NaturalDeduction.CommandLine

structure Arguments where
  files : List String
  config : String
  env : String
  requireQed : Bool
  listRules : Bool
  deriving DecidableEq, Repr

inductive Switch where
  | config
  | env
  | requireQed
  | listRules
  | help
  deriving DecidableEq, Repr

namespace Switch

def all : List Switch := [help, config, env, requireQed, listRules]

def spelling : Switch → List Char
  | config => "--config".toList
  | env => "--env".toList
  | requireQed => "--require-qed".toList
  | listRules => "--list-rules".toList
  | help => "--help".toList

def takesValue : Switch → Bool
  | config | env => true
  | requireQed | listRules | help => false

end Switch

inductive Stop where
  | usage
  | help
  deriving DecidableEq, Repr

inductive Word where
  | plain
  | switch (switch : Switch) (value : Option (List Char))
  | unknown
  deriving DecidableEq, Repr

def splitValue (chars : List Char) : List Char × Option (List Char) :=
  match chars.span (· ≠ '=') with
  | (name, _ :: value) => (name, some value)
  | (name, []) => (name, none)

/-- A number with a minus sign is not an option. A line feed may follow it. -/
def isNegativeNumber : List Char → Bool
  | '-' :: rest =>
      let rest := if rest.getLast? = some '\n' then rest.dropLast else rest
      match rest.span Text.isDecimal with
      | (_ :: _, []) => true
      | (_, '.' :: fraction) => !fraction.isEmpty && fraction.all Text.isDecimal
      | _ => false
  | _ => false

/-- The switches that a name may be short for; a full name stands for itself. -/
def candidates (name : List Char) : List Switch :=
  match Switch.all.find? (·.spelling = name) with
  | some switch => [switch]
  | none => Switch.all.filter fun switch => name.isPrefixOf switch.spelling

def classify (chars : List Char) : Word :=
  match chars with
  | [] | ['-'] => .plain
  | ['-', 'h'] => .switch .help none
  | '-' :: '-' :: _ =>
      let (name, value) := splitValue chars
      match candidates name with
      | [switch] => .switch switch value
      | [] => if ' ' ∈ chars then .plain else .unknown
      | _ => .unknown
  | '-' :: _ => if isNegativeNumber chars || ' ' ∈ chars then .plain else .unknown
  | _ => .plain

inductive Stage where
  | before
  | within
  | complete
  deriving DecidableEq, Repr

namespace Arguments

def initial : Arguments := ⟨[], "./config.yaml", "./.env", false, false⟩

def addFile (arguments : Arguments) (name : String) : Arguments :=
  { arguments with files := arguments.files ++ [name] }

def setValue (arguments : Arguments) (switch : Switch) (value : String) : Arguments :=
  match switch with
  | .config => { arguments with config := value }
  | .env => { arguments with env := value }
  | _ => arguments

def setFlag (arguments : Arguments) (switch : Switch) : Arguments :=
  match switch with
  | .requireQed => { arguments with requireQed := true }
  | .listRules => { arguments with listRules := true }
  | _ => arguments

def afterOption : Stage → Stage
  | .before => .before
  | .within | .complete => .complete

def read (arguments : Arguments) (stage : Stage) : List String → Except Stop Arguments
  | [] => .ok arguments
  | "--" :: rest =>
      if stage = .complete then .error .usage
      else .ok (rest.foldl addFile arguments)
  | word :: rest =>
      match classify word.toList with
      | .plain =>
          if stage = .complete then .error .usage
          else (arguments.addFile word).read .within rest
      | .unknown => .error .usage
      | .switch .help _ => .error .help
      | .switch switch (some value) =>
          if switch.takesValue then
            (arguments.setValue switch (String.ofList value)).read (afterOption stage) rest
          else .error .usage
      | .switch switch none =>
          if switch.takesValue then
            match rest with
            | value :: rest =>
                if value ≠ "--" ∧ classify value.toList = .plain then
                  (arguments.setValue switch value).read (afterOption stage) rest
                else .error .usage
            | [] => .error .usage
          else (arguments.setFlag switch).read (afterOption stage) rest

def parse (words : List String) : Except Stop Arguments := initial.read .before words

end Arguments
end NaturalDeduction.CommandLine
