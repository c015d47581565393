import NaturalDeduction.Formula.Basic
import NaturalDeduction.Token

/-! Reading a formula from its tokens. Negation binds tightest; the binary connectives share one
precedence level and associate to the left in input order, which the grammar says as a relation
between tokens and formulas. The reader is a stack machine folded over the tokens: the stack holds
what is open around the cursor, and the two modes say whether an operand or an operator comes next.
The texts of an inference are read one by one, and those that cannot be read are reported together
instead of stopping at the first. -/
namespace NaturalDeduction

namespace Grammar

mutual

inductive Chain : List Token → Formula → Prop where
  | operand {ts : List Token} {f : Formula} : Operand ts f → Chain ts f
  | link {ts us : List Token} {t : Token} {c : Connective} {f g : Formula} :
      Chain ts f → t.kind = .connective c → Operand us g → Chain (ts ++ t :: us) (.binary c f g)

inductive Operand : List Token → Formula → Prop where
  | negation {ts : List Token} {t : Token} {f : Formula} :
      t.kind = .negation → Operand ts f → Operand (t :: ts) (.neg f)
  | primary {ts : List Token} {f : Formula} : Primary ts f → Operand ts f

inductive Primary : List Token → Formula → Prop where
  | letter {t : Token} : t.kind = .letter → Primary [t] (.atom t.lexeme)
  | group {ts : List Token} {l r : Token} {f : Formula} :
      l.kind = .openParen → Chain ts f → r.kind = .closeParen → Primary (l :: (ts ++ [r])) f

end

end Grammar

inductive ParseError where
  | lexical (cause : Token.Error)
  | unexpectedEnd
  | unexpected (token : Token)
  /-- A group is still open at this token, or at the end of the text. -/
  | unclosed (token : Option Token)
  | tooDeep
  deriving DecidableEq, Repr

namespace ParseError

def message : ParseError → String
  | lexical cause => cause.message
  | unexpectedEnd => "Unexpected end of input"
  | unexpected token => "Unexpected token " ++ token.lexeme
  | unclosed (some token) => "[" ++ token.lexeme ++ "] unclosed grouping"
  | unclosed none => "[end] unclosed grouping"
  | tooDeep => "Formula is nested too deeply"

end ParseError

namespace Formula

inductive Frame where
  | group
  | negation
  | operand (left : Formula) (connective : Connective)
  deriving DecidableEq, Repr

/-- How many rules of the grammar a frame holds open: a chain, an operand and a primary for a
parenthesis, an operand for a negation. -/
def Frame.cost : Frame → Nat
  | group => 3
  | negation => 1
  | operand _ _ => 0

inductive Reading where
  | operand (stack : List Frame)
  | operator (stack : List Frame) (read : Formula)
  deriving DecidableEq, Repr

namespace Reading

def nesting : List Frame → Nat
  | [] => 0
  | frame :: stack => nesting stack + frame.cost

/-- A finished operand closes the negations and the connective that waited for it, up to the
nearest open parenthesis. -/
def complete : List Frame → Formula → Reading
  | .negation :: stack, f => complete stack (.neg f)
  | .operand left c :: stack, f => complete stack (.binary c left f)
  | stack, f => .operator stack f

def descend (limit : Option Nat) (frame : Frame) (stack : List Frame) :
    Except ParseError Reading :=
  if limit.any (· < nesting (frame :: stack)) then .error .tooDeep
  else .ok (.operand (frame :: stack))

def step (limit : Option Nat) : Reading → Token → Except ParseError Reading
  | .operand stack, token =>
      match token.kind with
      | .letter => .ok (complete stack (.atom token.lexeme))
      | .openParen => descend limit .group stack
      | .negation => descend limit .negation stack
      | _ => .error (.unexpected token)
  | .operator stack f, token =>
      match token.kind, stack with
      | .connective c, stack => .ok (.operand (.operand f c :: stack))
      | .closeParen, .group :: stack => .ok (complete stack f)
      | _, [] => .error (.unexpected token)
      | _, _ :: _ => .error (.unclosed (some token))

def finish : Reading → Except ParseError Formula
  | .operator [] f => .ok f
  | .operator (_ :: _) _ => .error (.unclosed none)
  | .operand _ => .error .unexpectedEnd

end Reading

/-- Read a formula from tokens; `none` sets no limit on nesting. -/
def ofTokens (limit : Option Nat) (tokens : List Token) : Except ParseError Formula := do
  let reading ← tokens.foldlM (Reading.step limit) (.operand [])
  reading.finish

def nestingLimit : Nat := 1000

def parse (text : String) : Except ParseError Formula := do
  let tokens ← (Token.ofText text).mapError .lexical
  ofTokens (some nestingLimit) tokens

end Formula

namespace Inference

inductive Role where
  | premise
  | conclusion
  deriving DecidableEq, Repr

def Role.name : Role → String
  | premise => "premise"
  | conclusion => "conclusion"

structure Error where
  role : Role
  source : String
  cause : ParseError
  deriving DecidableEq, Repr

def Error.message (error : Error) : String :=
  "Error parsing " ++ error.role.name ++ " '" ++ error.source ++ "': " ++ error.cause.message

end Inference

structure Inference where
  premises : List Formula
  conclusion : Option Formula
  errors : List Inference.Error
  deriving DecidableEq, Repr

namespace Inference

def readAll (role : Role) : List String → List Formula × List Error
  | [] => ([], [])
  | source :: rest =>
      let (formulas, errors) := readAll role rest
      match Formula.parse source with
      | .ok formula => (formula :: formulas, errors)
      | .error cause => (formulas, ⟨role, source, cause⟩ :: errors)

def parse (premises : List String) (conclusion : String) : Inference :=
  let (formulas, errors) := readAll .premise premises
  let (conclusions, conclusionErrors) := readAll .conclusion [conclusion]
  ⟨formulas, conclusions.head?, errors ++ conclusionErrors⟩

def ok (inference : Inference) : Bool := inference.errors.isEmpty

end Inference

end NaturalDeduction
