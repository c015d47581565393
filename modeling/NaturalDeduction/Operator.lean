/-! The logical operators: negation and the four binary connectives. Each has one glyph it is
written with and further spellings that are read for it. -/
namespace NaturalDeduction

inductive Connective where
  | conditional
  | biconditional
  | disjunction
  | conjunction
  deriving DecidableEq, Repr

namespace Connective

def glyph : Connective → Char
  | conditional => '→'
  | biconditional => '↔'
  | disjunction => '∨'
  | conjunction => '&'

def label : Connective → String
  | conditional => "arrow"
  | biconditional => "double arrow"
  | disjunction => "wedge"
  | conjunction => "ampersand"

def aliases : Connective → List String
  | conditional => ["=>"]
  | biconditional => ["<=>"]
  | disjunction => ["|"]
  | conjunction => ["Λ"]

theorem glyph_injective {c d : Connective} (same : c.glyph = d.glyph) : c = d := by
  revert same
  cases c <;> cases d <;> decide

end Connective

inductive Operator where
  | binary (connective : Connective)
  | negation
  deriving DecidableEq, Repr

structure UnknownOperator where
  symbol : String
  deriving DecidableEq, Repr

def UnknownOperator.message (_ : UnknownOperator) : String := "Operator not found"

namespace Operator

def all : List Operator :=
  [binary .conditional, binary .biconditional, binary .disjunction, binary .conjunction, negation]

def glyph : Operator → Char
  | binary c => c.glyph
  | negation => '-'

def symbol (op : Operator) : String := String.singleton op.glyph

def label : Operator → String
  | binary c => c.label
  | negation => "dash"

def phrase (op : Operator) : String :=
  match op with
  | binary .conditional | binary .conjunction => "an " ++ op.label
  | _ => "a " ++ op.label

def isBinary : Operator → Bool
  | binary _ => true
  | negation => false

def aliases : Operator → List String
  | binary c => c.aliases
  | negation => ["!", "~", "¬"]

def Spells (symbol : String) (op : Operator) : Prop :=
  symbol = op.symbol ∨ symbol ∈ op.aliases

instance (symbol : String) (op : Operator) : Decidable (Spells symbol op) :=
  inferInstanceAs (Decidable (_ ∨ _))

def find (symbol : String) : Except UnknownOperator Operator :=
  match all.find? (Spells symbol ·) with
  | some op => .ok op
  | none => .error ⟨symbol⟩

theorem mem_all (op : Operator) : op ∈ all := by
  cases op with
  | binary c => cases c <;> decide
  | negation => decide

end Operator
end NaturalDeduction
