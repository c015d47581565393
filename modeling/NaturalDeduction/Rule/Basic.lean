/-! The inference rules: how each is abbreviated and named, how many lines it cites, and whether
it discharges a supposition. Spaces in an abbreviation do not count. -/
namespace NaturalDeduction

inductive Rule where
  | assumption
  | impElim
  | impIntro
  | iffElim
  | iffIntro
  | disjElim
  | disjIntro
  | conjElim
  | conjIntro
  | negElim
  | negIntro
  | supposition
  | modusTollens
  | disjunctiveArgument
  | conjunctiveArgument
  | chain
  | doubleNegation
  | deMorgan
  | arrow
  | contraposition
  deriving DecidableEq, Repr

structure UnknownRule where
  shorthand : String
  deriving DecidableEq, Repr

def UnknownRule.message (_ : UnknownRule) : String := "Rule not found"

namespace Rule

def all : List Rule :=
  [assumption, impElim, impIntro, iffElim, iffIntro, disjElim, disjIntro, conjElim, conjIntro,
    negElim, negIntro, supposition, modusTollens, disjunctiveArgument, conjunctiveArgument, chain,
    doubleNegation, deMorgan, arrow, contraposition]

def key : Rule → String
  | assumption => "assumption"
  | impElim => "arrow_out"
  | impIntro => "arrow_in"
  | iffElim => "biconditional_out"
  | iffIntro => "biconditional_in"
  | disjElim => "or_out"
  | disjIntro => "or_in"
  | conjElim => "and_out"
  | conjIntro => "and_in"
  | negElim => "negation_out"
  | negIntro => "negation_in"
  | supposition => "supposition"
  | modusTollens => "modus_tollens"
  | disjunctiveArgument => "disjunctive_argument"
  | conjunctiveArgument => "conjunctive_argument"
  | chain => "chain_rule"
  | doubleNegation => "double_negation"
  | deMorgan => "demorgans_law"
  | arrow => "arrow"
  | contraposition => "contraposition"

def shorthand : Rule → String
  | assumption => "A"
  | impElim => "→ O"
  | impIntro => "→ I"
  | iffElim => "↔ O"
  | iffIntro => "↔ I"
  | disjElim => "∨ O"
  | disjIntro => "∨ I"
  | conjElim => "& O"
  | conjIntro => "& I"
  | negElim => "- O"
  | negIntro => "- I"
  | supposition => "S"
  | modusTollens => "MT"
  | disjunctiveArgument => "DA"
  | conjunctiveArgument => "CA"
  | chain => "CH"
  | doubleNegation => "DN"
  | deMorgan => "DM"
  | arrow => "AR"
  | contraposition => "CN"

def label : Rule → String
  | assumption => "Assumption"
  | impElim => "Arrow Out"
  | impIntro => "Arrow In"
  | iffElim => "Biconditional Out"
  | iffIntro => "Biconditional In"
  | disjElim => "Wedge Out"
  | disjIntro => "Wedge In"
  | conjElim => "Ampersand/And Out"
  | conjIntro => "Ampersand/And In"
  | negElim => "Dash Out"
  | negIntro => "Dash In"
  | supposition => "Supposition"
  | modusTollens => "Modus Tollens"
  | disjunctiveArgument => "Disjunctive Argument"
  | conjunctiveArgument => "Conjunctive Argument"
  | chain => "Chain Rule"
  | doubleNegation => "Double Negation"
  | deMorgan => "Demorgan's Law"
  | arrow => "Arrow"
  | contraposition => "Contraposition"

def arity : Rule → Nat
  | assumption | supposition => 0
  | iffElim | disjIntro | conjElim | doubleNegation | deMorgan | arrow | contraposition => 1
  | impElim | impIntro | iffIntro | conjIntro | negElim | negIntro | modusTollens
  | disjunctiveArgument | conjunctiveArgument | chain => 2
  | disjElim => 3

def discharges : Rule → Bool
  | impIntro | negElim | negIntro => true
  | _ => false

def compact (shorthand : String) : List Char := shorthand.toList.filter (· ≠ ' ')

def find (shorthand : String) : Except UnknownRule Rule :=
  match all.find? (fun rule => compact rule.shorthand = compact shorthand) with
  | some rule => .ok rule
  | none => .error ⟨shorthand⟩

theorem mem_all (rule : Rule) : rule ∈ all := by
  cases rule <;> decide

@[simp] theorem find_shorthand (rule : Rule) : find rule.shorthand = .ok rule := by
  cases rule <;> rfl

end Rule
end NaturalDeduction
