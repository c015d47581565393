import NaturalDeduction.Operator

/-! The preconditions of the rules that a candidate line can fail to meet, and the wording of
each. Here a justification is a cited line. -/
namespace NaturalDeduction

inductive Violation where
  | citationCount (required : Nat)
  | formulaLacks (op : Operator)
  | citationLacks (op : Operator)
  | noConditionalWithAntecedent
  | notConsequent
  | noSupposition
  | derivedIndependent
  | antecedentNotSupposition
  | consequentNotDerived
  | componentsDiffer
  | citationsNotConditional
  | forwardMissing
  | backwardMissing
  | notTheTwoConditionals
  | noDisjunction
  | othersNotConditional
  | consequentsDiffer
  | antecedentsNotDisjuncts
  | citationNotDisjunct
  | notConjunct
  | leftNotCited
  | rightNotCited
  | notTheTwoConjuncts
  | noSuppositionWithContradiction
  | suppositionNotNegated
  | notNegationOfSupposition
  | contradictionIndependent
  | noNegationWithConditional
  | antecedentNotNegated
  | consequentNotDenied
  | noDeniedDisjunct
  | notDisjunct
  | disjunctDenied
  | noDeniedConjunction
  | negatedNotConjunct
  | conjunctAffirmed
  | chainNotConditional
  | chainAntecedent
  | chainBroken
  | chainConsequent
  | notDoublyNegated
  | notEquivalent
  | contrapositionShape
  deriving DecidableEq, Repr

namespace Violation

def message : Violation → String
  | citationCount 1 => "Rule requires 1 justification"
  | citationCount required => "Rule requires " ++ toString required ++ " justifications"
  | formulaLacks op => "Formula must contain " ++ op.phrase ++ " operator"
  | citationLacks op => "Justification must contain " ++ op.phrase ++ " operator"
  | noConditionalWithAntecedent =>
      "Justifications must include a conditional that has the other justification as its antecedent"
  | notConsequent => "Formula must be the consequent of the conditional justification"
  | noSupposition => "One of the justifications must be a supposition"
  | derivedIndependent =>
      "Second justification must have the supposition justification as a dependency"
  | antecedentNotSupposition =>
      "The antecedent of the formula must be the supposition justification"
  | consequentNotDerived => "The consequent of the formula must be the second justification"
  | componentsDiffer => "Formula must have the same components as the justification"
  | citationsNotConditional => "Justifications must both contain arrow operators"
  | forwardMissing =>
      "Left and right components of the biconditional must be the antecedent and consequent of " ++
        "one justification"
  | backwardMissing =>
      "Left and right components of the biconditional must be the consequent and antecedent of " ++
        "one justification"
  | notTheTwoConditionals =>
      "Justifications must be exactly the two conditionals of the biconditional"
  | noDisjunction => "One justification must contain a wedge operator"
  | othersNotConditional => "Other two justifications must contain arrow operators"
  | consequentsDiffer =>
      "Both conditional justifications must contain the formula as their consequent"
  | antecedentsNotDisjuncts =>
      "Both the left and right components of the wedge justification must be the antecedents of " ++
        "the conditional justifications"
  | citationNotDisjunct =>
      "Formula must contain the justification as either its left or right component"
  | notConjunct => "Formula must be either the left or right component of the justification"
  | leftNotCited => "The left component of the formula must be one of the justifications"
  | rightNotCited => "The right component of the formula must be one of the justifications"
  | notTheTwoConjuncts =>
      "Justifications must be exactly the left and right components of the formula"
  | noSuppositionWithContradiction =>
      "Justifications must include a supposition and a contradiction"
  | suppositionNotNegated => "The supposition justification must contain a dash operator"
  | notNegationOfSupposition => "Formula must be the negation of the supposition justification"
  | contradictionIndependent => "Contradiction must contain the supposition as a dependency"
  | noNegationWithConditional =>
      "Justifications must consist of a negation formula and a conditional formula"
  | antecedentNotNegated =>
      "Conditional justification must contain the negated formula as its antecedent"
  | consequentNotDenied =>
      "Conditional justification must contain the negated negation justification as its consequent"
  | noDeniedDisjunct =>
      "Justifications must include a disjunction and a negation, and the disjunction must " ++
        "contain the negated negation as either its left or right component"
  | notDisjunct =>
      "Formula must be either the left or right component of the disjunction justification"
  | disjunctDenied =>
      "Formula must be the component of the disjunction justification that is not negated"
  | noDeniedConjunction =>
      "Justifications must include a negated conjunction that contains the second justification " ++
        "as either its left or right component"
  | negatedNotConjunct =>
      "Negated formula must be either the left or right component of the conjunction justification"
  | conjunctAffirmed =>
      "Negated formula must be the component of the conjunction justification that is not affirmed"
  | chainNotConditional => "Justifications must all contain an arrow operator"
  | chainAntecedent =>
      "The antecedent of the formula must be the antecedent of one of the justifications"
  | chainBroken =>
      "Consequent of the first justification must be the antecedent of the second justification"
  | chainConsequent =>
      "Consequent of the formula must be the consequent of the second justification"
  | notDoublyNegated => "Formula or justification must contain 2 dash operators"
  | notEquivalent => "Invalid deduction"
  | contrapositionShape =>
      "Both the formula and the justification must contain an arrow operator"

end Violation
end NaturalDeduction
