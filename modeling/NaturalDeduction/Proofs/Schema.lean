import NaturalDeduction.Formula.Semantics
import NaturalDeduction.Rule.Basic

/-! The schemata of the rules that look only at formulas. An instance gives what follows from which
citations, in the order in which the rule is usually stated. -/
namespace NaturalDeduction.Rule

inductive Twin : Rule → Formula → Formula → Prop where
  | doubleNegation (x : Formula) : Twin .doubleNegation x (.neg (.neg x))
  | negatedConj (x y : Formula) : Twin .deMorgan (.neg (.conj x y)) (.disj (.neg x) (.neg y))
  | negatedDisj (x y : Formula) : Twin .deMorgan (.neg (.disj x y)) (.conj (.neg x) (.neg y))
  | disjOfNegated (x y : Formula) : Twin .deMorgan (.disj x y) (.neg (.conj (.neg x) (.neg y)))
  | conjOfNegated (x y : Formula) : Twin .deMorgan (.conj x y) (.neg (.disj (.neg x) (.neg y)))
  | impDisj (x y : Formula) : Twin .arrow (.imp x y) (.disj (.neg x) y)
  | negatedImpDisj (x y : Formula) : Twin .arrow (.imp (.neg x) y) (.disj x y)
  | impConj (x y : Formula) : Twin .arrow (.imp x y) (.neg (.conj x (.neg y)))
  | negatedImp (x y : Formula) : Twin .arrow (.neg (.imp x y)) (.conj x (.neg y))
  | bothNegated (x y : Formula) : Twin .contraposition (.imp x y) (.imp (.neg y) (.neg x))
  | leftNegated (x y : Formula) : Twin .contraposition (.imp (.neg x) y) (.imp (.neg y) x)
  | rightNegated (x y : Formula) : Twin .contraposition (.imp x (.neg y)) (.imp y (.neg x))

/-- The instances of the rules that look only at formulas: what follows from which citations. -/
inductive Schema : Rule → Formula → List Formula → Prop where
  | impElim (x y : Formula) : Schema .impElim y [.imp x y, x]
  | iffElimForward (x y : Formula) : Schema .iffElim (.imp x y) [.iff x y]
  | iffElimBackward (x y : Formula) : Schema .iffElim (.imp y x) [.iff x y]
  | iffIntro (x y : Formula) : Schema .iffIntro (.iff x y) [.imp x y, .imp y x]
  | disjElim (x y z : Formula) : Schema .disjElim z [.disj x y, .imp x z, .imp y z]
  | disjIntroLeft (x y : Formula) : Schema .disjIntro (.disj x y) [x]
  | disjIntroRight (x y : Formula) : Schema .disjIntro (.disj x y) [y]
  | conjElimLeft (x y : Formula) : Schema .conjElim x [.conj x y]
  | conjElimRight (x y : Formula) : Schema .conjElim y [.conj x y]
  | conjIntro (x y : Formula) : Schema .conjIntro (.conj x y) [x, y]
  | modusTollens (x y : Formula) : Schema .modusTollens (.neg x) [.neg y, .imp x y]
  | deniedLeft (x y : Formula) : Schema .disjunctiveArgument y [.disj x y, .neg x]
  | deniedRight (x y : Formula) : Schema .disjunctiveArgument x [.disj x y, .neg y]
  | affirmedLeft (x y : Formula) : Schema .conjunctiveArgument (.neg y) [.neg (.conj x y), x]
  | affirmedRight (x y : Formula) : Schema .conjunctiveArgument (.neg x) [.neg (.conj x y), y]
  | chain (x y z : Formula) : Schema .chain (.imp x z) [.imp x y, .imp y z]
  | twin {rule : Rule} {f g : Formula} : Twin rule f g → Schema rule f [g]
  | twinBack {rule : Rule} {f g : Formula} : Twin rule g f → Schema rule f [g]

theorem Schema.length_eq {rule : Rule} {f : Formula} {gs : List Formula}
    (schema : Schema rule f gs) : gs.length = rule.arity := by
  cases schema with
  | twin twin => cases twin <;> rfl
  | twinBack twin => cases twin <;> rfl
  | _ => rfl

theorem Schema.cites_keeps {rule : Rule} {f : Formula} {gs : List Formula}
    (schema : Schema rule f gs) : rule.arity ≠ 0 ∧ rule.discharges = false := by
  cases schema with
  | twin twin => cases twin <;> decide
  | twinBack twin => cases twin <;> decide
  | _ => decide

def isStructural : Rule → Bool
  | impElim | iffElim | iffIntro | disjElim | disjIntro | conjElim | conjIntro | modusTollens
  | disjunctiveArgument | conjunctiveArgument | chain => true
  | _ => false

def isEquivalence : Rule → Bool
  | doubleNegation | deMorgan | arrow | contraposition => true
  | _ => false

theorem cites_keeps_iff {rule : Rule} :
    rule.arity ≠ 0 ∧ rule.discharges = false ↔
      rule.isStructural = true ∨ rule.isEquivalence = true := by
  cases rule <;> decide

theorem cites_keeps_of_isStructural {rule : Rule} (structural : rule.isStructural = true) :
    rule.arity ≠ 0 ∧ rule.discharges = false :=
  cites_keeps_iff.mpr (.inl structural)

theorem Twin.isEquivalence_eq {rule : Rule} {f g : Formula} (twin : Twin rule f g) :
    rule.isEquivalence = true := by
  cases twin <;> rfl

theorem schema_iff_twin {rule : Rule} {f g : Formula} (equivalence : rule.isEquivalence = true) :
    Schema rule f [g] ↔ Twin rule f g ∨ Twin rule g f := by
  constructor
  · intro schema
    cases schema with
    | twin twin => exact .inl twin
    | twinBack twin => exact .inr twin
    | _ => cases equivalence
  · rintro (twin | twin)
    · exact .twin twin
    · exact .twinBack twin

open Formula in
theorem Twin.eval_eq {rule : Rule} {f g : Formula} (twin : Twin rule f g) (v : Valuation) :
    f.eval v = g.eval v := by
  cases twin <;> simp [eval, Connective.table, Bool.or_comm]

open Formula in
theorem Schema.sound {rule : Rule} {f : Formula} {gs : List Formula} (schema : Schema rule f gs)
    {v : Valuation} (holds : ∀ g ∈ gs, g.eval v = true) : f.eval v = true := by
  cases schema with
  | twin twin =>
    rw [twin.eval_eq v]
    exact holds _ (List.mem_cons_self ..)
  | twinBack twin =>
    rw [← twin.eval_eq v]
    exact holds _ (List.mem_cons_self ..)
  | _ =>
    simp only [List.forall_mem_cons, eval_neg, eval_imp, eval_iff, eval_disj, eval_conj] at holds ⊢
    grind

end NaturalDeduction.Rule
