import NaturalDeduction.Formula.Basic

/-! Two-valued meaning of formulas. A valuation gives every atom a truth value, and the
connectives have their usual tables. -/
namespace NaturalDeduction

abbrev Valuation := String → Bool

def Connective.table : Connective → Bool → Bool → Bool
  | conditional, p, q => !p || q
  | biconditional, p, q => p == q
  | disjunction, p, q => p || q
  | conjunction, p, q => p && q

namespace Formula

def eval (v : Valuation) : Formula → Bool
  | atom name => v name
  | neg body => !body.eval v
  | binary c left right => c.table (left.eval v) (right.eval v)

def Entailed (premises : List Formula) (f : Formula) : Prop :=
  ∀ v : Valuation, (∀ p ∈ premises, p.eval v = true) → f.eval v = true

theorem eval_neg (v : Valuation) (f : Formula) : (neg f).eval v = true ↔ ¬ f.eval v = true := by
  simp [eval]

theorem eval_imp (v : Valuation) (f g : Formula) :
    (imp f g).eval v = true ↔ (f.eval v = true → g.eval v = true) := by
  cases hf : f.eval v <;> simp [eval, Connective.table, hf]

theorem eval_iff (v : Valuation) (f g : Formula) :
    (iff f g).eval v = true ↔ (f.eval v = true ↔ g.eval v = true) := by
  cases hf : f.eval v <;> cases hg : g.eval v <;> simp [eval, Connective.table, hf, hg]

theorem eval_disj (v : Valuation) (f g : Formula) :
    (disj f g).eval v = true ↔ (f.eval v = true ∨ g.eval v = true) := by
  simp [eval, Connective.table]

theorem eval_conj (v : Valuation) (f g : Formula) :
    (conj f g).eval v = true ↔ (f.eval v = true ∧ g.eval v = true) := by
  simp [eval, Connective.table]

def subst (s : String → Formula) : Formula → Formula
  | atom name => s name
  | neg body => .neg (body.subst s)
  | binary c left right => .binary c (left.subst s) (right.subst s)

end Formula
end NaturalDeduction
