import NaturalDeduction.Line
import NaturalDeduction.Rule.Violation

/-! Whether a formula follows from the cited lines by a rule. Each check names the first
precondition that is not met. Sameness of formulas is sameness of text, while "is a conditional"
and the like look at the outermost connective. Where the order of two citations is free, the
order given is tried before the other. -/
namespace NaturalDeduction

inductive Objection where
  | violation (cause : Violation)
  | fault (cause : Fault)
  deriving DecidableEq, Repr

def Objection.message : Objection → String
  | violation cause => cause.message
  | fault cause => cause.message

abbrev Verdict := Except Objection Unit

namespace Verdict

def object (cause : Violation) : Verdict := .error (.violation cause)

def require (condition : Prop) [Decidable condition] (otherwise : Violation) : Verdict :=
  if condition then .ok () else object otherwise

@[simp] theorem require_eq_ok (condition : Prop) [Decidable condition] (otherwise : Violation) :
    require condition otherwise = .ok () ↔ condition := by
  by_cases holds : condition <;> simp [require, object, holds]

end Verdict

namespace Rule.Check
open Verdict

def eitherOrder {α β : Type} (pick : α → α → Option β) (a b : α) : Option β :=
  match pick a b with
  | some found => some found
  | none => pick b a

def isConditional : Formula → Bool
  | .imp _ _ => true
  | _ => false

/-- The two lists hold the same formulas, each as often, in any order. -/
def sameFormulas (fs gs : List Formula) : Bool :=
  (fs.map (Formula.chars false)).isPerm (gs.map (Formula.chars false))

def consequent? : Formula → Formula → Option Formula
  | .imp p q, g => if p.Same g then some q else none
  | _, _ => none

def impElim (f a b : Formula) : Verdict :=
  match eitherOrder consequent? a b with
  | some q => require (q.Same f) .notConsequent
  | none => object .noConditionalWithAntecedent

def supposed? (s d : Line) : Option (Line × Line) :=
  if s.isSupposition then some (s, d) else none

def requireRests (lines : List Line) (s d : Line) (otherwise : Violation) : Verdict := do
  let dependencies ← (d.dependencies lines).mapError .fault
  require (s.index ∈ dependencies) otherwise

def impIntro (lines : List Line) (f : Formula) (a b : Line) : Verdict :=
  match f with
  | .imp p q =>
      match eitherOrder supposed? a b with
      | some (s, d) => do
          requireRests lines s d .derivedIndependent
          require (p.Same s.formula) .antecedentNotSupposition
          require (q.Same d.formula) .consequentNotDerived
      | none => object .noSupposition
  | _ => object (.formulaLacks (.binary .conditional))

def iffElim (f a : Formula) : Verdict :=
  match a, f with
  | .iff l r, .imp p q =>
      require ((p.Same l ∧ q.Same r) ∨ (p.Same r ∧ q.Same l)) .componentsDiffer
  | .iff _ _, _ => object (.formulaLacks (.binary .conditional))
  | _, _ => object (.citationLacks (.binary .biconditional))

def iffIntro (f a b : Formula) : Verdict :=
  match f with
  | .iff l r => do
      require (isConditional a ∧ isConditional b) .citationsNotConditional
      require (a.Same (.imp l r) ∨ b.Same (.imp l r)) .forwardMissing
      require (a.Same (.imp r l) ∨ b.Same (.imp r l)) .backwardMissing
      require (sameFormulas [a, b] [.imp l r, .imp r l]) .notTheTwoConditionals
  | _ => object (.formulaLacks (.binary .biconditional))

def disjuncts? : Formula → Option (Formula × Formula)
  | .disj l r => some (l, r)
  | _ => none

def parts? : Formula → Option (Formula × Formula)
  | .imp p q => some (p, q)
  | _ => none

/-- The first disjunction is split into cases; the first formula with its text is set aside, and
the other two lead from the cases to `f`. -/
def disjElim (f : Formula) (cited : List Formula) : Verdict :=
  match cited.findSome? disjuncts? with
  | some (l, r) =>
      match (cited.eraseP (·.Same (.disj l r))).mapM parts? with
      | some conditionals => do
          require (∀ c ∈ conditionals, c.2.Same f) .consequentsDiffer
          require (sameFormulas [l, r] (conditionals.map Prod.fst)) .antecedentsNotDisjuncts
      | none => object .othersNotConditional
  | none => object .noDisjunction

def disjIntro (f a : Formula) : Verdict :=
  match f with
  | .disj l r => require (l.Same a ∨ r.Same a) .citationNotDisjunct
  | _ => object (.formulaLacks (.binary .disjunction))

def conjElim (f a : Formula) : Verdict :=
  match a with
  | .conj l r => require (l.Same f ∨ r.Same f) .notConjunct
  | _ => object (.citationLacks (.binary .conjunction))

def conjIntro (f a b : Formula) : Verdict :=
  match f with
  | .conj l r => do
      require (l.Same a ∨ l.Same b) .leftNotCited
      require (r.Same a ∨ r.Same b) .rightNotCited
      require (sameFormulas [a, b] [l, r]) .notTheTwoConjuncts
  | _ => object (.formulaLacks (.binary .conjunction))

def reductio? (s c : Line) : Option (Line × Line) :=
  if s.isSupposition ∧ c.formula.isContradiction then some (s, c) else none

def negElim (lines : List Line) (f : Formula) (a b : Line) : Verdict :=
  match eitherOrder reductio? a b with
  | some (s, c) =>
      match s.formula with
      | .neg body => do
          require (body.Same f) .notNegationOfSupposition
          requireRests lines s c .contradictionIndependent
      | _ => object .suppositionNotNegated
  | none => object .noSuppositionWithContradiction

def negIntro (lines : List Line) (f : Formula) (a b : Line) : Verdict :=
  match f with
  | .neg body =>
      match eitherOrder reductio? a b with
      | some (s, c) => do
          require (body.Same s.formula) .notNegationOfSupposition
          requireRests lines s c .contradictionIndependent
      | none => object .noSuppositionWithContradiction
  | _ => object (.formulaLacks .negation)

def denialAndParts? : Formula → Formula → Option (Formula × Formula × Formula)
  | .neg denied, .imp p q => some (denied, p, q)
  | _, _ => none

def modusTollens (f a b : Formula) : Verdict :=
  match f with
  | .neg body =>
      match eitherOrder denialAndParts? a b with
      | some (denied, p, q) => do
          require (p.Same body) .antecedentNotNegated
          require (q.Same denied) .consequentNotDenied
      | none => object .noNegationWithConditional
  | _ => object (.formulaLacks .negation)

def deniedDisjunct? : Formula → Formula → Option (Formula × Formula × Formula)
  | .disj l r, .neg denied => if denied.Same l ∨ denied.Same r then some (l, r, denied) else none
  | _, _ => none

def disjunctiveArgument (f a b : Formula) : Verdict :=
  match eitherOrder deniedDisjunct? a b with
  | some (l, r, denied) => do
      require (f.Same l ∨ f.Same r) .notDisjunct
      require ((l.Same denied ∧ f.Same r) ∨ (r.Same denied ∧ f.Same l)) .disjunctDenied
  | none => object .noDeniedDisjunct

def deniedConjunction? : Formula → Formula → Option (Formula × Formula × Formula)
  | .neg (.conj l r), affirmed =>
      if affirmed.Same l ∨ affirmed.Same r then some (l, r, affirmed) else none
  | _, _ => none

def conjunctiveArgument (f a b : Formula) : Verdict :=
  match f with
  | .neg body =>
      match eitherOrder deniedConjunction? a b with
      | some (l, r, affirmed) => do
          require (body.Same l ∨ body.Same r) .negatedNotConjunct
          require ((l.Same affirmed ∧ body.Same r) ∨ (r.Same affirmed ∧ body.Same l))
            .conjunctAffirmed
      | none => object .noDeniedConjunction
  | _ => object (.formulaLacks .negation)

def requireLink (q a₂ b₁ b₂ : Formula) : Verdict := do
  require (a₂.Same b₁) .chainBroken
  require (b₂.Same q) .chainConsequent

def chain (f a b : Formula) : Verdict :=
  match f with
  | .imp p q =>
      match a, b with
      | .imp a₁ a₂, .imp b₁ b₂ =>
          if a₁.Same p ∧ a₂.Same b₁ ∧ b₂.Same q then .ok ()
          else if b₁.Same p ∧ b₂.Same a₁ ∧ a₂.Same q then .ok ()
          else if a₁.Same p then requireLink q a₂ b₁ b₂
          else if b₁.Same p then requireLink q b₂ a₁ a₂
          else object .chainAntecedent
      | _, _ => object .chainNotConditional
  | _ => object (.formulaLacks (.binary .conditional))

def doubleNegation (f a : Formula) : Verdict :=
  require (f.chars true = '-' :: '-' :: a.chars true ∨ '-' :: '-' :: f.chars true = a.chars true)
    .notDoublyNegated

/-- Each side of one pair denies the side of the other pair opposite it. -/
def sidesDeny (l r x y : Formula) : Bool :=
  (l.denies x && r.denies y) || (x.denies l && y.denies r)

def deMorganFrom : Formula → Formula → Bool
  | .conj l r, .neg (.disj x y) => sidesDeny l r x y
  | .disj l r, .neg (.conj x y) => sidesDeny l r x y
  | _, _ => false

def arrowFrom : Formula → Formula → Bool
  | .conj l r, .neg (.imp p q) => p.Same l && r.denies q
  | .disj l r, .imp p q => (l.denies p || p.denies l) && q.Same r
  | .neg (.conj l r), .imp p q => p.Same l && r.denies q
  | _, _ => false

def contrapositionFrom : Formula → Formula → Bool
  | .imp a b, .imp p q =>
      (a.denies q && b.denies p) || (p.denies b && q.denies a) ||
        (p.denies b && a.denies q) || (q.denies a && b.denies p)
  | _, _ => false

def reciprocal (holds : Formula → Formula → Bool) (f a : Formula) : Verdict :=
  require (holds f a ∨ holds a f) .notEquivalent

def contraposition (f a : Formula) : Verdict := do
  require (isConditional f ∧ isConditional a) .contrapositionShape
  reciprocal contrapositionFrom f a

def noLines : List Line → Verdict
  | [] => .ok ()
  | _ => object (.citationCount 0)

def oneLine (check : Line → Verdict) : List Line → Verdict
  | [a] => check a
  | _ => object (.citationCount 1)

def twoLines (check : Line → Line → Verdict) : List Line → Verdict
  | [a, b] => check a b
  | _ => object (.citationCount 2)

def threeLines (check : Line → Line → Line → Verdict) : List Line → Verdict
  | [a, b, c] => check a b c
  | _ => object (.citationCount 3)

end Rule.Check

namespace Rule
open Check

/-- Check `f` against the cited lines of a proof. The count of citations is looked at first. -/
def evaluate (lines : List Line) (f : Formula) : Rule → List Line → Verdict
  | .assumption => noLines
  | .impElim => twoLines fun a b => Check.impElim f a.formula b.formula
  | .impIntro => twoLines fun a b => Check.impIntro lines f a b
  | .iffElim => oneLine fun a => Check.iffElim f a.formula
  | .iffIntro => twoLines fun a b => Check.iffIntro f a.formula b.formula
  | .disjElim => threeLines fun a b c => Check.disjElim f [a.formula, b.formula, c.formula]
  | .disjIntro => oneLine fun a => Check.disjIntro f a.formula
  | .conjElim => oneLine fun a => Check.conjElim f a.formula
  | .conjIntro => twoLines fun a b => Check.conjIntro f a.formula b.formula
  | .negElim => twoLines fun a b => Check.negElim lines f a b
  | .negIntro => twoLines fun a b => Check.negIntro lines f a b
  | .supposition => noLines
  | .modusTollens => twoLines fun a b => Check.modusTollens f a.formula b.formula
  | .disjunctiveArgument => twoLines fun a b => Check.disjunctiveArgument f a.formula b.formula
  | .conjunctiveArgument => twoLines fun a b => Check.conjunctiveArgument f a.formula b.formula
  | .chain => twoLines fun a b => Check.chain f a.formula b.formula
  | .doubleNegation => oneLine fun a => Check.doubleNegation f a.formula
  | .deMorgan => oneLine fun a => reciprocal deMorganFrom f a.formula
  | .arrow => oneLine fun a => reciprocal arrowFrom f a.formula
  | .contraposition => oneLine fun a => Check.contraposition f a.formula

end Rule
end NaturalDeduction
