import NaturalDeduction.Operator

/-! Propositional formulas and their canonical text. Negation is written tight against its
body, a binary formula with one space on either side of its connective, and every binary
formula below the root stands in parentheses. Two formulas count as the same when their
canonical texts agree. -/
namespace NaturalDeduction

inductive Formula where
  | atom (name : String)
  | neg (body : Formula)
  | binary (connective : Connective) (left right : Formula)
  deriving DecidableEq, Repr

namespace Formula

@[match_pattern] abbrev imp (left right : Formula) : Formula := .binary .conditional left right
@[match_pattern] abbrev iff (left right : Formula) : Formula := .binary .biconditional left right
@[match_pattern] abbrev disj (left right : Formula) : Formula := .binary .disjunction left right
@[match_pattern] abbrev conj (left right : Formula) : Formula := .binary .conjunction left right

/-- Canonical text; `grouped` puts parentheses around a binary formula. -/
def chars (grouped : Bool) : Formula → List Char
  | atom name => name.toList
  | neg body => '-' :: body.chars true
  | binary c left right =>
      let inner := left.chars true ++ ' ' :: c.glyph :: ' ' :: right.chars true
      if grouped then '(' :: (inner ++ [')']) else inner

def text (f : Formula) : String := String.ofList (f.chars false)

def operandText (f : Formula) : String := String.ofList (f.chars true)

def depth : Formula → Nat
  | atom _ => 1
  | neg body => 1 + body.depth
  | binary _ left right => 1 + max left.depth right.depth

def atoms : Formula → List String
  | atom name => [name]
  | neg body => body.atoms
  | binary _ left right => left.atoms ++ right.atoms

def isAtom : Formula → Bool
  | atom _ => true
  | _ => false

/-- Sameness of formulas is equality of canonical text. -/
def Same (f g : Formula) : Prop := f.chars false = g.chars false

instance (f g : Formula) : Decidable (f.Same g) := inferInstanceAs (Decidable (_ = _))

theorem same_iff_text (f g : Formula) : f.Same g ↔ f.text = g.text := by
  constructor
  · intro same
    exact congrArg String.ofList same
  · intro same
    have lists := congrArg String.toList same
    simpa [Same, text, String.toList_ofList] using lists

@[simp] theorem Same.refl (f : Formula) : f.Same f := rfl

def denies : Formula → Formula → Bool
  | neg body, g => body.Same g
  | _, _ => false

def isContradiction : Formula → Bool
  | conj left right => left.denies right || right.denies left
  | _ => false

/-- Every atom is a single ASCII letter, as in every formula that can be read from text. -/
def Lettered : Formula → Prop
  | atom name => ∃ c : Char, c.isAlpha = true ∧ name = String.singleton c
  | neg body => body.Lettered
  | binary _ left right => left.Lettered ∧ right.Lettered

end Formula
end NaturalDeduction
