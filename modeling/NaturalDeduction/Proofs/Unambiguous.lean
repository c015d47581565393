import NaturalDeduction.Formula.Basic

/-! The canonical text determines the formula. The text of an operand also shows where it ends,
since no operand's text is the beginning of another's: a letter, a negation sign and a parenthesis
start differently, and what a parenthesis opens is read off from the left. At the root the
parentheses are left out, and the space before the connective takes their place. -/
namespace NaturalDeduction

namespace Formula

theorem chars_atom {name : String} (lettered : (atom name).Lettered) :
    ∃ c, c ≠ '-' ∧ c ≠ '(' ∧ name = String.singleton c ∧ (atom name).chars true = [c] := by
  obtain ⟨c, alpha, rfl⟩ := lettered
  refine ⟨c, ?_, ?_, rfl, by simp [chars]⟩
  · rintro rfl
    cases alpha
  · rintro rfl
    cases alpha

theorem chars_neg_append (body : Formula) (rest : List Char) :
    (neg body).chars true ++ rest = '-' :: (body.chars true ++ rest) := rfl

theorem chars_binary_append (c : Connective) (left right : Formula) (rest : List Char) :
    (binary c left right).chars true ++ rest =
      '(' :: (left.chars true ++ ' ' :: c.glyph :: ' ' :: (right.chars true ++ ')' :: rest)) := by
  simp [chars]

/-- The text of an operand determines it, and where it ends in a longer text. -/
theorem chars_append_injective {f g : Formula} (hf : f.Lettered) (hg : g.Lettered)
    {u v : List Char} (same : f.chars true ++ u = g.chars true ++ v) : f = g ∧ u = v := by
  induction f generalizing g u v with
  | atom name =>
    obtain ⟨c, notDash, notOpen, rfl, spelled⟩ := chars_atom hf
    rw [spelled] at same
    cases g with
    | atom other =>
      obtain ⟨d, -, -, rfl, spelled⟩ := chars_atom hg
      rw [spelled] at same
      obtain ⟨rfl, rest⟩ := List.cons.inj same
      exact ⟨rfl, rest⟩
    | neg body => exact absurd (List.cons.inj same).1 notDash
    | binary d left right => exact absurd (List.cons.inj same).1 notOpen
  | neg body ih =>
    cases g with
    | atom other =>
      obtain ⟨d, notDash, -, -, spelled⟩ := chars_atom hg
      rw [spelled] at same
      exact absurd (List.cons.inj same).1.symm notDash
    | neg other =>
      rw [chars_neg_append, chars_neg_append] at same
      obtain ⟨rfl, rest⟩ := ih (g := other) hf hg (List.cons.inj same).2
      exact ⟨rfl, rest⟩
    | binary d left right => cases (List.cons.inj same).1
  | binary c left right ihl ihr =>
    cases g with
    | atom other =>
      obtain ⟨d, -, notOpen, -, spelled⟩ := chars_atom hg
      rw [spelled] at same
      exact absurd (List.cons.inj same).1.symm notOpen
    | neg other => cases (List.cons.inj same).1
    | binary d left' right' =>
      rw [chars_binary_append, chars_binary_append] at same
      obtain ⟨rfl, joint⟩ := ihl hf.1 hg.1 (List.cons.inj same).2
      simp only [List.cons.injEq, true_and] at joint
      obtain ⟨rfl, closed⟩ := ihr hf.2 hg.2 joint.2
      exact ⟨by rw [Connective.glyph_injective joint.1], (List.cons.inj closed).2⟩

theorem chars_true_ne_binary {f left right : Formula} (hf : f.Lettered) (hl : left.Lettered)
    (c : Connective) : f.chars true ≠ (binary c left right).chars false := by
  intro same
  have longer : f.chars true ++ [] =
      left.chars true ++ ' ' :: c.glyph :: ' ' :: right.chars true := by
    simpa [chars] using same
  cases (chars_append_injective hf hl longer).2

theorem chars_injective {f g : Formula} (hf : f.Lettered) (hg : g.Lettered) {grouped : Bool}
    (same : f.chars grouped = g.chars grouped) : f = g := by
  have operand (same : f.chars true = g.chars true) : f = g := by
    have extended : f.chars true ++ [] = g.chars true ++ [] := by rw [same]
    exact (chars_append_injective hf hg extended).1
  cases grouped with
  | true => exact operand same
  | false =>
    -- only a binary formula is written differently at the root
    cases f with
    | atom name =>
      cases g with
      | binary d left right => exact absurd same (chars_true_ne_binary hf hg.1 d)
      | _ => exact operand same
    | neg body =>
      cases g with
      | binary d left right => exact absurd same (chars_true_ne_binary hf hg.1 d)
      | _ => exact operand same
    | binary c left right =>
      cases g with
      | binary d left' right' =>
        have wrapped (c : Connective) (l r : Formula) :
            (binary c l r).chars true = '(' :: ((binary c l r).chars false ++ [')']) := rfl
        exact operand (by rw [wrapped, wrapped, same])
      | _ => exact absurd same.symm (chars_true_ne_binary hg hf.1 c)

theorem same_iff_eq {f g : Formula} (hf : f.Lettered) (hg : g.Lettered) : f.Same g ↔ f = g := by
  constructor
  · exact chars_injective hf hg
  · rintro rfl
    exact Same.refl f

end Formula

open Formula

/-- Two lettered formulas with one text, be it with or without parentheses around it, are one
formula, so sameness is equality. -/
theorem text_determines_formula {f g : Formula} (hf : f.Lettered) (hg : g.Lettered) :
    (f.Same g ↔ f = g) ∧ (f.text = g.text ↔ f = g) ∧ (f.operandText = g.operandText ↔ f = g) := by
  refine ⟨same_iff_eq hf hg, ?_, ?_, ?_⟩
  · rw [← same_iff_text, same_iff_eq hf hg]
  · intro same
    exact chars_injective hf hg (String.ofList_injective same)
  · rintro rfl
    rfl

theorem groupings_differ :
    let fromLeft := Formula.imp (.imp (atom "A") (atom "B")) (atom "C")
    let fromRight := Formula.imp (atom "A") (.imp (atom "B") (atom "C"))
    fromLeft.Lettered ∧ fromRight.Lettered ∧ ¬ fromLeft.Same fromRight ∧
    fromLeft.text ≠ fromRight.text ∧ fromLeft.operandText ≠ fromRight.operandText := by
  intro fromLeft fromRight
  have a : (atom "A").Lettered := ⟨'A', by decide, rfl⟩
  have b : (atom "B").Lettered := ⟨'B', by decide, rfl⟩
  have c : (atom "C").Lettered := ⟨'C', by decide, rfl⟩
  have left : fromLeft.Lettered := ⟨⟨a, b⟩, c⟩
  have right : fromRight.Lettered := ⟨a, b, c⟩
  have different : fromLeft ≠ fromRight := by decide
  obtain ⟨same, text, operand⟩ := text_determines_formula left right
  exact ⟨left, right, mt same.mp different, mt text.mp different, mt operand.mp different⟩

end NaturalDeduction
