import NaturalDeduction.Proofs.Outcome
import NaturalDeduction.Proofs.Schema
import NaturalDeduction.Proofs.Unambiguous
import NaturalDeduction.Rule.Evaluate

/-! What the rules accept that cite one or two lines and look only at formulas. The checks commit to
the first order of the citations that fits and compare texts; on lettered formulas neither loses
or adds an instance, so each check accepts exactly the instances of its rule's schema in either
order of the citations. -/
namespace NaturalDeduction
open Outcome Formula

theorem perm_pair {α : Type} {a b : α} {l : List α} :
    l.Perm [a, b] ↔ l = [a, b] ∨ l = [b, a] := by
  constructor
  · intro perm
    match l, perm.length_eq with
    | [x, y], _ =>
      have member : x = a ∨ x = b := by simpa using perm.mem_iff.mp (List.mem_cons_self ..)
      rcases member with rfl | rfl
      · have rest := List.perm_singleton.mp perm.cons_inv
        simp_all
      · have rest := List.perm_singleton.mp (perm.trans (List.Perm.swap ..)).cons_inv
        simp_all
  · rintro (rfl | rfl)
    · exact .refl _
    · exact .swap ..

theorem perm_triple {α : Type} {a b c : α} {l : List α} :
    l.Perm [a, b, c] ↔ (l = [a, b, c] ∨ l = [a, c, b]) ∨ (l = [b, a, c] ∨ l = [b, c, a]) ∨
      (l = [c, a, b] ∨ l = [c, b, a]) := by
  constructor
  · intro perm
    match l, perm.length_eq with
    | x :: rest, _ =>
      have member : x = a ∨ x = b ∨ x = c := by simpa using perm.mem_iff.mp (List.mem_cons_self ..)
      rcases member with rfl | rfl | rfl
      · simpa using .inl (perm_pair.mp perm.cons_inv)
      · have front : [a, x, c].Perm [x, a, c] := .swap ..
        simpa using .inr (.inl (perm_pair.mp (perm.trans front).cons_inv))
      · have front : [a, b, x].Perm [x, a, b] := @List.perm_append_comm _ [a, b] [x]
        simpa using .inr (.inr (perm_pair.mp (perm.trans front).cons_inv))
  · rintro ((rfl | rfl) | (rfl | rfl) | (rfl | rfl))
    · exact .refl _
    · exact .cons _ (.swap ..)
    · exact .swap ..
    · exact @List.perm_append_comm _ [b, c] [a]
    · exact @List.perm_append_comm _ [c] [a, b]
    · exact List.reverse_perm [a, b, c]

namespace Formula

theorem lettered_neg {f : Formula} : (neg f).Lettered ↔ f.Lettered := Iff.rfl

theorem denies_iff {f g : Formula} (hf : f.Lettered) (hg : g.Lettered) :
    f.denies g = true ↔ f = .neg g := by
  cases f with
  | neg body => simp [denies, same_iff_eq (lettered_neg.mp hf) hg]
  | _ => simp [denies]

end Formula

namespace Verdict

@[simp] theorem object_ne_ok (cause : Violation) : object cause ≠ .ok () := nofun

@[simp] theorem both_eq_ok {first : Verdict} {rest : Unit → Verdict} :
    (first >>= rest) = .ok () ↔ first = .ok () ∧ rest () = .ok () := by
  cases first with
  | error e => simp
  | ok u => simp

end Verdict

namespace Rule.Check
open Verdict

theorem sameFormulas_pair {a b c d : Formula} (ha : a.Lettered) (hb : b.Lettered)
    (hc : c.Lettered) (hd : d.Lettered) :
    sameFormulas [a, b] [c, d] = true ↔ a = c ∧ b = d ∨ a = d ∧ b = c := by
  have text {f g : Formula} (hf : f.Lettered) (hg : g.Lettered) :
      f.chars false = g.chars false ↔ f = g := same_iff_eq hf hg
  simp [sameFormulas, List.isPerm_iff, perm_pair, *]

/-- Where at most one order of two citations fits, trying the given order first loses nothing. -/
theorem eitherOrder_eq_some {α β : Type} {pick : α → α → Option β} {a b : α} {found : β}
    (exclusive : ∀ x y, pick a b = some x → pick b a ≠ some y) :
    eitherOrder pick a b = some found ↔ pick a b = some found ∨ pick b a = some found := by
  unfold eitherOrder
  cases first : pick a b with
  | none => simp
  | some x =>
    have other := exclusive x found first
    simp [other]

theorem consequent?_eq_some {a g q : Formula} (ha : a.Lettered) (hg : g.Lettered) :
    consequent? a g = some q ↔ a = .imp g q := by
  unfold consequent?
  split
  next p r => simp [same_iff_eq ha.1 hg]
  next noImp => simpa using fun same => noImp _ _ same

theorem impElim_iff {f a b : Formula} (hf : f.Lettered) (ha : a.Lettered) (hb : b.Lettered) :
    impElim f a b = .ok () ↔ Schema .impElim f [a, b] ∨ Schema .impElim f [b, a] := by
  have exclusive : ∀ x y, consequent? a b = some x → consequent? b a ≠ some y := by
    intro x y first second
    rw [consequent?_eq_some ha hb] at first
    rw [consequent?_eq_some hb ha] at second
    have size := congrArg sizeOf (first.trans (congrArg (Formula.imp · x) second))
    simp at size
    omega
  have picks : impElim f a b = .ok () ↔ ∃ q, eitherOrder consequent? a b = some q ∧ q.Same f := by
    unfold impElim
    split <;> simp_all
  simp only [picks, eitherOrder_eq_some exclusive, consequent?_eq_some ha hb,
    consequent?_eq_some hb ha]
  constructor
  · rintro ⟨q, rfl | rfl, same⟩
    · cases (same_iff_eq ha.2 hf).mp same
      exact .inl (.impElim ..)
    · cases (same_iff_eq hb.2 hf).mp same
      exact .inr (.impElim ..)
  · rintro (schema | schema) <;> cases schema
    · exact ⟨f, .inl rfl, Same.refl f⟩
    · exact ⟨f, .inr rfl, Same.refl f⟩

theorem schema_iffElim {f a : Formula} :
    Schema .iffElim f [a] ↔ ∃ x y, a = .iff x y ∧ (f = .imp x y ∨ f = .imp y x) := by
  constructor
  · intro schema
    cases schema with
    | iffElimForward x y => exact ⟨x, y, rfl, .inl rfl⟩
    | iffElimBackward x y => exact ⟨x, y, rfl, .inr rfl⟩
    | twin twin => cases twin.isEquivalence_eq
    | twinBack twin => cases twin.isEquivalence_eq
  · rintro ⟨x, y, rfl, rfl | rfl⟩
    · exact .iffElimForward ..
    · exact .iffElimBackward ..

theorem iffElim_iff {f a : Formula} (hf : f.Lettered) (ha : a.Lettered) :
    iffElim f a = .ok () ↔ Schema .iffElim f [a] := by
  rw [schema_iffElim]
  unfold iffElim
  split
  next l r p q =>
    simp only [require_eq_ok, same_iff_eq hf.1 ha.1, same_iff_eq hf.1 ha.2,
      same_iff_eq hf.2 ha.1, same_iff_eq hf.2 ha.2]
    constructor
    · rintro (⟨rfl, rfl⟩ | ⟨rfl, rfl⟩)
      · exact ⟨p, q, rfl, .inl rfl⟩
      · exact ⟨q, p, rfl, .inr rfl⟩
    · rintro ⟨x, y, same, or | or⟩ <;> cases same <;> cases or <;> simp
  next l r notImp => simpa using ⟨notImp l r, notImp r l⟩
  next notIff _ => simpa using fun x y same => absurd same (notIff x y)

theorem iffIntro_iff {f a b : Formula} (hf : f.Lettered) (ha : a.Lettered) (hb : b.Lettered) :
    iffIntro f a b = .ok () ↔ Schema .iffIntro f [a, b] ∨ Schema .iffIntro f [b, a] := by
  unfold iffIntro
  split
  next l r =>
    have forward : (Formula.imp l r).Lettered := hf
    have backward : (Formula.imp r l).Lettered := hf.symm
    simp only [both_eq_ok, require_eq_ok, same_iff_eq, sameFormulas_pair, ha, hb, forward, backward]
    constructor
    · rintro ⟨-, -, -, ⟨rfl, rfl⟩ | ⟨rfl, rfl⟩⟩
      · exact .inl (.iffIntro ..)
      · exact .inr (.iffIntro ..)
    · rintro (schema | schema) <;> cases schema <;> simp [isConditional]
  next notIff =>
    simp only [object_ne_ok, false_iff]
    rintro (schema | schema) <;> cases schema <;> exact notIff _ _ rfl

theorem schema_disjIntro {f a : Formula} :
    Schema .disjIntro f [a] ↔ ∃ x, f = .disj a x ∨ f = .disj x a := by
  constructor
  · intro schema
    cases schema with
    | disjIntroLeft x y => exact ⟨y, .inl rfl⟩
    | disjIntroRight x y => exact ⟨x, .inr rfl⟩
    | twin twin => cases twin.isEquivalence_eq
    | twinBack twin => cases twin.isEquivalence_eq
  · rintro ⟨x, rfl | rfl⟩
    · exact .disjIntroLeft ..
    · exact .disjIntroRight ..

theorem disjIntro_iff {f a : Formula} (hf : f.Lettered) (ha : a.Lettered) :
    disjIntro f a = .ok () ↔ Schema .disjIntro f [a] := by
  rw [schema_disjIntro]
  unfold disjIntro
  split
  next l r =>
    simp only [require_eq_ok, same_iff_eq hf.1 ha, same_iff_eq hf.2 ha]
    constructor
    · rintro (rfl | rfl)
      · exact ⟨r, .inl rfl⟩
      · exact ⟨l, .inr rfl⟩
    · rintro ⟨x, same | same⟩ <;> cases same <;> simp
  next notDisj => simpa using fun x => ⟨notDisj a x, notDisj x a⟩

theorem schema_conjElim {f a : Formula} :
    Schema .conjElim f [a] ↔ ∃ x, a = .conj f x ∨ a = .conj x f := by
  constructor
  · intro schema
    cases schema with
    | conjElimLeft x y => exact ⟨y, .inl rfl⟩
    | conjElimRight x y => exact ⟨x, .inr rfl⟩
    | twin twin => cases twin.isEquivalence_eq
    | twinBack twin => cases twin.isEquivalence_eq
  · rintro ⟨x, rfl | rfl⟩
    · exact .conjElimLeft ..
    · exact .conjElimRight ..

theorem conjElim_iff {f a : Formula} (hf : f.Lettered) (ha : a.Lettered) :
    conjElim f a = .ok () ↔ Schema .conjElim f [a] := by
  rw [schema_conjElim]
  unfold conjElim
  split
  next l r =>
    simp only [require_eq_ok, same_iff_eq ha.1 hf, same_iff_eq ha.2 hf]
    constructor
    · rintro (rfl | rfl)
      · exact ⟨r, .inl rfl⟩
      · exact ⟨l, .inr rfl⟩
    · rintro ⟨x, same | same⟩ <;> cases same <;> simp
  next notConj => simpa using fun x => ⟨notConj f x, notConj x f⟩

theorem conjIntro_iff {f a b : Formula} (hf : f.Lettered) (ha : a.Lettered) (hb : b.Lettered) :
    conjIntro f a b = .ok () ↔ Schema .conjIntro f [a, b] ∨ Schema .conjIntro f [b, a] := by
  unfold conjIntro
  split
  next l r =>
    simp only [both_eq_ok, require_eq_ok, same_iff_eq, sameFormulas_pair, hf.1, hf.2, ha, hb]
    constructor
    · rintro ⟨-, -, ⟨rfl, rfl⟩ | ⟨rfl, rfl⟩⟩
      · exact .inl (.conjIntro ..)
      · exact .inr (.conjIntro ..)
    · rintro (schema | schema) <;> cases schema <;> simp
  next notConj =>
    simp only [object_ne_ok, false_iff]
    rintro (schema | schema) <;> cases schema <;> exact notConj _ _ rfl

theorem denialAndParts?_eq_some {a b d p q : Formula} :
    denialAndParts? a b = some (d, p, q) ↔ a = .neg d ∧ b = .imp p q := by
  unfold denialAndParts?
  split
  next => simp
  next neither => simpa using fun first second => neither _ _ _ first second

theorem modusTollens_iff {f a b : Formula} (hf : f.Lettered) (ha : a.Lettered)
    (hb : b.Lettered) :
    modusTollens f a b = .ok () ↔
      Schema .modusTollens f [a, b] ∨ Schema .modusTollens f [b, a] := by
  have exclusive : ∀ x y, denialAndParts? a b = some x → denialAndParts? b a ≠ some y := by
    rintro ⟨d, p, q⟩ ⟨e, r, s⟩ first second
    rw [denialAndParts?_eq_some] at first second
    cases first.1.symm.trans second.2
  cases f with
  | neg body =>
    have picks : modusTollens (.neg body) a b = .ok () ↔ ∃ found,
        eitherOrder denialAndParts? a b = some found ∧
          found.2.1.Same body ∧ found.2.2.Same found.1 := by
      simp only [modusTollens]
      split <;> simp_all
    rw [lettered_neg] at hf
    simp only [picks, eitherOrder_eq_some exclusive]
    constructor
    · rintro ⟨⟨d, p, q⟩, found, left, right⟩
      simp only [denialAndParts?_eq_some] at found
      rcases found with ⟨rfl, rfl⟩ | ⟨rfl, rfl⟩
      · rw [lettered_neg] at ha
        cases (same_iff_eq hb.1 hf).mp left
        cases (same_iff_eq hb.2 ha).mp right
        exact .inl (.modusTollens ..)
      · rw [lettered_neg] at hb
        cases (same_iff_eq ha.1 hf).mp left
        cases (same_iff_eq ha.2 hb).mp right
        exact .inr (.modusTollens ..)
    · rintro (schema | schema) <;> cases schema
      · exact ⟨_, .inl rfl, Same.refl _, Same.refl _⟩
      · exact ⟨_, .inr rfl, Same.refl _, Same.refl _⟩
  | _ =>
    simp only [modusTollens, object_ne_ok, false_iff]
    rintro (schema | schema) <;> cases schema

theorem deniedDisjunct?_eq_some {a b l r d : Formula} (ha : a.Lettered) (hb : b.Lettered) :
    deniedDisjunct? a b = some (l, r, d) ↔ a = .disj l r ∧ b = .neg d ∧ (d = l ∨ d = r) := by
  unfold deniedDisjunct?
  split
  next x y e =>
    rw [lettered_neg] at hb
    simp only [same_iff_eq hb ha.1, same_iff_eq hb ha.2]
    constructor
    · intro found
      split at found
      next either =>
        cases found
        exact ⟨rfl, rfl, either⟩
      next => cases found
    · rintro ⟨first, second, either⟩
      cases first
      cases second
      exact if_pos either
  next neither => simpa using fun first second => absurd second (neither _ _ _ first)

theorem remaining_iff {f l r d : Formula} (hf : f.Lettered) (hl : l.Lettered) (hr : r.Lettered)
    (hd : d.Lettered) :
    (f.Same l ∨ f.Same r) ∧ (l.Same d ∧ f.Same r ∨ r.Same d ∧ f.Same l) ↔
      l = d ∧ r = f ∨ r = d ∧ l = f := by
  simp only [same_iff_eq, hf, hl, hr, hd]
  constructor
  · rintro ⟨-, ⟨rfl, rfl⟩ | ⟨rfl, rfl⟩⟩ <;> simp
  · rintro (⟨rfl, rfl⟩ | ⟨rfl, rfl⟩) <;> simp

theorem disjunctiveArgument_iff {f a b : Formula} (hf : f.Lettered) (ha : a.Lettered)
    (hb : b.Lettered) :
    disjunctiveArgument f a b = .ok () ↔
      Schema .disjunctiveArgument f [a, b] ∨ Schema .disjunctiveArgument f [b, a] := by
  have exclusive : ∀ x y, deniedDisjunct? a b = some x → deniedDisjunct? b a ≠ some y := by
    rintro ⟨l, r, d⟩ ⟨l', r', d'⟩ first second
    rw [deniedDisjunct?_eq_some ha hb] at first
    rw [deniedDisjunct?_eq_some hb ha] at second
    cases first.1.symm.trans second.2.1
  have picks : disjunctiveArgument f a b = .ok () ↔ ∃ found,
      eitherOrder deniedDisjunct? a b = some found ∧ (f.Same found.1 ∨ f.Same found.2.1) ∧
        (found.1.Same found.2.2 ∧ f.Same found.2.1 ∨
          found.2.1.Same found.2.2 ∧ f.Same found.1) := by
    unfold disjunctiveArgument
    split <;> simp_all
  simp only [picks, eitherOrder_eq_some exclusive]
  constructor
  · rintro ⟨⟨l, r, d⟩, found, remains⟩
    simp only [deniedDisjunct?_eq_some ha hb, deniedDisjunct?_eq_some hb ha] at found
    rcases found with ⟨rfl, rfl, -⟩ | ⟨rfl, rfl, -⟩
    · rcases (remaining_iff hf ha.1 ha.2 (lettered_neg.mp hb)).mp remains with
        ⟨rfl, rfl⟩ | ⟨rfl, rfl⟩
      · exact .inl (.deniedLeft ..)
      · exact .inl (.deniedRight ..)
    · rcases (remaining_iff hf hb.1 hb.2 (lettered_neg.mp ha)).mp remains with
        ⟨rfl, rfl⟩ | ⟨rfl, rfl⟩
      · exact .inr (.deniedLeft ..)
      · exact .inr (.deniedRight ..)
  · rintro (schema | schema) <;> cases schema with
    | deniedLeft x => exact ⟨(x, f, x), by simp [deniedDisjunct?]⟩
    | deniedRight _ x => exact ⟨(f, x, x), by simp [deniedDisjunct?]⟩

theorem deniedConjunction?_eq_some {a b l r g : Formula} (ha : a.Lettered) (hb : b.Lettered) :
    deniedConjunction? a b = some (l, r, g) ↔
      a = .neg (.conj l r) ∧ b = g ∧ (g = l ∨ g = r) := by
  unfold deniedConjunction?
  split
  next x y =>
    rw [lettered_neg] at ha
    simp only [same_iff_eq hb ha.1, same_iff_eq hb ha.2]
    constructor
    · intro found
      split at found
      next either =>
        cases found
        exact ⟨rfl, rfl, either⟩
      next => cases found
    · rintro ⟨first, rfl, either⟩
      cases first
      exact if_pos either
  next neither => simpa using fun first => absurd first (neither _ _)

theorem conjunctiveArgument_iff {f a b : Formula} (hf : f.Lettered) (ha : a.Lettered)
    (hb : b.Lettered) :
    conjunctiveArgument f a b = .ok () ↔
      Schema .conjunctiveArgument f [a, b] ∨ Schema .conjunctiveArgument f [b, a] := by
  have exclusive : ∀ x y, deniedConjunction? a b = some x → deniedConjunction? b a ≠ some y := by
    rintro ⟨l, r, g⟩ ⟨l', r', g'⟩ first second
    rw [deniedConjunction?_eq_some ha hb] at first
    rw [deniedConjunction?_eq_some hb ha] at second
    obtain ⟨outer, rfl, side⟩ := first
    obtain ⟨inner, rfl, side'⟩ := second
    have outerSize := congrArg sizeOf outer
    have innerSize := congrArg sizeOf inner
    simp only [neg.sizeOf_spec, binary.sizeOf_spec] at outerSize innerSize
    rcases side with rfl | rfl <;> rcases side' with rfl | rfl <;> omega
  cases f with
  | neg body =>
    have picks : conjunctiveArgument (.neg body) a b = .ok () ↔ ∃ found,
        eitherOrder deniedConjunction? a b = some found ∧
          (body.Same found.1 ∨ body.Same found.2.1) ∧
          (found.1.Same found.2.2 ∧ body.Same found.2.1 ∨
            found.2.1.Same found.2.2 ∧ body.Same found.1) := by
      simp only [conjunctiveArgument]
      split <;> simp_all
    rw [lettered_neg] at hf
    simp only [picks, eitherOrder_eq_some exclusive]
    constructor
    · rintro ⟨⟨l, r, g⟩, found, remains⟩
      simp only [deniedConjunction?_eq_some ha hb, deniedConjunction?_eq_some hb ha] at found
      rcases found with ⟨rfl, rfl, -⟩ | ⟨rfl, rfl, -⟩
      · rw [lettered_neg] at ha
        rcases (remaining_iff hf ha.1 ha.2 hb).mp remains with ⟨rfl, rfl⟩ | ⟨rfl, rfl⟩
        · exact .inl (.affirmedLeft ..)
        · exact .inl (.affirmedRight ..)
      · rw [lettered_neg] at hb
        rcases (remaining_iff hf hb.1 hb.2 ha).mp remains with ⟨rfl, rfl⟩ | ⟨rfl, rfl⟩
        · exact .inr (.affirmedLeft ..)
        · exact .inr (.affirmedRight ..)
    · rintro (schema | schema)
      · cases schema with
        | affirmedLeft => exact ⟨(b, body, b), .inl (by simp [deniedConjunction?]), by simp⟩
        | affirmedRight => exact ⟨(body, b, b), .inl (by simp [deniedConjunction?]), by simp⟩
      · cases schema with
        | affirmedLeft => exact ⟨(a, body, a), .inr (by simp [deniedConjunction?]), by simp⟩
        | affirmedRight => exact ⟨(body, a, a), .inr (by simp [deniedConjunction?]), by simp⟩
  | _ =>
    simp only [conjunctiveArgument, object_ne_ok, false_iff]
    rintro (schema | schema) <;> cases schema

theorem chain_iff {f a b : Formula} (hf : f.Lettered) (ha : a.Lettered) (hb : b.Lettered) :
    chain f a b = .ok () ↔ Schema .chain f [a, b] ∨ Schema .chain f [b, a] := by
  unfold chain
  split
  next p q =>
    split
    next a₁ a₂ b₁ b₂ =>
      simp only [same_iff_eq, ha.1, ha.2, hb.1, hb.2, hf.1, hf.2]
      constructor
      · intro accepted
        split at accepted
        next first =>
          obtain ⟨rfl, rfl, rfl⟩ := first
          exact .inl (.chain ..)
        next notFirst =>
          split at accepted
          next second =>
            obtain ⟨rfl, rfl, rfl⟩ := second
            exact .inr (.chain ..)
          next notSecond =>
            -- what is left only names the missing link, and would accept nothing new
            simp only [requireLink, apply_ite (· = Except.ok ()), both_eq_ok, require_eq_ok,
              same_iff_eq, ha.1, ha.2, hb.1, hb.2, hf.2, object_ne_ok] at accepted
            split at accepted
            next same => exact absurd ⟨same, accepted⟩ notFirst
            next =>
              split at accepted
              next same => exact absurd ⟨same, accepted⟩ notSecond
              next => cases accepted
      · rintro (schema | schema) <;> cases schema <;> simp
    next neither =>
      simp only [object_ne_ok, false_iff]
      rintro (schema | schema) <;> cases schema <;> exact neither _ _ _ _ rfl rfl
  next notImp =>
    simp only [object_ne_ok, false_iff]
    rintro (schema | schema) <;> cases schema <;> exact notImp _ _ rfl

end Rule.Check
end NaturalDeduction
