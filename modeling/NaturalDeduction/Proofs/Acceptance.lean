import NaturalDeduction.Proofs.Discharge
import NaturalDeduction.Proofs.Equivalences

/-! What the rules accept, all together. Splitting a disjunction sets aside the first disjunction
cited and asks the other two citations to lead from its sides to the formula; the count of citations
is checked before anything else. So a rule accepts a formula exactly when it follows from the cited
lines by an instance of a schema, or by discharging one of them. -/
namespace NaturalDeduction
open Formula

namespace Rule.Check
open Verdict

theorem parts?_eq_some {g : Formula} {p : Formula × Formula} :
    parts? g = some p ↔ g = .imp p.1 p.2 := by
  unfold parts?
  split
  next => simp [Prod.ext_iff]
  next notImp => simpa using notImp _ _

theorem disjuncts?_eq_some {g : Formula} {p : Formula × Formula} :
    disjuncts? g = some p ↔ g = .disj p.1 p.2 := by
  unfold disjuncts?
  split
  next => simp [Prod.ext_iff]
  next notDisj => simpa using notDisj _ _

def Sides (f l r b c : Formula) : Prop :=
  b = .imp l f ∧ c = .imp r f ∨ b = .imp r f ∧ c = .imp l f

theorem Sides.disjuncts?_eq_none {f l r b c : Formula} (sides : Sides f l r b c) :
    disjuncts? b = none ∧ disjuncts? c = none := by
  rcases sides with ⟨rfl, rfl⟩ | ⟨rfl, rfl⟩ <;> exact ⟨rfl, rfl⟩

theorem disjElim_split {f l r b c : Formula} {cited : List Formula} (hf : f.Lettered)
    (hl : l.Lettered) (hr : r.Lettered) (hb : b.Lettered) (hc : c.Lettered)
    (found : cited.findSome? disjuncts? = some (l, r))
    (erased : cited.eraseP (·.Same (.disj l r)) = [b, c]) :
    disjElim f cited = .ok () ↔ Sides f l r b c := by
  have picks : disjElim f cited = .ok () ↔ ∃ conditionals,
      [b, c].mapM parts? = some conditionals ∧ (∀ p ∈ conditionals, p.2.Same f) ∧
      sameFormulas [l, r] (conditionals.map Prod.fst) = true := by
    simp only [disjElim, found, erased]
    cases [b, c].mapM parts? with
    | none => simp
    | some conditionals => simp
  rw [picks]
  constructor
  · rintro ⟨conditionals, parts, consequents, antecedents⟩
    simp only [List.mapM_cons, List.mapM_nil, Option.bind_eq_bind, Option.pure_def,
      Option.bind_some, Option.bind_eq_some_iff, parts?_eq_some, Option.some.injEq] at parts
    obtain ⟨⟨b₁, b₂⟩, rfl, _, ⟨⟨c₁, c₂⟩, rfl, rfl⟩, rfl⟩ := parts
    have first : b₂ = f := (same_iff_eq hb.2 hf).mp (consequents _ (by simp))
    have second : c₂ = f := (same_iff_eq hc.2 hf).mp (consequents _ (by simp))
    subst first second
    rcases (sameFormulas_pair hl hr hb.1 hc.1).mp antecedents with ⟨rfl, rfl⟩ | ⟨rfl, rfl⟩
    · exact .inl ⟨rfl, rfl⟩
    · exact .inr ⟨rfl, rfl⟩
  · rintro (⟨rfl, rfl⟩ | ⟨rfl, rfl⟩)
    · refine ⟨[(l, f), (r, f)], rfl, by simp, ?_⟩
      simp [sameFormulas_pair, hl, hr]
    · refine ⟨[(r, f), (l, f)], rfl, by simp, ?_⟩
      simp [sameFormulas_pair, hl, hr]

theorem disjElim_at {f l r b c : Formula} (hf : f.Lettered) (hd : (disj l r).Lettered)
    (hb : b.Lettered) (hc : c.Lettered) (before after : List Formula)
    (others : before ++ after = [b, c]) (none : ∀ g ∈ before, disjuncts? g = none) :
    disjElim f (before ++ .disj l r :: after) = .ok () ↔ Sides f l r b c := by
  have lettered : ∀ g ∈ before, g.Lettered := by
    intro g member
    have among : g ∈ [b, c] := others ▸ List.mem_append_left after member
    have either : g = b ∨ g = c := by simpa using among
    rcases either with rfl | rfl
    · exact hb
    · exact hc
  refine disjElim_split hf hd.1 hd.2 hb hc ?_ ?_
  · rw [List.findSome?_append, List.findSome?_eq_none_iff.mpr none]
    rfl
  · have different : ∀ g ∈ before, ¬ decide (g.Same (.disj l r)) = true := by
      intro g member same
      rw [decide_eq_true_eq, same_iff_eq (lettered g member) hd] at same
      have unsplit := none g member
      simp [same, disjuncts?] at unsplit
    rw [List.eraseP_append_right _ different, List.eraseP_cons_of_pos (by simp), others]

theorem disjElim_iff {f a b c : Formula} (hf : f.Lettered) (ha : a.Lettered) (hb : b.Lettered)
    (hc : c.Lettered) :
    disjElim f [a, b, c] = .ok () ↔ ∃ l r,
      a = .disj l r ∧ Sides f l r b c ∨ b = .disj l r ∧ Sides f l r a c ∨
      c = .disj l r ∧ Sides f l r a b := by
  -- the first disjunction stands first, second or third, or there is none
  cases first : disjuncts? a with
  | some p =>
    obtain rfl : a = .disj p.1 p.2 := disjuncts?_eq_some.mp first
    refine (disjElim_at hf ha hb hc [] [b, c] rfl (by simp)).trans ⟨?_, ?_⟩
    · intro sides
      exact ⟨_, _, .inl ⟨rfl, sides⟩⟩
    · rintro ⟨l, r, ⟨same, sides⟩ | ⟨-, sides⟩ | ⟨-, sides⟩⟩
      · cases same
        exact sides
      · simp [sides.disjuncts?_eq_none.1] at first
      · simp [sides.disjuncts?_eq_none.1] at first
  | none =>
    cases second : disjuncts? b with
    | some p =>
      obtain rfl : b = .disj p.1 p.2 := disjuncts?_eq_some.mp second
      refine (disjElim_at hf hb ha hc [a] [c] rfl (by simpa using first)).trans ⟨?_, ?_⟩
      · intro sides
        exact ⟨_, _, .inr (.inl ⟨rfl, sides⟩)⟩
      · rintro ⟨l, r, ⟨same, -⟩ | ⟨same, sides⟩ | ⟨-, sides⟩⟩
        · simp [same, disjuncts?] at first
        · cases same
          exact sides
        · simp [sides.disjuncts?_eq_none.2] at second
    | none =>
      cases third : disjuncts? c with
      | some p =>
        obtain rfl : c = .disj p.1 p.2 := disjuncts?_eq_some.mp third
        have earlier : ∀ g ∈ [a, b], disjuncts? g = none := by simpa using ⟨first, second⟩
        refine (disjElim_at hf hc ha hb [a, b] [] rfl earlier).trans ⟨?_, ?_⟩
        · intro sides
          exact ⟨_, _, .inr (.inr ⟨rfl, sides⟩)⟩
        · rintro ⟨l, r, ⟨same, -⟩ | ⟨same, -⟩ | ⟨same, sides⟩⟩
          · simp [same, disjuncts?] at first
          · simp [same, disjuncts?] at second
          · cases same
            exact sides
      | none =>
        have refused : disjElim f [a, b, c] ≠ .ok () := by
          simp [disjElim, List.findSome?, first, second, third]
        simp only [refused, false_iff]
        rintro ⟨l, r, ⟨same, -⟩ | ⟨same, -⟩ | ⟨same, -⟩⟩
        · simp [same, disjuncts?] at first
        · simp [same, disjuncts?] at second
        · simp [same, disjuncts?] at third

section Counted
variable {rule : Rule} {f : Formula} {cited : List Line}

theorem oneLine_iff {check : Formula → Verdict} (arity : rule.arity = 1)
    (accepts : ∀ {a : Formula}, a.Lettered → (check a = .ok () ↔ Schema rule f [a]))
    (lettered : ∀ line ∈ cited, line.formula.Lettered) :
    oneLine (fun a => check a.formula) cited = .ok () ↔
      ∃ gs, gs.Perm (cited.map Line.formula) ∧ Schema rule f gs := by
  match cited with
  | [a] => simp [oneLine, accepts (lettered a (by simp))]
  | [] | _ :: _ :: _ =>
    simp only [oneLine, object_ne_ok, false_iff]
    rintro ⟨gs, perm, schema⟩
    have count := perm.length_eq.symm.trans (schema.length_eq.trans arity)
    simp at count

theorem twoLines_iff {check : Formula → Formula → Verdict} (arity : rule.arity = 2)
    (accepts : ∀ {a b : Formula}, a.Lettered → b.Lettered →
      (check a b = .ok () ↔ Schema rule f [a, b] ∨ Schema rule f [b, a]))
    (lettered : ∀ line ∈ cited, line.formula.Lettered) :
    twoLines (fun a b => check a.formula b.formula) cited = .ok () ↔
      ∃ gs, gs.Perm (cited.map Line.formula) ∧ Schema rule f gs := by
  match cited with
  | [a, b] =>
    simp [twoLines, accepts (lettered a (by simp)) (lettered b (by simp)), perm_pair, or_and_right,
      exists_or]
  | [] | [_] | _ :: _ :: _ :: _ =>
    simp only [twoLines, object_ne_ok, false_iff]
    rintro ⟨gs, perm, schema⟩
    have count := perm.length_eq.symm.trans (schema.length_eq.trans arity)
    simp at count

theorem threeLines_iff (hf : f.Lettered) (lettered : ∀ line ∈ cited, line.formula.Lettered) :
    threeLines (fun a b c => disjElim f [a.formula, b.formula, c.formula]) cited = .ok () ↔
      ∃ gs, gs.Perm (cited.map Line.formula) ∧ Schema .disjElim f gs := by
  match cited with
  | [a, b, c] =>
    simp only [threeLines, List.map, disjElim_iff hf (lettered a (by simp)) (lettered b (by simp))
      (lettered c (by simp)), Sides, perm_triple]
    constructor
    · rintro ⟨l, r, found⟩
      refine ⟨[.disj l r, .imp l f, .imp r f], ?_, .disjElim ..⟩
      grind
    · rintro ⟨gs, order, schema⟩
      cases schema with
      | disjElim x y =>
        simp only [List.cons.injEq, and_true] at order
        refine ⟨x, y, ?_⟩
        rcases order with (⟨h, i, j⟩ | ⟨h, i, j⟩) | (⟨h, i, j⟩ | ⟨h, i, j⟩) |
          (⟨h, i, j⟩ | ⟨h, i, j⟩)
        all_goals simp [← h, ← i, ← j]
      | twin twin => cases twin.isEquivalence_eq
      | twinBack twin => cases twin.isEquivalence_eq
  | [] | [_] | [_, _] | _ :: _ :: _ :: _ :: _ =>
    simp only [threeLines, object_ne_ok, false_iff]
    rintro ⟨gs, perm, schema⟩
    have count := perm.length_eq.symm.trans schema.length_eq
    simp [arity] at count

end Counted
end Rule.Check

namespace Rule
open Check

theorem evaluate_length {lines cited : List Line} {rule : Rule} {f : Formula}
    (accepted : rule.evaluate lines f cited = .ok ()) : cited.length = rule.arity := by
  match cited with
  | [] | [_] | [_, _] | [_, _, _] | _ :: _ :: _ :: _ :: _ =>
    -- either the count is the right one, or it is what the verdict objects to
    cases rule <;> first | rfl | cases accepted

theorem evaluate_iff_schema {lines cited : List Line} {rule : Rule} {f : Formula}
    (cites : rule.arity ≠ 0) (keeps : rule.discharges = false) (hf : f.Lettered)
    (lettered : ∀ line ∈ cited, line.formula.Lettered) :
    rule.evaluate lines f cited = .ok () ↔
      ∃ gs, gs.Perm (cited.map Line.formula) ∧ Schema rule f gs := by
  cases rule with
  | assumption | supposition => exact absurd rfl cites
  | impIntro | negElim | negIntro => cases keeps
  | impElim => exact twoLines_iff rfl (impElim_iff hf) lettered
  | iffElim => exact oneLine_iff rfl (iffElim_iff hf) lettered
  | iffIntro => exact twoLines_iff rfl (iffIntro_iff hf) lettered
  | disjElim => exact threeLines_iff hf lettered
  | disjIntro => exact oneLine_iff rfl (disjIntro_iff hf) lettered
  | conjElim => exact oneLine_iff rfl (conjElim_iff hf) lettered
  | conjIntro => exact twoLines_iff rfl (conjIntro_iff hf) lettered
  | modusTollens => exact twoLines_iff rfl (modusTollens_iff hf) lettered
  | disjunctiveArgument => exact twoLines_iff rfl (disjunctiveArgument_iff hf) lettered
  | conjunctiveArgument => exact twoLines_iff rfl (conjunctiveArgument_iff hf) lettered
  | chain => exact twoLines_iff rfl (chain_iff hf) lettered
  | doubleNegation => exact oneLine_iff rfl (doubleNegation_iff hf) lettered
  | deMorgan =>
    exact oneLine_iff rfl (reciprocal_iff rfl twin_of_deMorganFrom deMorganFrom_of_twin hf) lettered
  | arrow =>
    exact oneLine_iff rfl (reciprocal_iff rfl twin_of_arrowFrom arrowFrom_of_twin hf) lettered
  | contraposition => exact oneLine_iff rfl (contraposition_iff hf) lettered

inductive Infers (lines : List Line) (rule : Rule) (f : Formula) (cited : List Line) : Prop where
  | bare : rule.arity = 0 → cited = [] → Infers lines rule f cited
  | schema {gs : List Formula} : gs.Perm (cited.map Line.formula) → Schema rule f gs →
      Infers lines rule f cited
  | discharge {a b s c : Line} : cited = [a, b] → Supports lines a b s c →
      Discharge rule f s.formula c.formula → Infers lines rule f cited

theorem evaluate_iff_infers {lines cited : List Line} {rule : Rule} {f : Formula}
    (numbered : Numbered lines) (lettered : ∀ line ∈ lines, line.formula.Lettered)
    (bare : ∀ line ∈ lines, line.isSupposition = true → line.citations = [])
    (inside : ∀ line ∈ cited, line ∈ lines) (hf : f.Lettered) :
    rule.evaluate lines f cited = .ok () ↔ Infers lines rule f cited := by
  have letteredCited : ∀ line ∈ cited, line.formula.Lettered :=
    fun line member => lettered line (inside line member)
  constructor
  · intro accepted
    have count := evaluate_length accepted
    by_cases none : rule.arity = 0
    · exact .bare none (List.eq_nil_of_length_eq_zero (count.trans none))
    · cases discharges : rule.discharges with
      | false =>
        obtain ⟨gs, perm, schema⟩ :=
          (evaluate_iff_schema none discharges hf letteredCited).mp accepted
        exact .schema perm schema
      | true =>
        obtain ⟨a, b, two, s, c, supports, discharge⟩ :=
          (evaluate_iff_discharge numbered lettered bare inside discharges hf).mp accepted
        exact .discharge two supports discharge
  · intro infers
    cases infers with
    | bare none empty =>
      subst empty
      cases rule with
      | assumption | supposition => rfl
      | _ => cases none
    | schema perm schema =>
      obtain ⟨cites, keeps⟩ := schema.cites_keeps
      exact (evaluate_iff_schema cites keeps hf letteredCited).mpr ⟨_, perm, schema⟩
    | discharge two supports discharge =>
      exact (evaluate_iff_discharge numbered lettered bare inside
        discharge.discharges_lettered.1 hf).mpr ⟨_, _, two, _, _, supports, discharge⟩

end Rule

open Rule

/-- A structural rule accepts a formula exactly when as many lines are cited as it asks for and
their formulas, in some order, are the citations of an instance of its schema. -/
theorem structural_accepts_iff {lines cited : List Line} {rule : Rule} {f : Formula}
    (structural : rule.isStructural = true) (hf : f.Lettered)
    (lettered : ∀ line ∈ cited, line.formula.Lettered) :
    rule.evaluate lines f cited = .ok () ↔ cited.length = rule.arity ∧
      ∃ gs, gs.Perm (cited.map Line.formula) ∧ Schema rule f gs := by
  obtain ⟨cites, keeps⟩ := cites_keeps_of_isStructural structural
  rw [evaluate_iff_schema cites keeps hf lettered]
  constructor
  · rintro ⟨gs, perm, schema⟩
    have count := perm.length_eq.symm.trans schema.length_eq
    rw [List.length_map] at count
    exact ⟨count, gs, perm, schema⟩
  · exact And.right

theorem scattered_cases_accepted :
    let a := atom "A"
    let b := atom "B"
    let f := Formula.disj b a
    let cited : List Line := [⟨4, .imp b f, .assumption, []⟩, ⟨2, .disj a b, .supposition, []⟩,
      ⟨7, .imp a f, .conjElim, [0]⟩]
    Rule.disjElim.isStructural = true ∧ f.Lettered ∧ (∀ line ∈ cited, line.formula.Lettered) ∧
    Rule.disjElim.evaluate [] f cited = .ok () := by
  intro a b f cited
  have ha : a.Lettered := ⟨'A', by decide, rfl⟩
  have hb : b.Lettered := ⟨'B', by decide, rfl⟩
  have hf : f.Lettered := ⟨hb, ha⟩
  have lettered : ∀ line ∈ cited, line.formula.Lettered :=
    List.forall_mem_cons.mpr ⟨⟨hb, hf⟩, List.forall_mem_cons.mpr ⟨⟨ha, hb⟩,
      List.forall_mem_singleton.mpr ⟨ha, hf⟩⟩⟩
  have order : [Formula.disj a b, .imp a f, .imp b f].Perm (cited.map Line.formula) :=
    perm_triple.mpr (.inr (.inl (.inr rfl)))
  exact ⟨rfl, hf, lettered,
    (structural_accepts_iff rfl hf lettered).mpr ⟨rfl, _, order, .disjElim a b f⟩⟩

/-- A rule that may be used in both directions accepts a formula from one citation exactly when the
rule takes the two for each other, whichever of them is the given one. -/
theorem equivalence_accepts_iff {lines : List Line} {rule : Rule} {f : Formula} {line : Line}
    (equivalence : rule.isEquivalence = true) (hf : f.Lettered) (hg : line.formula.Lettered) :
    rule.evaluate lines f [line] = .ok () ↔
      Twin rule f line.formula ∨ Twin rule line.formula f := by
  obtain ⟨cites, keeps⟩ := cites_keeps_iff.mpr (.inr equivalence)
  have lettered : ∀ cited ∈ [line], cited.formula.Lettered := List.forall_mem_singleton.mpr hg
  calc rule.evaluate lines f [line] = .ok ()
    _ ↔ ∃ gs, gs.Perm [line.formula] ∧ Schema rule f gs :=
      evaluate_iff_schema cites keeps hf lettered
    _ ↔ Schema rule f [line.formula] := by simp only [List.perm_singleton, exists_eq_left]
    _ ↔ Twin rule f line.formula ∨ Twin rule line.formula f := schema_iff_twin equivalence

theorem negated_side_accepted :
    let a := atom "A"
    let b := atom "B"
    let f := Formula.neg (.conj (.neg a) b)
    let line : Line := ⟨3, .disj (.neg (.neg a)) (.neg b), .disjIntro, [1]⟩
    Rule.deMorgan.isEquivalence = true ∧ f.Lettered ∧ line.formula.Lettered ∧
    Rule.deMorgan.evaluate [] f [line] = .ok () := by
  intro a b f line
  have ha : a.Lettered := ⟨'A', by decide, rfl⟩
  have hb : b.Lettered := ⟨'B', by decide, rfl⟩
  have hf : f.Lettered := ⟨ha, hb⟩
  have hg : line.formula.Lettered := ⟨ha, hb⟩
  exact ⟨rfl, hf, hg, (equivalence_accepts_iff rfl hf hg).mpr (.inl (.negatedConj (.neg a) b))⟩

end NaturalDeduction
