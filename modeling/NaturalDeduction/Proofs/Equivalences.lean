import NaturalDeduction.Proofs.Checks

/-! What the rules that work in both directions accept. Each check is one-sided and is tried both
ways round, with cases that overlap where a side is itself negated; together they accept exactly
the pairs that the rule takes for each other. -/
namespace NaturalDeduction.Rule.Check
open Formula Verdict

theorem doubleNegation_iff {f a : Formula} (hf : f.Lettered) (ha : a.Lettered) :
    doubleNegation f a = .ok () ↔ Schema .doubleNegation f [a] := by
  have doubled {g h : Formula} (hg : g.Lettered) (hh : h.Lettered) :
      g.chars true = '-' :: '-' :: h.chars true ↔ Twin .doubleNegation h g := by
    constructor
    · intro same
      have lettered : (neg (neg h)).Lettered := hh
      cases chars_injective hg lettered same
      exact .doubleNegation h
    · intro twin
      cases twin
      rfl
  rw [doubleNegation, require_eq_ok, schema_iff_twin rfl, doubled hf ha,
    eq_comm (b := a.chars true), doubled ha hf, or_comm]

theorem sidesDeny_iff {l r x y : Formula} (hl : l.Lettered) (hr : r.Lettered) (hx : x.Lettered)
    (hy : y.Lettered) :
    sidesDeny l r x y = true ↔ l = .neg x ∧ r = .neg y ∨ x = .neg l ∧ y = .neg r := by
  simp [sidesDeny, denies_iff, *]

theorem twin_of_deMorganFrom {f a : Formula} (hf : f.Lettered) (ha : a.Lettered)
    (holds : deMorganFrom f a = true) : Twin .deMorgan f a ∨ Twin .deMorgan a f := by
  unfold deMorganFrom at holds
  split at holds
  next l r x y =>
    rw [lettered_neg] at ha
    rcases (sidesDeny_iff hf.1 hf.2 ha.1 ha.2).mp holds with ⟨rfl, rfl⟩ | ⟨rfl, rfl⟩
    · exact .inr (.negatedDisj x y)
    · exact .inl (.conjOfNegated l r)
  next l r x y =>
    rw [lettered_neg] at ha
    rcases (sidesDeny_iff hf.1 hf.2 ha.1 ha.2).mp holds with ⟨rfl, rfl⟩ | ⟨rfl, rfl⟩
    · exact .inr (.negatedConj x y)
    · exact .inl (.disjOfNegated l r)
  next => cases holds

theorem twin_of_arrowFrom {f a : Formula} (hf : f.Lettered) (ha : a.Lettered)
    (holds : arrowFrom f a = true) : Twin .arrow f a ∨ Twin .arrow a f := by
  unfold arrowFrom at holds
  split at holds
  next l r p q =>
    rw [lettered_neg] at ha
    simp only [Bool.and_eq_true, decide_eq_true_eq, same_iff_eq ha.1 hf.1,
      denies_iff hf.2 ha.2] at holds
    obtain ⟨rfl, rfl⟩ := holds
    exact .inr (.negatedImp p q)
  next l r p q =>
    simp only [Bool.and_eq_true, Bool.or_eq_true, decide_eq_true_eq, same_iff_eq ha.2 hf.2,
      denies_iff hf.1 ha.1, denies_iff ha.1 hf.1] at holds
    obtain ⟨rfl | rfl, rfl⟩ := holds
    · exact .inr (.impDisj p q)
    · exact .inr (.negatedImpDisj l q)
  next l r p q =>
    rw [lettered_neg] at hf
    simp only [Bool.and_eq_true, decide_eq_true_eq, same_iff_eq ha.1 hf.1,
      denies_iff hf.2 ha.2] at holds
    obtain ⟨rfl, rfl⟩ := holds
    exact .inr (.impConj p q)
  next => cases holds

theorem twin_of_contrapositionFrom {f a : Formula} (hf : f.Lettered) (ha : a.Lettered)
    (holds : contrapositionFrom f a = true) :
    Twin .contraposition f a ∨ Twin .contraposition a f := by
  unfold contrapositionFrom at holds
  split at holds
  next x y p q =>
    simp only [Bool.or_eq_true, Bool.and_eq_true, denies_iff, hf.1, hf.2, ha.1, ha.2] at holds
    rcases holds with ((⟨rfl, rfl⟩ | ⟨rfl, rfl⟩) | ⟨rfl, rfl⟩) | ⟨rfl, rfl⟩
    · exact .inr (.bothNegated p q)
    · exact .inl (.bothNegated x y)
    · exact .inl (.leftNegated q y)
    · exact .inl (.rightNegated x p)
  next => cases holds

theorem deMorganFrom_of_twin {f a : Formula} (twin : Twin .deMorgan f a) :
    deMorganFrom f a = true ∨ deMorganFrom a f = true := by
  cases twin <;> simp [deMorganFrom, sidesDeny, denies]

theorem arrowFrom_of_twin {f a : Formula} (twin : Twin .arrow f a) :
    arrowFrom f a = true ∨ arrowFrom a f = true := by
  cases twin <;> simp [arrowFrom, denies]

theorem contrapositionFrom_of_twin {f a : Formula} (twin : Twin .contraposition f a) :
    contrapositionFrom f a = true ∨ contrapositionFrom a f = true := by
  cases twin <;> simp [contrapositionFrom, denies]

/-- A check that is tried both ways round accepts the pairs of its rule. -/
theorem reciprocal_iff {holds : Formula → Formula → Bool} {rule : Rule} {f a : Formula}
    (equivalence : rule.isEquivalence = true)
    (sound : ∀ {f a : Formula}, f.Lettered → a.Lettered → holds f a = true →
      Twin rule f a ∨ Twin rule a f)
    (complete : ∀ {f a : Formula}, Twin rule f a → holds f a = true ∨ holds a f = true)
    (hf : f.Lettered) (ha : a.Lettered) :
    reciprocal holds f a = .ok () ↔ Schema rule f [a] := by
  rw [reciprocal, require_eq_ok, schema_iff_twin equivalence]
  constructor
  · rintro (forth | back)
    · exact sound hf ha forth
    · exact (sound ha hf back).symm
  · rintro (twin | twin)
    · exact complete twin
    · exact (complete twin).symm

theorem contraposition_iff {f a : Formula} (hf : f.Lettered) (ha : a.Lettered) :
    contraposition f a = .ok () ↔ Schema .contraposition f [a] := by
  have both := reciprocal_iff rfl twin_of_contrapositionFrom contrapositionFrom_of_twin hf ha
  simp only [contraposition, both_eq_ok, require_eq_ok, both]
  constructor
  · exact And.right
  · intro schema
    refine ⟨?_, schema⟩
    rcases (schema_iff_twin rfl).mp schema with twin | twin <;> cases twin <;> exact ⟨rfl, rfl⟩

end NaturalDeduction.Rule.Check
