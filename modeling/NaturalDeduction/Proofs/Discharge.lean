import NaturalDeduction.Proofs.Checks
import NaturalDeduction.Proofs.Resting

/-! What the discharging rules accept. Their checks commit to the first citation that is a
supposition and do not try the other order. Where suppositions cite nothing, a supposition rests
on itself alone, so no other order could have been accepted. -/
namespace NaturalDeduction
open Outcome Formula

inductive Contradictory : Formula → Prop where
  | left (z : Formula) : Contradictory (.conj z (.neg z))
  | right (z : Formula) : Contradictory (.conj (.neg z) z)

theorem isContradiction_iff {f : Formula} (hf : f.Lettered) :
    f.isContradiction = true ↔ Contradictory f := by
  unfold isContradiction
  split
  next l r =>
    simp only [Bool.or_eq_true, denies_iff hf.1 hf.2, denies_iff hf.2 hf.1]
    constructor
    · rintro (rfl | rfl)
      · exact .right r
      · exact .left l
    · intro contradictory
      cases contradictory <;> simp
  next notConj =>
    simp only [Bool.false_eq_true, false_iff]
    intro contradictory
    cases contradictory <;> exact notConj _ _ rfl

theorem Contradictory.eval_eq {c : Formula} (contradictory : Contradictory c) (v : Valuation) :
    c.eval v = false := by
  cases contradictory <;> simp [eval, Connective.table]

namespace Rule

/-- What a discharging rule gives, from the formula supposed and the formula derived from it. -/
inductive Discharge : Rule → Formula → Formula → Formula → Prop where
  | impIntro (x y : Formula) : Discharge .impIntro (.imp x y) x y
  | negIntro (x : Formula) {c : Formula} : Contradictory c → Discharge .negIntro (.neg x) x c
  | negElim (x : Formula) {c : Formula} : Contradictory c → Discharge .negElim x (.neg x) c

theorem discharge_impIntro {f x y : Formula} : Discharge .impIntro f x y ↔ f = .imp x y := by
  constructor
  · intro discharge
    cases discharge
    rfl
  · rintro rfl
    exact .impIntro x y

theorem discharge_negIntro {f x c : Formula} :
    Discharge .negIntro f x c ↔ f = .neg x ∧ Contradictory c := by
  constructor
  · intro discharge
    cases discharge with
    | negIntro _ contradictory => exact ⟨rfl, contradictory⟩
  · rintro ⟨rfl, contradictory⟩
    exact .negIntro x contradictory

theorem discharge_negElim {f x c : Formula} :
    Discharge .negElim f x c ↔ x = .neg f ∧ Contradictory c := by
  constructor
  · intro discharge
    cases discharge with
    | negElim _ contradictory => exact ⟨rfl, contradictory⟩
  · rintro ⟨rfl, contradictory⟩
    exact .negElim f contradictory

theorem Discharge.sound {rule : Rule} {f x c : Formula} (discharge : Discharge rule f x c)
    {v : Valuation} (leads : x.eval v = true → c.eval v = true) : f.eval v = true := by
  cases discharge with
  | impIntro => exact (eval_imp v x c).mpr leads
  | negIntro x contradictory =>
    rw [contradictory.eval_eq v] at leads
    simpa [eval] using leads
  | negElim x contradictory =>
    rw [contradictory.eval_eq v] at leads
    simpa [eval] using leads

theorem Discharge.discharges_lettered {rule : Rule} {f x c : Formula}
    (discharge : Discharge rule f x c) :
    rule.discharges = true ∧ (x.Lettered → c.Lettered → f.Lettered) := by
  cases discharge with
  | impIntro => exact ⟨rfl, fun hx hc => ⟨hx, hc⟩⟩
  | negIntro => exact ⟨rfl, fun hx _ => hx⟩
  | negElim => exact ⟨rfl, fun hx _ => hx⟩

namespace Check
open Verdict

variable {lines : List Line} {f : Formula} {a b s d : Line}

theorem requireRests_eq_ok (numbered : Numbered lines) (hs : s ∈ lines) (hd : d ∈ lines)
    {otherwise : Violation} :
    requireRests lines s d otherwise = .ok () ↔ RestsOn lines d s := by
  obtain ⟨indices, resolves, lists⟩ := dependencies_spec numbered hd
  rw [requireRests, resolves]
  simp only [mapError_ok, ok_bind, require_eq_ok, lists.index_mem numbered hs]

structure Supports (lines : List Line) (a b s d : Line) : Prop where
  order : s = a ∧ d = b ∨ s = b ∧ d = a
  supposed : s.isSupposition = true
  rests : RestsOn lines d s

/-- A supposition that fits in the given order is the only one that could be discharged. -/
theorem choice_iff {pick : Line → Line → Option (Line × Line)} {P : Line → Line → Prop}
    (picks : ∀ s d found, pick s d = some found → found = (s, d) ∧ s.isSupposition = true)
    (bare : a.isSupposition = true → a.citations = []) :
    (∃ found, eitherOrder pick a b = some found ∧ RestsOn lines found.2 found.1 ∧
      P found.1 found.2) ↔
    ∃ s d, Supports lines a b s d ∧ pick s d = some (s, d) ∧ P s d := by
  constructor
  · rintro ⟨⟨s, d⟩, chosen, rests, holds⟩
    unfold eitherOrder at chosen
    cases first : pick a b with
    | some found =>
      obtain ⟨rfl, supposed⟩ := picks a b found first
      simp only [first] at chosen
      cases chosen
      exact ⟨a, b, ⟨.inl ⟨rfl, rfl⟩, supposed, rests⟩, first, holds⟩
    | none =>
      simp only [first] at chosen
      obtain ⟨same, supposed⟩ := picks b a _ chosen
      cases same
      exact ⟨b, a, ⟨.inr ⟨rfl, rfl⟩, supposed, rests⟩, chosen, holds⟩
  · rintro ⟨s, d, ⟨⟨rfl, rfl⟩ | ⟨rfl, rfl⟩, supposed, rests⟩, fits, holds⟩
    · exact ⟨(s, d), by simp [eitherOrder, fits], rests, holds⟩
    · refine ⟨(s, d), ?_, rests, holds⟩
      unfold eitherOrder
      cases first : pick d s with
      | none => exact fits
      | some found =>
        -- both fit only when the derived line is the supposition itself
        obtain ⟨rfl, alsoSupposed⟩ := picks d s found first
        rw [rests.eq_of_bare (bare alsoSupposed)]

theorem chosen_mem {pick : Line → Line → Option (Line × Line)} {found : Line × Line}
    (picks : ∀ s d found, pick s d = some found → found = (s, d) ∧ s.isSupposition = true)
    (ha : a ∈ lines) (hb : b ∈ lines) (chosen : eitherOrder pick a b = some found) :
    found.1 ∈ lines ∧ found.2 ∈ lines := by
  unfold eitherOrder at chosen
  cases first : pick a b with
  | some given =>
    simp only [first] at chosen
    cases chosen
    rw [(picks a b found first).1]
    exact ⟨ha, hb⟩
  | none =>
    simp only [first] at chosen
    rw [(picks b a found chosen).1]
    exact ⟨hb, ha⟩

theorem supposed?_eq_some (s d : Line) (found : Line × Line) (fits : supposed? s d = some found) :
    found = (s, d) ∧ s.isSupposition = true := by
  unfold supposed? at fits
  split at fits
  next supposed => exact ⟨(Option.some.inj fits).symm, supposed⟩
  next => cases fits

theorem reductio?_eq_some (s d : Line) (found : Line × Line) (fits : reductio? s d = some found) :
    found = (s, d) ∧ s.isSupposition = true := by
  unfold reductio? at fits
  split at fits
  next supposed => exact ⟨(Option.some.inj fits).symm, supposed.1⟩
  next => cases fits

section Accepting
variable (numbered : Numbered lines) (lettered : ∀ line ∈ lines, line.formula.Lettered)
  (ha : a ∈ lines) (hb : b ∈ lines) (bare : a.isSupposition = true → a.citations = [])
  (hf : f.Lettered)
include numbered lettered ha hb bare hf

theorem impIntro_iff :
    impIntro lines f a b = .ok () ↔
      ∃ s d, Supports lines a b s d ∧ Discharge .impIntro f s.formula d.formula := by
  simp only [discharge_impIntro]
  unfold impIntro
  split
  next p q =>
    have accepts : (∃ found, eitherOrder supposed? a b = some found ∧
        RestsOn lines found.2 found.1 ∧ p = found.1.formula ∧ q = found.2.formula) ↔
        ∃ s d, Supports lines a b s d ∧ Formula.imp p q = .imp s.formula d.formula := by
      rw [choice_iff (P := fun s d => p = s.formula ∧ q = d.formula) supposed?_eq_some bare]
      constructor
      · rintro ⟨s, d, supports, -, rfl, rfl⟩
        exact ⟨s, d, supports, rfl⟩
      · rintro ⟨s, d, supports, same⟩
        cases same
        exact ⟨s, d, supports, by simp [supposed?, supports.supposed], rfl, rfl⟩
    rw [← accepts]
    cases chosen : eitherOrder supposed? a b with
    | none => simp
    | some found =>
      obtain ⟨hs, hd⟩ := chosen_mem supposed?_eq_some ha hb chosen
      simp [requireRests_eq_ok numbered hs hd, same_iff_eq hf.1 (lettered _ hs),
        same_iff_eq hf.2 (lettered _ hd)]
  next notImp =>
    simp only [object_ne_ok, false_iff]
    rintro ⟨s, d, -, same⟩
    exact notImp _ _ same

omit numbered hf in
theorem reductio_iff {rule : Rule} {P : Line → Line → Prop}
    (shape : ∀ s d : Line,
      Discharge rule f s.formula d.formula ↔ P s d ∧ Contradictory d.formula) :
    (∃ found, eitherOrder reductio? a b = some found ∧ RestsOn lines found.2 found.1 ∧
      P found.1 found.2) ↔
    ∃ s d, Supports lines a b s d ∧ Discharge rule f s.formula d.formula := by
  rw [choice_iff reductio?_eq_some bare]
  have members {s d : Line} (supports : Supports lines a b s d) : d ∈ lines := by
    rcases supports.order with ⟨-, rfl⟩ | ⟨-, rfl⟩ <;> assumption
  have fits {s d : Line} (supports : Supports lines a b s d) :
      reductio? s d = some (s, d) ↔ Contradictory d.formula := by
    rw [← isContradiction_iff (lettered d (members supports))]
    simp [reductio?, supports.supposed]
  refine exists_congr fun s => exists_congr fun d => and_congr_right fun supports => ?_
  rw [fits supports, shape, and_comm]

theorem negIntro_iff :
    negIntro lines f a b = .ok () ↔
      ∃ s d, Supports lines a b s d ∧ Discharge .negIntro f s.formula d.formula := by
  unfold negIntro
  split
  next body =>
    have shape (s d : Line) : Discharge .negIntro (.neg body) s.formula d.formula ↔
        body = s.formula ∧ Contradictory d.formula := by
      rw [discharge_negIntro, neg.injEq]
    rw [← reductio_iff lettered ha hb bare shape]
    cases chosen : eitherOrder reductio? a b with
    | none => simp
    | some found =>
      obtain ⟨hs, hd⟩ := chosen_mem reductio?_eq_some ha hb chosen
      simp [requireRests_eq_ok numbered hs hd,
        same_iff_eq (lettered_neg.mp hf) (lettered _ hs), and_comm]
  next notNeg =>
    simp only [object_ne_ok, false_iff]
    rintro ⟨s, d, -, discharge⟩
    exact notNeg _ (discharge_negIntro.mp discharge).1

theorem negElim_iff :
    negElim lines f a b = .ok () ↔
      ∃ s d, Supports lines a b s d ∧ Discharge .negElim f s.formula d.formula := by
  rw [← reductio_iff lettered ha hb bare fun _ _ => discharge_negElim]
  unfold negElim
  cases chosen : eitherOrder reductio? a b with
  | none => simp
  | some found =>
    obtain ⟨hs, hd⟩ := chosen_mem reductio?_eq_some ha hb chosen
    have letteredS := lettered _ hs
    simp only [Option.some.injEq, exists_eq_left']
    cases supposed : found.1.formula with
    | neg body =>
      rw [supposed] at letteredS
      simp [requireRests_eq_ok numbered hs hd, same_iff_eq (lettered_neg.mp letteredS) hf,
        and_comm]
    | _ => simp

end Accepting

theorem twoLines_eq_ok {check : Line → Line → Verdict} {cited : List Line} :
    twoLines check cited = .ok () ↔ ∃ a b, cited = [a, b] ∧ check a b = .ok () := by
  match cited with
  | [a, b] => simp [twoLines, and_assoc]
  | [] | [_] | _ :: _ :: _ :: _ => simp [twoLines]

section Growing
variable {more : List Line} (numbered : Numbered (lines ++ more)) (ha : a ∈ lines) (hb : b ∈ lines)
include numbered

theorem requireRests_append (hd : d ∈ lines) (otherwise : Violation) :
    requireRests (lines ++ more) s d otherwise = requireRests lines s d otherwise := by
  rw [requireRests, requireRests, dependencies_append numbered hd]

include ha hb

theorem impIntro_append : impIntro (lines ++ more) f a b = impIntro lines f a b := by
  unfold impIntro
  cases chosen : eitherOrder supposed? a b with
  | none => rfl
  | some found =>
    simp only [requireRests_append numbered (chosen_mem supposed?_eq_some ha hb chosen).2]

theorem negIntro_append : negIntro (lines ++ more) f a b = negIntro lines f a b := by
  unfold negIntro
  cases chosen : eitherOrder reductio? a b with
  | none => rfl
  | some found =>
    simp only [requireRests_append numbered (chosen_mem reductio?_eq_some ha hb chosen).2]

theorem negElim_append : negElim (lines ++ more) f a b = negElim lines f a b := by
  unfold negElim
  cases chosen : eitherOrder reductio? a b with
  | none => rfl
  | some found =>
    simp only [requireRests_append numbered (chosen_mem reductio?_eq_some ha hb chosen).2]

end Growing
end Check

open Check

/-- Lines that are not cited, nor earlier than a cited line, have no part in the verdict. -/
theorem evaluate_append {lines more cited : List Line} (numbered : Numbered (lines ++ more))
    (inside : ∀ line ∈ cited, line ∈ lines) (rule : Rule) (f : Formula) :
    rule.evaluate (lines ++ more) f cited = rule.evaluate lines f cited := by
  have two {grown given : Line → Line → Verdict}
      (same : ∀ a b, a ∈ lines → b ∈ lines → grown a b = given a b) :
      twoLines grown cited = twoLines given cited := by
    match cited with
    | [a, b] => exact same a b (inside a (by simp)) (inside b (by simp))
    | [] | [_] | _ :: _ :: _ :: _ => rfl
  cases rule with
  | impIntro => exact two fun a b ha hb => impIntro_append numbered ha hb
  | negIntro => exact two fun a b ha hb => negIntro_append numbered ha hb
  | negElim => exact two fun a b ha hb => negElim_append numbered ha hb
  | _ => rfl

/-- A discharging rule accepts exactly two citations of which one is a supposition, the other rests
on it, and the formula is what the rule gives from the two. -/
theorem evaluate_iff_discharge {lines cited : List Line} {rule : Rule} {f : Formula}
    (numbered : Numbered lines) (lettered : ∀ line ∈ lines, line.formula.Lettered)
    (bare : ∀ line ∈ lines, line.isSupposition = true → line.citations = [])
    (inside : ∀ line ∈ cited, line ∈ lines) (discharges : rule.discharges = true)
    (hf : f.Lettered) :
    rule.evaluate lines f cited = .ok () ↔ ∃ a b, cited = [a, b] ∧
      ∃ s d, Supports lines a b s d ∧ Discharge rule f s.formula d.formula := by
  have accepts {check : Line → Line → Verdict}
      (exact : ∀ {a b : Line}, a ∈ lines → b ∈ lines → (check a b = .ok () ↔
        ∃ s d, Supports lines a b s d ∧ Discharge rule f s.formula d.formula)) :
      twoLines check cited = .ok () ↔ ∃ a b, cited = [a, b] ∧
        ∃ s d, Supports lines a b s d ∧ Discharge rule f s.formula d.formula := by
    rw [twoLines_eq_ok]
    constructor
    · rintro ⟨a, b, rfl, accepted⟩
      exact ⟨a, b, rfl, (exact (inside a (by simp)) (inside b (by simp))).mp accepted⟩
    · rintro ⟨a, b, rfl, supports⟩
      exact ⟨a, b, rfl, (exact (inside a (by simp)) (inside b (by simp))).mpr supports⟩
  cases rule with
  | impIntro => exact accepts fun {a b} ha hb => impIntro_iff numbered lettered ha hb (bare a ha) hf
  | negIntro => exact accepts fun {a b} ha hb => negIntro_iff numbered lettered ha hb (bare a ha) hf
  | negElim => exact accepts fun {a b} ha hb => negElim_iff numbered lettered ha hb (bare a ha) hf
  | _ => cases discharges

end Rule
end NaturalDeduction
