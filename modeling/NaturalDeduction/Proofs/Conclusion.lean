import NaturalDeduction.Proofs.Replay

/-! When a derivation is finished. It is asked only whether the last deduction has the text of the
conclusion and rests on no supposition. In a derivation that can be reached, a line that cites
nothing is a premise or a supposition, premises come first, and texts determine lettered formulas;
so the last deduction is the conclusion and rests on premises alone. -/
namespace NaturalDeduction
open Formula

namespace Derivation
variable {d : Derivation} {line : Line} {indices : List Int}

namespace WellFormed

theorem mem_premises_iff (wf : d.WellFormed) (member : line ∈ d.lines) :
    line ∈ d.premises ↔ line.index < d.premises.length := by
  constructor
  · intro premise
    obtain ⟨n, bound, rfl⟩ := List.getElem_of_mem premise
    have found : d.lines[n]? = some d.premises[n] := by
      rw [lines, List.getElem?_append_left bound, List.getElem?_eq_getElem bound]
    have index := wf.numbered.index_eq n _ found
    omega
  · intro below
    obtain ⟨n, -, found, index⟩ := wf.numbered.position member
    have bound : n < d.premises.length := by omega
    rw [lines, List.getElem?_append_left bound] at found
    exact List.mem_of_getElem? found

theorem below_premises_iff (wf : d.WellFormed) (member : line ∈ d.lines)
    (resolves : line.dependencies d.lines = .ok indices) :
    (∀ i ∈ indices, i < d.premises.length) ↔
      ∀ p ∈ d.lines, RestsOn d.lines line p → p ∈ d.premises := by
  obtain ⟨listed, resolved, lists⟩ := dependencies_spec wf.numbered member
  cases resolved.symm.trans resolves
  constructor
  · intro below p inside rests
    rw [wf.mem_premises_iff inside]
    exact below p.index ((lists.index_mem wf.numbered inside).mpr rests)
  · intro premises i found
    obtain ⟨p, inside, rfl, rests⟩ := (lists.mem_iff i).mp found
    exact (wf.mem_premises_iff inside).mp (premises p inside rests)

end WellFormed

def RestsOnPremises (d : Derivation) (states : Formula → Prop) : Prop :=
  ∃ last indices, d.last? = some last ∧ states last.formula ∧
    last.dependencies d.lines = .ok indices ∧ ∀ i ∈ indices, i < d.premises.length

theorem WellFormed.qed_iff_restsOnPremises (wf : d.WellFormed) {states : Formula → Prop}
    (agrees : ∀ line ∈ d.lines, line.formula.Same d.conclusion ↔ states line.formula) :
    d.qed = .ok true ↔ d.RestsOnPremises states := by
  rw [wf.qed_eq_true_iff]
  constructor
  · rintro ⟨last, isLast, same, premises⟩
    have member := last_mem isLast
    obtain ⟨indices, resolves, -⟩ := dependencies_spec wf.numbered member
    exact ⟨last, indices, isLast, (agrees last member).mp same, resolves,
      (wf.below_premises_iff member resolves).mpr premises⟩
  · rintro ⟨last, indices, isLast, stated, resolves, below⟩
    have member := last_mem isLast
    exact ⟨last, isLast, (agrees last member).mpr stated,
      (wf.below_premises_iff member resolves).mp below⟩

end Derivation

open NaturalDeduction.Derivation

/-- A reachable derivation always tells whether it is finished. It is exactly when its last
deduction has the text of the conclusion, or is the conclusion where that is lettered, and rests
only on indices below the number of premises; the lines there are the premises, all assumed. -/
theorem qed_iff_premises_alone {d : Derivation} (reachable : d.Reachable) :
    (∃ finished, d.qed = .ok finished) ∧
    (d.qed = .ok true ↔ d.RestsOnPremises (·.text = d.conclusion.text)) ∧
    (d.conclusion.Lettered → (d.qed = .ok true ↔ d.RestsOnPremises (· = d.conclusion))) ∧
    ∀ p ∈ d.lines, p.index < d.premises.length → p ∈ d.premises ∧ p.rule = .assumption := by
  have wf := reachable.wellFormed
  refine ⟨wf.exists_qed, ?_, ?_, ?_⟩
  · exact wf.qed_iff_restsOnPremises fun line _ => same_iff_text line.formula d.conclusion
  · intro lettered
    exact wf.qed_iff_restsOnPremises fun line member =>
      same_iff_eq (wf.lettered line member) lettered
  · intro p inside below
    have premise := (wf.mem_premises_iff inside).mpr below
    exact ⟨premise, (wf.premise p premise).1⟩

theorem nested_rests_on_premises :
    nested.Reachable ∧ nested.conclusion.Lettered ∧ nested.qed = .ok true ∧
    nested.RestsOnPremises (· = nested.conclusion) := by
  have a : (atom "A").Lettered := ⟨'A', by decide, rfl⟩
  have b : (atom "B").Lettered := ⟨'B', by decide, rfl⟩
  have c : (atom "C").Lettered := ⟨'C', by decide, rfl⟩
  have lettered : nested.conclusion.Lettered := ⟨a, b, c⟩
  have rests : nested.RestsOnPremises (· = nested.conclusion) :=
    ⟨⟨6, nested.conclusion, .impIntro, [1, 5]⟩, [0], rfl, rfl, rfl, by decide⟩
  have finished := ((qed_iff_premises_alone nested_reachable).2.2.1 lettered).mpr rests
  exact ⟨nested_reachable, lettered, finished, rests⟩

end NaturalDeduction
