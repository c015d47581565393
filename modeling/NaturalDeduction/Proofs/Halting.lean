import NaturalDeduction.Proofs.Orderly

/-! When checking a record does not end in a report. The derivation that a check builds never strays
from well-formedness, so no look-up in it fails; but a line may be cited by a whole number that is
not an integer. Such a number counts as earlier or not like any other, yet names no line. -/
namespace NaturalDeduction
open Outcome

namespace Derivation
variable {d : Derivation} {entry : Entry} {cause : Fault}

/-- The line can be read, its rule is one to derive by, and all it cites are numbers of earlier
lines, but they are not all integers. -/
structure Unindexed (d : Derivation) (entry : Entry) : Prop where
  formula : ∃ f, Formula.parse entry.formula = .ok f
  rule : ∃ rule, Rule.find entry.rule = .ok rule ∧ rule ≠ .assumption
  earlier : ∀ citation ∈ entry.citations, 0 ≤ citation.value ∧ citation.value < d.lines.length
  real : ∃ citation ∈ entry.citations, citation.isInt = false

theorem refusal_eq_fault_iff {rule : Rule} {citations : List Number} :
    d.refusal rule citations = .fault cause ↔
      cause = .notInteger ∧ rule ≠ .assumption ∧
        ∀ citation ∈ citations, 0 ≤ citation.value ∧ citation.value < d.lines.length := by
  have earlier : (Ascending.sortBy Number.value citations).find?
        (fun citation => !isEarlier d.lines.length citation.value) = none ↔
      ∀ citation ∈ citations, 0 ≤ citation.value ∧ citation.value < d.lines.length := by
    rw [Ascending.sortBy_eq_insertionSort]
    simp [isEarlier]
  rw [← earlier]
  unfold refusal
  split
  next assumed => simp [assumed]
  next derived =>
    split
    next late => simp [late]
    next none => simp [none, derived, eq_comm]

theorem submit_eq_fault_iff (numbered : Numbered d.lines) :
    d.submit entry = .error (.fault cause) ↔ cause = .notInteger ∧ d.Unindexed entry := by
  constructor
  · intro fails
    have mixed : ¬ entry.Integral := by
      intro integral
      rw [submit_of_integral integral] at fails
      exact add_ne_fault numbered _ _ fails
    have real : ∃ citation ∈ entry.citations, citation.isInt = false := by
      simpa [Entry.Integral] using mixed
    have notAll : entry.citations.all Number.isInt = false := by simpa using real
    rw [submit, notAll] at fails
    cases parsed : Formula.parse entry.formula with
    | error => simp [parsed] at fails
    | ok f =>
      cases found : Rule.find entry.rule with
      | error => simp [parsed, found] at fails
      | ok rule =>
        have fault : d.refusal rule entry.citations = .fault cause := by
          simpa [parsed, found] using fails
        obtain ⟨only, derived, earlier⟩ := refusal_eq_fault_iff.mp fault
        exact ⟨only, ⟨f, parsed⟩, ⟨rule, found, derived⟩, earlier, real⟩
  · rintro ⟨rfl, ⟨f, parsed⟩, ⟨rule, found, derived⟩, earlier, real⟩
    have notAll : entry.citations.all Number.isInt = false := by simpa using real
    have fault := refusal_eq_fault_iff.mpr ⟨rfl, derived, earlier⟩
    simp [submit, parsed, found, notAll, fault]

end Derivation

namespace Record
open NaturalDeduction.Derivation
variable {record : Record}

/-- The lines of the record are accepted up to one that cites numbers which are not all integers. -/
def Halts (record : Record) : Prop :=
  ∃ d first entry more e, record.start = .ok d ∧ record.lines = first ++ entry :: more ∧
    d.submitAll first = ⟨e, none⟩ ∧ e.Unindexed entry

theorem numbered_of_accepted {d e : Derivation} {entries : List Entry}
    (starts : record.start = .ok d) (accepted : d.submitAll entries = ⟨e, none⟩) :
    Numbered e.lines := by
  have wf := (wellFormed_of_start starts).submitAll entries
  rw [accepted] at wf
  exact wf.numbered

theorem exists_report (goesOn : ¬ record.Halts) : ∃ report, record.check = .ok report := by
  cases starts : record.start with
  | error cause => exact ⟨_, by rw [check, starts]; rfl⟩
  | ok d =>
    have wf := (wellFormed_of_start starts).submitAll record.lines
    cases run : d.submitAll record.lines with
    | mk e refusal =>
      rw [run] at wf
      cases refusal with
      | none =>
        obtain ⟨finished, decides⟩ := wf.exists_qed
        obtain ⟨indices, resolves, -⟩ := wf.exists_lastDependencies
        exact ⟨_, check_of_accepted starts run decides resolves⟩
      | some cause =>
        obtain ⟨first, entry, more, spelled, accepted, fails⟩ := runAll_eq_refused_iff.mp run
        cases cause with
        | fault cause =>
          -- the only fault left is that of a line which halts
          have numbered := numbered_of_accepted starts accepted
          obtain ⟨-, unindexed⟩ := (submit_eq_fault_iff numbered).mp fails
          exact absurd ⟨d, first, entry, more, e, starts, spelled, accepted, unindexed⟩ goesOn
        | _ => exact ⟨_, by simp only [check, starts, run]; rfl⟩

theorem not_halts_of_integral (integral : ∀ entry ∈ record.lines, entry.Integral) :
    ¬ record.Halts := by
  rintro ⟨d, first, entry, more, e, -, spelled, -, unindexed⟩
  obtain ⟨citation, member, real⟩ := unindexed.real
  have whole := integral entry (by simp [spelled]) citation member
  simp [real] at whole

end Record
end NaturalDeduction
