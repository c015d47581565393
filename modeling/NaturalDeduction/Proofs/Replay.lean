import NaturalDeduction.Proofs.Growth
import NaturalDeduction.Record.Check

/-! A derivation is rebuilt from what is stored of it. Its premises are read back at their places,
each deduction is what its own entry asks for, and since every deduction is accepted against the
finished derivation, submitting the entries in order accepts them all and gives the derivation
back. So checking the stored record reports what holds of the derivation itself. -/
namespace NaturalDeduction
open Outcome

theorem Formula.parse_text {f : Formula} (lettered : f.Lettered)
    (shallow : f.levels false ≤ nestingLimit) : parse f.text = .ok f := by
  rw [text, parse_rendering lettered false, if_pos shallow]

def Entry.Integral (entry : Entry) : Prop := ∀ citation ∈ entry.citations, citation.isInt = true

def Entry.step (entry : Entry) : Step :=
  ⟨.text entry.formula, entry.rule, entry.citations.map Number.value⟩

theorem Line.integral_entry (line : Line) : line.entry.Integral := by
  simp [Line.entry, Entry.Integral, Number.isInt]

theorem Line.asks_entry {line : Line} (lettered : line.formula.Lettered)
    (shallow : line.formula.levels false ≤ Formula.nestingLimit)
    (sorted : line.citations.Pairwise (· ≤ ·)) : line.entry.step.Asks line := by
  have citations : (line.citations.map Number.int).map Number.value = line.citations := by
    rw [List.map_map]
    exact List.map_id _
  simp only [Step.Asks, Line.read, Line.entry, Entry.step, Statement.read, Line.citing, citations,
    Formula.parse_text lettered shallow, Rule.find_shorthand, Ascending.sort_eq_insertionSort,
    sorted.insertionSort_eq, mapError_ok, ok_bind, pure_eq_ok]

namespace Derivation
variable {d e : Derivation} {entry : Entry} {entries : List Entry}

theorem submit_of_integral (integral : entry.Integral) (d : Derivation) :
    d.submit entry = d.add entry.step := by
  rw [submit, List.all_eq_true.mpr integral]
  rfl

theorem submitAll_of_integral (integral : ∀ entry ∈ entries, entry.Integral) (d : Derivation) :
    d.submitAll entries = d.addAll (entries.map Entry.step) := by
  induction entries generalizing d with
  | nil => rfl
  | cons entry rest ih =>
    obtain ⟨first, others⟩ := List.forall_mem_cons.mp integral
    rw [List.map_cons, addAll_cons, submitAll, runAll, submit_of_integral first]
    cases d.add entry.step with
    | error refusal => rfl
    | ok extended => exact ih others extended

theorem integral_of_submit (accepted : d.submit entry = .ok e) : entry.Integral := by
  obtain ⟨f, -, accepted⟩ := bind_eq_ok.mp accepted
  obtain ⟨rule, -, accepted⟩ := bind_eq_ok.mp accepted
  split at accepted
  next integral => exact List.all_eq_true.mp integral
  next => cases accepted

theorem read_of_readPremises {statements : List Statement} {position : Nat} {lines : List Line}
    (reads : readPremises position (statements.map .stated) = .ok lines) :
    List.Forall₂ (fun statement line => Statement.read statement = .ok line.formula)
      statements lines := by
  induction statements generalizing position lines with
  | nil =>
    cases reads
    exact .nil
  | cons statement statements ih =>
    obtain ⟨first, here, reads⟩ := bind_eq_ok.mp reads
    obtain ⟨others, there, reads⟩ := bind_eq_ok.mp reads
    cases reads
    obtain ⟨f, parsed, stated⟩ := bind_eq_ok.mp here
    cases stated
    exact .cons (mapError_eq_ok.mp parsed) (ih there)

theorem readPremises_stated (state : Line → Statement) {lines : List Line} {position : Nat}
    (indices : ∀ (n : Nat) (line : Line), lines[n]? = some line → line.index = (position + n : Nat))
    (assumed : ∀ line ∈ lines, line.rule = .assumption ∧ line.citations = [])
    (reads : ∀ line ∈ lines, (state line).read = .ok line.formula) :
    readPremises position (lines.map fun line => .stated (state line)) = .ok lines := by
  induction lines generalizing position with
  | nil => rfl
  | cons line rest ih =>
    obtain ⟨assumedFirst, assumedRest⟩ := List.forall_mem_cons.mp assumed
    obtain ⟨readsFirst, readsRest⟩ := List.forall_mem_cons.mp reads
    have later (n : Nat) (other : Line) (found : rest[n]? = some other) :
        other.index = (position + 1 + n : Nat) := by
      rw [indices (n + 1) other found]
      omega
    have others := ih later assumedRest readsRest
    have index : line.index = position := indices 0 line rfl
    have first : Line.citing position line.formula .assumption [] = line := by
      rw [← index, ← assumedFirst.1, Line.citing, Ascending.sort, Ascending.sortBy,
        ← assumedFirst.2]
    simp [readPremises, Premise.read, readsFirst, first, others]

namespace WellFormed

theorem start_eq_clear (wf : d.WellFormed) (state : Line → Statement) {goal : Statement}
    (reads : ∀ line ∈ d.premises, (state line).read = .ok line.formula)
    (readsGoal : goal.read = .ok d.conclusion) :
    start (d.premises.map fun line => .stated (state line)) goal = .ok d.clear := by
  have indices : ∀ (n : Nat) (line : Line), d.premises[n]? = some line →
      line.index = (0 + n : Nat) := by
    intro n line found
    have bound : n < d.premises.length := (List.getElem?_eq_some_iff.mp found).1
    rw [Nat.zero_add]
    exact wf.numbered.index_eq n line (by rw [lines, List.getElem?_append_left bound, found])
  simp [start, readPremises_stated state indices wf.premise reads, readsGoal, Derivation.clear]

/-- Submissions that ask for the deductions in turn are all accepted and rebuild the derivation. -/
theorem addAll_clear (wf : d.WellFormed) {steps : List Step}
    (asks : List.Forall₂ Step.Asks steps d.deductions) : d.clear.addAll steps = ⟨d, none⟩ :=
  (addAll_eq_iff wf.clear.numbered).mpr
    ⟨d.deductions, (clear_grow d).symm, wf.numbered, asks, wf.deduction⟩

theorem submit (wf : d.WellFormed) (accepted : d.submit entry = .ok e) : e.WellFormed := by
  -- a stored line is text, so nothing unlettered enters
  have lettered : entry.step.statement.Lettered := trivial
  rw [submit_of_integral (integral_of_submit accepted)] at accepted
  exact wf.add lettered accepted

theorem submitAll (wf : d.WellFormed) (entries : List Entry) :
    (d.submitAll entries).derivation.WellFormed := by
  induction entries generalizing d with
  | nil => exact wf
  | cons entry rest ih =>
    rw [Derivation.submitAll, runAll]
    cases submits : d.submit entry with
    | error refusal => exact wf
    | ok extended => exact ih (wf.submit submits)

theorem exists_qed (wf : d.WellFormed) : ∃ finished, d.qed = .ok finished := by
  unfold qed
  cases last : d.last? with
  | none => exact ⟨false, rfl⟩
  | some line =>
    obtain ⟨supposing, decides, -⟩ := hasOpenSupposition_spec wf.numbered (last_mem last)
    by_cases same : line.formula.Same d.conclusion
    · exact ⟨!supposing, by simp [same, decides]⟩
    · exact ⟨false, by simp [same]⟩

theorem exists_lastDependencies (wf : d.WellFormed) :
    ∃ indices, Record.lastDependencies d = .ok indices ∧
      match d.last? with
      | some last => last.dependencies d.lines = .ok indices
      | none => indices = [] := by
  unfold Record.lastDependencies
  cases last : d.last? with
  | none => exact ⟨[], rfl, rfl⟩
  | some line =>
    obtain ⟨indices, resolves, -⟩ := dependencies_spec wf.numbered (last_mem last)
    exact ⟨indices, resolves, resolves⟩

end WellFormed

def record (d : Derivation) (title : Option String) (chapter : Option Number) : Record :=
  ⟨d.premises.map fun line => line.formula.text, d.conclusion.text, d.entries, title, chapter⟩

section Stored
variable (wf : d.WellFormed)
  (shallow : ∀ line ∈ d.lines, line.formula.levels false ≤ Formula.nestingLimit)
  (title : Option String) (chapter : Option Number)
include wf shallow

theorem start_record (reads : Formula.parse d.conclusion.text = .ok d.conclusion) :
    (d.record title chapter).start = .ok d.clear := by
  rw [Record.start, record, List.map_map]
  refine wf.start_eq_clear (fun line => .text line.formula.text) (fun line member => ?_) reads
  have inside : line ∈ d.lines := List.mem_append_left _ member
  exact Formula.parse_text (wf.lettered line inside) (shallow line inside)

theorem submitAll_record : d.clear.submitAll (d.record title chapter).lines = ⟨d, none⟩ := by
  rw [record, entries, submitAll_of_integral (by simp [Line.integral_entry])]
  refine wf.addAll_clear ?_
  rw [List.map_map, List.forall₂_map_left_iff, List.forall₂_same]
  intro line member
  have inside : line ∈ d.lines := List.mem_append_right _ member
  exact line.asks_entry (wf.lettered line inside) (shallow line inside) (wf.sorted line inside)

end Stored
end Derivation

theorem Record.wellFormed_of_start {record : Record} {d : Derivation}
    (starts : record.start = .ok d) : d.WellFormed := by
  refine @Derivation.start_wellFormed d (record.premises.map .text) (.text record.conclusion) ?_ ?_
  · simp [Statement.Lettered]
  · rw [List.map_map]
    exact starts

theorem Record.check_of_accepted {record : Record} {d e : Derivation} {finished : Bool}
    {indices : List Int} (starts : record.start = .ok d)
    (accepted : d.submitAll record.lines = ⟨e, none⟩) (decides : e.qed = .ok finished)
    (resolves : lastDependencies e = .ok indices) :
    record.check =
      .ok ⟨record.title, e.deductions.length, record.lines.length, finished, indices, none⟩ := by
  simp [check, starts, accepted, decides, resolves]

open Formula NaturalDeduction.Derivation

/-- The record of a reachable derivation, checked, is valid and reports all its deductions, its
verdict and what its last line rests on; and the check rebuilds the derivation itself, line by
line. -/
theorem record_replays {d : Derivation} (reachable : d.Reachable)
    (lettered : d.conclusion.Lettered) (shallow : d.conclusion.levels false ≤ nestingLimit)
    (shallowLines : ∀ line ∈ d.lines, line.formula.levels false ≤ nestingLimit)
    (title : Option String) (chapter : Option Number) :
    (∃ report, (d.record title chapter).check = .ok report ∧ report.valid = true ∧
      report.accepted = d.deductions.length ∧ report.total = d.deductions.length ∧
      d.qed = .ok report.qed ∧
      match d.last? with
      | some last => last.dependencies d.lines = .ok report.dependencies
      | none => report.dependencies = []) ∧
    (d.record title chapter).start = .ok d.clear ∧
    d.clear.submitAll (d.record title chapter).lines = ⟨d, none⟩ := by
  have wf := reachable.wellFormed
  have starts := start_record wf shallowLines title chapter (parse_text lettered shallow)
  have accepted := submitAll_record wf shallowLines title chapter
  obtain ⟨finished, decides⟩ := wf.exists_qed
  obtain ⟨indices, resolves, last⟩ := wf.exists_lastDependencies
  have total : (d.record title chapter).lines.length = d.deductions.length := by
    simp [record, entries]
  exact ⟨⟨_, Record.check_of_accepted starts accepted decides resolves, rfl, rfl, total, decides,
    last⟩, starts, accepted⟩

theorem nested_replays :
    nested.Reachable ∧ nested.conclusion.Lettered ∧
    nested.conclusion.levels false ≤ nestingLimit ∧
    (∀ line ∈ nested.lines, line.formula.levels false ≤ nestingLimit) ∧
    (∃ report, (nested.record (some "Exportation") none).check = .ok report ∧
      report.valid = true ∧ report.accepted = 6 ∧ report.total = 6 ∧ report.qed = true ∧
      report.dependencies = [0]) ∧
    nested.clear.submitAll (nested.record (some "Exportation") none).lines = ⟨nested, none⟩ := by
  have a : (atom "A").Lettered := ⟨'A', by decide, rfl⟩
  have b : (atom "B").Lettered := ⟨'B', by decide, rfl⟩
  have c : (atom "C").Lettered := ⟨'C', by decide, rfl⟩
  have lettered : nested.conclusion.Lettered := ⟨a, b, c⟩
  have shallow : nested.conclusion.levels false ≤ nestingLimit := by decide
  have shallowLines : ∀ line ∈ nested.lines, line.formula.levels false ≤ nestingLimit := by decide
  obtain ⟨⟨report, checks, valid, accepted, total, decides, last⟩, -, rebuilds⟩ :=
    record_replays nested_reachable lettered shallow shallowLines (some "Exportation") none
  have finished : nested.qed = .ok true := by rfl
  have resolves : Except.ok (ε := Fault) [0] = .ok report.dependencies := last
  exact ⟨nested_reachable, lettered, shallow, shallowLines,
    ⟨report, checks, valid, accepted, total, Except.ok.inj (decides.symm.trans finished),
      (Except.ok.inj resolves).symm⟩, rebuilds⟩

end NaturalDeduction
