import NaturalDeduction.Derivation
import NaturalDeduction.Proofs.Acceptance
import NaturalDeduction.Proofs.RoundTrip

/-! Derivations that can be reached: stated premises, then any calls, refused ones included. What a
call can do is said once, as an invariant of the derivation: lines stand at their indices, premises
are assumptions, and every deduction is accepted by its rule against all lines there are now, not
only against those there were when it entered. -/
namespace NaturalDeduction
open Outcome

/-- A text is lettered if it can be read at all. -/
def Statement.Lettered : Statement → Prop
  | text _ => True
  | tree formula => formula.Lettered

theorem Statement.lettered_of_read {statement : Statement} {f : Formula}
    (lettered : statement.Lettered) (reads : statement.read = .ok f) : f.Lettered := by
  cases statement with
  | text source => exact Formula.lettered_of_parse reads
  | tree formula =>
    cases reads
    exact lettered

inductive Call where
  | add (step : Step)
  | addAll (steps : List Step)
  | clear
  deriving DecidableEq, Repr

def Call.Lettered : Call → Prop
  | add step => step.statement.Lettered
  | addAll steps => ∀ step ∈ steps, step.statement.Lettered
  | clear => True

namespace Derivation

/-- The derivation that a call leaves behind, whether or not it fails. -/
def call (d : Derivation) : Call → Derivation
  | .add step =>
      match d.add step with
      | .ok extended => extended
      | .error _ => d
  | .addAll steps => (d.addAll steps).derivation
  | .clear => d.clear

inductive Reachable : Derivation → Prop where
  | start {premises : List Statement} {conclusion : Statement} {d : Derivation} :
      (∀ premise ∈ premises, premise.Lettered) →
      Derivation.start (premises.map .stated) conclusion = .ok d → Reachable d
  | call {d : Derivation} {call : Call} : Reachable d → call.Lettered → Reachable (d.call call)

variable {d e : Derivation} {line : Line}

theorem Reachable.calls {calls : List Call} (reachable : d.Reachable)
    (lettered : ∀ call ∈ calls, call.Lettered) : (calls.foldl Derivation.call d).Reachable := by
  induction calls generalizing d with
  | nil => exact reachable
  | cons call calls ih =>
    exact ih (reachable.call (lettered call (List.mem_cons_self ..)))
      fun call member => lettered call (List.mem_cons_of_mem _ member)

section Citing
variable {citations : List Int}

theorem mem_of_cited (member : line ∈ d.cited citations) : line ∈ d.lines := by
  obtain ⟨i, -, found⟩ := List.mem_filterMap.mp member
  exact List.mem_of_getElem? found

theorem map_index_cited (numbered : Numbered d.lines)
    (within : ∀ i ∈ citations, 0 ≤ i ∧ i < d.lines.length) :
    (d.cited citations).map Line.index = citations := by
  induction citations with
  | nil => rfl
  | cons i rest ih =>
    obtain ⟨low, high⟩ := within i (List.mem_cons_self ..)
    have bound : i.toNat < d.lines.length := by omega
    have found : d.lines[i.toNat]? = some d.lines[i.toNat] := List.getElem?_eq_getElem bound
    have index : d.lines[i.toNat].index = i := by
      rw [numbered.index_eq _ _ found]
      omega
    have others := ih fun j member => within j (List.mem_cons_of_mem _ member)
    simpa [cited, List.filterMap_cons, found, index] using others

theorem mem_cited (numbered : Numbered d.lines)
    (within : ∀ i ∈ citations, 0 ≤ i ∧ i < d.lines.length) :
    line ∈ d.cited citations ↔ line ∈ d.lines ∧ line.index ∈ citations := by
  have indices := map_index_cited numbered within
  constructor
  · intro member
    exact ⟨mem_of_cited member, indices ▸ List.mem_map_of_mem member⟩
  · rintro ⟨member, listed⟩
    rw [← indices] at listed
    obtain ⟨other, found, same⟩ := List.mem_map.mp listed
    rwa [← numbered.eq_of_index (mem_of_cited found) member same]

theorem cited_append {more : List Line} (grows : e.lines = d.lines ++ more)
    (within : ∀ i ∈ citations, 0 ≤ i ∧ i < d.lines.length) :
    e.cited citations = d.cited citations := by
  induction citations with
  | nil => rfl
  | cons i rest ih =>
    have others := ih fun j member => within j (List.mem_cons_of_mem _ member)
    have bound : i.toNat < d.lines.length := by
      have := within i (List.mem_cons_self ..)
      omega
    unfold cited at others ⊢
    rw [List.filterMap_cons, List.filterMap_cons, others, grows, List.getElem?_append_left bound]

end Citing

structure Accepted (d : Derivation) (line : Line) : Prop where
  derived : line.rule ≠ .assumption
  earlier : ∀ i ∈ line.citations, 0 ≤ i ∧ i < line.index
  accepted : line.rule.evaluate d.lines line.formula (d.cited line.citations) = .ok ()

theorem vet_eq_ok : d.vet line = .ok () ↔ d.Accepted line := by
  have ordered : line.citations.find? (fun citation => !isEarlier line.index citation) = none ↔
      ∀ i ∈ line.citations, 0 ≤ i ∧ i < line.index := by
    simp [isEarlier]
  unfold vet
  split
  next assumed =>
    simp only [reduceCtorEq, false_iff]
    intro accepted
    exact accepted.derived assumed
  next derived =>
    split
    next found =>
      simp only [reduceCtorEq, false_iff]
      intro accepted
      rw [ordered.mpr accepted.earlier] at found
      cases found
    next none =>
      have earlier := ordered.mp none
      split
      next accepted => simp [Accepted.mk derived earlier accepted]
      all_goals
        next refused =>
          simp only [reduceCtorEq, false_iff]
          intro accepted
          rw [accepted.accepted] at refused
          cases refused

/-- A line keeps its place however the derivation grows, and had it before. -/
theorem accepted_append {more : List Line} (bound : line.index ≤ d.lines.length)
    (grows : e.lines = d.lines ++ more) (numbered : Numbered e.lines) :
    e.Accepted line ↔ d.Accepted line := by
  have verdict (earlier : ∀ i ∈ line.citations, 0 ≤ i ∧ i < line.index) :
      line.rule.evaluate e.lines line.formula (e.cited line.citations) =
        line.rule.evaluate d.lines line.formula (d.cited line.citations) := by
    have within : ∀ i ∈ line.citations, 0 ≤ i ∧ i < d.lines.length := by
      intro i cites
      have before := earlier i cites
      omega
    rw [grows] at numbered
    rw [cited_append grows within, grows,
      Rule.evaluate_append numbered (fun cited member => mem_of_cited member)]
  constructor
  · intro accepted
    exact ⟨accepted.derived, accepted.earlier, verdict accepted.earlier ▸ accepted.accepted⟩
  · intro accepted
    exact ⟨accepted.derived, accepted.earlier,
      (verdict accepted.earlier).trans accepted.accepted⟩

structure WellFormed (d : Derivation) : Prop where
  numbered : Numbered d.lines
  lettered : ∀ line ∈ d.lines, line.formula.Lettered
  sorted : ∀ line ∈ d.lines, line.citations.Pairwise (· ≤ ·)
  premise : ∀ line ∈ d.premises, line.rule = .assumption ∧ line.citations = []
  deduction : ∀ line ∈ d.deductions, d.Accepted line

theorem readPremises_spec {statements : List Statement} {position : Nat} {lines : List Line}
    (lettered : ∀ statement ∈ statements, statement.Lettered)
    (reads : readPremises position (statements.map .stated) = .ok lines) :
    (∀ (n : Nat) (line : Line), lines[n]? = some line → line.index = (position + n : Nat)) ∧
    ∀ line ∈ lines, line.formula.Lettered ∧ line.rule = .assumption ∧ line.citations = [] := by
  induction statements generalizing position lines with
  | nil =>
    cases reads
    simp
  | cons statement statements ih =>
    obtain ⟨first, here, reads⟩ := bind_eq_ok.mp reads
    obtain ⟨others, there, reads⟩ := bind_eq_ok.mp reads
    cases reads
    obtain ⟨f, parsed, stated⟩ := bind_eq_ok.mp here
    cases stated
    have read := Statement.lettered_of_read (lettered statement (List.mem_cons_self ..))
      (mapError_eq_ok.mp parsed)
    obtain ⟨indices, assumed⟩ :=
      ih (fun statement member => lettered statement (List.mem_cons_of_mem _ member)) there
    constructor
    · intro n line found
      cases n with
      | zero =>
        cases found
        rfl
      | succ n =>
        rw [indices n line found]
        omega
    · intro line member
      rcases List.mem_cons.mp member with rfl | member
      · exact ⟨read, rfl, rfl⟩
      · exact assumed line member

theorem start_wellFormed {statements : List Statement} {conclusion : Statement}
    (lettered : ∀ statement ∈ statements, statement.Lettered)
    (starts : start (statements.map .stated) conclusion = .ok d) : d.WellFormed := by
  obtain ⟨premises, reads, starts⟩ := bind_eq_ok.mp starts
  obtain ⟨goal, -, starts⟩ := bind_eq_ok.mp starts
  cases starts
  obtain ⟨indices, assumed⟩ := readPremises_spec lettered reads
  have bare (line : Line) (member : line ∈ premises) : line.citations = [] :=
    (assumed line member).2.2
  have lines : lines ⟨premises, goal, []⟩ = premises := by simp [Derivation.lines]
  refine ⟨⟨?_, ?_⟩, ?_, ?_, fun line member => (assumed line member).2, by simp⟩
  all_goals rw [lines]
  · intro n line found
    rw [indices n line found, Nat.zero_add]
  · intro line member
    simp [bare line member]
  · intro line member
    exact (assumed line member).1
  · intro line member
    simp [bare line member]

namespace WellFormed

theorem index_lt (wf : d.WellFormed) (member : line ∈ d.lines) : line.index < d.lines.length := by
  obtain ⟨n, bound, -, index⟩ := wf.numbered.position member
  omega

theorem extend {f : Formula} {rule : Rule} {citations : List Int} (wf : d.WellFormed)
    (hf : f.Lettered) (enters : d.extend f rule citations = .ok e) : e.WellFormed := by
  obtain ⟨vetted, rfl⟩ := extend_eq_ok.mp enters
  have accepted := vet_eq_ok.mp vetted
  generalize made : Line.citing d.lines.length f rule citations = line at accepted ⊢
  have index : line.index = d.lines.length := by rw [← made, Line.citing]
  have grows : lines { d with deductions := d.deductions ++ [line] } = d.lines ++ [line] := by
    simp [lines, List.append_assoc]
  have numbered : Numbered (lines { d with deductions := d.deductions ++ [line] }) := by
    rw [grows]
    exact wf.numbered.snoc index accepted.earlier
  refine ⟨numbered, ?_, ?_, wf.premise, ?_⟩
  · rw [grows]
    intro other member
    rcases List.mem_append.mp member with member | member
    · exact wf.lettered other member
    · rw [List.mem_singleton.mp member, ← made]
      exact hf
  · rw [grows]
    intro other member
    rcases List.mem_append.mp member with member | member
    · exact wf.sorted other member
    · rw [List.mem_singleton.mp member, ← made, Line.citing, Ascending.sort_eq_insertionSort]
      exact List.pairwise_insertionSort _ citations
  · intro other member
    rcases List.mem_append.mp member with member | member
    · have inside : other ∈ d.lines := List.mem_append_right _ member
      exact (accepted_append (Int.le_of_lt (wf.index_lt inside)) grows numbered).mpr
        (wf.deduction other member)
    · rw [List.mem_singleton.mp member]
      exact (accepted_append (Int.le_of_eq index) grows numbered).mpr accepted

theorem add {step : Step} (wf : d.WellFormed) (lettered : step.statement.Lettered)
    (adds : d.add step = .ok e) : e.WellFormed := by
  obtain ⟨f, parsed, adds⟩ := bind_eq_ok.mp adds
  obtain ⟨rule, -, enters⟩ := bind_eq_ok.mp adds
  exact wf.extend (Statement.lettered_of_read lettered (mapError_eq_ok.mp parsed)) enters

theorem addAll {steps : List Step} (wf : d.WellFormed)
    (lettered : ∀ step ∈ steps, step.statement.Lettered) :
    (d.addAll steps).derivation.WellFormed := by
  induction steps generalizing d with
  | nil => exact wf
  | cons step rest ih =>
    rw [Derivation.addAll_cons]
    cases adds : d.add step with
    | error refusal => exact wf
    | ok extended =>
      exact ih (wf.add (lettered step (List.mem_cons_self ..)) adds)
        fun step member => lettered step (List.mem_cons_of_mem _ member)

theorem clear (wf : d.WellFormed) : d.clear.WellFormed where
  numbered := by
    rw [lines_clear]
    exact wf.numbered.of_append
  lettered := by
    rw [lines_clear]
    exact fun line member => wf.lettered line (List.mem_append_left _ member)
  sorted := by
    rw [lines_clear]
    exact fun line member => wf.sorted line (List.mem_append_left _ member)
  premise := wf.premise
  deduction := by simp [Derivation.clear]

theorem call {call : Call} (wf : d.WellFormed) (lettered : call.Lettered) :
    (d.call call).WellFormed := by
  cases call with
  | add step =>
    rw [Derivation.call]
    cases adds : d.add step with
    | error refusal => exact wf
    | ok extended => exact wf.add lettered adds
  | addAll steps => exact wf.addAll lettered
  | clear => exact wf.clear

end WellFormed

theorem Reachable.wellFormed (reachable : d.Reachable) : d.WellFormed := by
  induction reachable with
  | start lettered starts => exact start_wellFormed lettered starts
  | call _ lettered wf => exact wf.call lettered

end Derivation
end NaturalDeduction
