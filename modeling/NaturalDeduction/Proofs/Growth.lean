import Mathlib.Data.List.Forall2
import NaturalDeduction.Proofs.Soundness

/-! How a derivation grows. What was decided of a line stays decided when more lines follow it, so
acceptance can be asked of the finished derivation instead of at the moment of entry: a run of
submissions is accepted exactly when each one asks for a line that the finished derivation
accepts. -/
namespace NaturalDeduction
open Outcome

def Step.Asks (step : Step) (line : Line) : Prop := Line.read line.index step = .ok line

theorem Line.index_of_read {index : Int} {step : Step} {line : Line}
    (reads : Line.read index step = .ok line) : line.index = index := by
  obtain ⟨f, -, reads⟩ := bind_eq_ok.mp reads
  obtain ⟨rule, -, reads⟩ := bind_eq_ok.mp reads
  cases reads
  rfl

namespace Derivation
variable {d e : Derivation} {line : Line} {step : Step} {steps : List Step}

def grow (d : Derivation) (more : List Line) : Derivation :=
  { d with deductions := d.deductions ++ more }

@[simp] theorem lines_grow (d : Derivation) (more : List Line) :
    (d.grow more).lines = d.lines ++ more := by
  simp [lines, grow]

@[simp] theorem grow_nil (d : Derivation) : d.grow [] = d := by
  simp [grow]

theorem grow_cons (d : Derivation) (line : Line) (more : List Line) :
    d.grow (line :: more) = (d.grow [line]).grow more := by
  simp [grow]

@[simp] theorem clear_grow (d : Derivation) : d.clear.grow d.deductions = d := by
  simp [grow, clear]

theorem add_eq (d : Derivation) (step : Step) :
    d.add step = (do
      let line ← Line.read d.lines.length step
      d.vet line
      return d.grow [line]) := by
  unfold add extend Line.read grow
  cases step.statement.read with
  | error cause => simp
  | ok f =>
    cases Rule.find step.rule with
    | error cause => simp
    | ok rule => simp

theorem add_eq_ok :
    d.add step = .ok e ↔
      ∃ line, Line.read d.lines.length step = .ok line ∧ d.Accepted line ∧ e = d.grow [line] := by
  rw [add_eq, bind_eq_ok]
  refine exists_congr fun line => and_congr_right fun _ => ?_
  rw [← vet_eq_ok]
  cases verdict : d.vet line with
  | error refusal => simp
  | ok accepted => simp [eq_comm]

theorem numbered_grow (numbered : Numbered d.lines) (index : line.index = d.lines.length)
    (accepted : d.Accepted line) : Numbered (d.grow [line]).lines := by
  rw [lines_grow]
  exact numbered.snoc index accepted.earlier

theorem index_of_grow {more : List Line} (numbered : Numbered (d.grow (line :: more)).lines) :
    line.index = d.lines.length := by
  refine numbered.index_eq d.lines.length line ?_
  rw [lines_grow, List.getElem?_append_right (Nat.le_refl _), Nat.sub_self]
  rfl

/-- A run is accepted in full exactly when its submissions ask one by one for lines that the
finished derivation accepts. -/
theorem addAll_eq_iff (numbered : Numbered d.lines) :
    d.addAll steps = ⟨e, none⟩ ↔
      ∃ added, e = d.grow added ∧ Numbered e.lines ∧ List.Forall₂ Step.Asks steps added ∧
        ∀ line ∈ added, e.Accepted line := by
  -- a line is vetted against the lines before it; `accepted_append` moves that to the end and back
  induction steps generalizing d with
  | nil =>
    constructor
    · intro accepted
      cases accepted
      exact ⟨[], by simp, numbered, .nil, by simp⟩
    · rintro ⟨added, rfl, -, asks, -⟩
      cases asks
      rw [grow_nil]
      rfl
  | cons step rest ih =>
    constructor
    · intro accepted
      rw [addAll_cons] at accepted
      cases adds : d.add step with
      | error refusal => simp [adds] at accepted
      | ok extended =>
        simp only [adds] at accepted
        obtain ⟨line, reads, enters, rfl⟩ := add_eq_ok.mp adds
        have index := Line.index_of_read reads
        have next := numbered_grow numbered index enters
        have first : step.Asks line := by rwa [Step.Asks, index]
        obtain ⟨added, rfl, finished, asks, vetted⟩ := (ih next).mp accepted
        rw [← grow_cons] at finished vetted ⊢
        refine ⟨line :: added, rfl, finished, .cons first asks, ?_⟩
        refine List.forall_mem_cons.mpr ⟨?_, vetted⟩
        exact (accepted_append (Int.le_of_eq index) (lines_grow d _) finished).mpr enters
    · rintro ⟨added, rfl, finished, asks, vetted⟩
      cases asks with
      | @cons _ line _ more first others =>
        obtain ⟨vettedFirst, vettedOthers⟩ := List.forall_mem_cons.mp vetted
        have index := index_of_grow finished
        have enters := (accepted_append (Int.le_of_eq index) (lines_grow d _) finished).mp
          vettedFirst
        rw [Step.Asks, index] at first
        have adds : d.add step = .ok (d.grow [line]) := add_eq_ok.mpr ⟨line, first, enters, rfl⟩
        have next : Numbered (d.grow [line]).lines := by
          rw [grow_cons, lines_grow] at finished
          exact finished.of_append
        simp only [addAll_cons, adds]
        exact (ih next).mpr ⟨more, grow_cons d line more, finished, others, vettedOthers⟩

end Derivation

open Formula NaturalDeduction.Derivation

/-- What was decided of the lines of a derivation stays decided however it grows: what each rests
on, whether a supposition is open, and the verdict of every rule on any of them. So every
deduction is accepted against the finished derivation too. -/
theorem growth_keeps_decisions {d : Derivation} {more : List Line}
    (reachable : (d.grow more).Reachable) :
    (∀ line ∈ d.lines,
      (∃ indices, line.dependencies d.lines = .ok indices ∧
        line.dependencies (d.grow more).lines = .ok indices) ∧
      ∃ supposing, line.hasOpenSupposition d.lines = .ok supposing ∧
        line.hasOpenSupposition (d.grow more).lines = .ok supposing) ∧
    (∀ (rule : Rule) (f : Formula) (cited : List Line), (∀ line ∈ cited, line ∈ d.lines) →
      rule.evaluate (d.grow more).lines f cited = rule.evaluate d.lines f cited) ∧
    ∀ line ∈ (d.grow more).deductions,
      line.rule.evaluate (d.grow more).lines line.formula ((d.grow more).cited line.citations) =
        .ok () := by
  have wf := reachable.wellFormed
  have numbered : Numbered (d.lines ++ more) := lines_grow d more ▸ wf.numbered
  refine ⟨?_, ?_, fun line member => (wf.deduction line member).accepted⟩
  · intro line member
    obtain ⟨indices, resolves, -⟩ := dependencies_spec numbered.of_append member
    obtain ⟨supposing, decides, -⟩ := hasOpenSupposition_spec numbered.of_append member
    rw [lines_grow, dependencies_append numbered member, hasOpenSupposition_append numbered member]
    exact ⟨⟨indices, resolves, resolves⟩, supposing, decides, decides⟩
  · intro rule f cited inside
    rw [lines_grow]
    exact Rule.evaluate_append numbered inside rule f

/-- From (B & A) → C to A → (B → C) with two suppositions, one inside the other: a false start with
a refused line, cleared, then the whole derivation at once. -/
def nestedCalls : List Call :=
  [.add ⟨.text "A", "S", []⟩, .add ⟨.text "B", "& O", [0]⟩, .clear,
    .addAll [⟨.text "A", "S", []⟩, ⟨.text "B", "S", []⟩, ⟨.text "B Λ A", "& I", [1, 2]⟩,
      ⟨.text "C", "→O", [3, 0]⟩, ⟨.text "B => C", "→ I", [2, 4]⟩,
      ⟨.text "A → (B → C)", "→ I", [1, 5]⟩]]

def nested : Derivation :=
  nestedCalls.foldl Derivation.call
    ⟨[⟨0, .imp (.conj (atom "B") (atom "A")) (atom "C"), .assumption, []⟩],
      .imp (atom "A") (.imp (atom "B") (atom "C")), []⟩

theorem nested_reachable : nested.Reachable := by
  refine Reachable.calls (@Reachable.start [.text "(B & A) → C"] (.text "A → (B → C)") _ ?_ rfl) ?_
  · simp [Statement.Lettered]
  · simp [nestedCalls, Call.Lettered, Statement.Lettered]

theorem nested_keeps_decisions :
    ∃ d more, nested = Derivation.grow d more ∧ more.length = 3 ∧ nested.Reachable ∧
      (∀ line ∈ d.lines, ∃ indices, line.dependencies d.lines = .ok indices ∧
        line.dependencies nested.lines = .ok indices) ∧
      ∀ line ∈ nested.deductions,
        line.rule.evaluate nested.lines line.formula (nested.cited line.citations) = .ok () := by
  have whole : nested = { nested with deductions := nested.deductions.take 3 }.grow
      (nested.deductions.drop 3) := by
    simp [grow]
  have kept := growth_keeps_decisions (whole ▸ nested_reachable)
  rw [← whole] at kept
  exact ⟨_, _, whole, rfl, nested_reachable, fun line member => (kept.1 line member).1, kept.2.2⟩

end NaturalDeduction
