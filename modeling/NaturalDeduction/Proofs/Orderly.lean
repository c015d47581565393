import NaturalDeduction.Proofs.Replay

/-! Order in every derivation that can be reached. Looking up what a line rests on cannot fail on
lines that stand at their indices and cite earlier ones, so no verdict of a rule, no submission and
no answer about the derivation is ever a fault, and a refused submission leaves all lines in
place. -/
namespace NaturalDeduction
open Outcome

namespace Verdict

/-- The verdict does not say that a look-up failed. -/
def Faultless (verdict : Verdict) : Prop := ∀ cause, verdict ≠ .error (.fault cause)

variable {verdict : Verdict} {rest : Unit → Verdict}

@[simp] theorem faultless_ok (accepted : Unit) : Faultless (.ok accepted) := nofun

@[simp] theorem faultless_object (cause : Violation) : Faultless (object cause) := nofun

@[simp] theorem faultless_require (condition : Prop) [Decidable condition]
    (otherwise : Violation) : Faultless (require condition otherwise) := by
  by_cases holds : condition <;> simp [require, holds]

@[simp] theorem faultless_bind :
    Faultless (verdict >>= rest) ↔
      Faultless verdict ∧ (verdict = .ok () → Faultless (rest ())) := by
  cases verdict with
  | ok => simp
  | error objection => simp [Faultless]

end Verdict

namespace Rule.Check
open Verdict

variable {lines cited : List Line} {f : Formula} {a b s d : Line}

theorem noLines_faultless : Faultless (noLines cited) := by
  unfold noLines
  split <;> simp

theorem oneLine_faultless {check : Line → Verdict} (each : ∀ a, Faultless (check a)) :
    Faultless (oneLine check cited) := by
  unfold oneLine
  split <;> simp [each]

theorem twoLines_faultless {check : Line → Line → Verdict}
    (each : ∀ a ∈ cited, ∀ b ∈ cited, Faultless (check a b)) :
    Faultless (twoLines check cited) := by
  unfold twoLines
  split
  next a b => exact each a (by simp) b (by simp)
  next => simp

section Discharging
variable (numbered : Numbered lines) (ha : a ∈ lines) (hb : b ∈ lines)
include numbered

theorem requireRests_faultless (hd : d ∈ lines) (otherwise : Violation) :
    Faultless (requireRests lines s d otherwise) := by
  obtain ⟨indices, resolves, -⟩ := dependencies_spec numbered hd
  simp [requireRests, resolves]

include ha hb

theorem impIntro_faultless : Faultless (impIntro lines f a b) := by
  unfold impIntro
  split
  next =>
    split
    next s d chosen =>
      have hd := (chosen_mem supposed?_eq_some ha hb chosen).2
      simp [requireRests_faultless numbered hd]
    next => simp
  next => simp

theorem negIntro_faultless : Faultless (negIntro lines f a b) := by
  unfold negIntro
  split
  next =>
    split
    next s c chosen =>
      have hc := (chosen_mem reductio?_eq_some ha hb chosen).2
      simp [requireRests_faultless numbered hc]
    next => simp
  next => simp

theorem negElim_faultless : Faultless (negElim lines f a b) := by
  unfold negElim
  split
  next s c chosen =>
    have hc := (chosen_mem reductio?_eq_some ha hb chosen).2
    split <;> simp [requireRests_faultless numbered hc]
  next => simp

end Discharging
end Rule.Check

open Rule.Check Verdict in
theorem Rule.evaluate_faultless {lines cited : List Line} (numbered : Numbered lines)
    (inside : ∀ line ∈ cited, line ∈ lines) (rule : Rule) (f : Formula) :
    Faultless (rule.evaluate lines f cited) := by
  cases rule with
  | assumption | supposition => exact noLines_faultless
  | impIntro =>
    exact twoLines_faultless fun a ha b hb =>
      impIntro_faultless numbered (inside a ha) (inside b hb)
  | negIntro =>
    exact twoLines_faultless fun a ha b hb =>
      negIntro_faultless numbered (inside a ha) (inside b hb)
  | negElim =>
    exact twoLines_faultless fun a ha b hb =>
      negElim_faultless numbered (inside a ha) (inside b hb)
  -- the other rules look up nothing
  | iffElim | disjIntro | conjElim | doubleNegation | deMorgan | arrow | contraposition =>
    refine oneLine_faultless fun a => ?_
    simp only [Check.iffElim, Check.disjIntro, Check.conjElim, Check.doubleNegation, reciprocal,
      Check.contraposition]
    repeat' split
    all_goals simp
  | impElim | iffIntro | conjIntro | modusTollens | disjunctiveArgument | conjunctiveArgument
  | chain =>
    refine twoLines_faultless fun a _ b _ => ?_
    simp only [Check.impElim, Check.iffIntro, Check.conjIntro, Check.modusTollens,
      Check.disjunctiveArgument, Check.conjunctiveArgument, Check.chain, requireLink]
    repeat' split
    all_goals simp
  | disjElim =>
    simp only [evaluate, threeLines, Check.disjElim]
    repeat' split
    all_goals simp

namespace Derivation
variable {d e : Derivation} {line : Line} {step : Step}

theorem vet_ne_fault (numbered : Numbered d.lines) (line : Line) (cause : Fault) :
    d.vet line ≠ .error (.fault cause) := by
  have faultless := Rule.evaluate_faultless numbered
    (fun c (member : c ∈ d.cited line.citations) => mem_of_cited member) line.rule line.formula
  unfold vet
  split
  next => simp
  next =>
    split
    next => simp
    next =>
      split
      next => simp
      next => simp
      next found => exact absurd found (faultless _)

theorem add_ne_fault (numbered : Numbered d.lines) (step : Step) (cause : Fault) :
    d.add step ≠ .error (.fault cause) := by
  rw [add]
  cases step.statement.read with
  | error => simp
  | ok f =>
    cases Rule.find step.rule with
    | error => simp
    | ok rule =>
      have vetted := vet_ne_fault numbered (Line.citing d.lines.length f rule step.citations)
      cases verdict : d.vet (Line.citing d.lines.length f rule step.citations) with
      | ok => simp [extend, verdict]
      | error refusal =>
        rw [verdict] at vetted
        simpa [extend, verdict] using vetted cause

def AddsOrRefuses (d : Derivation) (step : Step) : Prop :=
  match d.add step with
  | .ok extended => d.call (.add step) = extended ∧
      ∃ line, Line.read d.lines.length step = .ok line ∧ extended = d.grow [line]
  | .error refusal => d.call (.add step) = d ∧ ∀ cause, refusal ≠ .fault cause

theorem addsOrRefuses (numbered : Numbered d.lines) (step : Step) : d.AddsOrRefuses step := by
  unfold AddsOrRefuses
  cases adds : d.add step with
  | ok extended =>
    obtain ⟨line, reads, -, grown⟩ := add_eq_ok.mp adds
    exact ⟨by simp [call, adds], line, reads, grown⟩
  | error refusal =>
    refine ⟨by simp [call, adds], ?_⟩
    rintro cause rfl
    exact add_ne_fault numbered step cause adds

def AddsUpToRefusal (d : Derivation) (steps : List Step) : Prop :=
  ∃ added, d.call (.addAll steps) = d.grow added ∧
    List.Forall₂ Step.Asks (steps.take added.length) added ∧
    match (d.addAll steps).refusal with
    | none => added.length = steps.length
    | some refusal => (∀ cause, refusal ≠ .fault cause) ∧
        ∃ step, steps[added.length]? = some step ∧ (d.grow added).add step = .error refusal

theorem addsUpToRefusal (numbered : Numbered d.lines) (steps : List Step) :
    d.AddsUpToRefusal steps := by
  unfold AddsUpToRefusal call
  induction steps generalizing d with
  | nil => exact ⟨[], by simp, .nil, rfl⟩
  | cons step rest ih =>
    cases adds : d.add step with
    | error refusal =>
      have documented : ∀ cause, refusal ≠ .fault cause := by
        rintro cause rfl
        exact add_ne_fault numbered step cause adds
      refine ⟨[], by simp [addAll_cons, adds], .nil, ?_⟩
      simp [addAll_cons, adds, documented]
    | ok extended =>
      obtain ⟨line, reads, accepted, rfl⟩ := add_eq_ok.mp adds
      have index := Line.index_of_read reads
      obtain ⟨added, ends, asks, stops⟩ := ih (numbered_grow numbered index accepted)
      have first : step.Asks line := by rwa [Step.Asks, index]
      refine ⟨line :: added, ?_, .cons first asks, ?_⟩
      · simpa [addAll_cons, adds, ← grow_cons] using ends
      · simpa [addAll_cons, adds, ← grow_cons] using stops

theorem premises_addAll (d : Derivation) (steps : List Step) :
    (d.addAll steps).derivation.premises = d.premises := by
  induction steps generalizing d with
  | nil => rfl
  | cons step rest ih =>
    rw [addAll_cons]
    cases adds : d.add step with
    | error refusal => rfl
    | ok extended =>
      obtain ⟨line, -, -, rfl⟩ := add_eq_ok.mp adds
      exact ih (d.grow [line])

theorem premises_call (d : Derivation) (call : Call) : (d.call call).premises = d.premises := by
  cases call with
  | add step =>
    rw [Derivation.call]
    cases adds : d.add step with
    | error refusal => rfl
    | ok extended =>
      obtain ⟨line, -, -, rfl⟩ := add_eq_ok.mp adds
      rfl
  | addAll steps => exact premises_addAll d steps
  | clear => rfl

theorem premises_calls (d : Derivation) (calls : List Call) :
    (calls.foldl Derivation.call d).premises = d.premises := by
  induction calls generalizing d with
  | nil => rfl
  | cons call calls ih => rw [List.foldl_cons, ih, premises_call]

def Grounded (d : Derivation) (line : Line) : Prop :=
  ∃ indices, line.dependencies d.lines = .ok indices ∧ indices.Pairwise (· < ·) ∧
    ∀ i ∈ indices, i ≤ line.index ∧
      ∃ p ∈ d.lines, p.index = i ∧ (p ∈ d.premises ∨ p.rule = .supposition)

theorem WellFormed.grounded (wf : d.WellFormed) (member : line ∈ d.lines) : d.Grounded line := by
  obtain ⟨indices, resolves, lists⟩ := dependencies_spec wf.numbered member
  refine ⟨indices, resolves, lists.increasing, fun i listed => ?_⟩
  obtain ⟨p, inside, rfl, rests⟩ := (lists.mem_iff i).mp listed
  refine ⟨rests.index_le wf.numbered member, p, inside, rfl, ?_⟩
  simpa [Line.isSupposition] using wf.premise_or_supposition inside rests.bare

structure Orderly (premises : List Statement) (d : Derivation) : Prop where
  index_eq : ∀ (n : Nat) (line : Line), d.lines[n]? = some line → line.index = n
  stated : List.Forall₂ (fun statement line => Statement.read statement = .ok line.formula)
    premises d.premises
  premise : ∀ line ∈ d.premises, line.rule = .assumption ∧ line.citations = []
  deduction : ∀ line ∈ d.deductions, line.rule ≠ .assumption ∧
    line.citations.length = line.rule.arity ∧ line.citations.Pairwise (· ≤ ·) ∧
    ∀ i ∈ line.citations, 0 ≤ i ∧ i < line.index
  grounded : ∀ line ∈ d.lines, d.Grounded line
  openSupposition : ∀ line ∈ d.lines, ∃ supposing, line.hasOpenSupposition d.lines = .ok supposing
  qed : ∃ finished, d.qed = .ok finished
  cited : ∀ citations : List Int, (∀ i ∈ citations, 0 ≤ i ∧ i < d.lines.length) →
    (d.cited citations).map Line.index = citations
  add : ∀ step : Step, d.AddsOrRefuses step
  addAll : ∀ steps : List Step, d.AddsUpToRefusal steps

end Derivation

open Formula NaturalDeduction.Derivation

/-- Whatever calls are made on a derivation from stated premises, it stays in order: lines stand at
their indices, the premises stay, deductions cite as many earlier lines as their rules ask for, no
question about any line is ever answered with a fault, and no refused submission changes a line. -/
theorem calls_keep_order {premises : List Statement} {conclusion : Statement} {d : Derivation}
    {calls : List Call} (lettered : ∀ premise ∈ premises, premise.Lettered)
    (starts : start (premises.map .stated) conclusion = .ok d)
    (letteredCalls : ∀ call ∈ calls, call.Lettered) :
    (calls.foldl Derivation.call d).Orderly premises := by
  have wf := (Reachable.calls (.start lettered starts) letteredCalls).wellFormed
  have kept := premises_calls d calls
  generalize calls.foldl Derivation.call d = e at wf kept ⊢
  refine ⟨wf.numbered.index_eq, ?_, wf.premise, ?_, fun line => wf.grounded, ?_, wf.exists_qed,
    fun citations => map_index_cited wf.numbered, addsOrRefuses wf.numbered,
    addsUpToRefusal wf.numbered⟩
  · obtain ⟨lines, reads, starts⟩ := bind_eq_ok.mp starts
    obtain ⟨goal, -, starts⟩ := bind_eq_ok.mp starts
    cases starts
    rw [kept]
    exact read_of_readPremises reads
  · intro line member
    have inside : line ∈ e.lines := List.mem_append_right _ member
    have accepted := wf.deduction line member
    exact ⟨accepted.derived, wf.length_citations inside, wf.sorted line inside, accepted.earlier⟩
  · intro line member
    obtain ⟨supposing, decides, -⟩ := hasOpenSupposition_spec wf.numbered member
    exact ⟨supposing, decides⟩

theorem nested_in_order :
    start [.stated (.text "(B & A) → C")] (.text "A → (B → C)") = .ok nested.clear ∧
    (∀ call ∈ nestedCalls, call.Lettered) ∧ nested.deductions.length = 6 ∧
    nested.Orderly [.text "(B & A) → C"] := by
  have starts : start [.stated (.text "(B & A) → C")] (.text "A → (B → C)") = .ok nested.clear := by
    rfl
  have lettered : ∀ premise ∈ [Statement.text "(B & A) → C"], premise.Lettered := by
    simp [Statement.Lettered]
  have letteredCalls : ∀ call ∈ nestedCalls, call.Lettered := by
    simp [nestedCalls, Call.Lettered, Statement.Lettered]
  exact ⟨starts, letteredCalls, rfl, calls_keep_order lettered starts letteredCalls⟩

end NaturalDeduction
