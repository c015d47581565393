import NaturalDeduction.Proofs.Derivability
import NaturalDeduction.Proofs.Orderly

/-! Checking a record is submitting its lines one call after another. The check accepts the longest
run of lines from the first on that such calls accept, on the derivation that they leave, and
reports the refusal of the line after it; what stands further on in the record is never looked at. A
problem that cannot be read is reported by the first of its texts that cannot. -/
namespace NaturalDeduction
open Outcome

namespace Derivation
variable {d e : Derivation} {step : Step} {first more : List Step} {refusal : Rejection}

def submitEach (d : Derivation) (steps : List Step) : Except Rejection Derivation :=
  steps.foldlM add d

def Accepts (d : Derivation) (steps : List Step) : Prop := ∃ e, d.submitEach steps = .ok e

theorem submitEach_cons (d : Derivation) (step : Step) (rest : List Step) :
    d.submitEach (step :: rest) = d.add step >>= (submitEach · rest) := rfl

theorem submitEach_append (d : Derivation) (first more : List Step) :
    d.submitEach (first ++ more) = d.submitEach first >>= (submitEach · more) := by
  simp [submitEach, List.foldlM_append]

theorem addAll_of_submitEach (accepts : d.submitEach first = .ok e) :
    d.addAll first = ⟨e, none⟩ := by
  induction first generalizing d with
  | nil =>
    cases accepts
    rfl
  | cons step rest ih =>
    rw [submitEach_cons] at accepts
    obtain ⟨next, adds, accepts⟩ := bind_eq_ok.mp accepts
    simp only [addAll_cons, adds]
    exact ih accepts

theorem length_of_submitEach (accepts : d.submitEach first = .ok e) :
    e.deductions.length = d.deductions.length + first.length := by
  induction first generalizing d with
  | nil =>
    cases accepts
    rfl
  | cons step rest ih =>
    rw [submitEach_cons] at accepts
    obtain ⟨next, adds, accepts⟩ := bind_eq_ok.mp accepts
    obtain ⟨line, -, -, rfl⟩ := add_eq_ok.mp adds
    have grown : (d.grow [line]).deductions.length = d.deductions.length + 1 := by simp [grow]
    rw [ih accepts, grown, List.length_cons]
    omega

theorem longest_of_accepted (accepts : d.submitEach first = .ok e) :
    LongestBeginning d.Accepts first first.length where
  within := Nat.le_refl _
  holds := ⟨e, by rw [List.take_length, accepts]⟩
  longest _ bound _ := bound

theorem longest_of_refusal (accepts : d.submitEach first = .ok e)
    (refused : e.add step = .error refusal) :
    LongestBeginning d.Accepts (first ++ step :: more) first.length := by
  refine .of_append ⟨e, accepts⟩ fun n further => ?_
  cases n with
  | zero => rfl
  | succ n =>
    obtain ⟨last, further⟩ := further
    rw [List.take_succ_cons, submitEach_append, accepts, ok_bind, submitEach_cons, refused]
      at further
    cases further

theorem readPremises_append {texts : List String}
    (reads : ∀ text ∈ texts, ∃ f, Formula.parse text = .ok f) (rest : List Premise)
    (position : Nat) :
    ∃ lines, readPremises position ((texts.map fun text => .stated (.text text)) ++ rest) =
      (readPremises (position + texts.length) rest).map (lines ++ ·) := by
  induction texts generalizing position with
  | nil =>
    refine ⟨[], ?_⟩
    rw [List.map_nil, List.nil_append, List.length_nil, Nat.add_zero]
    cases readPremises position rest <;> rfl
  | cons text texts ih =>
    obtain ⟨⟨f, here⟩, others⟩ := List.forall_mem_cons.mp reads
    obtain ⟨lines, later⟩ := ih others (position + 1)
    refine ⟨Line.citing position f .assumption [] :: lines, ?_⟩
    rw [Nat.add_assoc, Nat.add_comm 1] at later
    simp only [List.map_cons, List.cons_append, readPremises, Premise.read, Statement.read, here,
      mapError_ok, ok_bind, later, List.length_cons]
    cases readPremises (position + (texts.length + 1)) rest <;> rfl

end Derivation

def Report.failedLine? (report : Report) : Option Nat := report.failure.bind Failure.position?

def Report.error? (report : Report) : Option String := report.failure.map Failure.message

structure Report.Stopped (report : Report) (accepted : Nat) (line? : Option Nat)
    (message : String) : Prop where
  accepted : report.accepted = accepted
  failedLine : report.failedLine? = line?
  error : report.error? = some message
  qed : report.qed = false
  dependencies : report.dependencies = []

structure Report.Completed (report : Report) (d : Derivation) : Prop where
  valid : report.valid = true
  accepted : report.accepted = report.total
  failedLine : report.failedLine? = none
  error : report.error? = none
  qed : d.qed = .ok report.qed
  dependencies :
    match d.last? with
    | some last => last.dependencies d.lines = .ok report.dependencies
    | none => report.dependencies = []

namespace Record
open NaturalDeduction.Derivation

def texts (record : Record) : List String := record.premises ++ [record.conclusion]

def steps (record : Record) : List Step := record.lines.map Entry.step

/-- The same problem with the same lines up to a position and at it. -/
structure AgreesThrough (record : Record) (position : Nat) (other : Record) : Prop where
  premises : other.premises = record.premises
  conclusion : other.conclusion = record.conclusion
  title : other.title = record.title
  lines : other.lines.take (position + 1) = record.lines.take (position + 1)

variable {record other : Record} {d e : Derivation} {first more : List Entry} {entry : Entry}
  {refusal : Rejection}

theorem deductions_of_start (starts : record.start = .ok d) : d.deductions = [] := by
  obtain ⟨lines, -, starts⟩ := bind_eq_ok.mp starts
  obtain ⟨goal, -, starts⟩ := bind_eq_ok.mp starts
  cases starts
  rfl

theorem exists_start (reads : ∀ text ∈ record.texts, ∃ f, Formula.parse text = .ok f) :
    ∃ d, record.start = .ok d := by
  obtain ⟨premises, conclusion⟩ := List.forall_mem_append.mp reads
  obtain ⟨lines, stated⟩ := readPremises_append premises [] 0
  obtain ⟨goal, concludes⟩ := conclusion record.conclusion (List.mem_singleton_self _)
  rw [List.append_nil] at stated
  refine ⟨⟨lines ++ [], goal, []⟩, ?_⟩
  rw [start, Derivation.start, stated]
  simp [readPremises, Statement.read, concludes, Except.map]

theorem start_of_unreadable {before after : List String} {text : String} {cause : ParseError}
    (spelled : record.texts = before ++ text :: after)
    (reads : ∀ earlier ∈ before, ∃ f, Formula.parse earlier = .ok f)
    (fails : Formula.parse text = .error cause) : record.start = .error (.parse cause) := by
  rw [texts] at spelled
  rcases List.eq_nil_or_concat after with rfl | ⟨later, last, rfl⟩
  · obtain ⟨premises, conclusion⟩ := List.append_inj' spelled rfl
    obtain ⟨lines, stated⟩ := readPremises_append reads [] 0
    rw [List.append_nil] at stated
    rw [start, Derivation.start, premises, stated, (List.cons.inj conclusion).1]
    simp [readPremises, Statement.read, fails, Except.map]
  · rw [List.concat_eq_append, ← List.cons_append, ← List.append_assoc] at spelled
    obtain ⟨premises, -⟩ := List.append_inj' spelled rfl
    obtain ⟨lines, stated⟩ := readPremises_append reads
      ((text :: later).map fun text => .stated (.text text)) 0
    rw [← List.map_append] at stated
    rw [start, Derivation.start, premises, stated]
    simp [readPremises, Premise.read, Statement.read, fails, Except.map]

theorem check_of_refused (starts : record.start = .ok d)
    (spelled : record.lines = first ++ entry :: more) (earlier : ∀ entry ∈ first, entry.Integral)
    (integral : entry.Integral) (accepts : d.submitEach (first.map Entry.step) = .ok e)
    (refused : e.add entry.step = .error refusal) :
    record.check = .ok (record.refused first.length (.line first.length refusal)) := by
  have accepted := (submitAll_of_integral earlier d).trans (addAll_of_submitEach accepts)
  have run : d.submitAll record.lines = ⟨e, some refusal⟩ := by
    refine runAll_eq_refused_iff.mpr ⟨first, entry, more, spelled, accepted, ?_⟩
    rw [submit_of_integral integral, refused]
  have wf := (wellFormed_of_start starts).submitAll record.lines
  rw [run] at wf
  have counted := length_of_submitEach accepts
  rw [deductions_of_start starts, List.length_nil, Nat.zero_add, List.length_map] at counted
  simp only [check, starts, run, counted]
  -- on integers the refusal is never a fault, so the check does report it
  cases refusal with
  | fault cause => exact absurd refused (add_ne_fault wf.numbered entry.step cause)
  | _ => rfl

theorem completed_of_accepted (starts : record.start = .ok d)
    (integral : ∀ entry ∈ record.lines, entry.Integral)
    (accepts : d.submitEach record.steps = .ok e) :
    ∃ report, record.check = .ok report ∧ report.total = record.lines.length ∧
      report.Completed e := by
  have run := (submitAll_of_integral integral d).trans (addAll_of_submitEach accepts)
  have wf := (wellFormed_of_start starts).submitAll record.lines
  rw [run] at wf
  obtain ⟨finished, decides⟩ := wf.exists_qed
  obtain ⟨indices, resolves, last⟩ := wf.exists_lastDependencies
  have counted := length_of_submitEach accepts
  rw [deductions_of_start starts, List.length_nil, Nat.zero_add, steps, List.length_map] at counted
  exact ⟨_, check_of_accepted starts run decides resolves, rfl, rfl, counted, rfl, rfl, decides,
    last⟩

theorem length_steps (record : Record) : record.steps.length = record.lines.length :=
  List.length_map ..

theorem AgreesThrough.start_eq {position : Nat} (agrees : record.AgreesThrough position other) :
    other.start = record.start := by
  rw [start, agrees.premises, agrees.conclusion, start]

theorem AgreesThrough.exists_lines (agrees : record.AgreesThrough first.length other)
    (spelled : record.lines = first ++ entry :: more) :
    ∃ rest, other.lines = first ++ entry :: rest := by
  have same : other.lines.take (first.length + 1) = first ++ [entry] := by
    rw [agrees.lines, spelled, List.append_cons, List.take_left' (by simp)]
  refine ⟨other.lines.drop (first.length + 1), ?_⟩
  calc other.lines
      = other.lines.take (first.length + 1) ++ other.lines.drop (first.length + 1) :=
        (List.take_append_drop ..).symm
    _ = first ++ entry :: other.lines.drop (first.length + 1) := by
        rw [same, List.append_assoc, List.singleton_append]

theorem exists_refused (fails : d.submitEach record.steps = .error refusal) :
    ∃ first entry more e, record.lines = first ++ entry :: more ∧
      d.submitEach (first.map Entry.step) = .ok e ∧ e.add entry.step = .error refusal := by
  obtain ⟨_, _, _, e, spelled, accepts, refused⟩ := exists_of_foldlM_error fails
  obtain ⟨first, rest, split, rfl, others⟩ := List.map_eq_append_iff.mp spelled
  obtain ⟨entry, more, rfl, rfl, rfl⟩ := List.map_eq_cons_iff.mp others
  exact ⟨first, entry, more, e, split, accepts, refused⟩

end Record

open Record

/-- Where the problem can be read and lines are cited by integers only, checking the record agrees
with submitting its lines one by one: with `k` the length of the longest run of lines that are
accepted, it reports the refusal of the line at `k` and depends on no line after that one, or, if
there is none, reports on the derivation that all lines make. Where the problem cannot be read, it
reports the first text at fault, whatever the lines. -/
theorem check_agrees_with_submissions (record : Record) :
    ((∀ entry ∈ record.lines, entry.Integral) →
      (∀ text ∈ record.texts, ∃ f, Formula.parse text = .ok f) →
      ∃ d k e, record.start = .ok d ∧ LongestBeginning d.Accepts record.steps k ∧
        d.submitEach (record.steps.take k) = .ok e ∧
        (k < record.lines.length → ∃ step refusal report,
          record.steps[k]? = some step ∧ e.add step = .error refusal ∧
          record.check = .ok report ∧ report.total = record.lines.length ∧
          report.Stopped k (some k) refusal.message ∧
          ∀ other, record.AgreesThrough k other →
            other.check = .ok { report with total := other.lines.length }) ∧
        (k = record.lines.length → ∃ report,
          record.check = .ok report ∧ report.total = record.lines.length ∧ report.Completed e)) ∧
    ∀ before text after cause, record.texts = before ++ text :: after →
      (∀ earlier ∈ before, ∃ f, Formula.parse earlier = .ok f) →
      Formula.parse text = .error cause → ∃ report,
        record.check = .ok report ∧ report.total = record.lines.length ∧
        report.Stopped 0 none ("Problem does not parse: " ++ cause.message) := by
  constructor
  · intro integral reads
    obtain ⟨d, starts⟩ := exists_start reads
    cases outcome : d.submitEach record.steps with
    | ok e =>
      have longest := Derivation.longest_of_accepted outcome
      rw [length_steps] at longest
      have whole : record.steps.take record.lines.length = record.steps := by
        rw [← length_steps, List.take_length]
      refine ⟨d, record.lines.length, e, starts, longest, whole.symm ▸ outcome, ?_, ?_⟩
      · intro below
        exact absurd below (Nat.lt_irrefl _)
      · intro _
        exact completed_of_accepted starts integral outcome
    | error refusal =>
      obtain ⟨first, entry, more, e, spelled, accepts, refused⟩ := exists_refused outcome
      obtain ⟨earlier, later⟩ := List.forall_mem_append.mp (spelled ▸ integral)
      have here := (List.forall_mem_cons.mp later).1
      have steps : record.steps = first.map Entry.step ++ entry.step :: more.map Entry.step := by
        simp [Record.steps, spelled]
      have longest : LongestBeginning d.Accepts record.steps first.length := by
        rw [steps, ← first.length_map Entry.step]
        exact Derivation.longest_of_refusal accepts refused
      have taken : record.steps.take first.length = first.map Entry.step := by
        rw [steps, List.take_left' (List.length_map ..)]
      refine ⟨d, first.length, e, starts, longest, taken.symm ▸ accepts, ?_, ?_⟩
      · intro _
        refine ⟨entry.step, refusal, _, by simp [steps], refused,
          check_of_refused starts spelled earlier here accepts refused, rfl,
          ⟨rfl, rfl, rfl, rfl, rfl⟩, ?_⟩
        intro other agrees
        obtain ⟨rest, same⟩ := agrees.exists_lines spelled
        rw [check_of_refused (agrees.start_eq.trans starts) same earlier here accepts refused]
        simp [Record.refused, agrees.title]
      · intro whole
        simp [spelled] at whole
  · intro before text after cause spelled reads fails
    have ends : record.check = .ok (record.refused 0 (.problem (.parse cause))) := by
      simp [check, start_of_unreadable spelled reads fails]
    exact ⟨_, ends, rfl, ⟨rfl, rfl, rfl, rfl, rfl⟩⟩

/-- The second line cites one line too few, and the third cannot be read. -/
def brokenDetachment : Record :=
  ⟨["A → B", "A"], "B", [⟨"B", "→ O", [.int 0, .int 1]⟩, ⟨"B", "→ O", [.int 0]⟩, ⟨"(", "S", []⟩],
    none, none⟩

def shorterDetachment : Record := { brokenDetachment with lines := brokenDetachment.lines.take 2 }

/-- Two premises are at fault, and so is the only line. -/
def unreadableProblem : Record := ⟨["A", "A &", "A)"], "A", [⟨"(", "S", []⟩], none, none⟩

theorem brokenDetachment_stopped :
    (∀ entry ∈ brokenDetachment.lines, entry.Integral) ∧
    (∀ text ∈ brokenDetachment.texts, ∃ f, Formula.parse text = .ok f) ∧
    (∃ report, brokenDetachment.check = .ok report ∧
      report.Stopped 1 (some 1) "Rule requires 2 justifications" ∧
      shorterDetachment.check = .ok { report with total := 2 }) ∧
    ∃ report, unreadableProblem.check = .ok report ∧
      report.Stopped 0 none "Problem does not parse: Unexpected end of input" := by
  let a : Formula := .atom "A"
  let b : Formula := .atom "B"
  let d : Derivation := ⟨[⟨0, .imp a b, .assumption, []⟩, ⟨1, a, .assumption, []⟩], b, []⟩
  have integral : ∀ entry ∈ brokenDetachment.lines, entry.Integral := by
    simp [brokenDetachment, Entry.Integral, Number.isInt]
  have reads : ∀ text ∈ brokenDetachment.texts, ∃ f, Formula.parse text = .ok f := by
    simp only [brokenDetachment, texts, List.cons_append, List.nil_append, List.forall_mem_cons]
    exact ⟨⟨.imp a b, rfl⟩, ⟨a, rfl⟩, ⟨b, rfl⟩, List.forall_mem_nil _⟩
  have starts : brokenDetachment.start = .ok d := rfl
  have one : LongestBeginning d.Accepts brokenDetachment.steps 1 :=
    @Derivation.longest_of_refusal d (d.grow [⟨2, b, .impElim, [0, 1]⟩]) ⟨.text "B", "→ O", [0]⟩
      [⟨.text "B", "→ O", [0, 1]⟩] _ _ rfl rfl
  obtain ⟨_, k, e, begins, longest, -, stops, -⟩ :=
    (check_agrees_with_submissions brokenDetachment).1 integral reads
  cases starts.symm.trans begins
  cases longest.unique one
  obtain ⟨step, refusal, report, -, -, checks, -, stopped, agrees⟩ := stops (by decide)
  have ends : brokenDetachment.check = .ok ⟨none, 1, 3, false, [],
      some (.line 1 (.violation ⟨3, b, .impElim, [0]⟩ (.citationCount 2)))⟩ := rfl
  cases ends.symm.trans checks
  have message : refusal.message = "Rule requires 2 justifications" :=
    Option.some.inj stopped.error.symm
  obtain ⟨other, checksOther, -, stoppedOther⟩ :=
    (check_agrees_with_submissions unreadableProblem).2 ["A"] "A &" ["A)", "A"] .unexpectedEnd rfl
      (List.forall_mem_singleton.mpr ⟨a, rfl⟩) rfl
  exact ⟨integral, reads,
    ⟨_, ends, message ▸ stopped, agrees shorterDetachment ⟨rfl, rfl, rfl, rfl⟩⟩, other, checksOther,
    stoppedOther⟩

end NaturalDeduction
