import NaturalDeduction.Formula.Parser
import NaturalDeduction.Rule.Evaluate

/-! Derivations: premises, a conclusion to reach, and the deductions accepted so far. A deduction
enters only after its rule has accepted it, so a refused step leaves the derivation as it was. A
line that its rule refuses is noted together with the line itself; a submission that is refused
before its rule is asked leaves no note. -/
namespace NaturalDeduction

inductive Statement where
  | text (source : String)
  | tree (formula : Formula)
  deriving DecidableEq, Repr

def Statement.read : Statement → Except ParseError Formula
  | text source => Formula.parse source
  | tree formula => .ok formula

inductive Rejection where
  | parse (cause : ParseError)
  | unknownRule (cause : UnknownRule)
  | assumption
  | notEarlier (citation : Number)
  | violation (line : Line) (cause : Violation)
  | fault (cause : Fault)
  deriving DecidableEq, Repr

def Rejection.message : Rejection → String
  | parse cause => cause.message
  | unknownRule cause => cause.message
  | assumption => "Assumptions can only be given as premises"
  | notEarlier citation => "Justification " ++ citation.text ++ " must refer to an earlier line"
  | violation _ cause => cause.message
  | fault cause => cause.message

structure Step where
  statement : Statement
  rule : String
  citations : List Int
  deriving DecidableEq, Repr

def Line.read (index : Int) (step : Step) : Except Rejection Line := do
  let formula ← step.statement.read.mapError .parse
  let rule ← (Rule.find step.rule).mapError .unknownRule
  return Line.citing index formula rule step.citations

/-- A premise is stated, or is a line taken as it stands, whatever its index, rule and citations. -/
inductive Premise where
  | stated (statement : Statement)
  | line (index : Int) (step : Step)
  deriving DecidableEq, Repr

def Premise.read (position : Nat) : Premise → Except Rejection Line
  | stated statement => do
      let formula ← statement.read.mapError .parse
      return Line.citing position formula .assumption []
  | line index step => Line.read index step

structure Derivation where
  premises : List Line
  conclusion : Formula
  deductions : List Line
  deriving DecidableEq, Repr

namespace Derivation

def readPremises (position : Nat) : List Premise → Except Rejection (List Line)
  | [] => return []
  | premise :: rest => do
      let line ← premise.read position
      let lines ← readPremises (position + 1) rest
      return line :: lines

def start (premises : List Premise) (conclusion : Statement) : Except Rejection Derivation := do
  let premises ← readPremises 0 premises
  let conclusion ← conclusion.read.mapError .parse
  return ⟨premises, conclusion, []⟩

def lines (d : Derivation) : List Line := d.premises ++ d.deductions

def last? (d : Derivation) : Option Line := d.deductions.getLast?

def cited (d : Derivation) (citations : List Int) : List Line :=
  citations.filterMap fun i => d.lines[i.toNat]?

def isEarlier (index citation : Int) : Bool := 0 ≤ citation && citation < index

def vet (d : Derivation) (line : Line) : Except Rejection Unit :=
  if line.rule = .assumption then .error .assumption
  else
    match line.citations.find? (fun citation => !isEarlier line.index citation) with
    | some citation => .error (.notEarlier (.int citation))
    | none =>
        match line.rule.evaluate d.lines line.formula (d.cited line.citations) with
        | .ok () => .ok ()
        | .error (.violation cause) => .error (.violation line cause)
        | .error (.fault cause) => .error (.fault cause)

def extend (d : Derivation) (formula : Formula) (rule : Rule) (citations : List Int) :
    Except Rejection Derivation := do
  let line := Line.citing d.lines.length formula rule citations
  d.vet line
  return { d with deductions := d.deductions ++ [line] }

def add (d : Derivation) (step : Step) : Except Rejection Derivation := do
  let formula ← step.statement.read.mapError .parse
  let rule ← (Rule.find step.rule).mapError .unknownRule
  d.extend formula rule step.citations

/-- Why a line is refused that cites numbers not all of which are integers. Numbers of every kind
are compared with the index of the line, in ascending order, but only integers name lines. -/
def refusal (d : Derivation) (rule : Rule) (citations : List Number) : Rejection :=
  if rule = .assumption then .assumption
  else
    match (Ascending.sortBy Number.value citations).find?
        (fun citation => !isEarlier d.lines.length citation.value) with
    | some citation => .notEarlier citation
    | none => .fault .notInteger

def submit (d : Derivation) (entry : Entry) : Except Rejection Derivation := do
  let formula ← (Formula.parse entry.formula).mapError .parse
  let rule ← (Rule.find entry.rule).mapError .unknownRule
  if entry.citations.all Number.isInt then d.extend formula rule (entry.citations.map Number.value)
  else .error (d.refusal rule entry.citations)

structure Run where
  derivation : Derivation
  refusal : Option Rejection
  deriving DecidableEq, Repr

/-- Submit in order up to the first refusal; lines accepted before it stay. -/
def runAll {α : Type} (submit : Derivation → α → Except Rejection Derivation) (d : Derivation) :
    List α → Run
  | [] => ⟨d, none⟩
  | a :: rest =>
      match submit d a with
      | .ok extended => extended.runAll submit rest
      | .error refusal => ⟨d, some refusal⟩

def addAll (d : Derivation) (steps : List Step) : Run := d.runAll add steps

def submitAll (d : Derivation) (entries : List Entry) : Run := d.runAll submit entries

def clear (d : Derivation) : Derivation := { d with deductions := [] }

/-- The last deduction is the conclusion and rests on no supposition. -/
def qed (d : Derivation) : Except Fault Bool :=
  match d.last? with
  | none => return false
  | some line =>
      if line.formula.Same d.conclusion then do
        let supposing ← line.hasOpenSupposition d.lines
        return !supposing
      else return false

def entries (d : Derivation) : List Entry := d.deductions.map Line.entry

@[simp] theorem lines_clear (d : Derivation) : d.clear.lines = d.premises := by
  simp [lines, clear]

section Runs
variable {α : Type} {submit : Derivation → α → Except Rejection Derivation} {d e : Derivation}

theorem runAll_append {first : List α} (accepted : d.runAll submit first = ⟨e, none⟩)
    (more : List α) : d.runAll submit (first ++ more) = e.runAll submit more := by
  induction first generalizing d with
  | nil =>
    cases accepted
    rfl
  | cons a rest ih =>
    rw [runAll] at accepted
    rw [List.cons_append, runAll]
    cases submits : submit d a with
    | error refusal => simp [submits] at accepted
    | ok extended =>
      simp only [submits] at accepted
      exact ih accepted

/-- A run is refused exactly at the first submission that is, and what follows is never tried. -/
theorem runAll_eq_refused_iff {as : List α} {refusal : Rejection} :
    d.runAll submit as = ⟨e, some refusal⟩ ↔
      ∃ first a more, as = first ++ a :: more ∧ d.runAll submit first = ⟨e, none⟩ ∧
        submit e a = .error refusal := by
  constructor
  · intro refused
    induction as generalizing d with
    | nil => cases refused
    | cons a rest ih =>
      rw [runAll] at refused
      cases submits : submit d a with
      | error cause =>
        simp only [submits] at refused
        cases refused
        exact ⟨[], a, rest, rfl, rfl, submits⟩
      | ok extended =>
        simp only [submits] at refused
        obtain ⟨first, b, more, rfl, accepted, stops⟩ := ih refused
        exact ⟨a :: first, b, more, rfl, by simp only [runAll, submits, accepted], stops⟩
  · rintro ⟨first, a, more, rfl, accepted, refused⟩
    rw [runAll_append accepted, runAll, refused]

end Runs

@[simp] theorem addAll_nil (d : Derivation) : d.addAll [] = ⟨d, none⟩ := rfl

theorem addAll_cons (d : Derivation) (step : Step) (rest : List Step) :
    d.addAll (step :: rest) =
      match d.add step with
      | .ok extended => extended.addAll rest
      | .error refusal => ⟨d, some refusal⟩ := rfl

theorem extend_eq_ok {d extended : Derivation} {formula : Formula} {rule : Rule}
    {citations : List Int} :
    d.extend formula rule citations = .ok extended ↔
      d.vet (Line.citing d.lines.length formula rule citations) = .ok () ∧
      extended =
        { d with deductions :=
            d.deductions ++ [Line.citing d.lines.length formula rule citations] } := by
  unfold extend
  cases verdict : d.vet (Line.citing d.lines.length formula rule citations) with
  | error refusal => simp [verdict, bind, Except.bind]
  | ok accepted => simp [verdict, bind, Except.bind, pure, Except.pure, eq_comm]

end Derivation

inductive Note where
  | accepted (line : Line)
  | rejected (line : Line) (cause : Violation)
  | stopped (title : String) (position : Nat) (cause : Rejection)
  deriving DecidableEq, Repr

def Note.text : Note → String
  | accepted line => "Accepted line " ++ toString line.index ++ ": " ++ line.text
  | rejected line cause =>
      "Rejected line " ++ toString line.index ++ " (" ++ line.text ++ "): " ++ cause.message
  | stopped title position cause =>
      title ++ ": line " ++ toString position ++ " rejected: " ++ cause.message

def Rejection.notes : Rejection → List Note
  | violation line cause => [.rejected line cause]
  | _ => []

namespace Derivation

def Run.added (run : Run) (before : Derivation) : List Line :=
  run.derivation.deductions.drop before.deductions.length

def Run.notes (run : Run) (before : Derivation) : List Note :=
  (run.added before).map .accepted ++ (run.refusal.map Rejection.notes).getD []

end Derivation

end NaturalDeduction
