import NaturalDeduction.Derivation
import NaturalDeduction.Record.Basic

/-! Checking a stored record: its lines are submitted in order to a derivation from its premises,
up to the first one that is refused. -/
namespace NaturalDeduction

inductive Failure where
  | problem (cause : Rejection)
  /-- The position is that in the record, not in the derivation. -/
  | line (position : Nat) (cause : Rejection)
  deriving DecidableEq, Repr

namespace Failure

def message : Failure → String
  | problem cause => "Problem does not parse: " ++ cause.message
  | line _ cause => cause.message

def position? : Failure → Option Nat
  | problem _ => none
  | line position _ => some position

end Failure

structure Report where
  title : Option String
  accepted : Nat
  total : Nat
  qed : Bool
  dependencies : List Int
  failure : Option Failure
  deriving DecidableEq, Repr

def Report.valid (report : Report) : Bool := report.failure.isNone

namespace Record

def start (record : Record) : Except Rejection Derivation :=
  Derivation.start (record.premises.map fun premise => .stated (.text premise))
    (.text record.conclusion)

def refused (record : Record) (accepted : Nat) (failure : Failure) : Report :=
  ⟨record.title, accepted, record.lines.length, false, [], some failure⟩

def lastDependencies (d : Derivation) : Except Fault (List Int) :=
  match d.last? with
  | some line => line.dependencies d.lines
  | none => return []

def check (record : Record) : Except Fault Report :=
  match record.start with
  | .error cause => return record.refused 0 (.problem cause)
  | .ok d =>
      let run := d.submitAll record.lines
      let accepted := run.derivation.deductions.length
      match run.refusal with
      | some (.fault cause) => .error cause
      | some cause => return record.refused accepted (.line accepted cause)
      | none => do
          let qed ← run.derivation.qed
          let dependencies ← lastDependencies run.derivation
          return ⟨record.title, accepted, record.lines.length, qed, dependencies, none⟩

def heading (record : Record) : String :=
  match record.title with
  | none | some "" => "proof"
  | some title => title

def stopNotes (record : Record) (run : Derivation.Run) : List Note :=
  match run.refusal with
  | none | some (.fault _) => []
  | some cause => [.stopped record.heading run.derivation.deductions.length cause]

def notes (record : Record) : List Note :=
  match record.start with
  | .error _ => []
  | .ok d =>
      let run := d.submitAll record.lines
      run.notes d ++ record.stopNotes run

end Record
end NaturalDeduction
