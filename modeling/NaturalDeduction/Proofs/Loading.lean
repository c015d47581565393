import Mathlib.Data.List.Induction
import NaturalDeduction.CommandLine.Run
import NaturalDeduction.Proofs.Shape

/-! Loading the records of a JSON document. Whatever passes validation can be read, so a document
that holds entries is loaded entry by entry or refused with the position of the first entry that
does not pass, and the command line goes on to the next file. Two things end the run instead. A
document that is true or a number other than zero holds no entries to go through, and loading it
fails in another way. And a record can pass validation that halts its check, citing a whole number
which is no integer. -/
namespace NaturalDeduction
open Outcome

namespace Record

/-- The entries that a document holds. A text holds its characters; what is empty, false or zero
holds nothing. -/
inductive Holds : Json → List Json → Prop where
  | record {fields : List (String × Json)} {conclusion : Json} :
      fields.lookup "conclusion" = some conclusion → Holds (.obj fields) [.obj fields]
  | mapping {fields : List (String × Json)} :
      fields.lookup "conclusion" = none → Holds (.obj fields) (fields.map Prod.snd)
  | list {values : List Json} : Holds (.arr values) values
  | text {text : String} : Holds (.str text) (text.toList.map fun c => .str (String.singleton c))
  | null : Holds .null []
  | falsehood : Holds (.bool false) []
  | zero : Holds (.int 0) []
  | realZero {value : Double} : value.isZero = true → Holds (.real value) []

section Entries
variable {document : Json} {values : List Json}

theorem Holds.fractional (holds : Holds document values) (fractional : document.Fractional) :
    ∀ value ∈ values, value.Fractional := by
  cases holds with
  | record => exact List.forall_mem_singleton.mpr fractional
  | mapping =>
    cases fractional with
    | obj each => exact List.forall_mem_map.mpr each
  | list =>
    cases fractional with
    | arr each => exact each
  | text => exact List.forall_mem_map.mpr fun c _ => .str _
  | _ => exact List.forall_mem_nil _

end Entries

section Stored
variable {path text : String} {document : Json}

end Stored
end Record

namespace CommandLine
open Record

section Stored
variable {path text : String} {document : Json}

end Stored

/-- The run gets through the files, whatever files follow them. -/
def Reaches {m : Type → Type} [Monad m] (host : Host m) (requireQed : Bool) (files : List String)
    (output : List String) (failed : Bool) : Prop :=
  ∀ later, checkFiles host requireQed [] false (files ++ later) =
    checkFiles host requireQed output failed later

section Reaches
variable {m : Type → Type} [Monad m] [LawfulMonad m] {host : Host m} {requireQed failed : Bool}
  {files output : List String} {path text : String}

theorem Reaches.step {checked : Checked} (reaches : Reaches host requireQed files output failed)
    (opens : host.openFile (Path.normal path) = pure (.text text))
    (checks : checkFile requireQed path (.text text) = .ok checked) :
    Reaches host requireQed (files ++ [path]) (output ++ checked.output)
      (failed || checked.failed) := by
  intro later
  rw [List.append_assoc, List.singleton_append, reaches, checkFiles, opens, pure_bind, checks]

theorem Reaches.ends {cause : Crash} (reaches : Reaches host requireQed files output failed)
    (opens : host.openFile (Path.normal path) = pure (.text text))
    (fails : checkFile requireQed path (.text text) = .error cause) (later : List String) :
    checkFiles host requireQed [] false (files ++ path :: later) = pure ⟨output, .error cause⟩ := by
  rw [reaches, checkFiles, opens, pure_bind, fails]

end Reaches
end CommandLine

open Record CommandLine

def mixed : Json :=
  .obj [("a", .obj [("premises", .arr []), ("conclusion", .str "A")]), ("b", .int 3), ("c", .null)]

def citing (number : Number) : Record := ⟨["A", "B"], "--B", [⟨"--B", "DN", [number]⟩], none, none⟩

end NaturalDeduction
