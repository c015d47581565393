import NaturalDeduction.Proofs.JsonText
import NaturalDeduction.Proofs.Shape
import NaturalDeduction.Record.File

/-! Files with one record to a line. The text of a record has no line end in it and reads back as
the record, so splitting such a file into lines and dropping the blank ones leaves the texts of
its records, whichever line ends it uses and wherever blank lines stand. -/
namespace NaturalDeduction
open Outcome

namespace Text

def IsLineEnd (ending : List Char) : Prop :=
  ending = ['\n'] ∨ ending = ['\r'] ∨ ending = ['\r', '\n']

def nonblankLines (chars : List Char) : List (List Char) :=
  (splitLines (unifyLineEnds chars)).filter fun line => !isBlankLine line

section Lines
variable {line ending : List Char}

theorem unifyLineEnds_append (inside : '\r' ∉ line) (rest : List Char) :
    unifyLineEnds (line ++ rest) = line ++ unifyLineEnds rest := by
  induction line with
  | nil => rfl
  | cons c line ih =>
    rw [List.mem_cons, not_or] at inside
    simp [unifyLineEnds, Ne.symm inside.1, ih inside.2]

theorem splitLines_append (inside : '\n' ∉ line) (rest : List Char) :
    splitLines (line ++ '\n' :: rest) = line :: splitLines rest := by
  induction line with
  | nil => rfl
  | cons c line ih =>
    rw [List.mem_cons, not_or] at inside
    simp [splitLines, Ne.symm inside.1, ih inside.2]

/-- Every line end is unified to a line feed. A carriage return may also take up a line feed of the
rest, which then ends no blank line there. -/
theorem unifyLineEnds_lineEnd (isEnd : IsLineEnd ending) (rest : List Char) :
    ∃ unified, unifyLineEnds (ending ++ rest) = '\n' :: unified ∧
      ((splitLines unified).filter fun line => !isBlankLine line) = nonblankLines rest := by
  rcases isEnd with rfl | rfl | rfl
  · exact ⟨_, by simp [unifyLineEnds], rfl⟩
  · cases rest with
    | nil => exact ⟨_, rfl, rfl⟩
    | cons c more =>
      by_cases feed : c = '\n'
      · subst feed
        exact ⟨_, rfl, by simp [nonblankLines, unifyLineEnds, splitLines, isBlankLine]⟩
      · exact ⟨_, by simp [unifyLineEnds, feed], rfl⟩
  · exact ⟨_, rfl, rfl⟩

theorem nonblankLines_append (feed : '\n' ∉ line) (carriage : '\r' ∉ line)
    (isEnd : IsLineEnd ending) (rest : List Char) :
    nonblankLines (line ++ ending ++ rest) =
      if isBlankLine line then nonblankLines rest else line :: nonblankLines rest := by
  obtain ⟨unified, unifies, others⟩ := unifyLineEnds_lineEnd isEnd rest
  rw [nonblankLines, List.append_assoc, unifyLineEnds_append carriage, unifies,
    splitLines_append feed]
  cases blank : isBlankLine line <;> simp [blank, others]

end Lines
end Text

open Text

namespace Record

structure Integral (record : Record) : Prop where
  citations : ∀ entry ∈ record.lines, entry.Integral
  chapter : ∀ n ∈ record.chapter, n.isInt = true

theorem plain_number {n : Number} (integral : n.isInt = true) : n.toJson.Plain := by
  cases n with
  | int value => exact .int value
  | real => cases integral

theorem plain_entryJson {entry : Entry} (integral : entry.Integral) : (entryJson entry).Plain := by
  have numbers : (Json.arr (entry.citations.map Number.toJson)).Plain :=
    .arr (List.forall_mem_map.mpr fun n member => plain_number (integral n member))
  exact .arr (by simp [Json.Plain.str, numbers])

theorem plain_toJson {record : Record} (integral : record.Integral) : record.toJson.Plain := by
  have texts (items : List String) : (Json.ofStrings items).Plain :=
    .arr (List.forall_mem_map.mpr fun text _ => .str text)
  have lines : (Json.arr (record.lines.map entryJson)).Plain :=
    .arr (List.forall_mem_map.mpr fun entry member =>
      plain_entryJson (integral.citations entry member))
  have chapter := integral.chapter
  obtain ⟨premises, conclusion, entries, title, number⟩ := record
  cases title <;> cases number <;>
    exact .obj (by simp_all [Json.Plain.str, plain_number]) (by simp)

theorem toList_toText (record : Record) : record.toText.toList = record.toJson.chars :=
  String.toList_ofList

theorem isBlankLine_toText (record : Record) : isBlankLine record.toText.toList = false := by
  obtain ⟨fields, writes, -⟩ := record.exists_toJson
  rw [toList_toText, writes, Json.chars]
  rfl

theorem lineEnd_not_mem {record : Record} (integral : record.Integral) :
    '\n' ∉ record.toText.toList ∧ '\r' ∉ record.toText.toList := by
  have oneLine := (plain_toJson integral).oneLine
  rw [toList_toText]
  exact ⟨fun member => absurd (oneLine _ member) (by decide),
    fun member => absurd (oneLine _ member) (by decide)⟩

theorem parse?_toText {record : Record} (integral : record.Integral) :
    Json.parse? record.toText = some record.toJson :=
  Json.parse?_render (plain_toJson integral)

theorem ofText_toText {record : Record} (integral : record.Integral) :
    ofText record.toText = .ok record := by
  simp [ofText, parse?_toText integral, ofJson_toJson]

/-- The text of a file that holds the records in this order, each on a line of its own. Blank lines
may stand anywhere. -/
inductive FileOf : List Record → List Char → Prop where
  | empty : FileOf [] []
  | blank {records : List Record} {line ending rest : List Char} :
      isBlankLine line = true → '\n' ∉ line → '\r' ∉ line → IsLineEnd ending →
      FileOf records rest → FileOf records (line ++ ending ++ rest)
  | record {record : Record} {records : List Record} {ending rest : List Char} :
      IsLineEnd ending → FileOf records rest →
      FileOf (record :: records) (record.toText.toList ++ ending ++ rest)

theorem FileOf.nonblankLines_eq {records : List Record} {chars : List Char}
    (file : FileOf records chars) (integral : ∀ record ∈ records, record.Integral) :
    nonblankLines chars = records.map fun record => record.toText.toList := by
  induction file with
  | empty => rfl
  | blank isBlank feed carriage isEnd _ ih =>
    rw [nonblankLines_append feed carriage isEnd, if_pos isBlank, ih integral]
  | @record record _ _ _ isEnd _ ih =>
    obtain ⟨first, others⟩ := List.forall_mem_cons.mp integral
    obtain ⟨feed, carriage⟩ := lineEnd_not_mem first
    rw [nonblankLines_append feed carriage isEnd, record.isBlankLine_toText, ih others]
    rfl

theorem readEntries_toJson (path : String) {records : List Record}
    (low : ∀ record ∈ records, record.CitesNaturals) (position : Nat) :
    readEntries path position (records.map toJson) = .ok records := by
  induction records generalizing position with
  | nil => rfl
  | cons record rest ih =>
    obtain ⟨first, others⟩ := List.forall_mem_cons.mp low
    simp [readEntries, validate_toJson first, ofJson_toJson, ih others]

theorem jsonLines_eq {records : List Record} {text : String}
    (file : FileOf records text.toList) (integral : ∀ record ∈ records, record.Integral) :
    jsonLines text = .ok (records.map toJson) := by
  have reads (record : Record) (member : record ∈ records) :
      jsonDocument (String.ofList record.toText.toList) = .ok record.toJson := by
    rw [String.ofList_toList, jsonDocument, parse?_toText (integral record member)]
  have lines : ((fileLines text).filter fun line => !isBlankLine line) =
      records.map fun record => record.toText.toList := file.nonblankLines_eq integral
  rw [jsonLines, lines]
  exact mapM_map_eq_ok reads

end Record

open Record

/-- The text of a record stands on one line and reads back as the record. A file of such lines, with
any blank lines and any line ends, reads back as the same records in the same order. -/
theorem record_lines_read_back {records : List Record}
    (low : ∀ record ∈ records, record.CitesNaturals)
    (integral : ∀ record ∈ records, record.Integral) :
    (∀ record ∈ records, '\n' ∉ record.toText.toList ∧ '\r' ∉ record.toText.toList ∧
      ofText record.toText = .ok record) ∧
    ∀ {path text : String}, Path.suffix path = ".jsonl" → FileOf records text.toList →
      ofFile path text = .ok records := by
  refine ⟨fun record member => ?_, fun suffix file => ?_⟩
  · obtain ⟨feed, carriage⟩ := lineEnd_not_mem (integral record member)
    exact ⟨feed, carriage, ofText_toText (integral record member)⟩
  · simp [ofFile, fileEntries, suffix, jsonLines_eq file integral, readEntries_toJson _ low]

/-- Texts with quotes, backslashes, line ends and other control characters, and a line separator. -/
def awkwardRecord : Record :=
  ⟨["say \"A\"\n& \\ B", "\t\x00\x1f\u2028"], "A\r\nB", [⟨"/", "& I", [.int 12, .int 0]⟩],
    some "", some (.int (-70))⟩

def bareRecord : Record := ⟨[], "", [], none, none⟩

theorem awkward_lines_read_back :
    awkwardRecord.CitesNaturals ∧ bareRecord.CitesNaturals ∧ awkwardRecord.Integral ∧
    bareRecord.Integral ∧ Path.suffix "cases/set.one.jsonl" = ".jsonl" ∧
    ofText awkwardRecord.toText = .ok awkwardRecord ∧
    ofFile "cases/set.one.jsonl"
        ("\u3000\r\n" ++ awkwardRecord.toText ++ "\n \n\r" ++ bareRecord.toText ++ "\r" ++
          awkwardRecord.toText ++ "\n") =
      .ok [awkwardRecord, bareRecord, awkwardRecord] := by
  have low : awkwardRecord.CitesNaturals := by simp [CitesNaturals, awkwardRecord, Number.value]
  have lowBare : bareRecord.CitesNaturals := by simp [CitesNaturals, bareRecord]
  have integral : awkwardRecord.Integral :=
    ⟨by simp [awkwardRecord, Entry.Integral, Number.isInt], by simp [awkwardRecord, Number.isInt]⟩
  have integralBare : bareRecord.Integral := ⟨by simp [bareRecord], by simp [bareRecord]⟩
  have suffix : Path.suffix "cases/set.one.jsonl" = ".jsonl" := rfl
  have chars (a b : String) :
      ("\u3000\r\n" ++ a ++ "\n \n\r" ++ b ++ "\r" ++ a ++ "\n").toList =
        ['\u3000'] ++ ['\r', '\n'] ++ (a.toList ++ ['\n'] ++ ([' '] ++ ['\n'] ++ ([] ++ ['\r'] ++
          (b.toList ++ ['\r'] ++ (a.toList ++ ['\n'] ++ []))))) := by simp
  obtain ⟨texts, files⟩ := @record_lines_read_back [awkwardRecord, bareRecord, awkwardRecord]
    (by simp [low, lowBare]) (by simp [integral, integralBare])
  refine ⟨low, lowBare, integral, integralBare, suffix, (texts awkwardRecord (by simp)).2.2,
    files suffix ?_⟩
  rw [chars]
  refine .blank rfl (by decide) (by decide) (.inr (.inr rfl)) (.record (.inl rfl) ?_)
  refine .blank rfl (by decide) (by decide) (.inl rfl) ?_
  refine .blank rfl List.not_mem_nil List.not_mem_nil (.inr (.inl rfl)) ?_
  exact .record (.inr (.inl rfl)) (.record (.inl rfl) .empty)

end NaturalDeduction
