import Mathlib.Data.Set.List
import NaturalDeduction.Proofs.Halting
import NaturalDeduction.Record.Schema

/-! The shape of stored records. The record's schema finds no flaw exactly in the values of that
shape; a value of the shape is the stored form of a record, so reading it gives that record, and
what is written of the record has the shape again. -/
namespace NaturalDeduction
open Outcome

/-- No number that is written with a fraction or an exponent is whole. -/
inductive Json.Fractional : Json → Prop where
  | null : Fractional .null
  | bool (value : Bool) : Fractional (.bool value)
  | int (value : Int) : Fractional (.int value)
  | real {value : Double} : value.whole? = none → Fractional (.real value)
  | str (value : String) : Fractional (.str value)
  | arr {items : List Json} : (∀ item ∈ items, Fractional item) → Fractional (.arr items)
  | obj {fields : List (String × Json)} : (∀ field ∈ fields, Fractional field.2) →
      Fractional (.obj fields)

theorem Double.isBelow_of_whole {x : Double} {k : Int} (whole : x.whole? = some k) (bound : Int) :
    x.isBelow bound = decide (k < bound) := by
  cases x with
  | finite negative significand exponent =>
    rw [whole?] at whole
    split at whole
    next divides =>
      have positive : (0 : Int) < twoTo (-exponent) :=
        Int.natCast_pos.mpr (Nat.pow_pos Nat.two_pos)
      have scaled : (significand * twoTo exponent / twoTo (-exponent) * twoTo (-exponent) : Int) =
          significand * twoTo exponent := by
        have scale : (twoTo (-exponent) : Int) ∣ significand :=
          Int.natCast_dvd_natCast.mpr (Nat.dvd_of_mod_eq_zero divides)
        exact Int.ediv_mul_cancel (Int.dvd_trans scale (Int.dvd_mul_right ..))
      have signed : k * twoTo (-exponent) =
          (if negative then -significand else significand : Int) * twoTo exponent := by
        cases Option.some.inj whole
        cases negative
        · exact scaled
        · simp only [if_true, Int.neg_mul, scaled]
      rw [isBelow, ← signed]
      simp [Int.mul_lt_mul_right positive]
    next => cases whole
  | infinite | undefined => cases whole

theorem Number.whole?_toJson (n : Number) : n.toJson.whole? = some n.value := by
  cases n with
  | int value => rfl
  | real written value whole => exact whole

namespace Record

def IsText (value : Json) : Prop := ∃ text, value = .str text

/-- Whole numbers of either kind are integers here. -/
def IsInteger (value : Json) : Prop := ∃ n : Number, value = n.toJson

def IsCitation (value : Json) : Prop := ∃ n : Number, 0 ≤ n.value ∧ value = n.toJson

def IsListOf (shape : Json → Prop) (value : Json) : Prop :=
  ∃ items, value = .arr items ∧ ∀ item ∈ items, shape item

def IsEntry (value : Json) : Prop :=
  ∃ formula rule citations, value = .arr [formula, rule, citations] ∧ IsText formula ∧
    IsText rule ∧ IsListOf IsCitation citations

/-- The fields of a stored record; others may stand beside them. -/
structure HasShape (fields : List (String × Json)) : Prop where
  conclusion : ∃ value, fields.lookup "conclusion" = some value ∧ IsText value
  oneName : (fields.lookup "premises").isSome = !(fields.lookup "assumptions").isSome
  premises : ∀ value ∈ fields.lookup "premises", IsListOf IsText value
  assumptions : ∀ value ∈ fields.lookup "assumptions", IsListOf IsText value
  lines : ∀ value ∈ fields.lookup "lines", IsListOf IsEntry value
  title : ∀ value ∈ fields.lookup "title", IsText value
  chapter : ∀ value ∈ fields.lookup "chapter", IsInteger value

def IsRecord (value : Json) : Prop := ∃ fields, value = .obj fields ∧ HasShape fields

section Keywords
variable {path : List Place} {value : Json} {fields : List (String × Json)}

@[simp] theorem schemaFlaws_nil : schemaFlaws path value [] = [] := rfl

@[simp] theorem schemaFlaws_cons_eq_nil {keyword : Keyword} {rest : Schema} :
    schemaFlaws path value (keyword :: rest) = [] ↔
      keywordFlaws path value keyword = [] ∧ schemaFlaws path value rest = [] := by
  rw [schemaFlaws, List.append_eq_nil_iff]

@[simp] theorem type_eq_nil {kind : Kind} :
    keywordFlaws path value (.type kind) = [] ↔ kind.holds value = true := by
  simp [keywordFlaws]

@[simp] theorem required_eq_nil {keys : List String} :
    keywordFlaws path (.obj fields) (.required keys) = [] ↔
      ∀ key ∈ keys, (fields.lookup key).isSome = true := by
  simp [keywordFlaws, Json.hasKey, Json.get?]

@[simp] theorem minimum_eq_nil {bound : Int} :
    keywordFlaws path value (.minimum bound) = [] ↔ isBelow bound value = false := by
  simp [keywordFlaws]

theorem properties_eq_nil {schemas : List (String × Schema)} :
    keywordFlaws path (.obj fields) (.properties schemas) = [] ↔
      ∀ named ∈ schemas, ∀ value ∈ fields.lookup named.1,
        schemaFlaws (path ++ [.key named.1]) value named.2 = [] := by
  rw [keywordFlaws]
  induction schemas with
  | nil => simp [propertyFlaws]
  | cons named rest ih =>
    obtain ⟨name, schema⟩ := named
    rw [propertyFlaws, List.append_eq_nil_iff, ih, List.forall_mem_cons]
    refine and_congr_left fun _ => ?_
    cases fields.lookup name <;> simp

theorem oneOf_eq_nil {choices : List Schema} :
    keywordFlaws path value (.oneOf choices) = [] ↔
      choices.countP (fun schema => (schemaFlaws path value schema).isEmpty) = 1 := by
  have passes : passing path value choices =
      choices.filter fun schema => (schemaFlaws path value schema).isEmpty := by
    induction choices with
    | nil => rfl
    | cons schema rest ih => rw [passing, List.filter_cons, ih]
  rw [keywordFlaws, passes, List.countP_eq_length_filter]
  match choices.filter fun schema => (schemaFlaws path value schema).isEmpty with
  | [] | [_] | _ :: _ :: _ => simp [choiceFlaws]

theorem oneName_eq_nil {first second : String} :
    keywordFlaws path (.obj fields) (.oneOf [[.required [first]], [.required [second]]]) = [] ↔
      (fields.lookup first).isSome = !(fields.lookup second).isSome := by
  have holds (key : String) : (schemaFlaws path (.obj fields) [.required [key]]).isEmpty =
      (fields.lookup key).isSome := by
    rw [Bool.eq_iff_iff, List.isEmpty_iff]
    simp
  rw [oneOf_eq_nil]
  simp only [List.countP_cons, List.countP_nil, holds]
  cases (fields.lookup first).isSome <;> cases (fields.lookup second).isSome <;> simp

end Keywords

structure Decides (schema : Schema) (shape : Json → Prop) : Prop where
  iff {path : List Place} {value : Json} : schemaFlaws path value schema = [] ↔ shape value

section Schemas
variable {schema : Schema} {shape : Json → Prop}

theorem decides_text : Decides textSchema IsText := by
  constructor
  intro path value
  cases value <;> simp [textSchema, Kind.holds, IsText]

theorem isInteger_iff {value : Json} : IsInteger value ↔ value.whole?.isSome = true := by
  constructor
  · rintro ⟨n, rfl⟩
    rw [Number.whole?_toJson, Option.isSome_some]
  · intro holds
    obtain ⟨k, whole⟩ := Option.isSome_iff_exists.mp holds
    cases value with
    | int n => exact ⟨.int n, rfl⟩
    | real written => exact ⟨.real written k whole, rfl⟩
    | _ => cases whole

theorem integer_holds {value : Json} : Kind.integer.holds value = value.whole?.isSome := by
  cases value <;> rfl

theorem decides_integer : Decides [.type .integer] IsInteger := by
  constructor
  intro path value
  simp [isInteger_iff, integer_holds]

theorem isBelow_toJson (bound : Int) (n : Number) :
    isBelow bound n.toJson = decide (n.value < bound) := by
  cases n with
  | int value => rfl
  | real written value whole => exact Double.isBelow_of_whole whole bound

theorem decides_citation : Decides citationSchema IsCitation := by
  constructor
  intro path value
  simp only [citationSchema, schemaFlaws_cons_eq_nil, type_eq_nil, minimum_eq_nil, schemaFlaws_nil,
    and_true, integer_holds, ← isInteger_iff]
  constructor
  · rintro ⟨⟨n, rfl⟩, notBelow⟩
    exact ⟨n, by simpa [isBelow_toJson] using notBelow, rfl⟩
  · rintro ⟨n, low, rfl⟩
    exact ⟨⟨n, rfl⟩, by simpa [isBelow_toJson] using low⟩

theorem eachItem_eq_nil (decides : Decides schema shape) {path : List Place} {items : List Json}
    {index : Nat} :
    eachItem (fun place item => schemaFlaws place item schema) path index items = [] ↔
      ∀ item ∈ items, shape item := by
  induction items generalizing index with
  | nil => simp [eachItem]
  | cons item rest ih =>
    rw [eachItem, List.append_eq_nil_iff, ih, decides.iff, List.forall_mem_cons]

theorem decides_listOf (decides : Decides schema shape) :
    Decides (listSchema schema) (IsListOf shape) := by
  constructor
  intro path value
  cases value with
  | arr items => simp [listSchema, Kind.holds, keywordFlaws, eachItem_eq_nil decides, IsListOf]
  | _ => simp [listSchema, Kind.holds, IsListOf]

theorem decides_line : Decides lineSchema IsEntry := by
  constructor
  intro path value
  cases value with
  | arr items =>
    match items with
    | [formula, rule, citations] =>
      simp [lineSchema, Kind.holds, keywordFlaws, tupleFlaws, decides_text.iff,
        (decides_listOf decides_citation).iff, IsEntry]
    | [] | [_] | [_, _] => simp [lineSchema, Kind.holds, keywordFlaws, IsEntry]
    | _ :: _ :: _ :: _ :: _ => simp [lineSchema, Kind.holds, keywordFlaws, IsEntry]
  | _ => simp [lineSchema, Kind.holds, IsEntry]

theorem decides_record : Decides recordSchema IsRecord := by
  constructor
  intro path value
  cases value with
  | obj fields =>
    -- the keywords one by one; paths only name the places of flaws
    have flawless : schemaFlaws path (.obj fields) recordSchema = [] ↔
        (fields.lookup "conclusion").isSome = true ∧
        (fields.lookup "premises").isSome = !(fields.lookup "assumptions").isSome ∧
        (∀ value ∈ fields.lookup "premises", IsListOf IsText value) ∧
        (∀ value ∈ fields.lookup "assumptions", IsListOf IsText value) ∧
        (∀ value ∈ fields.lookup "conclusion", IsText value) ∧
        (∀ value ∈ fields.lookup "lines", IsListOf IsEntry value) ∧
        (∀ value ∈ fields.lookup "title", IsText value) ∧
        ∀ value ∈ fields.lookup "chapter", IsInteger value := by
      simp [recordSchema, Kind.holds, oneName_eq_nil, properties_eq_nil, decides_text.iff,
        decides_integer.iff, (decides_listOf decides_text).iff, (decides_listOf decides_line).iff]
    rw [flawless]
    constructor
    · rintro ⟨named, oneName, premises, assumptions, conclusion, lines, title, chapter⟩
      obtain ⟨value, found⟩ := Option.isSome_iff_exists.mp named
      exact ⟨fields, rfl, ⟨value, found, conclusion value found⟩, oneName, premises, assumptions,
        lines, title, chapter⟩
    · rintro ⟨_, same, shape⟩
      cases same
      obtain ⟨value, found, isText⟩ := shape.conclusion
      have conclusion : ∀ other ∈ fields.lookup "conclusion", IsText other := by
        simpa [found] using isText
      exact ⟨by simp [found], shape.oneName, shape.premises, shape.assumptions, conclusion,
        shape.lines, shape.title, shape.chapter⟩
  | _ => simp [recordSchema, Kind.holds, IsRecord]

end Schemas

theorem validate_eq_none {value : Json} : validate value = none ↔ IsRecord value := by
  rw [← @decides_record.iff [], validate]
  cases schemaFlaws [] value recordSchema <;> simp [foremost?]

def CitesNaturals (record : Record) : Prop :=
  ∀ entry ∈ record.lines, ∀ n ∈ entry.citations, 0 ≤ n.value

structure Stores (fields : List (String × Json)) (record : Record) : Prop where
  premises :
    (fields.lookup "premises" = some (.ofStrings record.premises) ∧
      fields.lookup "assumptions" = none) ∨
    (fields.lookup "premises" = none ∧
      fields.lookup "assumptions" = some (.ofStrings record.premises))
  conclusion : fields.lookup "conclusion" = some (.str record.conclusion)
  lines : (fields.lookup "lines").getD (.arr []) = .arr (record.lines.map entryJson)
  title : fields.lookup "title" = record.title.map .str
  chapter : fields.lookup "chapter" = record.chapter.map Number.toJson

section Spelling
variable {α : Type} {write : α → Json} {holds : α → Prop} {shape : Json → Prop}

theorem isListOf_iff (spells : ∀ value, shape value ↔ ∃ a, holds a ∧ value = write a)
    {value : Json} :
    IsListOf shape value ↔ ∃ as : List α, (∀ a ∈ as, holds a) ∧ value = .arr (as.map write) := by
  constructor
  · rintro ⟨items, rfl, shapes⟩
    have inside : items ∈ Set.range (List.map fun a : {a // holds a} => write a) := by
      rw [Set.range_list_map]
      intro item member
      obtain ⟨a, valid, rfl⟩ := (spells item).mp (shapes item member)
      exact ⟨⟨a, valid⟩, rfl⟩
    obtain ⟨as, rfl⟩ := inside
    exact ⟨as.map (·.1), by simp +contextual, by simp⟩
  · rintro ⟨as, valid, rfl⟩
    refine ⟨_, rfl, List.forall_mem_map.mpr fun a member => ?_⟩
    exact (spells _).mpr ⟨a, valid a member, rfl⟩

theorem isListOf_text {value : Json} :
    IsListOf IsText value ↔ ∃ texts, value = .ofStrings texts := by
  have spells (value : Json) : IsText value ↔ ∃ text, True ∧ value = .str text := by simp [IsText]
  simp [isListOf_iff spells, Json.ofStrings]

theorem isEntry_iff (value : Json) :
    IsEntry value ↔ ∃ entry, (∀ n ∈ entry.citations, 0 ≤ n.value) ∧ value = entryJson entry := by
  have citations := @isListOf_iff Number Number.toJson (0 ≤ ·.value) IsCitation fun _ => Iff.rfl
  constructor
  · rintro ⟨_, _, _, rfl, ⟨formula, rfl⟩, ⟨rule, rfl⟩, cites⟩
    obtain ⟨numbers, low, rfl⟩ := citations.mp cites
    exact ⟨⟨formula, rule, numbers⟩, low, rfl⟩
  · rintro ⟨entry, low, rfl⟩
    exact ⟨_, _, _, rfl, ⟨_, rfl⟩, ⟨_, rfl⟩, citations.mpr ⟨_, low, rfl⟩⟩

theorem exists_option_map {found : Option Json} (shapes : ∀ value ∈ found, ∃ a, value = write a) :
    ∃ a : Option α, found = a.map write := by
  cases found with
  | none => exact ⟨none, rfl⟩
  | some value =>
    obtain ⟨a, rfl⟩ := shapes value rfl
    exact ⟨some a, rfl⟩

end Spelling

namespace HasShape
variable {fields : List (String × Json)} (shape : HasShape fields)
include shape

theorem exists_premises : ∃ premises,
    (fields.lookup "premises" = some (.ofStrings premises) ∧ fields.lookup "assumptions" = none) ∨
    (fields.lookup "premises" = none ∧
      fields.lookup "assumptions" = some (.ofStrings premises)) := by
  have oneName := shape.oneName
  cases first : fields.lookup "premises" with
  | some value =>
    obtain ⟨premises, rfl⟩ := isListOf_text.mp (shape.premises value first)
    have other : fields.lookup "assumptions" = none := by simpa [first] using oneName
    exact ⟨premises, .inl ⟨rfl, other⟩⟩
  | none =>
    obtain ⟨value, other⟩ : ∃ value, fields.lookup "assumptions" = some value :=
      Option.isSome_iff_exists.mp (by simpa [first] using oneName)
    obtain ⟨premises, rfl⟩ := isListOf_text.mp (shape.assumptions value other)
    exact ⟨premises, .inr ⟨rfl, other⟩⟩

theorem exists_lines : ∃ lines : List Entry, (∀ entry ∈ lines, ∀ n ∈ entry.citations, 0 ≤ n.value) ∧
    (fields.lookup "lines").getD (.arr []) = .arr (lines.map entryJson) := by
  cases found : fields.lookup "lines" with
  | none => exact ⟨[], by simp, rfl⟩
  | some value => exact (isListOf_iff isEntry_iff).mp (shape.lines value found)

theorem exists_stores : ∃ record, Stores fields record ∧ CitesNaturals record := by
  obtain ⟨premises, stated⟩ := shape.exists_premises
  obtain ⟨_, concludes, conclusion, rfl⟩ := shape.conclusion
  obtain ⟨lines, low, listed⟩ := shape.exists_lines
  obtain ⟨title, named⟩ := exists_option_map shape.title
  obtain ⟨chapter, placed⟩ := exists_option_map shape.chapter
  exact ⟨⟨premises, conclusion, lines, title, chapter⟩,
    ⟨stated, concludes, listed, named, placed⟩, low⟩

end HasShape

theorem Stores.hasShape {fields : List (String × Json)} {record : Record}
    (stores : Stores fields record) (low : record.CitesNaturals) : HasShape fields := by
  have texts : IsListOf IsText (.ofStrings record.premises) := isListOf_text.mpr ⟨_, rfl⟩
  refine ⟨⟨_, stores.conclusion, _, rfl⟩, ?_, ?_, ?_, ?_, ?_, ?_⟩
  · rcases stores.premises with ⟨first, other⟩ | ⟨first, other⟩ <;> simp [first, other]
  · rcases stores.premises with ⟨first, -⟩ | ⟨first, -⟩ <;> simp [first, texts]
  · rcases stores.premises with ⟨-, other⟩ | ⟨-, other⟩ <;> simp [other, texts]
  · intro value found
    have listed := stores.lines
    rw [Option.mem_def.mp found, Option.getD_some] at listed
    exact (isListOf_iff isEntry_iff).mpr ⟨record.lines, low, listed⟩
  · cases title : record.title <;> simp [stores.title, title, IsText]
  · cases chapter : record.chapter <;> simp [stores.chapter, chapter, IsInteger]

theorem readNumber_toJson (n : Number) : readNumber n.toJson = .ok n := by
  have again : Number.ofJson? n.toJson = some n := by
    cases n with
    | int value => rfl
    | real written value whole =>
      rw [Number.toJson, Number.ofJson?]
      split
      next other found =>
        cases whole.symm.trans found
        rfl
      next missing => cases whole.symm.trans missing
  rw [readNumber, again]

theorem readEntry_entryJson (entry : Entry) : readEntry (entryJson entry) = .ok entry := by
  have citations : (entry.citations.map Number.toJson).mapM readNumber =
      .ok (entry.citations.map id) :=
    mapM_map_eq_ok fun n _ => readNumber_toJson n
  simp [readEntry, entryJson, Json.elements?, readText, readElements, citations]

theorem Stores.ofFields_eq {fields : List (String × Json)} {record : Record}
    (stores : Stores fields record) : ofFields fields = .ok record := by
  have premises : (record.premises.map Json.str).mapM readText = .ok (record.premises.map id) :=
    mapM_map_eq_ok fun _ _ => rfl
  have lines : (record.lines.map entryJson).mapM readEntry = .ok (record.lines.map id) :=
    mapM_map_eq_ok fun entry _ => readEntry_entryJson entry
  have title : readOptional readText (record.title.map .str) = .ok record.title := by
    cases record.title <;> rfl
  have chapter : readOptional readNumber (record.chapter.map Number.toJson) =
      .ok record.chapter := by
    cases record.chapter with
    | none => rfl
    | some n =>
      have reads := readNumber_toJson n
      cases n <;> exact congrArg (Except.map some) reads
  rcases stores.premises with ⟨first, other⟩ | ⟨first, other⟩ <;>
    simp [ofFields, field, first, other, stores.conclusion, stores.lines, stores.title,
      stores.chapter, readElements, Json.elements?, Json.ofStrings, premises, lines, title,
      chapter, readText]

theorem exists_toJson (record : Record) :
    ∃ fields, record.toJson = .obj fields ∧ Stores fields record := by
  obtain ⟨premises, conclusion, lines, title, chapter⟩ := record
  refine ⟨_, rfl, ?_⟩
  cases title <;> cases chapter <;> exact ⟨.inl ⟨rfl, rfl⟩, rfl, rfl, rfl, rfl⟩

theorem ofJson_toJson (record : Record) : ofJson record.toJson = .ok record := by
  obtain ⟨fields, writes, stores⟩ := record.exists_toJson
  rw [writes, ofJson, stores.ofFields_eq]

theorem validate_toJson {record : Record} (low : record.CitesNaturals) :
    validate record.toJson = none := by
  obtain ⟨fields, writes, stores⟩ := record.exists_toJson
  rw [writes, validate_eq_none]
  exact ⟨fields, rfl, stores.hasShape low⟩

theorem Stores.integral {fields : List (String × Json)} {record : Record}
    (stores : Stores fields record) (fractional : (Json.obj fields).Fractional) :
    ∀ entry ∈ record.lines, entry.Integral := by
  have listed : (Json.arr (record.lines.map entryJson)).Fractional := by
    rw [← stores.lines]
    cases found : fields.lookup "lines" with
    | none => exact .arr (by simp)
    | some value =>
      obtain ⟨before, after, rfl, -⟩ := List.lookup_eq_some_iff.mp found
      cases fractional with
      | obj each => exact each ("lines", value) (by simp)
  intro entry member n cited
  cases listed with
  | arr each =>
    cases each (entryJson entry) (List.mem_map_of_mem member) with
    | arr parts =>
      cases parts (.arr (entry.citations.map Number.toJson)) (by simp) with
      | arr numbers =>
        have fraction := numbers n.toJson (List.mem_map_of_mem cited)
        cases n with
        | int value => rfl
        | real written value whole =>
          cases fraction with
          | real none => cases whole.symm.trans none

end Record

open Record

/-- Validation accepts the values of the record's shape and no others. A value that it accepts is
the stored form of a record: reading it gives that record, and what is written of the record is
accepted again and reads back as the same. Checking the record ends in a report where no number with
a fraction or an exponent is whole. -/
theorem validated_can_be_checked (data : Json) :
    (validate data = none ↔ IsRecord data) ∧
    (validate data = none →
      ∃ fields record, data = .obj fields ∧ Stores fields record ∧ ofJson data = .ok record ∧
        validate record.toJson = none ∧ ofJson record.toJson = .ok record ∧
        (data.Fractional → ∃ report, record.check = .ok report)) := by
  refine ⟨validate_eq_none, fun accepted => ?_⟩
  obtain ⟨fields, rfl, shape⟩ := validate_eq_none.mp accepted
  obtain ⟨record, stores, low⟩ := shape.exists_stores
  refine ⟨fields, record, rfl, stores, stores.ofFields_eq, validate_toJson low,
    ofJson_toJson record, fun fractional => ?_⟩
  exact exists_report (not_halts_of_integral (stores.integral fractional))

/-- The premises go by their other name, a line cites out of order, and a field that no record has
holds one and a half. -/
def storedDetachment : Json :=
  .obj [("assumptions", .ofStrings ["A → B", "A"]), ("weight", .real (.finite false 3 (-1))),
    ("conclusion", .str "B"), ("lines", .arr [.arr [.str "B", .str "→ O", .arr [.int 1, .int 0]]]),
    ("chapter", .int 2)]

def detachment : Record :=
  ⟨["A → B", "A"], "B", [⟨"B", "→ O", [.int 1, .int 0]⟩], none, some (.int 2)⟩

theorem storedDetachment_fractional : storedDetachment.Fractional := by
  have texts (items : List String) : (Json.ofStrings items).Fractional :=
    .arr (List.forall_mem_map.mpr fun text _ => .str text)
  have line : (Json.arr [.str "B", .str "→ O", .arr [.int 1, .int 0]]).Fractional :=
    .arr (by simp [Json.Fractional.str, Json.Fractional.int, Json.Fractional.arr])
  exact .obj (by simp [texts, line, Json.Fractional.str, Json.Fractional.int, Json.Fractional.arr,
    Json.Fractional.real, Double.whole?, Double.twoTo])

theorem storedDetachment_can_be_checked :
    storedDetachment.Fractional ∧ validate storedDetachment = none ∧ IsRecord storedDetachment ∧
    ∃ record report, ofJson storedDetachment = .ok record ∧ validate record.toJson = none ∧
      ofJson record.toJson = .ok record ∧ record.check = .ok report ∧ report.qed = true := by
  have accepted : validate storedDetachment = none := rfl
  obtain ⟨accepts, checks⟩ := validated_can_be_checked storedDetachment
  obtain ⟨fields, record, -, -, reads, again, back, reports⟩ := checks accepted
  obtain ⟨report, ends⟩ := reports storedDetachment_fractional
  have loaded : ofJson storedDetachment = .ok detachment := rfl
  have finished : detachment.check = .ok ⟨none, 1, 1, true, [0, 1], none⟩ := rfl
  cases loaded.symm.trans reads
  cases finished.symm.trans ends
  exact ⟨storedDetachment_fractional, accepted, accepts.mp accepted, _, _, reads, again, back,
    ends, rfl⟩

end NaturalDeduction
