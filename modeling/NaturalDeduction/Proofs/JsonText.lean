import Mathlib.Data.List.TakeDrop
import Mathlib.Data.List.TakeWhile
import NaturalDeduction.Json.Reader
import NaturalDeduction.Json.Basic

/-! JSON text reads back. A value without doubles is written as a sequence of tokens; the scanner
finds exactly these in its text, though a number is only settled by the character after it, and
the stack machine builds the value from them again. No line end stands in the text. -/
namespace NaturalDeduction.Json

/-- Values without doubles whose objects have no key twice. -/
inductive Plain : Json → Prop where
  | null : Plain .null
  | bool (value : Bool) : Plain (.bool value)
  | int (value : Int) : Plain (.int value)
  | str (value : String) : Plain (.str value)
  | arr {items : List Json} : (∀ item ∈ items, Plain item) → Plain (.arr items)
  | obj {fields : List (String × Json)} : (∀ field ∈ fields, Plain field.2) →
      (fields.map Prod.fst).Nodup → Plain (.obj fields)

mutual

def tokens : Json → List Token
  | str value => [.text value]
  | arr items => .leftBracket :: (List.intercalate [.comma] (itemTokens items) ++ [.rightBracket])
  | obj fields => .leftBrace :: (List.intercalate [.comma] (fieldTokens fields) ++ [.rightBrace])
  | value => [.scalar value]

def itemTokens : List Json → List (List Token)
  | [] => []
  | value :: rest => value.tokens :: itemTokens rest

def fieldTokens : List (String × Json) → List (List Token)
  | [] => []
  | (key, value) :: rest => (.text key :: .colon :: value.tokens) :: fieldTokens rest

end

namespace Scan

/-- The scanner has come past these tokens, given last first; the last of them may be a word that
could still go on. -/
inductive Settled : Scan × List Token → List Token → Prop where
  | idle (found : List Token) : Settled (idle, found) found
  | word {reversed : List Char} {token : Token} {found : List Token} :
      scalar? reversed.reverse = some token → Settled (word reversed, found) (token :: found)

def Finds (chars : List Char) (tokens : List Token) : Prop :=
  ∀ found, ∃ state, chars.foldlM step (idle, found) = some state ∧
    Settled state (tokens.reverse ++ found)

def Closes (chars : List Char) (tokens : List Token) : Prop :=
  ∀ found, chars.foldlM step (idle, found) = some (idle, tokens.reverse ++ found)

section Sequences
variable {a b : List Char} {s t : List Token} {c : Char}

theorem Settled.step_eq {state : Scan × List Token} (settled : Settled state t)
    (ends : isWordChar c = false) : step state c = start t c := by
  cases settled with
  | idle => rfl
  | word reads => simp [step, ends, reads]

theorem Settled.finish_eq {state : Scan × List Token} (settled : Settled state t) :
    finish state = some t.reverse := by
  cases settled with
  | idle => rfl
  | word reads => simp [finish, reads]

theorem Closes.finds (closes : Closes a s) : Finds a s := fun found =>
  ⟨_, closes found, .idle _⟩

theorem Closes.append_finds (first : Closes a s) (second : Finds b t) :
    Finds (a ++ b) (s ++ t) := by
  intro found
  obtain ⟨state, runs, settled⟩ := second (s.reverse ++ found)
  refine ⟨state, ?_, by simpa using settled⟩
  simp [List.foldlM_append, first found, runs]

/-- A character that no word goes on with settles the last word before it. -/
theorem Finds.append_closes (first : Finds a s) (second : Closes (c :: b) t)
    (ends : isWordChar c = false) : Closes (a ++ c :: b) (s ++ t) := by
  intro found
  obtain ⟨state, runs, settled⟩ := first found
  have next : step state c = step (idle, s.reverse ++ found) c := settled.step_eq ends
  have rest := second (s.reverse ++ found)
  rw [List.foldlM_cons, ← next] at rest
  rw [List.foldlM_append, runs, List.reverse_append, List.append_assoc]
  exact rest

theorem finds_nil : Finds [] [] := fun found => ⟨_, rfl, .idle found⟩

theorem closes_comma : Closes [',', ' '] [.comma] := fun _ => rfl

theorem closes_colon : Closes [':', ' '] [.colon] := fun _ => rfl

theorem finds_separated {α : Type} {chars : α → List Char} {tokens : α → List Token} {as : List α}
    (each : ∀ a ∈ as, Finds (chars a) (tokens a)) :
    Finds (separated (as.map chars)) (List.intercalate [.comma] (as.map tokens)) := by
  induction as with
  | nil => exact finds_nil
  | cons a rest ih =>
    obtain ⟨first, others⟩ := List.forall_mem_cons.mp each
    cases rest with
    | nil => simpa [separated] using first
    | cons b more =>
      rw [separated, List.map_cons, List.map_cons, List.map_cons, List.map_cons,
        List.intercalate_cons_cons, List.intercalate_cons_cons]
      exact (first.append_closes closes_comma rfl).append_finds (ih others)

end Sequences

section Strings
variable {reversed : List Char} {found : List Token}

theorem run_unit {c : Char} (low : c.toNat < 0xD800) :
    (Text.hexChars 4 c.toNat).foldlM step (unit reversed none 3 0, found) =
      some (text (c :: reversed), found) := by
  have digit (n : Nat) : Text.hexValue? (Text.hexDigit (n % 16)) = some (n % 16) :=
    Text.hexValue?_hexDigit (n % 16) (Nat.mod_lt n (by decide))
  have value : (((0 * 16 + c.toNat / 16 / 16 / 16 % 16) * 16 + c.toNat / 16 / 16 % 16) * 16 +
      c.toNat / 16 % 16) * 16 + c.toNat % 16 = c.toNat := by omega
  have below : ¬ 0xD800 ≤ c.toNat := by omega
  have belowLow : ¬ 0xDC00 ≤ c.toNat := by omega
  have closes : closeUnit reversed none c.toNat = some (text (c :: reversed)) := by
    simp [closeUnit, below, belowLow, Char.ofNat_toNat]
  simp only [Text.hexChars, List.nil_append, List.cons_append, List.foldlM_cons, List.foldlM_nil,
    step, digit, value, closes, Option.bind_eq_bind, Option.bind_some, Option.map_some]
  rfl

theorem run_escape (c : Char) :
    (Json.escape c).foldlM step (text reversed, found) = some (text (c :: reversed), found) := by
  unfold Json.escape
  split
  all_goals try rfl
  next notQuote notBackslash _ _ _ _ _ =>
    split
    next control =>
      have low : c.toNat < 0xD800 := by omega
      exact run_unit low
    next printed =>
      have quote : c ≠ '"' := notQuote
      have backslash : c ≠ '\\' := notBackslash
      simp [step, quote, backslash, printed]

theorem run_escapes (chars : List Char) :
    (chars.flatMap Json.escape).foldlM step (text reversed, found) =
      some (text (chars.reverse ++ reversed), found) := by
  induction chars generalizing reversed with
  | nil => rfl
  | cons c rest ih => simp [List.foldlM_append, run_escape, ih]

theorem closes_stringChars (s : String) : Closes (stringChars s) [.text s] := by
  intro found
  have opens : step (idle, found) '"' = some (text [], found) := rfl
  rw [stringChars, List.foldlM_cons, opens, Option.bind_eq_bind, Option.bind_some,
    List.foldlM_append, run_escapes]
  simp [step]

end Strings

section Numbers

theorem isWordChar_of_isDigit {c : Char} (digit : c.isDigit = true) : isWordChar c = true := by
  simp [isWordChar, Char.isAlphanum, digit]

theorem start_wordChar {c : Char} (word : isWordChar c = true) (found : List Token) :
    start found c = some (.word [c], found) := by
  have blank : Text.isBlank c = false := by
    cases isBlank : Text.isBlank c with
    | false => rfl
    | true =>
      simp only [Text.isBlank, Bool.or_eq_true, decide_eq_true_eq] at isBlank
      rcases isBlank with ((rfl | rfl) | rfl) | rfl <;> cases word
  unfold start
  split
  all_goals try cases word
  simp [blank, word]

theorem run_word {chars reversed : List Char} {found : List Token}
    (word : chars.all isWordChar = true) :
    chars.foldlM step (.word reversed, found) =
      some (.word (chars.reverse ++ reversed), found) := by
  induction chars generalizing reversed with
  | nil => rfl
  | cons c rest ih =>
    rw [List.all_cons, Bool.and_eq_true] at word
    simp [step, word.1, ih word.2]

theorem finds_word {chars : List Char} {token : Token} (nonempty : chars ≠ [])
    (word : chars.all isWordChar = true) (reads : scalar? chars = some token) :
    Finds chars [token] := by
  obtain ⟨c, rest, rfl⟩ := List.exists_cons_of_ne_nil nonempty
  rw [List.all_cons, Bool.and_eq_true] at word
  intro found
  refine ⟨(.word (rest.reverse ++ [c]), found), ?_, .word (by simpa using reads)⟩
  simp [step, start_wordChar word.1, run_word word.2]

theorem scalar?_of_digit {word : List Char} {c : Char} (last : word.getLast? = some c)
    (digit : c.isDigit = true) : scalar? word = (number? word).map .scalar := by
  unfold scalar?
  split
  all_goals first | rfl | (cases last; cases digit)

theorem head?_toDigits {n : Nat} (positive : 0 < n) : (Nat.toDigits 10 n).head? ≠ some '0' := by
  induction n using Nat.strongRecOn with
  | _ n ih =>
    by_cases small : n < 10
    · have digit : ∀ m < 10, m.digitChar = '0' → m = 0 := by decide
      rw [Nat.toDigits_of_lt_base small, List.head?_singleton, ne_eq, Option.some.injEq]
      exact fun zero => Nat.ne_of_gt positive (digit n small zero)
    · rw [Nat.toDigits_of_base_le (by decide) (by omega),
        List.head?_append, Option.or_of_isSome (by simp)]
      exact ih (n / 10) (by omega) (by omega)

theorem integral?_toDigits (n : Nat) :
    integral? (Nat.toDigits 10 n) = some (Nat.toDigits 10 n, []) := by
  obtain rfl | positive := Nat.eq_zero_or_pos n
  · rfl
  · have digits : ∀ c ∈ Nat.toDigits 10 n, c.isDigit = true := fun c =>
      Nat.isDigit_of_mem_toDigits (by decide) (by decide)
    have leads := head?_toDigits positive
    have nonempty := @Nat.toDigits_ne_nil n 10
    generalize Nat.toDigits 10 n = numeral at *
    have spans : numeral.span Char.isDigit = (numeral, []) := by
      rw [List.span_eq_takeWhile_dropWhile, List.takeWhile_eq_self_iff.mpr digits,
        List.dropWhile_eq_nil_iff.mpr digits]
    obtain ⟨c, rest, rfl⟩ := List.exists_cons_of_ne_nil nonempty
    unfold integral?
    split
    next zero =>
      cases zero
      exact absurd rfl leads
    next => rw [spans]

section Numeral
variable {numeral : List Char} {n : Int}

theorem number?_unsigned (whole : integral? numeral = some (numeral, []))
    (unsigned : numeral.head? ≠ some '-') : number? numeral = some (.int (natural numeral)) := by
  unfold number?
  split
  next parts =>
    split at parts
    next => simp at unsigned
    next =>
      cases parts
      simp only [whole]
      rfl

theorem number?_negative (whole : integral? numeral = some (numeral, [])) :
    number? ('-' :: numeral) = some (.int (-natural numeral)) := by
  unfold number?
  simp only [whole]
  rfl

theorem finds_numeral {sign : List Char} (digits : ∀ c ∈ numeral, c.isDigit = true)
    (nonempty : numeral ≠ []) (word : sign.all isWordChar = true)
    (reads : number? (sign ++ numeral) = some (.int n)) :
    Finds (sign ++ numeral) [.scalar (.int n)] := by
  have last : (sign ++ numeral).getLast? = some (numeral.getLast nonempty) := by
    rw [List.getLast?_append, List.getLast?_eq_some_getLast nonempty, Option.some_or]
  have digit := digits _ (List.getLast_mem nonempty)
  refine finds_word (by simp [nonempty]) ?_ ?_
  · rw [List.all_append, word, Bool.true_and, List.all_eq_true]
    exact fun c member => isWordChar_of_isDigit (digits c member)
  · rw [scalar?_of_digit last digit, reads]
    rfl

end Numeral

theorem finds_intChars (n : Int) : Finds (intChars n) [.scalar (.int n)] := by
  have digits : ∀ c ∈ Nat.toDigits 10 n.natAbs, c.isDigit = true := fun c =>
    Nat.isDigit_of_mem_toDigits (by decide) (by decide)
  have value : natural (Nat.toDigits 10 n.natAbs) = n.natAbs := Nat.ofDigitChars_ten_toDigits
  have whole := integral?_toDigits n.natAbs
  have nonempty := @Nat.toDigits_ne_nil n.natAbs 10
  unfold intChars
  generalize Nat.toDigits 10 n.natAbs = numeral at *
  split
  next negative =>
    have reads : number? ('-' :: numeral) = some (.int n) := by
      rw [number?_negative whole, value]
      congr
      omega
    exact @finds_numeral numeral n ['-'] digits nonempty rfl reads
  next positive =>
    have unsigned : numeral.head? ≠ some '-' := by
      intro leads
      exact absurd (digits '-' (List.mem_of_mem_head? leads)) (by decide)
    have reads : number? numeral = some (.int n) := by
      rw [number?_unsigned whole unsigned, value]
      congr
      omega
    exact @finds_numeral numeral n [] digits nonempty rfl reads

end Numbers

end Scan

theorem itemChars_eq (items : List Json) : itemChars items = items.map chars := by
  induction items with
  | nil => rfl
  | cons item rest ih => rw [itemChars, ih, List.map_cons]

theorem fieldChars_eq (fields : List (String × Json)) :
    fieldChars fields =
      fields.map fun field => stringChars field.1 ++ ':' :: ' ' :: field.2.chars := by
  induction fields with
  | nil => rfl
  | cons field rest ih => rw [fieldChars, ih, List.map_cons]

theorem itemTokens_eq (items : List Json) : itemTokens items = items.map tokens := by
  induction items with
  | nil => rfl
  | cons item rest ih => rw [itemTokens, ih, List.map_cons]

theorem fieldTokens_eq (fields : List (String × Json)) :
    fieldTokens fields = fields.map fun field => .text field.1 :: .colon :: field.2.tokens := by
  induction fields with
  | nil => rfl
  | cons field rest ih => rw [fieldTokens, ih, List.map_cons]

open Scan in
theorem Plain.finds {value : Json} (plain : Plain value) : Finds value.chars value.tokens := by
  induction plain with
  | null => exact finds_word (by simp [chars]) rfl rfl
  | bool value => cases value <;> exact finds_word (by simp [chars]) rfl rfl
  | int value => exact finds_intChars value
  | str value => exact (closes_stringChars value).finds
  | @arr items _ each =>
    have opens : Closes ['['] [.leftBracket] := fun _ => rfl
    have closes : Closes [']'] [.rightBracket] := fun _ => rfl
    rw [chars, tokens, itemChars_eq, itemTokens_eq]
    exact opens.append_finds ((finds_separated each).append_closes closes rfl).finds
  | @obj fields _ _ each =>
    have opens : Closes ['{'] [.leftBrace] := fun _ => rfl
    have closes : Closes ['}'] [.rightBrace] := fun _ => rfl
    rw [chars, tokens, fieldChars_eq, fieldTokens_eq]
    refine opens.append_finds (Finds.append_closes (finds_separated ?_) closes rfl).finds
    intro field member
    exact (closes_stringChars field.1).append_finds (closes_colon.append_finds (each field member))

theorem Plain.tokens? {value : Json} (plain : Plain value) :
    tokens? value.chars = some value.tokens := by
  obtain ⟨state, runs, settled⟩ := plain.finds []
  rw [Json.tokens?, runs]
  simpa using settled.finish_eq

theorem put_of_not_mem {key : String} {fields : List (String × Json)}
    (unknown : key ∉ fields.map Prod.fst) (value : Json) :
    put key value fields = fields ++ [(key, value)] := by
  induction fields with
  | nil => rfl
  | cons field rest ih =>
    rw [List.map_cons, List.mem_cons, not_or] at unknown
    rw [put, if_neg (Ne.symm unknown.1), ih unknown.2, List.cons_append]

namespace Build

/-- A value comes next and goes onto the stack; at the start of a list its end may come instead. -/
inductive Awaits : Build → List Frame → Prop where
  | due (stack : List Frame) : Awaits (due stack) stack
  | first (stack : List Frame) : Awaits (firstItem stack) (.items [] :: stack)

def Delivers (tokens : List Token) (value : Json) : Prop :=
  ∀ {state : Build} {stack : List Frame}, Awaits state stack →
    tokens.foldlM step state = some (deliver value stack)

variable {state : Build} {stack : List Frame}

theorem Awaits.step_eq (awaits : Awaits state stack) {token : Token}
    (opens : token ≠ .rightBracket) : step state token = enter stack token := by
  cases awaits with
  | due => rfl
  | first =>
    cases token with
    | rightBracket => exact absurd rfl opens
    | _ => rfl

theorem delivers_text (text : String) : Delivers [.text text] (.str text) := by
  intro state stack awaits
  simp [awaits.step_eq, enter]

theorem delivers_scalar (value : Json) : Delivers [.scalar value] value := by
  intro state stack awaits
  simp [awaits.step_eq, enter]

theorem run_items {item : Json} {rest reversed : List Json}
    (each : ∀ value ∈ item :: rest, Delivers value.tokens value)
    (awaits : Awaits state (.items reversed :: stack)) :
    (List.intercalate [.comma] ((item :: rest).map tokens)).foldlM step state =
      some (afterItem stack ((item :: rest).reverse ++ reversed)) := by
  induction rest generalizing item reversed state with
  | nil =>
    obtain ⟨first, -⟩ := List.forall_mem_cons.mp each
    simp [first awaits, deliver]
  | cons next more ih =>
    obtain ⟨first, others⟩ := List.forall_mem_cons.mp each
    have shifted : (item :: next :: more).reverse ++ reversed =
        (next :: more).reverse ++ item :: reversed := by simp
    rw [List.map_cons, List.map_cons, List.intercalate_cons_cons, List.foldlM_append,
      List.foldlM_append, first awaits, shifted]
    -- the comma leads to the next item, with this one in its place
    exact ih others (.due (.items (item :: reversed) :: stack))

theorem run_field {known : List (String × Json)} {key : String} {value : Json}
    (delivers : Delivers value.tokens value) (unknown : key ∉ known.map Prod.fst)
    (ready : ∀ key, step state (.text key) = some (colon stack known key)) :
    (.text key :: .colon :: value.tokens).foldlM step state =
      some (afterField stack (known ++ [(key, value)])) := by
  have colon : step (colon stack known key) .colon = some (due (.fields known key :: stack)) := rfl
  simp [ready, colon, delivers (.due _), deliver, put_of_not_mem unknown]

theorem key_not_mem {known rest : List (String × Json)} {field : String × Json}
    (distinct : ((known ++ field :: rest).map Prod.fst).Nodup) :
    field.1 ∉ known.map Prod.fst := by
  rw [List.map_append, List.nodup_append] at distinct
  exact fun member => distinct.2.2 _ member field.1 (by simp) rfl

theorem run_fields {known rest : List (String × Json)} {field : String × Json}
    (each : ∀ other ∈ field :: rest, Delivers other.2.tokens other.2)
    (distinct : ((known ++ field :: rest).map Prod.fst).Nodup)
    (ready : ∀ key, step state (.text key) = some (colon stack known key)) :
    (List.intercalate [.comma]
        ((field :: rest).map fun field => .text field.1 :: .colon :: field.2.tokens)).foldlM
        step state = some (afterField stack (known ++ field :: rest)) := by
  induction rest generalizing field known state with
  | nil =>
    obtain ⟨first, -⟩ := List.forall_mem_cons.mp each
    rw [List.map_singleton, List.intercalate_singleton]
    exact run_field first (key_not_mem distinct) ready
  | cons next more ih =>
    obtain ⟨first, others⟩ := List.forall_mem_cons.mp each
    have here := run_field first (key_not_mem distinct) ready
    have shifted : known ++ field :: next :: more = (known ++ [field]) ++ next :: more := by simp
    rw [shifted] at distinct ⊢
    rw [List.map_cons, List.map_cons, List.intercalate_cons_cons, List.foldlM_append,
      List.foldlM_append, here]
    -- the comma leads to the next key, with the field among those known
    exact @ih (nextKey stack (known ++ [field])) _ _ others distinct fun _ => rfl

end Build

open Build in
theorem Plain.delivers {value : Json} (plain : Plain value) : Delivers value.tokens value := by
  induction plain with
  | str text => exact delivers_text text
  | @arr items _ each =>
    intro state stack awaits
    have opens : step state .leftBracket = some (firstItem stack) := awaits.step_eq nofun
    rw [tokens, itemTokens_eq, List.foldlM_cons, opens, Option.bind_eq_bind, Option.bind_some]
    cases items with
    | nil => rfl
    | cons item rest =>
      rw [List.foldlM_append, run_items each (.first stack)]
      simp [step]
  | @obj fields _ distinct each =>
    intro state stack awaits
    have opens : step state .leftBrace = some (firstKey stack) := awaits.step_eq nofun
    rw [tokens, fieldTokens_eq, List.foldlM_cons, opens, Option.bind_eq_bind, Option.bind_some]
    cases fields with
    | nil => rfl
    | cons field rest =>
      rw [List.foldlM_append, @run_fields (firstKey stack) stack [] rest field each distinct
        fun _ => rfl]
      rfl
  | _ => exact delivers_scalar _

theorem parse?_render {value : Json} (plain : Plain value) : parse? value.render = some value := by
  have built := plain.delivers (.due [])
  rw [parse?, render, String.toList_ofList, plain.tokens?]
  simp [ofTokens?, built, Build.deliver, Build.finish]

def OneLine (chars : List Char) : Prop := ∀ c ∈ chars, 0x20 ≤ c.toNat

instance (chars : List Char) : Decidable (OneLine chars) :=
  @List.decidableBAll Char _ (fun c => Nat.decLe 0x20 c.toNat) chars

section OneLine
variable {a b : List Char}

theorem OneLine.append (first : OneLine a) (second : OneLine b) : OneLine (a ++ b) :=
  List.forall_mem_append.mpr ⟨first, second⟩

theorem oneLine_hexChars (width n : Nat) : OneLine (Text.hexChars width n) := by
  have digit : ∀ m < 16, OneLine [Text.hexDigit m] := by decide
  induction width generalizing n with
  | zero => simp [OneLine, Text.hexChars]
  | succ width ih => exact (ih (n / 16)).append (digit (n % 16) (Nat.mod_lt n (by decide)))

theorem oneLine_escape (c : Char) : OneLine (escape c) := by
  have lead : OneLine ['\\', 'u'] := by decide
  unfold escape
  split
  all_goals try decide
  split
  next => exact lead.append (oneLine_hexChars 4 c.toNat)
  next printed => simpa [OneLine] using printed

theorem oneLine_stringChars (s : String) : OneLine (stringChars s) := by
  have quote : OneLine ['"'] := by decide
  have escapes : OneLine (s.toList.flatMap escape) := by
    intro c member
    obtain ⟨d, -, inside⟩ := List.mem_flatMap.mp member
    exact oneLine_escape d c inside
  exact quote.append (escapes.append quote)

theorem oneLine_intChars (n : Int) : OneLine (intChars n) := by
  have sign : OneLine ['-'] := by decide
  have digits : OneLine (Nat.toDigits 10 n.natAbs) := by
    intro c member
    have digit := @Nat.isDigit_of_mem_toDigits 10 n.natAbs c (by decide) (by decide) member
    simp only [Char.isDigit, Bool.and_eq_true, decide_eq_true_eq, UInt32.le_iff_toNat_le] at digit
    have low : 48 ≤ c.toNat := digit.1
    omega
  unfold intChars
  split
  next => exact sign.append digits
  next => exact digits

theorem oneLine_separated {parts : List (List Char)} (each : ∀ part ∈ parts, OneLine part) :
    OneLine (separated parts) := by
  have comma : OneLine [',', ' '] := by decide
  induction parts with
  | nil => simp [OneLine, separated]
  | cons part rest ih =>
    obtain ⟨first, others⟩ := List.forall_mem_cons.mp each
    cases rest with
    | nil => simpa [separated] using first
    | cons next more =>
      rw [separated, List.intercalate_cons_cons]
      exact (first.append comma).append (ih others)

theorem Plain.oneLine {value : Json} (plain : Plain value) : OneLine value.chars := by
  induction plain with
  | null => decide
  | bool value => cases value <;> decide
  | int value => exact oneLine_intChars value
  | str value => exact oneLine_stringChars value
  | arr _ each =>
    have opens : OneLine ['['] := by decide
    have closes : OneLine [']'] := by decide
    rw [chars, itemChars_eq]
    exact opens.append ((oneLine_separated (List.forall_mem_map.mpr each)).append closes)
  | obj _ _ each =>
    have opens : OneLine ['{'] := by decide
    have closes : OneLine ['}'] := by decide
    have colon : OneLine [':', ' '] := by decide
    rw [chars, fieldChars_eq]
    refine opens.append (OneLine.append (oneLine_separated (List.forall_mem_map.mpr ?_)) closes)
    intro field member
    exact (oneLine_stringChars field.1).append (colon.append (each field member))

end OneLine

end NaturalDeduction.Json
