import NaturalDeduction.Proofs.Spelling

/-! A formula is read back from its own text. The text of a formula scans to one token for each
letter, glyph and parenthesis, and these tokens take the reader to the formula itself, unless
what is open in the text at once costs more than the reader allows. -/
namespace NaturalDeduction
open Grammar Outcome

theorem Token.scan_single {c : Char} {kind : Kind} (single : Kind.ofChar? c = some kind)
    {rest : List Char} {ts : List Token} (scans : scan rest = .ok ts) :
    scan (c :: rest) = .ok (⟨kind, String.singleton c⟩ :: ts) := by
  rw [scan_cons single, scans]
  rfl

namespace Formula

def tokens (grouped : Bool) : Formula → List Token
  | atom name => [⟨.letter, name⟩]
  | neg body => ⟨.negation, "-"⟩ :: body.tokens true
  | binary c left right =>
      let inner :=
        left.tokens true ++ ⟨.connective c, String.singleton c.glyph⟩ :: right.tokens true
      if grouped then ⟨.openParen, "("⟩ :: (inner ++ [⟨.closeParen, ")"⟩]) else inner

/-- What the parentheses and negations open at once in the canonical text cost. -/
def levels (grouped : Bool) : Formula → Nat
  | atom _ => 0
  | neg body => body.levels true + Frame.negation.cost
  | binary _ left right =>
      max (left.levels true) (right.levels true) + if grouped then Frame.group.cost else 0

theorem scan_chars {f : Formula} (lettered : f.Lettered) (grouped : Bool) {rest : List Char}
    {ts : List Token} (scans : Token.scan rest = .ok ts) :
    Token.scan (f.chars grouped ++ rest) = .ok (f.tokens grouped ++ ts) := by
  induction f generalizing grouped rest ts with
  | atom name =>
    obtain ⟨c, alpha, rfl⟩ := lettered
    simpa [chars, tokens] using Token.scan_single (Token.ofChar?_of_isAlpha alpha) scans
  | neg body ih => exact Token.scan_single rfl (ih lettered true scans)
  | binary c left right ihl ihr =>
    have inner {rest : List Char} {ts : List Token} (scans : Token.scan rest = .ok ts) :
        Token.scan (left.chars true ++ ' ' :: c.glyph :: ' ' :: (right.chars true ++ rest)) =
          .ok (left.tokens true ++
            ⟨.connective c, String.singleton c.glyph⟩ :: (right.tokens true ++ ts)) := by
      apply ihl lettered.1
      rw [Token.scan_blank rfl]
      apply Token.scan_single c.ofChar?_glyph
      rw [Token.scan_blank rfl]
      exact ihr lettered.2 true scans
    cases grouped with
    | false => simpa [chars, tokens] using inner scans
    | true =>
      have closed : Token.scan (')' :: rest) = .ok (⟨.closeParen, ")"⟩ :: ts) :=
        Token.scan_single rfl scans
      have opened := Token.scan_single (c := '(') rfl (inner closed)
      simpa [chars, tokens] using opened

namespace Reading

def Allows (limit : Option Nat) (cost : Nat) : Prop := ∀ most ∈ limit, cost ≤ most

instance (limit : Option Nat) (cost : Nat) : Decidable (Allows limit cost) :=
  inferInstanceAs (Decidable (∀ most ∈ limit, cost ≤ most))

theorem Allows.mono {limit : Option Nat} {m n : Nat} (allows : Allows limit n) (le : m ≤ n) :
    Allows limit m :=
  fun most member => Nat.le_trans le (allows most member)

theorem allows_max {limit : Option Nat} {base m n : Nat} :
    Allows limit (base + max m n) ↔ Allows limit (base + m) ∧ Allows limit (base + n) := by
  constructor
  · intro allows
    exact ⟨allows.mono (by omega), allows.mono (by omega)⟩
  · rintro ⟨first, second⟩ most member
    have hm := first most member
    have hn := second most member
    omega

theorem descend_eq (limit : Option Nat) (frame : Frame) (stack : List Frame) :
    descend limit frame stack =
      if Allows limit (nesting (frame :: stack)) then .ok (.operand (frame :: stack))
      else .error .tooDeep := by
  cases limit with
  | none => simp [descend, Allows]
  | some most =>
    by_cases deep : most < nesting (frame :: stack)
    · simp [descend, Allows, deep, Nat.not_le.mpr deep]
    · simp [descend, Allows, deep, Nat.not_lt.mp deep]

/-- The reader on the tokens of two operands and the connective between them, given what it does
on those of each operand. -/
theorem run_joined {limit : Option Nat} {stack : List Frame} (settled : Settled stack)
    (c : Connective) (left right : Formula)
    (runLeft : run limit (.operand stack) (left.tokens true) =
      if Allows limit (nesting stack + left.levels true) then .ok (complete stack left)
      else .error .tooDeep)
    (runRight : run limit (.operand (.operand left c :: stack)) (right.tokens true) =
      if Allows limit (nesting stack + right.levels true)
      then .ok (complete (.operand left c :: stack) right) else .error .tooDeep) :
    run limit (.operand stack) ((binary c left right).tokens false) =
      if Allows limit (nesting stack + (binary c left right).levels false)
      then .ok (.operator stack (.binary c left right)) else .error .tooDeep := by
  simp only [tokens, levels, Bool.false_eq_true, if_false, Nat.add_zero, allows_max]
  rw [run_append, runLeft]
  by_cases allowsLeft : Allows limit (nesting stack + left.levels true)
  · rw [if_pos allowsLeft, ok_bind, complete_of_settled settled, run_cons]
    simp only [step, ok_bind, runRight, complete, complete_of_settled settled, allowsLeft,
      true_and]
  · rw [if_neg allowsLeft, error_bind, if_neg (fun both => allowsLeft both.1)]

theorem run_tokens (limit : Option Nat) (f : Formula) (stack : List Frame)
    (shallow : Allows limit (nesting stack)) :
    run limit (.operand stack) (f.tokens true) =
      if Allows limit (nesting stack + f.levels true) then .ok (complete stack f)
      else .error .tooDeep := by
  induction f generalizing stack with
  | atom name => simp [tokens, levels, shallow, run_cons, step]
  | neg body ih =>
    have counted : nesting stack + (neg body).levels true =
        nesting (.negation :: stack) + body.levels true := by
      simp only [levels, nesting]
      omega
    rw [counted, tokens, run_cons]
    simp only [step, descend_eq]
    by_cases deeper : Allows limit (nesting (.negation :: stack))
    · have inside := ih (.negation :: stack) deeper
      rw [if_pos deeper, ok_bind, inside]
      rfl
    · have refused : ¬ Allows limit (nesting (.negation :: stack) + body.levels true) :=
        fun allows => deeper (allows.mono (by omega))
      rw [if_neg deeper, if_neg refused, error_bind]
  | binary c left right ihl ihr =>
    have spelled : (binary c left right).tokens true =
        ⟨.openParen, "("⟩ :: ((binary c left right).tokens false ++ [⟨.closeParen, ")"⟩]) := rfl
    have counted : nesting stack + (binary c left right).levels true =
        nesting (.group :: stack) + (binary c left right).levels false := by
      simp only [levels, nesting, if_true, Bool.false_eq_true, if_false]
      omega
    rw [spelled, counted, run_cons]
    simp only [step, descend_eq]
    by_cases deeper : Allows limit (nesting (.group :: stack))
    · have settled : Settled (.group :: stack) := trivial
      have inside := run_joined settled c left right (ihl _ deeper) (ihr _ deeper)
      rw [if_pos deeper, ok_bind, run_append, inside]
      by_cases allows :
          Allows limit (nesting (.group :: stack) + (binary c left right).levels false)
      · simp [allows, run_cons, step]
      · simp [allows]
    · have refused :
          ¬ Allows limit (nesting (.group :: stack) + (binary c left right).levels false) :=
        fun allows => deeper (allows.mono (by omega))
      rw [if_neg deeper, if_neg refused, error_bind]

end Reading

open Reading

theorem ofTokens_tokens_true (limit : Option Nat) (f : Formula) :
    ofTokens limit (f.tokens true) =
      if Allows limit (f.levels true) then .ok f else .error .tooDeep := by
  have shallow : Allows limit (nesting []) := fun most _ => Nat.zero_le most
  have runs := run_tokens limit f [] shallow
  rw [show nesting [] = 0 from rfl, Nat.zero_add] at runs
  rw [ofTokens_eq_run, runs, ite_bind]
  rfl

theorem ofTokens_tokens (limit : Option Nat) (f : Formula) (grouped : Bool) :
    ofTokens limit (f.tokens grouped) =
      if Allows limit (f.levels grouped) then .ok f else .error .tooDeep := by
  cases grouped with
  | true => exact ofTokens_tokens_true limit f
  | false =>
    -- only a binary formula is written differently at the root
    cases f with
    | atom name => exact ofTokens_tokens_true limit (.atom name)
    | neg body => exact ofTokens_tokens_true limit (.neg body)
    | binary c left right =>
      have shallow : Allows limit (nesting []) := fun most _ => Nat.zero_le most
      have settled : Settled [] := trivial
      have runs := run_joined settled c left right
        (run_tokens limit left [] shallow) (run_tokens limit right [.operand left c] shallow)
      rw [show nesting [] = 0 from rfl, Nat.zero_add] at runs
      rw [ofTokens_eq_run, runs, ite_bind]
      rfl

theorem scan_rendering {f : Formula} (lettered : f.Lettered) (grouped : Bool) :
    Token.scan (f.chars grouped) = .ok (f.tokens grouped) := by
  have scans : Token.scan [] = .ok [] := rfl
  simpa using scan_chars lettered grouped scans

theorem parse_rendering {f : Formula} (lettered : f.Lettered) (grouped : Bool) :
    parse (String.ofList (f.chars grouped)) =
      if f.levels grouped ≤ nestingLimit then .ok f else .error .tooDeep := by
  have allows : Allows (some nestingLimit) (f.levels grouped) ↔
      f.levels grouped ≤ nestingLimit := by
    simp [Allows]
  rw [parse, Token.ofText, String.toList_ofList, scan_rendering lettered]
  simp only [mapError_ok, ok_bind, ofTokens_tokens, allows]

end Formula

namespace Token

def Faithful (t : Token) : Prop :=
  t.kind = .letter → ∃ c : Char, c.isAlpha = true ∧ t.lexeme = String.singleton c

theorem faithful_of_scan {cs : List Char} {ts : List Token} (scans : scan cs = .ok ts) :
    ∀ t ∈ ts, t.Faithful := by
  obtain ⟨layout, -, rfl⟩ := scan_eq_ok_iff.mp scans
  intro t member letter
  obtain ⟨placed, -, rfl⟩ := List.mem_map.mp member
  have spelled := placed.spelled
  rw [letter] at spelled
  exact spelled

end Token

namespace Grammar

mutual

theorem lettered_of_chain {ts : List Token} {f : Formula} :
    Chain ts f → (∀ t ∈ ts, t.Faithful) → f.Lettered
  | .operand read, faithful => lettered_of_operand read faithful
  | .link chain _ read, faithful =>
      ⟨lettered_of_chain chain fun t member => faithful t (by simp [member]),
        lettered_of_operand read fun t member => faithful t (by simp [member])⟩

theorem lettered_of_operand {ts : List Token} {f : Formula} :
    Operand ts f → (∀ t ∈ ts, t.Faithful) → f.Lettered
  | .negation _ read, faithful => by
      have body := lettered_of_operand read fun t member => faithful t (by simp [member])
      exact body
  | .primary read, faithful => lettered_of_primary read faithful

theorem lettered_of_primary {ts : List Token} {f : Formula} :
    Primary ts f → (∀ t ∈ ts, t.Faithful) → f.Lettered
  | .letter (t := t) kind, faithful => faithful t (by simp) kind
  | .group _ chain _, faithful =>
      lettered_of_chain chain fun t member => faithful t (by simp [member])

end

end Grammar

theorem Formula.lettered_of_parse {text : String} {f : Formula} (reads : parse text = .ok f) :
    f.Lettered := by
  obtain ⟨ts, scans, reads⟩ := bind_eq_ok.mp reads
  exact lettered_of_chain (chain_of_ofTokens reads)
    (Token.faithful_of_scan (mapError_eq_ok.mp scans))

/-- The text of a lettered formula, with or without parentheses around it, is read back as that
very formula whenever its parentheses and negations stay within the limit, and only then. So
reading, writing and reading again changes nothing. -/
theorem rendering_reads_back :
    (∀ f : Formula, f.Lettered →
      Formula.parse f.text =
        (if f.levels false ≤ Formula.nestingLimit then .ok f else .error .tooDeep) ∧
      Formula.parse f.operandText =
        (if f.levels true ≤ Formula.nestingLimit then .ok f else .error .tooDeep)) ∧
    (∀ (text : String) (f : Formula), Formula.parse text = .ok f →
      f.levels false ≤ Formula.nestingLimit →
      Formula.parse f.text = .ok f ∧ (Formula.parse f.text).map Formula.text = .ok f.text) := by
  constructor
  · intro f lettered
    exact ⟨Formula.parse_rendering lettered false, Formula.parse_rendering lettered true⟩
  · intro text f reads within
    have again := Formula.parse_rendering (Formula.lettered_of_parse reads) false
    rw [if_pos within] at again
    refine ⟨again, ?_⟩
    rw [Formula.text, again]
    rfl

theorem mixedFormula_reads_back :
    mixedFormula.Lettered ∧ mixedFormula.levels true ≤ Formula.nestingLimit ∧
    Formula.parse mixedFormula.text = .ok mixedFormula ∧
    Formula.parse mixedFormula.operandText = .ok mixedFormula ∧
    (Formula.parse mixedFormula.text).map Formula.text = .ok mixedFormula.text := by
  have a : (Formula.atom "A").Lettered := ⟨'A', by decide, rfl⟩
  have b : (Formula.atom "B").Lettered := ⟨'B', by decide, rfl⟩
  have c : (Formula.atom "C").Lettered := ⟨'C', by decide, rfl⟩
  have lettered : mixedFormula.Lettered := ⟨⟨a, b, c⟩, a⟩
  have inner : mixedFormula.levels false ≤ Formula.nestingLimit := by decide
  have outer : mixedFormula.levels true ≤ Formula.nestingLimit := by decide
  obtain ⟨bare, grouped⟩ := rendering_reads_back.1 mixedFormula lettered
  rw [if_pos inner] at bare
  rw [if_pos outer] at grouped
  exact ⟨lettered, outer, bare, grouped, (rendering_reads_back.2 _ _ bare inner).2⟩

end NaturalDeduction
