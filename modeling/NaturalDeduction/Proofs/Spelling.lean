import Mathlib.Data.List.Forall2
import NaturalDeduction.Proofs.Grammar

/-! The scanner decodes spelled tokens with blanks around them. No accepted spelling is the
beginning of another and none starts with a blank, so a text can be laid out in at most one way. The
scanner finds the tokens of that layout, and on any other text names the character that follows the
longest beginning with a layout. How operators are spelled and spaced has no bearing on the formula
that is read. -/
namespace NaturalDeduction
open Outcome

/-- The first `n` elements are the longest beginning of the list with the property. -/
structure LongestBeginning {α : Type} (property : List α → Prop) (xs : List α) (n : Nat) :
    Prop where
  within : n ≤ xs.length
  holds : property (xs.take n)
  longest : ∀ m ≤ xs.length, property (xs.take m) → m ≤ n

theorem LongestBeginning.unique {α : Type} {property : List α → Prop} {xs : List α} {m n : Nat}
    (first : LongestBeginning property xs m) (second : LongestBeginning property xs n) : m = n := by
  have le := second.longest m first.within first.holds
  have ge := first.longest n second.within second.holds
  omega

theorem LongestBeginning.of_append {α : Type} {property : List α → Prop} {done rest : List α}
    (holds : property done) (longer : ∀ n, property (done ++ rest.take n) → rest.take n = []) :
    LongestBeginning property (done ++ rest) done.length where
  within := by simp
  holds := by simpa using holds
  longest m bound reaches := by
    rw [List.take_append] at reaches
    by_cases short : m ≤ done.length
    · exact short
    · rw [List.take_of_length_le (by omega)] at reaches
      have none := longer _ reaches
      simp only [List.take_eq_nil_iff] at none
      rcases none with none | rfl
      · omega
      · simpa using bound

theorem Connective.ofChar?_glyph (c : Connective) :
    Token.Kind.ofChar? c.glyph = some (.connective c) := by
  cases c <;> rfl

namespace Token

def Kind.Spells (lexeme : String) : Kind → Prop
  | openParen => lexeme = "("
  | closeParen => lexeme = ")"
  | negation => Operator.Spells lexeme .negation
  | connective c => Operator.Spells lexeme (.binary c)
  | letter => ∃ c : Char, c.isAlpha = true ∧ lexeme = String.singleton c

theorem ofChar?_of_isAlpha {c : Char} (alpha : c.isAlpha = true) :
    Kind.ofChar? c = some .letter := by
  unfold Kind.ofChar?
  split
  all_goals first | (exact absurd alpha (by decide)) | simp [alpha]

theorem spells_of_ofChar? {c : Char} {kind : Kind} (single : Kind.ofChar? c = some kind) :
    kind.Spells (String.singleton c) := by
  unfold Kind.ofChar? at single
  split at single
  case h_13 =>
    split at single
    next alpha =>
      cases single
      exact ⟨c, alpha, rfl⟩
    next => cases single
  all_goals
    cases single
    unfold Kind.Spells
    decide

/-- A token is spelled with one character, or is one of the two longer arrows. -/
theorem spells_iff {kind : Kind} {lexeme : String} :
    kind.Spells lexeme ↔
      (∃ c, Kind.ofChar? c = some kind ∧ lexeme = String.singleton c) ∨
      (kind = .connective .conditional ∧ lexeme = "=>") ∨
      (kind = .connective .biconditional ∧ lexeme = "<=>") := by
  constructor
  · intro spells
    cases kind with
    | openParen => exact .inl ⟨'(', rfl, spells⟩
    | closeParen => exact .inl ⟨')', rfl, spells⟩
    | negation =>
      simp only [Kind.Spells, Operator.Spells, Operator.aliases, List.mem_cons, List.not_mem_nil,
        or_false] at spells
      rcases spells with rfl | rfl | rfl | rfl
      · exact .inl ⟨'-', rfl, rfl⟩
      · exact .inl ⟨'!', rfl, rfl⟩
      · exact .inl ⟨'~', rfl, rfl⟩
      · exact .inl ⟨'¬', rfl, rfl⟩
    | connective c =>
      obtain rfl | other := spells
      · exact .inl ⟨c.glyph, c.ofChar?_glyph, rfl⟩
      · cases c with
        | conditional => exact .inr (.inl ⟨rfl, List.mem_singleton.mp other⟩)
        | biconditional => exact .inr (.inr ⟨rfl, List.mem_singleton.mp other⟩)
        | disjunction => exact .inl ⟨'|', rfl, List.mem_singleton.mp other⟩
        | conjunction => exact .inl ⟨'Λ', rfl, List.mem_singleton.mp other⟩
    | letter =>
      obtain ⟨c, alpha, rfl⟩ := spells
      exact .inl ⟨c, ofChar?_of_isAlpha alpha, rfl⟩
  · rintro (⟨c, single, rfl⟩ | ⟨rfl, rfl⟩ | ⟨rfl, rfl⟩)
    · exact spells_of_ofChar? single
    · exact .inr (by decide)
    · exact .inr (by decide)

theorem not_isBlank_of_ofChar? {c : Char} {kind : Kind} (single : Kind.ofChar? c = some kind) :
    Text.isBlank c = false := by
  cases blank : Text.isBlank c with
  | false => rfl
  | true =>
    simp only [Text.isBlank, Bool.or_eq_true, decide_eq_true_eq] at blank
    rcases blank with ((rfl | rfl) | rfl) | rfl <;> cases single

theorem exists_first_of_spells {kind : Kind} {lexeme : String} (spells : kind.Spells lexeme) :
    ∃ c rest, lexeme.toList = c :: rest ∧ Text.isBlank c = false := by
  rcases spells_iff.mp spells with ⟨c, single, rfl⟩ | ⟨-, rfl⟩ | ⟨-, rfl⟩
  · exact ⟨c, [], by simp, not_isBlank_of_ofChar? single⟩
  · exact ⟨'=', ['>'], rfl, rfl⟩
  · exact ⟨'<', ['=', '>'], rfl, rfl⟩

theorem scan_eq {c : Char} (notEquals : c ≠ '=') (notLess : c ≠ '<') (rest : List Char) :
    scan (c :: rest) =
      if Text.isBlank c then scan rest
      else
        match Kind.ofChar? c with
        | some kind => (scan rest).map (⟨kind, String.singleton c⟩ :: ·)
        | none => .error (.unexpected c) :=
  scan.eq_6 c rest (fun _ equals _ => notEquals equals) notEquals
    (fun _ less _ => notLess less) notLess

theorem scan_blank {c : Char} (blank : Text.isBlank c = true) (rest : List Char) :
    scan (c :: rest) = scan rest := by
  rw [scan_eq (by rintro rfl; cases blank) (by rintro rfl; cases blank), if_pos blank]

theorem scan_cons {c : Char} {kind : Kind} (single : Kind.ofChar? c = some kind)
    (rest : List Char) :
    scan (c :: rest) = (scan rest).map (⟨kind, String.singleton c⟩ :: ·) := by
  rw [scan_eq (by rintro rfl; cases single) (by rintro rfl; cases single)]
  simp [not_isBlank_of_ofChar? single, single]

theorem scan_spelled {t : Token} (spelled : t.kind.Spells t.lexeme) (rest : List Char) :
    scan (t.lexeme.toList ++ rest) = (scan rest).map (t :: ·) := by
  obtain ⟨kind, lexeme⟩ := t
  rcases spells_iff.mp spelled with ⟨c, single, rfl⟩ | ⟨rfl, rfl⟩ | ⟨rfl, rfl⟩
  · simpa using scan_cons single rest
  · exact scan.eq_2 rest
  · exact scan.eq_4 rest

def Stuck (cs : List Char) : Prop :=
  (∀ c ∈ cs.head?, Text.isBlank c = false) ∧
    ∀ t : Token, t.kind.Spells t.lexeme → ¬ t.lexeme.toList <+: cs

def Error.ofChar : Char → Error
  | '=' => equalsAlone
  | '<' => lessAlone
  | c => unexpected c

theorem Stuck.ofChar?_eq_none {c : Char} {rest : List Char} (stuck : Stuck (c :: rest)) :
    Kind.ofChar? c = none := by
  cases single : Kind.ofChar? c with
  | none => rfl
  | some kind =>
    have starts : (String.singleton c).toList <+: c :: rest := by simp
    exact absurd starts (stuck.2 ⟨kind, String.singleton c⟩ (spells_of_ofChar? single))

theorem Stuck.take {c : Char} {rest : List Char} (stuck : Stuck (c :: rest)) (n : Nat) :
    Stuck (c :: rest.take n) := by
  refine ⟨stuck.1, fun t spelled starts => stuck.2 t spelled (starts.trans ?_)⟩
  exact (List.prefix_cons_inj c).mpr (List.take_prefix n rest)

theorem scan_stuck {c : Char} {rest : List Char} (stuck : Stuck (c :: rest)) :
    scan (c :: rest) = .error (.ofChar c) := by
  have notBlank : Text.isBlank c = false := stuck.1 c rfl
  have notSingle := stuck.ofChar?_eq_none
  generalize text : c :: rest = cs at stuck ⊢
  fun_cases scan cs with
  | case1 => cases text
  | case2 rest =>
    have starts : "=>".toList <+: '=' :: '>' :: rest := List.prefix_append ['=', '>'] rest
    exact absurd starts (stuck.2 ⟨.connective .conditional, "=>"⟩ (.inr (by decide)))
  | case4 rest =>
    have starts : "<=>".toList <+: '<' :: '=' :: '>' :: rest :=
      List.prefix_append ['<', '=', '>'] rest
    exact absurd starts (stuck.2 ⟨.connective .biconditional, "<=>"⟩ (.inr (by decide)))
  | case3 | case5 =>
    cases text
    rfl
  | case6 d others _ _ _ _ blank =>
    cases text
    rw [notBlank] at blank
    cases blank
  | case7 d others _ _ _ _ _ kind single =>
    cases text
    rw [notSingle] at single
    cases single
  | case8 d others _ notEquals _ notLess =>
    cases text
    rw [Error.ofChar.eq_3 c notEquals notLess]

def Blanks := { cs : List Char // ∀ c ∈ cs, Text.isBlank c = true }

structure Placed where
  blanks : Blanks
  token : Token
  spelled : token.kind.Spells token.lexeme

def Placed.chars (placed : Placed) : List Char :=
  placed.blanks.val ++ placed.token.lexeme.toList

structure Layout where
  placed : List Placed
  trail : Blanks

namespace Layout

def chars (layout : Layout) : List Char :=
  layout.placed.flatMap Placed.chars ++ layout.trail.val

def tokens (layout : Layout) : List Token := layout.placed.map Placed.token

theorem chars_cons (first : Placed) (placed : List Placed) (trail : Blanks) :
    chars ⟨first :: placed, trail⟩ = first.chars ++ chars ⟨placed, trail⟩ := by
  simp [chars]

def empty : Layout := ⟨[], [], by simp⟩

def afterBlank {c : Char} (blank : Text.isBlank c = true) : Layout → Layout
  | ⟨[], trail⟩ => ⟨[], c :: trail.val, List.forall_mem_cons.mpr ⟨blank, trail.property⟩⟩
  | ⟨first :: placed, trail⟩ =>
      ⟨{ first with blanks := ⟨c :: first.blanks.val,
          List.forall_mem_cons.mpr ⟨blank, first.blanks.property⟩⟩ } :: placed, trail⟩

def afterToken {t : Token} (spelled : t.kind.Spells t.lexeme) (layout : Layout) : Layout :=
  ⟨⟨⟨[], by simp⟩, t, spelled⟩ :: layout.placed, layout.trail⟩

theorem chars_afterBlank {c : Char} (blank : Text.isBlank c = true) (layout : Layout) :
    (layout.afterBlank blank).chars = c :: layout.chars := by
  obtain ⟨placed, trail⟩ := layout
  cases placed <;> simp [afterBlank, chars, Placed.chars]

theorem chars_afterToken {t : Token} (spelled : t.kind.Spells t.lexeme) (layout : Layout) :
    (layout.afterToken spelled).chars = t.lexeme.toList ++ layout.chars := by
  simp [afterToken, chars, Placed.chars]

end Layout

theorem starts_of_not_stuck {cs : List Char} (moves : ¬ Stuck cs) :
    (∃ c rest, cs = c :: rest ∧ Text.isBlank c = true) ∨
      ∃ (t : Token) (rest : List Char),
        t.kind.Spells t.lexeme ∧ cs = t.lexeme.toList ++ rest := by
  rcases Classical.not_and_iff_not_or_not.mp moves with blank | spelled
  · simp only [Classical.not_forall, Bool.not_eq_false] at blank
    obtain ⟨c, first, blank⟩ := blank
    obtain ⟨rest, rfl⟩ := List.head?_eq_some_iff.mp first
    exact .inl ⟨c, rest, rfl, blank⟩
  · simp only [Classical.not_forall, Classical.not_not] at spelled
    obtain ⟨t, spelled, rest, rfl⟩ := spelled
    exact .inr ⟨t, rest, spelled, rfl⟩

theorem exists_layout_stuck (cs : List Char) :
    ∃ (layout : Layout) (rest : List Char), cs = layout.chars ++ rest ∧ Stuck rest := by
  by_cases stuck : Stuck cs
  · exact ⟨.empty, cs, rfl, stuck⟩
  · rcases starts_of_not_stuck stuck with ⟨c, others, parts, blank⟩ | ⟨t, others, spelled, parts⟩
    · have shorter : others.length < cs.length := by simp [parts]
      obtain ⟨layout, rest, found, ends⟩ := exists_layout_stuck others
      refine ⟨layout.afterBlank blank, rest, ?_, ends⟩
      rw [parts, layout.chars_afterBlank, List.cons_append, ← found]
    · -- a spelling is not empty, so less is left
      obtain ⟨c, more, first, -⟩ := exists_first_of_spells spelled
      have shorter : others.length < cs.length := by
        rw [parts, first]
        simp only [List.length_append, List.length_cons]
        omega
      obtain ⟨layout, rest, found, ends⟩ := exists_layout_stuck others
      refine ⟨layout.afterToken spelled, rest, ?_, ends⟩
      rw [parts, layout.chars_afterToken, List.append_assoc, ← found]
termination_by cs.length

theorem scan_blanks (blanks : Blanks) (rest : List Char) :
    scan (blanks.val ++ rest) = scan rest := by
  obtain ⟨cs, blank⟩ := blanks
  induction cs with
  | nil => rfl
  | cons c cs ih =>
    obtain ⟨first, others⟩ := List.forall_mem_cons.mp blank
    exact (scan_blank first _).trans (ih others)

theorem scan_layout_append (layout : Layout) (rest : List Char) :
    scan (layout.chars ++ rest) = (scan rest).map (layout.tokens ++ ·) := by
  obtain ⟨placed, trail⟩ := layout
  induction placed with
  | nil =>
    have bare : Layout.chars ⟨[], trail⟩ = trail.val := rfl
    rw [bare, scan_blanks]
    cases scan rest <;> rfl
  | cons first placed ih =>
    rw [Layout.chars_cons, Placed.chars, List.append_assoc, List.append_assoc, scan_blanks,
      scan_spelled first.spelled, ih]
    cases scan rest <;> rfl

theorem scan_layout (layout : Layout) : scan layout.chars = .ok layout.tokens := by
  have read := scan_layout_append layout []
  simpa [scan, Except.map] using read

theorem scan_eq_ok_iff {cs : List Char} {ts : List Token} :
    scan cs = .ok ts ↔ ∃ layout : Layout, layout.chars = cs ∧ layout.tokens = ts := by
  constructor
  · intro scans
    obtain ⟨layout, rest, rfl, stuck⟩ := exists_layout_stuck cs
    rw [scan_layout_append] at scans
    cases rest with
    | nil =>
      refine ⟨layout, (List.append_nil _).symm, ?_⟩
      simpa [scan, Except.map] using scans
    | cons c rest =>
      rw [scan_stuck stuck] at scans
      cases scans
  · rintro ⟨layout, rfl, rfl⟩
    exact scan_layout layout

theorem Placed.takeWhile_isBlank (placed : Placed) (rest : List Char) :
    (placed.chars ++ rest).takeWhile Text.isBlank = placed.blanks.val := by
  obtain ⟨c, more, first, notBlank⟩ := exists_first_of_spells placed.spelled
  rw [Placed.chars, List.append_assoc, List.takeWhile_append_of_pos placed.blanks.property]
  simp [first, notBlank]

theorem Placed.eq_of_token_of_chars {p q : Placed} (token : p.token = q.token)
    {rest others : List Char} (same : p.chars ++ rest = q.chars ++ others) : p = q := by
  have blanks : p.blanks.val = q.blanks.val := by
    rw [← p.takeWhile_isBlank rest, same, q.takeWhile_isBlank]
  obtain ⟨_, _, _⟩ := p
  obtain ⟨_, _, _⟩ := q
  cases token
  cases Subtype.ext blanks
  rfl

theorem Layout.chars_injective {l m : Layout} (same : l.chars = m.chars) : l = m := by
  -- the scanner finds one list of tokens, so only the blanks can differ
  have tokens : l.tokens = m.tokens := by
    have scans : Except.ok (ε := Error) l.tokens = .ok m.tokens := by
      rw [← scan_layout, same, scan_layout]
    exact Except.ok.inj scans
  obtain ⟨placed, trail⟩ := l
  obtain ⟨others, ending⟩ := m
  induction placed generalizing others with
  | nil =>
    cases others with
    | nil =>
      have ends : trail = ending := Subtype.ext same
      rw [ends]
    | cons q others => cases tokens
  | cons p placed ih =>
    cases others with
    | nil => cases tokens
    | cons q others =>
      obtain ⟨first, following⟩ := List.cons.inj tokens
      rw [chars_cons, chars_cons] at same
      cases Placed.eq_of_token_of_chars first same
      cases ih others (List.append_cancel_left same) following
      rfl

def HasLayout (cs : List Char) : Prop := ∃ layout : Layout, layout.chars = cs

theorem not_hasLayout_of_stuck {layout : Layout} {c : Char} {rest : List Char}
    (stuck : Stuck (c :: rest)) : ¬ HasLayout (layout.chars ++ c :: rest) := by
  rintro ⟨whole, same⟩
  have scans := scan_layout whole
  rw [same, scan_layout_append, scan_stuck stuck] at scans
  cases scans

/-- A layout up to a place where nothing can start is the longest there is. -/
theorem longest_of_stuck {layout : Layout} {c : Char} {rest : List Char}
    (stuck : Stuck (c :: rest)) :
    LongestBeginning HasLayout (layout.chars ++ c :: rest) layout.chars.length := by
  refine .of_append ⟨layout, rfl⟩ fun n laidOut => ?_
  cases n with
  | zero => rfl
  | succ n => exact absurd laidOut (not_hasLayout_of_stuck (stuck.take n))

def Alike (t u : Token) : Prop := t.kind = u.kind ∧ (t.kind = .letter → t.lexeme = u.lexeme)

theorem Alike.symm {t u : Token} (alike : t.Alike u) : u.Alike t :=
  ⟨alike.1.symm, fun letter => (alike.2 (alike.1.trans letter)).symm⟩

end Token

namespace Formula
open Reading

theorem Reading.step_alike {limit : Option Nat} {reading next : Reading} {t u : Token}
    (alike : t.Alike u) (steps : step limit reading t = .ok next) :
    step limit reading u = .ok next := by
  obtain ⟨kind, lexeme⟩ := t
  obtain ⟨other, spelling⟩ := u
  obtain ⟨same, letter⟩ := alike
  cases same
  cases reading with
  | operand stack =>
    cases kind with
    | letter =>
      cases letter rfl
      exact steps
    | openParen | negation => exact steps
    | closeParen | connective => cases steps
  | operator stack f =>
    cases kind with
    | connective c => exact steps
    | closeParen =>
      match stack with
      | .group :: _ => exact steps
      | [] | .negation :: _ | .operand _ _ :: _ => cases steps
    | letter | openParen | negation => cases stack <;> cases steps

theorem Reading.run_alike {limit : Option Nat} {reading last : Reading} {ts us : List Token}
    (alike : List.Forall₂ Token.Alike ts us) (runs : run limit reading ts = .ok last) :
    run limit reading us = .ok last := by
  induction alike generalizing reading with
  | nil => exact runs
  | cons first _ ih =>
    rw [run_cons] at runs ⊢
    obtain ⟨next, steps, runs⟩ := bind_eq_ok.mp runs
    rw [step_alike first steps, ok_bind]
    exact ih runs

theorem ofTokens_alike {limit : Option Nat} {ts us : List Token} {f : Formula}
    (alike : List.Forall₂ Token.Alike ts us) (reads : ofTokens limit ts = .ok f) :
    ofTokens limit us = .ok f := by
  rw [ofTokens_eq_run] at reads ⊢
  obtain ⟨last, runs, finishes⟩ := bind_eq_ok.mp reads
  rw [run_alike alike runs, ok_bind, finishes]

theorem parse_of_ofText {text : String} {ts : List Token} (scans : Token.ofText text = .ok ts) :
    parse text = ofTokens (some nestingLimit) ts := by
  rw [parse, scans, mapError_ok, ok_bind]

end Formula

open Token

/-- The scanner succeeds exactly on texts with a layout, with the tokens of that layout, and a text
has at most one. On a text without one, it names the character at which the longest beginning with a
layout ends, where neither a blank nor an accepted spelling starts. Texts whose tokens differ only
in how operators are spelled are read as the same formula, or neither is read. -/
theorem scan_decodes_layouts :
    (∀ (text : String) (ts : List Token), ofText text = .ok ts ↔
      ∃ layout : Layout, layout.chars = text.toList ∧ layout.tokens = ts) ∧
    (∀ l m : Layout, l.chars = m.chars → l = m) ∧
    (∀ text : String, ¬ HasLayout text.toList → ∃ (n : Nat) (c : Char) (e : Error),
      LongestBeginning HasLayout text.toList n ∧ text.toList[n]? = some c ∧
      Stuck (text.toList.drop n) ∧ ofText text = .error e ∧
      e.message = match c with
        | '=' => "Expected '>' after '='"
        | '<' => "Expected '=>' after '<'"
        | c => "Unexpected character " ++ String.singleton c) ∧
    (∀ (text other : String) (ts us : List Token), ofText text = .ok ts → ofText other = .ok us →
      List.Forall₂ Alike ts us →
      ∀ f, Formula.parse text = .ok f ↔ Formula.parse other = .ok f) := by
  refine ⟨fun text ts => scan_eq_ok_iff, fun l m => Layout.chars_injective, ?_, ?_⟩
  · intro text without
    obtain ⟨layout, rest, parts, stuck⟩ := exists_layout_stuck text.toList
    cases rest with
    | nil => exact absurd ⟨layout, by simpa using parts.symm⟩ without
    | cons c rest =>
      have fails : ofText text = .error (.ofChar c) := by
        rw [ofText, parts, scan_layout_append, scan_stuck stuck]
        rfl
      refine ⟨layout.chars.length, c, .ofChar c, ?_, ?_, ?_, fails, ?_⟩
      · rw [parts]
        exact longest_of_stuck stuck
      · simp [parts]
      · simpa [parts] using stuck
      · unfold Error.ofChar
        split <;> rfl
  · intro text other ts us scans scansOther alike f
    rw [Formula.parse_of_ofText scans, Formula.parse_of_ofText scansOther]
    constructor
    · exact Formula.ofTokens_alike alike
    · exact Formula.ofTokens_alike (alike.flip.imp fun _ _ => Alike.symm)

theorem dialects_agree :
    let spaced := "A =>\t¬(b <=> C)\n"
    let tight := "A→-(b↔C)"
    let broken := "A <= B"
    (∃ ts us, ofText spaced = .ok ts ∧ ofText tight = .ok us ∧ List.Forall₂ Alike ts us) ∧
    ¬ HasLayout broken.toList ∧
    (∃ layout : Layout, layout.chars = spaced.toList ∧ layout.tokens.length = 8) ∧
    (∀ f, Formula.parse spaced = .ok f ↔ Formula.parse tight = .ok f) ∧
    ∃ n c e, LongestBeginning HasLayout broken.toList n ∧ broken.toList[n]? = some c ∧
      Stuck (broken.toList.drop n) ∧ ofText broken = .error e ∧
      e.message = "Expected '=>' after '<'" := by
  intro spaced tight broken
  obtain ⟨succeeds, -, fails, agrees⟩ := scan_decodes_layouts
  let tokens (arrow dash doubleArrow : String) : List Token :=
    [⟨.letter, "A"⟩, ⟨.connective .conditional, arrow⟩, ⟨.negation, dash⟩, ⟨.openParen, "("⟩,
      ⟨.letter, "b"⟩, ⟨.connective .biconditional, doubleArrow⟩, ⟨.letter, "C"⟩, ⟨.closeParen, ")"⟩]
  have first : ofText "A =>\t¬(b <=> C)\n" = .ok (tokens "=>" "¬" "<=>") := by rfl
  have second : ofText "A→-(b↔C)" = .ok (tokens "→" "-" "↔") := by rfl
  have alike : List.Forall₂ Alike (tokens "=>" "¬" "<=>") (tokens "→" "-" "↔") := by
    simp [tokens, Alike]
  have refused : ofText "A <= B" = .error .lessAlone := by rfl
  have without : ¬ HasLayout broken.toList := by
    rintro ⟨layout, same⟩
    have scans := (succeeds broken layout.tokens).mpr ⟨layout, same, rfl⟩
    rw [refused] at scans
    cases scans
  obtain ⟨layout, laid, read⟩ := (succeeds spaced _).mp first
  obtain ⟨n, c, e, longest, next, stuck, error, -⟩ := fails broken without
  cases refused.symm.trans error
  exact ⟨⟨_, _, first, second, alike⟩, without, ⟨layout, laid, by rw [read]; rfl⟩,
    agrees spaced tight _ _ first second alike, n, c, _, longest, next, stuck, error, rfl⟩

end NaturalDeduction
