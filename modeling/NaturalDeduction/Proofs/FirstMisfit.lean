import NaturalDeduction.Proofs.Spelling

/-! The reader reports the first token that cannot go on. Every state it reaches can be brought to
an end by further tokens, so the tokens it has read are always the beginning of some formula, and
the token it refuses is the first after which no formula starts that way. Which error it reports can
be told from the tokens before: whether they end an operand, and whether a parenthesis is open. -/
namespace NaturalDeduction
open Grammar Outcome

namespace Token

/-- Parentheses that are open after the tokens; a closing one closes the latest, if any is open. -/
def openGroups (ts : List Token) : Nat :=
  ts.foldl (fun n t =>
    match t.kind with
    | .openParen => n + 1
    | .closeParen => n - 1
    | _ => n) 0

def endsOperand (ts : List Token) : Bool :=
  ts.getLast?.any fun t => t.kind = .letter || t.kind = .closeParen

theorem openGroups_snoc (ts : List Token) (t : Token) :
    openGroups (ts ++ [t]) =
      match t.kind with
      | .openParen => openGroups ts + 1
      | .closeParen => openGroups ts - 1
      | _ => openGroups ts := by
  simp [openGroups, List.foldl_append]

theorem endsOperand_snoc (ts : List Token) (t : Token) :
    endsOperand (ts ++ [t]) = (t.kind = .letter || t.kind = .closeParen) := by
  simp [endsOperand]

end Token

def Grammar.Viable (ts : List Token) : Prop := ∃ rest f, Chain (ts ++ rest) f

namespace Formula.Reading
open Token

def stack : Reading → List Frame
  | operand stack => stack
  | operator stack _ => stack

def afterOperand : Reading → Bool
  | operand _ => false
  | operator _ _ => true

theorem exists_complete (stack : List Frame) (f : Formula) :
    ∃ rest g, complete stack f = .operator rest g ∧ Settled rest ∧
      rest.count .group = stack.count .group := by
  fun_induction complete stack f with
  | case1 stack f ih => simpa using ih
  | case2 left c stack f ih => simpa using ih
  | case3 stack f notNegation notOperand =>
    refine ⟨stack, f, rfl, ?_, rfl⟩
    match stack with
    | [] => trivial
    | .group :: _ => trivial
    | .negation :: _ => exact absurd rfl (notNegation _)
    | .operand _ _ :: _ => exact absurd rfl (notOperand _ _ _)

theorem count_pos_of_settled {stack : List Frame} (settled : Settled stack) :
    0 < stack.count .group ↔ stack ≠ [] := by
  match stack, settled with
  | [], _ => simp
  | .group :: _, _ => simp

theorem exists_closing (n : Nat) {stack : List Frame} (settled : Settled stack)
    (groups : stack.count .group = n) (f : Formula) :
    ∃ ts g, run none (.operator stack f) ts = .ok (.operator [] g) := by
  -- induction on the open groups: closing one may complete any number of frames below it
  induction n generalizing stack f with
  | zero =>
    match stack, settled with
    | [], _ => exact ⟨[], f, rfl⟩
    | .group :: _, _ => simp at groups
  | succ n ih =>
    match stack, settled with
    | .group :: stack, _ =>
      obtain ⟨rest, g, completes, settled, kept⟩ := exists_complete stack f
      obtain ⟨ts, h, runs⟩ := ih settled (by simpa [kept] using groups) g
      refine ⟨⟨.closeParen, ")"⟩ :: ts, h, ?_⟩
      rw [(Moves.closeParen rfl).run_eq, completes, runs]

theorem exists_ending {ts : List Token} {reading : Reading} (spelled : Spelled ts reading) :
    ∃ us f, run none reading us = .ok (.operator [] f) := by
  cases spelled with
  | operator opened settled chain => exact exists_closing _ settled rfl _
  | @operand ts stack opened =>
    obtain ⟨rest, g, completes, settled, -⟩ := exists_complete stack (.atom "A")
    obtain ⟨us, h, runs⟩ := exists_closing _ settled rfl g
    refine ⟨⟨.letter, "A"⟩ :: us, h, ?_⟩
    rw [(Moves.letter rfl).run_eq, completes, runs]

theorem viable_iff_run {ts : List Token} :
    Viable ts ↔ ∃ reading, run none (.operand []) ts = .ok reading := by
  constructor
  · rintro ⟨rest, f, chain⟩
    have settled : Settled [] := trivial
    have runs := run_chain chain settled
    rw [run_append] at runs
    obtain ⟨reading, runs, -⟩ := bind_eq_ok.mp runs
    exact ⟨reading, runs⟩
  · rintro ⟨reading, runs⟩
    obtain ⟨rest, f, ends⟩ := exists_ending (spelled_run runs)
    have reads : ofTokens none (ts ++ rest) = .ok f := by
      rw [ofTokens_eq_run, run_append, runs, ok_bind, ends, ok_bind, finish]
    exact ⟨rest, f, chain_of_ofTokens reads⟩

/-- The tokens read so far show whether an operand has been read, and how many groups are open. -/
structure Shown (ts : List Token) (reading : Reading) : Prop where
  ends : endsOperand ts = reading.afterOperand
  groups : openGroups ts = reading.stack.count .group

theorem shown_complete {ts : List Token} {stack : List Frame} (ends : endsOperand ts = true)
    (groups : openGroups ts = stack.count .group) (f : Formula) : Shown ts (complete stack f) := by
  obtain ⟨rest, g, completes, -, kept⟩ := exists_complete stack f
  rw [completes]
  exact ⟨ends, groups.trans kept.symm⟩

theorem shown_moves {ts : List Token} {reading next : Reading} {t : Token}
    (shown : Shown ts reading) (moves : Moves reading t next) : Shown (ts ++ [t]) next := by
  have groups := shown.groups
  cases moves with
  | letter kind =>
    refine shown_complete ?_ ?_ _
    · simp [endsOperand_snoc, kind]
    · simp [openGroups_snoc, kind, groups, stack]
  | closeParen kind =>
    refine shown_complete ?_ ?_ _
    · simp [endsOperand_snoc, kind]
    · simp [openGroups_snoc, kind, groups, stack]
  | openParen kind | negation kind | connective kind =>
    refine ⟨?_, ?_⟩
    · simp [endsOperand_snoc, kind, afterOperand]
    · simp [openGroups_snoc, kind, groups, stack]

theorem shown_run {limit : Option Nat} {ts : List Token} {last : Reading}
    (runs : run limit (.operand []) ts = .ok last) : Shown ts last := by
  have start : Shown [] (.operand []) := ⟨rfl, rfl⟩
  exact run_keeps shown_moves start runs

theorem inside_group_iff {limit : Option Nat} {ts : List Token} {last : Reading}
    (runs : run limit (.operand []) ts = .ok last) :
    last.afterOperand = true ∧ last.stack ≠ [] ↔
      endsOperand ts = true ∧ 0 < openGroups ts := by
  have shown := shown_run runs
  rw [shown.ends, shown.groups]
  cases spelled_run runs with
  | operand opened => simp [afterOperand]
  | operator opened settled chain => simp [stack, count_pos_of_settled settled]

theorem exists_refused {limit : Option Nat} {ts : List Token} {reading : Reading} {e : ParseError}
    (fails : run limit reading ts = .error e) :
    ∃ us t vs last, ts = us ++ t :: vs ∧ run limit reading us = .ok last ∧
      step limit last t = .error e :=
  exists_of_foldlM_error fails

theorem longest_of_refused {us vs : List Token} {t : Token} {last : Reading} {e : ParseError}
    (runs : run none (.operand []) us = .ok last) (refused : step none last t = .error e) :
    LongestBeginning Viable (us ++ t :: vs) us.length := by
  refine .of_append (viable_iff_run.mpr ⟨last, runs⟩) fun n viable => ?_
  cases n with
  | zero => rfl
  | succ n =>
    obtain ⟨reading, reaches⟩ := viable_iff_run.mp viable
    rw [List.take_succ_cons, run_append, runs, ok_bind, run_cons, refused] at reaches
    cases reaches

theorem error_of_step {reading : Reading} {t : Token} {e : ParseError}
    (refused : step none reading t = .error e) :
    e = if reading.afterOperand = true ∧ reading.stack ≠ [] then .unclosed (some t)
      else .unexpected t := by
  cases reading with
  | operand stack =>
    simp only [step] at refused
    split at refused <;> cases refused
    rfl
  | operator stack f =>
    simp only [step] at refused
    split at refused <;> cases refused
    · rfl
    · rfl

theorem error_of_finish {reading : Reading} {e : ParseError} (fails : reading.finish = .error e) :
    e = if reading.afterOperand = true then .unclosed none else .unexpectedEnd := by
  fun_cases finish reading <;> cases fails <;> rfl

theorem message_of_refused {us : List Token} {t : Token} {last : Reading} {e : ParseError}
    (runs : run none (.operand []) us = .ok last) (refused : step none last t = .error e) :
    e.message =
      if endsOperand us = true ∧ 0 < openGroups us
      then "[" ++ t.lexeme ++ "] unclosed grouping" else "Unexpected token " ++ t.lexeme := by
  rw [error_of_step refused]
  simp only [inside_group_iff runs]
  split <;> rfl

theorem message_of_unfinished {ts : List Token} {last : Reading} {e : ParseError}
    (runs : run none (.operand []) ts = .ok last) (fails : last.finish = .error e) :
    e.message =
      if endsOperand ts = true then "[end] unclosed grouping" else "Unexpected end of input" := by
  rw [error_of_finish fails, (shown_run runs).ends]
  split <;> rfl

end Formula.Reading

open Token Formula.Reading

/-- On tokens that are no formula and do not nest past the limit, the reader reports the token after
the longest beginning that some formula shares: an unclosed group where an operand has just ended
inside one, and an unexpected token elsewhere. If all tokens are such a beginning, it reports the
end in the same way. -/
theorem first_misfit_reported (limit : Option Nat) (ts : List Token)
    (shallow : Formula.ofTokens limit ts ≠ .error .tooDeep) (incomplete : ∀ f, ¬ Chain ts f) :
    ∃ (k : Nat) (e : ParseError), LongestBeginning Viable ts k ∧
      Formula.ofTokens limit ts = .error e ∧
      (∀ t, ts[k]? = some t → e.message =
        if endsOperand (ts.take k) = true ∧ 0 < openGroups (ts.take k)
        then "[" ++ t.lexeme ++ "] unclosed grouping" else "Unexpected token " ++ t.lexeme) ∧
      (k = ts.length → e.message =
        if endsOperand ts = true
        then "[end] unclosed grouping" else "Unexpected end of input") := by
  have free := (Formula.ofTokens_limit limit ts).resolve_left shallow
  rw [free, Formula.ofTokens_eq_run]
  cases runs : run none (.operand []) ts with
  | error e =>
    obtain ⟨us, t, vs, last, rfl, before, refused⟩ := exists_refused runs
    refine ⟨us.length, e, longest_of_refused before refused, rfl, ?_, ?_⟩
    · intro u found
      have same : t = u := by simpa using found
      rw [List.take_left, ← same]
      exact message_of_refused before refused
    · intro whole
      simp at whole
  | ok last =>
    rw [ok_bind]
    cases finishes : last.finish with
    | ok f => exact absurd (chain_of_finish (spelled_run runs) finishes) (incomplete f)
    | error e =>
      have viable : Viable (ts.take ts.length) := by
        rw [List.take_length]
        exact viable_iff_run.mpr ⟨last, runs⟩
      refine ⟨ts.length, e, ⟨Nat.le_refl _, viable, fun m bound _ => bound⟩, rfl, ?_, ?_⟩
      · intro t found
        simp at found
      · intro _
        exact message_of_unfinished runs finishes

/-- An operand follows an operand inside a group: `-(A & (B ∨ C) D)`. -/
def brokenTokens : List Token :=
  [⟨.negation, "-"⟩, ⟨.openParen, "("⟩, ⟨.letter, "A"⟩, ⟨.connective .conjunction, "&"⟩,
    ⟨.openParen, "("⟩, ⟨.letter, "B"⟩, ⟨.connective .disjunction, "∨"⟩, ⟨.letter, "C"⟩,
    ⟨.closeParen, ")"⟩, ⟨.letter, "D"⟩, ⟨.closeParen, ")"⟩]

theorem brokenTokens_reported :
    Formula.ofTokens (some Formula.nestingLimit) brokenTokens ≠ .error .tooDeep ∧
    (∀ f, ¬ Chain brokenTokens f) ∧ LongestBeginning Viable brokenTokens 9 ∧
    ∃ e, Formula.ofTokens (some Formula.nestingLimit) brokenTokens = .error e ∧
      e.message = "[D] unclosed grouping" := by
  have reports : Formula.ofTokens (some Formula.nestingLimit) brokenTokens =
      .error (.unclosed (some ⟨.letter, "D"⟩)) := by rfl
  have shallow : Formula.ofTokens (some Formula.nestingLimit) brokenTokens ≠ .error .tooDeep := by
    rw [reports]
    nofun
  have incomplete : ∀ f, ¬ Chain brokenTokens f := by
    intro f chain
    rw [← Formula.ofTokens_eq_ok_iff shallow, reports] at chain
    cases chain
  have nine : LongestBeginning Viable (brokenTokens.take 9 ++ brokenTokens.drop 9) 9 :=
    longest_of_refused rfl rfl
  rw [List.take_append_drop] at nine
  obtain ⟨k, e, longest, error, names, -⟩ := first_misfit_reported _ brokenTokens shallow incomplete
  cases longest.unique nine
  refine ⟨shallow, incomplete, nine, e, error, ?_⟩
  rw [names ⟨.letter, "D"⟩ rfl]
  rfl

end NaturalDeduction
