import NaturalDeduction.Proofs.FirstMisfit
import NaturalDeduction.Proofs.RoundTrip

/-! What the limit on nesting does. The reader with a limit passes through the states of the reader
without one, up to the first in which the open parentheses and negations cost more than the limit
allows, and refuses there. So it refuses exactly the tokens on which the reader without a limit
comes to such a state, which it does before any error that lies further on, and it leaves every
other outcome as it is. The connectives of a chain open nothing, however long the chain. -/
namespace NaturalDeduction
open Outcome

namespace Formula.Reading

theorem nesting_eq_count (stack : List Frame) :
    nesting stack = 3 * stack.count .group + stack.count .negation := by
  induction stack with
  | nil => rfl
  | cons frame stack ih =>
    rw [nesting, ih]
    cases frame <;> simp [Frame.cost] <;> omega

theorem nesting_complete_le (stack : List Frame) (f : Formula) :
    nesting (complete stack f).stack ≤ nesting stack := by
  fun_induction complete stack f with
  | case1 stack f ih =>
    exact Nat.le_add_right_of_le ih
  | case2 left c stack f ih => exact ih
  | case3 stack f => exact Nat.le_refl _

section Step
variable {limit : Option Nat} {reading next : Reading} {t : Token} {e : ParseError}

/-- A limit lets a move be made unless the move itself opens a level too many. -/
theorem Moves.step_within (moves : Moves reading t next)
    (within : Allows limit (nesting reading.stack)) :
    step limit reading t =
      if Allows limit (nesting next.stack) then .ok next else .error .tooDeep := by
  cases moves with
  | @letter stack _ kind =>
    have allowed := within.mono (nesting_complete_le stack (.atom t.lexeme))
    simp [step, kind, allowed]
  | openParen kind | negation kind =>
    simp only [step, kind]
    exact descend_eq limit _ _
  | @connective stack f _ c kind =>
    have allowed : Allows limit (nesting (.operand f c :: stack)) := within
    simp [step, kind, Reading.stack, allowed]
  | @closeParen stack f _ kind =>
    have lower : nesting (complete stack f).stack ≤ nesting (.group :: stack) :=
      Nat.le_add_right_of_le (nesting_complete_le stack f)
    simp [step, kind, within.mono lower]

theorem step_of_refused (refused : step none reading t = .error e) :
    step limit reading t = .error e := by
  cases reading with
  | operand stack => cases kind : t.kind <;> simp_all [step, descend]
  | operator stack f => exact refused

end Step

def Passes (start : Reading) (ts : List Token) (reading : Reading) : Prop :=
  ∃ us, us <+: ts ∧ run none start us = .ok reading

theorem passes_nil {start reading : Reading} : Passes start [] reading ↔ reading = start := by
  simp [Passes, eq_comm]

theorem passes_cons {start reading : Reading} {t : Token} {ts : List Token} :
    Passes start (t :: ts) reading ↔
      reading = start ∨ ∃ next, step none start t = .ok next ∧ Passes next ts reading := by
  constructor
  · rintro ⟨us, begins, runs⟩
    rcases List.prefix_cons_iff.mp begins with rfl | ⟨vs, rfl, within⟩
    · cases runs
      exact .inl rfl
    · rw [run_cons] at runs
      obtain ⟨next, steps, runs⟩ := bind_eq_ok.mp runs
      exact .inr ⟨next, steps, vs, within, runs⟩
  · rintro (rfl | ⟨next, steps, us, begins, runs⟩)
    · exact ⟨[], List.nil_prefix, rfl⟩
    · refine ⟨t :: us, (List.prefix_cons_inj t).mpr begins, ?_⟩
      rw [run_cons, steps, ok_bind, runs]

theorem run_eq_tooDeep_iff {limit : Option Nat} {start : Reading} (ts : List Token)
    (within : Allows limit (nesting start.stack)) :
    run limit start ts = .error .tooDeep ↔
      ∃ reading, Passes start ts reading ∧ ¬ Allows limit (nesting reading.stack) := by
  induction ts generalizing start with
  | nil => simp [passes_nil, within]
  | cons t ts ih =>
    have split : (∃ reading, Passes start (t :: ts) reading ∧
        ¬ Allows limit (nesting reading.stack)) ↔
        ∃ next, step none start t = .ok next ∧
          ∃ reading, Passes next ts reading ∧ ¬ Allows limit (nesting reading.stack) := by
      simp only [passes_cons]
      constructor
      · rintro ⟨reading, rfl | ⟨next, steps, passes⟩, deep⟩
        · exact absurd within deep
        · exact ⟨next, steps, reading, passes, deep⟩
      · rintro ⟨next, steps, reading, passes, deep⟩
        exact ⟨reading, .inr ⟨next, steps, passes⟩, deep⟩
    rw [split, run_cons]
    cases steps : step none start t with
    | error e =>
      have cause := error_of_step steps
      rw [step_of_refused steps, error_bind]
      simp only [reduceCtorEq, false_and, exists_false, iff_false, Except.error.injEq, cause]
      split <;> nofun
    | ok next =>
      rw [(moves_of_step steps).step_within within]
      by_cases allowed : Allows limit (nesting next.stack)
      · simp [allowed, ih allowed]
      · have here : Passes next ts next := ⟨[], List.nil_prefix, rfl⟩
        simp only [if_neg allowed, error_bind, true_iff]
        exact ⟨next, rfl, next, here, allowed⟩

theorem nesting_of_flat {ts : List Token} {reading : Reading}
    (flat : ∀ t ∈ ts, t.kind ≠ .openParen ∧ t.kind ≠ .negation)
    (passes : Passes (.operand []) ts reading) : nesting reading.stack = 0 := by
  let holds (us : List Token) (reading : Reading) : Prop :=
    (∀ t ∈ us, t.kind ≠ .openParen ∧ t.kind ≠ .negation) → nesting reading.stack = 0
  have keeps : ∀ {us : List Token} {reading next : Reading} {t : Token},
      holds us reading → Moves reading t next → holds (us ++ [t]) next := by
    intro us reading next t before moves flat
    obtain ⟨earlier, here⟩ := List.forall_mem_append.mp flat
    have level := before earlier
    obtain ⟨noGroup, noNegation⟩ := List.forall_mem_singleton.mp here
    cases moves with
    | openParen kind => exact absurd kind noGroup
    | negation kind => exact absurd kind noNegation
    | @letter stack _ kind =>
      exact Nat.le_zero.mp (level ▸ nesting_complete_le stack (.atom t.lexeme))
    | connective kind => exact level
    | closeParen kind => simp [Reading.stack, nesting, Frame.cost] at level
  obtain ⟨us, begins, runs⟩ := passes
  have start : holds [] (.operand []) := fun _ => rfl
  exact run_keeps keeps start runs fun t member => flat t (begins.subset (by simpa using member))

theorem finish_ne_tooDeep (reading : Reading) : reading.finish ≠ .error .tooDeep := by
  fun_cases finish reading <;> simp

end Formula.Reading

namespace Formula
open Reading

theorem ofTokens_eq_tooDeep_iff (limit : Option Nat) (ts : List Token) :
    ofTokens limit ts = .error .tooDeep ↔
      ∃ reading, Passes (.operand []) ts reading ∧ ¬ Allows limit (nesting reading.stack) := by
  have within : Allows limit (nesting (Reading.operand []).stack) := fun most _ => Nat.zero_le most
  rw [← run_eq_tooDeep_iff ts within, ofTokens_eq_run]
  cases run limit (.operand []) ts with
  | error e => simp
  | ok last => simp [finish_ne_tooDeep]

/-- An outcome of reading the tokens under some limit: it is that of reading them without one, or
the refusal to nest so deeply. At most 150 parentheses and 150 negations open at a time are never
refused, and 3000 of both always are. -/
structure LimitsNesting (ts : List Token) (outcome : Except ParseError Formula) : Prop where
  same_or_refused : outcome = ofTokens none ts ∨ outcome = .error .tooDeep
  shallow : (∀ reading, Passes (.operand []) ts reading →
      reading.stack.count .group ≤ 150 ∧ reading.stack.count .negation ≤ 150) →
    outcome ≠ .error .tooDeep
  deep : ∀ reading, Passes (.operand []) ts reading →
    3000 ≤ reading.stack.count .group + reading.stack.count .negation → outcome = .error .tooDeep

theorem limitsNesting_ofTokens {most : Nat} (low : 600 ≤ most) (high : most < 3000)
    (ts : List Token) : LimitsNesting ts (ofTokens (some most) ts) where
  same_or_refused := (ofTokens_limit (some most) ts).symm
  shallow := by
    intro shallow refused
    obtain ⟨reading, passes, deep⟩ := (ofTokens_eq_tooDeep_iff (some most) ts).mp refused
    have bounds := shallow reading passes
    have allowed : Allows (some most) (nesting reading.stack) := by
      rintro _ ⟨⟩
      rw [nesting_eq_count]
      omega
    exact deep allowed
  deep := by
    intro reading passes deep
    refine (ofTokens_eq_tooDeep_iff (some most) ts).mpr ⟨reading, passes, fun allowed => ?_⟩
    have bound := allowed most rfl
    rw [nesting_eq_count] at bound
    omega

end Formula

open Formula Reading

/-- The limit on nesting only ever replaces the outcome of reading a text that nests deeply, and
this is so wherever between 600 and 3000 the limit is set. -/
theorem nesting_limit_only_refuses {text : String} {ts : List Token}
    (scans : Token.ofText text = .ok ts) :
    LimitsNesting ts (parse text) ∧
    (∀ most, 600 ≤ most → most < 3000 → LimitsNesting ts (ofTokens (some most) ts)) ∧
    ParseError.tooDeep.message = "Formula is nested too deeply" := by
  refine ⟨?_, fun most low high => limitsNesting_ofTokens low high ts, rfl⟩
  rw [parse_of_ofText scans]
  exact limitsNesting_ofTokens (by decide) (by decide) ts

section Examples

def burrow (n : Nat) : String := String.ofList (List.replicate n '-' ++ [')'])

def burrowTokens (n : Nat) : List Token := List.replicate n ⟨.negation, "-"⟩ ++ [⟨.closeParen, ")"⟩]

theorem ofText_burrow (n : Nat) : Token.ofText (burrow n) = .ok (burrowTokens n) := by
  rw [Token.ofText, burrow, String.toList_ofList]
  induction n with
  | zero => rfl
  | succ n ih => exact Token.scan_single (c := '-') rfl ih

theorem run_negations (n : Nat) (stack : List Frame) :
    run none (.operand stack) (List.replicate n ⟨.negation, "-"⟩) =
      .ok (.operand (List.replicate n .negation ++ stack)) := by
  induction n generalizing stack with
  | zero => rfl
  | succ n ih =>
    rw [List.replicate_succ, (Moves.negation rfl).run_eq, ih, List.replicate_succ',
      List.append_assoc, List.singleton_append]

theorem passes_burrow (n : Nat) :
    Passes (.operand []) (burrowTokens n) (.operand (List.replicate n .negation)) := by
  refine ⟨_, List.prefix_append _ _, ?_⟩
  rw [run_negations, List.append_nil]

theorem ofTokens_burrow (n : Nat) :
    ofTokens none (burrowTokens n) = .error (.unexpected ⟨.closeParen, ")"⟩) := by
  rw [ofTokens_eq_run, burrowTokens, run_append, run_negations]
  rfl

def linkTokens : Nat → List Token
  | 0 => []
  | n + 1 => ⟨.connective .conjunction, "&"⟩ :: ⟨.letter, "A"⟩ :: linkTokens n

def linkChars : Nat → List Char
  | 0 => []
  | n + 1 => '&' :: 'A' :: linkChars n

def chained (f : Formula) : Nat → Formula
  | 0 => f
  | n + 1 => chained (.conj f (.atom "A")) n

theorem scan_linkChars (n : Nat) : Token.scan (linkChars n) = .ok (linkTokens n) := by
  induction n with
  | zero => rfl
  | succ n ih => exact Token.scan_single (c := '&') rfl (Token.scan_single (c := 'A') rfl ih)

theorem run_linkTokens (n : Nat) (f : Formula) :
    run none (.operator [] f) (linkTokens n) = .ok (.operator [] (chained f n)) := by
  induction n generalizing f with
  | zero => rfl
  | succ n ih =>
    rw [linkTokens, (Moves.connective rfl).run_eq, (Moves.letter rfl).run_eq]
    exact ih (.conj f (.atom "A"))

def flatTokens (n : Nat) : List Token := ⟨.letter, "A"⟩ :: linkTokens n

theorem ofTokens_flatTokens (n : Nat) :
    ofTokens none (flatTokens n) = .ok (chained (.atom "A") n) := by
  rw [ofTokens_eq_run, flatTokens, (Moves.letter rfl).run_eq]
  simp only [complete, run_linkTokens, ok_bind, finish]

theorem flat_linkTokens (n : Nat) :
    ∀ t ∈ linkTokens n, t.kind ≠ .openParen ∧ t.kind ≠ .negation := by
  induction n with
  | zero => simp [linkTokens]
  | succ n ih => simpa [linkTokens] using ih

theorem passes_flatTokens {n : Nat} {reading : Reading}
    (passes : Passes (.operand []) (flatTokens n) reading) :
    reading.stack.count .group ≤ 150 ∧ reading.stack.count .negation ≤ 150 := by
  have level := nesting_of_flat
    (List.forall_mem_cons.mpr ⟨by simp, flat_linkTokens n⟩) passes
  rw [nesting_eq_count] at level
  omega

def stubTokens : List Token :=
  [⟨.negation, "-"⟩, ⟨.openParen, "("⟩, ⟨.letter, "A"⟩, ⟨.letter, "B"⟩]

/-- Three thousand levels are refused before the error below them, which is what the reader without
a limit reports. A shallow text is refused for its own error, and a chain of five thousand links is
read. -/
theorem burrow_refused :
    (Token.ofText (burrow 3000) = .ok (burrowTokens 3000) ∧
      ofTokens none (burrowTokens 3000) = .error (.unexpected ⟨.closeParen, ")"⟩) ∧
      parse (burrow 3000) = .error .tooDeep) ∧
    (Token.ofText "-(A B" = .ok stubTokens ∧
      (∀ reading, Passes (.operand []) stubTokens reading →
        reading.stack.count .group ≤ 150 ∧ reading.stack.count .negation ≤ 150) ∧
      parse "-(A B" = .error (.unclosed (some ⟨.letter, "B"⟩))) ∧
    Token.ofText (String.ofList ('A' :: linkChars 5000)) = .ok (flatTokens 5000) ∧
    (∀ reading, Passes (.operand []) (flatTokens 5000) reading →
      reading.stack.count .group ≤ 150 ∧ reading.stack.count .negation ≤ 150) ∧
    parse (String.ofList ('A' :: linkChars 5000)) = .ok (chained (.atom "A") 5000) := by
  refine ⟨?_, ?_, ?_⟩
  · refine ⟨ofText_burrow 3000, ofTokens_burrow 3000, ?_⟩
    refine (nesting_limit_only_refuses (ofText_burrow 3000)).1.deep _ (passes_burrow 3000) ?_
    exact Nat.le_add_left_of_le (Nat.le_of_eq List.count_replicate_self.symm)
  · have scans : Token.ofText "-(A B" = .ok stubTokens := rfl
    have shallow : ∀ reading, Passes (.operand []) stubTokens reading →
        reading.stack.count .group ≤ 150 ∧ reading.stack.count .negation ≤ 150 := by
      intro reading passes
      simp only [stubTokens, passes_cons, passes_nil] at passes
      rcases passes with rfl | ⟨_, ⟨⟩, rfl | ⟨_, ⟨⟩, rfl | ⟨_, ⟨⟩, rfl | ⟨_, ⟨⟩, _⟩⟩⟩⟩ <;> decide
    have limits := (nesting_limit_only_refuses scans).1
    exact ⟨scans, shallow, limits.same_or_refused.resolve_right (limits.shallow shallow)⟩
  · have scans : Token.ofText (String.ofList ('A' :: linkChars 5000)) = .ok (flatTokens 5000) := by
      rw [Token.ofText, String.toList_ofList]
      exact Token.scan_single (c := 'A') rfl (scan_linkChars 5000)
    have shallow : ∀ reading, Passes (.operand []) (flatTokens 5000) reading →
        reading.stack.count .group ≤ 150 ∧ reading.stack.count .negation ≤ 150 :=
      fun _ => passes_flatTokens
    have limits := (nesting_limit_only_refuses scans).1
    have same := limits.same_or_refused.resolve_right (limits.shallow shallow)
    exact ⟨scans, shallow, same.trans (ofTokens_flatTokens 5000)⟩

end Examples
end NaturalDeduction
