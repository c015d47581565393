import NaturalDeduction.Formula.Parser
import NaturalDeduction.Proofs.Outcome

/-! The reader accepts exactly the grammar. One way round, the tokens of every derivation take the
reader from one state to the next as its rules say. The other way round, the tokens read so far
always spell the state: each frame of the stack stands for what opened it, and what has been read
since the last frame is a chain. A limit on nesting changes an outcome only into a refusal. -/
namespace NaturalDeduction
open Grammar Outcome

namespace Formula.Reading

def run (limit : Option Nat) (reading : Reading) (tokens : List Token) :
    Except ParseError Reading :=
  tokens.foldlM (step limit) reading

@[simp] theorem run_nil (limit : Option Nat) (reading : Reading) :
    run limit reading [] = .ok reading := rfl

theorem run_cons (limit : Option Nat) (reading : Reading) (t : Token) (ts : List Token) :
    run limit reading (t :: ts) = step limit reading t >>= (run limit · ts) := rfl

theorem run_append (limit : Option Nat) (reading : Reading) (ts us : List Token) :
    run limit reading (ts ++ us) = run limit reading ts >>= (run limit · us) := by
  simp [run, List.foldlM_append]

/-- Neither a negation nor a connective waits for the operand that is being read. -/
def Settled : List Frame → Prop
  | [] => True
  | .group :: _ => True
  | _ => False

theorem complete_of_settled {stack : List Frame} (settled : Settled stack) (f : Formula) :
    complete stack f = .operator stack f := by
  match stack, settled with
  | [], _ => rfl
  | .group :: _, _ => rfl

theorem descend_eq_ok {limit : Option Nat} {frame : Frame} {stack : List Frame} {next : Reading}
    (descends : descend limit frame stack = .ok next) : next = .operand (frame :: stack) := by
  unfold descend at descends
  split at descends
  · cases descends
  · cases descends
    rfl

inductive Moves : Reading → Token → Reading → Prop where
  | letter {stack : List Frame} {t : Token} :
      t.kind = .letter → Moves (.operand stack) t (complete stack (.atom t.lexeme))
  | openParen {stack : List Frame} {t : Token} :
      t.kind = .openParen → Moves (.operand stack) t (.operand (.group :: stack))
  | negation {stack : List Frame} {t : Token} :
      t.kind = .negation → Moves (.operand stack) t (.operand (.negation :: stack))
  | connective {stack : List Frame} {f : Formula} {t : Token} {c : Connective} :
      t.kind = .connective c → Moves (.operator stack f) t (.operand (.operand f c :: stack))
  | closeParen {stack : List Frame} {f : Formula} {t : Token} :
      t.kind = .closeParen → Moves (.operator (.group :: stack) f) t (complete stack f)

theorem Moves.step_eq {reading next : Reading} {t : Token} (moves : Moves reading t next) :
    step none reading t = .ok next := by
  cases moves with
  | letter kind | openParen kind | negation kind | connective kind | closeParen kind =>
    simp [step, kind, descend]

theorem Moves.run_eq {reading next : Reading} {t : Token} (moves : Moves reading t next)
    (ts : List Token) : run none reading (t :: ts) = run none next ts := by
  rw [run_cons, moves.step_eq, ok_bind]

theorem moves_of_step {limit : Option Nat} {reading next : Reading} {t : Token}
    (steps : step limit reading t = .ok next) : Moves reading t next := by
  cases reading with
  | operand stack =>
    rw [step] at steps
    split at steps
    next kind =>
      cases steps
      exact .letter kind
    next kind =>
      rw [descend_eq_ok steps]
      exact .openParen kind
    next kind =>
      rw [descend_eq_ok steps]
      exact .negation kind
    next => cases steps
  | operator stack f =>
    simp only [step] at steps
    split at steps
    next kind =>
      cases steps
      exact .connective kind
    next kind =>
      cases steps
      exact .closeParen kind
    next => cases steps
    next => cases steps

/-- What every move keeps between the tokens read and the state of the reader, a run keeps. -/
theorem run_keeps {holds : List Token → Reading → Prop}
    (keeps : ∀ {ts : List Token} {reading next : Reading} {t : Token},
      holds ts reading → Moves reading t next → holds (ts ++ [t]) next)
    {limit : Option Nat} {ts us : List Token} {reading last : Reading} (before : holds ts reading)
    (runs : run limit reading us = .ok last) : holds (ts ++ us) last := by
  induction us generalizing ts reading with
  | nil =>
    cases runs
    simpa using before
  | cons t us ih =>
    rw [run_cons] at runs
    obtain ⟨next, steps, runs⟩ := bind_eq_ok.mp runs
    have after := ih (keeps before (moves_of_step steps)) runs
    simpa using after

mutual

theorem run_chain {ts : List Token} {f : Formula} :
    Chain ts f → ∀ {stack : List Frame}, Settled stack →
      run none (.operand stack) ts = .ok (.operator stack f)
  | .operand read, stack, settled => by
      rw [run_operand read stack, complete_of_settled settled]
  | .link chain kind read, stack, settled => by
      rw [run_append, run_chain chain settled, ok_bind, (Moves.connective kind).run_eq,
        run_operand read, complete, complete_of_settled settled]

theorem run_operand {ts : List Token} {f : Formula} :
    Operand ts f → ∀ stack : List Frame, run none (.operand stack) ts = .ok (complete stack f)
  | .negation kind read, stack => by
      rw [(Moves.negation kind).run_eq, run_operand read, complete]
  | .primary read, stack => run_primary read stack

theorem run_primary {ts : List Token} {f : Formula} :
    Primary ts f → ∀ stack : List Frame, run none (.operand stack) ts = .ok (complete stack f)
  | .letter kind, stack => by
      rw [(Moves.letter kind).run_eq, run_nil]
  | .group opens chain closes, stack => by
      have settled : Settled (.group :: stack) := trivial
      rw [(Moves.openParen opens).run_eq, run_append, run_chain chain settled, ok_bind,
        (Moves.closeParen closes).run_eq, run_nil]

end

/-- The tokens that opened the frames of a stack, with what was read between them. -/
inductive Opened : List Token → List Frame → Prop where
  | start : Opened [] []
  | group {ts : List Token} {stack : List Frame} {t : Token} :
      Opened ts stack → t.kind = .openParen → Opened (ts ++ [t]) (.group :: stack)
  | negation {ts : List Token} {stack : List Frame} {t : Token} :
      Opened ts stack → t.kind = .negation → Opened (ts ++ [t]) (.negation :: stack)
  | operand {ts us : List Token} {stack : List Frame} {t : Token} {c : Connective} {f : Formula} :
      Opened ts stack → Settled stack → Chain us f → t.kind = .connective c →
      Opened (ts ++ (us ++ [t])) (.operand f c :: stack)

inductive Spelled : List Token → Reading → Prop where
  | operand {ts : List Token} {stack : List Frame} : Opened ts stack → Spelled ts (.operand stack)
  | operator {ts us : List Token} {stack : List Frame} {f : Formula} :
      Opened ts stack → Settled stack → Chain us f → Spelled (ts ++ us) (.operator stack f)

theorem spelled_complete {ts us : List Token} {stack : List Frame} {f : Formula}
    (opened : Opened ts stack) (read : Operand us f) : Spelled (ts ++ us) (complete stack f) := by
  induction opened generalizing us f with
  | start => exact .operator .start trivial (.operand read)
  | group opened kind _ => exact .operator (.group opened kind) trivial (.operand read)
  | @negation ts stack t _ kind ih =>
    rw [complete, List.append_assoc]
    exact ih (.negation kind read)
  | @operand ts vs stack t c left opened settled chain kind _ =>
    rw [complete, complete_of_settled settled, List.append_assoc, List.append_assoc]
    exact .operator opened settled (.link chain kind read)

theorem spelled_moves {ts : List Token} {reading next : Reading} {t : Token}
    (spelled : Spelled ts reading) (moves : Moves reading t next) : Spelled (ts ++ [t]) next := by
  cases spelled with
  | operand opened =>
    cases moves with
    | letter kind => exact spelled_complete opened (.primary (.letter kind))
    | openParen kind => exact .operand (.group opened kind)
    | negation kind => exact .operand (.negation opened kind)
  | @operator ts us stack f opened settled chain =>
    rw [List.append_assoc]
    cases moves with
    | connective kind => exact .operand (.operand opened settled chain kind)
    | closeParen kind =>
      cases opened with
      | @group ts stack l opened opens =>
        have grouped : Primary (l :: (us ++ [t])) f := .group opens chain kind
        simpa using spelled_complete opened (.primary grouped)

theorem spelled_run {limit : Option Nat} {ts : List Token} {last : Reading}
    (runs : run limit (.operand []) ts = .ok last) : Spelled ts last := by
  have start : Spelled [] (.operand []) := .operand .start
  exact run_keeps spelled_moves start runs

theorem chain_of_finish {ts : List Token} {reading : Reading} {f : Formula}
    (spelled : Spelled ts reading) (finishes : reading.finish = .ok f) : Chain ts f := by
  cases spelled with
  | operand opened => cases finishes
  | operator opened settled chain =>
    cases opened with
    | start =>
      cases finishes
      exact chain
    | group opened kind => cases finishes
    | negation opened kind => cases finishes
    | operand opened settled chain kind => cases finishes

theorem descend_limit (limit : Option Nat) (frame : Frame) (stack : List Frame) :
    descend limit frame stack = .error .tooDeep ∨
      descend limit frame stack = descend none frame stack := by
  unfold descend
  split
  · exact .inl rfl
  · exact .inr rfl

theorem step_limit (limit : Option Nat) (reading : Reading) (t : Token) :
    step limit reading t = .error .tooDeep ∨ step limit reading t = step none reading t := by
  cases reading with
  | operand stack =>
    simp only [step]
    split
    next => exact .inr rfl
    next => exact descend_limit limit .group stack
    next => exact descend_limit limit .negation stack
    next => exact .inr rfl
  | operator stack f => exact .inr rfl

theorem run_limit (limit : Option Nat) (reading : Reading) (ts : List Token) :
    run limit reading ts = .error .tooDeep ∨ run limit reading ts = run none reading ts := by
  induction ts generalizing reading with
  | nil => exact .inr rfl
  | cons t ts ih =>
    rw [run_cons, run_cons]
    obtain refused | same := step_limit limit reading t
    · rw [refused]
      exact .inl rfl
    · rw [same]
      cases step none reading t with
      | error e => exact .inr rfl
      | ok next => exact ih next

end Formula.Reading

namespace Formula
open Reading

theorem ofTokens_eq_run (limit : Option Nat) (ts : List Token) :
    ofTokens limit ts = run limit (.operand []) ts >>= finish := rfl

theorem chain_of_ofTokens {limit : Option Nat} {ts : List Token} {f : Formula}
    (reads : ofTokens limit ts = .ok f) : Chain ts f := by
  rw [ofTokens_eq_run] at reads
  obtain ⟨last, runs, finishes⟩ := bind_eq_ok.mp reads
  exact chain_of_finish (spelled_run runs) finishes

theorem ofTokens_of_chain {ts : List Token} {f : Formula} (chain : Chain ts f) :
    ofTokens none ts = .ok f := by
  have settled : Settled [] := trivial
  rw [ofTokens_eq_run, run_chain chain settled, ok_bind, finish]

theorem ofTokens_limit (limit : Option Nat) (ts : List Token) :
    ofTokens limit ts = .error .tooDeep ∨ ofTokens limit ts = ofTokens none ts := by
  rw [ofTokens_eq_run, ofTokens_eq_run]
  obtain refused | same := run_limit limit (.operand []) ts
  · rw [refused]
    exact .inl rfl
  · rw [same]
    exact .inr rfl

theorem ofTokens_eq_ok_iff {limit : Option Nat} {ts : List Token}
    (shallow : ofTokens limit ts ≠ .error .tooDeep) (f : Formula) :
    ofTokens limit ts = .ok f ↔ Chain ts f := by
  constructor
  · exact chain_of_ofTokens
  · intro chain
    obtain refused | same := ofTokens_limit limit ts
    · exact absurd refused shallow
    · rw [same, ofTokens_of_chain chain]

end Formula

namespace Grammar

theorem chain_unique {ts : List Token} {f g : Formula} (first : Chain ts f)
    (second : Chain ts g) : f = g := by
  have same : Except.ok (ε := ParseError) f = .ok g := by
    rw [← Formula.ofTokens_of_chain first, ← Formula.ofTokens_of_chain second]
  cases same
  rfl

structure Link where
  token : Token
  connective : Connective
  tokens : List Token
  operand : Formula

namespace Link

def Derived (link : Link) : Prop :=
  link.token.kind = .connective link.connective ∧ Operand link.tokens link.operand

def spelling (link : Link) : List Token := link.token :: link.tokens

def attach (left : Formula) (link : Link) : Formula := .binary link.connective left link.operand

end Link

/-- The tokens are an operand and then links, and the formula is the fold of the links from the
left, starting at that operand. -/
def Folds (ts : List Token) (f : Formula) : Prop :=
  ∃ (us : List Token) (g : Formula) (links : List Link),
    Operand us g ∧ (∀ link ∈ links, link.Derived) ∧
      ts = us ++ links.flatMap Link.spelling ∧ f = links.foldl Link.attach g

theorem chain_foldl {ts : List Token} {f : Formula} {links : List Link} (chain : Chain ts f)
    (derived : ∀ link ∈ links, link.Derived) :
    Chain (ts ++ links.flatMap Link.spelling) (links.foldl Link.attach f) := by
  induction links generalizing ts f with
  | nil => simpa using chain
  | cons link links ih =>
    obtain ⟨kind, read⟩ := derived link (List.mem_cons_self ..)
    have extended : Chain (ts ++ link.spelling) (Link.attach f link) := .link chain kind read
    have rest := ih extended (fun l member => derived l (List.mem_cons_of_mem _ member))
    simpa using rest

theorem folds_of_chain {ts : List Token} {f : Formula} : Chain ts f → Folds ts f
  | .operand read => ⟨_, _, [], read, by simp, by simp, rfl⟩
  | @Chain.link _ vs t c _ h chain kind read => by
      obtain ⟨us, g, links, first, derived, spelled, folded⟩ := folds_of_chain chain
      refine ⟨us, g, links ++ [⟨t, c, vs, h⟩], first, ?_, ?_, ?_⟩
      · intro link member
        rcases List.mem_append.mp member with member | member
        · exact derived link member
        · rw [List.mem_singleton.mp member]
          exact ⟨kind, read⟩
      · simp [spelled, Link.spelling]
      · simp [folded, Link.attach]

theorem chain_iff_folds (ts : List Token) (f : Formula) : Chain ts f ↔ Folds ts f := by
  constructor
  · exact folds_of_chain
  · rintro ⟨us, g, links, first, derived, rfl, rfl⟩
    exact chain_foldl (.operand first) derived

end Grammar

/-- On tokens that do not nest past the limit, the reader returns exactly the formula that the
grammar derives, which is unique and is the left fold of a chain, and refuses tokens from which the
grammar derives nothing. -/
theorem ofTokens_iff_grammar (limit : Option Nat) (ts : List Token)
    (shallow : Formula.ofTokens limit ts ≠ .error .tooDeep) :
    (∀ f, Formula.ofTokens limit ts = .ok f ↔ Chain ts f) ∧
    (∀ f, Chain ts f ↔ Folds ts f) ∧
    (∀ f g, Chain ts f → Chain ts g → f = g) ∧
    ((∀ f, ¬ Chain ts f) → ∃ e, e ≠ .tooDeep ∧ Formula.ofTokens limit ts = .error e) := by
  have accepts := Formula.ofTokens_eq_ok_iff shallow
  refine ⟨accepts, chain_iff_folds ts, fun f g => chain_unique, ?_⟩
  intro underivable
  cases outcome : Formula.ofTokens limit ts with
  | error e =>
    refine ⟨e, ?_, rfl⟩
    rintro rfl
    exact shallow outcome
  | ok f => exact absurd ((accepts f).mp outcome) (underivable f)

/-- Three connectives of one level, with a negation and a group: `-A → (B & C) ∨ A`. -/
def mixedTokens : List Token :=
  [⟨.negation, "-"⟩, ⟨.letter, "A"⟩, ⟨.connective .conditional, "→"⟩, ⟨.openParen, "("⟩,
    ⟨.letter, "B"⟩, ⟨.connective .conjunction, "&"⟩, ⟨.letter, "C"⟩, ⟨.closeParen, ")"⟩,
    ⟨.connective .disjunction, "∨"⟩, ⟨.letter, "A"⟩]

def mixedFormula : Formula :=
  .disj (.imp (.neg (.atom "A")) (.conj (.atom "B") (.atom "C"))) (.atom "A")

theorem mixedTokens_grammar :
    Formula.ofTokens (some Formula.nestingLimit) mixedTokens ≠ .error .tooDeep ∧
    Formula.ofTokens (some Formula.nestingLimit) mixedTokens = .ok mixedFormula ∧
    Chain mixedTokens mixedFormula := by
  have reads : Formula.ofTokens (some Formula.nestingLimit) mixedTokens = .ok mixedFormula := rfl
  have shallow : Formula.ofTokens (some Formula.nestingLimit) mixedTokens ≠ .error .tooDeep := by
    rw [reads]
    nofun
  have accepts := (ofTokens_iff_grammar (some Formula.nestingLimit) mixedTokens shallow).1
  exact ⟨shallow, reads, (accepts mixedFormula).mp reads⟩

end NaturalDeduction
