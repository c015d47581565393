import NaturalDeduction.Formula.Semantics
import NaturalDeduction.Proofs.Derivability
import NaturalDeduction.Proofs.Replay

/-! Derivations are closed under uniform substitution. What a line rests on depends on indices,
rules and citations alone, so stating other formulas in the same places leaves it as it was; and the
schemata of the rules hold for all formulas, so they go on holding when formulas are put for
letters, whatever else comes to fit by it. -/
namespace NaturalDeduction
open Outcome

namespace Line
variable (g : Formula → Formula)

def restate (line : Line) : Line := { line with formula := g line.formula }

@[simp] theorem index_restate (line : Line) : (line.restate g).index = line.index := rfl

@[simp] theorem formula_restate (line : Line) : (line.restate g).formula = g line.formula := rfl

@[simp] theorem rule_restate (line : Line) : (line.restate g).rule = line.rule := rfl

@[simp] theorem citations_restate (line : Line) : (line.restate g).citations = line.citations := rfl

@[simp] theorem isSupposition_restate (line : Line) :
    (line.restate g).isSupposition = line.isSupposition := rfl

theorem lineAt_restate (lines : List Line) (position : Int) :
    lineAt (lines.map (restate g)) position = (lineAt lines position).map (restate g) := by
  simp only [lineAt, List.length_map, List.getElem?_map]
  generalize (if position < 0 then position + (lines.length : Int) else position) = offset
  split
  next => rfl
  next => cases lines[offset.toNat]? <;> rfl

theorem keeps_restate (lines : List Line) (line : Line) (dependency : Int) :
    (line.restate g).keeps (lines.map (restate g)) dependency = line.keeps lines dependency := by
  simp only [keeps, citations_restate, lineAt_restate]
  cases lineAt lines dependency <;> rfl

theorem sift_restate (lines : List Line) (line : Line) (indices : List Int) :
    (line.restate g).sift (lines.map (restate g)) indices = line.sift lines indices := by
  induction indices with
  | nil => rfl
  | cons i rest ih => simp only [sift, keeps_restate, ih]

theorem resolve_restate (lines : List Line) (table : DependencyTable) (line : Line) :
    (line.restate g).resolve (lines.map (restate g)) table = line.resolve lines table := by
  simp only [resolve, citations_restate, index_restate, rule_restate, sift_restate]

theorem tabulate_restate (lines earlier : List Line) :
    tabulate (lines.map (restate g)) (earlier.map (restate g)) = tabulate lines earlier := by
  simp only [tabulate, List.foldlM_map, resolve_restate, index_restate]

/-- What a line rests on does not depend on what the lines state. -/
theorem dependencies_restate (lines : List Line) (line : Line) :
    (line.restate g).dependencies (lines.map (restate g)) = line.dependencies lines := by
  have before : linesBefore (lines.map (restate g)) line.index =
      (linesBefore lines line.index).map (restate g) := by
    unfold linesBefore
    split <;> simp
  rw [dependencies, dependencies, index_restate, before, tabulate_restate]
  simp only [resolve_restate]

theorem restsOnSupposition_restate (lines : List Line) (indices : List Int) :
    restsOnSupposition (lines.map (restate g)) indices = restsOnSupposition lines indices := by
  induction indices with
  | nil => rfl
  | cons i rest ih =>
    simp only [restsOnSupposition, lineAt_restate, ih]
    cases lineAt lines i <;> rfl

theorem hasOpenSupposition_restate (lines : List Line) (line : Line) :
    (line.restate g).hasOpenSupposition (lines.map (restate g)) =
      line.hasOpenSupposition lines := by
  simp only [hasOpenSupposition, dependencies_restate, restsOnSupposition_restate]

end Line

theorem RestsOn.restate (g : Formula → Formula) {lines : List Line} {line p : Line}
    (rests : RestsOn lines line p) :
    RestsOn (lines.map (Line.restate g)) (line.restate g) (p.restate g) := by
  induction rests with
  | self bare => exact .self bare
  | through cited cites _ keeps ih => exact .through (List.mem_map_of_mem cited) cites ih keeps

theorem Numbered.restate (g : Formula → Formula) {lines : List Line} (numbered : Numbered lines) :
    Numbered (lines.map (Line.restate g)) where
  index_eq n line found := by
    rw [List.getElem?_map] at found
    obtain ⟨original, there, rfl⟩ := Option.map_eq_some_iff.mp found
    exact numbered.index_eq n original there
  earlier line member := by
    obtain ⟨original, inside, rfl⟩ := List.mem_map.mp member
    exact numbered.earlier original inside

theorem Rule.Check.Supports.restate (g : Formula → Formula) {lines : List Line} {a b s c : Line}
    (supports : Supports lines a b s c) :
    Supports (lines.map (Line.restate g)) (a.restate g) (b.restate g) (s.restate g)
      (c.restate g) where
  order := by
    rcases supports.order with ⟨rfl, rfl⟩ | ⟨rfl, rfl⟩
    · exact .inl ⟨rfl, rfl⟩
    · exact .inr ⟨rfl, rfl⟩
  supposed := supports.supposed
  rests := supports.rests.restate g

section Instances
open Formula
variable {s : String → Formula} {rule : Rule} {f x c : Formula}

theorem Formula.lettered_subst
    (letters : ∀ c : Char, c.isAlpha = true → (s (String.singleton c)).Lettered)
    (hf : f.Lettered) : (f.subst s).Lettered := by
  induction f with
  | atom name =>
    obtain ⟨c, alpha, rfl⟩ := hf
    exact letters c alpha
  | neg body ih => exact ih hf
  | binary connective left right ihl ihr => exact ⟨ihl hf.1, ihr hf.2⟩

theorem Rule.Twin.subst (s : String → Formula) {g : Formula} (twin : Twin rule f g) :
    Twin rule (f.subst s) (g.subst s) := by
  cases twin <;> constructor

theorem Rule.Schema.subst (s : String → Formula) {gs : List Formula} (schema : Schema rule f gs) :
    Schema rule (f.subst s) (gs.map (Formula.subst s)) := by
  cases schema with
  | twin twin => exact .twin (twin.subst s)
  | twinBack twin => exact .twinBack (twin.subst s)
  | _ => constructor

theorem Contradictory.subst (s : String → Formula) (contradictory : Contradictory c) :
    Contradictory (c.subst s) := by
  cases contradictory with
  | left z => exact .left (z.subst s)
  | right z => exact .right (z.subst s)

theorem Rule.Discharge.subst (s : String → Formula) (discharge : Discharge rule f x c) :
    Discharge rule (f.subst s) (x.subst s) (c.subst s) := by
  cases discharge with
  | impIntro => exact .impIntro ..
  | negIntro _ contradictory => exact .negIntro _ (contradictory.subst s)
  | negElim _ contradictory => exact .negElim _ (contradictory.subst s)

end Instances

namespace Derivation
variable {d : Derivation} {line : Line}

def restate (g : Formula → Formula) (d : Derivation) : Derivation :=
  ⟨d.premises.map (Line.restate g), g d.conclusion, d.deductions.map (Line.restate g)⟩

@[simp] theorem lines_restate (g : Formula → Formula) (d : Derivation) :
    (d.restate g).lines = d.lines.map (Line.restate g) := by
  simp [restate, lines]

theorem cited_restate (g : Formula → Formula) (d : Derivation) (citations : List Int) :
    (d.restate g).cited citations = (d.cited citations).map (Line.restate g) := by
  simp only [cited, lines_restate, List.getElem?_map, List.map_filterMap]

namespace WellFormed
variable {s : String → Formula} (wf : d.WellFormed)
  (letters : ∀ c : Char, c.isAlpha = true → (s (String.singleton c)).Lettered)
include wf

theorem numbered_restate (g : Formula → Formula) : Numbered (d.restate g).lines := by
  rw [lines_restate]
  exact wf.numbered.restate g

include letters

theorem lettered_restate :
    ∀ line ∈ (d.restate (Formula.subst s)).lines, line.formula.Lettered := by
  rw [lines_restate, List.forall_mem_map]
  intro line member
  exact Formula.lettered_subst letters (wf.lettered line member)

theorem evaluate_subst (member : line ∈ d.deductions) :
    line.rule.evaluate (d.restate (Formula.subst s)).lines (line.formula.subst s)
      ((d.restate (Formula.subst s)).cited line.citations) = .ok () := by
  have inside : line ∈ d.lines := List.mem_append_right _ member
  have suppositions : ∀ line ∈ (d.restate (Formula.subst s)).lines,
      line.isSupposition = true → line.citations = [] := by
    rw [lines_restate, List.forall_mem_map]
    exact fun line => wf.bare_of_supposition
  rw [Rule.evaluate_iff_infers (wf.numbered_restate _) (wf.lettered_restate letters) suppositions
    (fun c => mem_of_cited) (Formula.lettered_subst letters (wf.lettered line inside)),
    cited_restate, lines_restate]
  -- a rule may fit in more ways than before, but it accepts every instance of its schema
  cases wf.infers inside with
  | bare none empty => exact .bare none (by rw [empty]; rfl)
  | schema perm schema =>
    refine .schema ?_ (schema.subst s)
    simpa [Function.comp_def] using perm.map (Formula.subst s)
  | discharge two supports discharge =>
    exact .discharge (by rw [two]; rfl) (supports.restate (Formula.subst s)) (discharge.subst s)

theorem subst : (d.restate (Formula.subst s)).WellFormed where
  numbered := wf.numbered_restate _
  lettered := wf.lettered_restate letters
  sorted := by
    rw [lines_restate, List.forall_mem_map]
    exact wf.sorted
  premise := List.forall_mem_map.mpr wf.premise
  deduction := by
    refine List.forall_mem_map.mpr fun line member => ?_
    have accepted := wf.deduction line member
    exact ⟨accepted.derived, accepted.earlier, wf.evaluate_subst letters member⟩

end WellFormed

theorem grow_restate (g : Formula → Formula) (d : Derivation) (more : List Line) :
    (d.grow more).restate g = (d.restate g).grow (more.map (Line.restate g)) := by
  simp [restate, grow]

theorem qed_restate {g : Formula → Formula}
    (keeps : ∀ last, d.last? = some last → last.formula.Same d.conclusion →
      (g last.formula).Same (g d.conclusion))
    (finished : d.qed = .ok true) : (d.restate g).qed = .ok true := by
  have last : (d.restate g).last? = d.last?.map (Line.restate g) := by
    simp [restate, last?]
  unfold qed at finished ⊢
  rw [last]
  cases isLast : d.last? with
  | none => simp [isLast] at finished
  | some line =>
    simp only [isLast] at finished
    split at finished
    next same =>
      have stays : (g line.formula).Same (d.restate g).conclusion := keeps line isLast same
      simpa [stays, Line.hasOpenSupposition_restate] using finished
    next => simp at finished

end Derivation

def Move.subst (s : String → Formula) (move : Move) : Move :=
  { move with formula := move.formula.subst s }

theorem Move.asks_step {move : Move} {line : Line} :
    move.step.Asks line ↔
      Line.citing line.index move.formula move.rule move.citations = line := by
  simp [Step.Asks, Line.read, Move.step, Statement.read]

theorem Move.asks_subst (s : String → Formula) {move : Move} {line : Line}
    (asks : move.step.Asks line) :
    (move.subst s).step.Asks (line.restate (Formula.subst s)) := by
  rw [asks_step] at asks ⊢
  rw [← asks]
  rfl

namespace Derivation
variable {d e : Derivation} {s : String → Formula}

theorem premises_of_start {premises : List Formula} {conclusion : Formula}
    (starts : start (premises.map fun p => .stated (.tree p)) (.tree conclusion) = .ok d) :
    premises = d.premises.map Line.formula ∧ d.conclusion = conclusion ∧ d.clear = d := by
  obtain ⟨lines, reads, starts⟩ := bind_eq_ok.mp starts
  cases starts
  refine ⟨?_, rfl, rfl⟩
  have stated : readPremises 0 ((premises.map Statement.tree).map .stated) = .ok lines := by
    rw [List.map_map]
    exact reads
  have formulas := read_of_readPremises stated
  rw [List.forall₂_map_left_iff] at formulas
  rw [← List.forall₂_eq_eq_eq, List.forall₂_map_right_iff]
  exact formulas.imp fun p line same => Except.ok.inj same

namespace WellFormed
variable (wf : d.WellFormed)
  (letters : ∀ c : Char, c.isAlpha = true → (s (String.singleton c)).Lettered)
include wf letters

theorem start_subst (fresh : d.clear = d) :
    start (((d.premises.map Line.formula).map (Formula.subst s)).map fun p => .stated (.tree p))
      (.tree (d.conclusion.subst s)) = .ok (d.restate (Formula.subst s)) := by
  have again := (wf.subst letters).start_eq_clear (fun line => .tree line.formula)
    (fun line _ => rfl) (rfl : Statement.read (.tree (d.conclusion.subst s)) = _)
  have clear : (d.restate (Formula.subst s)).clear = d.restate (Formula.subst s) := by
    rw [← fresh]
    rfl
  rw [clear] at again
  simpa [restate, Function.comp_def] using again

theorem addAll_subst {moves : List Move} (wfEnd : e.WellFormed)
    (accepted : d.addAll (moves.map Move.step) = ⟨e, none⟩) :
    (d.restate (Formula.subst s)).addAll ((moves.map (Move.subst s)).map Move.step) =
      ⟨e.restate (Formula.subst s), none⟩ := by
  obtain ⟨added, rfl, -, asks, -⟩ := (addAll_eq_iff wf.numbered).mp accepted
  have wfAfter := wfEnd.subst letters
  refine (addAll_eq_iff (wf.subst letters).numbered).mpr
    ⟨added.map (Line.restate (Formula.subst s)), grow_restate _ _ _, wfAfter.numbered, ?_, ?_⟩
  · rw [List.forall₂_map_left_iff] at asks
    rw [List.forall₂_map_left_iff, List.forall₂_map_left_iff, List.forall₂_map_right_iff]
    exact asks.imp fun move line => Move.asks_subst s
  · intro line member
    refine wfAfter.deduction line ?_
    rw [grow_restate]
    exact List.mem_append_right _ member

end WellFormed
end Derivation

open Formula NaturalDeduction.Derivation

/-- Moves that are all accepted stay so when formulas are put for the letters throughout, premises
and conclusion included; every line rests on the same lines as before, and a finished derivation
stays finished. -/
theorem substitution_accepted {s : String → Formula} {premises : List Formula}
    {conclusion : Formula} {moves : List Move} {d e : Derivation}
    (letters : ∀ c : Char, c.isAlpha = true → (s (String.singleton c)).Lettered)
    (lettered : ∀ p ∈ premises, p.Lettered) (hc : conclusion.Lettered)
    (letteredMoves : ∀ move ∈ moves, move.formula.Lettered)
    (starts : start (premises.map fun p => .stated (.tree p)) (.tree conclusion) = .ok d)
    (accepted : d.addAll (moves.map Move.step) = ⟨e, none⟩) :
    ∃ d' e',
      start ((premises.map (subst s)).map fun p => .stated (.tree p)) (.tree (conclusion.subst s)) =
        .ok d' ∧
      d'.addAll ((moves.map (Move.subst s)).map Move.step) = ⟨e', none⟩ ∧
      List.Forall₂ (fun line line' => line'.formula = line.formula.subst s ∧
        ∃ indices, line.dependencies e.lines = .ok indices ∧
          line'.dependencies e'.lines = .ok indices) e.lines e'.lines ∧
      (e.qed = .ok true → e'.qed = .ok true) := by
  have wf : d.WellFormed := by
    refine @start_wellFormed d (premises.map .tree) (.tree conclusion) ?_ ?_
    · simpa [Statement.Lettered] using lettered
    · rw [List.map_map]
      exact starts
  have wfEnd : e.WellFormed := Extends.wellFormed wf ⟨moves, letteredMoves, accepted⟩
  obtain ⟨rfl, rfl, fresh⟩ := premises_of_start starts
  obtain ⟨added, rfl, -⟩ := (addAll_eq_iff wf.numbered).mp accepted
  refine ⟨_, _, wf.start_subst letters fresh, wf.addAll_subst letters wfEnd accepted, ?_, ?_⟩
  · rw [lines_restate, List.forall₂_map_right_iff, List.forall₂_same]
    intro line member
    obtain ⟨indices, resolves, -⟩ := dependencies_spec wfEnd.numbered member
    exact ⟨rfl, indices, resolves, (Line.dependencies_restate _ _ line).trans resolves⟩
  · intro finished
    refine qed_restate (fun last isLast same => ?_) finished
    have here := wfEnd.lettered last (WellFormed.last_mem isLast)
    rw [(same_iff_eq here hc).mp same]
    exact Same.refl _

def tollensMoves : List Move :=
  [⟨atom "A", .supposition, []⟩, ⟨atom "B", .impElim, [0, 2]⟩,
    ⟨.conj (atom "B") (.neg (atom "B")), .conjIntro, [3, 1]⟩, ⟨.neg (atom "A"), .negIntro, [2, 4]⟩]

/-- A negation for A, and for B a contradiction, so that more lines come to fit than before. -/
def tangle (name : String) : Formula :=
  if name = "A" then .neg (.imp (atom "C") (atom "A"))
  else if name = "B" then .conj (atom "C") (.neg (atom "C"))
  else atom name

theorem tangle_lettered (c : Char) (alpha : c.isAlpha = true) :
    (tangle (String.singleton c)).Lettered := by
  have letterA : (atom "A").Lettered := ⟨'A', by decide, rfl⟩
  have letterC : (atom "C").Lettered := ⟨'C', by decide, rfl⟩
  unfold tangle
  split
  · exact ⟨letterC, letterA⟩
  · split
    · exact ⟨letterC, letterC⟩
    · exact ⟨c, alpha, rfl⟩

theorem tollens_substituted :
    ∃ d e d' e',
      start ([.imp (atom "A") (atom "B"), .neg (atom "B")].map fun p => .stated (.tree p))
        (.tree (.neg (atom "A"))) = .ok d ∧
      d.addAll (tollensMoves.map Move.step) = ⟨e, none⟩ ∧ e.qed = .ok true ∧
      start ([.imp (tangle "A") (tangle "B"), .neg (tangle "B")].map fun p => .stated (.tree p))
        (.tree (.neg (tangle "A"))) = .ok d' ∧
      d'.addAll ((tollensMoves.map (Move.subst tangle)).map Move.step) = ⟨e', none⟩ ∧
      e'.qed = .ok true := by
  have a : (atom "A").Lettered := ⟨'A', by decide, rfl⟩
  have b : (atom "B").Lettered := ⟨'B', by decide, rfl⟩
  have premises : ∀ p ∈ [Formula.imp (atom "A") (atom "B"), .neg (atom "B")], p.Lettered :=
    List.forall_mem_cons.mpr ⟨⟨a, b⟩, List.forall_mem_singleton.mpr b⟩
  have denial : (Formula.neg (atom "A")).Lettered := a
  have contradiction : (Formula.conj (atom "B") (.neg (atom "B"))).Lettered := ⟨b, b⟩
  have moves : ∀ move ∈ tollensMoves, move.formula.Lettered := by
    simp [tollensMoves, a, b, denial, contradiction]
  obtain ⟨d', e', starts, accepted, -, finished⟩ :=
    substitution_accepted tangle_lettered premises denial moves rfl rfl
  exact ⟨_, _, d', e', rfl, rfl, rfl, starts, accepted, finished rfl⟩

end NaturalDeduction
