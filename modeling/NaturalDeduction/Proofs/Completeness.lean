import NaturalDeduction.Proofs.Derivability

/-! Completeness: whatever lettered premises entail can be derived from them. Under a valuation
every formula or its negation follows from the literals of its atoms; so under each valuation the
conclusion follows from those literals and the premises, either because it is true or because some
premise is false; and the literals are removed one atom at a time. -/
namespace NaturalDeduction
open Formula

namespace Leads
variable {Γ : List Formula} {f x y : Formula} {rule : Rule}

theorem schema_one {g : Formula} (schema : rule.Schema f [g]) (hf : f.Lettered)
    (given : Leads Γ g) : Leads Γ f :=
  .schema schema hf (by simpa using given)

theorem schema_two {g h : Formula} (schema : rule.Schema f [g, h]) (hf : f.Lettered)
    (first : Leads Γ g) (second : Leads Γ h) : Leads Γ f :=
  .schema schema hf (by simpa using ⟨first, second⟩)

theorem under (leads : Leads Γ f) (g : Formula) : Leads (g :: Γ) f :=
  leads.mono (List.subset_cons_self ..)

theorem contradict (hx : x.Lettered) (affirmed : Leads Γ x) (denied : Leads Γ (.neg x)) :
    Leads Γ (.conj x (.neg x)) :=
  schema_two (.conjIntro x (.neg x)) ⟨hx, hx⟩ affirmed denied

theorem exFalso (hf : f.Lettered) (hx : x.Lettered) (affirmed : Leads Γ x)
    (denied : Leads Γ (.neg x)) : Leads Γ f :=
  discharge (.negElim f (.left x)) hf ((contradict hx affirmed denied).under _)

theorem neg_of_contradict (hx : x.Lettered) (hy : y.Lettered) (affirmed : Leads (x :: Γ) y)
    (denied : Leads Γ (.neg y)) : Leads Γ (.neg x) :=
  discharge (.negIntro x (.left y)) hx (contradict hy affirmed (denied.under x))

theorem neg_of_schema (schema : rule.Schema y [x]) (hx : x.Lettered) (hy : y.Lettered)
    (denied : Leads Γ (.neg y)) : Leads Γ (.neg x) :=
  neg_of_contradict hx hy (schema_one schema hy (of_mem (List.mem_cons_self ..))) denied

/-- Both cases lead to the same formula: if it failed, so would the first case. -/
theorem by_cases (hx : x.Lettered) (hf : f.Lettered) (affirmed : Leads (x :: Γ) f)
    (denied : Leads (.neg x :: Γ) f) : Leads Γ f := by
  have refuted : Leads (.neg f :: Γ) (.neg f) := of_mem (List.mem_cons_self ..)
  have notX : Leads (.neg f :: Γ) (.neg x) := by
    refine neg_of_contradict hx hf (affirmed.mono ?_) refuted
    exact List.cons_subset_cons x (List.subset_cons_self ..)
  have derived : Leads (.neg f :: Γ) f := by
    refine cut (fun g member => ?_) denied
    rcases List.mem_cons.mp member with rfl | member
    · exact notX
    · exact of_mem (List.mem_cons_of_mem _ member)
  exact discharge (.negElim f (.left f)) hf (contradict hf derived refuted)

end Leads

def literal (v : Valuation) (f : Formula) : Formula := if f.eval v then f else .neg f

theorem literal_of_true {v : Valuation} {f : Formula} (holds : f.eval v = true) :
    literal v f = f := by
  simp [literal, holds]

theorem literal_of_false {v : Valuation} {f : Formula} (fails : f.eval v = false) :
    literal v f = .neg f := by
  simp [literal, fails]

section Tables
variable {Γ : List Formula} {v : Valuation} {l r : Formula} (hl : l.Lettered) (hr : r.Lettered)
  (left : Leads Γ (literal v l)) (right : Leads Γ (literal v r))
include hl hr left right

theorem literal_imp : Leads Γ (literal v (.imp l r)) := by
  cases holdsR : r.eval v with
  | true =>
    rw [literal_of_true ((eval_imp v l r).mpr fun _ => holdsR)]
    rw [literal_of_true holdsR] at right
    exact .discharge (.impIntro l r) hl (right.under l)
  | false =>
    rw [literal_of_false holdsR] at right
    cases holdsL : l.eval v with
    | true =>
      rw [literal_of_false (by simp [eval, Connective.table, holdsL, holdsR])]
      rw [literal_of_true holdsL] at left
      have both := Leads.schema_two (.conjIntro l (.neg r)) ⟨hl, hr⟩ left right
      exact .schema_one (.twin (.negatedImp l r)) ⟨hl, hr⟩ both
    | false =>
      rw [literal_of_true ((eval_imp v l r).mpr fun holds => by simp [holdsL] at holds)]
      rw [literal_of_false holdsL] at left
      have either := Leads.schema_one (.disjIntroLeft (.neg l) r) ⟨hl, hr⟩ left
      exact .schema_one (.twin (.impDisj l r)) ⟨hl, hr⟩ either

theorem literal_iff : Leads Γ (literal v (.iff l r)) := by
  have forward := literal_imp hl hr left right
  have backward := literal_imp hr hl right left
  cases holdsF : (Formula.imp l r).eval v with
  | false =>
    rw [literal_of_false holdsF] at forward
    have fails : (Formula.iff l r).eval v = false := by
      cases holdsL : l.eval v <;> simp_all [eval, Connective.table]
    rw [literal_of_false fails]
    exact .neg_of_schema (.iffElimForward l r) ⟨hl, hr⟩ ⟨hl, hr⟩ forward
  | true =>
    rw [literal_of_true holdsF] at forward
    cases holdsB : (Formula.imp r l).eval v with
    | false =>
      rw [literal_of_false holdsB] at backward
      have fails : (Formula.iff l r).eval v = false := by
        cases holdsL : l.eval v <;> simp_all [eval, Connective.table]
      rw [literal_of_false fails]
      exact .neg_of_schema (.iffElimBackward l r) ⟨hl, hr⟩ ⟨hr, hl⟩ backward
    | true =>
      rw [literal_of_true holdsB] at backward
      have holds : (Formula.iff l r).eval v = true := by
        rw [eval_imp] at holdsF holdsB
        exact (eval_iff v l r).mpr ⟨holdsF, holdsB⟩
      rw [literal_of_true holds]
      exact .schema_two (.iffIntro l r) ⟨hl, hr⟩ forward backward

theorem literal_disj : Leads Γ (literal v (.disj l r)) := by
  cases holdsL : l.eval v with
  | true =>
    rw [literal_of_true ((eval_disj v l r).mpr (.inl holdsL))]
    rw [literal_of_true holdsL] at left
    exact .schema_one (.disjIntroLeft l r) ⟨hl, hr⟩ left
  | false =>
    cases holdsR : r.eval v with
    | true =>
      rw [literal_of_true ((eval_disj v l r).mpr (.inr holdsR))]
      rw [literal_of_true holdsR] at right
      exact .schema_one (.disjIntroRight l r) ⟨hl, hr⟩ right
    | false =>
      rw [literal_of_false (by simp [eval, Connective.table, holdsL, holdsR])]
      rw [literal_of_false holdsL] at left
      rw [literal_of_false holdsR] at right
      have both := Leads.schema_two (.conjIntro (.neg l) (.neg r)) ⟨hl, hr⟩ left right
      exact .schema_one (.twin (.negatedDisj l r)) ⟨hl, hr⟩ both

theorem literal_conj : Leads Γ (literal v (.conj l r)) := by
  have denied (either : Leads Γ (.disj (.neg l) (.neg r))) : Leads Γ (.neg (.conj l r)) :=
    .schema_one (.twin (.negatedConj l r)) ⟨hl, hr⟩ either
  cases holdsL : l.eval v with
  | false =>
    rw [literal_of_false (by simp [eval, Connective.table, holdsL])]
    rw [literal_of_false holdsL] at left
    exact denied (.schema_one (.disjIntroLeft ..) ⟨hl, hr⟩ left)
  | true =>
    cases holdsR : r.eval v with
    | false =>
      rw [literal_of_false (by simp [eval, Connective.table, holdsR])]
      rw [literal_of_false holdsR] at right
      exact denied (.schema_one (.disjIntroRight ..) ⟨hl, hr⟩ right)
    | true =>
      rw [literal_of_true ((eval_conj v l r).mpr ⟨holdsL, holdsR⟩)]
      rw [literal_of_true holdsL] at left
      rw [literal_of_true holdsR] at right
      exact .schema_two (.conjIntro l r) ⟨hl, hr⟩ left right

end Tables

theorem lettered_of_mem_atoms {f : Formula} {name : String} (hf : f.Lettered)
    (member : name ∈ f.atoms) : (atom name).Lettered := by
  induction f with
  | atom other =>
    rw [List.mem_singleton.mp member]
    exact hf
  | neg body ih => exact ih hf member
  | binary c l r ihl ihr =>
    rcases List.mem_append.mp member with member | member
    · exact ihl hf.1 member
    · exact ihr hf.2 member

theorem leads_literal {Γ : List Formula} {v : Valuation} {f : Formula} (hf : f.Lettered)
    (given : ∀ name ∈ f.atoms, literal v (atom name) ∈ Γ) : Leads Γ (literal v f) := by
  induction f with
  | atom name => exact .of_mem (given name (List.mem_singleton.mpr rfl))
  | neg body ih =>
    have decided := ih hf given
    cases holds : body.eval v with
    | true =>
      rw [literal_of_true holds] at decided
      rw [literal_of_false (by simp [eval, holds])]
      exact .schema_one (.twinBack (.doubleNegation body)) hf decided
    | false =>
      rw [literal_of_false holds] at decided
      rw [literal_of_true (by simp [eval, holds])]
      exact decided
  | binary c l r ihl ihr =>
    have left := ihl hf.1 fun name member => given name (List.mem_append_left _ member)
    have right := ihr hf.2 fun name member => given name (List.mem_append_right _ member)
    cases c with
    | conditional => exact literal_imp hf.1 hf.2 left right
    | biconditional => exact literal_iff hf.1 hf.2 left right
    | disjunction => exact literal_disj hf.1 hf.2 left right
    | conjunction => exact literal_conj hf.1 hf.2 left right

/-- What follows from the literals of some atoms under every valuation follows without them. -/
theorem leads_of_every_valuation {Γ : List Formula} {f : Formula} {names : List String}
    (lettered : ∀ name ∈ names, (atom name).Lettered) (hf : f.Lettered)
    (every : ∀ v, Leads (names.map (fun name => literal v (atom name)) ++ Γ) f) : Leads Γ f := by
  induction names with
  | nil => exact every fun _ => true
  | cons name names ih =>
    refine ih (fun other member => lettered other (List.mem_cons_of_mem _ member)) fun v => ?_
    -- a repeated atom has its literal among the others, and cannot be set both ways
    by_cases repeated : name ∈ names
    · refine (every v).mono (List.cons_subset.mpr ⟨?_, List.Subset.refl _⟩)
      exact List.mem_append_left _ (List.mem_map_of_mem repeated)
    · let set (b : Bool) : Valuation := fun other => if other = name then b else v other
      have others (b : Bool) : names.map (fun other => literal (set b) (atom other)) =
          names.map (fun other => literal v (atom other)) := by
        refine List.map_congr_left fun other member => ?_
        have different : other ≠ name := fun same => repeated (same ▸ member)
        have agrees : (atom other).eval (set b) = (atom other).eval v := by
          simp [eval, set, different]
        rw [literal, literal, agrees]
      have affirmed := every (set true)
      have denied := every (set false)
      rw [List.map_cons, others, literal_of_true (by simp [eval, set])] at affirmed
      rw [List.map_cons, others, literal_of_false (by simp [eval, set])] at denied
      exact .by_cases (lettered name (List.mem_cons_self ..)) hf affirmed denied

theorem leads_of_entailed {premises : List Formula} {f : Formula}
    (lettered : ∀ p ∈ premises, p.Lettered) (hf : f.Lettered) (entailed : Entailed premises f) :
    Leads premises f := by
  have all : ∀ g ∈ f :: premises, g.Lettered := List.forall_mem_cons.mpr ⟨hf, lettered⟩
  let names := (f :: premises).flatMap atoms
  have letters : ∀ name ∈ names, (atom name).Lettered := by
    intro name member
    obtain ⟨g, inside, occurs⟩ := List.mem_flatMap.mp member
    exact lettered_of_mem_atoms (all g inside) occurs
  refine leads_of_every_valuation letters hf fun v => ?_
  have decided : ∀ g ∈ f :: premises,
      Leads (names.map (fun name => literal v (atom name)) ++ premises) (literal v g) := by
    intro g inside
    refine leads_literal (all g inside) fun name occurs => List.mem_append_left _ ?_
    exact List.mem_map_of_mem (List.mem_flatMap.mpr ⟨g, inside, occurs⟩)
  by_cases holds : ∀ p ∈ premises, p.eval v = true
  · have conclusion := decided f (List.mem_cons_self ..)
    rwa [literal_of_true (entailed v holds)] at conclusion
  · obtain ⟨p, failing⟩ := Classical.not_forall.mp holds
    obtain ⟨inside, fails⟩ := Classical.not_imp.mp failing
    have denied := decided p (List.mem_cons_of_mem _ inside)
    rw [literal_of_false (Bool.not_eq_true _ ▸ fails)] at denied
    exact .exFalso hf (lettered p inside) (.of_mem (List.mem_append_right _ inside)) denied

namespace Derivation
variable {d e : Derivation} {f : Formula} {line : Line} {G : Line → Prop}

theorem exists_start (premises : List Formula) (conclusion : Formula) :
    ∃ d, start (premises.map fun p => .stated (.tree p)) (.tree conclusion) = .ok d ∧
      d.premises.map Line.formula = premises ∧ d.conclusion = conclusion := by
  have reads : ∀ position, ∃ lines,
      readPremises position (premises.map fun p => .stated (.tree p)) = .ok lines ∧
        lines.map Line.formula = premises := by
    induction premises with
    | nil => exact fun position => ⟨[], rfl, rfl⟩
    | cons p rest ih =>
      intro position
      obtain ⟨lines, reads, formulas⟩ := ih (position + 1)
      refine ⟨Line.citing position p .assumption [] :: lines, ?_, ?_⟩
      · simp [readPremises, Premise.read, Statement.read, reads]
      · simp [Line.citing, formulas]
  obtain ⟨lines, reads, formulas⟩ := reads 0
  exact ⟨⟨lines, conclusion, []⟩, by simp [start, reads, Statement.read],
    formulas, rfl⟩

/-- A formula that is shown can be made the last line, by denying it twice and back. -/
theorem exists_last (wf : d.WellFormed) (shows : Shows d G f line) :
    ∃ e last, Extends d e ∧ Shows e G f last ∧ e.last? = some last := by
  have hf := shows.lettered wf
  obtain rfl := shows.formula
  obtain ⟨e₁, twice, entered₁, shows₁, -⟩ := exists_inferred wf [line]
    (.twinBack (.doubleNegation line.formula)) hf (by simpa using shows)
  have back : Rule.Schema .doubleNegation line.formula ([twice].map Line.formula) := by
    simpa [entered₁.formula] using Rule.Schema.twin (.doubleNegation line.formula)
  obtain ⟨e₂, last, entered₂, shows₂, -⟩ := exists_inferred (entered₁.grown.wellFormed wf) [twice]
    back hf (by simpa [entered₁.formula] using shows₁)
  exact ⟨e₂, last, entered₁.grown.trans entered₂.grown, shows₂, entered₂.last⟩

end Derivation

open NaturalDeduction.Derivation

/-- Whatever lettered premises entail can be derived from them without leaving the lettered
formulas: some moves are all accepted and finish the derivation. -/
theorem entailed_derivable {premises : List Formula} {conclusion : Formula}
    (lettered : ∀ p ∈ premises, p.Lettered) (hc : conclusion.Lettered)
    (entailed : Entailed premises conclusion) :
    ∃ d, start (premises.map fun p => .stated (.tree p)) (.tree conclusion) = .ok d ∧
      ∃ (moves : List Move) (e : Derivation), (∀ move ∈ moves, move.formula.Lettered) ∧
        d.addAll (moves.map Move.step) = ⟨e, none⟩ ∧ e.qed = .ok true := by
  obtain ⟨d, starts, formulas, rfl⟩ := exists_start premises conclusion
  have wf : d.WellFormed := by
    refine @start_wellFormed d (premises.map .tree) (.tree d.conclusion) ?_ ?_
    · simpa [Statement.Lettered] using lettered
    · rw [List.map_map]
      exact starts
  -- every premise rests on itself alone
  have shown : ∀ p ∈ premises, ∃ line, Shows d (· ∈ d.premises) p line := by
    rw [← formulas]
    intro p member
    obtain ⟨line, inside, rfl⟩ := List.mem_map.mp member
    refine ⟨line, List.mem_append_left _ inside, rfl, fun q rests => ?_⟩
    rwa [rests.eq_of_bare (wf.premise line inside).2]
  obtain ⟨e₁, line, grown₁, shows₁⟩ := leads_of_entailed lettered hc entailed d _ wf shown
  obtain ⟨e, last, grown₂, shows, isLast⟩ := exists_last (grown₁.wellFormed wf) shows₁
  have grown := grown₁.trans grown₂
  have finished : e.qed = .ok true := by
    have wfE := grown.wellFormed wf
    obtain ⟨more, rfl⟩ := grown.frame
    refine wfE.qed_eq_true_iff.mpr ⟨last, isLast, ?_, fun p _ rests => shows.grounds p rests⟩
    rw [shows.formula]
    rfl
  obtain ⟨moves, stays, accepted⟩ := grown
  exact ⟨d, starts, moves, e, stays, accepted, finished⟩

theorem equivalent_denial_derivable :
    Entailed [.iff (atom "A") (atom "B"), .neg (atom "B")] (.disj (.neg (atom "A")) (atom "C")) ∧
    ∃ d, start ([.iff (atom "A") (atom "B"), .neg (atom "B")].map fun p => .stated (.tree p))
        (.tree (.disj (.neg (atom "A")) (atom "C"))) = .ok d ∧
      ∃ (moves : List Move) (e : Derivation), (∀ move ∈ moves, move.formula.Lettered) ∧
        d.addAll (moves.map Move.step) = ⟨e, none⟩ ∧ e.qed = .ok true := by
  have a : (atom "A").Lettered := ⟨'A', by decide, rfl⟩
  have b : (atom "B").Lettered := ⟨'B', by decide, rfl⟩
  have c : (atom "C").Lettered := ⟨'C', by decide, rfl⟩
  have premises : ∀ p ∈ [Formula.iff (atom "A") (atom "B"), .neg (atom "B")], p.Lettered :=
    List.forall_mem_cons.mpr ⟨⟨a, b⟩, List.forall_mem_singleton.mpr b⟩
  have entailed : Entailed [.iff (atom "A") (atom "B"), .neg (atom "B")]
      (.disj (.neg (atom "A")) (atom "C")) := by
    intro v holds
    simp only [List.forall_mem_cons, eval_iff, eval_neg, eval_disj] at holds ⊢
    exact .inl fun affirmed => holds.2.1 (holds.1.mp affirmed)
  exact ⟨entailed, entailed_derivable premises ⟨a, c⟩ entailed⟩

end NaturalDeduction
