import NaturalDeduction.Formula.Semantics
import NaturalDeduction.Proofs.Reachable

/-! Soundness: a line is true wherever all that it rests on is true. The argument follows the
citations of a line. A rule that discharges nothing rests on all that its citations rest on; a
discharging rule gives up the supposition, and is sound because its result already says what
follows from that supposition. -/
namespace NaturalDeduction
open Outcome Formula

namespace Derivation
variable {d : Derivation} {line : Line}

namespace WellFormed

theorem within (wf : d.WellFormed) (member : line ∈ d.lines) :
    ∀ i ∈ line.citations, 0 ≤ i ∧ i < d.lines.length := by
  intro i cites
  have bound := wf.index_lt member
  have before := wf.numbered.earlier line member i cites
  omega

theorem mem_cited_iff (wf : d.WellFormed) (member : line ∈ d.lines) {c : Line} :
    c ∈ d.cited line.citations ↔ c ∈ d.lines ∧ c.index ∈ line.citations :=
  mem_cited wf.numbered (wf.within member)

theorem length_citations (wf : d.WellFormed) (member : line ∈ d.lines) :
    line.citations.length = line.rule.arity := by
  rcases List.mem_append.mp member with premise | deduction
  · obtain ⟨assumed, empty⟩ := wf.premise line premise
    simp [assumed, empty, Rule.arity]
  · have count := Rule.evaluate_length (wf.deduction line deduction).accepted
    rw [← count, ← List.length_map Line.index, map_index_cited wf.numbered (wf.within member)]

theorem bare_of_supposition (wf : d.WellFormed) (member : line ∈ d.lines)
    (supposed : line.isSupposition = true) : line.citations = [] := by
  have count := wf.length_citations member
  have rule : line.rule = .supposition := by simpa [Line.isSupposition] using supposed
  rw [rule] at count
  exact List.eq_nil_of_length_eq_zero count

theorem accepts_iff_discharge (wf : d.WellFormed) {rule : Rule} {f : Formula} {cited : List Line}
    (inside : ∀ c ∈ cited, c ∈ d.lines) (discharges : rule.discharges = true) (hf : f.Lettered) :
    rule.evaluate d.lines f cited = .ok () ↔ ∃ a b, cited = [a, b] ∧
      ∃ s c, Rule.Check.Supports d.lines a b s c ∧ rule.Discharge f s.formula c.formula :=
  Rule.evaluate_iff_discharge wf.numbered wf.lettered (fun _ => wf.bare_of_supposition) inside
    discharges hf

theorem premise_or_supposition (wf : d.WellFormed) (member : line ∈ d.lines)
    (bare : line.citations = []) : line ∈ d.premises ∨ line.isSupposition = true := by
  rcases List.mem_append.mp member with premise | deduction
  · exact .inl premise
  · have count := wf.length_citations member
    have derived := (wf.deduction line deduction).derived
    rw [bare] at count
    right
    cases rule : line.rule with
    | assumption => exact absurd rule derived
    | supposition => simp [Line.isSupposition, rule]
    | _ => simp [rule, Rule.arity] at count

theorem infers (wf : d.WellFormed) (member : line ∈ d.lines) :
    Rule.Infers d.lines line.rule line.formula (d.cited line.citations) := by
  rcases List.mem_append.mp member with premise | deduction
  · obtain ⟨assumed, empty⟩ := wf.premise line premise
    exact .bare (by rw [assumed]; rfl) (by rw [empty]; rfl)
  · exact (Rule.evaluate_iff_infers wf.numbered wf.lettered (fun _ => wf.bare_of_supposition)
      (fun c => mem_of_cited) (wf.lettered line member)).mp (wf.deduction line deduction).accepted

theorem rests_iff_of_supports (wf : d.WellFormed) (member : line ∈ d.lines) {a b s c p : Line}
    (two : d.cited line.citations = [a, b]) (supports : Rule.Check.Supports d.lines a b s c)
    (discharges : line.rule.discharges = true) :
    RestsOn d.lines line p ↔ RestsOn d.lines c p ∧ p ≠ s := by
  have among (q : Line) : q ∈ d.cited line.citations ↔ q = s ∨ q = c := by
    rw [two]
    rcases supports.order with ⟨rfl, rfl⟩ | ⟨rfl, rfl⟩
    · simp
    · simp [or_comm]
  have cites (q : Line) (inside : q ∈ d.lines) : q.index ∈ line.citations ↔ q = s ∨ q = c := by
    simpa [inside, among q] using (wf.mem_cited_iff member (c := q)).symm
  have inS : s ∈ d.lines := mem_of_cited ((among s).mpr (.inl rfl))
  have inC : c ∈ d.lines := mem_of_cited ((among c).mpr (.inr rfl))
  exact RestsOn.iff_of_discharge (fun _ => wf.bare_of_supposition) inS inC supports.supposed
    supports.rests discharges cites

theorem holds (wf : d.WellFormed) {v : Valuation} {line : Line} (member : line ∈ d.lines)
    (grounds : ∀ p ∈ d.lines, RestsOn d.lines line p → p.formula.eval v = true) :
    line.formula.eval v = true := by
  -- induction on the index: every citation is earlier
  by_cases bare : line.citations = []
  · exact grounds line member (.self bare)
  have cited {c : Line} (found : c ∈ d.cited line.citations) :
      c ∈ d.lines ∧ c.index ∈ line.citations := (wf.mem_cited_iff member).mp found
  have decreases {c : Line} (found : c ∈ d.cited line.citations) :
      c.index.toNat < line.index.toNat := by
    have before := wf.numbered.earlier line member _ (cited found).2
    omega
  cases wf.infers member with
  | bare none _ =>
    rw [← wf.length_citations member] at none
    exact absurd (List.eq_nil_of_length_eq_zero none) bare
  | schema perm schema =>
    have keeps := schema.cites_keeps.2
    refine schema.sound fun g given => ?_
    obtain ⟨c, found, rfl⟩ := List.mem_map.mp (perm.mem_iff.mp given)
    have less := decreases found
    refine wf.holds (cited found).1 fun p inside rests => grounds p inside ?_
    exact .through (cited found).1 (cited found).2 rests fun drops => by simp [drops.1] at keeps
  | @discharge a b s c two supports discharge =>
    refine discharge.sound fun supposed => ?_
    have found : c ∈ d.cited line.citations := by
      rw [two]
      rcases supports.order with ⟨-, rfl⟩ | ⟨-, rfl⟩ <;> simp
    have less := decreases found
    refine wf.holds (cited found).1 fun p inside rests => ?_
    -- what the line no longer rests on is the supposition, true here by hypothesis
    by_cases same : p = s
    · rw [same]
      exact supposed
    · exact grounds p inside ((wf.rests_iff_of_supports member two supports
        discharge.discharges_lettered.1).mpr ⟨rests, same⟩)
termination_by line.index.toNat

theorem last_mem (last : d.last? = some line) : line ∈ d.lines :=
  List.mem_append_right _ (List.mem_of_getLast? last)

theorem qed_eq_true_iff (wf : d.WellFormed) :
    d.qed = .ok true ↔ ∃ last, d.last? = some last ∧ last.formula.Same d.conclusion ∧
      ∀ p ∈ d.lines, RestsOn d.lines last p → p ∈ d.premises := by
  unfold qed
  cases last : d.last? with
  | none => simp
  | some line =>
    have member := last_mem last
    obtain ⟨supposing, decides, spec⟩ := hasOpenSupposition_spec wf.numbered member
    have closed : supposing = false ↔
        ∀ p ∈ d.lines, RestsOn d.lines line p → p ∈ d.premises := by
      rw [← Bool.not_eq_true, spec]
      constructor
      · intro none p inside rests
        refine (wf.premise_or_supposition inside rests.bare).resolve_right fun supposed => ?_
        exact none ⟨p, inside, rests, supposed⟩
      · rintro premises ⟨p, inside, rests, supposed⟩
        have assumed := (wf.premise p (premises p inside rests)).1
        simp [Line.isSupposition, assumed] at supposed
    by_cases same : line.formula.Same d.conclusion
    · simp [same, decides, closed]
    · simp [same]

end WellFormed
end Derivation

open NaturalDeduction.Derivation

/-- Every line of a reachable derivation is true wherever the lines it rests on are true. So a
finished derivation shows that the premises its last line rests on entail the conclusion. -/
theorem reachable_sound {d : Derivation} (reachable : d.Reachable) :
    (∀ line ∈ d.lines, ∃ indices, line.dependencies d.lines = .ok indices ∧
      ∀ v : Valuation, (∀ p ∈ d.lines, p.index ∈ indices → p.formula.eval v = true) →
        line.formula.eval v = true) ∧
    (d.qed = .ok true → d.conclusion.Lettered →
      ∃ last indices, d.last? = some last ∧ last.dependencies d.lines = .ok indices ∧
        Entailed ((d.premises.filter (·.index ∈ indices)).map Line.formula) d.conclusion) := by
  have wf := reachable.wellFormed
  constructor
  · intro line member
    obtain ⟨indices, resolves, lists⟩ := dependencies_spec wf.numbered member
    refine ⟨indices, resolves, fun v grounds => wf.holds member fun p inside rests => ?_⟩
    exact grounds p inside ((lists.index_mem wf.numbered inside).mpr rests)
  · intro finished lettered
    obtain ⟨last, isLast, same, premises⟩ := wf.qed_eq_true_iff.mp finished
    have member := WellFormed.last_mem isLast
    obtain ⟨indices, resolves, lists⟩ := dependencies_spec wf.numbered member
    refine ⟨last, indices, isLast, resolves, fun v grounds => ?_⟩
    rw [← (same_iff_eq (wf.lettered last member) lettered).mp same]
    refine wf.holds member fun p inside rests => grounds _ (List.mem_map_of_mem ?_)
    have listed := (lists.index_mem wf.numbered inside).mpr rests
    exact List.mem_filter.mpr ⟨premises p inside rests, by simpa using listed⟩

/-- From A → B, C and -B to -A: the supposition A, a refused line, two lines at once, and the
discharge. -/
def refutation : Derivation :=
  let a := atom "A"
  let b := atom "B"
  let premises := [⟨0, .imp a b, .assumption, []⟩, ⟨1, atom "C", .assumption, []⟩,
    ⟨2, .neg b, .assumption, []⟩]
  let calls := [.add ⟨.tree a, "S", []⟩, .add ⟨.tree b, "& O", [0]⟩,
    .addAll [⟨.tree b, "→O", [3, 0]⟩, ⟨.tree (.conj b (.neg b)), "& I", [4, 2]⟩],
    .add ⟨.tree (.neg a), "- I", [3, 5]⟩]
  calls.foldl Derivation.call ⟨premises, .neg a, []⟩

theorem refutation_sound :
    refutation.Reachable ∧ refutation.qed = .ok true ∧ refutation.conclusion.Lettered ∧
    Entailed [.imp (atom "A") (atom "B"), .neg (atom "B")] (.neg (atom "A")) := by
  have a : (atom "A").Lettered := ⟨'A', by decide, rfl⟩
  have b : (atom "B").Lettered := ⟨'B', by decide, rfl⟩
  have c : (atom "C").Lettered := ⟨'C', by decide, rfl⟩
  have conditional : (Formula.imp (atom "A") (atom "B")).Lettered := ⟨a, b⟩
  have contradiction : (Formula.conj (atom "B") (.neg (atom "B"))).Lettered := ⟨b, b⟩
  have reachable : refutation.Reachable := by
    refine Reachable.calls (@Reachable.start [.tree (.imp (atom "A") (atom "B")),
      .tree (atom "C"), .tree (.neg (atom "B"))] (.tree (.neg (atom "A"))) _ ?_ rfl) ?_
    · simp [Statement.Lettered, conditional, b, c, lettered_neg]
    · simp [Call.Lettered, Statement.Lettered, contradiction, a, b, lettered_neg]
  have finished : refutation.qed = .ok true := by rfl
  obtain ⟨last, indices, isLast, resolves, entails⟩ := (reachable_sound reachable).2 finished a
  cases isLast
  cases resolves
  exact ⟨reachable, finished, a, entails⟩

end NaturalDeduction
