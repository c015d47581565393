import NaturalDeduction.Proofs.Growth

/-! Suppositions and their discharge in derivations that can be reached. A supposition rests on
itself alone and no line rests on a later one. So the discharging rules, which settle on the first
supposition cited, accept whenever some reading of the two citations fits; and a line that they
accept rests on what the derived line rests on, with that one supposition removed. -/
namespace NaturalDeduction
open Outcome Formula

theorem Rule.discharges_iff_mem {rule : Rule} :
    rule.discharges = true ↔ rule ∈ [.impIntro, .negIntro, .negElim] := by
  cases rule <;> decide

structure Dischargeable (lines : List Line) (a b s c : Line) : Prop where
  order : s = a ∧ c = b ∨ s = b ∧ c = a
  supposed : s.rule = .supposition
  listed : ∃ indices, c.dependencies lines = .ok indices ∧ s.index ∈ indices

theorem dischargeable_iff {lines : List Line} {a b s c : Line} (numbered : Numbered lines)
    (ha : a ∈ lines) (hb : b ∈ lines) :
    Dischargeable lines a b s c ↔ Rule.Check.Supports lines a b s c := by
  have listed (order : s = a ∧ c = b ∨ s = b ∧ c = a) :
      (∃ indices, c.dependencies lines = .ok indices ∧ s.index ∈ indices) ↔
        RestsOn lines c s := by
    have members : s ∈ lines ∧ c ∈ lines := by
      rcases order with ⟨rfl, rfl⟩ | ⟨rfl, rfl⟩
      · exact ⟨ha, hb⟩
      · exact ⟨hb, ha⟩
    obtain ⟨indices, resolves, lists⟩ := dependencies_spec numbered members.2
    simp [resolves, lists.index_mem numbered members.1]
  constructor
  · intro dischargeable
    have order := dischargeable.order
    exact ⟨order, by simp [Line.isSupposition, dischargeable.supposed],
      (listed order).mp dischargeable.listed⟩
  · intro supports
    exact ⟨supports.order, by simpa [Line.isSupposition] using supports.supposed,
      (listed supports.order).mpr supports.rests⟩

theorem Lists.without {lines : List Line} {line s c : Line} {indices : List Int}
    (lists : Lists lines c indices) (numbered : Numbered lines) (inS : s ∈ lines)
    (rests : ∀ p, RestsOn lines line p ↔ RestsOn lines c p ∧ p ≠ s) :
    Lists lines line (indices.filter (· ≠ s.index)) where
  increasing := lists.increasing.filter _
  mem_iff i := by
    rw [List.mem_filter, lists.mem_iff, decide_eq_true_eq]
    constructor
    · rintro ⟨⟨p, inside, rfl, reached⟩, other⟩
      exact ⟨p, inside, rfl, (rests p).mpr ⟨reached, fun same => other (congrArg _ same)⟩⟩
    · rintro ⟨p, inside, rfl, below⟩
      obtain ⟨reached, other⟩ := (rests p).mp below
      exact ⟨⟨p, inside, rfl, reached⟩, fun same => other (numbered.eq_of_index inside inS same)⟩

namespace Derivation.WellFormed
variable {d : Derivation} {line : Line}

theorem exists_supposition_first (wf : d.WellFormed) (member : line ∈ d.deductions)
    (discharges : line.rule.discharges = true) :
    ∃ s ∈ d.lines, ∃ c ∈ d.lines, line.citations = [s.index, c.index] ∧ s.index ≤ c.index ∧
      s.isSupposition = true ∧ RestsOn d.lines c s ∧
      ∀ p, RestsOn d.lines line p ↔ RestsOn d.lines c p ∧ p ≠ s := by
  have inside : line ∈ d.lines := List.mem_append_right _ member
  obtain ⟨a, b, two, s, c, supports, -⟩ :=
    (wf.accepts_iff_discharge (fun _ => mem_of_cited) discharges (wf.lettered line inside)).mp
      (wf.deduction line member).accepted
  have citations : line.citations = [a.index, b.index] := by
    rw [← map_index_cited wf.numbered (wf.within inside), two]
    rfl
  have ascending : a.index ≤ b.index := by
    have sorted := wf.sorted line inside
    rw [citations] at sorted
    simpa using sorted
  have ha : a ∈ d.lines := mem_of_cited (two ▸ List.mem_cons_self ..)
  have hb : b ∈ d.lines := mem_of_cited (two ▸ List.mem_cons_of_mem _ (List.mem_cons_self ..))
  have rests (p : Line) := wf.rests_iff_of_supports (p := p) inside two supports discharges
  rcases supports with ⟨⟨rfl, rfl⟩ | ⟨rfl, rfl⟩, supposed, derived⟩
  · exact ⟨s, ha, c, hb, citations, ascending, supposed, derived, rests⟩
  · -- the derived line is not before the supposition, so they are one line
    have before := derived.index_le wf.numbered ha
    have same : s.index = c.index := by omega
    exact ⟨s, hb, c, ha, by rw [citations, same], before, supposed, derived, rests⟩

theorem exists_union (wf : d.WellFormed) (inside : line ∈ d.lines) (cites : line.citations ≠ [])
    (keeps : line.rule.discharges = false) :
    ∃ inherited indices, (d.cited line.citations).mapM (Line.dependencies d.lines) = .ok inherited ∧
      line.dependencies d.lines = .ok indices ∧ indices.Pairwise (· < ·) ∧
      ∀ i, i ∈ indices ↔ ∃ one ∈ inherited, i ∈ one := by
  have found : ∀ c ∈ d.cited line.citations, ∃ indices, c.dependencies d.lines = .ok indices ∧
      ∀ i, i ∈ indices ↔ ∃ p ∈ d.lines, p.index = i ∧ RestsOn d.lines c p := by
    intro c member
    obtain ⟨indices, resolves, lists⟩ := dependencies_spec wf.numbered (mem_of_cited member)
    exact ⟨indices, resolves, lists.mem_iff⟩
  obtain ⟨inherited, gathers, members⟩ := gather_spec found
  obtain ⟨indices, resolves, lists⟩ := dependencies_spec wf.numbered inside
  refine ⟨inherited, indices, gathers, resolves, lists.increasing, fun i => ?_⟩
  rw [← List.mem_flatten, members, lists.mem_iff]
  have kept (p : Line) : ¬ line.Drops p := by simp [Line.Drops, keeps]
  simp only [RestsOn.iff_of_cites cites, kept, not_false_eq_true, and_true,
    wf.mem_cited_iff inside]
  constructor
  · rintro ⟨p, there, same, c, member, listed, rests⟩
    exact ⟨c, ⟨member, listed⟩, p, there, same, rests⟩
  · rintro ⟨c, ⟨member, listed⟩, p, there, same, rests⟩
    exact ⟨p, there, same, c, member, listed, rests⟩

end Derivation.WellFormed

open NaturalDeduction.Derivation

/-- The discharging rules accept two citations exactly when one of them is a supposition on which
the other is listed to rest, and the formula is what the rule gives from the two. -/
theorem discharging_accepts_iff {d : Derivation} {f : Formula} {a b : Line}
    (reachable : d.Reachable) (hf : f.Lettered) (ha : a ∈ d.lines) (hb : b ∈ d.lines) :
    (Rule.impIntro.evaluate d.lines f [a, b] = .ok () ↔
      ∃ s c, Dischargeable d.lines a b s c ∧ f = .imp s.formula c.formula) ∧
    (Rule.negIntro.evaluate d.lines f [a, b] = .ok () ↔
      ∃ s c, Dischargeable d.lines a b s c ∧ f = .neg s.formula ∧ Contradictory c.formula) ∧
    (Rule.negElim.evaluate d.lines f [a, b] = .ok () ↔
      ∃ s c, Dischargeable d.lines a b s c ∧ s.formula = .neg f ∧ Contradictory c.formula) := by
  have wf := reachable.wellFormed
  have inside : ∀ line ∈ [a, b], line ∈ d.lines := by simp [ha, hb]
  have accepts (rule : Rule) (discharges : rule.discharges = true) :
      rule.evaluate d.lines f [a, b] = .ok () ↔
        ∃ s c, Dischargeable d.lines a b s c ∧ rule.Discharge f s.formula c.formula := by
    rw [wf.accepts_iff_discharge inside discharges hf]
    simp [dischargeable_iff wf.numbered ha hb]
  refine ⟨?_, ?_, ?_⟩
  · simpa only [Rule.discharge_impIntro] using accepts .impIntro rfl
  · simpa only [Rule.discharge_negIntro] using accepts .negIntro rfl
  · simpa only [Rule.discharge_negElim] using accepts .negElim rfl

def twoSuppositions : Derivation :=
  [.add ⟨.text "B", "S", []⟩, .add ⟨.text "A & -A", "S", []⟩].foldl Derivation.call
    ⟨[], .neg (.conj (atom "A") (.neg (atom "A"))), []⟩

theorem twoSuppositions_discharged :
    let absurd : Line := ⟨1, .conj (atom "A") (.neg (atom "A")), .supposition, []⟩
    let other : Line := ⟨0, atom "B", .supposition, []⟩
    twoSuppositions.Reachable ∧ (Formula.neg absurd.formula).Lettered ∧
    (Formula.neg other.formula).Lettered ∧
    absurd ∈ twoSuppositions.lines ∧ other ∈ twoSuppositions.lines ∧
    Rule.negIntro.evaluate twoSuppositions.lines (.neg absurd.formula) [absurd, absurd] = .ok () ∧
    Rule.negIntro.evaluate twoSuppositions.lines (.neg other.formula) [other, absurd] ≠ .ok () := by
  intro absurd other
  have a : (atom "A").Lettered := ⟨'A', by decide, rfl⟩
  have b : (atom "B").Lettered := ⟨'B', by decide, rfl⟩
  have reachable : twoSuppositions.Reachable := by
    refine Reachable.calls (@Reachable.start [] (.text "-(A & -A)") _ (by simp) rfl) ?_
    simp [Call.Lettered, Statement.Lettered]
  have inAbsurd : absurd ∈ twoSuppositions.lines := List.mem_of_getElem? (i := 1) rfl
  have inOther : other ∈ twoSuppositions.lines := List.mem_of_getElem? (i := 0) rfl
  have letteredAbsurd : (Formula.neg absurd.formula).Lettered := ⟨a, a⟩
  have letteredOther : (Formula.neg other.formula).Lettered := b
  refine ⟨reachable, letteredAbsurd, letteredOther, inAbsurd, inOther, ?_, ?_⟩
  · exact (discharging_accepts_iff reachable letteredAbsurd inAbsurd inAbsurd).2.1.mpr
      ⟨absurd, absurd, ⟨.inl ⟨rfl, rfl⟩, rfl, [1], rfl, by decide⟩, rfl, .left _⟩
  · intro accepted
    obtain ⟨s, c, ⟨⟨rfl, rfl⟩ | ⟨rfl, rfl⟩, -, indices, resolves, listed⟩, same, -⟩ :=
      (discharging_accepts_iff reachable letteredOther inOther inAbsurd).2.1.mp accepted
    · cases resolves
      revert listed
      decide
    · cases same

/-- A line that enters by a discharging rule cites first a supposition, then a line that rests on
it, and rests on what that line rests on with the supposition and nothing else removed. By any
other rule that cites lines, it rests on all that they rest on. -/
theorem discharge_removes_one {d : Derivation} {line : Line} (reachable : d.Reachable)
    (member : line ∈ d.deductions) :
    (line.rule ∈ [Rule.impIntro, .negIntro, .negElim] →
      ∃ s ∈ d.lines, ∃ c ∈ d.lines, line.citations = [s.index, c.index] ∧ s.index ≤ c.index ∧
        s.rule = .supposition ∧ ∃ indices, c.dependencies d.lines = .ok indices ∧
        s.index ∈ indices ∧ line.dependencies d.lines = .ok (indices.filter (· ≠ s.index))) ∧
    (line.rule ∉ [Rule.impIntro, .negIntro, .negElim] → line.citations ≠ [] →
      ∃ inherited indices,
        (d.cited line.citations).mapM (Line.dependencies d.lines) = .ok inherited ∧
        line.dependencies d.lines = .ok indices ∧ indices.Pairwise (· < ·) ∧
        ∀ i, i ∈ indices ↔ ∃ one ∈ inherited, i ∈ one) := by
  have wf := reachable.wellFormed
  have inside : line ∈ d.lines := List.mem_append_right _ member
  constructor
  · intro rule
    obtain ⟨s, inS, c, inC, citations, before, supposed, derived, rests⟩ :=
      wf.exists_supposition_first member (Rule.discharges_iff_mem.mpr rule)
    obtain ⟨indices, resolves, lists⟩ := dependencies_spec wf.numbered inC
    refine ⟨s, inS, c, inC, citations, before, by simpa [Line.isSupposition] using supposed,
      indices, resolves, (lists.index_mem wf.numbered inS).mpr derived, ?_⟩
    exact (lists.without wf.numbered inS rests).resolves wf.numbered inside
  · intro rule cites
    rw [← Rule.discharges_iff_mem, Bool.not_eq_true] at rule
    exact wf.exists_union inside cites rule

theorem nested_discharges_one :
    let derived : Line := ⟨4, atom "C", .impElim, [0, 3]⟩
    let line : Line := ⟨5, .imp (atom "B") (atom "C"), .impIntro, [2, 4]⟩
    nested.Reachable ∧ derived ∈ nested.deductions ∧ line ∈ nested.deductions ∧
    (∃ indices, derived.dependencies nested.lines = .ok indices ∧
      ∀ i, i ∈ indices ↔ ∃ one ∈ [[0], [1, 2]], i ∈ one) ∧
    line.dependencies nested.lines = .ok ([0, 1, 2].filter (· ≠ 2)) := by
  intro derived line
  have inDerived : derived ∈ nested.deductions := List.mem_of_getElem? (i := 3) rfl
  have inLine : line ∈ nested.deductions := List.mem_of_getElem? (i := 4) rfl
  have cited : (nested.cited derived.citations).mapM (Line.dependencies nested.lines) =
      .ok [[0], [1, 2]] := by rfl
  have resolved : derived.dependencies nested.lines = .ok [0, 1, 2] := by rfl
  obtain ⟨inherited, indices, gathers, resolves, -, union⟩ :=
    (discharge_removes_one nested_reachable inDerived).2 (by decide) (by decide)
  obtain ⟨s, -, c, inC, citations, -, -, others, resolvesC, -, removed⟩ :=
    (discharge_removes_one nested_reachable inLine).1 (by decide)
  obtain ⟨indexS, indexC⟩ : 2 = s.index ∧ 4 = c.index := by simpa [line] using citations
  have same : c = derived := nested_reachable.wellFormed.numbered.eq_of_index inC
    (List.mem_append_right _ inDerived) indexC.symm
  cases cited.symm.trans gathers
  cases resolved.symm.trans (same ▸ resolvesC)
  rw [← indexS] at removed
  exact ⟨nested_reachable, inDerived, inLine, ⟨indices, resolves, union⟩, removed⟩

end NaturalDeduction
