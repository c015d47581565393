import Mathlib.Logic.Equiv.Basic
import NaturalDeduction.Proofs.Substitution

/-! The order of independent lines does not matter. What a line rests on and what its rule accepts
follow the lines under any one-to-one renaming of indices, whatever order the renamed citations
then come in, as long as every line still stands after those it cites. Exchanging two neighbours of
which the second does not cite the first is such a renaming. -/
namespace NaturalDeduction
open Outcome

namespace Line
variable {σ : Int → Int} {line p : Line}

def renumber (σ : Int → Int) (line : Line) : Line :=
  .citing (σ line.index) line.formula line.rule (line.citations.map σ)

@[simp] theorem index_renumber (σ : Int → Int) (line : Line) :
    (line.renumber σ).index = σ line.index := rfl

@[simp] theorem formula_renumber (σ : Int → Int) (line : Line) :
    (line.renumber σ).formula = line.formula := rfl

@[simp] theorem rule_renumber (σ : Int → Int) (line : Line) :
    (line.renumber σ).rule = line.rule := rfl

@[simp] theorem isSupposition_renumber (σ : Int → Int) (line : Line) :
    (line.renumber σ).isSupposition = line.isSupposition := rfl

theorem mem_citations_renumber {i : Int} :
    i ∈ (line.renumber σ).citations ↔ ∃ j ∈ line.citations, σ j = i := by
  simp [renumber, citing]

theorem mem_citations_renumber_apply (injective : Function.Injective σ) {i : Int} :
    σ i ∈ (line.renumber σ).citations ↔ i ∈ line.citations := by
  simp [renumber, citing, injective.eq_iff]

theorem citations_renumber_eq_nil :
    (line.renumber σ).citations = [] ↔ line.citations = [] := by
  simp [List.eq_nil_iff_forall_not_mem, mem_citations_renumber]

theorem drops_renumber (injective : Function.Injective σ) :
    (line.renumber σ).Drops (p.renumber σ) ↔ line.Drops p := by
  simp only [Drops, rule_renumber, index_renumber, isSupposition_renumber,
    mem_citations_renumber_apply injective]

theorem renumber_of_fixed (sorted : line.citations.Pairwise (· ≤ ·))
    (index : σ line.index = line.index) (citations : ∀ i ∈ line.citations, σ i = i) :
    line.renumber σ = line := by
  have same : line.citations.map σ = line.citations :=
    (List.map_congr_left citations).trans (List.map_id _)
  rw [renumber, citing, index, same, Ascending.sort_eq_insertionSort, sorted.insertionSort_eq]

end Line

section Renumbering
variable {σ : Int → Int} {lines renumbered : List Line} {line : Line}
  (injective : Function.Injective σ) (perm : renumbered.Perm (lines.map (Line.renumber σ)))
include perm

theorem mem_renumbered {q : Line} : q ∈ renumbered ↔ ∃ p ∈ lines, p.renumber σ = q := by
  rw [perm.mem_iff, List.mem_map]

include injective

theorem RestsOn.renumber {p : Line} (rests : RestsOn lines line p) :
    RestsOn renumbered (line.renumber σ) (p.renumber σ) := by
  induction rests with
  | self bare => exact .self (Line.citations_renumber_eq_nil.mpr bare)
  | through cited cites _ keeps ih =>
    refine .through ((mem_renumbered perm).mpr ⟨_, cited, rfl⟩) ?_ ih ?_
    · exact (Line.mem_citations_renumber_apply injective).mpr cites
    · rwa [Line.drops_renumber injective]

theorem RestsOn.exists_of_renumber {q : Line} (rests : RestsOn renumbered (line.renumber σ) q) :
    ∃ p, p.renumber σ = q ∧ RestsOn lines line p := by
  generalize same : line.renumber σ = line' at rests
  induction rests generalizing line with
  | self bare =>
    rw [← same, Line.citations_renumber_eq_nil] at bare
    exact ⟨line, same, .self bare⟩
  | @through line' cited' q there cites _ keeps ih =>
    obtain ⟨cited, inside, rfl⟩ := (mem_renumbered perm).mp there
    obtain ⟨p, rfl, rests⟩ := ih rfl
    subst same
    rw [Line.drops_renumber injective] at keeps
    exact ⟨p, rfl, .through inside ((Line.mem_citations_renumber_apply injective).mp cites) rests
      keeps⟩

theorem Lists.renumber {indices : List Int} (member : line ∈ lines)
    (lists : Lists lines line indices) :
    Lists renumbered (line.renumber σ) (Ascending.sort (indices.map σ)) where
  increasing := by
    have distinct : (indices.map σ).Nodup := by
      refine List.pairwise_map.mpr (lists.increasing.imp fun less same => ?_)
      exact Int.ne_of_lt less (injective same)
    rw [Ascending.sort_eq_insertionSort]
    have sorted := List.pairwise_insertionSort (· ≤ ·) (indices.map σ)
    have still := (List.perm_insertionSort (· ≤ ·) (indices.map σ)).nodup_iff.mpr distinct
    refine (sorted.and still).imp fun ⟨le, ne⟩ => ?_
    omega
  mem_iff i := by
    rw [Ascending.mem_sort, List.mem_map]
    constructor
    · rintro ⟨j, listed, rfl⟩
      obtain ⟨p, inside, rfl, rests⟩ := (lists.mem_iff j).mp listed
      exact ⟨p.renumber σ, (mem_renumbered perm).mpr ⟨p, inside, rfl⟩, rfl,
        rests.renumber injective perm⟩
    · rintro ⟨q, -, rfl, rests⟩
      obtain ⟨p, rfl, before⟩ := RestsOn.exists_of_renumber injective perm rests
      exact ⟨p.index, (lists.mem_iff _).mpr ⟨p, before.mem member, rfl, before⟩, rfl⟩

theorem dependencies_renumber (numbered : Numbered lines) (renumberedToo : Numbered renumbered)
    (member : line ∈ lines) :
    ∃ indices, line.dependencies lines = .ok indices ∧
      (line.renumber σ).dependencies renumbered = .ok (Ascending.sort (indices.map σ)) := by
  obtain ⟨indices, resolves, lists⟩ := dependencies_spec numbered member
  have there : line.renumber σ ∈ renumbered := (mem_renumbered perm).mpr ⟨line, member, rfl⟩
  exact ⟨indices, resolves, (lists.renumber injective perm member).resolves renumberedToo there⟩

theorem Rule.Check.Supports.renumber {a b s c : Line} (supports : Supports lines a b s c) :
    Supports renumbered (a.renumber σ) (b.renumber σ) (s.renumber σ) (c.renumber σ) where
  order := by
    rcases supports.order with ⟨rfl, rfl⟩ | ⟨rfl, rfl⟩
    · exact .inl ⟨rfl, rfl⟩
    · exact .inr ⟨rfl, rfl⟩
  supposed := supports.supposed
  rests := supports.rests.renumber injective perm

end Renumbering

namespace Derivation
variable {d e : Derivation} {line : Line} {σ : Int → Int}

namespace WellFormed
variable (wf : d.WellFormed) (injective : Function.Injective σ)
  (perm : e.lines.Perm (d.lines.map (Line.renumber σ))) (numbered : Numbered e.lines)
include wf perm numbered

theorem cited_renumber (member : line ∈ d.lines) :
    (e.cited (line.renumber σ).citations).Perm
      ((d.cited line.citations).map (Line.renumber σ)) := by
  have inside : ∀ c ∈ (d.cited line.citations).map (Line.renumber σ), c ∈ e.lines := by
    intro c found
    obtain ⟨original, there, rfl⟩ := List.mem_map.mp found
    exact (mem_renumbered perm).mpr ⟨original, mem_of_cited there, rfl⟩
  have indices : ((d.cited line.citations).map (Line.renumber σ)).map Line.index =
      line.citations.map σ := by
    conv_rhs => rw [← map_index_cited wf.numbered (wf.within member)]
    simp
  have sorted := cited_sorted_perm numbered inside
  rwa [indices] at sorted

include injective

/-- A rule accepts after the renaming what it accepted before, though its citations may come in
another order. -/
theorem evaluate_renumber (member : line ∈ d.deductions) :
    line.rule.evaluate e.lines line.formula (e.cited (line.renumber σ).citations) = .ok () := by
  have inside : line ∈ d.lines := List.mem_append_right _ member
  have order := wf.cited_renumber perm numbered inside
  have lettered : ∀ c ∈ e.lines, c.formula.Lettered := by
    intro c there
    obtain ⟨original, before, rfl⟩ := (mem_renumbered perm).mp there
    exact wf.lettered original before
  have suppositions : ∀ c ∈ e.lines, c.isSupposition = true → c.citations = [] := by
    intro c there supposed
    obtain ⟨original, before, rfl⟩ := (mem_renumbered perm).mp there
    exact Line.citations_renumber_eq_nil.mpr (wf.bare_of_supposition before supposed)
  rw [Rule.evaluate_iff_infers numbered lettered suppositions (fun c => mem_of_cited)
    (wf.lettered line inside)]
  cases wf.infers inside with
  | bare none empty =>
    rw [empty] at order
    exact .bare none order.eq_nil
  | schema fits schema =>
    refine .schema (fits.trans ?_) schema
    simpa [Function.comp_def] using (order.map Line.formula).symm
  | discharge two supports discharge =>
    have after := supports.renumber injective perm
    rw [two] at order
    rcases perm_pair.mp order with same | same
    · exact .discharge same after discharge
    · exact .discharge same ⟨after.order.symm, after.supposed, after.rests⟩ discharge

end WellFormed
end Derivation

def exchange (k : Int) : Equiv.Perm Int := Equiv.swap k (k + 1)

theorem exchange_of_ne {k i : Int} (first : i ≠ k) (second : i ≠ k + 1) : exchange k i = i :=
  Equiv.swap_apply_of_ne_of_ne first second

theorem exchange_nonneg {k i : Int} (hk : 0 ≤ k) (hi : 0 ≤ i) : 0 ≤ exchange k i := by
  rw [exchange, Equiv.swap_apply_def]
  repeat' split
  all_goals omega

theorem exchange_lt {k i j : Int} (less : i < j) (apart : ¬ (i = k ∧ j = k + 1)) :
    exchange k i < exchange k j := by
  rw [exchange, Equiv.swap_apply_def, Equiv.swap_apply_def]
  repeat' split
  all_goals omega

section Neighbours
variable {earlier later : List Line} {first second line : Line}

theorem Numbered.index_of_split (numbered : Numbered (earlier ++ line :: later)) :
    line.index = earlier.length := by
  refine numbered.index_eq earlier.length line ?_
  rw [List.getElem?_append_right (Nat.le_refl _), Nat.sub_self]
  rfl

variable (numbered : Numbered (earlier ++ first :: second :: later))
  (independent : (earlier.length : Int) ∉ second.citations)
include numbered

theorem Numbered.index_of_split_next : second.index = earlier.length + 1 := by
  have split : earlier ++ first :: second :: later = (earlier ++ [first]) ++ second :: later := by
    simp
  rw [split] at numbered
  simpa using numbered.index_of_split

theorem Numbered.exchange_index_eq (n : Nat)
    (there : (earlier ++ second :: first :: later)[n]? = some line) :
    exchange earlier.length line.index = n := by
  by_cases before : n < earlier.length
  · rw [List.getElem?_append_left before] at there
    have index : line.index = n :=
      numbered.index_eq n line (by rw [List.getElem?_append_left before, there])
    rw [index]
    exact exchange_of_ne (by omega) (by omega)
  · obtain ⟨m, rfl⟩ := Nat.exists_eq_add_of_le (Nat.le_of_not_lt before)
    rw [List.getElem?_append_right (Nat.le_add_right ..), Nat.add_sub_cancel_left] at there
    match m with
    | 0 =>
      cases there
      rw [numbered.index_of_split_next]
      exact Equiv.swap_apply_right ..
    | 1 =>
      cases there
      rw [numbered.index_of_split]
      exact Equiv.swap_apply_left ..
    | m + 2 =>
      have index : line.index = (earlier.length + (m + 2) : Nat) := by
        refine numbered.index_eq _ line ?_
        rw [List.getElem?_append_right (Nat.le_add_right ..), Nat.add_sub_cancel_left]
        exact there
      rw [index]
      exact exchange_of_ne (by omega) (by omega)

include independent

theorem Numbered.exchange_earlier (member : line ∈ earlier ++ first :: second :: later) {i : Int}
    (cites : i ∈ line.citations) :
    0 ≤ exchange earlier.length i ∧
      exchange earlier.length i < exchange earlier.length line.index := by
  obtain ⟨low, high⟩ := numbered.earlier line member i cites
  refine ⟨exchange_nonneg (by omega) low, exchange_lt high ?_⟩
  -- only the second of the two could cite the first
  rintro ⟨rfl, index⟩
  have same : line = second :=
    numbered.eq_of_index member (by simp) (index.trans numbered.index_of_split_next.symm)
  exact independent (same ▸ cites)

theorem Numbered.exchanged :
    Numbered ((earlier ++ second :: first :: later).map (Line.renumber (exchange earlier.length)))
    where
  index_eq n line found := by
    rw [List.getElem?_map] at found
    obtain ⟨original, there, rfl⟩ := Option.map_eq_some_iff.mp found
    exact numbered.exchange_index_eq n there
  earlier line member i cites := by
    obtain ⟨original, there, rfl⟩ := List.mem_map.mp member
    obtain ⟨j, cited, rfl⟩ := Line.mem_citations_renumber.mp cites
    have before : original ∈ earlier ++ first :: second :: later := by
      simpa [or_left_comm] using there
    exact numbered.exchange_earlier independent before cited

/-- Up to the two lines, nothing cites either of them. -/
theorem Numbered.cites_before (member : line ∈ earlier ++ [first, second]) :
    ∀ i ∈ line.citations, i < earlier.length := by
  intro i cites
  have inside : line ∈ earlier ++ first :: second :: later := by
    have split : earlier ++ first :: second :: later = (earlier ++ [first, second]) ++ later := by
      simp
    exact split ▸ List.mem_append_left later member
  have before := (numbered.earlier line inside i cites).2
  have next := numbered.index_of_split_next
  rcases List.mem_append.mp member with sooner | either
  · obtain ⟨n, bound, -, index⟩ := numbered.of_append.position sooner
    omega
  · have same : line = first ∨ line = second := by simpa using either
    rcases same with rfl | rfl
    · have index := numbered.index_of_split
      omega
    · have other : i ≠ earlier.length := fun same => independent (same ▸ cites)
      omega

end Neighbours

def Line.move (line : Line) : Move := ⟨line.formula, line.rule, line.citations⟩

def Move.rename (σ : Int → Int) (move : Move) : Move :=
  { move with citations := move.citations.map σ }

theorem Line.asks_rename (σ : Int → Int) (line : Line) :
    (line.move.rename σ).step.Asks (line.renumber σ) :=
  Move.asks_step.mpr rfl

theorem Move.rename_of_lt {move : Move} {k : Int} (below : ∀ i ∈ move.citations, i < k) :
    move.rename (exchange k) = move := by
  have same : move.citations.map (exchange k) = move.citations := by
    refine (List.map_congr_left fun i cites => ?_).trans (List.map_id _)
    have less := below i cites
    exact exchange_of_ne (by omega) (by omega)
  rw [rename, same]

def Derivation.exchanged (d : Derivation) (k : Int) (before after : List Line)
    (first second : Line) : Derivation :=
  d.clear.grow ((before ++ second :: first :: after).map (Line.renumber (exchange k)))

namespace Derivation.WellFormed
variable {d : Derivation} {before after : List Line} {first second : Line} {k : Int}
  (wf : d.WellFormed) (consecutive : d.deductions = before ++ first :: second :: after)
include wf consecutive

theorem numbered_split : Numbered (d.premises ++ before ++ first :: second :: after) := by
  have lines : d.lines = d.premises ++ before ++ first :: second :: after := by
    simp [Derivation.lines, consecutive]
  exact lines ▸ wf.numbered

variable (position : k = (d.premises ++ before).length)
include position

theorem premises_renumber : d.premises.map (Line.renumber (exchange k)) = d.premises := by
  refine (List.map_congr_left fun line member => ?_).trans (List.map_id _)
  have empty := (wf.premise line member).2
  have split := (wf.numbered_split consecutive).of_append
  obtain ⟨n, bound, -, index⟩ := split.position (List.mem_append_left before member)
  refine Line.renumber_of_fixed (by simp [empty]) ?_ (by simp [empty])
  exact exchange_of_ne (by omega) (by omega)

theorem lines_exchanged :
    (d.exchanged k before after first second).lines =
      (d.premises ++ before ++ second :: first :: after).map (Line.renumber (exchange k)) := by
  have premises := wf.premises_renumber consecutive position
  rw [exchanged, lines_grow, lines_clear, List.append_assoc]
  conv_rhs => rw [List.map_append, premises]

theorem perm_exchanged :
    (d.exchanged k before after first second).lines.Perm
      (d.lines.map (Line.renumber (exchange k))) := by
  rw [wf.lines_exchanged consecutive position, Derivation.lines, consecutive, ← List.append_assoc]
  exact ((List.Perm.swap ..).append_left _).map _

variable (independent : k ∉ second.citations)
include independent

theorem numbered_exchanged : Numbered (d.exchanged k before after first second).lines := by
  rw [wf.lines_exchanged consecutive position, position]
  exact (wf.numbered_split consecutive).exchanged (position ▸ independent)

theorem moves_exchanged :
    before.map Line.move ++ second.move :: first.move ::
      after.map (fun line => line.move.rename (exchange k)) =
      (before ++ second :: first :: after).map fun line => line.move.rename (exchange k) := by
  have kept {line : Line} (member : line ∈ d.premises ++ before ++ [first, second]) :
      line.move.rename (exchange k) = line.move := by
    refine Move.rename_of_lt fun i cites => ?_
    rw [position]
    exact (wf.numbered_split consecutive).cites_before (position ▸ independent) member i cites
  have sooner : before.map (fun line => line.move.rename (exchange k)) = before.map Line.move :=
    List.map_congr_left fun line member => kept (by simp [member])
  rw [List.map_append, List.map_cons, List.map_cons, sooner, kept (by simp), kept (by simp)]

theorem addAll_exchanged :
    d.clear.addAll ((before.map Line.move ++ second.move :: first.move ::
        after.map fun line => line.move.rename (exchange k)).map Move.step) =
      ⟨d.exchanged k before after first second, none⟩ := by
  have numbered := wf.numbered_exchanged consecutive position independent
  refine (addAll_eq_iff wf.clear.numbered).mpr ⟨_, rfl, numbered, ?_, ?_⟩
  · rw [wf.moves_exchanged consecutive position independent, List.map_map,
      List.forall₂_map_left_iff, List.forall₂_map_right_iff, List.forall₂_same]
    exact fun line _ => line.asks_rename (exchange k)
  · intro line member
    have inside : line ∈ (d.exchanged k before after first second).lines :=
      List.mem_append_right _ (List.mem_append_right _ member)
    obtain ⟨original, there, rfl⟩ := List.mem_map.mp member
    have deduced : original ∈ d.deductions := by
      rw [consecutive]
      simpa [or_left_comm] using there
    exact ⟨(wf.deduction original deduced).derived, numbered.earlier _ inside,
      wf.evaluate_renumber (exchange k).injective (wf.perm_exchanged consecutive position) numbered
        deduced⟩

end Derivation.WellFormed

open Formula NaturalDeduction.Derivation

/-- Two neighbouring deductions of which the second does not cite the first can be submitted in the
other order, with the citations of the two exchanged in all later lines: every line is accepted, by
the same rule and with the same formula, and rests on the same lines under their new numbers. -/
theorem independent_lines_commute {d : Derivation} (reachable : d.Reachable)
    {before after : List Line} {first second : Line} {k : Int}
    (consecutive : d.deductions = before ++ first :: second :: after)
    (position : k = (d.premises ++ before).length) (independent : k ∉ second.citations) :
    start (d.premises.map fun line => .stated (.tree line.formula)) (.tree d.conclusion) =
      .ok d.clear ∧
    ∃ e, d.clear.addAll ((before.map Line.move ++ second.move :: first.move ::
        after.map fun line => line.move.rename (exchange k)).map Move.step) = ⟨e, none⟩ ∧
      List.Forall₂ (fun line line' => line'.rule = line.rule ∧ line'.formula = line.formula ∧
        ∃ indices, line.dependencies d.lines = .ok indices ∧
          line'.dependencies e.lines = .ok (Ascending.sort (indices.map (exchange k))))
        (d.premises ++ before ++ second :: first :: after) e.lines := by
  have wf := reachable.wellFormed
  refine ⟨wf.start_eq_clear (fun line => .tree line.formula) (fun _ _ => rfl) rfl, _,
    wf.addAll_exchanged consecutive position independent, ?_⟩
  have perm := wf.perm_exchanged consecutive position
  have numbered := wf.numbered_exchanged consecutive position independent
  conv => arg 3; rw [wf.lines_exchanged consecutive position]
  rw [List.forall₂_map_right_iff, List.forall₂_same]
  intro line member
  have inside : line ∈ d.lines := by
    simpa [Derivation.lines, consecutive, or_left_comm] using member
  exact ⟨rfl, rfl, dependencies_renumber (exchange k).injective perm wf.numbered numbered inside⟩

/-- The two suppositions in the other order, so that the later lines cite them the other way
round. -/
theorem nested_suppositions_commute :
    ∃ first second after, nested.deductions = [] ++ first :: second :: after ∧
      1 ∉ second.citations ∧ nested.Reachable ∧
      ∃ e, nested.clear.addAll
        ([⟨atom "B", .supposition, []⟩, ⟨atom "A", .supposition, []⟩,
          ⟨.conj (atom "B") (atom "A"), .conjIntro, [2, 1]⟩, ⟨atom "C", .impElim, [0, 3]⟩,
          ⟨.imp (atom "B") (atom "C"), .impIntro, [1, 4]⟩,
          ⟨.imp (atom "A") (.imp (atom "B") (atom "C")), .impIntro, [2, 5]⟩].map Move.step) =
          ⟨e, none⟩ ∧
        e.lines.map (·.dependencies e.lines) =
          [.ok [0], .ok [1], .ok [2], .ok [1, 2], .ok [0, 1, 2], .ok [0, 2], .ok [0]] := by
  have consecutive : nested.deductions = [] ++ ⟨1, atom "A", .supposition, []⟩ ::
      ⟨2, atom "B", .supposition, []⟩ :: nested.deductions.drop 2 := by rfl
  have independent : (1 : Int) ∉ (⟨2, atom "B", .supposition, []⟩ : Line).citations := by simp
  obtain ⟨-, e, accepted, lines⟩ := independent_lines_commute nested_reachable consecutive rfl
    independent
  refine ⟨_, _, _, consecutive, independent, nested_reachable, e, accepted, ?_⟩
  cases accepted
  rfl

end NaturalDeduction
