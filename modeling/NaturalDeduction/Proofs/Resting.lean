import NaturalDeduction.Line
import NaturalDeduction.Proofs.Ascending
import NaturalDeduction.Proofs.Outcome

/-! What a line rests on, said without the table. A line that cites nothing rests on itself, and a
line rests on what some line it cites rests on, unless it discharges it. Where every line stands
at its index and cites earlier lines only, resolving never fails and lists exactly these indices
in increasing order; lines added at the end change nothing for those before them. -/
namespace NaturalDeduction
open Outcome

structure Numbered (lines : List Line) : Prop where
  index_eq : ∀ (n : Nat) (line : Line), lines[n]? = some line → line.index = n
  earlier : ∀ line ∈ lines, ∀ i ∈ line.citations, 0 ≤ i ∧ i < line.index

namespace Numbered

variable {lines more : List Line} {line other : Line}

theorem position (numbered : Numbered lines) (member : line ∈ lines) :
    ∃ n : Nat, n < lines.length ∧ lines[n]? = some line ∧ line.index = n := by
  obtain ⟨n, bound, rfl⟩ := List.getElem_of_mem member
  have found : lines[n]? = some lines[n] := List.getElem?_eq_getElem bound
  exact ⟨n, bound, found, numbered.index_eq n _ found⟩

theorem eq_of_index (numbered : Numbered lines) (first : line ∈ lines) (second : other ∈ lines)
    (same : line.index = other.index) : line = other := by
  obtain ⟨m, -, foundM, indexM⟩ := numbered.position first
  obtain ⟨n, -, foundN, indexN⟩ := numbered.position second
  have positions : m = n := by omega
  rw [positions, foundN] at foundM
  exact (Option.some.inj foundM).symm

theorem exists_of_lt (numbered : Numbered lines) {i : Int} (low : 0 ≤ i)
    (high : i < lines.length) : ∃ found ∈ lines, found.index = i := by
  have bound : i.toNat < lines.length := by omega
  have found : lines[i.toNat]? = some lines[i.toNat] := List.getElem?_eq_getElem bound
  refine ⟨lines[i.toNat], List.getElem_mem bound, ?_⟩
  rw [numbered.index_eq _ _ found]
  omega

theorem exists_cited (numbered : Numbered lines) (member : line ∈ lines) {i : Int}
    (cites : i ∈ line.citations) : ∃ found ∈ lines, found.index = i := by
  obtain ⟨n, bound, -, index⟩ := numbered.position member
  obtain ⟨low, high⟩ := numbered.earlier line member i cites
  exact numbered.exists_of_lt low (by omega)

theorem lineAt_index (numbered : Numbered lines) (member : line ∈ lines) :
    lineAt lines line.index = .ok line := by
  obtain ⟨n, -, found, index⟩ := numbered.position member
  have low : ¬ (n : Int) < 0 := by omega
  simp [lineAt, index, low, found]

theorem linesBefore_index (numbered : Numbered lines) (member : line ∈ lines) :
    linesBefore lines line.index = lines.take line.index.toNat := by
  obtain ⟨n, -, -, index⟩ := numbered.position member
  have low : ¬ (n : Int) < 0 := by omega
  simp [linesBefore, index, low]

theorem of_append (numbered : Numbered (lines ++ more)) : Numbered lines where
  index_eq n line found := by
    have bound : n < lines.length := (List.getElem?_eq_some_iff.mp found).1
    exact numbered.index_eq n line (by rw [List.getElem?_append_left bound, found])
  earlier line member := numbered.earlier line (List.mem_append_left more member)

theorem snoc (numbered : Numbered lines) (index : line.index = lines.length)
    (earlier : ∀ i ∈ line.citations, 0 ≤ i ∧ i < line.index) : Numbered (lines ++ [line]) where
  index_eq n found := by
    intro at_n
    by_cases bound : n < lines.length
    · rw [List.getElem?_append_left bound] at at_n
      exact numbered.index_eq n found at_n
    · rw [List.getElem?_append_right (by omega)] at at_n
      obtain ⟨last, rfl⟩ : n - lines.length = 0 ∧ line = found := by
        simpa [List.getElem?_singleton] using at_n
      omega
  earlier found member := by
    rcases List.mem_append.mp member with member | member
    · exact numbered.earlier found member
    · rw [List.mem_singleton.mp member]
      exact earlier

theorem iff_forall_lt : Numbered lines ↔ ∀ (n : Nat) (bound : n < lines.length),
    lines[n].index = n ∧ ∀ i ∈ lines[n].citations, 0 ≤ i ∧ i < lines[n].index := by
  constructor
  · intro numbered n bound
    exact ⟨numbered.index_eq n _ (List.getElem?_eq_getElem bound),
      numbered.earlier _ (List.getElem_mem bound)⟩
  · intro each
    refine ⟨fun n line found => ?_, fun line member => ?_⟩
    · obtain ⟨bound, rfl⟩ := List.getElem?_eq_some_iff.mp found
      exact (each n bound).1
    · obtain ⟨n, bound, rfl⟩ := List.getElem_of_mem member
      exact (each n bound).2

instance : Decidable (Numbered lines) := decidable_of_iff _ iff_forall_lt.symm

end Numbered

def Line.Drops (line p : Line) : Prop :=
  line.rule.discharges = true ∧ p.index ∈ line.citations ∧ p.isSupposition = true

inductive RestsOn (lines : List Line) : Line → Line → Prop where
  | self {line : Line} : line.citations = [] → RestsOn lines line line
  | through {line cited p : Line} : cited ∈ lines → cited.index ∈ line.citations →
      RestsOn lines cited p → ¬ line.Drops p → RestsOn lines line p

namespace RestsOn

variable {lines more : List Line} {line p : Line}

theorem bare (rests : RestsOn lines line p) : p.citations = [] := by
  induction rests with
  | self empty => exact empty
  | through _ _ _ _ ih => exact ih

theorem mem (member : line ∈ lines) (rests : RestsOn lines line p) : p ∈ lines := by
  induction rests with
  | self => exact member
  | through cited _ _ _ ih => exact ih cited

theorem eq_of_bare (empty : line.citations = []) (rests : RestsOn lines line p) : p = line := by
  cases rests with
  | self => rfl
  | through _ cites => simp [empty] at cites

theorem exists_index_of_bare (member : line ∈ lines) (empty : line.citations = []) {i : Int} :
    (∃ p ∈ lines, p.index = i ∧ RestsOn lines line p) ↔ i = line.index := by
  constructor
  · rintro ⟨p, -, rfl, rests⟩
    rw [rests.eq_of_bare empty]
  · intro same
    exact ⟨line, member, same.symm, .self empty⟩

theorem iff_of_cites (cites : line.citations ≠ []) :
    RestsOn lines line p ↔
      (∃ cited ∈ lines, cited.index ∈ line.citations ∧ RestsOn lines cited p) ∧
        ¬ line.Drops p := by
  constructor
  · intro rests
    cases rests with
    | self empty => exact absurd empty cites
    | through cited member rests keeps => exact ⟨⟨_, cited, member, rests⟩, keeps⟩
  · rintro ⟨⟨cited, member, listed, rests⟩, keeps⟩
    exact .through member listed rests keeps

/-- A line that discharges a supposition rests on what the line derived from it rests on, with the
supposition and nothing else removed. -/
theorem iff_of_discharge {s c : Line}
    (bare : ∀ q ∈ lines, q.isSupposition = true → q.citations = []) (inS : s ∈ lines)
    (inC : c ∈ lines) (supposed : s.isSupposition = true) (derived : RestsOn lines c s)
    (discharges : line.rule.discharges = true)
    (cites : ∀ q ∈ lines, q.index ∈ line.citations ↔ q = s ∨ q = c) :
    RestsOn lines line p ↔ RestsOn lines c p ∧ p ≠ s := by
  have citesS : s.index ∈ line.citations := (cites s inS).mpr (.inl rfl)
  have dropsS : line.Drops s := ⟨discharges, citesS, supposed⟩
  rw [iff_of_cites (List.ne_nil_of_mem citesS)]
  constructor
  · rintro ⟨⟨cited, inside, listed, rests⟩, kept⟩
    have notS : p ≠ s := by
      rintro rfl
      exact kept dropsS
    rcases (cites cited inside).mp listed with rfl | rfl
    · exact absurd (rests.eq_of_bare (bare _ inS supposed)) notS
    · exact ⟨rests, notS⟩
  · rintro ⟨rests, notS⟩
    refine ⟨⟨c, inC, (cites c inC).mpr (.inr rfl), rests⟩, fun drops => ?_⟩
    rcases (cites p (rests.mem inC)).mp drops.2.1 with rfl | rfl
    · exact notS rfl
    · -- a derived line that is itself a supposition rests on itself alone
      exact notS (derived.eq_of_bare (bare _ inC drops.2.2)).symm

theorem index_le (numbered : Numbered lines) (member : line ∈ lines)
    (rests : RestsOn lines line p) : p.index ≤ line.index := by
  induction rests with
  | self => exact Int.le_refl _
  | through cited cites _ _ ih =>
    have before := (numbered.earlier _ member _ cites).2
    have rest := ih cited
    omega

theorem append_iff (numbered : Numbered (lines ++ more)) (member : line ∈ lines) :
    RestsOn (lines ++ more) line p ↔ RestsOn lines line p := by
  constructor
  · intro rests
    induction rests with
    | self empty => exact .self empty
    | @through line cited p inside cites _ keeps ih =>
      obtain ⟨found, before, same⟩ := numbered.of_append.exists_cited member cites
      have here : found = cited :=
        numbered.eq_of_index (List.mem_append_left more before) inside same
      subst here
      exact .through before cites (ih before) keeps
  · intro rests
    induction rests with
    | self empty => exact .self empty
    | through cited cites _ keeps ih =>
      exact .through (List.mem_append_left more cited) cites (ih cited) keeps

end RestsOn

structure Lists (lines : List Line) (line : Line) (indices : List Int) : Prop where
  increasing : indices.Pairwise (· < ·)
  mem_iff : ∀ i, i ∈ indices ↔ ∃ p ∈ lines, p.index = i ∧ RestsOn lines line p

namespace Lists

variable {lines more : List Line} {line : Line} {indices others : List Int}

theorem unique (first : Lists lines line indices) (second : Lists lines line others) :
    indices = others := by
  have nodup {is : List Int} (increasing : is.Pairwise (· < ·)) : is.Nodup :=
    increasing.imp fun less => Int.ne_of_lt less
  have perm : indices.Perm others := by
    rw [List.perm_ext_iff_of_nodup (nodup first.increasing) (nodup second.increasing)]
    intro i
    rw [first.mem_iff, second.mem_iff]
  refine perm.eq_of_pairwise ?_ first.increasing second.increasing
  intro i j _ _ less greater
  omega

theorem index_mem (numbered : Numbered lines) {p : Line} (member : p ∈ lines)
    (lists : Lists lines line indices) : p.index ∈ indices ↔ RestsOn lines line p := by
  rw [lists.mem_iff]
  constructor
  · rintro ⟨q, inside, same, rests⟩
    cases numbered.eq_of_index inside member same
    exact rests
  · intro rests
    exact ⟨p, member, rfl, rests⟩

theorem append (numbered : Numbered (lines ++ more)) (member : line ∈ lines)
    (lists : Lists lines line indices) : Lists (lines ++ more) line indices where
  increasing := lists.increasing
  mem_iff i := by
    rw [lists.mem_iff]
    constructor
    · rintro ⟨p, inside, same, rests⟩
      exact ⟨p, List.mem_append_left more inside, same,
        (RestsOn.append_iff numbered member).mpr rests⟩
    · rintro ⟨p, -, same, rests⟩
      have before := (RestsOn.append_iff numbered member).mp rests
      exact ⟨p, before.mem member, same, before⟩

end Lists

section Resolving
variable {lines : List Line} {line : Line} {table : DependencyTable}

/-- The table has an entry for every line before a position, and the entry is right. -/
def Correct (lines : List Line) (table : DependencyTable) (n : Int) : Prop :=
  ∀ line ∈ lines, line.index < n →
    ∃ indices, table.find line.index = .ok indices ∧ Lists lines line indices

theorem keeps_eq_ok (numbered : Numbered lines) {p : Line} (member : p ∈ lines)
    (line : Line) : line.keeps lines p.index =
      .ok (!decide (p.index ∈ line.citations ∧ p.isSupposition = true)) := by
  by_cases cites : p.index ∈ line.citations
  · simp [Line.keeps, cites, numbered.lineAt_index member]
  · simp [Line.keeps, cites]

theorem sift_spec (numbered : Numbered lines) (line : Line) {indices : List Int}
    (known : ∀ i ∈ indices, ∃ p ∈ lines, p.index = i) :
    ∃ kept, line.sift lines indices = .ok kept ∧ kept.Sublist indices ∧
      ∀ p ∈ lines, p.index ∈ kept ↔
        p.index ∈ indices ∧ ¬ (p.index ∈ line.citations ∧ p.isSupposition = true) := by
  induction indices with
  | nil => exact ⟨[], rfl, .slnil, by simp⟩
  | cons i indices ih =>
    obtain ⟨kept, sifts, sublist, members⟩ :=
      ih fun i member => known i (List.mem_cons_of_mem _ member)
    obtain ⟨p, inside, rfl⟩ := known i (List.mem_cons_self ..)
    have here := keeps_eq_ok numbered inside line
    by_cases dropped : p.index ∈ line.citations ∧ p.isSupposition = true
    · refine ⟨kept, ?_, .cons _ sublist, ?_⟩
      · simp [Line.sift, here, sifts, dropped]
      · intro q member
        rw [members q member, List.mem_cons]
        constructor
        · rintro ⟨listed, keeps⟩
          exact ⟨.inr listed, keeps⟩
        · rintro ⟨same | listed, keeps⟩
          · cases numbered.eq_of_index member inside same
            exact absurd dropped keeps
          · exact ⟨listed, keeps⟩
    · refine ⟨p.index :: kept, ?_, .cons_cons _ sublist, ?_⟩
      · simp [Line.sift, here, sifts, dropped]
      · intro q member
        rw [List.mem_cons, members q member, List.mem_cons]
        constructor
        · rintro (same | ⟨listed, keeps⟩)
          · cases numbered.eq_of_index member inside same
            exact ⟨.inl rfl, dropped⟩
          · exact ⟨.inr listed, keeps⟩
        · rintro ⟨same | listed, keeps⟩
          · exact .inl same
          · exact .inr ⟨listed, keeps⟩

theorem gather_spec {α : Type} {find : α → Except Fault (List Int)} {P : α → Int → Prop}
    {cited : List α}
    (found : ∀ c ∈ cited, ∃ indices, find c = .ok indices ∧ ∀ i, i ∈ indices ↔ P c i) :
    ∃ inherited, cited.mapM find = .ok inherited ∧
      ∀ i, i ∈ inherited.flatten ↔ ∃ c ∈ cited, P c i := by
  induction cited with
  | nil => exact ⟨[], rfl, by simp⟩
  | cons c cited ih =>
    obtain ⟨inherited, gathers, members⟩ :=
      ih fun c member => found c (List.mem_cons_of_mem _ member)
    obtain ⟨indices, finds, listed⟩ := found c (List.mem_cons_self ..)
    refine ⟨indices :: inherited, ?_, ?_⟩
    · simp [List.mapM_cons, finds, gathers]
    · intro i
      simp [List.flatten_cons, listed, members]

theorem inherited_spec (numbered : Numbered lines) (member : line ∈ lines)
    (correct : Correct lines table line.index) :
    ∃ inherited, line.citations.mapM table.find = .ok inherited ∧
      ∀ a, a ∈ inherited.flatten ↔ ∃ p ∈ lines, p.index = a ∧
        ∃ cited ∈ lines, cited.index ∈ line.citations ∧ RestsOn lines cited p := by
  let reached (i a : Int) : Prop :=
    ∃ cited ∈ lines, cited.index = i ∧ ∃ p ∈ lines, p.index = a ∧ RestsOn lines cited p
  have found : ∀ i ∈ line.citations,
      ∃ indices, table.find i = .ok indices ∧ ∀ a, a ∈ indices ↔ reached i a := by
    intro i cites
    obtain ⟨cited, inside, rfl⟩ := numbered.exists_cited member cites
    obtain ⟨indices, finds, lists⟩ :=
      correct cited inside (numbered.earlier line member _ cites).2
    refine ⟨indices, finds, fun a => ?_⟩
    rw [lists.mem_iff a]
    constructor
    · intro rests
      exact ⟨cited, inside, rfl, rests⟩
    · rintro ⟨other, there, same, rests⟩
      cases numbered.eq_of_index there inside same
      exact rests
  obtain ⟨inherited, gathers, members⟩ := gather_spec found
  refine ⟨inherited, gathers, fun a => ?_⟩
  rw [members]
  constructor
  · rintro ⟨i, cites, cited, there, rfl, p, inside, same, rests⟩
    exact ⟨p, inside, same, cited, there, cites, rests⟩
  · rintro ⟨p, inside, same, cited, there, cites, rests⟩
    exact ⟨_, cites, cited, there, rfl, p, inside, same, rests⟩

theorem resolve_of_cites (cites : line.citations ≠ []) {inherited : List (List Int)}
    (gathers : line.citations.mapM table.find = .ok inherited) :
    line.resolve lines table =
      if line.rule.discharges then line.sift lines (Ascending.distinct inherited.flatten)
      else .ok (Ascending.distinct inherited.flatten) := by
  unfold Line.resolve
  split
  next empty => exact absurd empty cites
  next => simp [gathers]

theorem resolve_spec (numbered : Numbered lines) (member : line ∈ lines)
    (correct : Correct lines table line.index) :
    ∃ indices, line.resolve lines table = .ok indices ∧ Lists lines line indices := by
  by_cases empty : line.citations = []
  · refine ⟨[line.index], by simp [Line.resolve, empty], by simp, fun i => ?_⟩
    rw [List.mem_singleton, RestsOn.exists_index_of_bare member empty]
  · obtain ⟨inherited, gathers, members⟩ := inherited_spec numbered member correct
    rw [resolve_of_cites empty gathers]
    have increasing := Ascending.distinct_pairwise inherited.flatten
    cases discharges : line.rule.discharges with
    | false =>
      refine ⟨_, rfl, increasing, fun i => ?_⟩
      have keeps (p : Line) : ¬ line.Drops p := by simp [Line.Drops, discharges]
      simp [Ascending.mem_distinct, members, RestsOn.iff_of_cites empty, keeps]
    | true =>
      have known : ∀ i ∈ Ascending.distinct inherited.flatten, ∃ p ∈ lines, p.index = i := by
        intro i listed
        obtain ⟨p, inside, same, -⟩ := (members i).mp (Ascending.mem_distinct.mp listed)
        exact ⟨p, inside, same⟩
      obtain ⟨kept, sifts, sublist, remains⟩ := sift_spec numbered line known
      refine ⟨kept, sifts, increasing.sublist sublist, fun i => ?_⟩
      constructor
      · intro listed
        obtain ⟨p, inside, rfl⟩ := known i (sublist.subset listed)
        obtain ⟨inherits, keeps⟩ := (remains p inside).mp listed
        obtain ⟨q, there, same, reached⟩ :=
          (members _).mp (Ascending.mem_distinct.mp inherits)
        cases numbered.eq_of_index there inside same
        exact ⟨p, inside, rfl,
          (RestsOn.iff_of_cites empty).mpr ⟨reached, fun drops => keeps drops.2⟩⟩
      · rintro ⟨p, inside, rfl, rests⟩
        obtain ⟨reached, keeps⟩ := (RestsOn.iff_of_cites empty).mp rests
        refine (remains p inside).mpr ⟨?_, fun dropped => keeps ⟨discharges, dropped⟩⟩
        exact Ascending.mem_distinct.mpr ((members _).mpr ⟨p, inside, rfl, reached⟩)

theorem tabulate_spec (numbered : Numbered lines) {n : Nat} (bound : n ≤ lines.length) :
    ∃ table, tabulate lines (lines.take n) = .ok table ∧ Correct lines table n := by
  induction n with
  | zero =>
    refine ⟨[], rfl, fun line member low => ?_⟩
    obtain ⟨m, -, -, index⟩ := numbered.position member
    omega
  | succ n ih =>
    obtain ⟨table, tabulates, correct⟩ := ih (by omega)
    have found : lines[n]? = some lines[n] := List.getElem?_eq_getElem (by omega)
    have member : lines[n] ∈ lines := List.getElem_mem _
    have index := numbered.index_eq n _ found
    obtain ⟨indices, resolves, lists⟩ := resolve_spec numbered member (index ▸ correct)
    refine ⟨(lines[n].index, indices) :: table, ?_, ?_⟩
    · unfold tabulate at tabulates ⊢
      rw [List.take_succ_eq_append_getElem (by omega), List.foldlM_append, tabulates]
      simp [resolves]
    · intro line inside before
      by_cases last : line.index = lines[n].index
      · cases numbered.eq_of_index inside member last
        exact ⟨indices, by simp [DependencyTable.find], lists⟩
      · obtain ⟨earlier, finds, listsEarlier⟩ := correct line inside (by omega)
        have other : (line.index == lines[n].index) = false := by simpa using last
        refine ⟨earlier, ?_, listsEarlier⟩
        simpa [DependencyTable.find, List.lookup_cons, other] using finds

theorem dependencies_spec (numbered : Numbered lines) (member : line ∈ lines) :
    ∃ indices, line.dependencies lines = .ok indices ∧ Lists lines line indices := by
  obtain ⟨n, bound, -, index⟩ := numbered.position member
  obtain ⟨table, tabulates, correct⟩ := tabulate_spec numbered (n := n) (by omega)
  obtain ⟨indices, resolves, lists⟩ := resolve_spec numbered member (index ▸ correct)
  refine ⟨indices, ?_, lists⟩
  rw [Line.dependencies, numbered.linesBefore_index member, index]
  simpa [tabulates] using resolves

theorem Lists.resolves {indices : List Int} (lists : Lists lines line indices)
    (numbered : Numbered lines) (member : line ∈ lines) :
    line.dependencies lines = .ok indices := by
  obtain ⟨others, resolves, listsOthers⟩ := dependencies_spec numbered member
  rw [resolves, lists.unique listsOthers]

theorem dependencies_append {more : List Line} (numbered : Numbered (lines ++ more))
    (member : line ∈ lines) : line.dependencies (lines ++ more) = line.dependencies lines := by
  obtain ⟨indices, resolves, lists⟩ := dependencies_spec numbered.of_append member
  have after := lists.append numbered member
  rw [resolves, after.resolves numbered (List.mem_append_left more member)]

theorem restsOnSupposition_spec (numbered : Numbered lines) {indices : List Int}
    (known : ∀ i ∈ indices, ∃ p ∈ lines, p.index = i) :
    ∃ supposing, Line.restsOnSupposition lines indices = .ok supposing ∧
      (supposing = true ↔ ∃ p ∈ lines, p.index ∈ indices ∧ p.isSupposition = true) := by
  induction indices with
  | nil => exact ⟨false, rfl, by simp⟩
  | cons i indices ih =>
    obtain ⟨p, inside, rfl⟩ := known i (List.mem_cons_self ..)
    have here := numbered.lineAt_index inside
    cases supposed : p.isSupposition with
    | true =>
      refine ⟨true, by simp [Line.restsOnSupposition, here, supposed], ?_⟩
      simp only [true_iff]
      exact ⟨p, inside, List.mem_cons_self .., supposed⟩
    | false =>
      obtain ⟨supposing, decides, spec⟩ :=
        ih fun i member => known i (List.mem_cons_of_mem _ member)
      refine ⟨supposing, by simpa [Line.restsOnSupposition, here, supposed] using decides, ?_⟩
      rw [spec]
      constructor
      · rintro ⟨q, member, listed, holds⟩
        exact ⟨q, member, List.mem_cons_of_mem _ listed, holds⟩
      · rintro ⟨q, member, listed, holds⟩
        rcases List.mem_cons.mp listed with same | listed
        · cases numbered.eq_of_index member inside same
          simp [supposed] at holds
        · exact ⟨q, member, listed, holds⟩

theorem hasOpenSupposition_spec (numbered : Numbered lines) (member : line ∈ lines) :
    ∃ supposing, line.hasOpenSupposition lines = .ok supposing ∧
      (supposing = true ↔ ∃ p ∈ lines, RestsOn lines line p ∧ p.isSupposition = true) := by
  obtain ⟨indices, resolves, lists⟩ := dependencies_spec numbered member
  have known : ∀ i ∈ indices, ∃ p ∈ lines, p.index = i := by
    intro i listed
    obtain ⟨p, inside, same, -⟩ := (lists.mem_iff i).mp listed
    exact ⟨p, inside, same⟩
  obtain ⟨supposing, decides, spec⟩ := restsOnSupposition_spec numbered known
  refine ⟨supposing, by simp [Line.hasOpenSupposition, resolves, decides], ?_⟩
  rw [spec]
  constructor
  · rintro ⟨p, inside, listed, supposed⟩
    exact ⟨p, inside, (lists.index_mem numbered inside).mp listed, supposed⟩
  · rintro ⟨p, inside, rests, supposed⟩
    exact ⟨p, inside, (lists.index_mem numbered inside).mpr rests, supposed⟩

theorem hasOpenSupposition_append {more : List Line} (numbered : Numbered (lines ++ more))
    (member : line ∈ lines) :
    line.hasOpenSupposition (lines ++ more) = line.hasOpenSupposition lines := by
  obtain ⟨before, decides, spec⟩ := hasOpenSupposition_spec numbered.of_append member
  obtain ⟨after, decidesAll, specAll⟩ :=
    hasOpenSupposition_spec numbered (List.mem_append_left more member)
  have same : after = true ↔ before = true := by
    rw [spec, specAll]
    constructor
    · rintro ⟨p, -, rests, supposed⟩
      have reached := (RestsOn.append_iff numbered member).mp rests
      exact ⟨p, reached.mem member, reached, supposed⟩
    · rintro ⟨p, inside, rests, supposed⟩
      exact ⟨p, List.mem_append_left more inside,
        (RestsOn.append_iff numbered member).mpr rests, supposed⟩
  rw [decides, decidesAll, Bool.eq_iff_iff.mpr same]

end Resolving
end NaturalDeduction
