import Mathlib.Data.Finset.Union
import NaturalDeduction.Proofs.Resting

/-! What a line rests on, by descent. The table is filled in one forward pass over all earlier
lines; here the same indices are found by recursion through the citations of one line, and again
by the paths of citations that lead away from it. A supposition may be dropped on one path and
kept on another, and then the line still rests on it. -/
namespace NaturalDeduction
open Formula

namespace Numbered
variable {lines : List Line} {line : Line} {i : Int}

theorem position_lt (numbered : Numbered lines) (member : line ∈ lines)
    (cites : i ∈ line.citations) : i.toNat < lines.length := by
  obtain ⟨n, bound, -, index⟩ := numbered.position member
  have before := numbered.earlier line member i cites
  omega

def named (numbered : Numbered lines) (member : line ∈ lines) (cites : i ∈ line.citations) : Line :=
  lines.get ⟨i.toNat, numbered.position_lt member cites⟩

variable (numbered : Numbered lines) (member : line ∈ lines) (cites : i ∈ line.citations)

theorem named_mem : numbered.named member cites ∈ lines := List.get_mem ..

@[simp] theorem named_index : (numbered.named member cites).index = i := by
  have found : lines[i.toNat]? = some (numbered.named member cites) :=
    List.getElem?_eq_getElem (numbered.position_lt member cites)
  have index := numbered.index_eq _ _ found
  have before := numbered.earlier line member i cites
  omega

theorem exists_named_iff {P : Line → Prop} :
    (∃ c : { i // i ∈ line.citations }, P (numbered.named member c.2)) ↔
      ∃ cited ∈ lines, cited.index ∈ line.citations ∧ P cited := by
  constructor
  · intro ⟨c, holds⟩
    refine ⟨_, numbered.named_mem member c.2, ?_, holds⟩
    rw [named_index]
    exact c.2
  · intro ⟨cited, there, listed, holds⟩
    have here : numbered.named member listed = cited :=
      numbered.eq_of_index (numbered.named_mem member listed) there
        (numbered.named_index member listed)
    refine ⟨⟨cited.index, listed⟩, ?_⟩
    rw [here]
    exact holds

theorem named_earlier : (numbered.named member cites).index.toNat < line.index.toNat := by
  have index := numbered.named_index member cites
  have before := numbered.earlier line member i cites
  omega

end Numbered

def Line.dropped (lines : List Line) (line : Line) : Finset Int :=
  if line.rule.discharges then
    line.citations.toFinset.filter fun i => ∃ p ∈ lines, p.index = i ∧ p.isSupposition = true
  else ∅

/-- A line rests on itself if it cites nothing, and otherwise on all that its citations rest on,
less the suppositions that it drops. -/
def Numbered.grounds {lines : List Line} (numbered : Numbered lines) (line : Line)
    (member : line ∈ lines) : Finset Int :=
  if line.citations = [] then {line.index}
  else
    line.citations.attach.toFinset.biUnion (fun i =>
      numbered.grounds (numbered.named member i.2) (numbered.named_mem member i.2)) \
    line.dropped lines
termination_by line.index.toNat
decreasing_by exact numbered.named_earlier member i.2

section Descending
variable {lines : List Line} {line p : Line}

theorem Numbered.index_mem_dropped (numbered : Numbered lines) (inside : p ∈ lines) :
    p.index ∈ line.dropped lines ↔ line.Drops p := by
  have supposed : (∃ q ∈ lines, q.index = p.index ∧ q.isSupposition = true) ↔
      p.isSupposition = true := by
    constructor
    · intro ⟨q, there, same, holds⟩
      exact numbered.eq_of_index there inside same ▸ holds
    · intro holds
      exact ⟨p, inside, rfl, holds⟩
  by_cases discharges : line.rule.discharges = true
  · simp [Line.dropped, Line.Drops, discharges, supposed]
  · simp [Line.dropped, Line.Drops, discharges]

theorem Numbered.mem_grounds (numbered : Numbered lines) (member : line ∈ lines) (i : Int) :
    i ∈ numbered.grounds line member ↔ ∃ p ∈ lines, p.index = i ∧ RestsOn lines line p := by
  fun_induction numbered.grounds line member with
  | case1 line member bare => rw [Finset.mem_singleton, RestsOn.exists_index_of_bare member bare]
  | case2 line member cites ih =>
    have inherited : (∃ c ∈ line.citations.attach.toFinset,
        i ∈ numbered.grounds (numbered.named member c.2) (numbered.named_mem member c.2)) ↔
        ∃ cited ∈ lines, cited.index ∈ line.citations ∧
          ∃ p ∈ lines, p.index = i ∧ RestsOn lines cited p := by
      rw [← numbered.exists_named_iff member]
      simp only [ih, List.mem_toFinset, List.mem_attach, true_and]
    rw [Finset.mem_sdiff, Finset.mem_biUnion, inherited]
    constructor
    · rintro ⟨⟨cited, there, listed, p, inside, rfl, reached⟩, kept⟩
      rw [numbered.index_mem_dropped inside] at kept
      exact ⟨p, inside, rfl, .through there listed reached kept⟩
    · rintro ⟨p, inside, rfl, rests⟩
      obtain ⟨⟨cited, there, listed, reached⟩, kept⟩ := (RestsOn.iff_of_cites cites).mp rests
      rw [numbered.index_mem_dropped inside]
      exact ⟨⟨cited, there, listed, p, inside, rfl, reached⟩, kept⟩

/-- A path of citations, with the lines on it: each line cites the next. -/
inductive CitationPath (lines : List Line) : Line → Line → List Line → Prop where
  | stay (line : Line) : CitationPath lines line line [line]
  | step {line next p : Line} {path : List Line} : next ∈ lines → next.index ∈ line.citations →
      CitationPath lines next p path → CitationPath lines line p (line :: path)

theorem RestsOn.exists_path (rests : RestsOn lines line p) :
    ∃ path, CitationPath lines line p path ∧ ∀ via ∈ path, ¬ via.Drops p := by
  induction rests with
  | @self line bare => exact ⟨[line], .stay line, by simp [Line.Drops, bare]⟩
  | through inside cites _ kept ih =>
    obtain ⟨path, leads, keeps⟩ := ih
    exact ⟨_, .step inside cites leads, List.forall_mem_cons.mpr ⟨kept, keeps⟩⟩

theorem CitationPath.restsOn {path : List Line} (leads : CitationPath lines line p path)
    (bare : p.citations = []) (keeps : ∀ via ∈ path, ¬ via.Drops p) : RestsOn lines line p := by
  induction leads with
  | stay => exact .self bare
  | step inside cites _ ih =>
    obtain ⟨kept, keeps⟩ := List.forall_mem_cons.mp keeps
    exact .through inside cites (ih bare keeps) kept

theorem RestsOn.iff_path :
    RestsOn lines line p ↔ p.citations = [] ∧
      ∃ path, CitationPath lines line p path ∧ ∀ via ∈ path, ¬ via.Drops p := by
  constructor
  · intro rests
    exact ⟨rests.bare, rests.exists_path⟩
  · intro ⟨bare, path, leads, keeps⟩
    exact leads.restsOn bare keeps

end Descending

/-- Where lines stand at their indices and cite earlier ones, the forward pass succeeds and lists
in increasing order what descent finds. These are the lines without citations to which a path of
citations leads on which no line drops them. -/
theorem dependencies_by_descent {lines : List Line} {line : Line} (numbered : Numbered lines)
    (member : line ∈ lines) :
    ∃ indices, line.dependencies lines = .ok indices ∧ indices.Pairwise (· < ·) ∧
      indices.toFinset = numbered.grounds line member ∧
      ∀ i, i ∈ indices ↔ ∃ p ∈ lines, p.index = i ∧ p.citations = [] ∧
        ∃ path, CitationPath lines line p path ∧ ∀ via ∈ path, ¬ via.Drops p := by
  obtain ⟨indices, resolves, lists⟩ := dependencies_spec numbered member
  refine ⟨indices, resolves, lists.increasing, ?_, ?_⟩
  · ext i
    rw [List.mem_toFinset, lists.mem_iff, numbered.mem_grounds]
  · intro i
    simp only [lists.mem_iff, RestsOn.iff_path]

/-- A supposition discharged on the way to one conjunct and still open in the other. -/
def diamond : List Line :=
  let a := atom "A"
  let b := atom "B"
  [⟨0, a, .supposition, []⟩, ⟨1, b, .assumption, []⟩, ⟨2, .conj a b, .conjIntro, [0, 1]⟩,
    ⟨3, .imp a (.conj a b), .impIntro, [0, 2]⟩,
    ⟨4, .conj (.conj a b) (.imp a (.conj a b)), .conjIntro, [2, 3]⟩]

theorem diamond_by_descent :
    ∃ (numbered : Numbered diamond) (line : Line) (member : line ∈ diamond),
      line.citations = [2, 3] ∧ line.dependencies diamond = .ok [0, 1] ∧
      numbered.grounds line member = {0, 1} ∧
      ∃ p ∈ diamond, p.isSupposition = true ∧
        ∃ path, CitationPath diamond line p path ∧ ∀ via ∈ path, ¬ via.Drops p := by
  have numbered : Numbered diamond := by decide
  have member : diamond[4] ∈ diamond := List.getElem_mem _
  obtain ⟨indices, resolves, -, descends, leads⟩ := dependencies_by_descent numbered member
  cases resolves
  obtain ⟨p, inside, index, -, path⟩ := (leads 0).mp (by decide)
  have supposed : p.isSupposition = true := by
    cases numbered.eq_of_index inside (List.getElem_mem (by decide : 0 < diamond.length)) index
    rfl
  exact ⟨numbered, diamond[4], member, rfl, rfl, descends.symm, p, inside, supposed, path⟩

end NaturalDeduction
