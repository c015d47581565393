import NaturalDeduction.Proofs.Soundness

/-! What can be derived from lines that are already there. `Leads` says that any derivation which
has lines for the given formulas can be continued to one with a line for a further formula, resting
on nothing but what those lines rest on. Each rule gives a closure property of it. A discharging
rule asks that the derived line rest on the supposition, which a line need not do; a detour through
a conjunction with the supposition makes it so. -/
namespace NaturalDeduction
open Outcome Formula

structure Move where
  formula : Formula
  rule : Rule
  citations : List Int
  deriving DecidableEq, Repr

def Move.step (move : Move) : Step := ⟨.tree move.formula, move.rule.shorthand, move.citations⟩

namespace Derivation
variable {d e g : Derivation} {line : Line} {f x y : Formula} {rule : Rule}

theorem add_step (move : Move) :
    d.add move.step = d.extend move.formula move.rule move.citations := by
  simp [add, Move.step, Statement.read]

theorem addAll_append {steps more : List Step} (accepted : d.addAll steps = ⟨e, none⟩) :
    d.addAll (steps ++ more) = e.addAll more := runAll_append accepted more

def Extends (d e : Derivation) : Prop :=
  ∃ moves : List Move, (∀ move ∈ moves, move.formula.Lettered) ∧
    d.addAll (moves.map Move.step) = ⟨e, none⟩

namespace Extends

theorem refl (d : Derivation) : Extends d d := ⟨[], by simp, rfl⟩

theorem trans (first : Extends d e) (second : Extends e g) : Extends d g := by
  obtain ⟨moves, lettered, accepted⟩ := first
  obtain ⟨others, alsoLettered, alsoAccepted⟩ := second
  refine ⟨moves ++ others, ?_, ?_⟩
  · intro move member
    rcases List.mem_append.mp member with member | member
    · exact lettered move member
    · exact alsoLettered move member
  · rw [List.map_append, addAll_append accepted, alsoAccepted]

theorem of_extend {citations : List Int} (hf : f.Lettered)
    (enters : d.extend f rule citations = .ok e) : Extends d e := by
  refine ⟨[⟨f, rule, citations⟩], by simpa using hf, ?_⟩
  simp [addAll_cons, add_step, enters]

theorem wellFormed (wf : d.WellFormed) (grown : Extends d e) : e.WellFormed := by
  obtain ⟨moves, lettered, accepted⟩ := grown
  have steps : ∀ step ∈ moves.map Move.step, step.statement.Lettered := by
    intro step member
    obtain ⟨move, inside, rfl⟩ := List.mem_map.mp member
    exact lettered move inside
  have kept := wf.addAll steps
  rwa [accepted] at kept

theorem frame (grown : Extends d e) :
    ∃ more, e = { d with deductions := d.deductions ++ more } := by
  obtain ⟨moves, -, accepted⟩ := grown
  induction moves generalizing d with
  | nil =>
    cases accepted
    exact ⟨[], by simp⟩
  | cons move rest ih =>
    rw [List.map_cons, addAll_cons] at accepted
    cases adds : d.add move.step with
    | error refusal => simp [adds] at accepted
    | ok extended =>
      simp only [adds] at accepted
      obtain ⟨more, rfl⟩ := ih accepted
      rw [add_step] at adds
      obtain ⟨-, rfl⟩ := extend_eq_ok.mp adds
      exact ⟨_, by simp [List.append_assoc]; rfl⟩

theorem lines (grown : Extends d e) : ∃ more, e.lines = d.lines ++ more := by
  obtain ⟨more, rfl⟩ := grown.frame
  exact ⟨more, by simp [Derivation.lines, List.append_assoc]⟩

theorem mem (grown : Extends d e) (member : line ∈ d.lines) : line ∈ e.lines := by
  obtain ⟨more, lines⟩ := grown.lines
  rw [lines]
  exact List.mem_append_left more member

end Extends

section Entering
variable {cs : List Line}

theorem cited_sorted_perm (numbered : Numbered d.lines) (inside : ∀ c ∈ cs, c ∈ d.lines) :
    (d.cited (Ascending.sort (cs.map Line.index))).Perm cs := by
  have inOrder : d.cited (cs.map Line.index) = cs := by
    induction cs with
    | nil => rfl
    | cons c rest ih =>
      obtain ⟨n, -, found, index⟩ := numbered.position (inside c (List.mem_cons_self ..))
      have others := ih fun c member => inside c (List.mem_cons_of_mem _ member)
      simpa [cited, List.filterMap_cons, index, found] using others
  calc
    (d.cited (Ascending.sort (cs.map Line.index))).Perm (d.cited (cs.map Line.index)) := by
      rw [Ascending.sort_eq_insertionSort]
      exact (List.perm_insertionSort _ _).filterMap _
    _ = cs := inOrder

structure Entered (d e : Derivation) (line : Line) (rule : Rule) (f : Formula) (cs : List Line) :
    Prop where
  grown : Extends d e
  lines : e.lines = d.lines ++ [line]
  last : e.last? = some line
  rule : line.rule = rule
  formula : line.formula = f
  cites : ∀ i, i ∈ line.citations ↔ ∃ c ∈ cs, c.index = i

theorem exists_entered (wf : d.WellFormed) (cs : List Line) (inside : ∀ c ∈ cs, c ∈ d.lines)
    (hf : f.Lettered) (derived : rule ≠ .assumption)
    (accepts : ∀ cited : List Line, cited.Perm cs → rule.evaluate d.lines f cited = .ok ()) :
    ∃ e line, Entered d e line rule f cs := by
  have vetted : d.vet (Line.citing d.lines.length f rule (cs.map Line.index)) = .ok () := by
    refine vet_eq_ok.mpr ⟨derived, ?_, accepts _ (cited_sorted_perm wf.numbered inside)⟩
    intro i listed
    obtain ⟨c, member, rfl⟩ := List.mem_map.mp (Ascending.mem_sort.mp listed)
    obtain ⟨n, bound, -, index⟩ := wf.numbered.position (inside c member)
    simp only [Line.citing]
    omega
  have enters := extend_eq_ok.mpr ⟨vetted, rfl⟩
  refine ⟨_, Line.citing d.lines.length f rule (cs.map Line.index), .of_extend hf enters, ?_, ?_,
    rfl, rfl, ?_⟩
  · simp [lines, List.append_assoc]
  · simp [last?]
  · simp [Line.citing]

namespace Entered

theorem mem (entered : Entered d e line rule f cs) : line ∈ e.lines := by
  simp [entered.lines]

theorem rests_iff (entered : Entered d e line rule f cs) (wf : d.WellFormed)
    (inside : ∀ c ∈ cs, c ∈ d.lines) (some : cs ≠ []) {p : Line} :
    RestsOn e.lines line p ↔ (∃ c ∈ cs, RestsOn d.lines c p) ∧ ¬ line.Drops p := by
  have numbered := (entered.grown.wellFormed wf).numbered
  have cites : line.citations ≠ [] := by
    obtain ⟨c, rest, rfl⟩ := List.exists_cons_of_ne_nil some
    exact List.ne_nil_of_mem ((entered.cites _).mpr ⟨c, List.mem_cons_self .., rfl⟩)
  rw [RestsOn.iff_of_cites cites, entered.lines]
  rw [entered.lines] at numbered
  refine and_congr_left fun _ => ?_
  constructor
  · rintro ⟨cited, there, listed, rests⟩
    obtain ⟨c, member, same⟩ := (entered.cites _).mp listed
    have here : c = cited :=
      numbered.eq_of_index (List.mem_append_left _ (inside c member)) there same
    subst here
    exact ⟨c, member, (RestsOn.append_iff numbered (inside c member)).mp rests⟩
  · rintro ⟨c, member, rests⟩
    exact ⟨c, List.mem_append_left _ (inside c member), (entered.cites _).mpr ⟨c, member, rfl⟩,
      (RestsOn.append_iff numbered (inside c member)).mpr rests⟩

end Entered
end Entering

/-- The line stands for `f` and rests only on lines of which `G` holds. -/
structure Shows (d : Derivation) (G : Line → Prop) (f : Formula) (line : Line) : Prop where
  mem : line ∈ d.lines
  formula : line.formula = f
  grounds : ∀ p, RestsOn d.lines line p → G p

variable {G H : Line → Prop}

theorem Shows.lettered (shows : Shows d G f line) (wf : d.WellFormed) : f.Lettered :=
  shows.formula ▸ wf.lettered line shows.mem

theorem Shows.grow (shows : Shows d G f line) (wf : d.WellFormed) (grown : Extends d e)
    (weaker : ∀ p, G p → H p) : Shows e H f line where
  mem := grown.mem shows.mem
  formula := shows.formula
  grounds p rests := by
    have numbered := (grown.wellFormed wf).numbered
    obtain ⟨more, lines⟩ := grown.lines
    rw [lines] at numbered rests
    exact weaker p (shows.grounds p ((RestsOn.append_iff numbered shows.mem).mp rests))

theorem exists_inferred (wf : d.WellFormed) (cs : List Line)
    (schema : rule.Schema f (cs.map Line.formula)) (hf : f.Lettered)
    (shown : ∀ c ∈ cs, Shows d G c.formula c) :
    ∃ e line, Entered d e line rule f cs ∧ Shows e G f line ∧
      ∀ p, RestsOn e.lines line p ↔ ∃ c ∈ cs, RestsOn d.lines c p := by
  have inside : ∀ c ∈ cs, c ∈ d.lines := fun c member => (shown c member).mem
  obtain ⟨cites, keeps⟩ := schema.cites_keeps
  have derived : rule ≠ .assumption := by
    rintro rfl
    exact cites rfl
  have accepts : ∀ cited : List Line, cited.Perm cs → rule.evaluate d.lines f cited = .ok () := by
    intro cited perm
    have lettered : ∀ c ∈ cited, c.formula.Lettered :=
      fun c member => wf.lettered c (inside c (perm.mem_iff.mp member))
    exact (Rule.evaluate_iff_schema cites keeps hf lettered).mpr ⟨_, (perm.map _).symm, schema⟩
  obtain ⟨e, line, entered⟩ := exists_entered wf cs inside hf derived accepts
  have some : cs ≠ [] := by
    rintro rfl
    exact cites schema.length_eq.symm
  have rests : ∀ p, RestsOn e.lines line p ↔ ∃ c ∈ cs, RestsOn d.lines c p := by
    intro p
    rw [entered.rests_iff wf inside some]
    simp [Line.Drops, entered.rule, keeps]
  refine ⟨e, line, entered, ⟨entered.mem, entered.formula, fun p below => ?_⟩, rests⟩
  obtain ⟨c, member, reached⟩ := (rests p).mp below
  exact (shown c member).grounds p reached

/-- A line can be had again so that it also rests on what another line rests on. -/
theorem exists_anchored (wf : d.WellFormed) {s c : Line} (supposed : Shows d G x s)
    (derived : Shows d G y c) :
    ∃ e line, Extends d e ∧ Shows e G y line ∧
      ∀ p, RestsOn d.lines s p → RestsOn e.lines line p := by
  have hx := supposed.lettered wf
  have hy := derived.lettered wf
  obtain rfl := supposed.formula
  obtain rfl := derived.formula
  have shown : ∀ q ∈ [s, c], Shows d G q.formula q := by simpa using ⟨supposed, derived⟩
  obtain ⟨e₁, both, enteredBoth, showsBoth, restsBoth⟩ :=
    exists_inferred wf [s, c] (.conjIntro s.formula c.formula) ⟨hx, hy⟩ shown
  have wf₁ := enteredBoth.grown.wellFormed wf
  have schema : Rule.Schema .conjElim c.formula ([both].map Line.formula) := by
    simpa [enteredBoth.formula] using Rule.Schema.conjElimRight s.formula c.formula
  obtain ⟨e₂, line, entered, shows, rests⟩ :=
    exists_inferred wf₁ [both] schema hy (by simpa [enteredBoth.formula] using showsBoth)
  refine ⟨e₂, line, enteredBoth.grown.trans entered.grown, shows, fun p below => ?_⟩
  rw [rests]
  exact ⟨both, by simp, (restsBoth p).mpr ⟨s, by simp, below⟩⟩

theorem exists_supposed (wf : d.WellFormed) (hx : x.Lettered) :
    ∃ e s, Entered d e s .supposition x [] ∧ ∀ p, RestsOn e.lines s p ↔ p = s := by
  have accepts : ∀ cited : List Line, cited.Perm [] →
      Rule.evaluate d.lines x .supposition cited = .ok () := by
    intro cited perm
    rw [perm.eq_nil]
    rfl
  obtain ⟨e, s, entered⟩ := exists_entered wf [] (by simp) hx (by decide) accepts
  have bare : s.citations = [] :=
    List.eq_nil_iff_forall_not_mem.mpr fun i listed => by simpa using (entered.cites i).mp listed
  refine ⟨e, s, entered, fun p => ⟨fun rests => rests.eq_of_bare bare, ?_⟩⟩
  rintro rfl
  exact .self bare

theorem exists_discharged (wf : d.WellFormed) {s c : Line} (supposed : s.isSupposition = true)
    (inS : s ∈ d.lines) (inC : c ∈ d.lines) (rests : RestsOn d.lines c s)
    (discharge : rule.Discharge f s.formula c.formula) (hf : f.Lettered)
    (discharges : rule.discharges = true) :
    ∃ e line, Entered d e line rule f [s, c] ∧
      ∀ p, RestsOn e.lines line p → RestsOn d.lines c p ∧ p ≠ s := by
  have inside : ∀ q ∈ [s, c], q ∈ d.lines := by simp [inS, inC]
  have derived : rule ≠ .assumption := by
    rintro rfl
    cases discharges
  have accepts : ∀ cited : List Line, cited.Perm [s, c] →
      rule.evaluate d.lines f cited = .ok () := by
    intro cited perm
    have within : ∀ q ∈ cited, q ∈ d.lines := fun q member => inside q (perm.mem_iff.mp member)
    rw [wf.accepts_iff_discharge within discharges hf]
    rcases perm_pair.mp perm with rfl | rfl
    · exact ⟨s, c, rfl, s, c, ⟨.inl ⟨rfl, rfl⟩, supposed, rests⟩, discharge⟩
    · exact ⟨c, s, rfl, s, c, ⟨.inr ⟨rfl, rfl⟩, supposed, rests⟩, discharge⟩
  obtain ⟨e, line, entered⟩ := exists_entered wf [s, c] inside hf derived accepts
  refine ⟨e, line, entered, fun p below => ?_⟩
  obtain ⟨⟨q, member, reached⟩, keeps⟩ := (entered.rests_iff wf inside (by simp)).mp below
  have notS : p ≠ s := by
    rintro rfl
    exact keeps ⟨entered.rule ▸ discharges, (entered.cites _).mpr ⟨p, by simp, rfl⟩, supposed⟩
  refine ⟨?_, notS⟩
  have either : q = s ∨ q = c := by simpa using member
  rcases either with rfl | rfl
  · exact absurd (reached.eq_of_bare (wf.bare_of_supposition inS supposed)) notS
  · exact reached

end Derivation

open NaturalDeduction.Derivation

/-- However the given formulas are shown, a line can be added that shows `f` on the same grounds. -/
def Leads (Γ : List Formula) (f : Formula) : Prop :=
  ∀ (d : Derivation) (G : Line → Prop), d.WellFormed → (∀ g ∈ Γ, ∃ line, Shows d G g line) →
    ∃ e line, Extends d e ∧ Shows e G f line

namespace Leads
variable {Γ Δ : List Formula} {f x y : Formula} {rule : Rule}

theorem of_mem (member : f ∈ Γ) : Leads Γ f := by
  intro d G wf shown
  obtain ⟨line, shows⟩ := shown f member
  exact ⟨d, line, .refl d, shows⟩

theorem mono (leads : Leads Γ f) (subset : Γ ⊆ Δ) : Leads Δ f :=
  fun d G wf shown => leads d G wf fun g member => shown g (subset member)

theorem cut (first : ∀ g ∈ Δ, Leads Γ g) (second : Leads Δ f) : Leads Γ f := by
  intro d G wf shown
  have gathered : ∃ e, Extends d e ∧ ∀ g ∈ Δ, ∃ line, Shows e G g line := by
    clear second
    induction Δ with
    | nil => exact ⟨d, .refl d, by simp⟩
    | cons g Δ ih =>
      obtain ⟨e₁, grown₁, others⟩ := ih fun g member => first g (List.mem_cons_of_mem _ member)
      have wf₁ := grown₁.wellFormed wf
      obtain ⟨e₂, line, grown₂, shows⟩ := first g (List.mem_cons_self ..) e₁ G wf₁
        fun g member => (shown g member).imp fun _ shows => shows.grow wf grown₁ fun _ => id
      refine ⟨e₂, grown₁.trans grown₂, fun h member => ?_⟩
      rcases List.mem_cons.mp member with rfl | member
      · exact ⟨line, shows⟩
      · exact (others h member).imp fun _ shows => shows.grow wf₁ grown₂ fun _ => id
  obtain ⟨e₁, grown₁, gathered⟩ := gathered
  obtain ⟨e₂, line, grown₂, shows⟩ := second e₁ G (grown₁.wellFormed wf) gathered
  exact ⟨e₂, line, grown₁.trans grown₂, shows⟩

theorem schema {gs : List Formula} (schema : rule.Schema f gs) (hf : f.Lettered)
    (premises : ∀ g ∈ gs, Leads Γ g) : Leads Γ f := by
  refine cut premises fun d G wf shown => ?_
  have chosen : ∃ cs : List Line, cs.map Line.formula = gs ∧ ∀ c ∈ cs, Shows d G c.formula c := by
    clear schema premises
    induction gs with
    | nil => exact ⟨[], rfl, by simp⟩
    | cons g gs ih =>
      obtain ⟨cs, rfl, shows⟩ := ih fun g member => shown g (List.mem_cons_of_mem _ member)
      obtain ⟨c, here⟩ := shown g (List.mem_cons_self ..)
      obtain rfl := here.formula
      exact ⟨c :: cs, rfl, List.forall_mem_cons.mpr ⟨here, shows⟩⟩
  obtain ⟨cs, rfl, shows⟩ := chosen
  obtain ⟨e, line, entered, shows, -⟩ := exists_inferred wf cs schema hf shows
  exact ⟨e, line, entered.grown, shows⟩

theorem discharge (discharge : rule.Discharge f x y) (hx : x.Lettered)
    (leads : Leads (x :: Γ) y) : Leads Γ f := by
  intro d G wf shown
  obtain ⟨e₁, s, suppose, restsS⟩ := exists_supposed wf hx
  have wf₁ := suppose.grown.wellFormed wf
  let H (p : Line) : Prop := G p ∨ p = s
  have showsS : Shows e₁ H x s :=
    ⟨suppose.mem, suppose.formula, fun p rests => .inr ((restsS p).mp rests)⟩
  have shown₁ : ∀ g ∈ x :: Γ, ∃ line, Shows e₁ H g line := by
    intro g member
    rcases List.mem_cons.mp member with rfl | member
    · exact ⟨s, showsS⟩
    · exact (shown g member).imp fun _ shows => shows.grow wf suppose.grown fun _ => .inl
  obtain ⟨e₂, c, grown₂, showsC⟩ := leads e₁ H wf₁ shown₁
  have wf₂ := grown₂.wellFormed wf₁
  have showsS₂ := showsS.grow wf₁ grown₂ fun _ => id
  -- `c` may have been derived without the supposition, and could then not be cited with it
  obtain ⟨e₃, c', grown₃, showsC', anchored⟩ := exists_anchored wf₂ showsS₂ showsC
  have wf₃ := grown₃.wellFormed wf₂
  have inS := grown₃.mem showsS₂.mem
  have supposed : s.isSupposition = true := by simp [Line.isSupposition, suppose.rule]
  have bare := wf₁.bare_of_supposition suppose.mem supposed
  have rests : RestsOn e₃.lines c' s := anchored s (.self bare)
  obtain ⟨discharges, lettered⟩ := discharge.discharges_lettered
  have hf := lettered hx (showsC'.lettered wf₃)
  rw [← suppose.formula, ← showsC'.formula] at discharge
  obtain ⟨e₄, line, entered, grounds⟩ :=
    exists_discharged wf₃ supposed inS showsC'.mem rests discharge hf discharges
  refine ⟨e₄, line, ?_, entered.mem, entered.formula, fun p below => ?_⟩
  · exact suppose.grown.trans (grown₂.trans (grown₃.trans entered.grown))
  · obtain ⟨reached, notS⟩ := grounds p below
    exact (showsC'.grounds p reached).resolve_right notS

end Leads
end NaturalDeduction
