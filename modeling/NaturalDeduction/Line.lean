import NaturalDeduction.Formula.Basic
import NaturalDeduction.Json.Basic
import NaturalDeduction.Rule.Basic

/-! Numbered proof lines: a formula, the rule that gives it and the lines the rule cites. The
citations of a line are kept in ascending order, with repeats, and what it rests on is listed
without. A line that cites nothing rests on itself. Any other line rests on all that its citations
rest on, except that a rule which discharges drops the suppositions it cites directly. Earlier lines
are resolved once each, in order, into a table. Lines may carry any index and cite anything, so a
look-up can fail. -/
namespace NaturalDeduction

namespace Ascending

def placeBy {α : Type} (key : α → Int) (a : α) : List α → List α
  | [] => [a]
  | b :: rest => if key a ≤ key b then a :: b :: rest else b :: placeBy key a rest

/-- Items with equal keys stay in order. -/
def sortBy {α : Type} (key : α → Int) : List α → List α
  | [] => []
  | a :: rest => placeBy key a (sortBy key rest)

def sort (is : List Int) : List Int := sortBy id is

def adjoin (i : Int) : List Int → List Int
  | [] => [i]
  | j :: rest =>
      if i < j then i :: j :: rest
      else if i = j then j :: rest
      else j :: adjoin i rest

def distinct : List Int → List Int
  | [] => []
  | i :: rest => adjoin i (distinct rest)

end Ascending

/-- A line as it is stored: everything but its index, as text and numbers. -/
structure Entry where
  formula : String
  rule : String
  citations : List Number
  deriving DecidableEq, Repr

structure Line where
  index : Int
  formula : Formula
  rule : Rule
  citations : List Int
  deriving DecidableEq, Repr

def listed (indices : List Int) : String := ", ".intercalate (indices.map toString)

namespace Line

def citing (index : Int) (formula : Formula) (rule : Rule) (citations : List Int) : Line :=
  ⟨index, formula, rule, Ascending.sort citations⟩

def isSupposition (line : Line) : Bool := line.rule = .supposition

def text (line : Line) : String :=
  line.formula.text ++ " [" ++ listed line.citations ++ "][" ++ line.rule.shorthand ++ "]"

def entry (line : Line) : Entry :=
  ⟨line.formula.text, line.rule.shorthand, line.citations.map .int⟩

def describe (line : Line) : String :=
  "Line(" ++ toString line.index ++ ", " ++ Text.quoted line.formula.text ++ ", " ++
    Text.quoted line.rule.shorthand ++ ", [" ++ listed line.citations ++ "])"

end Line

inductive Fault where
  | unresolved (index : Int)
  | outOfRange
  /-- A line is cited by a number that is not an integer. -/
  | notInteger
  deriving DecidableEq, Repr

def Fault.message : Fault → String
  | unresolved index => toString index
  | outOfRange => "list index out of range"
  | notInteger => "list indices must be integers or slices, not float"

/-- The line at a position; a negative position counts from the end. -/
def lineAt (lines : List Line) (position : Int) : Except Fault Line :=
  let offset := if position < 0 then position + lines.length else position
  if offset < 0 then .error .outOfRange
  else
    match lines[offset.toNat]? with
    | some line => .ok line
    | none => .error .outOfRange

def linesBefore (lines : List Line) (position : Int) : List Line :=
  if position < 0 then lines.take (position + lines.length).toNat else lines.take position.toNat

/-- Dependency lists of resolved lines by index, the latest first. -/
abbrev DependencyTable := List (Int × List Int)

def DependencyTable.find (table : DependencyTable) (index : Int) : Except Fault (List Int) :=
  match table.lookup index with
  | some dependencies => .ok dependencies
  | none => .error (.unresolved index)

namespace Line

/-- Whether a discharging line keeps a dependency: it does unless it cites that line and the line
is a supposition. -/
def keeps (lines : List Line) (line : Line) (dependency : Int) : Except Fault Bool :=
  if dependency ∈ line.citations then do
    let cited ← lineAt lines dependency
    return !cited.isSupposition
  else return true

def sift (lines : List Line) (line : Line) : List Int → Except Fault (List Int)
  | [] => return []
  | dependency :: rest => do
      let kept ← line.keeps lines dependency
      let others ← line.sift lines rest
      return if kept then dependency :: others else others

def resolve (lines : List Line) (table : DependencyTable) (line : Line) :
    Except Fault (List Int) :=
  match line.citations with
  | [] => return [line.index]
  | citations => do
      let inherited ← citations.mapM table.find
      let dependencies := Ascending.distinct inherited.flatten
      if line.rule.discharges then line.sift lines dependencies else return dependencies

end Line

def tabulate (lines earlier : List Line) : Except Fault DependencyTable :=
  earlier.foldlM (fun table line => do
    let dependencies ← line.resolve lines table
    return (line.index, dependencies) :: table) []

namespace Line

/-- The ascending indices of the premises and suppositions that the line rests on. -/
def dependencies (lines : List Line) (line : Line) : Except Fault (List Int) := do
  let table ← tabulate lines (linesBefore lines line.index)
  line.resolve lines table

def restsOnSupposition (lines : List Line) : List Int → Except Fault Bool
  | [] => return false
  | dependency :: rest => do
      let line ← lineAt lines dependency
      if line.isSupposition then return true else restsOnSupposition lines rest

def hasOpenSupposition (lines : List Line) (line : Line) : Except Fault Bool := do
  let dependencies ← line.dependencies lines
  restsOnSupposition lines dependencies

end Line

end NaturalDeduction
