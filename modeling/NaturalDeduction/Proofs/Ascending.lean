import Mathlib.Data.List.Sort
import NaturalDeduction.Line

/-! Ascending lists. Sorting is insertion sort, and `distinct` lists a set in strictly increasing
order. -/
namespace NaturalDeduction.Ascending

theorem placeBy_eq_orderedInsert {α : Type} (key : α → Int) (a : α) (as : List α) :
    placeBy key a as = as.orderedInsert (key · ≤ key ·) a := by
  induction as with
  | nil => rfl
  | cons b rest ih => rw [placeBy, List.orderedInsert_cons, ih]

theorem sortBy_eq_insertionSort {α : Type} (key : α → Int) (as : List α) :
    sortBy key as = as.insertionSort (key · ≤ key ·) := by
  induction as with
  | nil => rfl
  | cons a rest ih => rw [sortBy, List.insertionSort_cons, ih, placeBy_eq_orderedInsert]

theorem sort_eq_insertionSort (is : List Int) : sort is = is.insertionSort (· ≤ ·) :=
  sortBy_eq_insertionSort id is

@[simp] theorem mem_sort {a : Int} {is : List Int} : a ∈ sort is ↔ a ∈ is := by
  rw [sort_eq_insertionSort, List.mem_insertionSort]

@[simp] theorem mem_adjoin {a i : Int} {is : List Int} : a ∈ adjoin i is ↔ a = i ∨ a ∈ is := by
  induction is with
  | nil => simp [adjoin]
  | cons j rest ih =>
    rw [adjoin]
    split
    · simp
    · split
      · rename_i same
        subst same
        simp
      · simp only [List.mem_cons, ih]
        constructor
        · rintro (h | h | h) <;> simp [h]
        · rintro (h | h | h) <;> simp [h]

@[simp] theorem mem_distinct {a : Int} {is : List Int} : a ∈ distinct is ↔ a ∈ is := by
  induction is with
  | nil => simp [distinct]
  | cons i rest ih => simp [distinct, ih]

theorem adjoin_pairwise {i : Int} {is : List Int} (strict : is.Pairwise (· < ·)) :
    (adjoin i is).Pairwise (· < ·) := by
  induction is with
  | nil => simp [adjoin]
  | cons j rest ih =>
    obtain ⟨least, tail⟩ := List.pairwise_cons.mp strict
    rw [adjoin]
    split
    · rename_i lt
      refine List.pairwise_cons.mpr ⟨?_, strict⟩
      intro b member
      rcases List.mem_cons.mp member with rfl | member
      · exact lt
      · exact Int.lt_trans lt (least b member)
    · split
      · exact strict
      · refine List.pairwise_cons.mpr ⟨?_, ih tail⟩
        intro b member
        rcases mem_adjoin.mp member with rfl | member
        · omega
        · exact least b member

theorem distinct_pairwise (is : List Int) : (distinct is).Pairwise (· < ·) := by
  induction is with
  | nil => exact List.Pairwise.nil
  | cons i rest ih => exact adjoin_pairwise ih

end NaturalDeduction.Ascending
