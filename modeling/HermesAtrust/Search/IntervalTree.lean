import HermesAtrust.Search.LeastIndex
import Mathlib.Order.BoundedOrder.Basic

/-!
# An interval tree over the rows of a table

The nodes of the tree are positions of a table whose rows carry an interval.
They are ordered by the start of the interval, and each node knows the largest
end below it.  A query for a point skips a subtree in which every interval
ends before the point, and a right subtree in which every interval starts
behind it; what it skips cannot contain the point, so it keeps the least
accepted position of all rows that do.
-/

namespace HermesAtrust.Search

universe u

inductive IntervalTree (α : Type u) where
  | empty
  | node (index : Nat) (start stop maxEnd : α) (left right : IntervalTree α)

namespace IntervalTree

variable {α : Type u} [LinearOrder α]

/-- The largest end of a subtree. -/
def largestEnd [OrderBot α] : IntervalTree α → α
  | empty => ⊥
  | node _ _ _ maxEnd _ _ => maxEnd

/-- The balanced tree over positions that are sorted by the start of their
intervals. -/
def ofSorted [OrderBot α] (start stop : Nat → α) (indices : List Nat) : IntervalTree α :=
  if inhabited : indices.length / 2 < indices.length then
    let mid := indices.length / 2
    let index := indices[mid]
    let left := ofSorted start stop (indices.take mid)
    let right := ofSorted start stop (indices.drop (mid + 1))
    node index (start index) (stop index)
      (max (max (stop index) left.largestEnd) right.largestEnd) left right
  else
    empty
termination_by indices.length
decreasing_by
  · rw [List.length_take]
    omega
  · rw [List.length_drop]
    omega

/-- The least of the best position so far and the accepted positions whose
interval contains the point. -/
def find (point : α) (accept : Nat → Bool) :
    IntervalTree α → Option Nat → Option Nat
  | empty, best => best
  | node index start stop maxEnd left right, best =>
      if maxEnd < point then
        best
      else
        let afterLeft := find point accept left best
        let afterHere :=
          if start ≤ point ∧ point ≤ stop ∧
              afterLeft.all (index < ·) = true ∧ accept index = true then
            some index
          else
            afterLeft
        if start ≤ point then find point accept right afterHere else afterHere

section Queries

variable (start stop : Nat → α) (point : α) (accept : Nat → Bool)

/-- An accepted position whose interval contains the point. -/
def contains (index : Nat) : Bool :=
  decide (start index ≤ point) && decide (point ≤ stop index) && accept index

theorem contains_eq_false_of_start {index : Nat}
    (behind : point < start index) :
    contains start stop point accept index = false := by
  simp [contains, not_le_of_gt behind]

theorem contains_eq_false_of_stop {index : Nat} (before : stop index < point) :
    contains start stop point accept index = false := by
  simp [contains, not_le_of_gt before]

/-- The step of a query at a node. -/
theorem here_eq_foldl (index : Nat) (best : Option Nat) :
    (if start index ≤ point ∧ point ≤ stop index ∧
        best.all (index < ·) = true ∧ accept index = true then
      some index
    else
      best) =
      ([index].filter (contains start stop point accept)).foldl keepLeast
        best := by
  by_cases inside : contains start stop point accept index = true
  · rw [List.filter_cons_of_pos inside, List.filter_nil, List.foldl_cons,
      List.foldl_nil]
    simp only [contains, Bool.and_eq_true, decide_eq_true_eq] at inside
    obtain ⟨⟨after, within⟩, accepted⟩ := inside
    cases best with
    | none => simp [after, within, accepted, keepLeast]
    | some known => simp [after, within, accepted, keepLeast]
  · rw [List.filter_cons_of_neg inside, List.filter_nil, List.foldl_nil,
      if_neg]
    intro all
    apply inside
    simp [contains, all.1, all.2.1, all.2.2.2]

/-- Positions none of which contain the point change nothing. -/
theorem foldl_filter_of_none {indices : List Nat} (best : Option Nat)
    (outside :
      ∀ index ∈ indices, contains start stop point accept index = false) :
    (indices.filter (contains start stop point accept)).foldl keepLeast best =
      best := by
  have none :
      indices.filter (contains start stop point accept) = [] := by
    rw [List.filter_eq_nil_iff]
    intro index member
    simp [outside index member]
  rw [none, List.foldl_nil]

theorem split_at_mid {indices : List Nat} {mid : Nat}
    (bound : mid < indices.length) :
    indices = indices.take mid ++ indices[mid] :: indices.drop (mid + 1) := by
  rw [← List.drop_eq_getElem_cons bound, List.take_append_drop]

/-- No interval of the tree ends behind its largest end. -/
theorem stop_le_largestEnd [OrderBot α] (indices : List Nat) :
    ∀ index ∈ indices, stop index ≤ (ofSorted start stop indices).largestEnd := by
  fun_induction ofSorted start stop indices with
  | case1 indices inhabited mid index left right leftHypothesis rightHypothesis =>
      intro other member
      rw [split_at_mid inhabited] at member
      simp only [largestEnd]
      rcases List.mem_append.mp member with before | after
      · exact le_trans (leftHypothesis other before)
          (le_trans (le_max_right _ _) (le_max_left _ _))
      · rcases List.mem_cons.mp after with rfl | behind
        · exact le_trans (le_max_left _ _) (le_max_left _ _)
        · exact le_trans (rightHypothesis other behind) (le_max_right _ _)
  | case2 indices notInhabited =>
      intro other member
      have positive := List.length_pos_of_mem member
      exact absurd (by omega) notInhabited

/-- A query of the tree over sorted positions visits, in effect, all of
them. -/
theorem find_ofSorted [OrderBot α] {indices : List Nat}
    (sorted :
      indices.Pairwise fun first second => start first ≤ start second)
    (best : Option Nat) :
    find point accept (ofSorted start stop indices) best =
      (indices.filter (contains start stop point accept)).foldl keepLeast
        best := by
  fun_induction ofSorted start stop indices generalizing best with
  | case1 indices inhabited mid index left right leftHypothesis rightHypothesis =>
      have ends := stop_le_largestEnd start stop indices
      rw [ofSorted, dif_pos inhabited] at ends
      have split := split_at_mid inhabited
      rw [split] at sorted
      obtain ⟨leftSorted, restSorted, -⟩ := List.pairwise_append.mp sorted
      obtain ⟨behind, rightSorted⟩ := List.pairwise_cons.mp restSorted
      rw [find]
      by_cases past :
          max (max (stop index) left.largestEnd) right.largestEnd < point
      · rw [if_pos past]
        symm
        apply foldl_filter_of_none
        intro other member
        apply contains_eq_false_of_stop
        exact lt_of_le_of_lt (ends other member) past
      · rw [if_neg past]
        have whole :
            (indices.filter (contains start stop point accept)).foldl keepLeast
                best =
              ((indices.drop (mid + 1)).filter
                  (contains start stop point accept)).foldl keepLeast
                (([index].filter (contains start stop point accept)).foldl
                  keepLeast
                  (((indices.take mid).filter
                    (contains start stop point accept)).foldl keepLeast
                    best)) := by
          conv_lhs => rw [split]
          rw [List.filter_append, List.foldl_append,
            ← List.singleton_append, List.filter_append, List.foldl_append]
        have leftQuery := leftHypothesis leftSorted best
        have rightQuery := rightHypothesis rightSorted
        change find point accept left best = _ at leftQuery
        change ∀ best, find point accept right best = _ at rightQuery
        simp only [leftQuery, here_eq_foldl start stop point accept]
        rw [whole]
        by_cases reached : start index ≤ point
        · rw [if_pos reached]
          exact rightQuery _
        · rw [if_neg reached]
          symm
          apply foldl_filter_of_none
          intro other member
          apply contains_eq_false_of_start
          exact lt_of_lt_of_le (lt_of_not_ge reached) (behind other member)
  | case2 indices notInhabited =>
      have empty : indices = [] := by
        cases indices with
        | nil => rfl
        | cons head later =>
            rw [List.length_cons] at notInhabited
            omega
      rw [empty]
      rfl

end Queries

end IntervalTree

end HermesAtrust.Search
