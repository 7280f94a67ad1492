import Mathlib.Algebra.Order.BigOperators.Group.List
import Mathlib.Algebra.Ring.Nat
import Mathlib.Data.List.GetD
import Mathlib.Tactic.Common

/-!
# Areas one after the other

Areas of the given sizes that begin where the one before ends share no address. Past the last size they
are empty.
-/

namespace Packing

def offset (sizes : List Nat) (index : Nat) : Nat := (sizes.take index).sum

theorem offset_mono (sizes : List Nat) {first second : Nat} (hle : first ≤ second) :
    offset sizes first ≤ offset sizes second := by
  have htake : sizes.take second = sizes.take first ++ (sizes.take second).drop first := by
    have hsplit := List.take_append_drop first (sizes.take second)
    rw [List.take_take, Nat.min_eq_left hle] at hsplit
    exact hsplit.symm
  rw [offset, offset, htake, List.sum_append]
  exact Nat.le_add_right _ _

theorem offset_succ (sizes : List Nat) (index : Nat) :
    offset sizes (index + 1) = offset sizes index + sizes.getD index 0 := by
  by_cases hlt : index < sizes.length
  · rw [offset, offset, List.take_succ_eq_append_getElem hlt, List.sum_append, List.sum_singleton,
      List.getD_eq_getElem _ _ hlt]
  · have hle : sizes.length ≤ index := Nat.le_of_not_lt hlt
    rw [offset, offset, List.take_of_length_le hle, List.take_of_length_le (hle.trans (Nat.le_succ _)),
      List.getD_eq_default _ _ hle, Nat.add_zero]

theorem offset_le_sum (sizes : List Nat) (index : Nat) : offset sizes index ≤ sizes.sum := by
  have hsum := congrArg List.sum (List.take_append_drop index sizes)
  rw [List.sum_append] at hsum
  unfold offset
  omega

/-- An area ends before a later one begins. -/
theorem offset_add_le (sizes : List Nat) {first second : Nat} (hlt : first < second) :
    offset sizes first + sizes.getD first 0 ≤ offset sizes second := by
  rw [← offset_succ]
  exact offset_mono sizes hlt

end Packing
