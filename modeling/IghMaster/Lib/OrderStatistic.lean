import Mathlib.Data.List.Basic
import Mathlib.Order.Lattice

/-!
# The middle of a sorted list

Entries are ordered by a key. An entry of a sorted list bounds how many others lie beyond it, so that an
interval that holds more than half of them holds the middle one.
-/

namespace OrderStatistic

variable {α β : Type*} [LinearOrder β] (key : α → β)

def IsSorted (entries : List α) : Prop := entries.Pairwise fun first second => key first ≤ key second

def countIn (lower upper : β) (entries : List α) : Nat :=
  entries.countP fun entry => lower ≤ key entry && key entry ≤ upper

/-- The upper one of the two middle entries where their number is even. -/
def medianBy (entries : List α) : Option α :=
  (entries.mergeSort fun first second => key first ≤ key second)[entries.length / 2]?

section Sorted

variable {key} {entries : List α} {index : Nat} {lower upper : β}

/-- Up to an entry below the interval there is none inside. -/
theorem countIn_le_of_lt (hsorted : IsSorted key entries) (hindex : index < entries.length)
    (hbelow : key entries[index] < lower) :
    countIn key lower upper entries ≤ entries.length - (index + 1) := by
  have hnone : (entries.take (index + 1)).countP
      (fun entry => lower ≤ key entry && key entry ≤ upper) = 0 := by
    rw [List.countP_eq_zero]
    intro entry hmem hinside
    obtain ⟨position, hposition, rfl⟩ := List.mem_iff_getElem.mp hmem
    rw [List.length_take] at hposition
    rw [List.getElem_take, Bool.and_eq_true, decide_eq_true_eq] at hinside
    have hle : key entries[position] ≤ key entries[index] := by
      rcases Nat.lt_or_eq_of_le (by omega : position ≤ index) with hlt | rfl
      · exact List.pairwise_iff_getElem.mp hsorted position index (by omega) hindex hlt
      · exact le_refl _
    exact absurd (hinside.1.trans hle) (not_le.mpr hbelow)
  calc countIn key lower upper entries
      = (entries.take (index + 1)).countP _ + (entries.drop (index + 1)).countP _ := by
        rw [← List.countP_append, List.take_append_drop]
        rfl
    _ = (entries.drop (index + 1)).countP _ := by rw [hnone, Nat.zero_add]
    _ ≤ (entries.drop (index + 1)).length := List.countP_le_length
    _ = entries.length - (index + 1) := List.length_drop

/-- From an entry above the interval on there is none inside. -/
theorem countIn_le_of_gt (hsorted : IsSorted key entries) (hindex : index < entries.length)
    (habove : upper < key entries[index]) : countIn key lower upper entries ≤ index := by
  have hnone : (entries.drop index).countP
      (fun entry => lower ≤ key entry && key entry ≤ upper) = 0 := by
    rw [List.countP_eq_zero]
    intro entry hmem hinside
    obtain ⟨position, hposition, rfl⟩ := List.mem_iff_getElem.mp hmem
    rw [List.length_drop] at hposition
    rw [List.getElem_drop, Bool.and_eq_true, decide_eq_true_eq, decide_eq_true_eq] at hinside
    have hle : key entries[index] ≤ key entries[index + position] := by
      rcases Nat.eq_zero_or_pos position with rfl | hpos
      · exact le_refl _
      · exact List.pairwise_iff_getElem.mp hsorted index (index + position) hindex (by omega) (by omega)
    exact absurd (hle.trans hinside.2) (not_le.mpr habove)
  calc countIn key lower upper entries
      = (entries.take index).countP _ + (entries.drop index).countP _ := by
        rw [← List.countP_append, List.take_append_drop]
        rfl
    _ = (entries.take index).countP _ := by rw [hnone, Nat.add_zero]
    _ ≤ (entries.take index).length := List.countP_le_length
    _ ≤ index := List.length_take_le index entries

theorem middle_mem_of_majority (hsorted : IsSorted key entries)
    (hindex : entries.length / 2 < entries.length)
    (hmajority : entries.length < 2 * countIn key lower upper entries) :
    lower ≤ key entries[entries.length / 2] ∧ key entries[entries.length / 2] ≤ upper := by
  constructor
  · by_contra hbelow
    have hcount : countIn key lower upper entries ≤ entries.length - (entries.length / 2 + 1) :=
      countIn_le_of_lt hsorted hindex (not_le.mp hbelow)
    omega
  · by_contra habove
    have hcount : countIn key lower upper entries ≤ entries.length / 2 :=
      countIn_le_of_gt hsorted hindex (not_le.mp habove)
    omega

end Sorted

section Median

variable {key} {entries : List α} {median : α} {lower upper : β}

theorem isSorted_mergeSort (entries : List α) :
    IsSorted key (entries.mergeSort fun first second => key first ≤ key second) := by
  have htrans : ∀ first second third : α, decide (key first ≤ key second) = true →
      decide (key second ≤ key third) = true → decide (key first ≤ key third) = true := by
    intro first second third hfirst hsecond
    rw [decide_eq_true_eq] at hfirst hsecond ⊢
    exact hfirst.trans hsecond
  have htotal : ∀ first second : α,
      (decide (key first ≤ key second) || decide (key second ≤ key first)) = true := by
    intro first second
    rw [Bool.or_eq_true, decide_eq_true_eq, decide_eq_true_eq]
    exact le_total _ _
  exact (List.pairwise_mergeSort htrans htotal entries).imp fun hle => of_decide_eq_true hle

theorem mem_of_medianBy (hmedian : medianBy key entries = some median) : median ∈ entries :=
  List.mem_mergeSort.mp (List.mem_of_getElem? hmedian)

theorem medianBy_isSome (hsome : entries ≠ []) : (medianBy key entries).isSome = true := by
  have hpos := List.length_pos_iff.mpr hsome
  rw [medianBy, List.getElem?_eq_getElem (by rw [List.length_mergeSort]; omega)]
  rfl

/-- **A median is robust**: it lies in every interval that holds more than half of the entries. -/
theorem medianBy_mem_of_majority (hmedian : medianBy key entries = some median)
    (hmajority : entries.length < 2 * countIn key lower upper entries) :
    lower ≤ key median ∧ key median ≤ upper := by
  obtain ⟨hindex, hvalue⟩ := List.getElem?_eq_some_iff.mp hmedian
  have hsorted : IsSorted key (entries.mergeSort fun first second => key first ≤ key second) :=
    isSorted_mergeSort entries
  have hperm := List.mergeSort_perm entries fun first second => decide (key first ≤ key second)
  have hcount : countIn key lower upper
      (entries.mergeSort fun first second => key first ≤ key second) =
        countIn key lower upper entries := hperm.countP_eq _
  rw [← hcount, ← hperm.length_eq] at hmajority
  simp only [← hperm.length_eq] at hindex hvalue
  rw [← hvalue]
  exact middle_mem_of_majority hsorted hindex hmajority

/-- Where all entries count, so does each of them. -/
theorem mem_of_countIn_eq_length {entry : α} (hmem : entry ∈ entries)
    (hall : countIn key lower upper entries = entries.length) :
    lower ≤ key entry ∧ key entry ≤ upper := by
  have hinside := List.countP_eq_length.mp hall entry hmem
  rw [Bool.and_eq_true, decide_eq_true_eq, decide_eq_true_eq] at hinside
  exact hinside

theorem countIn_le_length : countIn key lower upper entries ≤ entries.length :=
  List.countP_le_length

end Median

end OrderStatistic
