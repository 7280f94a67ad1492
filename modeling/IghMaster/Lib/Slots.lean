import Mathlib.Data.Finset.Interval
import Mathlib.Order.Interval.Finset.Nat

/-!
# Slots of a period

The times that lie whole periods after a start, how many of them have passed at some moment, and the
first that is still ahead.
-/

namespace Slots

def slot (start period count : Nat) : Nat := start + count * period

/-- The slots after the start that are not ahead any more. -/
def passed (start period now : Nat) : Nat :=
  ((Finset.Icc 1 now).filter fun count => slot start period count ≤ now).card

variable {start period now : Nat}

theorem slot_succ (count : Nat) :
    slot start period (count + 1) = slot (start + period) period count := by
  rw [slot, slot, Nat.succ_mul]
  omega

theorem slot_le_iff (hperiod : 0 < period) (count : Nat) (hcount : 0 < count) :
    slot start period count ≤ now ↔ count ≤ (now - start) / period := by
  rw [Nat.le_div_iff_mul_le hperiod, slot]
  have hpositive : 0 < count * period := Nat.mul_pos hcount hperiod
  omega

theorem passed_eq (hperiod : 0 < period) : passed start period now = (now - start) / period := by
  have hslots : (Finset.Icc 1 now).filter (fun count => slot start period count ≤ now) =
      Finset.Icc 1 ((now - start) / period) := by
    ext count
    rw [Finset.mem_filter, Finset.mem_Icc, Finset.mem_Icc]
    constructor
    · rintro ⟨⟨hcount, _⟩, hslot⟩
      exact ⟨hcount, (slot_le_iff hperiod count hcount).mp hslot⟩
    · rintro ⟨hcount, hle⟩
      have hquotient : (now - start) / period ≤ now - start := Nat.div_le_self _ _
      exact ⟨⟨hcount, by omega⟩, (slot_le_iff hperiod count hcount).mpr hle⟩
  rw [passed, hslots, Nat.card_Icc, Nat.add_sub_cancel]

/-- The slot that follows those that have passed is ahead. -/
theorem lt_slot_passed_succ (hperiod : 0 < period) :
    now < slot start period (passed start period now + 1) := by
  by_contra hle
  have hpassed := (slot_le_iff hperiod _ (Nat.succ_pos _)).mp (not_lt.mp hle)
  rw [passed_eq hperiod] at hpassed
  omega

/-- It is at most a period ahead. -/
theorem slot_passed_succ_le (hperiod : 0 < period) (hstart : start ≤ now) :
    slot start period (passed start period now + 1) ≤ now + period := by
  have hpassed := Nat.div_mul_le_self (now - start) period
  rw [slot, passed_eq hperiod, Nat.succ_mul]
  omega

theorem start_lt_slot_succ (hperiod : 0 < period) (count : Nat) :
    start < slot start period (count + 1) := by
  have hpositive : 0 < (count + 1) * period := Nat.mul_pos (Nat.succ_pos count) hperiod
  rw [slot]
  omega

theorem slot_sub_start (count : Nat) : slot start period count - start = count * period :=
  Nat.add_sub_cancel_left ..

/-- Before the second slot none has passed but the first. -/
theorem passed_of_lt (hperiod : 0 < period) (hahead : now < start + period) :
    passed start period now = 0 := by
  rw [passed_eq hperiod]
  exact Nat.div_eq_of_lt (by omega)

/-- Counting from the next slot leaves one out. -/
theorem passed_next (hperiod : 0 < period) (hle : start + period ≤ now) :
    passed start period now = passed (start + period) period now + 1 := by
  have hsplit : now - start = now - (start + period) + period := by omega
  rw [passed_eq hperiod, passed_eq hperiod, hsplit, Nat.add_div_right _ hperiod]

end Slots
