import Mathlib.Data.Nat.ModEq
import Mathlib.Tactic.Common

/-!
# Queues in a ring of slots

A queue occupies the slots from a tail on, around the end of the ring, and the head is the slot after its
last entry. One slot stays free, so that head and tail are equal just if the queue is empty.
-/

namespace RingBuffer

variable {Entry : Type*}

structure Holds (capacity : Nat) (buffer : Nat → Entry) (tail head : Nat) (queue : List Entry) :
    Prop where
  tail_lt : tail < capacity
  length_lt : queue.length < capacity
  head_eq : head = (tail + queue.length) % capacity
  entries : ∀ offset (hoffset : offset < queue.length),
    buffer ((tail + offset) % capacity) = queue[offset]

theorem mod_ne_of_lt {capacity tail first second : Nat} (hlt : first < second)
    (hsecond : second < first + capacity) : (tail + first) % capacity ≠ (tail + second) % capacity := by
  intro hsame
  have hcongruent : first ≡ second [MOD capacity] := Nat.ModEq.add_left_cancel' tail hsame
  obtain ⟨factor, hfactor⟩ := (Nat.modEq_iff_dvd' hlt.le).mp hcongruent
  rcases Nat.eq_zero_or_pos factor with rfl | hpos
  · rw [Nat.mul_zero] at hfactor
    omega
  · have hle := Nat.le_mul_of_pos_right capacity hpos
    omega

variable {capacity : Nat} {buffer : Nat → Entry} {tail head : Nat} {queue : List Entry}

theorem holds_nil (buffer : Nat → Entry) (htail : tail < capacity) :
    Holds capacity buffer tail tail [] where
  tail_lt := htail
  length_lt := Nat.lt_of_le_of_lt (Nat.zero_le tail) htail
  head_eq := (Nat.mod_eq_of_lt htail).symm
  entries := fun _ hoffset => absurd hoffset (Nat.not_lt_zero _)

namespace Holds

variable (hholds : Holds capacity buffer tail head queue)
include hholds

theorem head_lt : head < capacity := by
  rw [hholds.head_eq]
  exact Nat.mod_lt _ (Nat.lt_of_le_of_lt (Nat.zero_le _) hholds.tail_lt)

theorem tail_eq : tail = (tail + 0) % capacity := (Nat.mod_eq_of_lt hholds.tail_lt).symm

theorem empty_iff : tail = head ↔ queue = [] := by
  constructor
  · intro hsame
    by_contra hsome
    have hpos := List.length_pos_iff.mpr hsome
    have hlength := hholds.length_lt
    have hdistinct : (tail + 0) % capacity ≠ (tail + queue.length) % capacity :=
      mod_ne_of_lt hpos (by omega)
    rw [← hholds.tail_eq, ← hholds.head_eq] at hdistinct
    exact hdistinct hsame
  · rintro rfl
    rw [hholds.head_eq]
    exact hholds.tail_eq

theorem next_head : (head + 1) % capacity = (tail + (queue.length + 1)) % capacity := by
  rw [hholds.head_eq, Nat.mod_add_mod, Nat.add_assoc]

/-- The next head is the tail just if only the free slot is left. -/
theorem full_iff : (head + 1) % capacity = tail ↔ queue.length + 1 = capacity := by
  rw [hholds.next_head]
  constructor
  · intro hsame
    by_contra hroom
    have hlength := hholds.length_lt
    have hdistinct : (tail + 0) % capacity ≠ (tail + (queue.length + 1)) % capacity :=
      mod_ne_of_lt (Nat.succ_pos _) (by omega)
    rw [← hholds.tail_eq] at hdistinct
    exact hdistinct hsame.symm
  · intro hfull
    rw [hfull, Nat.add_mod_right]
    exact Nat.mod_eq_of_lt hholds.tail_lt

/-- The head is not one of the slots in use. -/
theorem slot_ne_head {offset : Nat} (hoffset : offset < queue.length) :
    (tail + offset) % capacity ≠ head := by
  have hlength := hholds.length_lt
  rw [hholds.head_eq]
  exact mod_ne_of_lt hoffset (by omega)

/-- What the slot at the head holds does not matter. -/
theorem congr {other : Nat → Entry} (hsame : ∀ index, index ≠ head → other index = buffer index) :
    Holds capacity other tail head queue where
  tail_lt := hholds.tail_lt
  length_lt := hholds.length_lt
  head_eq := hholds.head_eq
  entries := fun offset hoffset => by
    rw [hsame _ (hholds.slot_ne_head hoffset)]
    exact hholds.entries offset hoffset

theorem enqueue (hroom : queue.length + 1 < capacity) :
    Holds capacity buffer tail ((head + 1) % capacity) (queue ++ [buffer head]) where
  tail_lt := hholds.tail_lt
  length_lt := by
    rw [List.length_append]
    exact hroom
  head_eq := by
    rw [hholds.next_head, List.length_append]
    rfl
  entries := fun offset hoffset => by
    rw [List.length_append, List.length_singleton] at hoffset
    rcases Nat.lt_or_eq_of_le (Nat.le_of_lt_succ hoffset) with hold | rfl
    · rw [List.getElem_append_left hold]
      exact hholds.entries offset hold
    · rw [List.getElem_append_right (Nat.le_refl _), ← hholds.head_eq]
      simp

omit hholds in
theorem front {entry : Entry} {rest : List Entry}
    (hholds : Holds capacity buffer tail head (entry :: rest)) : buffer tail = entry := by
  have hfirst := hholds.entries 0 (Nat.succ_pos _)
  rwa [← hholds.tail_eq] at hfirst

omit hholds in
theorem dequeue {entry : Entry} {rest : List Entry}
    (hholds : Holds capacity buffer tail head (entry :: rest)) :
    Holds capacity buffer ((tail + 1) % capacity) head rest where
  tail_lt := Nat.mod_lt _ (Nat.lt_of_le_of_lt (Nat.zero_le _) hholds.tail_lt)
  length_lt := Nat.lt_of_succ_lt hholds.length_lt
  head_eq := by
    rw [hholds.head_eq, Nat.mod_add_mod, List.length_cons, Nat.add_right_comm, Nat.add_assoc]
  entries := fun offset hoffset => by
    have hentry := hholds.entries (offset + 1) (Nat.succ_lt_succ hoffset)
    rw [List.getElem_cons_succ] at hentry
    rw [← hentry, Nat.mod_add_mod, Nat.add_right_comm, Nat.add_assoc]

end Holds

end RingBuffer
