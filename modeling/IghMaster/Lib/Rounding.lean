import Mathlib.Algebra.Order.Floor.Ring
import Mathlib.Tactic.Linarith

/-!
# Rounding to integers

The conversions of a language from a number to an integer: towards zero, and to the nearest integer
with halves away from zero; and the clamp that comes before one. Bounds of the result are bounds of the
number.
-/

namespace Rounding

section Clamp

variable {K : Type*} [LinearOrder K] {lower upper number : K}

def clamp (lower upper number : K) : K :=
  if number < lower then lower else if upper < number then upper else number

theorem clamp_cases (lower upper number : K) :
    (number < lower ∧ clamp lower upper number = lower) ∨
      (upper < number ∧ clamp lower upper number = upper) ∨
        (lower ≤ number ∧ number ≤ upper ∧ clamp lower upper number = number) := by
  unfold clamp
  split
  · exact Or.inl ⟨‹_›, rfl⟩
  · rename_i hlower
    right
    split
    · exact Or.inl ⟨‹_›, rfl⟩
    · rename_i hupper
      exact Or.inr ⟨not_lt.mp hlower, not_lt.mp hupper, rfl⟩

theorem clamp_of_mem (hlower : lower ≤ number) (hupper : number ≤ upper) :
    clamp lower upper number = number := by
  unfold clamp
  rw [if_neg (not_lt.mpr hlower), if_neg (not_lt.mpr hupper)]

theorem le_clamp (hle : lower ≤ upper) : lower ≤ clamp lower upper number := by
  rcases clamp_cases lower upper number with ⟨-, heq⟩ | ⟨-, heq⟩ | ⟨hlower, -, heq⟩
  · exact heq.ge
  · rw [heq]
    exact hle
  · rw [heq]
    exact hlower

theorem clamp_le (hle : lower ≤ upper) : clamp lower upper number ≤ upper := by
  rcases clamp_cases lower upper number with ⟨-, heq⟩ | ⟨-, heq⟩ | ⟨-, hupper, heq⟩
  · rw [heq]
    exact hle
  · exact heq.le
  · rw [heq]
    exact hupper

theorem clamp_neg [Field K] [IsStrictOrderedRing K] (hle : lower ≤ upper) (number : K) :
    clamp (-upper) (-lower) (-number) = -clamp lower upper number := by
  rcases clamp_cases lower upper number with ⟨hlt, heq⟩ | ⟨hgt, heq⟩ | ⟨hlower, hupper, heq⟩
  · unfold clamp
    rw [if_neg (by linarith), if_pos (by linarith), if_pos hlt]
  · unfold clamp
    rw [if_pos (by linarith), if_neg (by linarith), if_pos hgt]
  · rw [heq, clamp_of_mem (by linarith) (by linarith)]

end Clamp

section Definitions

variable {K : Type*} [Field K] [LinearOrder K] [FloorRing K]

/-- Towards zero. -/
def truncate (number : K) : Int := if 0 ≤ number then ⌊number⌋ else ⌈number⌉

/-- To the nearest integer; a half goes away from zero. -/
def nearest (number : K) : Int :=
  if 0 ≤ number then ⌊number + 1 / 2⌋ else ⌈number - 1 / 2⌉

end Definitions

variable {K : Type*} [Field K] [LinearOrder K] [IsStrictOrderedRing K] [FloorRing K]
variable {number : K} {low high value : Int}

/-! ### Towards zero -/

@[simp]
theorem truncate_intCast (value : Int) : truncate (value : K) = value := by
  unfold truncate
  split
  · exact Int.floor_intCast value
  · exact Int.ceil_intCast value

/-- Truncation moves a number by less than one. -/
theorem abs_truncate_sub_lt (number : K) : |(truncate number : K) - number| < 1 := by
  unfold truncate
  rw [abs_lt]
  split
  · have hle := Int.floor_le number
    have hlt := Int.lt_floor_add_one number
    constructor <;> linarith
  · have hle := Int.le_ceil number
    have hlt := Int.ceil_lt_add_one number
    constructor <;> linarith

theorem le_truncate_iff (hlow : low ≤ 0) : low ≤ truncate number ↔ (low : K) - 1 < number := by
  have hcast : (low : K) ≤ 0 := by exact_mod_cast hlow
  unfold truncate
  split
  · rename_i hnonneg
    exact iff_of_true (Int.le_floor.mpr (le_trans hcast hnonneg)) (by linarith)
  · rw [← Int.sub_one_lt_iff, Int.lt_ceil]
    push_cast
    exact Iff.rfl

theorem truncate_lt_iff (hhigh : 0 < high) : truncate number < high ↔ number < high := by
  have hcast : (0 : K) < high := by exact_mod_cast hhigh
  unfold truncate
  split
  · exact Int.floor_lt
  · rename_i hneg
    have hceil : ⌈number⌉ ≤ 0 := by
      rw [Int.ceil_le, Int.cast_zero]
      exact le_of_not_ge hneg
    exact iff_of_true (lt_of_le_of_lt hceil hhigh) (lt_of_le_of_lt (le_of_not_ge hneg) hcast)

/-! ### To the nearest -/

theorem nearest_neg (number : K) : nearest (-number) = -nearest number := by
  unfold nearest
  rcases lt_trichotomy number 0 with hneg | hzero | hpos
  · rw [if_pos (by linarith), if_neg (by linarith), ← Int.floor_neg, neg_sub, add_comm,
      sub_eq_add_neg]
  · have hhalf : ⌊(1 / 2 : K)⌋ = 0 := by
      rw [Int.floor_eq_iff, Int.cast_zero]
      constructor <;> linarith
    rw [hzero, neg_zero, if_pos le_rfl, zero_add, hhalf, neg_zero]
  · rw [if_neg (by linarith), if_pos (by linarith), ← Int.ceil_neg, neg_add, sub_eq_add_neg]

theorem nearest_eq_zero_iff : nearest number = 0 ↔ -(1 / 2) < number ∧ number < 1 / 2 := by
  unfold nearest
  split
  · rw [Int.floor_eq_iff, Int.cast_zero]
    constructor
    · exact fun h => ⟨by linarith, by linarith [h.2]⟩
    · exact fun h => ⟨by linarith, by linarith [h.2]⟩
  · rw [Int.ceil_eq_iff, Int.cast_zero]
    constructor
    · exact fun h => ⟨by linarith [h.1], by linarith⟩
    · exact fun h => ⟨by linarith [h.1], by linarith⟩

theorem nearest_eq_iff_of_pos (hvalue : 0 < value) :
    nearest number = value ↔ (value : K) - 1 / 2 ≤ number ∧ number < value + 1 / 2 := by
  have hcast : (1 : K) ≤ value := by exact_mod_cast hvalue
  unfold nearest
  split
  · rw [Int.floor_eq_iff]
    constructor
    · exact fun h => ⟨by linarith [h.1], by linarith [h.2]⟩
    · exact fun h => ⟨by linarith [h.1], by linarith [h.2]⟩
  · rename_i hneg
    have hceil : ⌈number - 1 / 2⌉ ≤ 0 := by
      rw [Int.ceil_le, Int.cast_zero]
      linarith
    exact iff_of_false (by omega) fun h => by linarith [h.1]

theorem nearest_eq_iff_of_neg (hvalue : value < 0) :
    nearest number = value ↔ (value : K) - 1 / 2 < number ∧ number ≤ value + 1 / 2 := by
  have hmirror : nearest (-number) = -value ↔ _ := nearest_eq_iff_of_pos (by omega)
  rw [nearest_neg, neg_inj, Int.cast_neg] at hmirror
  rw [hmirror]
  constructor
  · exact fun h => ⟨by linarith [h.2], by linarith [h.1]⟩
  · exact fun h => ⟨by linarith [h.2], by linarith [h.1]⟩

@[simp]
theorem nearest_intCast (value : Int) : nearest (value : K) = value := by
  rcases Int.lt_trichotomy value 0 with hneg | hzero | hpos
  · exact (nearest_eq_iff_of_neg hneg).mpr ⟨by linarith, by linarith⟩
  · rw [hzero]
    exact nearest_eq_zero_iff.mpr ⟨by norm_num, by norm_num⟩
  · exact (nearest_eq_iff_of_pos hpos).mpr ⟨by linarith, by linarith⟩

theorem le_nearest (hle : (value : K) ≤ number) : value ≤ nearest number := by
  unfold nearest
  split
  · exact Int.le_floor.mpr (by linarith)
  · rw [← Int.sub_one_lt_iff, Int.lt_ceil]
    push_cast
    linarith

theorem nearest_le (hle : number ≤ (value : K)) : nearest number ≤ value := by
  have hmirror : -value ≤ nearest (-number) := le_nearest (by push_cast; linarith)
  rw [nearest_neg] at hmirror
  omega

/-! ### To the nearest, after a clamp -/

theorem le_nearest_clamp (hle : low ≤ high) :
    low ≤ nearest (clamp (low : K) high number) :=
  le_nearest (le_clamp (Int.cast_le.mpr hle))

theorem nearest_clamp_le (hle : low ≤ high) :
    nearest (clamp (low : K) high number) ≤ high :=
  nearest_le (clamp_le (Int.cast_le.mpr hle))

/-- The upper end of the range is also what everything above it comes to. -/
theorem nearest_clamp_eq_iff_of_pos (hlow : low ≤ 0) (hvalue : 0 < value) (hhigh : value ≤ high) :
    nearest (clamp (low : K) high number) = value ↔
      (value : K) - 1 / 2 ≤ number ∧ (number < value + 1 / 2 ∨ value = high) := by
  have hlowCast : (low : K) ≤ 0 := by exact_mod_cast hlow
  have hvalueCast : (1 : K) ≤ value := by exact_mod_cast hvalue
  have hhighCast : (value : K) ≤ high := by exact_mod_cast hhigh
  rcases clamp_cases (low : K) high number with ⟨hlt, heq⟩ | ⟨hgt, heq⟩ | ⟨-, hle, heq⟩
  · rw [heq, nearest_intCast]
    exact iff_of_false (by omega) fun h => by linarith [h.1]
  · rw [heq, nearest_intCast]
    constructor
    · exact fun h => ⟨by linarith, Or.inr h.symm⟩
    · rintro ⟨-, hlt | htop⟩
      · -- between the value and the next integer there is no other
        have hnext : (high : K) < value + 1 := by linarith
        have hint : high < value + 1 := by exact_mod_cast hnext
        omega
      · exact htop.symm
  · rw [heq, nearest_eq_iff_of_pos hvalue]
    constructor
    · exact fun h => ⟨h.1, Or.inl h.2⟩
    · rintro ⟨hge, hlt | htop⟩
      · exact ⟨hge, hlt⟩
      · rw [htop]
        exact ⟨htop ▸ hge, by linarith⟩

theorem nearest_clamp_eq_iff_of_neg (hhigh : 0 ≤ high) (hvalue : value < 0) (hlow : low ≤ value) :
    nearest (clamp (low : K) high number) = value ↔
      number ≤ (value : K) + 1 / 2 ∧ (value - 1 / 2 < number ∨ value = low) := by
  have hle : (low : K) ≤ high := Int.cast_le.mpr (by omega)
  have hmirror : nearest (clamp ((-high : Int) : K) (-low : Int) (-number)) = -value ↔ _ :=
    nearest_clamp_eq_iff_of_pos (by omega) (by omega) (by omega)
  rw [Int.cast_neg, Int.cast_neg, Int.cast_neg, clamp_neg hle, nearest_neg, neg_inj, neg_inj]
    at hmirror
  rw [hmirror]
  constructor
  · exact fun h => ⟨by linarith [h.1], h.2.imp_left fun hlt => by linarith⟩
  · exact fun h => ⟨by linarith [h.1], h.2.imp_left fun hlt => by linarith⟩

end Rounding
