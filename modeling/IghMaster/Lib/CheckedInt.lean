/-!
# Signed arithmetic that may overflow

Integers in a signed range, and the operations of a language in which a result outside the range has
no meaning: there they have no value. The range holds `-bound` and everything up to `bound`, without it.
-/

namespace CheckedInt

variable (bound : Int)

def fits (value : Int) : Bool := -bound ≤ value && value < bound

@[simp]
theorem fits_eq_true_iff {bound value : Int} :
    fits bound value = true ↔ -bound ≤ value ∧ value < bound := by
  rw [fits, Bool.and_eq_true, decide_eq_true_eq, decide_eq_true_eq]

def checked (value : Int) : Option Int := if fits bound value then some value else none

def add (first second : Int) : Option Int := checked bound (first + second)

def sub (first second : Int) : Option Int := checked bound (first - second)

def quot (first second : Int) : Option Int :=
  if second = 0 then none else checked bound (first.tdiv second)

/-- The remainder has no value either where the quotient overflows. -/
def rem (first second : Int) : Option Int :=
  if second = 0 then none
  else if fits bound (first.tdiv second) then checked bound (first.tmod second)
  else none

section Values

variable {bound first second value : Int}

theorem checked_eq_some_iff {result : Int} :
    checked bound value = some result ↔ fits bound value = true ∧ result = value := by
  unfold checked
  split
  · rename_i hfits
    rw [Option.some.injEq]
    exact ⟨fun heq => ⟨hfits, heq.symm⟩, fun h => h.2.symm⟩
  · rename_i hnot
    exact iff_of_false (by simp) fun h => hnot h.1

theorem checked_of_fits (hfits : fits bound value = true) : checked bound value = some value :=
  if_pos hfits

theorem checked_of_not_fits (hnot : fits bound value = false) : checked bound value = none :=
  if_neg (by rw [hnot]; exact Bool.false_ne_true)

theorem fits_tdiv_of_pos (hfirst : fits bound first = true) (hsecond : 0 < second) :
    fits bound (first.tdiv second) = true := by
  rw [fits_eq_true_iff] at hfirst ⊢
  have hsmaller := Int.natAbs_tdiv_le_natAbs first second
  rcases Int.le_total 0 first with hnonneg | hneg
  · have hquot := Int.tdiv_nonneg hnonneg (Int.le_of_lt hsecond)
    omega
  · have hquot := Int.tdiv_nonneg (Int.neg_nonneg_of_nonpos hneg) (Int.le_of_lt hsecond)
    rw [Int.neg_tdiv] at hquot
    omega

theorem fits_tmod_of_pos (hsecond : 0 < second) (hfits : fits bound second = true) :
    fits bound (first.tmod second) = true := by
  rw [fits_eq_true_iff] at hfits ⊢
  have hlow := Int.lt_tmod_of_pos first hsecond
  have hhigh := Int.tmod_lt_of_pos first hsecond
  omega

/-- A remainder by a positive divisor never overflows. -/
theorem rem_of_pos (hfirst : fits bound first = true) (hsecond : 0 < second)
    (hfits : fits bound second = true) : rem bound first second = some (first.tmod second) := by
  unfold rem
  rw [if_neg (Int.ne_of_gt hsecond), if_pos (fits_tdiv_of_pos hfirst hsecond)]
  exact checked_of_fits (fits_tmod_of_pos hsecond hfits)

theorem quot_of_pos (hfirst : fits bound first = true) (hsecond : 0 < second) :
    quot bound first second = some (first.tdiv second) := by
  unfold quot
  rw [if_neg (Int.ne_of_gt hsecond)]
  exact checked_of_fits (fits_tdiv_of_pos hfirst hsecond)

end Values

end CheckedInt
