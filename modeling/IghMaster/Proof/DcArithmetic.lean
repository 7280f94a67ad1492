import IghMaster.Proof.DcSlew
import IghMaster.Lib.CheckedInt

/-!
# The arithmetic of the PLL in `int32_t`

`process` computes the change of the difference, and the difference within half a cycle, in `int32_t`.
The difference may be any `int32_t`, so both computations can overflow: the exact condition is here,
and where it holds, the results are the ones of the exact integers that the rest of the model uses.
-/

namespace IghMaster

open CheckedInt Transition

namespace EtherCATSync

def int32Bound : Int := 2147483648

def checkedDelta (dcDiffNs prevDcDiffNs : Int) : Option Int := sub int32Bound dcDiffNs prevDcDiffNs

/-- `((dc_diff_ns_ + cycle / 2) % cycle + cycle) % cycle - cycle / 2`, step by step. -/
def checkedNormalise (cycle dcDiffNs : Int) : Option Int := do
  let half ← quot int32Bound cycle 2
  let shifted ← add int32Bound dcDiffNs half
  let remainder ← rem int32Bound shifted cycle
  let lifted ← add int32Bound remainder cycle
  let positive ← rem int32Bound lifted cycle
  sub int32Bound positive half

/-- Neither computation overflows, and for an even cycle time the normalised difference is the only
value within half a cycle that differs from the difference by whole cycles. -/
structure ComputesExactly (cycle prevDcDiffNs dcDiffNs : Int) : Prop where
  delta : checkedDelta dcDiffNs prevDcDiffNs = some (dcDiffNs - prevDcDiffNs)
  normalised : ∃ value, checkedNormalise cycle dcDiffNs = some value ∧
    (2 ∣ cycle → ∀ other, -(cycle / 2) ≤ other ∧ other < cycle / 2 ∧ cycle ∣ other - dcDiffNs ↔
      other = value)

/-- The difference is far enough from the ends of `int32_t`, and from the difference before it. -/
def StaysInRange (cycle prevDcDiffNs dcDiffNs : Int) : Prop :=
  (-int32Bound ≤ dcDiffNs - prevDcDiffNs ∧ dcDiffNs - prevDcDiffNs < int32Bound) ∧
    dcDiffNs + cycle / 2 < int32Bound ∧ (dcDiffNs + cycle / 2).tmod cycle + cycle < int32Bound

instance (cycle prevDcDiffNs dcDiffNs : Int) :
    Decidable (StaysInRange cycle prevDcDiffNs dcDiffNs) :=
  inferInstanceAs (Decidable (_ ∧ _ ∧ _))

theorem fits_int32 (value : Int32) : fits int32Bound value.toInt = true := by
  rw [fits_eq_true_iff]
  exact ⟨value.le_toInt, value.toInt_lt⟩

/-! ### The normalisation -/

section Cycle

variable {cycle : Int} (hcycle : 0 < cycle)
include hcycle

/-- For an even cycle time, the normalised difference is the only value of its kind. -/
theorem eq_normalise_iff {dcDiffNs : Int} (heven : 2 ∣ cycle) (other : Int) :
    -(cycle / 2) ≤ other ∧ other < cycle / 2 ∧ cycle ∣ other - dcDiffNs ↔
      other = normalise cycle dcDiffNs := by
  have hinside := isNormalised_normalise hcycle heven dcDiffNs
  have hwhole := dvd_normalise_sub hcycle dcDiffNs
  rw [isNormalised, Bool.and_eq_true, decide_eq_true_eq, decide_eq_true_eq] at hinside
  constructor
  · rintro ⟨hlow, hhigh, hother⟩
    have hsame : cycle ∣ other - normalise cycle dcDiffNs := by
      have hdvd := Int.dvd_sub hother hwhole
      have heq : other - dcDiffNs - (normalise cycle dcDiffNs - dcDiffNs) =
          other - normalise cycle dcDiffNs := by omega
      rw [heq] at hdvd
      exact hdvd
    obtain ⟨turns, hturns⟩ := hsame
    have hnone : turns = 0 := by
      by_contra hsome
      rcases Int.lt_or_gt_of_ne hsome with hneg | hpos
      · have hfar := Int.mul_le_mul_of_nonneg_left (show turns ≤ -1 by omega) (Int.le_of_lt hcycle)
        omega
      · have hfar := Int.mul_le_mul_of_nonneg_left (show 1 ≤ turns by omega) (Int.le_of_lt hcycle)
        omega
    rw [hnone, Int.mul_zero] at hturns
    omega
  · rintro rfl
    exact ⟨hinside.1, hinside.2, hwhole⟩

variable (hfits : fits int32Bound cycle = true)
include hfits

theorem checkedNormalise_eq {dcDiffNs : Int} (hdiff : fits int32Bound dcDiffNs = true) :
    checkedNormalise cycle dcDiffNs =
      if dcDiffNs + cycle / 2 < int32Bound ∧
          (dcDiffNs + cycle / 2).tmod cycle + cycle < int32Bound then
        some (normalise cycle dcDiffNs)
      else none := by
  have hhalf : cycle.tdiv 2 = cycle / 2 := Int.tdiv_eq_ediv_of_nonneg (Int.le_of_lt hcycle)
  have hquot : quot int32Bound cycle 2 = some (cycle / 2) := by
    rw [quot_of_pos hfits (by decide), hhalf]
  have hdiffRange := fits_eq_true_iff.mp hdiff
  have hcycleRange := fits_eq_true_iff.mp hfits
  unfold checkedNormalise
  rw [hquot, Option.bind_eq_bind, Option.bind_some]
  by_cases hshift : dcDiffNs + cycle / 2 < int32Bound
  · have hshifted : fits int32Bound (dcDiffNs + cycle / 2) = true := by
      rw [fits_eq_true_iff]
      omega
    have hadd : add int32Bound dcDiffNs (cycle / 2) = some (dcDiffNs + cycle / 2) :=
      checked_of_fits hshifted
    have hlow := Int.lt_tmod_of_pos (dcDiffNs + cycle / 2) hcycle
    rw [hadd, Option.bind_some, rem_of_pos hshifted hcycle hfits, Option.bind_some]
    by_cases hlift : (dcDiffNs + cycle / 2).tmod cycle + cycle < int32Bound
    · have hlifted : fits int32Bound ((dcDiffNs + cycle / 2).tmod cycle + cycle) = true := by
        rw [fits_eq_true_iff]
        omega
      have haddCycle : add int32Bound ((dcDiffNs + cycle / 2).tmod cycle) cycle =
          some ((dcDiffNs + cycle / 2).tmod cycle + cycle) := checked_of_fits hlifted
      have hnormalised : ((dcDiffNs + cycle / 2).tmod cycle + cycle).tmod cycle - cycle / 2 =
          normalise cycle dcDiffNs := by rw [normalise, hhalf]
      have hnonneg := Int.tmod_nonneg cycle
        (show 0 ≤ (dcDiffNs + cycle / 2).tmod cycle + cycle by omega)
      have hhigh := Int.tmod_lt_of_pos ((dcDiffNs + cycle / 2).tmod cycle + cycle) hcycle
      have hsub : sub int32Bound (((dcDiffNs + cycle / 2).tmod cycle + cycle).tmod cycle)
          (cycle / 2) = some (normalise cycle dcDiffNs) := by
        rw [← hnormalised]
        refine checked_of_fits ?_
        rw [fits_eq_true_iff]
        omega
      rw [if_pos ⟨hshift, hlift⟩, haddCycle, Option.bind_some, rem_of_pos hlifted hcycle hfits,
        Option.bind_some, hsub]
    · have hnone : add int32Bound ((dcDiffNs + cycle / 2).tmod cycle) cycle = none :=
        checked_of_not_fits (by rw [Bool.eq_false_iff, Ne, fits_eq_true_iff]; omega)
      rw [if_neg fun h => hlift h.2, hnone]
      rfl
  · have hnone : add int32Bound dcDiffNs (cycle / 2) = none :=
      checked_of_not_fits (by rw [Bool.eq_false_iff, Ne, fits_eq_true_iff]; omega)
    rw [if_neg fun h => hshift h.1, hnone]
    rfl

theorem computesExactly_iff_of_fits {prevDcDiffNs dcDiffNs : Int}
    (hdiff : fits int32Bound dcDiffNs = true) :
    ComputesExactly cycle prevDcDiffNs dcDiffNs ↔ StaysInRange cycle prevDcDiffNs dcDiffNs := by
  have hnormalise := checkedNormalise_eq hcycle hfits hdiff
  constructor
  · rintro ⟨hdelta, value, hvalue, -⟩
    refine ⟨fits_eq_true_iff.mp (checked_eq_some_iff.mp hdelta).1, ?_⟩
    rw [hnormalise] at hvalue
    split at hvalue
    · assumption
    · exact absurd hvalue (by simp)
  · rintro ⟨hdelta, hshift⟩
    refine ⟨checked_of_fits (fits_eq_true_iff.mpr hdelta), normalise cycle dcDiffNs, ?_, ?_⟩
    · rw [hnormalise, if_pos hshift]
    · exact fun heven other => eq_normalise_iff hcycle heven other

end Cycle

/-! ### The differences of a run -/

/-- The difference that an update remembers is the difference of some application and reference time. -/
theorem exists_rawDiff_prevDcDiffNs {sync : EtherCATSync} (hmaster : sync.hasMaster = true)
    (hstart : ∃ appTimeNs timeLow, sync.prevDcDiffNs = rawDiff appTimeNs timeLow)
    (calls : List DcInput) :
    ∃ appTimeNs timeLow, (machine.run sync calls).prevDcDiffNs = rawDiff appTimeNs timeLow := by
  induction calls generalizing sync with
  | nil => exact hstart
  | cons call calls ih =>
      have hnext := next_eq call hmaster
      refine ih ((memory_next _ hmaster).1.trans hmaster) ?_
      cases hupdates : updatesPll (machine.visit sync call) with
      | false =>
          have hmemory := memory_next_of_not_updatesPll hmaster hupdates
          have hprev : (machine.next sync call).prevDcDiffNs = sync.prevDcDiffNs :=
            congrArg PllMemory.prevDcDiffNs hmemory
          rw [hprev]
          exact hstart
      | true =>
          rw [hupdates, if_pos rfl] at hnext
          have hprev : (machine.next sync call).prevDcDiffNs =
              ((sync.enter call.appTimeNs).applyRead (sync.refRead call)).dcDiffNs := by
            rw [hnext]
            exact congrArg PllMemory.prevDcDiffNs (updatePll_kept _).1
          have hread : isRead (sync.refRead call) = true := (Bool.and_eq_true_iff.mp hupdates).1
          rw [hprev]
          cases houtcome : sync.refRead call with
          | read timeLow => exact ⟨call.appTimeNs, timeLow, rfl⟩
          | _ =>
              rw [houtcome] at hread
              exact absurd hread Bool.false_ne_true

/-- The computations of a call are exact just if they stay in range. -/
theorem computesExactly_iff (appTimeNs prevAppTimeNs : UInt64) (timeLow prevTimeLow : UInt32)
    (cycleTimeNs : UInt32) (hcycle : 0 < cycleTimeNs.toInt32.toInt) :
    ComputesExactly cycleTimeNs.toInt32.toInt (rawDiff prevAppTimeNs prevTimeLow)
        (rawDiff appTimeNs timeLow) ↔
      StaysInRange cycleTimeNs.toInt32.toInt (rawDiff prevAppTimeNs prevTimeLow)
        (rawDiff appTimeNs timeLow) :=
  computesExactly_iff_of_fits hcycle (fits_int32 _) (fits_int32 _)

theorem computesExactly_quarterMs :
    ComputesExactly twoMs.toInt32.toInt (rawDiff 0 0) (rawDiff 250000 0) :=
  (computesExactly_iff 250000 0 0 0 twoMs (by decide +kernel)).mpr (by decide +kernel)

/-- Two clocks half the range of 32 bits apart: the change of the difference leaves `int32_t`. -/
theorem not_alwaysComputesExactly :
    ¬ ∀ (appTimeNs prevAppTimeNs : UInt64) (timeLow prevTimeLow : UInt32) (cycleTimeNs : UInt32),
      0 < cycleTimeNs.toInt32.toInt →
        ComputesExactly cycleTimeNs.toInt32.toInt (rawDiff prevAppTimeNs prevTimeLow)
          (rawDiff appTimeNs timeLow) := by
  intro hall
  have hexact := hall 2147483648 2147483647 0 0 twoMs (by decide +kernel)
  have hdelta : checkedDelta (rawDiff 2147483648 0) (rawDiff 2147483647 0) = none := by
    decide +kernel
  rw [hexact.delta] at hdelta
  exact absurd hdelta (by simp)

end EtherCATSync

end IghMaster
