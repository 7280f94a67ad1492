import IghMaster.InitialPosition
import IghMaster.Proof.BackendAxes

/-!
# Robust initial positions

Whichever rule selects the initial position, it selects one of the values read, and the values of a
minority do not move it.
-/

namespace IghMaster

open OrderStatistic

namespace Servo

theorem chooseInitialPosition_of_many {reads : List Int32} (hmany : 3 ≤ reads.length) :
    chooseInitialPosition reads = medianBy Int32.toInt reads := if_pos hmany

theorem chooseInitialPosition_of_few {reads : List Int32} (hfew : reads.length < 3) :
    chooseInitialPosition reads = (reads.find? fun value => value != 0).or reads.getLast? :=
  if_neg (not_le.mpr hfew)

theorem mem_of_chooseInitialPosition {reads : List Int32} {position : Int32}
    (hchosen : chooseInitialPosition reads = some position) : position ∈ reads := by
  by_cases hmany : 3 ≤ reads.length
  · rw [chooseInitialPosition_of_many hmany] at hchosen
    exact mem_of_medianBy hchosen
  · rw [chooseInitialPosition_of_few (not_le.mp hmany), Option.or_eq_some_iff] at hchosen
    rcases hchosen with hnonzero | ⟨_, hlast⟩
    · exact List.mem_of_find?_eq_some hnonzero
    · exact List.mem_of_getLast? hlast

theorem chooseInitialPosition_isSome {reads : List Int32} (hreads : reads ≠ []) :
    (chooseInitialPosition reads).isSome = true := by
  by_cases hmany : 3 ≤ reads.length
  · rw [chooseInitialPosition_of_many hmany]
    exact medianBy_isSome hreads
  · rw [chooseInitialPosition_of_few (not_le.mp hmany), Option.isSome_or,
      List.getLast?_isSome.mpr hreads, Bool.or_true]

/-- Of at most two values a majority is both, and of more the median follows it. -/
theorem chooseInitialPosition_mem_of_majority {reads : List Int32} {position : Int32}
    (hchosen : chooseInitialPosition reads = some position) {lower upper : Int}
    (hmajority : MajorityIn lower upper reads) :
    lower ≤ position.toInt ∧ position.toInt ≤ upper := by
  by_cases hmany : 3 ≤ reads.length
  · rw [chooseInitialPosition_of_many hmany] at hchosen
    exact medianBy_mem_of_majority hchosen hmajority
  · have hall : countIn Int32.toInt lower upper reads = reads.length := by
      have hle : countIn Int32.toInt lower upper reads ≤ reads.length := countIn_le_length
      rw [MajorityIn] at hmajority
      omega
    exact mem_of_countIn_eq_length (mem_of_chooseInitialPosition hchosen) hall

theorem positionedFrom_setInitialPosition (reads : List Int32) (axis : Axis) :
    axis.PositionedFrom reads (setInitialPosition reads axis) := by
  constructor
  · intro hreads
    obtain ⟨position, hchosen⟩ := Option.isSome_iff_exists.mp (chooseInitialPosition_isSome hreads)
    refine ⟨position, mem_of_chooseInitialPosition hchosen, ?_, fun lower upper hmajority =>
      chooseInitialPosition_mem_of_majority hchosen hmajority⟩
    rw [setInitialPosition, hchosen]
    exact ⟨rfl, rfl, rfl⟩
  · rintro rfl
    rfl

/-- **The initial position is robust** for every motor of a servo that is initialised and not yet
activated. -/
theorem initial_position_robust (uploads : Nat → Fin readCount → SdoUpload) (servo : Servo)
    (hinitialized : servo.initialized = true) (hidle : servo.activated = false) (index : Nat)
    (axis : Axis) (haxis : servo.axes[index]? = some axis) (hmotion : axis.isMotion = true) :
    ∃ after, (servo.initializePositionsFromSdo fun motor =>
        readValues (uploads motor)).1.axes[index]? = some after ∧
      axis.PositionedFrom (readValues (uploads index)) after := by
  refine ⟨setInitialPosition (readValues (uploads index)) axis, ?_,
    positionedFrom_setInitialPosition _ axis⟩
  rw [Backend.getElem?_initializePositionsFromSdo, haxis, hinitialized, hidle, Option.map_some]
  simp [hmotion]

/-- An upload that fails and one far off leave three of four values that count. -/
theorem initial_position_robust_outlier :
    ∃ axis after, preparedServo.axes[0]? = some axis ∧
      (preparedServo.initializePositionsFromSdo fun motor =>
        readValues (outlierUploads motor)).1.axes[0]? = some after ∧
          axis.PositionedFrom (readValues (outlierUploads 0)) after := by
  obtain ⟨axis, haxis⟩ : ∃ axis, preparedServo.axes[0]? = some axis :=
    Option.isSome_iff_exists.mp (by decide +kernel)
  have hmotion : preparedServo.axes[0]?.map Axis.isMotion = some true := by decide +kernel
  rw [haxis, Option.map_some, Option.some.injEq] at hmotion
  obtain ⟨after, hafter, hpositioned⟩ := initial_position_robust outlierUploads preparedServo
    (by decide +kernel) (by decide +kernel) 0 axis haxis hmotion
  exact ⟨axis, after, haxis, hafter, hpositioned⟩

end Servo

end IghMaster
