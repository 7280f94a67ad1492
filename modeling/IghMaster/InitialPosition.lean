import IghMaster.EnableMachine
import IghMaster.Lib.OrderStatistic
import Mathlib.Data.Int.Order.Basic

/-!
# The reads of the initial position

The uploads of 0x6064 that `initializePositionsFromSDO` makes of each motor before the master is activated,
and what it may make of them.
-/

namespace IghMaster

/-- The outcome of one upload. -/
structure SdoUpload where
  ret : Int32
  resultSize : Nat
  actualPos : Int32
  deriving DecidableEq

/-- An upload counts where it succeeds and has the size of the position. -/
def SdoUpload.position (upload : SdoUpload) : Option Int32 :=
  if upload.ret = 0 ∧ upload.resultSize = 4 then some upload.actualPos else none

/-- `READ_COUNT`. -/
abbrev readCount : Nat := 5

def readValues (uploads : Fin readCount → SdoUpload) : List Int32 :=
  (List.ofFn uploads).filterMap SdoUpload.position

/-- More than half of the values lie in the interval. -/
def MajorityIn (lower upper : Int) (values : List Int32) : Prop :=
  values.length < 2 * OrderStatistic.countIn Int32.toInt lower upper values

namespace Axis

/-- The idle position, the target and the cached position are this one. -/
def StandsAt (position : Int32) (axis : Axis) : Prop :=
  axis.setpoints.idleInputPosition = position ∧ axis.setpoints.targetPosition = position ∧
    axis.last.actualPosition = position

/-- An axis stands at one of the values read, which follows the majority of them; without a value it is
left as it was. -/
structure PositionedFrom (values : List Int32) (before after : Axis) : Prop where
  chosen : values ≠ [] → ∃ position ∈ values, after.StandsAt position ∧
    ∀ lower upper, MajorityIn lower upper values →
      lower ≤ position.toInt ∧ position.toInt ≤ upper
  kept : values = [] → after = before

end Axis

/-! ### A servo with one NH17 module -/

/-- Initialised, and not yet activated. -/
def preparedServo : Servo :=
  (({} : Servo).initializeServo singleAxisBus singleAxisSetup.config.busCycleUs
    singleAxisSetup.config.cmdWatchdogMs singleAxisSetup.config.csvCmdWatchdog [nh17Config]).1

/-- The second upload times out and the fourth is far off. -/
def outlierUploads (_ : Nat) (attempt : Fin readCount) : SdoUpload :=
  match attempt with
  | 0 => ⟨0, 4, 1000⟩
  | 1 => ⟨-110, 0, 0⟩
  | 2 => ⟨0, 4, 1002⟩
  | 3 => ⟨0, 4, 2000000⟩
  | 4 => ⟨0, 4, 1001⟩

end IghMaster
