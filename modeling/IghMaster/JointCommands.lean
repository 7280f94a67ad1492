import IghMaster.Master
import IghMaster.UnitConversion

/-!
# Commands of an adapter

`cycle` as an adapter calls it: positions in radians, velocities in radians per second, efforts in
newton metres. The raw values come from the parameters that are stored at the time. A call in which a
conversion or `std::abs` has no value has no result.
-/

namespace IghMaster

/-- `180.0 / 3.14159265358979323846` as a `double`. -/
def radToDeg : Rat := 1007958012753983 / 17592186044416

/-- `AxisCommand`; a value that is not finite is absent. -/
structure JointCommand where
  position : Option Rat := none
  velocity : Option Rat := none
  effort : Option Rat := none
  enable : Bool := true
  operationMode : Int8 := 0
  velocityNs : Nat := 0
  torqueNs : Nat := 0
  deriving DecidableEq

/-- The check of `setTargetPosition` for a warning, `std::abs(position) > 100000000`. -/
def positionUnusual (position : Int32) : Option Bool :=
  (CheckedInt.checked (2 ^ 31) |position.toInt|).map (100000000 < ·)

namespace JointCommand

/-- A conversion that is made where the value is finite. -/
def convertSome (convert : Rat → Option Int32) (value : Option Rat) : Option (Option Int32) :=
  match value with
  | some value => (convert value).map some
  | none => some none

def convertPosition (params : MotorKinematicsParams) (position : Rat) : Option Int32 := do
  let pulse ← params.degreeToPulse (position * radToDeg)
  let _ ← positionUnusual pulse
  return pulse

def convertVelocity (params : MotorKinematicsParams) (velocity : Rat) : Option Int32 :=
  params.degreePerSecToPulsePerSec (velocity * radToDeg)

def toRaw (params : MotorKinematicsParams) (command : JointCommand) : Option AxisCommand := do
  let position ← convertSome (convertPosition params) command.position
  let velocity ← convertSome (convertVelocity params) command.velocity
  return {
    position
    velocity
    effort := command.effort.map params.outputTorqueToRaw
    enable := command.enable
    operationMode := command.operationMode
    velocityNs := command.velocityNs
    torqueNs := command.torqueNs }

/-- The commands of the axes from `index` on. -/
def toRawFrom (stored : List MotorKinematicsParams) (index : Nat) :
    List JointCommand → Option (List AxisCommand)
  | [] => some []
  | command :: rest => do
      let raw ← command.toRaw (MotorKinematics.get index stored)
      let others ← toRawFrom stored (index + 1) rest
      return raw :: others

end JointCommand

namespace Master

def cycleJoints (stored : List MotorKinematicsParams) (commands : Option (List JointCommand))
    (stateCount : Option Nat) (master : Master) : Option (Master × Option MasterError) :=
  if !master.running then some (master, some .notRunning)
  else
    match commands with
    | none => some (master, some .commandsTooShort)
    | some commands =>
        if commands.length < master.axisCount then some (master, some .commandsTooShort)
        else if stateCount.all (· < master.axisCount) then some (master, some .statesTooShort)
        else if master.backend.runtime.commFault then some (master, some .communicationFault)
        else if master.motionCommandsAuthorized && !master.backend.runtime.safeOutputRequired then do
          let raw ← JointCommand.toRawFrom stored 0 (commands.take master.axisCount)
          return ({ master with backend := master.backend.commandAxes raw }, none)
        else some (master, none)

/-- The commands that `cycle` carries out, each with its axis. -/
def commanded (commands : Option (List JointCommand)) (stateCount : Option Nat) (master : Master) :
    List (JointCommand × Nat) :=
  match commands with
  | none => []
  | some commands =>
      if master.running && !(commands.length < master.axisCount : Bool) &&
          !stateCount.all (· < master.axisCount) && !master.backend.runtime.commFault &&
          master.motionCommandsAuthorized && !master.backend.runtime.safeOutputRequired then
        (commands.take master.axisCount).zipIdx
      else []

end Master

end IghMaster
