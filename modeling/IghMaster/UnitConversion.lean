import Mathlib.Data.Rat.Floor
import IghMaster.Lib.CheckedInt
import IghMaster.Lib.Rounding
import IghMaster.MotorKinematics

/-!
# Unit conversion

The conversions of `motor/motor_kinematics.cpp` for the parameters of one motor, in exact arithmetic.
Divisors are taken not to be zero, as in every profile. A conversion to `int32_t` of a number that does
not fit after truncation has no value; one to `int16_t` is clamped first and always has one.
-/

namespace IghMaster

def degreesPerRevolution : Rat := 360

/-- `static_cast<int32_t>`. -/
def toInt32 (number : Rat) : Option Int32 :=
  (CheckedInt.checked (2 ^ 31) (Rounding.truncate number)).map Int32.ofInt

/-- The end of every conversion to a raw torque. -/
def permilleToRaw (permille : Rat) : Int16 :=
  Int16.ofInt (Rounding.nearest (Rounding.clamp (-32768) 32767 permille))

namespace MotorKinematicsParams

def encoderFactor (params : MotorKinematicsParams) : Rat :=
  if params.outputSideEncoder then params.encoderResolution
  else params.gearRatio * params.encoderResolution

def velocityEncoderFactor (params : MotorKinematicsParams) : Rat :=
  if params.velocityOnMotorEncoder then
    params.gearRatio *
      (if 0 < params.motorEncoderResolution then params.motorEncoderResolution else 65536)
  else
    params.encoderFactor

/-! ### Position and velocity -/

def pulseToDegree (pulse : Int32) (params : MotorKinematicsParams) : Rat :=
  pulse.toInt / params.encoderFactor * degreesPerRevolution * params.jointDirection +
    params.positionOffsetDeg

def degreeToPulse (degree : Rat) (params : MotorKinematicsParams) : Option Int32 :=
  let motorDegree := (degree - params.positionOffsetDeg) / params.jointDirection
  toInt32 (motorDegree / degreesPerRevolution * params.encoderFactor)

def pulsePerSecToDegreePerSec (pulsePerSec : Int32) (params : MotorKinematicsParams) : Rat :=
  pulsePerSec.toInt / params.velocityEncoderFactor * degreesPerRevolution * params.jointDirection

def degreePerSecToPulsePerSec (degreePerSec : Rat) (params : MotorKinematicsParams) :
    Option Int32 :=
  toInt32 (degreePerSec / params.jointDirection / degreesPerRevolution *
    params.velocityEncoderFactor)

/-! ### Torque and current -/

def useCurrentBasedTorqueFormula (params : MotorKinematicsParams) : Bool :=
  0 < params.maxCurrentMa && 0 < params.torqueConstantKt

def outputTorqueScale (params : MotorKinematicsParams) : Rat :=
  if params.useCurrentBasedTorqueFormula then
    params.maxCurrentMa / 1000 * params.torqueConstantKt * params.torqueGearRatio *
      params.gearEfficiency
  else
    params.ratedTorqueMotor * params.torqueGearRatio

def rawTorqueToMotorTorque (torqueRaw : Int16) (params : MotorKinematicsParams) : Rat :=
  if params.useCurrentBasedTorqueFormula then
    torqueRaw.toInt / 1000 * params.maxCurrentMa / 1000 * params.torqueConstantKt
  else
    torqueRaw.toInt / 1000 * params.ratedTorqueMotor

def rawTorqueToOutputTorque (torqueRaw : Int16) (params : MotorKinematicsParams) : Rat :=
  torqueRaw.toInt / 1000 * params.outputTorqueScale * params.jointDirection

def outputTorqueToRaw (outputTorqueNm : Rat) (params : MotorKinematicsParams) : Int16 :=
  if params.outputTorqueScale ≤ 0 ∨ params.jointDirection = 0 then 0
  else
    permilleToRaw (outputTorqueNm / params.jointDirection / params.outputTorqueScale * 1000)

def currentAmpereToRaw (currentA : Rat) (params : MotorKinematicsParams) : Int16 :=
  if params.useCurrentBasedTorqueFormula then
    let imaxA := params.maxCurrentMa / 1000
    if imaxA ≤ 0 then 0 else permilleToRaw (currentA / imaxA * 1000)
  else
    let motorNm :=
      currentA * params.torqueConstantKt * params.torqueGearRatio * params.gearEfficiency
    if params.outputTorqueScale ≤ 0 then 0
    else permilleToRaw (motorNm / params.outputTorqueScale * 1000)

def rawToCurrentAmpere (torqueRaw : Int16) (params : MotorKinematicsParams) : Rat :=
  if params.useCurrentBasedTorqueFormula then
    torqueRaw.toInt / 1000 * params.maxCurrentMa / 1000
  else if params.torqueConstantKt ≤ 0 then 0
  else params.rawTorqueToMotorTorque torqueRaw / params.torqueConstantKt

end MotorKinematicsParams

end IghMaster
