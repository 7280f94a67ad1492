import IghMaster.Servo

/-!
# Kinematic parameters

`motor/motor_kinematics.cpp` keeps the parameters of all motors in one file-scope vector, `g_params`;
the conversions look a motor up in it by its index. A `double` is the rational number that its literal
denotes.
-/

namespace IghMaster

structure MotorKinematicsParams where
  gearRatio : Rat := 101
  torqueGearRatio : Rat := 101
  encoderResolution : Rat := 65536
  motorEncoderResolution : Rat := 65536
  outputSideEncoder : Bool := false
  velocityOnMotorEncoder : Bool := false
  ratedTorqueMotor : Rat := 297 / 1000
  maxCurrentMa : Rat := 4602
  torqueConstantKt : Rat := 3 / 100
  gearEfficiency : Rat := 6 / 10
  positionOffsetDeg : Rat := 0
  jointDirection : Rat := 1
  deriving DecidableEq

namespace MotorKinematicsParams

def nh17 : MotorKinematicsParams where
  gearRatio := 101
  encoderResolution := 65536
  motorEncoderResolution := 65536
  outputSideEncoder := false
  velocityOnMotorEncoder := true
  ratedTorqueMotor := 297 / 1000
  maxCurrentMa := 4602
  torqueConstantKt := 3 / 100
  gearEfficiency := 6 / 10

def sjd17 : MotorKinematicsParams where
  gearRatio := 1
  torqueGearRatio := 120
  encoderResolution := 524288
  outputSideEncoder := true
  ratedTorqueMotor := 112 / 120
  maxCurrentMa := 0
  torqueConstantKt := 1075 / 10000
  gearEfficiency := 1

def pmslmLinear : MotorKinematicsParams where
  gearRatio := 1
  torqueGearRatio := 1
  encoderResolution := 360000
  motorEncoderResolution := 360000
  outputSideEncoder := true
  velocityOnMotorEncoder := false
  ratedTorqueMotor := 156 / 10
  maxCurrentMa := 0
  torqueConstantKt := 0
  gearEfficiency := 1

def jmdt : MotorKinematicsParams where
  gearRatio := 120
  torqueGearRatio := 120
  encoderResolution := 1048576
  motorEncoderResolution := 1048576
  outputSideEncoder := false
  velocityOnMotorEncoder := true
  ratedTorqueMotor := 75 / 100
  maxCurrentMa := 0
  torqueConstantKt := 0
  gearEfficiency := 1

end MotorKinematicsParams

def MotorProfile.kinematics (profile : MotorProfile) : MotorKinematicsParams :=
  match profile.modelId with
  | "NH17-100-BT-48E" => .nh17
  | "SJD-17-120-NN-S00" => .sjd17
  | "PMSLM-LINEAR" => .pmslmLinear
  | "COOLDRIVE-JMDT" => .jmdt
  | _ => {}

namespace MotorKinematics

/-- An empty vector is refused; a vector of the same size is copied in place. -/
def setParams (params stored : List MotorKinematicsParams) : List MotorKinematicsParams :=
  if params.isEmpty then stored else params

def get (motorId : Nat) (stored : List MotorKinematicsParams) : MotorKinematicsParams :=
  stored.getD motorId {}

end MotorKinematics

/-- The answers to the SDO uploads of 0x200E:2, 0x2016 and 0x6075 for one motor. -/
structure KinematicsSdo where
  gearRatio : Option UInt32 := none
  positionMode : Option UInt32 := none
  maxCurrent : Option UInt32 := none
  deriving DecidableEq

namespace MotorKinematicsParams

def withGearRatio (gearRaw : Option UInt32) (params : MotorKinematicsParams) :
    MotorKinematicsParams × Bool :=
  match gearRaw with
  | some raw => if 0 < raw then ({ params with gearRatio := raw.toNat }, true) else (params, false)
  | none => (params, false)

/-- 0 is the outer ring, 2 the inner one. -/
def withPositionMode (modeRaw : Option UInt32) (params : MotorKinematicsParams) :
    MotorKinematicsParams × Bool :=
  if modeRaw = some 0 then
    ({ params with encoderResolution := 262144, outputSideEncoder := true }, true)
  else if modeRaw = some 2 then
    ({ params with encoderResolution := 65536, outputSideEncoder := false }, true)
  else
    (params, false)

def withMaxCurrent (currentRaw : Option UInt32) (params : MotorKinematicsParams) :
    MotorKinematicsParams × Bool :=
  match currentRaw with
  | some raw => if 0 < raw then ({ params with maxCurrentMa := raw.toNat }, true) else (params, false)
  | none => (params, false)

/-- What `tryLoadKinematicsFromSdo` takes from the profile instead of the drive. -/
def withProfile (profile : MotorProfile) (params : MotorKinematicsParams) :
    MotorKinematicsParams :=
  { params with
    gearRatio := profile.kinematics.gearRatio
    torqueGearRatio := profile.kinematics.torqueGearRatio
    encoderResolution := profile.kinematics.encoderResolution
    outputSideEncoder := profile.kinematics.outputSideEncoder }

/-- One motor in `tryLoadKinematicsFromSdo`; the result says whether something was updated. -/
def load (sdo : KinematicsSdo) (config : MotorConfig) (params : MotorKinematicsParams) :
    MotorKinematicsParams × Bool :=
  if config.isNonMotionSlave then (params, false)
  else if BusSetup.isSjd17 config || config.pdoLayout == .coolDriveJmdt then
    match MotorProfileRegistry.findByIdentity config.vendorId config.productCode with
    | some profile => (params.withProfile profile, true)
    | none => (params, false)
  else
    let geared := params.withGearRatio sdo.gearRatio
    let placed := geared.1.withPositionMode sdo.positionMode
    let limited := placed.1.withMaxCurrent sdo.maxCurrent
    (limited.1, geared.2 || placed.2 || limited.2)

end MotorKinematicsParams

namespace Servo

/-- The parameters that `initialize` injects: those of the profile of a motor, or the stored ones. -/
def profileKinematics (stored : List MotorKinematicsParams) (servo : Servo) :
    List MotorKinematicsParams :=
  servo.axes.mapIdx fun index axis =>
    match axis.config.resolveMotorProfile with
    | some profile => profile.kinematics
    | none => MotorKinematics.get index stored

def tryLoadKinematicsFromSdo (sdo : Nat → KinematicsSdo) (stored : List MotorKinematicsParams)
    (servo : Servo) : List MotorKinematicsParams :=
  if !servo.initialized || servo.axes.isEmpty then
    stored
  else
    let loaded := servo.axes.mapIdx fun index axis =>
      (MotorKinematics.get index stored).load (sdo index) axis.config
    if loaded.any Prod.snd then MotorKinematics.setParams (loaded.map Prod.fst) stored else stored

end Servo

end IghMaster
