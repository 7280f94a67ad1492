import Mathlib.Data.BitVec
import IghMaster.MotorProfile

/-!
# The interpolation period

`motor/csp_interpolation_period.hpp` codes a period of the bus as the two bytes of object 0x60C2, and
`verifyInterpolationPeriodGate` in `ethercat_servo.cpp` compares what each drive reports there with the
period of the bus, downloading the two bytes where they differ.
-/

namespace IghMaster

/-- `value * 10 ^ exponent` seconds. -/
structure CspInterpolationPeriod where
  value : UInt8
  exponent : Int8
  deriving DecidableEq

/-- The loop over the exponents, with the iterations that are left. -/
def encodeFrom (periodNs : UInt64) : Nat → Nat → Option CspInterpolationPeriod
  | 0, _ => none
  | left + 1, unitNs =>
      if periodNs.toNat % unitNs = 0 ∧ 1 ≤ periodNs.toNat / unitNs ∧ periodNs.toNat / unitNs ≤ 255 then
        some { value := UInt8.ofNat (periodNs.toNat / unitNs), exponent := Int8.ofInt (left - 9) }
      else
        encodeFrom periodNs left (unitNs / 10)

def encodeCspInterpolationPeriod (periodNs : UInt64) : Option CspInterpolationPeriod :=
  if periodNs = 0 then none else encodeFrom periodNs 10 1000000000

/-- The unit after so many divisions by ten. -/
def unitAfter : Nat → Nat
  | 0 => 1000000000
  | steps + 1 => unitAfter steps / 10

/-- The product is below `2 ^ 64`. -/
def decodeCspInterpolationPeriodNs (period : CspInterpolationPeriod) : Nat :=
  if period.value = 0 ∨ period.exponent.toInt < -9 ∨ 0 < period.exponent.toInt then 0
  else period.value.toNat * unitAfter (-period.exponent.toInt).toNat

def interpolationPeriodMatchesBus (value : UInt8) (exponent : Int8) (busCycleNs : UInt64) : Bool :=
  let decoded := decodeCspInterpolationPeriodNs { value := value, exponent := exponent }
  decoded != 0 && decoded == busCycleNs.toNat

/-- The value and the exponent are in the range of the object, and denote the period. -/
structure Represents (value : Nat) (exponent : Int) (periodNs : UInt64) : Prop where
  one_le_value : 1 ≤ value
  value_le : value ≤ 255
  le_exponent : -9 ≤ exponent
  exponent_le : exponent ≤ 0
  denotes : value * 10 ^ (exponent + 9).toNat = periodNs.toNat

/-! ### The gate -/

/-- The two entries of 0x60C2. -/
inductive PeriodEntry where
  | value
  | exponent
  deriving DecidableEq

/-- An object as a drive reported it, in one of the two widths that are asked for. -/
inductive SdoWord where
  | u8 (word : UInt8)
  | u32 (word : UInt32)
  deriving DecidableEq

namespace SdoWord

def unsigned : SdoWord → Nat
  | u8 word => word.toNat
  | u32 word => word.toNat

def signed : SdoWord → Int
  | u8 word => word.toInt8.toInt
  | u32 word => word.toInt32.toInt

end SdoWord

/-- What a drive makes of each transfer of the gate: an upload fails or returns a value of its width, a
download fails or succeeds. -/
structure DriveAnswers where
  value32 : Option UInt32
  exponent32 : Option UInt32
  value8 : Option UInt8
  exponent8 : Option UInt8
  downloadValue : Bool
  downloadExponent : Bool
  rereadValue : Option UInt8
  rereadExponent : Option UInt8
  deriving DecidableEq

/-- An upload that succeeded. -/
structure SdoReport where
  entry : PeriodEntry
  word : SdoWord
  deriving DecidableEq

def reportU8 (entry : PeriodEntry) (answer : Option UInt8) : List SdoReport :=
  (answer.map fun word => { entry := entry, word := .u8 word }).toList

def reportU32 (entry : PeriodEntry) (answer : Option UInt32) : List SdoReport :=
  (answer.map fun word => { entry := entry, word := .u32 word }).toList

/-- Whether the axis passes, and what its drive reported, the latest last. -/
structure AxisGate where
  passed : Bool
  reports : List SdoReport
  deriving DecidableEq

namespace AxisGate

/-- The comparison with the bus, and where it fails the download with its confirmation. -/
def compare (busCycleNs : UInt64) (expected : CspInterpolationPeriod) (answers : DriveAnswers)
    (actualValue actualExp : UInt8) (reports : List SdoReport) : AxisGate :=
  if interpolationPeriodMatchesBus actualValue actualExp.toInt8 busCycleNs then
    { passed := true, reports := reports }
  else if !answers.downloadValue || !answers.downloadExponent then
    { passed := false, reports := reports }
  else
    { passed := match answers.rereadValue, answers.rereadExponent with
        | some value, some exponent => value == expected.value && exponent.toInt8 == expected.exponent
        | _, _ => false
      reports := reports ++ reportU8 .value answers.rereadValue ++
        reportU8 .exponent answers.rereadExponent }

/-- Both entries are read with 32 bits, and with 8 bits where that fails for one of them. -/
def verify (busCycleNs : UInt64) (expected : CspInterpolationPeriod) (answers : DriveAnswers) :
    AxisGate :=
  let reports := reportU32 .value answers.value32 ++ reportU32 .exponent answers.exponent32
  match answers.value32, answers.exponent32 with
  | some value, some exponent =>
      compare busCycleNs expected answers (value &&& 0xFF).toUInt8 (exponent &&& 0xFF).toUInt8 reports
  | _, _ =>
      let retried := reports ++ reportU8 .value answers.value8 ++ reportU8 .exponent answers.exponent8
      match answers.value8, answers.exponent8 with
      | some value, some exponent => compare busCycleNs expected answers value exponent retried
      | _, _ => { passed := false, reports := retried }

end AxisGate

/-- A profile decides whether its axes need the gate; an axis without one does. -/
def MotorConfig.requiresInterpolationPeriodGate (config : MotorConfig) : Bool :=
  match config.resolveMotorProfile with
  | some profile => profile.requireInterpolationPeriodGate
  | none => true

/-- The loop over the axes that need the gate: it ends at the first that does not pass. -/
def verifyAxes (busCycleNs : UInt64) : List (MotorConfig × DriveAnswers) → Bool
  | [] => true
  | (config, answers) :: rest =>
      if config.isNonMotionSlave then verifyAxes busCycleNs rest
      else if !config.requiresInterpolationPeriodGate then verifyAxes busCycleNs rest
      else
        match encodeCspInterpolationPeriod busCycleNs with
        | none => false
        | some expected =>
            if (AxisGate.verify busCycleNs expected answers).passed then verifyAxes busCycleNs rest
            else false

/-- The period that the servo was configured with, or else that of the runtime. -/
def gateBusCycleNs (cachedBusCycleUs runtimeBusCycleUs : UInt32) : UInt64 :=
  let busCycleUs := if 0 < cachedBusCycleUs then cachedBusCycleUs else runtimeBusCycleUs
  busCycleUs.toUInt64 * 1000

def verifyInterpolationPeriodGate (cachedBusCycleUs runtimeBusCycleUs : UInt32)
    (axes : List (MotorConfig × DriveAnswers)) : Bool :=
  verifyAxes (gateBusCycleNs cachedBusCycleUs runtimeBusCycleUs) axes

/-! ### What the drives reported -/

def lastReport (entry : PeriodEntry) (reports : List SdoReport) : Option SdoWord :=
  (reports.reverse.find? fun report => report.entry = entry).map SdoReport.word

/-- `value * 10 ^ exponent` seconds are the period; a negative power is multiplied out on the other side. -/
def DenotesNs (value : Nat) (exponent : Int) (periodNs : UInt64) : Prop :=
  value * 10 ^ (exponent + 9).toNat = periodNs.toNat * 10 ^ (-(exponent + 9)).toNat

/-- The last full objects that were reported denote the period. -/
def DenotesPeriod (busCycleNs : UInt64) (reports : List SdoReport) : Prop :=
  ∃ value exponent, lastReport .value reports = some value ∧
    lastReport .exponent reports = some exponent ∧
      DenotesNs value.unsigned exponent.signed busCycleNs

/-- What the drive of an axis that the gate asks reports. -/
def gateReports (busCycleNs : UInt64) (answers : DriveAnswers) : List SdoReport :=
  match encodeCspInterpolationPeriod busCycleNs with
  | some expected => (AxisGate.verify busCycleNs expected answers).reports
  | none => []

/-- A motion axis whose profile, or the default, asks for the gate. -/
def MotorConfig.isGated (config : MotorConfig) : Bool :=
  !config.isNonMotionSlave && config.requiresInterpolationPeriodGate

/-- Two 32-bit reads that are compared are no more than the bytes that are compared. -/
def ReadsBytes (busCycleNs : UInt64) (answers : DriveAnswers) : Prop :=
  ∀ value exponent, answers.value32 = some value → answers.exponent32 = some exponent →
    interpolationPeriodMatchesBus (value &&& 0xFF).toUInt8 (exponent &&& 0xFF).toUInt8.toInt8
        busCycleNs = true →
      value.toNat ≤ 255 ∧ exponent.toInt32.toInt = (exponent &&& 0xFF).toUInt8.toInt8.toInt

end IghMaster
