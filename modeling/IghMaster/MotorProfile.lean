import IghMaster.Cia402

/-!
# Slave configurations and motor profiles

`motor/motor_profile.cpp` and the predicates on a configuration at the head of
`ethercat_servo.cpp`. A profile keeps the fields that start-up and the cyclic path read; the
kinematic parameters and display names play no part there.
-/

namespace IghMaster

inductive PdoLayout where
  | unknown
  | jointModule
  | gateway
  | coolDriveJmdt
  | sriM8126
  deriving DecidableEq

structure MotorConfig where
  position : UInt16 := 0
  vendorId : UInt32 := 0
  productCode : UInt32 := 0
  name : String := ""
  modelId : String := ""
  pdoLayout : PdoLayout := .unknown
  deriving DecidableEq

structure SlaveIdentity where
  vendorId : UInt32
  productCode : UInt32
  deriving DecidableEq

structure MotorProfile where
  modelId : String
  identities : List SlaveIdentity
  pdoLayout : PdoLayout
  dcSync0Ns : UInt32
  requireInterpolationPeriodGate : Bool
  faultResetControlWord : FaultResetWord := controlWordFaultReset
  deriving DecidableEq

namespace MotorProfileRegistry

/-- `kProfiles`, in the order of the source: lookups return the first match. -/
def profiles : List MotorProfile := [
  { modelId := "NH17-100-BT-48E", identities := [⟨0x00522227, 0x00009253⟩],
    pdoLayout := .jointModule, dcSync0Ns := 2000000,
    requireInterpolationPeriodGate := true },
  { modelId := "SJD-17-120-NN-S00", identities := [⟨0x000009CF, 0x00010001⟩],
    pdoLayout := .jointModule, dcSync0Ns := 2000000,
    requireInterpolationPeriodGate := false },
  { modelId := "PMSLM-LINEAR", identities := [⟨0x00418108, 0x00009252⟩],
    pdoLayout := .jointModule, dcSync0Ns := 0,
    requireInterpolationPeriodGate := true },
  { modelId := "COOLDRIVE-JMDT", identities := [⟨0x00000748, 0x00000019⟩],
    pdoLayout := .coolDriveJmdt, dcSync0Ns := 2000000,
    requireInterpolationPeriodGate := true, faultResetControlWord := controlWordFaultResetBit },
  { modelId := "SRI-M8126f32", identities := [⟨0x00000E53, 0x00081261⟩],
    pdoLayout := .sriM8126, dcSync0Ns := 0,
    requireInterpolationPeriodGate := false },
  { modelId := "SRI-M8126i32", identities := [⟨0x00000E53, 0x00081260⟩],
    pdoLayout := .sriM8126, dcSync0Ns := 0,
    requireInterpolationPeriodGate := false },
  { modelId := "SRI-M8229f32", identities := [⟨0x00000E53, 0x00082291⟩],
    pdoLayout := .sriM8126, dcSync0Ns := 0,
    requireInterpolationPeriodGate := false }]

def findByModelId (modelId : String) : Option MotorProfile :=
  profiles.find? fun profile => profile.modelId == modelId

def findByIdentity (vendorId productCode : UInt32) : Option MotorProfile :=
  profiles.find? fun profile => profile.identities.contains ⟨vendorId, productCode⟩

end MotorProfileRegistry

namespace MotorConfig

def isGateway (config : MotorConfig) : Bool :=
  config.vendorId == 0x00000130 && config.productCode == 0x01300060

def isSriM8126 (config : MotorConfig) : Bool := config.pdoLayout == .sriM8126

def isNonMotionSlave (config : MotorConfig) : Bool := config.isGateway || config.isSriM8126

def resolveMotorProfile (config : MotorConfig) : Option MotorProfile :=
  let byIdentity := MotorProfileRegistry.findByIdentity config.vendorId config.productCode
  if config.modelId.isEmpty then byIdentity
  else (MotorProfileRegistry.findByModelId config.modelId).or byIdentity

/-- An explicit SYNC0 period of the profile has to be the bus period. -/
def dcSync0MatchesBus (config : MotorConfig) (busCycleNs : UInt32) : Bool :=
  match config.resolveMotorProfile with
  | some profile => !(0 < profile.dcSync0Ns && profile.dcSync0Ns != busCycleNs)
  | none => true

def faultResetControlWord (config : MotorConfig) : FaultResetWord :=
  match config.resolveMotorProfile with
  | some profile => profile.faultResetControlWord
  | none => controlWordFaultReset

end MotorConfig

end IghMaster
