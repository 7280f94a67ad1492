import IghMaster.CommandFreshness
import IghMaster.EnableFsm
import IghMaster.MotorProfile

/-!
# One axis of the servo

`EtherCATServo` keeps a vector for each per-axis variable; an `Axis` is one index of all of them,
with its part of the process image. Every loop of the servo over its axes is one of the functions
below applied at each index.
-/

namespace IghMaster

/-- `kPdoOffsetUnset`, the offset of an entry that was not registered. -/
def pdoOffsetUnset : Nat := 0xFFFFFFFF

/-- Byte offsets of the registered entries; the optional entries use 0 for an absent one. -/
structure PdoOffsets where
  controlWord : Nat := 0
  targetPosition : Nat := 0
  targetVelocity : Nat := 0
  targetTorque : Nat := 0
  operationMode : Nat := 0
  statusWord : Nat := 0
  actualPosition : Nat := 0
  actualVelocity : Nat := 0
  actualTorque : Nat := 0
  operationModeDisplay : Nat := 0
  errorCode : Nat := 0
  sensorForce2020 : Nat := 0
  motorEncoder2021 : Nat := 0
  deriving DecidableEq

/-- The input half of an axis in the process image, written by the slave. -/
structure TxPdo where
  statusWord : UInt16 := 0
  operationModeDisplay : Int8 := 0
  errorCode : UInt16 := 0
  actualPosition : Int32 := 0
  actualVelocity : Int32 := 0
  actualTorque : Int16 := 0
  sensorForce2020 : Int32 := 0
  motorEncoder2021 : Int32 := 0
  deriving DecidableEq

/-- The output half of an axis in the process image, written by the master. -/
structure RxPdo where
  controlWord : UInt16 := 0
  targetPosition : Int32 := 0
  targetVelocity : Int32 := 0
  targetTorque : Int16 := 0
  operationMode : Int8 := 0
  deriving DecidableEq

structure PendingCommand where
  position : Int32 := 0
  positionValid : Bool := false
  velocity : Int32 := 0
  velocityValid : Bool := false
  torque : Int16 := 0
  torqueValid : Bool := false
  deriving DecidableEq

/-- The setpoints of an axis: what was commanded, what is applied and what is held when idle. -/
structure Setpoints where
  pending : PendingCommand := {}
  targetPosition : Int32 := 0
  targetVelocity : Int32 := 0
  targetTorque : Int16 := 0
  positionOverrideActive : Bool := false
  velocityOverrideActive : Bool := false
  idleInputPosition : Int32 := 0
  idleInputVelocity : Int32 := 0
  deriving DecidableEq

structure Axis where
  config : MotorConfig
  offsets : PdoOffsets := {}
  faultResetCw : FaultResetWord := controlWordFaultReset
  fsm : EnableFsm := {}
  mode : OperationMode := .cyclicSyncPosition
  setpoints : Setpoints := {}
  torqueFreshness : CommandFreshnessState := {}
  velocityFreshness : CommandFreshnessState := {}
  last : TxPdo := {}
  safeLatchedPosition : Int32 := 0
  input : TxPdo := {}
  output : RxPdo := {}
  deriving DecidableEq

namespace Setpoints

/-- The merge at the head of `sendData`: pending commands become targets. -/
def mergePending (setpoints : Setpoints) : Setpoints :=
  let pending := setpoints.pending
  { setpoints with
    targetPosition := if pending.positionValid then pending.position else setpoints.targetPosition
    targetVelocity := if pending.velocityValid then pending.velocity else setpoints.targetVelocity
    targetTorque := if pending.torqueValid then pending.torque else setpoints.targetTorque
    pending := { pending with
      positionValid := false, velocityValid := false, torqueValid := false } }

/-- `sendDataCSP` and `sendDataCSV` fall back to the idle values of the axis. -/
def applyIdle (activated : Bool) (setpoints : Setpoints) : Setpoints :=
  { setpoints with
    targetPosition :=
      if activated && !setpoints.positionOverrideActive then setpoints.idleInputPosition
      else setpoints.targetPosition
    targetVelocity :=
      if activated && !setpoints.velocityOverrideActive then setpoints.idleInputVelocity
      else setpoints.targetVelocity }

/-- The targets that the safe-output path pins; pending commands and the idle velocity stay. -/
def forceSafe (targetPosition : Int32) (setpoints : Setpoints) : Setpoints :=
  { setpoints with
    targetPosition := targetPosition
    targetVelocity := 0
    targetTorque := 0
    positionOverrideActive := false
    velocityOverrideActive := false
    idleInputPosition := targetPosition }

def zeroTorque (setpoints : Setpoints) : Setpoints :=
  { setpoints with
    pending := { setpoints.pending with torque := 0, torqueValid := true }, targetTorque := 0 }

def zeroVelocity (setpoints : Setpoints) : Setpoints :=
  { setpoints with
    pending := { setpoints.pending with velocity := 0, velocityValid := true }, targetVelocity := 0 }

def setTargetPosition (position : Int32) (overrideFilter : Bool) (setpoints : Setpoints) :
    Setpoints :=
  { setpoints with
    pending := { setpoints.pending with position := position, positionValid := true }
    positionOverrideActive := overrideFilter || setpoints.positionOverrideActive }

def setIdleInputPosition (position : Int32) (setpoints : Setpoints) : Setpoints :=
  { setpoints with
    idleInputPosition := position
    pending := { setpoints.pending with position := position, positionValid := true }
    positionOverrideActive := false }

def setTargetVelocity (velocity : Int32) (overrideIdle : Bool) (setpoints : Setpoints) :
    Setpoints :=
  { setpoints with
    pending := { setpoints.pending with velocity := velocity, velocityValid := true }
    velocityOverrideActive := overrideIdle || setpoints.velocityOverrideActive }

def setIdleInputVelocity (velocity : Int32) (setpoints : Setpoints) : Setpoints :=
  { setpoints with
    idleInputVelocity := velocity
    pending := { setpoints.pending with velocity := velocity, velocityValid := true }
    velocityOverrideActive := false }

def setTargetTorque (torque : Int16) (setpoints : Setpoints) : Setpoints :=
  { setpoints with
    pending := { setpoints.pending with torque := torque, torqueValid := true } }

def enterMode (mode : OperationMode) (actualPosition : Int32) (setpoints : Setpoints) :
    Setpoints :=
  if mode = .cyclicSyncPosition then
    { setpoints with
      idleInputPosition := actualPosition
      targetPosition := actualPosition
      positionOverrideActive := true }
  else if mode = .cyclicSyncVelocity then
    { setpoints with
      idleInputVelocity := 0, targetVelocity := 0, velocityOverrideActive := false }
  else
    setpoints

end Setpoints

namespace Axis

def isMotion (axis : Axis) : Bool := !axis.config.isNonMotionSlave

/-- `receiveData` for one motor: the slave's data are cached, absent entries as 0. -/
def receiveData (input : TxPdo) (axis : Axis) : Axis :=
  { axis with
    input := input
    last := { input with
      errorCode := if axis.offsets.errorCode != 0 then input.errorCode else 0
      sensorForce2020 := if axis.offsets.sensorForce2020 != 0 then input.sensorForce2020 else 0
      motorEncoder2021 :=
        if axis.offsets.motorEncoder2021 != 0 then input.motorEncoder2021 else 0 } }

def txContext (activated wcOk : Bool) (axis : Axis) : TxContext where
  activated := activated
  wcOk := wcOk
  statusWord := axis.input.statusWord
  faultResetCw := axis.faultResetCw

def operationModeOutput (axis : Axis) : Int8 :=
  if axis.offsets.operationMode != 0 then axis.mode.value else axis.output.operationMode

/-- `sendDataCommon` with its process data: the control word and the operation mode. -/
def sendDataCommon (activated wcOk : Bool) (axis : Axis) : Axis :=
  let sent := axis.fsm.sendDataCommon (axis.txContext activated wcOk)
  { axis with
    fsm := sent.1
    output := { axis.output with
      controlWord := sent.2, operationMode := axis.operationModeOutput } }

/-- `sendDataCSP`, `sendDataCSV` and `sendDataCST`. -/
def sendTargets (activated : Bool) (axis : Axis) : Axis :=
  let setpoints := axis.setpoints.applyIdle activated
  { axis with
    setpoints := setpoints
    output := { axis.output with
      targetPosition := setpoints.targetPosition
      targetVelocity :=
        if axis.offsets.targetVelocity != 0 then setpoints.targetVelocity
        else axis.output.targetVelocity
      targetTorque :=
        if axis.offsets.targetTorque != 0 then setpoints.targetTorque
        else axis.output.targetTorque } }

/-- One motor in the loop of `sendData`. -/
def sendData (activated wcOk : Bool) (axis : Axis) : Axis :=
  ({ axis with setpoints := axis.setpoints.mergePending } : Axis)
    |>.sendDataCommon activated wcOk |>.sendTargets activated

def isTorqueStale (nowNs : Nat) (axis : Axis) : Bool :=
  axis.mode == .cyclicSyncTorque && axis.torqueFreshness.isExternalCommandStale nowNs

def isVelocityStale (csvCmdWatchdog : Bool) (nowNs : Nat) (axis : Axis) : Bool :=
  csvCmdWatchdog && axis.mode == .cyclicSyncVelocity &&
    axis.velocityFreshness.isExternalCommandStale nowNs

/-- One motor in `checkExternalCommandFreshness`: a stale channel is zeroed and disarmed. -/
def tripStale (csvCmdWatchdog : Bool) (nowNs : Nat) (axis : Axis) : Axis :=
  if axis.isTorqueStale nowNs then
    { axis with
      setpoints := axis.setpoints.zeroTorque, torqueFreshness := axis.torqueFreshness.disarm }
  else if axis.isVelocityStale csvCmdWatchdog nowNs then
    { axis with
      setpoints := axis.setpoints.zeroVelocity
      velocityFreshness := axis.velocityFreshness.disarm }
  else
    axis

/-- One motor in `applyCommandContentionFallback`: an armed channel is zeroed and stays armed. -/
def contentionFallback (csvCmdWatchdog : Bool) (axis : Axis) : Axis :=
  if axis.mode == .cyclicSyncTorque && axis.torqueFreshness.contentionFallbackActive then
    { axis with setpoints := axis.setpoints.zeroTorque }
  else if csvCmdWatchdog && axis.mode == .cyclicSyncVelocity &&
      axis.velocityFreshness.contentionFallbackActive then
    { axis with setpoints := axis.setpoints.zeroVelocity }
  else
    axis

def disarmCommandFreshness (axis : Axis) : Axis :=
  { axis with
    torqueFreshness := axis.torqueFreshness.disarm
    velocityFreshness := axis.velocityFreshness.disarm }

/-- `selectSafeControlWord`: the fault reset word inside the window of a selected axis. -/
def selectSafeControlWord (resetWindowActive axisSelected : Bool)
    (faultResetCw : FaultResetWord) : UInt16 :=
  if resetWindowActive && axisSelected then faultResetCw.value else controlWordSwitchOn

def latchSafePosition (entering : Bool) (latchedPosition actualPosition : Int32) : Int32 :=
  if entering then actualPosition else latchedPosition

/-- One motor in `applySafeProcessImageOutputs`. -/
def applySafe (entering : Bool) (actualPosition : Int32) (safeControlWord : UInt16)
    (axis : Axis) : Axis :=
  let latched := latchSafePosition entering axis.safeLatchedPosition actualPosition
  { axis with
    safeLatchedPosition := latched
    fsm := axis.fsm.forceSafe entering safeControlWord
    setpoints := axis.setpoints.forceSafe latched
    output :=
      { controlWord :=
          if axis.offsets.controlWord != pdoOffsetUnset then safeControlWord
          else axis.output.controlWord
        targetPosition :=
          if axis.offsets.targetPosition != pdoOffsetUnset then latched
          else axis.output.targetPosition
        targetVelocity :=
          if axis.offsets.targetVelocity != 0 then 0 else axis.output.targetVelocity
        targetTorque :=
          if axis.offsets.targetTorque != 0 then 0 else axis.output.targetTorque
        operationMode := axis.operationModeOutput } }

def startEnable (enable : Bool) (axis : Axis) : Axis :=
  { axis with fsm := axis.fsm.startEnable enable }

/-- `disarmLeavingMode` of `setOperationMode`: leaving a mode disarms its command watchdog. -/
def disarmLeavingMode (next : OperationMode) (axis : Axis) : Axis :=
  { axis with
    torqueFreshness :=
      if axis.mode = .cyclicSyncTorque ∧ next ≠ .cyclicSyncTorque then axis.torqueFreshness.disarm
      else axis.torqueFreshness
    velocityFreshness :=
      if axis.mode = .cyclicSyncVelocity ∧ next ≠ .cyclicSyncVelocity then
        axis.velocityFreshness.disarm
      else axis.velocityFreshness }

/-- `apply_axis` of `setOperationMode`. -/
def applyMode (mode : OperationMode) (axis : Axis) : Axis :=
  if !axis.isMotion || axis.mode = mode then
    axis
  else
    { axis.disarmLeavingMode mode with
      setpoints := axis.setpoints.enterMode mode axis.last.actualPosition
      mode := mode
      fsm := axis.fsm.shutdownForModeChange }

def setTargetTorque (torque : Int16) (source : SetpointSource) (nowNs watchdogNs : Nat)
    (axis : Axis) : Axis :=
  { axis with
    setpoints := axis.setpoints.setTargetTorque torque
    torqueFreshness :=
      match source with
      | .jobInternal => axis.torqueFreshness.markJobInternalCommand
      | .external => axis.torqueFreshness.armExternalCommand nowNs watchdogNs }

def setTargetVelocity (velocity : Int32) (overrideIdle : Bool) (source : SetpointSource)
    (csvCmdWatchdog : Bool) (nowNs watchdogNs : Nat) (axis : Axis) : Axis :=
  { axis with
    setpoints := axis.setpoints.setTargetVelocity velocity overrideIdle
    velocityFreshness :=
      match source with
      | .jobInternal => axis.velocityFreshness.markJobInternalCommand
      | .external =>
          if csvCmdWatchdog && axis.mode == .cyclicSyncVelocity then
            axis.velocityFreshness.armExternalCommand nowNs watchdogNs
          else
            axis.velocityFreshness }

end Axis

end IghMaster
