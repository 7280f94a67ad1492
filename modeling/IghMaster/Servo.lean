import IghMaster.PdoRegistration

/-!
# The servo of one bus

`EtherCATServo` in `ethercat_servo.cpp`. What the servo reads from its runtime is passed in as
`RuntimeFlags`, and what it reads from the bus or the clock as an argument of the call. The domain
data are mapped exactly while the servo is activated.
-/

namespace IghMaster

/-- The flags of the runtime that the servo consults. -/
structure RuntimeFlags where
  jobThreadRunning : Bool
  commFault : Bool
  safeOutputRequired : Bool
  motionReenableAllowed : Bool
  deriving DecidableEq

inductive WcState where
  | zero
  | incomplete
  | complete
  deriving DecidableEq

/-- `ec_domain_state_t` of the single domain that holds inputs and outputs. -/
structure DomainState where
  workingCounter : Nat
  wcState : WcState
  deriving DecidableEq

def DomainState.rxOk (domain : DomainState) : Bool :=
  0 < domain.workingCounter && domain.wcState == .complete

structure Servo where
  initialized : Bool := false
  activated : Bool := false
  startupEvidencePassed : Bool := false
  safeOutputActive : Bool := false
  cachedBusCycleUs : UInt32 := 0
  externalCmdWatchdogNs : Nat := 0
  csvCmdWatchdog : Bool := false
  explicitFaultResetAxis : UInt16 := 0xFFFF
  explicitFaultResetCycles : Nat := 0
  axes : List Axis := []
  deriving DecidableEq

/-- `verifyPdoEvidence`: the status word is mapped, and for a joint module both positions. -/
def Axis.verifyPdoEvidence (axis : Axis) : Bool :=
  let joint := axis.config.pdoLayout == .jointModule || axis.config.pdoLayout == .unknown ||
    axis.config.pdoLayout == .coolDriveJmdt
  !axis.isMotion ||
    (axis.offsets.statusWord != pdoOffsetUnset &&
      !(joint && (axis.offsets.actualPosition == pdoOffsetUnset ||
        axis.offsets.targetPosition == pdoOffsetUnset)))

namespace Servo

def motorCount (servo : Servo) : Nat := servo.axes.length

def covers (motorId : UInt8) (index : Nat) : Bool :=
  motorId == 0xFF || motorId.toNat == index

def updateCovered (servo : Servo) (motorId : UInt8) (update : Axis → Axis) : Servo :=
  { servo with
    axes := servo.axes.mapIdx fun index axis =>
      if covers motorId index then update axis else axis }

def updateAxis (servo : Servo) (motorId : UInt8) (update : Axis → Axis) : Servo :=
  { servo with axes := servo.axes.modify motorId.toNat update }

def updateMotion (servo : Servo) (update : Axis → Axis) : Servo :=
  { servo with axes := servo.axes.map fun axis => if axis.isMotion then update axis else axis }

/-- An axis as the initialization leaves it. -/
def freshAxis (config : MotorConfig) (registered : SlaveOffsets) : Axis where
  config := config
  offsets := registered.motor
  faultResetCw := config.faultResetControlWord

/-- The axes of a new servo, or `none` where `initialize` fails on a slave. -/
def initialAxes (bus : BusSetup) (busCycleUs : UInt32) (configs : List MotorConfig) :
    Option (List Axis) :=
  let corrected := configs.map bus.correctIdentity
  let busCycleNs := (if 0 < busCycleUs then busCycleUs else 1000) * 1000
  if (List.range corrected.length).all bus.slaveConfig &&
      corrected.all (fun config => config.dcSync0MatchesBus busCycleNs) &&
      bus.configurePdoMapping corrected then do
    let registered ← bus.initialSlaves configs
    let axes := List.zipWith freshAxis corrected registered
    if axes.all Axis.verifyPdoEvidence then some axes else none
  else
    none

/-- `EtherCATServo::initialize`: a servo is initialised once, and a failed attempt leaves it without axes. -/
def initializeServo (bus : BusSetup) (busCycleUs : UInt32) (cmdWatchdogMs : UInt32)
    (csvCmdWatchdog : Bool) (configs : List MotorConfig) (servo : Servo) : Servo × Bool :=
  if servo.initialized || configs.isEmpty then
    (servo, false)
  else
    let configured : Servo :=
      { servo with
        cachedBusCycleUs := busCycleUs
        externalCmdWatchdogNs := cmdWatchdogMs.toNat * 1000000
        csvCmdWatchdog := csvCmdWatchdog }
    if !bus.requestMaster || !bus.createDomain then
      (configured, false)
    else
      match initialAxes bus busCycleUs configs with
      | some axes => ({ configured with initialized := true, axes := axes }, true)
      | none => (configured, false)

/-- The value chosen from the successful reads of 0x6064: the median of at least three, else the
first that is not zero, else the last. -/
def chooseInitialPosition (reads : List Int32) : Option Int32 :=
  if 3 ≤ reads.length then (reads.mergeSort fun a b => a.toInt ≤ b.toInt)[reads.length / 2]?
  else (reads.find? fun value => value != 0).or reads.getLast?

def setInitialPosition (reads : List Int32) (axis : Axis) : Axis :=
  match chooseInitialPosition reads with
  | some position =>
      { axis with
        setpoints := { axis.setpoints with
          idleInputPosition := position, targetPosition := position }
        last := { axis.last with actualPosition := position } }
  | none => axis

/-- `initializePositionsFromSDO`, with the successful reads of each axis. Its result says whether
some position was read. -/
def initializePositionsFromSdo (reads : Nat → List Int32) (servo : Servo) : Servo × Bool :=
  if !servo.initialized || servo.activated then
    (servo, false)
  else
    ({ servo with
        axes := servo.axes.mapIdx fun index axis =>
          if axis.isMotion then setInitialPosition (reads index) axis else axis },
      servo.axes.zipIdx.any fun entry =>
        entry.1.isMotion && (chooseInitialPosition (reads entry.2)).isSome)

/-- What `activate` learns from the bus: the outcome of the 0x60C2 gate, of
`ecrt_master_activate` and of `ecrt_domain_data`. -/
structure ActivateInput where
  interpolationPeriodGate : Bool
  masterActivate : Bool
  domainData : Bool
  deriving DecidableEq

def activateAxis (axis : Axis) : Axis :=
  { axis with
    fsm := { axis.fsm with enableRequested := false, controlWordState := controlWordSwitchOn }
    input := {}
    output := {} }

/-- `activate`: the process data are mapped afresh and start from zero. -/
def activate (input : ActivateInput) (servo : Servo) : Servo × Bool :=
  if !servo.initialized then (servo, false)
  else if servo.activated then (servo, true)
  else if !input.masterActivate || !input.domainData then (servo, false)
  else
    ({ servo with
        axes := servo.axes.map activateAxis
        activated := true
        startupEvidencePassed :=
          input.interpolationPeriodGate && servo.axes.all Axis.verifyPdoEvidence },
      true)

/-- `deactivate` once the runtime has stopped its Job. -/
def deactivate (servo : Servo) : Servo :=
  { servo with activated := false, safeOutputActive := false }

def setEnable (flags : RuntimeFlags) (motorId : UInt8) (enable : Bool) (servo : Servo) :
    Servo × Bool :=
  if !servo.activated then (servo, false)
  else if enable && (flags.commFault || flags.safeOutputRequired || !flags.motionReenableAllowed)
  then (servo, false)
  else if enable && !servo.startupEvidencePassed then (servo, false)
  else if motorId == 0xFF then
    if servo.axes.any fun axis => axis.isMotion && axis.fsm.desiredEnable != enable then
      (servo.updateMotion (Axis.startEnable enable), true)
    else
      (servo, true)
  else
    match servo.axes[motorId.toNat]? with
    | none => (servo, false)
    | some axis =>
        if !axis.isMotion || axis.fsm.desiredEnable = enable then (servo, true)
        else (servo.updateAxis motorId (Axis.startEnable enable), true)

/-- The motors a fault reset request looks at. -/
def resetSelected (motorId : UInt8) (servo : Servo) : List Axis :=
  (servo.axes.zipIdx.filter fun entry =>
    entry.1.isMotion && (motorId == 0xFF || motorId == entry.2.toUInt8)).map Prod.fst

def requestFaultReset (flags : RuntimeFlags) (slavesInOp : Bool) (motorId : UInt8)
    (allowWithoutFault : Bool) (servo : Servo) : Servo × Bool :=
  if !servo.initialized || !servo.activated || !flags.jobThreadRunning ||
      !flags.safeOutputRequired || flags.commFault || !slavesInOp ||
      (motorId != 0xFF && servo.motorCount ≤ motorId.toNat) then
    (servo, false)
  else
    let selected := servo.resetSelected motorId
    if selected.any fun axis => isCiA402OperationEnabled axis.last.statusWord then
      (servo, false)
    else if !allowWithoutFault && !selected.any fun axis =>
        isCiA402Fault axis.last.statusWord || axis.last.errorCode != 0 then
      (servo, false)
    else
      ({ servo with
          explicitFaultResetAxis := if motorId == 0xFF then 0x00FF else motorId.toUInt16
          explicitFaultResetCycles := 20 },
        true)

/-- An id is already in the mode; the comparison for one id does not skip other slaves. -/
def inMode (motorId : UInt8) (mode : OperationMode) (servo : Servo) : Bool :=
  if motorId == 0xFF then servo.axes.all fun axis => !axis.isMotion || axis.mode = mode
  else
    match servo.axes[motorId.toNat]? with
    | some axis => axis.mode = mode
    | none => false

def setOperationMode (motorId : UInt8) (mode : OperationMode) (servo : Servo) : Servo × Bool :=
  if servo.inMode motorId mode then (servo, true)
  else if motorId == 0xFF || motorId.toNat < servo.motorCount then
    (servo.updateCovered motorId (Axis.applyMode mode), true)
  else
    (servo, false)

def getOperationMode (motorId : UInt8) (servo : Servo) : OperationMode :=
  match servo.axes[motorId.toNat]? with
  | some axis => if axis.isMotion then axis.mode else .none
  | none => .none

def setTargetPosition (motorId : UInt8) (position : Int32) (overrideFilter : Bool)
    (servo : Servo) : Servo :=
  servo.updateAxis motorId fun axis =>
    { axis with setpoints := axis.setpoints.setTargetPosition position overrideFilter }

def setIdleInputPosition (motorId : UInt8) (position : Int32) (servo : Servo) : Servo :=
  servo.updateAxis motorId fun axis =>
    { axis with setpoints := axis.setpoints.setIdleInputPosition position }

def setTargetVelocity (motorId : UInt8) (velocity : Int32) (overrideIdle : Bool)
    (source : SetpointSource) (nowNs : Nat) (servo : Servo) : Servo :=
  servo.updateAxis motorId
    (Axis.setTargetVelocity velocity overrideIdle source servo.csvCmdWatchdog nowNs
      servo.externalCmdWatchdogNs)

def setIdleInputVelocity (motorId : UInt8) (velocity : Int32) (servo : Servo) : Servo :=
  servo.updateAxis motorId fun axis =>
    { axis with setpoints := axis.setpoints.setIdleInputVelocity velocity }

def setTargetTorque (motorId : UInt8) (torque : Int16) (source : SetpointSource) (nowNs : Nat)
    (servo : Servo) : Servo :=
  servo.updateAxis motorId
    (Axis.setTargetTorque torque source nowNs servo.externalCmdWatchdogNs)

def getPosition (index : Nat) (servo : Servo) : Int32 :=
  match servo.axes[index]? with
  | some axis => axis.last.actualPosition
  | none => 0

/-- The servo's part of `clearCommFault`. -/
def clearCommFault (servo : Servo) : Servo :=
  { servo with
    safeOutputActive := false
    explicitFaultResetCycles := 0
    explicitFaultResetAxis := 0xFFFF
    axes := servo.axes.map Axis.disarmCommandFreshness }

/-- `checkExternalCommandFreshness`; the result says whether the caller has to latch a fault. -/
def checkExternalCommandFreshness (safeOutputRequired : Bool) (nowNs : Nat) (servo : Servo) :
    Servo × Bool :=
  if !servo.initialized || servo.externalCmdWatchdogNs = 0 || safeOutputRequired then
    (servo, false)
  else
    (servo.updateMotion (Axis.tripStale servo.csvCmdWatchdog nowNs),
      servo.axes.any fun axis => axis.isMotion &&
        (axis.isTorqueStale nowNs || axis.isVelocityStale servo.csvCmdWatchdog nowNs))

def applyCommandContentionFallback (servo : Servo) : Servo :=
  if servo.initialized then
    servo.updateMotion (Axis.contentionFallback servo.csvCmdWatchdog)
  else
    servo

/-- The guard of the cyclic functions: the process data are mapped while the servo is activated. -/
def ready (servo : Servo) : Bool := servo.initialized && servo.activated

def receiveData (inputs : Nat → TxPdo) (servo : Servo) : Servo :=
  if servo.ready then
    { servo with
      axes := servo.axes.mapIdx fun index axis =>
        if axis.isMotion then axis.receiveData (inputs index) else axis }
  else
    servo

def sendData (domain : DomainState) (servo : Servo) : Servo :=
  if servo.ready then
    servo.updateMotion (Axis.sendData servo.activated (domain.wcState == .complete))
  else
    servo

/-- The reset window names one axis, or all of them. -/
def resetAxisSelected (resetAxis : UInt16) (index : Nat) : Bool :=
  resetAxis == 0x00FF || resetAxis == index.toUInt16

def safeControlWord (servo : Servo) (index : Nat) (axis : Axis) : UInt16 :=
  Axis.selectSafeControlWord (0 < servo.explicitFaultResetCycles)
    (resetAxisSelected servo.explicitFaultResetAxis index) axis.faultResetCw

/-- `applySafeProcessImageOutputs`. The position is looked up under the axis index cast to
`uint8_t`. -/
def applySafeProcessImageOutputs (servo : Servo) : Servo :=
  if servo.ready then
    { servo with
      safeOutputActive := true
      axes := servo.axes.mapIdx fun index axis =>
        if axis.isMotion then
          axis.applySafe (!servo.safeOutputActive) (servo.getPosition (index % 256))
            (servo.safeControlWord index axis)
        else
          axis
      explicitFaultResetCycles := servo.explicitFaultResetCycles - 1
      explicitFaultResetAxis :=
        if servo.explicitFaultResetCycles = 1 then 0xFFFF else servo.explicitFaultResetAxis }
  else
    servo

end Servo

/-- The calls that only touch the servo, with the time they read. -/
inductive ServoCall where
  | setEnable (motorId : UInt8) (enable : Bool)
  | setOperationMode (motorId : UInt8) (mode : OperationMode)
  | setTargetPosition (motorId : UInt8) (position : Int32) (overrideFilter : Bool)
  | setIdleInputPosition (motorId : UInt8) (position : Int32)
  | setTargetVelocity (motorId : UInt8) (velocity : Int32) (overrideIdle : Bool)
      (source : SetpointSource) (nowNs : Nat)
  | setIdleInputVelocity (motorId : UInt8) (velocity : Int32)
  | setTargetTorque (motorId : UInt8) (torque : Int16) (source : SetpointSource) (nowNs : Nat)
  | applyCommandContentionFallback
  deriving DecidableEq

def Servo.perform (flags : RuntimeFlags) (servo : Servo) : ServoCall → Servo
  | .setEnable motorId enable => (servo.setEnable flags motorId enable).1
  | .setOperationMode motorId mode => (servo.setOperationMode motorId mode).1
  | .setTargetPosition motorId position overrideFilter =>
      servo.setTargetPosition motorId position overrideFilter
  | .setIdleInputPosition motorId position => servo.setIdleInputPosition motorId position
  | .setTargetVelocity motorId velocity overrideIdle source nowNs =>
      servo.setTargetVelocity motorId velocity overrideIdle source nowNs
  | .setIdleInputVelocity motorId velocity => servo.setIdleInputVelocity motorId velocity
  | .setTargetTorque motorId torque source nowNs =>
      servo.setTargetTorque motorId torque source nowNs
  | .applyCommandContentionFallback => servo.applyCommandContentionFallback

end IghMaster
