import IghMaster.Backend

/-!
# The master surface

`Master` in `master_api.cpp`: the calls that an adapter makes. The servo is never given up, so the
checks for a missing servo are left out. A call is one step, except `start`, which waits for the bus
several times while its Job already runs: it is divided at every access to the backend that follows
the launch, and no other call is taken before it returns. Commands carry raw values; `cycleJoints` is
the same call with the commands of an adapter.
-/

namespace IghMaster

inductive MotionPolicy where
  | observationOnly
  | supervisedMotion
  | commissioning
  deriving DecidableEq

def motionPolicyAuthorizesCommands (policy : MotionPolicy) (startupEvidencePassed : Bool) : Bool :=
  policy == .supervisedMotion && startupEvidencePassed

/-- `busAlias` is the `alias` of the source. -/
structure AxisConfig where
  jointName : String := ""
  busAlias : UInt16 := 0
  position : UInt16 := 0
  vendorId : UInt32 := 0
  productCode : UInt32 := 0
  modelId : String := ""
  pdoLayout : PdoLayout := .unknown
  deriving DecidableEq

inductive AxisConfigError where
  | none
  | axisCountOutOfRange
  | emptyJointName
  | missingIdentity
  | duplicateJointName
  | duplicateBusAddress
  deriving DecidableEq

def AxisConfigError.code : AxisConfigError → Nat
  | .none => 0
  | .axisCountOutOfRange => 1
  | .emptyJointName => 2
  | .missingIdentity => 3
  | .duplicateJointName => 4
  | .duplicateBusAddress => 5

namespace AxisConfig

/-- The inner loop of `validate_axis_configs`, over the axes before the candidate. -/
def validatePrevious (candidate : AxisConfig) : List AxisConfig → AxisConfigError
  | [] => .none
  | previous :: rest =>
      if previous.jointName = candidate.jointName then .duplicateJointName
      else if previous.busAlias = candidate.busAlias ∧ previous.position = candidate.position then
        .duplicateBusAddress
      else validatePrevious candidate rest

def validateFrom (previous : List AxisConfig) : List AxisConfig → AxisConfigError
  | [] => .none
  | candidate :: rest =>
      if candidate.jointName.isEmpty then .emptyJointName
      else if candidate.vendorId = 0 ∨ candidate.productCode = 0 then .missingIdentity
      else
        match validatePrevious candidate previous with
        | .none => validateFrom (previous ++ [candidate]) rest
        | error => error

def toMotorConfig (axis : AxisConfig) : MotorConfig where
  position := axis.position
  vendorId := axis.vendorId
  productCode := axis.productCode
  name := axis.jointName
  modelId := axis.modelId
  pdoLayout := axis.pdoLayout

end AxisConfig

def validateAxisConfigs (axes : List AxisConfig) : AxisConfigError :=
  if 7 < axes.length then .axisCountOutOfRange else AxisConfig.validateFrom [] axes

def validateBusSlaves (slaves : List AxisConfig) : Bool :=
  slaves.all fun slave =>
    slave.vendorId != 0 && slave.productCode != 0 && slave.pdoLayout == .sriM8126

inductive MasterError where
  | invalidAxisConfiguration (validation : AxisConfigError)
  | invalidBusSlave
  | noSlaves
  | multipleForceSensors
  | initializeFailed
  | notMapped
  | activateFailed
  | evidenceFailed
  | jobFailed
  | notOperational
  | faultResetRefused (faultAxes : Nat) (first : UInt16)
  | faultResetIncomplete (remaining faultAxes : Nat) (first : UInt16)
  | notRunning
  | commandsTooShort
  | statesTooShort
  | communicationFault
  | releaseForbidden
  | releaseRefused
  deriving DecidableEq

def hexDigits (value : UInt16) : String := String.ofList (Nat.toDigits 16 value.toNat)

def MasterError.message : MasterError → String
  | .invalidAxisConfiguration validation =>
      "map_joints: invalid axis configuration (" ++ toString validation.code ++ ")"
  | .invalidBusSlave =>
      "map_joints: invalid bus slave configuration (expect SRI M8126 VID/PID)"
  | .noSlaves => "map_joints: axes and bus_slaves both empty"
  | .multipleForceSensors =>
      "map_joints: multiple SRI M8126 force sensors are not supported"
  | .initializeFailed => "IgH EtherCATServo::initialize failed"
  | .notMapped => "start: call map_joints first"
  | .activateFailed => "IgH EtherCATServo::activate failed (master/domain)"
  | .evidenceFailed =>
      "IgH startup evidence gate failed (observation-only; enable refused)"
  | .jobFailed =>
      "IgH hard-RT Job start failed (check IGH_REQUIRE_REALTIME / privileges)"
  | .notOperational =>
      "IgH slaves did not reach OP within 60s after Job start (WC/AL stuck)"
  | .faultResetRefused faultAxes first =>
      "IgH startup Fault Reset arm failed (safe-output/OP/disable gate), axes_with_ec=" ++
        toString faultAxes ++ " first=0x" ++ hexDigits first
  | .faultResetIncomplete remaining faultAxes first =>
      "IgH startup Fault Reset incomplete: " ++ toString remaining ++ "/" ++ toString faultAxes ++
        " still non-zero (was 0x" ++ hexDigits first ++ ")"
  | .notRunning => "cycle: master not running"
  | .commandsTooShort => "cycle: commands too short"
  | .statesTooShort => "cycle: states too short"
  | .communicationFault => "IgH communication fault (safe-output active)"
  | .releaseForbidden =>
      "release_safe_output: motion policy or startup evidence forbids motion"
  | .releaseRefused => "release_safe_output: communication latch or healthy dwell active"

/-- How far a `start` has come after its launch: it is about to take the step of this name. -/
inductive StartPhase where
  | awaitOp
  | clearLatch
  | readErrors
  | resetFaults (faultAxes : Nat) (first : UInt16)
  | recheckErrors (faultAxes : Nat) (first : UInt16)
  | setOperational
  | resetAgain
  | enterPosition (axis : Nat)
  deriving DecidableEq

structure Master where
  policy : MotionPolicy
  backend : Backend := {}
  axes : List AxisConfig := []
  jointNames : List String := []
  initialized : Bool := false
  mapped : Bool := false
  running : Bool := false
  startupEvidencePassed : Bool := false
  motionCommandsAuthorized : Bool := false
  forceSensorSlaveIndex : Option Nat := none
  starting : Option StartPhase := none
  deriving DecidableEq

structure StartInput where
  initialReads : Nat → List Int32
  activation : Servo.ActivateInput
  runtime : RuntimeStartInput

structure StartObservation where
  slavesInOp : Bool
  errorCodes : Nat → UInt16

inductive StartOutcome where
  | pending
  | failed (error : MasterError)
  | succeeded
  deriving DecidableEq

/-- `AxisCommand` in raw values; a value that is not finite is absent. The times are those that the
servo reads when it takes the velocity and the torque. -/
structure AxisCommand where
  position : Option Int32 := none
  velocity : Option Int32 := none
  effort : Option Int16 := none
  enable : Bool := true
  operationMode : Int8 := 0
  velocityNs : Nat := 0
  torqueNs : Nat := 0

def StartInput.bringUpInput (policy : MotionPolicy) (input : StartInput) : BringUpInput where
  initialReads := input.initialReads
  activation := input.activation
  requireEvidence := policy == .supervisedMotion
  runtime := input.runtime

namespace Backend

def perform (call : ServoCall) (backend : Backend) : Backend :=
  { backend with servo := backend.servo.perform backend.flags call }

/-- A call that is made where its value is finite. -/
def performSome {Value : Type} (value : Option Value) (call : Value → ServoCall)
    (backend : Backend) : Backend :=
  match value with
  | some value => backend.perform (call value)
  | none => backend

/-- What `cycle` does with the command of one axis. -/
def commandAxis (index : Nat) (command : AxisCommand) (backend : Backend) : Backend :=
  let id := index.toUInt8
  let moded :=
    if command.operationMode != 0 then backend.perform (.setOperationMode id ⟨command.operationMode⟩)
    else backend
  let enabled := moded.perform (.setEnable id command.enable)
  let positioned := enabled.performSome command.position fun position =>
    .setTargetPosition id position true
  let moving := positioned.performSome command.velocity fun velocity =>
    .setTargetVelocity id velocity true .external command.velocityNs
  if moving.servo.getOperationMode id = .cyclicSyncTorque then
    moving.performSome command.effort fun torque =>
      .setTargetTorque id torque .external command.torqueNs
  else
    moving

def commandAxes (commands : List AxisCommand) (backend : Backend) : Backend :=
  commands.zipIdx.foldl (fun backend entry => backend.commandAxis entry.2 entry.1) backend

def disableAxes (count : Nat) (backend : Backend) : Backend :=
  (List.range count).foldl (fun backend index => backend.perform (.setEnable index.toUInt8 false))
    backend

end Backend

namespace Master

def axisCount (master : Master) : Nat := master.axes.length

def init (master : Master) : Master := { master with initialized := true }

/-- A refused map leaves the servo as it is, but a second force sensor and a failing `initialize`
leave the master unmapped. -/
def mapJoints (bus : BusSetup) (config : IghMasterConfig) (axes slaves : List AxisConfig)
    (master : Master) : Master × Option MasterError :=
  let validation := validateAxisConfigs axes
  if validation ≠ .none then (master, some (.invalidAxisConfiguration validation))
  else if !validateBusSlaves slaves then (master, some .invalidBusSlave)
  else if axes.isEmpty && slaves.isEmpty then (master, some .noSlaves)
  else
    let motors := (axes ++ slaves).map AxisConfig.toMotorConfig
    let named : Master :=
      { master with
        jointNames := axes.map AxisConfig.jointName
        forceSensorSlaveIndex := motors.findIdx? MotorConfig.isSriM8126 }
    if 1 < motors.countP MotorConfig.isSriM8126 then
      ({ named with mapped := false }, some .multipleForceSensors)
    else
      let prepared := named.backend.initializeServo bus config motors
      if prepared.2 then
        ({ named with backend := prepared.1, axes := axes, mapped := true }, none)
      else
        ({ named with backend := prepared.1, mapped := false }, some .initializeFailed)

/-! ### Starting -/

/-- `start` up to its wait for the bus. -/
def start (input : StartInput) (master : Master) : Master × StartOutcome :=
  if !master.mapped then (master, .failed .notMapped)
  else
    let brought := master.backend.bringUp (input.bringUpInput master.policy)
    let evidence := brought.1.servo.startupEvidencePassed
    let judged : Master :=
      { master with
        backend := brought.1
        startupEvidencePassed := evidence
        motionCommandsAuthorized := motionPolicyAuthorizesCommands master.policy evidence }
    match brought.2 with
    | .activateFailed =>
        ({ master with backend := brought.1, running := false }, .failed .activateFailed)
    | .evidenceFailed => ({ judged with running := false }, .failed .evidenceFailed)
    | .jobFailed => (judged, .failed .jobFailed)
    | .running => ({ judged with starting := some .awaitOp }, .pending)

def advanceStart (phase : StartPhase) (backend : Backend) (master : Master) :
    Master × StartOutcome :=
  ({ master with backend := backend, starting := some phase }, .pending)

def failStart (error : MasterError) (master : Master) : Master × StartOutcome :=
  ({ master with backend := master.backend.deactivate, running := false, starting := none },
    .failed error)

/-- The error codes of the axes that have one. -/
def faultCodes (observed : StartObservation) (master : Master) : List UInt16 :=
  ((List.range master.axisCount).map observed.errorCodes).filter (· != 0)

def startStep (phase : StartPhase) (observed : StartObservation) (master : Master) :
    Master × StartOutcome :=
  match phase with
  | .awaitOp =>
      if observed.slavesInOp then master.advanceStart .clearLatch master.backend
      else master.failStart .notOperational
  | .clearLatch => master.advanceStart .readErrors master.backend.clearCommFault
  | .readErrors =>
      match master.faultCodes observed with
      | [] => master.advanceStart .setOperational master.backend
      | first :: rest =>
          master.advanceStart (.resetFaults (rest.length + 1) first) master.backend
  | .resetFaults faultAxes first =>
      let requested := master.backend.requestFaultReset 0xFF true observed.slavesInOp
      if requested.2 then master.advanceStart (.recheckErrors faultAxes first) requested.1
      else
        { master with backend := requested.1 }.failStart (.faultResetRefused faultAxes first)
  | .recheckErrors faultAxes first =>
      match master.faultCodes observed with
      | [] => master.advanceStart .setOperational master.backend
      | remaining =>
          master.failStart (.faultResetIncomplete remaining.length faultAxes first)
  | .setOperational => master.advanceStart .resetAgain (master.backend.next .setOperational)
  | .resetAgain => master.advanceStart (.enterPosition 0) master.backend.clearCommFault
  | .enterPosition axis =>
      if master.motionCommandsAuthorized && axis < master.axisCount then
        master.advanceStart (.enterPosition (axis + 1))
          (master.backend.perform (.setOperationMode axis.toUInt8 .cyclicSyncPosition))
      else
        ({ master with running := true, starting := none }, .succeeded)

def continueStart (observed : StartObservation) (master : Master) : Master × StartOutcome :=
  match master.starting with
  | none => (master, .pending)
  | some phase => master.startStep phase observed

/-! ### The running master -/

/-- The buffers are absent where the caller passes a null pointer. -/
def cycle (commands : Option (List AxisCommand)) (stateCount : Option Nat) (master : Master) :
    Master × Option MasterError :=
  if !master.running then (master, some .notRunning)
  else
    match commands with
    | none => (master, some .commandsTooShort)
    | some commands =>
        if commands.length < master.axisCount then (master, some .commandsTooShort)
        else if stateCount.all (· < master.axisCount) then (master, some .statesTooShort)
        else if master.backend.runtime.commFault then (master, some .communicationFault)
        else if master.motionCommandsAuthorized && !master.backend.runtime.safeOutputRequired then
          ({ master with
              backend := master.backend.commandAxes (commands.take master.axisCount) }, none)
        else (master, none)

def requestSafetyReset (master : Master) : Master :=
  { master with backend := (master.backend.disableAxes master.axisCount).clearCommFault }

def requestFaultReset (axisId : UInt8) (slavesInOp : Bool) (master : Master) : Master × Bool :=
  if master.running then
    let requested := master.backend.requestFaultReset axisId false slavesInOp
    ({ master with backend := requested.1 }, requested.2)
  else
    (master, false)

def requestSafeOutput (master : Master) : Master :=
  { master with backend := master.backend.requestSafeOutput }

def releaseSafeOutput (master : Master) : Master × Option MasterError :=
  if !master.motionCommandsAuthorized then (master, some .releaseForbidden)
  else
    let released := master.backend.releaseSafeOutput
    ({ master with backend := released.1 }, if released.2 then none else some .releaseRefused)

def motionReenableAllowed (master : Master) : Bool :=
  master.motionCommandsAuthorized && master.backend.runtime.motionReenableAllowed

def applyCommandContentionFallback (master : Master) : Master :=
  { master with backend := master.backend.perform .applyCommandContentionFallback }

def shutdown (master : Master) : Master :=
  { master with
    backend := master.backend.deactivate, running := false, mapped := false, initialized := false }

end Master

inductive MasterCall where
  | init
  | mapJoints (bus : BusSetup) (config : IghMasterConfig) (axes slaves : List AxisConfig)
  | start (input : StartInput)
  | cycle (commands : Option (List AxisCommand)) (stateCount : Option Nat)
  | requestSafetyReset
  | requestFaultReset (axisId : UInt8) (slavesInOp : Bool)
  | requestSafeOutput
  | releaseSafeOutput
  | applyCommandContentionFallback
  | shutdown

inductive MasterAction where
  | call (call : MasterCall)
  | continueStart (observed : StartObservation)
  | job (input : JobInput)

namespace Master

def perform (call : MasterCall) (master : Master) : Master :=
  match call with
  | .init => master.init
  | .mapJoints bus config axes slaves => (master.mapJoints bus config axes slaves).1
  | .start input => (master.start input).1
  | .cycle commands stateCount => (master.cycle commands stateCount).1
  | .requestSafetyReset => master.requestSafetyReset
  | .requestFaultReset axisId slavesInOp => (master.requestFaultReset axisId slavesInOp).1
  | .requestSafeOutput => master.requestSafeOutput
  | .releaseSafeOutput => master.releaseSafeOutput.1
  | .applyCommandContentionFallback => master.applyCommandContentionFallback
  | .shutdown => master.shutdown

/-- A call is taken when the one before has returned. -/
def next (master : Master) : MasterAction → Master
  | .call call => if master.starting.isSome then master else master.perform call
  | .continueStart observed => (master.continueStart observed).1
  | .job input => { master with backend := master.backend.jobCycle input }

def machine : Transition.Machine Master MasterAction where
  next := next

end Master

abbrev MasterVisit := Transition.Visit Master MasterAction
abbrev MasterConfig := Transition.Config Master MasterAction

end IghMaster
