import IghMaster.BackendHistory
import IghMaster.Lib.ChangeLog
import IghMaster.Lib.Ledger
import IghMaster.RuntimeLogger

/-!
# What the servo logs

`sendData` pushes an event where the status word or the control word of an axis changes and samples its
targets; `setEnable` and `setOperationMode` queue one for each command that changes something. Nothing is
logged of a cycle with safe outputs. The logger is there from the beginning.
-/

namespace IghMaster

/-- `detail` as `snprintf` leaves it. -/
def detailOf (text : String) (index : Fin 256) : Int8 :=
  match (text.toList.take 255)[index.val]? with
  | some char => Int8.ofNat char.toNat
  | none => 0

namespace RuntimeLogEvent

def motorId (event : RuntimeLogEvent) : UInt8 := event .motorId

def statusWord (event : RuntimeLogEvent) : UInt16 := event .statusWord

def controlWord (event : RuntimeLogEvent) : UInt16 := event .controlWord

def cia402State (event : RuntimeLogEvent) : UInt16 := event .cia402State

def operationMode (event : RuntimeLogEvent) : Int8 := event .operationMode

def targetPosition (event : RuntimeLogEvent) : Int32 := event .targetPosition

def targetVelocity (event : RuntimeLogEvent) : Int32 := event .targetVelocity

def targetTorque (event : RuntimeLogEvent) : Int16 := event .targetTorque

def detail (event : RuntimeLogEvent) (index : Fin 256) : Int8 := event (.detail index)

end RuntimeLogEvent

/-! ### The events of `sendData` -/

/-- The entries of an axis in the `last_logged_` vectors, with its counter of unsampled cycles. -/
structure AxisLog where
  statusWord : UInt16 := 0xFFFF
  controlWord : UInt16 := 0xFFFF
  cia402State : UInt16 := 0xFFFF
  targetPosition : Int32 := Int32.minValue
  targetVelocity : Int32 := Int32.minValue
  targetTorque : Int16 := Int16.minValue
  targetSetpointLogCounter : UInt16 := 0

/-- The times that the events of an axis are given in one cycle. A fault has the time of its state. -/
structure LogClock where
  state : UInt64
  control : UInt64
  target : UInt64

def targetLogIntervalCycles : UInt16 := 100

/-- An event about an axis whose pending commands are merged: `fillRuntimeEventTargets` and what else the
events of `sendDataCommon` have in common. -/
def Axis.runtimeEvent (motorId : Nat) (type : RuntimeLogEventType) (nowNs : UInt64)
    (controlWord : UInt16) (detail : String) (axis : Axis) : RuntimeLogEvent
  | .timestampNs => nowNs
  | .motorId => motorId.toUInt8
  | .type => type
  | .statusWord => axis.input.statusWord
  | .controlWord => controlWord
  | .cia402State => (decodeCia402State axis.input.statusWord).value
  | .operationMode => axis.mode.value
  | .targetPosition => axis.setpoints.targetPosition
  | .targetVelocity => axis.setpoints.targetVelocity
  | .targetTorque => axis.setpoints.targetTorque
  | .errorCode => (0 : UInt16)
  | .detail index => detailOf detail index

namespace AxisLog

/-- The state event has the control word of before the enable machine. -/
def logState (motorId : Nat) (nowNs : UInt64) (axis : Axis) (log : AxisLog) :
    AxisLog × List RuntimeLogEvent :=
  let statusWord := axis.input.statusWord
  let state := (decodeCia402State statusWord).value
  if statusWord ≠ log.statusWord ∨ state ≠ log.cia402State then
    ({ log with statusWord := statusWord, cia402State := state },
      axis.runtimeEvent motorId .cia402State nowNs axis.fsm.controlWordState "" ::
        if isCiA402Fault statusWord then
          [axis.runtimeEvent motorId .errorCode nowNs axis.fsm.controlWordState "fault_detected"]
        else [])
  else
    (log, [])

def logControlWord (motorId : Nat) (nowNs : UInt64) (controlWordToWrite : UInt16) (axis : Axis)
    (log : AxisLog) : AxisLog × List RuntimeLogEvent :=
  if controlWordToWrite ≠ log.controlWord then
    ({ log with controlWord := controlWordToWrite },
      [axis.runtimeEvent motorId .controlWord nowNs controlWordToWrite "control_word_write"])
  else
    (log, [])

def targetsChanged (axis : Axis) (log : AxisLog) : Bool :=
  axis.setpoints.targetPosition != log.targetPosition ||
    axis.setpoints.targetVelocity != log.targetVelocity ||
    axis.setpoints.targetTorque != log.targetTorque

def maybeLogTargetSetpoint (activated : Bool) (motorId : Nat) (nowNs : UInt64) (controlWord : UInt16)
    (axis : Axis) (log : AxisLog) : AxisLog × List RuntimeLogEvent :=
  if !activated then
    (log, [])
  else
    let counter := log.targetSetpointLogCounter + 1
    if counter < targetLogIntervalCycles then
      ({ log with targetSetpointLogCounter := counter }, [])
    else
      let inMotion := axis.setpoints.positionOverrideActive || axis.setpoints.velocityOverrideActive
      if !inMotion && !log.targetsChanged axis then
        ({ log with targetSetpointLogCounter := 0 }, [])
      else
        ({ log with
            targetSetpointLogCounter := 0
            targetPosition := axis.setpoints.targetPosition
            targetVelocity := axis.setpoints.targetVelocity
            targetTorque := axis.setpoints.targetTorque },
          [axis.runtimeEvent motorId .targetSetpoint nowNs controlWord ""])

/-- What one motor in the loop of `sendData` logs: the setpoints of the axis still stand before
`mergePending`. -/
def sendData (activated wcOk : Bool) (motorId : Nat) (clock : LogClock) (axis : Axis) (log : AxisLog) :
    AxisLog × List RuntimeLogEvent :=
  let axis := { axis with setpoints := axis.setpoints.mergePending }
  let controlWordToWrite := (axis.fsm.sendDataCommon (axis.txContext activated wcOk)).2
  let state := log.logState motorId clock.state axis
  let control := state.1.logControlWord motorId clock.control controlWordToWrite axis
  let target :=
    control.1.maybeLogTargetSetpoint activated motorId clock.target controlWordToWrite axis
  (target.1, state.2 ++ control.2 ++ target.2)

end AxisLog

namespace Servo

/-- The loop of `sendData` with the log of one axis. -/
def logAxis (domain : DomainState) (clock : Nat → LogClock) (logs : Nat → AxisLog) (servo : Servo)
    (index : Nat) : AxisLog × List RuntimeLogEvent :=
  match servo.axes[index]? with
  | some axis =>
      if axis.isMotion then
        (logs index).sendData servo.activated (domain.wcState == .complete) index (clock index) axis
      else (logs index, [])
  | none => (logs index, [])

def logSendData (domain : DomainState) (clock : Nat → LogClock) (logs : Nat → AxisLog)
    (servo : Servo) : (Nat → AxisLog) × List RuntimeLogEvent :=
  if servo.ready then
    (fun index => (servo.logAxis domain clock logs index).1,
      (List.range servo.motorCount).flatMap fun index => (servo.logAxis domain clock logs index).2)
  else
    (logs, [])

/-! ### The commands that are queued -/

/-- The axis whose targets a command's event has: the first one, where the command is for all. -/
def loggedSetpoints (motorId : UInt8) (servo : Servo) : Setpoints :=
  let logMotor := if motorId == 0xFF || servo.motorCount ≤ motorId.toNat then 0 else motorId.toNat
  match servo.axes[logMotor]? with
  | some axis => axis.setpoints
  | none => {}

/-- The event of `setEnable` or `setOperationMode`. -/
def commandEvent (motorId : UInt8) (nowNs : UInt64) (operationMode : Int8) (detail : String)
    (servo : Servo) : RuntimeLogEvent
  | .timestampNs => nowNs
  | .motorId => motorId
  | .type => RuntimeLogEventType.servoCommand
  | .statusWord => (0 : UInt16)
  | .controlWord => (0 : UInt16)
  | .cia402State => (0 : UInt16)
  | .operationMode => operationMode
  | .targetPosition => (servo.loggedSetpoints motorId).targetPosition
  | .targetVelocity => (servo.loggedSetpoints motorId).targetVelocity
  | .targetTorque => (servo.loggedSetpoints motorId).targetTorque
  | .errorCode => (0 : UInt16)
  | .detail index => detailOf detail index

def operationModeToString (mode : OperationMode) : String :=
  if mode = .cyclicSyncPosition then "CSP"
  else if mode = .cyclicSyncVelocity then "CSV"
  else if mode = .cyclicSyncTorque then "CST"
  else "NONE"

def setEnableDetail (enable : Bool) : String :=
  "set_enable enable=" ++ (if enable then "1" else "0")

def setOperationModeDetail (mode : OperationMode) : String :=
  "set_operation_mode mode=" ++ operationModeToString mode

/-- Some motor that `setEnable` is about is not yet as it asks for. -/
def enableChanges (motorId : UInt8) (enable : Bool) (servo : Servo) : Bool :=
  if motorId == 0xFF then
    servo.axes.any fun axis => axis.isMotion && axis.fsm.desiredEnable != enable
  else
    match servo.axes[motorId.toNat]? with
    | some axis => axis.isMotion && axis.fsm.desiredEnable != enable
    | none => false

/-- The event that a call queues when it has done its work. -/
def loggedCommand (flags : RuntimeFlags) (nowNs : UInt64) (servo : Servo) :
    ServoCall → Option RuntimeLogEvent
  | .setEnable motorId enable =>
      if (servo.setEnable flags motorId enable).2 && servo.enableChanges motorId enable then
        some ((servo.setEnable flags motorId enable).1.commandEvent motorId nowNs 0
          (setEnableDetail enable))
      else
        none
  | .setOperationMode motorId mode =>
      if (servo.setOperationMode motorId mode).2 && !servo.inMode motorId mode then
        some ((servo.setOperationMode motorId mode).1.commandEvent motorId nowNs mode.value
          (setOperationModeDetail mode))
      else
        none
  | _ => none

end Servo

/-! ### A backend with a logger -/

structure LoggedBackend where
  backend : Backend := {}
  axisLogs : Nat → AxisLog := fun _ => {}
  pushed : List RuntimeLogEvent := []
  queued : List RuntimeLogEvent := []

/-- An action of the backend, with the times that the events are given. -/
structure LoggedAction where
  action : BackendAction
  clock : Nat → LogClock
  commandNs : UInt64

/-- Every motor gets an id of its own, which is an `uint8_t`. -/
def LoggedAction.hasIds (action : LoggedAction) : Bool :=
  match action.action with
  | .initializeServo _ _ motors => motors.length ≤ 256
  | _ => true

namespace LoggedBackend

def logCycle (action : LoggedAction) (state : LoggedBackend) : (Nat → AxisLog) × List RuntimeLogEvent :=
  match action.action with
  | .job input =>
      if state.backend.runtime.jobRunning && state.backend.servo.initialized &&
          !state.backend.cycleIsSafe input then
        (state.backend.beforeOutputs input).servo.logSendData input.domain action.clock state.axisLogs
      else
        (state.axisLogs, [])
  | _ => (state.axisLogs, [])

def logCommand (action : LoggedAction) (state : LoggedBackend) : Option RuntimeLogEvent :=
  match action.action with
  | .call call => state.backend.servo.loggedCommand state.backend.flags action.commandNs call
  | _ => none

def next (state : LoggedBackend) (action : LoggedAction) : LoggedBackend where
  backend := state.backend.next action.action
  axisLogs := (state.logCycle action).1
  pushed := state.pushed ++ (state.logCycle action).2
  queued := state.queued ++ (state.logCommand action).toList

def machine : Transition.Machine LoggedBackend LoggedAction where
  next := next

end LoggedBackend

abbrev LoggedVisit := Transition.Visit LoggedBackend LoggedAction
abbrev LoggedConfig := Transition.Config LoggedBackend LoggedAction

/-! ### What the log tells -/

/-- What an axis shows in a cycle of `sendData`: its status word, the control word and the mode that are
sent, and the targets that the pending commands leave. -/
structure SentCycle where
  statusWord : UInt16
  controlWord : UInt16
  operationMode : Int8
  targetPosition : Int32
  targetVelocity : Int32
  targetTorque : Int16
  inMotion : Bool

def Axis.sentCycle (activated wcOk : Bool) (axis : Axis) : SentCycle where
  statusWord := axis.input.statusWord
  controlWord := (axis.sendData activated wcOk).output.controlWord
  operationMode := axis.mode.value
  targetPosition := axis.setpoints.mergePending.targetPosition
  targetVelocity := axis.setpoints.mergePending.targetVelocity
  targetTorque := axis.setpoints.mergePending.targetTorque
  inMotion := axis.setpoints.positionOverrideActive || axis.setpoints.velocityOverrideActive

namespace SentCycle

def statusDiffers (logged cycle : SentCycle) : Prop := cycle.statusWord ≠ logged.statusWord

def controlDiffers (logged cycle : SentCycle) : Prop := cycle.controlWord ≠ logged.controlWord

def targetsDiffer (logged cycle : SentCycle) : Prop :=
  cycle.targetPosition ≠ logged.targetPosition ∨ cycle.targetVelocity ≠ logged.targetVelocity ∨
    cycle.targetTorque ≠ logged.targetTorque

/-- A sample is worth an event while the axis is in motion, or if the targets are not those logged. -/
def sampleDiffers (logged cycle : SentCycle) : Prop :=
  cycle.inMotion = true ∨ targetsDiffer logged cycle

instance : DecidableRel statusDiffers := fun _ _ => inferInstanceAs (Decidable (_ ≠ _))
instance : DecidableRel controlDiffers := fun _ _ => inferInstanceAs (Decidable (_ ≠ _))
instance : DecidableRel targetsDiffer := fun _ _ => inferInstanceAs (Decidable (_ ∨ _ ∨ _))
instance : DecidableRel sampleDiffers := fun _ _ => inferInstanceAs (Decidable (_ ∨ _))

/-- What the logger has at first for the last cycle. -/
def unlogged : SentCycle where
  statusWord := 0xFFFF
  controlWord := 0xFFFF
  operationMode := 0
  targetPosition := Int32.minValue
  targetVelocity := Int32.minValue
  targetTorque := Int16.minValue
  inMotion := false

/-- Every hundredth cycle. -/
def samples (cycles : List SentCycle) : List SentCycle :=
  (cycles.zipIdx.filter fun entry => (entry.2 + 1) % targetLogIntervalCycles.toNat = 0).map Prod.fst

end SentCycle

/-- The cycle that the axis at the index sends with this visit. -/
def LoggedVisit.sends (index : Nat) (visit : LoggedVisit) : Option SentCycle :=
  match visit.action.action with
  | .job input =>
      if visit.before.backend.runtime.jobRunning && !visit.before.backend.cycleIsSafe input then
        ((visit.before.backend.beforeOutputs input).servo.axes[index]?.filter Axis.isMotion).map
          (Axis.sentCycle true (input.domain.wcState == .complete))
      else
        none
  | _ => none

/-- The event is about this cycle of the axis at the index. -/
structure RuntimeLogEvent.Shows (index : Nat) (event : RuntimeLogEvent) (cycle : SentCycle) : Prop where
  motorId : event.motorId.toNat = index
  statusWord : event.statusWord = cycle.statusWord
  cia402State : event.cia402State = (decodeCia402State cycle.statusWord).value
  operationMode : event.operationMode = cycle.operationMode
  targetPosition : event.targetPosition = cycle.targetPosition
  targetVelocity : event.targetVelocity = cycle.targetVelocity
  targetTorque : event.targetTorque = cycle.targetTorque

/-- An event of `control_word_write` or of a sample has the control word of the cycle as well. -/
structure RuntimeLogEvent.ShowsSent (index : Nat) (event : RuntimeLogEvent) (cycle : SentCycle) : Prop
    extends event.Shows index cycle where
  controlWord : event.controlWord = cycle.controlWord

def eventsOf (motorId : Nat) (type : RuntimeLogEventType) (events : List RuntimeLogEvent) :
    List RuntimeLogEvent :=
  events.filter fun event => event.motorId.toNat = motorId ∧ event.type = type

/-- What the events of an axis tell of the cycles it has sent: one for each change of a word, with a fault
where the new status word has one, and those samples that are worth one. -/
structure ToldBy (index : Nat) (cycles : List SentCycle) (events : List RuntimeLogEvent) : Prop where
  states : List.Forall₂ (RuntimeLogEvent.Shows index) (eventsOf index .cia402State events)
    (cycles.destutter SentCycle.statusDiffers)
  faults : List.Forall₂ (RuntimeLogEvent.Shows index) (eventsOf index .errorCode events)
    ((cycles.destutter SentCycle.statusDiffers).filter fun cycle => isCiA402Fault cycle.statusWord)
  controlWords : List.Forall₂ (RuntimeLogEvent.ShowsSent index) (eventsOf index .controlWord events)
    (cycles.destutter SentCycle.controlDiffers)
  setpoints : List.Forall₂ (RuntimeLogEvent.ShowsSent index) (eventsOf index .targetSetpoint events)
    (ChangeLog.kept SentCycle.sampleDiffers SentCycle.unlogged (SentCycle.samples cycles))

/-! ### What the queued commands tell -/

/-- What a command of `setEnable` asked for. -/
def RuntimeLogEvent.enables (event : RuntimeLogEvent) : Option Bool :=
  if event.detail = detailOf (Servo.setEnableDetail true) then some true
  else if event.detail = detailOf (Servo.setEnableDetail false) then some false
  else none

/-- What a command of `setOperationMode` asked for. -/
def RuntimeLogEvent.setsMode (event : RuntimeLogEvent) : Option OperationMode :=
  if event.detail = detailOf (Servo.setOperationModeDetail ⟨event.operationMode⟩) then
    some ⟨event.operationMode⟩
  else
    none

/-- What an event asks of the axis at the index. -/
def asksOf {α : Type} (index : Nat) (asks : RuntimeLogEvent → Option α) (event : RuntimeLogEvent) :
    Option α :=
  if Servo.covers event.motorId index then asks event else none

/-- The command that is queued with this visit. -/
def LoggedVisit.queues (visit : LoggedVisit) : Option RuntimeLogEvent :=
  visit.before.logCommand visit.action

/-- A queued command asks for the axis to be enabled or not, and a cycle with safe outputs takes it back. -/
def LoggedVisit.wants (index : Nat) (visit : LoggedVisit) : Option Bool :=
  if Backend.isSafeCycle
      { before := visit.before.backend, action := visit.action.action, after := visit.after.backend } then
    some false
  else
    (queues visit).bind (asksOf index RuntimeLogEvent.enables)

/-- The queue holds the commands in their order. The mode of a motor is that of its last command, and
whether it is to be enabled can be read off if the cycles with safe outputs are known. -/
structure LoggedBackend.CommandsTell (index : Nat) (config : LoggedConfig) : Prop where
  queued : config.state.queued = Transition.flow LoggedVisit.queues config.history
  modes : ∀ axis, config.state.backend.servo.axes[index]? = some axis → axis.isMotion = true →
    axis.mode = (config.state.queued.filterMap (asksOf index RuntimeLogEvent.setsMode)).getLastD
      .cyclicSyncPosition
  enables : ∀ axis, config.state.backend.servo.axes[index]? = some axis → axis.isMotion = true →
    axis.fsm.desiredEnable = (Transition.flow (LoggedVisit.wants index) config.history).getLastD false

end IghMaster
