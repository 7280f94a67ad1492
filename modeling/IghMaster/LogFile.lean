import IghMaster.EventLog
import IghMaster.Lib.TextTable

/-!
# The file of the runtime logger

The text that `initialize` and `writeEvent` put into the file, and a reader that takes its lines apart
again. What `localtime_r` makes of a time is given.
-/

namespace IghMaster

open TextTable

def RuntimeLogEvent.timestampNs (event : RuntimeLogEvent) : UInt64 := event .timestampNs

/-- A local time as it is printed. -/
structure LocalTime where
  year : Int
  month : Nat
  day : Nat
  hour : Nat
  minute : Nat
  second : Nat

/-- What `initialize` keeps of the two clocks, the wall clock's in nanoseconds of its epoch. -/
structure LogBase where
  monoBaseNs : UInt64
  wallBaseTime : Int
  localTime : Int → LocalTime

namespace LogBase

def formatIsoTimestamp (monotonicNs : UInt64) (base : LogBase) : List Char :=
  let wall := base.wallBaseTime + (monotonicNs - base.monoBaseNs).toInt64.toInt
  let time := base.localTime (wall.tdiv 1000000000)
  let twoDigits := fun number => (Nat.toDigits 10 number).leftpad 2 '0'
  let milliseconds := (wall.tdiv 1000000).tmod 1000
  signed time.year ++ '-' :: twoDigits time.month ++ '-' :: twoDigits time.day ++
    ' ' :: twoDigits time.hour ++ ':' :: twoDigits time.minute ++ ':' :: twoDigits time.second ++
    '.' :: (signed milliseconds).leftpad 3 '0'

def elapsedNs (timestampNs : UInt64) (base : LogBase) : UInt64 :=
  if base.monoBaseNs ≤ timestampNs then timestampNs - base.monoBaseNs else 0

end LogBase

def eventTypeName : RuntimeLogEventType → List Char
  | .cia402State => "cia402_state".toList
  | .controlWord => "control_word".toList
  | .servoCommand => "servo_command".toList
  | .errorCode => "error_code".toList
  | .targetSetpoint => "target_setpoint".toList

/-- The characters of `detail` before its first zero. -/
def detailText (detail : Fin 256 → Int8) : List Char :=
  (((List.finRange 256).map detail).takeWhile fun byte => byte != 0).map fun byte =>
    Char.ofNat byte.toUInt8.toNat

def hexColumn (width : Nat) (word : UInt16) : List Char :=
  '0' :: 'x' :: (Nat.toDigits 16 word.toNat).leftpad width '0'

namespace LogBase

def columns (event : RuntimeLogEvent) (base : LogBase) : List (List Char) :=
  [base.formatIsoTimestamp event.timestampNs,
    Nat.toDigits 10 (base.elapsedNs event.timestampNs).toNat,
    eventTypeName event.type,
    Nat.toDigits 10 event.motorId.toNat,
    hexColumn 4 event.statusWord,
    hexColumn 2 event.cia402State,
    (cia402StateName event.cia402State).toList,
    hexColumn 4 event.controlWord,
    signed event.operationMode.toInt,
    '"' :: detailText event.detail ++ ['"'],
    signed event.targetPosition.toInt,
    signed event.targetVelocity.toInt,
    signed event.targetTorque.toInt,
    hexColumn 4 event.errorCode]

/-- `writeEvent` but for the end of the line. -/
def writeEvent (event : RuntimeLogEvent) (base : LogBase) : List Char :=
  [','].intercalate (base.columns event)

example : writeEvent RuntimeLogEvent.blank ⟨0, 0, fun _ => ⟨1970, 1, 1, 0, 0, 0⟩⟩ =
    ("1970-01-01 00:00:00.000,0,cia402_state,0,0x0000,0x00,NOT_READY_TO_SWITCH_ON,0x0000,0," ++
      "\"\",0,0,0,0x0000").toList := by decide +kernel

def header : List Char :=
  ("iso_time,elapsed_ns,event_type,motor_id,status_word,cia402_state,cia402_state_name," ++
    "control_word,operation_mode,detail,target_position,target_velocity,target_torque,error_code").toList

/-- The file after the events have been written. -/
def fileText (events : List RuntimeLogEvent) (base : LogBase) : List Char :=
  lines (header :: events.map fun event => base.writeEvent event)

end LogBase

/-! ### Reading the file -/

/-- What a line tells of its event: all but the wall clock's time, which is printed for people. -/
structure LogLine where
  elapsedNs : UInt64
  type : RuntimeLogEventType
  motorId : UInt8
  statusWord : UInt16
  cia402State : UInt16
  controlWord : UInt16
  operationMode : Int8
  detail : List Char
  targetPosition : Int32
  targetVelocity : Int32
  targetTorque : Int16
  errorCode : UInt16

def LogBase.logLine (base : LogBase) (event : RuntimeLogEvent) : LogLine where
  elapsedNs := base.elapsedNs event.timestampNs
  type := event.type
  motorId := event.motorId
  statusWord := event.statusWord
  cia402State := event.cia402State
  controlWord := event.controlWord
  operationMode := event.operationMode
  detail := detailText event.detail
  targetPosition := event.targetPosition
  targetVelocity := event.targetVelocity
  targetTorque := event.targetTorque
  errorCode := event.errorCode

def readEventType (name : List Char) : Option RuntimeLogEventType :=
  [.cia402State, .controlWord, .servoCommand, .errorCode, .targetSetpoint].find? fun type =>
    eventTypeName type == name

def readHex (column : List Char) : UInt16 := UInt16.ofNat (readNat 16 (column.drop 2))

def readRow (row : List Char) : Option LogLine :=
  match row.splitOn ',' with
  | [_, elapsedNs, type, motorId, statusWord, cia402State, _, controlWord, operationMode, detail,
      targetPosition, targetVelocity, targetTorque, errorCode] =>
      (readEventType type).map fun type =>
        { elapsedNs := UInt64.ofNat (readNat 10 elapsedNs)
          type := type
          motorId := UInt8.ofNat (readNat 10 motorId)
          statusWord := readHex statusWord
          cia402State := readHex cia402State
          controlWord := readHex controlWord
          operationMode := Int8.ofInt (readInt operationMode)
          detail := detail.tail.dropLast
          targetPosition := Int32.ofInt (readInt targetPosition)
          targetVelocity := Int32.ofInt (readInt targetVelocity)
          targetTorque := Int16.ofInt (readInt targetTorque)
          errorCode := readHex errorCode }
  | _ => none

/-- The lines of a file, or nothing if it is not one of the logger's. -/
def readLog (text : List Char) : Option (List LogLine) :=
  match readLines text with
  | first :: rows => if first = LogBase.header then rows.mapM readRow else none
  | [] => none

/-! ### What the file tells -/

open Transition LoggerVisit in
/-- The logger is handed what the backend logs, in its order, but perhaps not yet all of it. -/
structure ServesBackend (logged : LoggedConfig) (config : LoggerConfig) : Prop where
  events : flow enters config.history <+: logged.state.pushed
  commands : flow queues config.history <+: logged.state.queued

/-- No push has met a full ring. -/
def RefusesNone (config : LoggerConfig) : Prop :=
  ∀ visit ∈ config.history, ∀ answer, LoggerVisit.answers visit = some answer → answer.accepted = true

open Transition LoggerVisit in
/-- The events of the backend are all in the logger, and none of them is on its way. -/
structure HasWritten (logged : LoggedConfig) (config : LoggerConfig) : Prop where
  events : flow enters config.history = logged.state.pushed
  unpushed : config.state.realTime.unpushed = []
  taken : flow takes config.history = flow accepts config.history
  inHand : config.state.inHand = []

/-- The line is about this cycle of the axis at the index. -/
structure LogLine.Shows (index : Nat) (line : LogLine) (cycle : SentCycle) : Prop where
  motorId : line.motorId.toNat = index
  statusWord : line.statusWord = cycle.statusWord
  cia402State : line.cia402State = (decodeCia402State cycle.statusWord).value
  operationMode : line.operationMode = cycle.operationMode
  targetPosition : line.targetPosition = cycle.targetPosition
  targetVelocity : line.targetVelocity = cycle.targetVelocity
  targetTorque : line.targetTorque = cycle.targetTorque

structure LogLine.ShowsSent (index : Nat) (line : LogLine) (cycle : SentCycle) : Prop
    extends line.Shows index cycle where
  controlWord : line.controlWord = cycle.controlWord

def linesOf (motorId : Nat) (type : RuntimeLogEventType) (lines : List LogLine) : List LogLine :=
  lines.filter fun line => line.motorId.toNat = motorId ∧ line.type = type

/-- Lines tell a part of what the cycles of an axis are worth. -/
def TellPart (part : List SentCycle → List SentCycle → Prop) (shows : LogLine → SentCycle → Prop)
    (lines : List LogLine) (cycles : List SentCycle) : Prop :=
  ∃ told, part told cycles ∧ List.Forall₂ shows lines told

/-- `ToldBy` for the lines of the file. -/
structure LinesTell (part : List SentCycle → List SentCycle → Prop) (index : Nat)
    (cycles : List SentCycle) (lines : List LogLine) : Prop where
  states : TellPart part (LogLine.Shows index) (linesOf index .cia402State lines)
    (cycles.destutter SentCycle.statusDiffers)
  faults : TellPart part (LogLine.Shows index) (linesOf index .errorCode lines)
    ((cycles.destutter SentCycle.statusDiffers).filter fun cycle => isCiA402Fault cycle.statusWord)
  controlWords : TellPart part (LogLine.ShowsSent index) (linesOf index .controlWord lines)
    (cycles.destutter SentCycle.controlDiffers)
  setpoints : TellPart part (LogLine.ShowsSent index) (linesOf index .targetSetpoint lines)
    (ChangeLog.kept SentCycle.sampleDiffers SentCycle.unlogged (SentCycle.samples cycles))

open Transition LoggedVisit in
/-- The lines of every axis tell of some of the cycles that it has sent, in their order. If no push has
met a full ring these are the first ones, and all of them once everything is written. -/
structure FileTells (logged : LoggedConfig) (config : LoggerConfig) (lines : List LogLine) : Prop where
  some : ∀ index < 256, LinesTell List.Sublist index (flow (sends index) logged.history) lines
  first : RefusesNone config →
    ∀ index < 256, LinesTell List.IsPrefix index (flow (sends index) logged.history) lines
  all : RefusesNone config → HasWritten logged config →
    ∀ index < 256, LinesTell Eq index (flow (sends index) logged.history) lines

end IghMaster
