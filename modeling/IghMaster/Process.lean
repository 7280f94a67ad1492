import Mathlib.Logic.Function.Basic
import IghMaster.Backend
import IghMaster.MotorKinematics
import IghMaster.ReferenceClock

/-!
# The masters of a process

Every master index has its own servo and runtime, but three things are file-scope variables and so shared
by all of them: the kinematic parameters, the working-counter state of `sendData` and the extension of
the reference clock. A motion cycle is divided at its accesses to the working-counter state, since the
Job threads of two masters run side by side; the other calls of a master wait for its own cycle.
-/

namespace IghMaster

open Transition

/-- `kMaxMasters` is 4. -/
abbrev MasterIndex := Fin 4

structure ProcessGlobals where
  params : List MotorKinematicsParams := [{}]
  sendDataWcState : WcState := .zero
  clock : ReferenceClock := {}
  deriving DecidableEq

/-- Where a motion cycle stands in `sendData`: the state of this cycle is yet to be evaluated, or the
axis at the index is the next one. -/
inductive SendPhase where
  | evaluate
  | axis (index : Nat)
  deriving DecidableEq

/-- A master index: its servo and runtime, and the motion cycle that it is in. -/
structure Party where
  backend : Backend := {}
  sending : Option (JobInput × SendPhase) := none

/-- A conversion is one of a command or of feedback, of the motor with the id. -/
inductive PartyCall where
  | act (action : BackendAction)
  | continueJob
  | tryLoadKinematicsFromSdo (sdo : Nat → KinematicsSdo)
  | convert (motorId : Nat)
  | getReferenceClockTime (input : ClockRead)
  | alignDcTimeBase (systemTimeNs : UInt64)

/-- What a master takes from the shared variables. -/
inductive SharedReading where
  | kinematics (motorId : Nat) (params : MotorKinematicsParams)
  | wcState (index : Nat) (state : WcState)
  | referenceTime (time : UInt64)
  deriving DecidableEq

/-- What `sendData` of an activated servo makes of the domain state. -/
def DomainState.sendDataWcState (domain : DomainState) : WcState :=
  if domain.rxOk then .complete else domain.wcState

namespace Party

def beginsMotion (input : JobInput) (party : Party) : Bool :=
  party.sending.isNone && party.backend.runtime.jobRunning && party.backend.servo.ready &&
    !party.backend.cycleIsSafe input

/-- A motion cycle up to the first store of `sendData`; a safe cycle does not touch the shared
variables. -/
def beginJob (input : JobInput) (party : Party) (globals : ProcessGlobals) :
    Party × ProcessGlobals :=
  if party.beginsMotion input then
    let prepared := party.backend.beforeOutputs input
    ({ backend := { prepared with servo := { prepared.servo with safeOutputActive := false } }
       sending := some (input, .evaluate) },
      { globals with sendDataWcState := .zero })
  else
    ({ party with backend := party.backend.jobCycle input }, globals)

/-- One motor in the loop of `sendData`. -/
def sendAxis (index : Nat) (wcState : WcState) (servo : Servo) : Servo :=
  { servo with
    axes := servo.axes.modify index fun axis =>
      if axis.isMotion then axis.sendData servo.activated (wcState == .complete) else axis }

def continueJob (party : Party) (globals : ProcessGlobals) : Party × ProcessGlobals :=
  match party.sending with
  | none => (party, globals)
  | some (input, .evaluate) =>
      ({ party with sending := some (input, .axis 0) },
        { globals with sendDataWcState := input.domain.sendDataWcState })
  | some (input, .axis index) =>
      if index < party.backend.servo.axes.length then
        ({ backend :=
             { party.backend with
               servo := sendAxis index globals.sendDataWcState party.backend.servo }
           sending := some (input, .axis (index + 1)) }, globals)
      else
        ({ backend := party.backend.finishJobCycle input.timing input.domain.rxOk
           sending := none }, globals)

/-- `initialize` injects the parameters last, where nothing has failed. -/
def initializeServo (bus : BusSetup) (config : IghMasterConfig) (motors : List MotorConfig)
    (party : Party) (globals : ProcessGlobals) : Party × ProcessGlobals :=
  let prepared := party.backend.initializeServo bus config motors
  ({ party with backend := prepared.1 },
    if prepared.2 then
      { globals with
        params := MotorKinematics.setParams
          (prepared.1.servo.profileKinematics globals.params) globals.params }
    else globals)

def act (action : BackendAction) (party : Party) (globals : ProcessGlobals) :
    Party × ProcessGlobals :=
  if party.sending.isSome then
    (party, globals)
  else
    match action with
    | .job input => party.beginJob input globals
    | .initializeServo bus config motors => party.initializeServo bus config motors globals
    | action => ({ party with backend := party.backend.next action }, globals)

def step (party : Party) (globals : ProcessGlobals) : PartyCall → Party × ProcessGlobals
  | .act action => party.act action globals
  | .continueJob => party.continueJob globals
  | .tryLoadKinematicsFromSdo sdo =>
      (party, { globals with
        params := party.backend.servo.tryLoadKinematicsFromSdo sdo globals.params })
  | .convert _ => (party, globals)
  | .getReferenceClockTime input =>
      if party.backend.servo.activated then
        (party, { globals with clock := (globals.clock.read input).1 })
      else
        (party, globals)
  | .alignDcTimeBase systemTimeNs =>
      (party, { globals with clock := globals.clock.alignTimeBase systemTimeNs })

def reads (party : Party) (globals : ProcessGlobals) : PartyCall → Option SharedReading
  | .continueJob =>
      match party.sending with
      | some (_, .axis index) =>
          if party.backend.servo.axes[index]?.any Axis.isMotion then
            some (.wcState index globals.sendDataWcState)
          else none
      | _ => none
  | .convert motorId =>
      if motorId < party.backend.servo.axes.length then
        some (.kinematics motorId (MotorKinematics.get motorId globals.params))
      else none
  | .getReferenceClockTime input =>
      some (.referenceTime
        (if party.backend.servo.activated then (globals.clock.read input).2 else 0))
  | _ => none

end Party

structure Process where
  party : MasterIndex → Party := fun _ => {}
  globals : ProcessGlobals := {}

namespace Process

def next (process : Process) (action : MasterIndex × PartyCall) : Process :=
  let stepped := (process.party action.1).step process.globals action.2
  { party := Function.update process.party action.1 stepped.1
    globals := stepped.2 }

def machine : Machine Process (MasterIndex × PartyCall) where
  next := next

end Process

abbrev ProcessVisit := Visit Process (MasterIndex × PartyCall)
abbrev ProcessConfig := Config Process (MasterIndex × PartyCall)

namespace Process

def seen (own : MasterIndex) (visit : ProcessVisit) : Option SharedReading :=
  if visit.action.1 = own then
    (visit.before.party own).reads visit.before.globals visit.action.2
  else none

def isOwn (own : MasterIndex) (action : MasterIndex × PartyCall) : Bool := action.1 == own

/-- What a master takes from the shared variables in a run is what it takes where its own calls are
kept alone, with the same answers of the bus. -/
def Undisturbed (own : MasterIndex) (actions : List (MasterIndex × PartyCall)) : Prop :=
  (machine.exec (Config.start {}) actions).history.filterMap (seen own) =
    (machine.exec (Config.start {}) (actions.filter (isOwn own))).history.filterMap (seen own)

/-! ### Calls that leave the others alone -/

/-- The motion axes of a cycle that are still to be sent will read the state. -/
def awaitsWcState (party : Party) : Bool :=
  match party.sending with
  | some (_, .axis index) => (party.backend.servo.axes.drop index).any Axis.isMotion
  | _ => false

/-- The motors of an initialised servo keep their parameters. -/
def keepsKinematics (party : Party) (before after : List MotorKinematicsParams) : Bool :=
  !party.backend.servo.initialized ||
    (List.range party.backend.servo.axes.length).all fun motorId =>
      MotorKinematics.get motorId after == MotorKinematics.get motorId before

/-- A servo is initialised without a look at the parameters, or finds the defaults. -/
def findsDefaults (stored : List MotorKinematicsParams) (servo : Servo) : Bool :=
  servo.axes.zipIdx.all fun entry =>
    entry.1.config.resolveMotorProfile.isSome || MotorKinematics.get entry.2 stored == {}

/-- The store of a working-counter state comes at no time, or changes nothing. -/
def keepsWcState (party : Party) (globals : ProcessGlobals) (state : WcState) : Bool :=
  !awaitsWcState party || globals.sendDataWcState == state

/-- The clock is available, and the read answers what the last one did. -/
def rereadsClock (input : ClockRead) (clock : ReferenceClock) : Bool :=
  clock.dcAvailable && input.timeLow == some clock.lastTimeLow

/-- A call of the master itself does not depend on what the others stored before it. -/
def standsAlone (party : Party) (globals : ProcessGlobals) : PartyCall → Bool
  | .act (.initializeServo bus setup motors) =>
      let prepared := party.backend.initializeServo bus setup motors
      party.sending.isSome || !prepared.2 || findsDefaults globals.params prepared.1.servo
  | _ => true

/-- A call of another master keeps what the master depends on. -/
def spares (party caller : Party) (globals : ProcessGlobals) : PartyCall → Bool
  | .act (.initializeServo bus setup motors) =>
      let prepared := caller.backend.initializeServo bus setup motors
      caller.sending.isSome || !prepared.2 ||
        keepsKinematics party globals.params (MotorKinematics.setParams
          (prepared.1.servo.profileKinematics globals.params) globals.params)
  | .act (.job input) => !caller.beginsMotion input || keepsWcState party globals .zero
  | .continueJob =>
      match caller.sending with
      | some (input, .evaluate) => keepsWcState party globals input.domain.sendDataWcState
      | _ => true
  | .tryLoadKinematicsFromSdo sdo =>
      keepsKinematics party globals.params
        (caller.backend.servo.tryLoadKinematicsFromSdo sdo globals.params)
  | .getReferenceClockTime input =>
      !caller.backend.servo.activated || rereadsClock input globals.clock
  | .alignDcTimeBase systemTimeNs => globals.clock.alignTimeBase systemTimeNs == globals.clock
  | _ => true

/-- The call keeps the master with the index apart from the others. -/
def keepsApart (own : MasterIndex) (config : ProcessConfig) (action : MasterIndex × PartyCall) : Bool :=
  if action.1 = own then standsAlone (config.state.party own) config.state.globals action.2
  else spares (config.state.party own) (config.state.party action.1) config.state.globals action.2

end Process

end IghMaster
