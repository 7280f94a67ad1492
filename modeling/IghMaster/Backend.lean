import IghMaster.Lib.Transition
import IghMaster.Runtime
import IghMaster.Servo

/-!
# A servo with its runtime

The servo of one bus and the runtime of its master index change together: API calls reach both,
and one Job cycle runs `jobThreadMain` around `EtherCATServo::runJobCycle`. Every call and every
Job cycle is one action of the backend machine.
-/

namespace IghMaster

structure Backend where
  servo : Servo := {}
  runtime : IghMasterRuntime := {}
  deriving DecidableEq

structure JobInput where
  freshnessNowNs : Nat
  inputs : Nat → TxPdo
  domain : DomainState
  timing : JobTiming

/-- What `Master::start` finds on its way to a running Job. Policy SupervisedMotion requires the
startup evidence. -/
structure BringUpInput where
  initialReads : Nat → List Int32
  activation : Servo.ActivateInput
  requireEvidence : Bool
  runtime : RuntimeStartInput

inductive BringUpResult where
  | activateFailed
  | evidenceFailed
  | jobFailed
  | running
  deriving DecidableEq

namespace Backend

def flags (backend : Backend) : RuntimeFlags where
  jobThreadRunning := backend.runtime.jobRunning
  commFault := backend.runtime.commFault
  safeOutputRequired := backend.runtime.safeOutputRequired
  motionReenableAllowed := backend.runtime.motionReenableAllowed

/-- `EtherCATServo::deactivate`, which stops the Job first. -/
def deactivate (backend : Backend) : Backend where
  servo := backend.servo.deactivate
  runtime := backend.runtime.stop

/-- The part of `Master::start` up to the creation of the Job thread. -/
def bringUp (input : BringUpInput) (backend : Backend) : Backend × BringUpResult :=
  let positioned := (backend.servo.initializePositionsFromSdo input.initialReads).1
  let activated := positioned.activate input.activation
  if !activated.2 then
    ({ backend with servo := activated.1 }, .activateFailed)
  else
    let armed : Backend :=
      { servo := activated.1, runtime := backend.runtime.requestSafeOutput }
    if input.requireEvidence && !armed.servo.startupEvidencePassed then
      (armed.deactivate, .evidenceFailed)
    else
      let started := armed.runtime.start input.runtime
      let launched : Backend := { armed with runtime := started.1 }
      if started.2 then (launched, .running) else (launched.deactivate, .jobFailed)

def requestFaultReset (motorId : UInt8) (allowWithoutFault slavesInOp : Bool)
    (backend : Backend) : Backend × Bool :=
  let requested :=
    backend.servo.requestFaultReset backend.flags slavesInOp motorId allowWithoutFault
  ({ backend with servo := requested.1 }, requested.2)

/-- `clearCommFault`, also called `requestSafetyReset`. -/
def clearCommFault (backend : Backend) : Backend where
  servo := backend.servo.clearCommFault
  runtime := backend.runtime.clearCommFault

def requestSafeOutput (backend : Backend) : Backend :=
  { backend with runtime := backend.runtime.requestSafeOutput }

def releaseSafeOutput (backend : Backend) : Backend × Bool :=
  if backend.servo.startupEvidencePassed then
    let released := backend.runtime.releaseSafeOutput
    ({ backend with runtime := released.1 }, released.2)
  else
    (backend, false)

/-! ### One Job cycle -/

/-- The freshness check trips the fault latch. -/
def checkFreshness (nowNs : Nat) (backend : Backend) : Backend :=
  let checked :=
    backend.servo.checkExternalCommandFreshness backend.runtime.safeOutputRequired nowNs
  { servo := checked.1, runtime := backend.runtime.latchIf checked.2 }

/-- `runJobCycle` chooses the outputs of the cycle by the safe-output latch alone. -/
def exchangeOutputs (domain : DomainState) (backend : Backend) : Backend :=
  if backend.runtime.safeOutputRequired then
    { backend with servo := backend.servo.applySafeProcessImageOutputs }
  else
    { backend with servo := { backend.servo with safeOutputActive := false }.sendData domain }

def receive (inputs : Nat → TxPdo) (backend : Backend) : Backend :=
  { backend with servo := backend.servo.receiveData inputs }

/-- `runJobCycle` up to the choice of the outputs. -/
def beforeOutputs (input : JobInput) (backend : Backend) : Backend :=
  ({ backend with runtime := backend.runtime.consumePendingDwellFault } : Backend)
    |>.checkFreshness input.freshnessNowNs |>.receive input.inputs

def finishJobCycle (timing : JobTiming) (rxOk : Bool) (backend : Backend) : Backend :=
  { backend with runtime := backend.runtime.finishJobCycle timing rxOk }

/-- One iteration of the loop of `jobThreadMain`. -/
def jobCycle (input : JobInput) (backend : Backend) : Backend :=
  if !backend.runtime.jobRunning then
    backend
  else if !backend.servo.initialized then
    ({ backend with runtime := backend.runtime.consumePendingDwellFault } : Backend)
      |>.finishJobCycle input.timing false
  else
    (backend.beforeOutputs input).exchangeOutputs input.domain
      |>.finishJobCycle input.timing input.domain.rxOk

/-- The Job cycle goes through `applySafeProcessImageOutputs`. -/
def cycleIsSafe (input : JobInput) (backend : Backend) : Bool :=
  (backend.beforeOutputs input).runtime.safeOutputRequired

end Backend

inductive BackendAction where
  | initializeServo (bus : BusSetup) (config : IghMasterConfig) (motors : List MotorConfig)
  | bringUp (input : BringUpInput)
  | setOperational
  | deactivate
  | call (call : ServoCall)
  | requestFaultReset (motorId : UInt8) (allowWithoutFault slavesInOp : Bool)
  | clearCommFault
  | requestSafeOutput
  | releaseSafeOutput
  | job (input : JobInput)

namespace Backend

def initializeServo (bus : BusSetup) (config : IghMasterConfig) (motors : List MotorConfig)
    (backend : Backend) : Backend × Bool :=
  let prepared := backend.servo.initializeServo bus config.busCycleUs config.cmdWatchdogMs
    config.csvCmdWatchdog motors
  ({ backend with servo := prepared.1 }, prepared.2)

def next (backend : Backend) : BackendAction → Backend
  | .initializeServo bus config motors => (backend.initializeServo bus config motors).1
  | .bringUp input => (backend.bringUp input).1
  | .setOperational => { backend with runtime := { backend.runtime with operational := true } }
  | .deactivate => backend.deactivate
  | .call call => { backend with servo := backend.servo.perform backend.flags call }
  | .requestFaultReset motorId allowWithoutFault slavesInOp =>
      (backend.requestFaultReset motorId allowWithoutFault slavesInOp).1
  | .clearCommFault => backend.clearCommFault
  | .requestSafeOutput => backend.requestSafeOutput
  | .releaseSafeOutput => backend.releaseSafeOutput.1
  | .job input => backend.jobCycle input

def machine : Transition.Machine Backend BackendAction where
  next := next

end Backend

abbrev BackendVisit := Transition.Visit Backend BackendAction
abbrev BackendConfig := Transition.Config Backend BackendAction

end IghMaster
