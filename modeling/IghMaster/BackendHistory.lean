import IghMaster.Backend
import IghMaster.EnableMachine

/-!
# Events in the run of a backend

What a visit of the backend machine did: which outputs a Job cycle chose, whether a call was
accepted, where a safe-output episode begins and ends. The properties of whole runs are stated over
these.
-/

namespace IghMaster.Backend

/-- The visit is a Job cycle that went through `applySafeProcessImageOutputs`. -/
def isSafeCycle (visit : BackendVisit) : Bool :=
  match visit.action with
  | .job input => visit.before.runtime.jobRunning && visit.before.cycleIsSafe input
  | _ => false

/-- The visit is a Job cycle that went through `sendData`. -/
def isMotionCycle (visit : BackendVisit) : Bool :=
  match visit.action with
  | .job input => visit.before.runtime.jobRunning && !visit.before.cycleIsSafe input
  | _ => false

theorem isSafeCycle_job (backend : Backend) (input : JobInput) :
    isSafeCycle (machine.visit backend (.job input)) =
      (backend.runtime.jobRunning && backend.cycleIsSafe input) := rfl

theorem isMotionCycle_job (backend : Backend) (input : JobInput) :
    isMotionCycle (machine.visit backend (.job input)) =
      (backend.runtime.jobRunning && !backend.cycleIsSafe input) := rfl

def acceptsEnable (visit : BackendVisit) : Bool :=
  match visit.action with
  | .call (.setEnable motorId true) =>
      (visit.before.servo.setEnable visit.before.flags motorId true).2
  | _ => false

/-- A fault reset request names an axis by its index as a `uint16_t`, or all of them. -/
def resetCovers (motorId : UInt8) (index : Nat) : Bool :=
  motorId == 0xFF || motorId.toUInt16 == index.toUInt16

/-- The visit is a `requestFaultReset` covering the axis that returned true. -/
def acceptsReset (index : Nat) (visit : BackendVisit) : Bool :=
  match visit.action with
  | .requestFaultReset motorId allowWithoutFault slavesInOp =>
      (visit.before.requestFaultReset motorId allowWithoutFault slavesInOp).2 &&
        resetCovers motorId index
  | _ => false

def isClearCommFault (visit : BackendVisit) : Bool :=
  match visit.action with
  | .clearCommFault => true
  | _ => false

def inEpisode (backend : Backend) : Bool :=
  backend.runtime.safeOutputRequired && backend.servo.activated

def beginsEpisode (visit : BackendVisit) : Bool :=
  !visit.before.runtime.safeOutputRequired && visit.after.runtime.safeOutputRequired

def canRelease (backend : Backend) : Bool :=
  backend.servo.startupEvidencePassed && backend.runtime.releaseAllowed

/-- The visit is a `releaseSafeOutput` that returned true. -/
def isRelease (visit : BackendVisit) : Bool :=
  match visit.action with
  | .releaseSafeOutput => visit.before.releaseSafeOutput.2
  | _ => false

theorem snd_releaseSafeOutput (backend : Backend) :
    backend.releaseSafeOutput.2 = backend.canRelease := by
  unfold releaseSafeOutput canRelease IghMasterRuntime.releaseSafeOutput
  cases backend.servo.startupEvidencePassed <;> cases backend.runtime.releaseAllowed <;> rfl

/-! ### A backend with one NH17 module -/

/-- A start that succeeds; one healthy cycle makes a dwell. -/
def singleAxisBringUp : BringUpInput where
  initialReads := fun _ => []
  activation :=
    { interpolationPeriodGate := true, masterActivate := true, domainData := true }
  requireEvidence := true
  runtime :=
    { config := { lockMemory := false, requireRealtime := false, healthyDwellCycles := 1 }
      memoryLocked := true
      threadRealtime := true }

/-- A Job cycle that meets its deadline, with complete data and the clock at the given time. -/
def healthyJob (nowNs : Nat) : BackendAction :=
  .job
    { freshnessNowNs := nowNs
      inputs := fun _ => {}
      domain := completeDomain
      timing :=
        { scheduledNs := 0, actualWakeupNs := 0, cycleEndNs := 0, dcStatusValid := false
          dcDiffNs := 0 } }

/-- A started backend after its safety reset and a healthy dwell: safe-output may be released. -/
def dwelledStart : List BackendAction :=
  [.initializeServo singleAxisBus {} [nh17Config], .bringUp singleAxisBringUp, .clearCommFault,
    healthyJob 0]

end IghMaster.Backend
