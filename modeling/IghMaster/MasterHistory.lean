import IghMaster.BackendHistory
import IghMaster.Master

/-!
# Events in the run of a master

What a visit of the master machine did to the permission to move: which of them revoke it, which
grant it, and what a Job cycle read and wrote.
-/

namespace IghMaster.Master

open Transition

def taken (visit : MasterVisit) : Option MasterCall :=
  match visit.action with
  | .call call => if visit.before.starting.isSome then none else some call
  | _ => none

def isStart (visit : MasterVisit) : Bool :=
  match taken visit with
  | some (.start _) => true
  | _ => false

/-- The visit is a start of a mapped master, which is not refused at once. -/
def isMappedStart (visit : MasterVisit) : Bool :=
  match taken visit with
  | some (.start _) => visit.before.mapped
  | _ => false

/-- The visit is a start that was activated, and so asked for safe-output. -/
def armsSafeOutput (visit : MasterVisit) : Bool :=
  match taken visit with
  | some (.start input) =>
      isMappedStart visit && (visit.before.start input).2 != .failed .activateFailed
  | _ => false

/-- The visit is a start that configured the runtime afresh. -/
def configuresRuntime (visit : MasterVisit) : Bool :=
  match taken visit with
  | some (.start input) =>
      armsSafeOutput visit && (visit.before.start input).2 != .failed .evidenceFailed &&
        !visit.before.backend.runtime.jobRunning
  | _ => false

/-- The visit is the last step of a start that returned true. -/
def isStarted (visit : MasterVisit) : Bool :=
  match visit.action with
  | .continueStart observed => (visit.before.continueStart observed).2 == .succeeded
  | _ => false

def isSafeOutputRequest (visit : MasterVisit) : Bool :=
  match taken visit with
  | some .requestSafeOutput => true
  | _ => false

/-- The visit is a safety reset, by a call of its own or in a start. -/
def isSafetyReset (visit : MasterVisit) : Bool :=
  match visit.action with
  | .continueStart _ =>
      visit.before.starting == some .clearLatch || visit.before.starting == some .resetAgain
  | _ =>
      match taken visit with
      | some .requestSafetyReset => true
      | _ => false

def isRelease (visit : MasterVisit) : Bool :=
  match taken visit with
  | some .releaseSafeOutput => visit.before.releaseSafeOutput.2 == none
  | _ => false

/-- Such a release under policy SupervisedMotion and passed startup evidence. -/
def isAuthorizedRelease (visit : MasterVisit) : Bool :=
  isRelease visit && visit.before.policy == .supervisedMotion &&
    visit.before.startupEvidencePassed && visit.before.backend.servo.startupEvidencePassed

def isJobCycle (visit : MasterVisit) : Bool :=
  match visit.action with
  | .job _ => visit.before.backend.runtime.jobRunning
  | _ => false

/-- The visit is a Job cycle at whose end a fault is latched, as it is where the cycle latched it. -/
def latchesFault (visit : MasterVisit) : Bool :=
  isJobCycle visit && visit.after.backend.runtime.commFault

def isSafeCycle (visit : MasterVisit) : Bool :=
  match visit.action with
  | .job input => isJobCycle visit && visit.before.backend.cycleIsSafe input
  | _ => false

def isMotionCycle (visit : MasterVisit) : Bool :=
  match visit.action with
  | .job input => isJobCycle visit && !visit.before.backend.cycleIsSafe input
  | _ => false

/-! ### Motion only after a release -/

/-- The visit takes the permission to move away, where the given visits count as a start. -/
def revokes (starts : MasterVisit → Bool) (visit : MasterVisit) : Bool :=
  starts visit || latchesFault visit || isSafeOutputRequest visit || isSafetyReset visit

/-- A Job cycle sends motion data only after a release, and none of the visits since took the
permission away. -/
def MotionReleased (starts : MasterVisit → Bool) (config : MasterConfig) : Prop :=
  ∀ visit earlier, config.history = visit :: earlier → isMotionCycle visit = true →
    Since (fun past => revokes starts past = false) (fun past => isAuthorizedRelease past = true)
      earlier

/-- A Job cycle of the history read the position from the process image of the axis. -/
def ReadPosition (index : Nat) (history : List MasterVisit) (position : Int32) : Prop :=
  ∃ visit ∈ history, isJobCycle visit = true ∧
    ∃ input, visit.action = .job input ∧ (input.inputs index).actualPosition = position

/-- Every other Job cycle writes a safe process image to each motion axis. -/
def ImagesSafe (config : MasterConfig) : Prop :=
  ∀ visit earlier, config.history = visit :: earlier → isSafeCycle visit = true →
    ∀ index axis, visit.after.backend.servo.axes[index]? = some axis → axis.isMotion = true →
      axis.output.targetVelocity = 0 ∧ axis.output.targetTorque = 0 ∧
        (axis.output.controlWord = controlWordSwitchOn ∨
          axis.output.controlWord = axis.faultResetCw.value) ∧
        ReadPosition index config.history axis.output.targetPosition

/-! ### Releases only after a dwell -/

/-- The visit is a request for safe-output, by a call of its own or in a start, that found
safe-output not yet required. -/
def entersSafeOutput (visit : MasterVisit) : Bool :=
  (isSafeOutputRequest visit || armsSafeOutput visit) &&
    !visit.before.backend.runtime.safeOutputRequired

/-- The visit ends a dwell or begins another one. -/
def disturbsDwell (visit : MasterVisit) : Bool :=
  latchesFault visit || entersSafeOutput visit || isSafetyReset visit

/-- The visit is a healthy Job cycle: its data were complete, its deadline was met, the DC was in
sync where its status was valid, and no fault was latched. -/
def isHealthyCycle (visit : MasterVisit) : Bool :=
  isJobCycle visit && visit.after.backend.runtime.healthy visit.after.backend.runtime.lastRxOk

def HealthyInRow (count : Nat) (visits : List MasterVisit) : Prop :=
  ∃ newer block older, visits.filter isJobCycle = newer ++ block ++ older ∧
    block.length = count ∧ ∀ visit ∈ block, isHealthyCycle visit = true

/-- The last visit that disturbed the dwell was a safety reset, and so many Job cycles in a row were
healthy after it. -/
def Dwelled (count : Nat) (history : List MasterVisit) : Prop :=
  ∃ later reset earlier, history = later ++ reset :: earlier ∧ isSafetyReset reset = true ∧
    (∀ visit ∈ later, disturbsDwell visit = false) ∧ HealthyInRow count later

/-- The healthy cycles that the configuration in force asks for. -/
def dwellCycles (master : Master) : Nat :=
  max 1 master.backend.runtime.config.healthyDwellCycles.toNat

/-- After a start that returned true, every release that returns true has a full dwell behind it. -/
def ReleasesDwelled (config : MasterConfig) : Prop :=
  ∀ visit earlier, config.history = visit :: earlier → isRelease visit = true →
    (∃ past ∈ earlier, isStarted past = true) → Dwelled visit.before.dwellCycles earlier

/-- A release is called where motion may be enabled again only if a safety reset was issued since the
runtime was configured. -/
def releasesAfterReset (config : MasterConfig) : MasterAction → Bool
  | .call .releaseSafeOutput =>
      config.state.starting.isSome || !config.state.motionReenableAllowed ||
        decide (Since (fun visit => configuresRuntime visit = false)
          (fun visit => isSafetyReset visit = true) config.history)
  | _ => true

/-! ### A master with one NH17 module -/

def nh17Axis : AxisConfig where
  jointName := "joint1"
  vendorId := 0x00522227
  productCode := 0x00009253
  pdoLayout := .jointModule

def singleAxisStart : StartInput where
  initialReads := fun _ => []
  activation := singleAxisSetup.activation
  runtime := Backend.singleAxisBringUp.runtime

def operationalBus : StartObservation where
  slavesInOp := true
  errorCodes := fun _ => 0

def wholeStart : List MasterAction :=
  .call (.start singleAxisStart) :: List.replicate 7 (.continueStart operationalBus)

def job (nowNs : Nat) (domain : DomainState) : MasterAction :=
  .job
    { freshnessNowNs := nowNs
      inputs := fun _ => {}
      domain := domain
      timing :=
        { scheduledNs := 0, actualWakeupNs := 0, cycleEndNs := 0, dcStatusValid := false
          dcDiffNs := 0 } }

def startedMaster : List MasterAction :=
  [.call .init, .call (.mapJoints singleAxisBus {} [nh17Axis] [])] ++ wholeStart

end IghMaster.Master
