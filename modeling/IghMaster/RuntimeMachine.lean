import IghMaster.Lib.Transition
import IghMaster.Lib.Window
import IghMaster.Runtime

/-!
# The runtime on its own

The calls of `IghMasterRuntime` and its Job cycles, without the servo they serve: what the exchange
and the measurements of a cycle came to is an input of that cycle. Then the events of such a run, and
what the fault detection is to say of them.
-/

namespace IghMaster

/-- What a Job cycle tells the runtime: whether the freshness check tripped, what was measured and
whether the exchange was complete. -/
structure RuntimeJobInput where
  tripped : Bool
  timing : JobTiming
  rxOk : Bool
  deriving DecidableEq

inductive RuntimeAction where
  | start (input : RuntimeStartInput)
  | stop
  | setOperational (operational : Bool)
  | clearCommFault
  | requestSafeOutput
  | releaseSafeOutput
  | job (input : RuntimeJobInput)
  deriving DecidableEq

namespace IghMasterRuntime

def setOperational (operational : Bool) (runtime : IghMasterRuntime) : IghMasterRuntime :=
  { runtime with operational := operational }

/-- One iteration of the loop of `jobThreadMain`. -/
def jobCycle (input : RuntimeJobInput) (runtime : IghMasterRuntime) : IghMasterRuntime :=
  if runtime.jobRunning then
    (runtime.consumePendingDwellFault.latchIf input.tripped).finishJobCycle input.timing input.rxOk
  else
    runtime

def next (runtime : IghMasterRuntime) : RuntimeAction → IghMasterRuntime
  | .start input => (runtime.start input).1
  | .stop => runtime.stop
  | .setOperational operational => runtime.setOperational operational
  | .clearCommFault => runtime.clearCommFault
  | .requestSafeOutput => runtime.requestSafeOutput
  | .releaseSafeOutput => runtime.releaseSafeOutput.1
  | .job input => runtime.jobCycle input

def machine : Transition.Machine IghMasterRuntime RuntimeAction where
  next := next

end IghMasterRuntime

abbrev RuntimeVisit := Transition.Visit IghMasterRuntime RuntimeAction
abbrev RuntimeConfig := Transition.Config IghMasterRuntime RuntimeAction

namespace IghMasterRuntime

/-! ### Events of a run -/

def isJobCycle (visit : RuntimeVisit) : Bool :=
  match visit.action with
  | .job _ => visit.before.jobRunning
  | _ => false

def isClearCommFault (visit : RuntimeVisit) : Bool :=
  match visit.action with
  | .clearCommFault => true
  | _ => false

def configures (visit : RuntimeVisit) : Bool :=
  match visit.action with
  | .start _ => !visit.before.jobRunning
  | _ => false

/-- The observations begin anew. -/
def forgets (visit : RuntimeVisit) : Bool := isClearCommFault visit || configures visit

def isUntripped (visit : RuntimeVisit) : Bool :=
  match visit.action with
  | .job input => visit.before.jobRunning && !input.tripped
  | _ => false

def rxFailed (visit : RuntimeVisit) : Bool :=
  match visit.action with
  | .job input => !input.rxOk
  | _ => false

def missedDeadline (visit : RuntimeVisit) : Bool :=
  match visit.action with
  | .job input =>
      !(0 < visit.before.cycleNs &&
        input.timing.cycleEndNs ≤ cycleDeadline input.timing.scheduledNs visit.before.cycleNs)
  | _ => false

def dcOutOfSync (visit : RuntimeVisit) : Bool :=
  match visit.action with
  | .job input => dcOutOfSyncAnomaly (visit.before.dcSample input.timing)
  | _ => false

/-! ### Exact fault detection -/

/-- The newest observations call for a stop under the policy. -/
def stopsOn (policy : AnomalyPolicy) (observed : List Bool) : Bool :=
  policy.sanitize.consecutiveStop ≤ Window.trailing observed ||
    policy.sanitize.windowStop ≤ Window.recent policy.sanitize.windowSize observed

/-- A monitor looks at the cycle at all: the bus is operational, and no fault is latched. -/
def isWatched (visit : RuntimeVisit) : Bool :=
  isUntripped visit && visit.before.operational && !visit.before.commFault

/-- The exchanges observed since the observations began, newest first. -/
def wkcObserved : List RuntimeVisit → List Bool
  | [] => []
  | visit :: earlier =>
      if forgets visit then []
      else if isWatched visit then rxFailed visit :: wkcObserved earlier
      else wkcObserved earlier

def stopsForWkc : List RuntimeVisit → Bool
  | [] => false
  | visit :: earlier =>
      isWatched visit &&
        stopsOn visit.before.config.wkcAnomalyPolicy (wkcObserved (visit :: earlier))

/-- The newest cycle comes to look at its deadline. -/
def watchesDeadline : List RuntimeVisit → Bool
  | [] => false
  | visit :: earlier =>
      isWatched visit && visit.before.config.requireRealtime && !stopsForWkc (visit :: earlier)

def deadlineObserved : List RuntimeVisit → List Bool
  | [] => []
  | visit :: earlier =>
      if forgets visit then []
      else if watchesDeadline (visit :: earlier) then missedDeadline visit :: deadlineObserved earlier
      else deadlineObserved earlier

def stopsForDeadline : List RuntimeVisit → Bool
  | [] => false
  | visit :: earlier =>
      watchesDeadline (visit :: earlier) &&
        stopsOn visit.before.config.deadlineAnomalyPolicy (deadlineObserved (visit :: earlier))

/-- The operational cycles since the observations began. -/
def operationalCycles : List RuntimeVisit → Nat
  | [] => 0
  | visit :: earlier =>
      if forgets visit then 0
      else if isJobCycle visit && visit.before.operational then operationalCycles earlier + 1
      else operationalCycles earlier

/-- The newest cycle comes to look at the DC: no fault was latched, and the warm-up is over. -/
def watchesDc : List RuntimeVisit → Bool
  | [] => false
  | visit :: earlier =>
      isWatched visit && !stopsForWkc (visit :: earlier) && !stopsForDeadline (visit :: earlier) &&
        visit.before.config.dcMonitorWarmupCycles.toNat ≤ operationalCycles earlier

def dcObserved : List RuntimeVisit → List Bool
  | [] => []
  | visit :: earlier =>
      if forgets visit then []
      else if watchesDc (visit :: earlier) then dcOutOfSync visit :: dcObserved earlier
      else dcObserved earlier

def stopsForDc : List RuntimeVisit → Bool
  | [] => false
  | visit :: earlier =>
      watchesDc (visit :: earlier) &&
        stopsOn visit.before.config.dcAnomalyPolicy (dcObserved (visit :: earlier))

/-- Where no fault is latched and none by the freshness check, a Job cycle latches one just if one of
the three observations calls for a stop. -/
def DetectsExactly (config : RuntimeConfig) : Prop :=
  ∀ visit earlier, config.history = visit :: earlier → isUntripped visit = true →
    visit.before.commFault = false →
      (visit.after.commFault = true ↔
        stopsForWkc config.history = true ∨ stopsForDeadline config.history = true ∨
          stopsForDc config.history = true)

/-! ### The dwell after a start -/

/-- The visit is a healthy Job cycle: its data were complete, its deadline was met, the DC was in
sync where its status was valid, and no fault was latched. -/
def isHealthyCycle (visit : RuntimeVisit) : Bool :=
  isJobCycle visit && visit.after.healthy visit.after.lastRxOk

/-- The newest Job cycles in a row that were healthy, where the latch was cleared before them. -/
def healthySinceClear : List RuntimeVisit → Option Nat
  | [] => none
  | visit :: earlier =>
      if isClearCommFault visit then some 0
      else if isHealthyCycle visit then (healthySinceClear earlier).map fun count => count + 1
      else if isJobCycle visit then (healthySinceClear earlier).map fun _ => 0
      else healthySinceClear earlier

/-- The healthy cycles that the configuration in force asks for. -/
def dwellCycles (runtime : IghMasterRuntime) : Nat :=
  max 1 runtime.config.healthyDwellCycles.toNat

/-- At some time a clear had as many healthy cycles in a row behind it as the configuration in force
then asked for. -/
def dwelled : List RuntimeVisit → Bool
  | [] => false
  | visit :: earlier =>
      ((healthySinceClear (visit :: earlier)).any fun count => dwellCycles visit.after ≤ count) ||
        dwelled earlier

/-- A start that finds the Job stopped and can lock the memory stores its initial flags. -/
def launches (input : RuntimeStartInput) (runtime : IghMasterRuntime) : Bool :=
  !runtime.jobRunning && (runtime.configure input).2

/-- The states that the newest visit passes through: a start that finds the Job stopped configures
before it stores its initial flags. With the flags of the start that the run begins with, these states
begin. -/
def passed : List RuntimeVisit → List IghMasterRuntime
  | [] => []
  | visit :: earlier =>
      match visit.action with
      | .start input =>
          if visit.before.jobRunning || earlier.isEmpty then [visit.after]
          else [(visit.before.configure input).1, visit.after]
      | _ => [visit.after]

/-- Motion is not allowed before a dwell that followed a clear. -/
def WithheldUntilDwelled (config : RuntimeConfig) : Prop :=
  ∀ runtime ∈ passed config.history, runtime.motionReenableAllowed = true →
    dwelled config.history = true

/-- Before the dwell that followed a clear no start configures the runtime again, and no Job cycle
finds that the dwell allows motion, unless it takes that back for a fault. -/
def withholdsDwell (config : RuntimeConfig) : RuntimeAction → Bool
  | .start _ => config.state.jobRunning || dwelled config.history
  | .job _ =>
      !config.state.jobRunning || config.state.pendingDwellFault ||
        !config.state.healthyDwell.allowEnable || dwelled config.history
  | _ => true

end IghMasterRuntime

end IghMaster
