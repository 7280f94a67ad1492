import IghMaster.AnomalyTracker
import IghMaster.CycleTiming

/-!
# The hard real-time runtime of one master index

`IghMasterRuntime` in `igh_master_runtime.cpp`: the safe-output and fault latches, the monitors
that trip them and the dwell that lets motion be enabled again.
-/

namespace IghMaster

/-- `IghMasterConfig`, as read from the environment at each use. -/
structure IghMasterConfig where
  busCycleUs : UInt32 := 2000
  lockMemory : Bool := true
  requireRealtime : Bool := true
  wkcAnomalyPolicy : AnomalyPolicy := { consecutiveStop := 5, windowSize := 16, windowStop := 8 }
  deadlineAnomalyPolicy : AnomalyPolicy :=
    { consecutiveStop := 10, windowSize := 32, windowStop := 16 }
  dcAnomalyPolicy : AnomalyPolicy := { consecutiveStop := 5, windowSize := 16, windowStop := 8 }
  dcMonitorWarmupCycles : UInt32 := 3000
  dcSyncThresholdNs : UInt32 := 500000
  healthyDwellCycles : UInt32 := 50
  cmdWatchdogMs : UInt32 := 250
  csvCmdWatchdog : Bool := false
  deriving DecidableEq

structure IghMasterRuntime where
  config : IghMasterConfig := {}
  jobRunning : Bool := false
  operational : Bool := false
  commFault : Bool := false
  safeOutputRequired : Bool := false
  motionReenableAllowed : Bool := true
  pendingDwellFault : Bool := false
  skippedSlots : Nat := 0
  lastRxOk : Bool := true
  diag : CycleTimingStats := {}
  wkcTracker : AnomalyTracker := .new {}
  deadlineTracker : AnomalyTracker := .new {}
  dcTracker : AnomalyTracker := .new {}
  dcWarmupRemaining : Nat := 0
  dcStatusValid : Bool := false
  dcInSync : Bool := false
  dcDeviationNs : Int32 := 0
  maxDcDeviationNs : Nat := 0
  dcOutOfSyncCount : Nat := 0
  dcOutOfSyncConsecutive : Nat := 0
  dcOutOfSyncWindow : Nat := 0
  healthyDwell : HealthyDwell := {}
  timingStats : CycleTimingStats := {}
  deriving DecidableEq

/-- What `start` finds: the configuration, whether memory is locked and whether the Job thread got
its scheduling. -/
structure RuntimeStartInput where
  config : IghMasterConfig
  memoryLocked : Bool
  threadRealtime : Bool
  deriving DecidableEq

/-- The measurements of one Job cycle that concern the runtime. -/
structure JobTiming where
  scheduledNs : Nat
  actualWakeupNs : Nat
  cycleEndNs : Nat
  dcStatusValid : Bool
  dcDiffNs : Int32
  deriving DecidableEq

namespace IghMasterRuntime

def cycleNs (runtime : IghMasterRuntime) : Nat := max 1 runtime.config.busCycleUs.toNat * 1000

def latchCommFault (runtime : IghMasterRuntime) : IghMasterRuntime :=
  { runtime with
    commFault := true
    safeOutputRequired := true
    motionReenableAllowed := false
    pendingDwellFault := true
    healthyDwell := runtime.healthyDwell.onFault }

def clearCommFault (runtime : IghMasterRuntime) : IghMasterRuntime :=
  { runtime with
    commFault := false
    safeOutputRequired := true
    pendingDwellFault := false
    wkcTracker := runtime.wkcTracker.reset
    deadlineTracker := runtime.deadlineTracker.reset
    dcTracker := runtime.dcTracker.reset
    dcWarmupRemaining := runtime.config.dcMonitorWarmupCycles.toNat
    healthyDwell := runtime.healthyDwell.requestReset
    motionReenableAllowed := false }

def requestSafeOutput (runtime : IghMasterRuntime) : IghMasterRuntime :=
  if runtime.safeOutputRequired then runtime
  else
    { runtime with
      safeOutputRequired := true
      motionReenableAllowed := false
      healthyDwell := runtime.healthyDwell.onFault }

def releaseAllowed (runtime : IghMasterRuntime) : Bool :=
  !runtime.commFault && runtime.motionReenableAllowed

def releaseSafeOutput (runtime : IghMasterRuntime) : IghMasterRuntime × Bool :=
  if runtime.releaseAllowed then ({ runtime with safeOutputRequired := false }, true)
  else (runtime, false)

def syncMotionReenableFlag (runtime : IghMasterRuntime) : IghMasterRuntime :=
  { runtime with motionReenableAllowed := runtime.healthyDwell.allowEnable }

/-- `configure`: the dwell starts out allowing motion. -/
def configure (input : RuntimeStartInput) (runtime : IghMasterRuntime) :
    IghMasterRuntime × Bool :=
  if runtime.jobRunning then
    (runtime, false)
  else
    ({ runtime with
        config := input.config
        wkcTracker := .new input.config.wkcAnomalyPolicy
        deadlineTracker := .new input.config.deadlineAnomalyPolicy
        dcTracker := .new input.config.dcAnomalyPolicy
        dcWarmupRemaining := input.config.dcMonitorWarmupCycles.toNat
        dcStatusValid := false
        dcInSync := false
        dcDeviationNs := 0
        maxDcDeviationNs := 0
        dcOutOfSyncCount := 0
        dcOutOfSyncConsecutive := 0
        dcOutOfSyncWindow := 0
        healthyDwell :=
          (runtime.healthyDwell.reset input.config.healthyDwellCycles).allowInitialEnable
        motionReenableAllowed := true },
      !input.config.lockMemory || input.memoryLocked || !input.config.requireRealtime)

def stop (runtime : IghMasterRuntime) : IghMasterRuntime :=
  { runtime with jobRunning := false, operational := false }

/-- The initial stores of `start`. Under safe-output it withholds the permission that the fresh
dwell already gives. -/
def launch (runtime : IghMasterRuntime) : IghMasterRuntime :=
  let dwell := runtime.healthyDwell.reset runtime.config.healthyDwellCycles
  { runtime with
    operational := false
    commFault := false
    healthyDwell := if runtime.safeOutputRequired then dwell else dwell.allowInitialEnable
    motionReenableAllowed := !runtime.safeOutputRequired
    skippedSlots := 0
    timingStats := {}
    jobRunning := true }

/-- `start`: a Job thread that misses its scheduling ends at once when that is required. -/
def start (input : RuntimeStartInput) (runtime : IghMasterRuntime) : IghMasterRuntime × Bool :=
  if runtime.jobRunning then
    (runtime, true)
  else
    let configured := runtime.configure input
    if !configured.2 then (configured.1, false)
    else if input.config.requireRealtime && !input.threadRealtime then
      (configured.1.launch.stop, false)
    else
      (configured.1.launch, true)

/-! ### One Job cycle -/

def consumePendingDwellFault (runtime : IghMasterRuntime) : IghMasterRuntime :=
  if runtime.pendingDwellFault then
    { runtime with pendingDwellFault := false, healthyDwell := runtime.healthyDwell.onFault }
  else
    runtime

def latchIf (trip : Bool) (runtime : IghMasterRuntime) : IghMasterRuntime :=
  if trip then runtime.latchCommFault else runtime

def observeWkc (rxOk : Bool) (runtime : IghMasterRuntime) : IghMasterRuntime :=
  if runtime.operational && !runtime.commFault then
    let observed := runtime.wkcTracker.observe (!rxOk)
    { runtime with wkcTracker := observed.1 }.latchIf observed.2.stopRequired
  else
    runtime

def observeTiming (timing : JobTiming) (runtime : IghMasterRuntime) : IghMasterRuntime :=
  let stats := observeCycleTiming runtime.timingStats timing.scheduledNs timing.actualWakeupNs
    timing.cycleEndNs runtime.cycleNs
  { runtime with timingStats := stats, diag := stats }

def observeDeadline (runtime : IghMasterRuntime) : IghMasterRuntime :=
  if runtime.operational && !runtime.commFault && runtime.config.requireRealtime then
    let observed := runtime.deadlineTracker.observe (!runtime.timingStats.deadlineMet)
    { runtime with deadlineTracker := observed.1 }.latchIf observed.2.stopRequired
  else
    runtime

def dcSample (timing : JobTiming) (runtime : IghMasterRuntime) : DcStatusSample :=
  makeDcStatusSample timing.dcStatusValid timing.dcDiffNs
    runtime.config.dcSyncThresholdNs.toInt32

def sampleDcMonitor (timing : JobTiming) (runtime : IghMasterRuntime) : IghMasterRuntime :=
  let sample := runtime.dcSample timing
  let sampled : IghMasterRuntime :=
    { runtime with
      dcStatusValid := sample.statusValid
      dcInSync := sample.inSync
      dcDeviationNs := sample.deviationNs
      maxDcDeviationNs := max runtime.maxDcDeviationNs (absDeviationNs sample.deviationNs) }
  if !sampled.operational then sampled
  else if 0 < sampled.dcWarmupRemaining then
    { sampled with dcWarmupRemaining := sampled.dcWarmupRemaining - 1 }
  else if sampled.commFault then sampled
  else
    let observed := sampled.dcTracker.observe (dcOutOfSyncAnomaly sample)
    { sampled with
      dcTracker := observed.1
      dcOutOfSyncCount := observed.2.total
      dcOutOfSyncConsecutive := observed.2.consecutive
      dcOutOfSyncWindow := observed.2.windowCount }.latchIf observed.2.stopRequired

/-- Healthy is `rx_ok`, the deadline met, the DC in sync where it is valid, and no fault. -/
def healthy (rxOk : Bool) (runtime : IghMasterRuntime) : Bool :=
  rxOk && runtime.timingStats.deadlineMet && (!runtime.dcStatusValid || runtime.dcInSync) &&
    !runtime.commFault

def observeDwell (rxOk : Bool) (runtime : IghMasterRuntime) : IghMasterRuntime :=
  { runtime with healthyDwell := runtime.healthyDwell.observe (runtime.healthy rxOk) }

/-- The monitors of the loop body, after the process data of the cycle were exchanged. -/
def monitorCycle (timing : JobTiming) (rxOk : Bool) (runtime : IghMasterRuntime) :
    IghMasterRuntime :=
  { runtime with lastRxOk := rxOk }
    |>.observeWkc rxOk |>.observeTiming timing |>.observeDeadline |>.sampleDcMonitor timing

/-- The rest of the loop body of `jobThreadMain`. -/
def finishJobCycle (timing : JobTiming) (rxOk : Bool) (runtime : IghMasterRuntime) :
    IghMasterRuntime :=
  (runtime.monitorCycle timing rxOk).observeDwell rxOk |>.syncMotionReenableFlag

end IghMasterRuntime

end IghMaster
