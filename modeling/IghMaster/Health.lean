import IghMaster.MasterHistory

/-!
# The health snapshot of a master

`Master::health` in `master_api.cpp`, and `jobCycleDiag` under it: what the runtime recorded of its Job
cycles, copied field by field. Whether all slaves are in OP is what the bus answers. Then the six
counters of a snapshot, and what it means that they never go back.
-/

namespace IghMaster

structure IghJobCycleDiag where
  periodNs : Nat := 0
  latenessNs : Nat := 0
  executionNs : Nat := 0
  maxLatenessNs : Nat := 0
  maxExecutionNs : Nat := 0
  deadlineMissCount : Nat := 0
  skippedSlots : Nat := 0
  deadlineMet : Bool := true
  lastRxOk : Bool := true
  commFault : Bool := false
  safeOutputRequired : Bool := false
  dcStatusValid : Bool := false
  dcInSync : Bool := false
  dcDeviationNs : Int32 := 0
  maxDcDeviationNs : Nat := 0
  dcOutOfSyncCount : Nat := 0
  dcOutOfSyncConsecutive : Nat := 0
  dcOutOfSyncWindow : Nat := 0
  deriving DecidableEq

def IghMasterRuntime.jobCycleDiag (runtime : IghMasterRuntime) : IghJobCycleDiag where
  periodNs := runtime.cycleNs
  latenessNs := runtime.diag.currentLatenessNs
  executionNs := runtime.diag.currentExecutionNs
  maxLatenessNs := runtime.diag.maxLatenessNs
  maxExecutionNs := runtime.diag.maxExecutionNs
  deadlineMissCount := runtime.diag.deadlineMissCount
  skippedSlots := runtime.skippedSlots
  deadlineMet := runtime.diag.deadlineMet
  lastRxOk := runtime.lastRxOk
  commFault := runtime.commFault
  safeOutputRequired := runtime.safeOutputRequired
  dcStatusValid := runtime.dcStatusValid
  dcInSync := runtime.dcInSync
  dcDeviationNs := runtime.dcDeviationNs
  maxDcDeviationNs := runtime.maxDcDeviationNs
  dcOutOfSyncCount := runtime.dcOutOfSyncCount
  dcOutOfSyncConsecutive := runtime.dcOutOfSyncConsecutive
  dcOutOfSyncWindow := runtime.dcOutOfSyncWindow

/-- The fields that `health` sets. -/
structure MasterHealth where
  initialized : Bool
  operational : Bool
  jobThreadRunning : Bool
  workingCounterComplete : Bool
  communicationFault : Bool
  linkConnected : Bool
  safeOutputActive : Bool
  observationOnly : Bool
  startupEvidencePassed : Bool
  motionCommandsAuthorized : Bool
  motionReenableAllowed : Bool
  currentLatenessNs : Nat
  currentExecutionNs : Nat
  maxLatenessNs : Nat
  maxExecutionNs : Nat
  deadlineMissCount : Nat
  skippedSlots : Nat
  deadlineMet : Bool
  dcStatusValid : Bool
  dcInSync : Bool
  dcDeviationNs : Int32
  maxDcDeviationNs : Nat
  dcOutOfSyncCount : Nat
  dcOutOfSyncConsecutive : Nat
  dcOutOfSyncWindow : Nat
  deriving DecidableEq

namespace Master

open Transition

def health (slavesInOp : Bool) (master : Master) : MasterHealth :=
  let diag := master.backend.runtime.jobCycleDiag
  { initialized := master.initialized
    operational := slavesInOp
    jobThreadRunning := master.backend.runtime.jobRunning
    workingCounterComplete := diag.lastRxOk
    communicationFault := master.backend.runtime.commFault
    linkConnected := slavesInOp
    safeOutputActive := master.backend.runtime.safeOutputRequired
    observationOnly := !master.motionCommandsAuthorized
    startupEvidencePassed := master.startupEvidencePassed
    motionCommandsAuthorized := master.motionCommandsAuthorized
    motionReenableAllowed := master.motionReenableAllowed
    currentLatenessNs := diag.latenessNs
    currentExecutionNs := diag.executionNs
    maxLatenessNs := diag.maxLatenessNs
    maxExecutionNs := diag.maxExecutionNs
    deadlineMissCount := diag.deadlineMissCount
    skippedSlots := diag.skippedSlots
    deadlineMet := diag.deadlineMet
    dcStatusValid := diag.dcStatusValid
    dcInSync := diag.dcInSync
    dcDeviationNs := diag.dcDeviationNs
    maxDcDeviationNs := diag.maxDcDeviationNs
    dcOutOfSyncCount := diag.dcOutOfSyncCount
    dcOutOfSyncConsecutive := diag.dcOutOfSyncConsecutive
    dcOutOfSyncWindow := diag.dcOutOfSyncWindow }

end Master

/-- No counter of the later snapshot is below the one of the earlier snapshot. -/
structure MasterHealth.CountsOn (earlier later : MasterHealth) : Prop where
  maxLatenessNs : earlier.maxLatenessNs ≤ later.maxLatenessNs
  maxExecutionNs : earlier.maxExecutionNs ≤ later.maxExecutionNs
  deadlineMissCount : earlier.deadlineMissCount ≤ later.deadlineMissCount
  skippedSlots : earlier.skippedSlots ≤ later.skippedSlots
  maxDcDeviationNs : earlier.maxDcDeviationNs ≤ later.maxDcDeviationNs
  dcOutOfSyncCount : earlier.dcOutOfSyncCount ≤ later.dcOutOfSyncCount

namespace Master

/-- A snapshot taken now counts on from every snapshot taken before an action of the run. -/
def HealthMonotone (config : MasterConfig) : Prop :=
  ∀ visit ∈ config.history, ∀ slavesInOp slavesStillInOp : Bool,
    (visit.before.health slavesInOp).CountsOn (config.state.health slavesStillInOp)

/-- The DC monitor of a Job cycle stores a count, unless the cycle latches a fault before. -/
def observesDc (runtime : IghMasterRuntime) : Bool :=
  runtime.operational && runtime.dcWarmupRemaining == 0 && !runtime.commFault

/-- The Job cycle continues counters that reach as far as the reported ones. -/
def continuesCounters (runtime : IghMasterRuntime) : Bool :=
  runtime.diag.maxLatenessNs ≤ runtime.timingStats.maxLatenessNs &&
    runtime.diag.maxExecutionNs ≤ runtime.timingStats.maxExecutionNs &&
    runtime.diag.deadlineMissCount ≤ runtime.timingStats.deadlineMissCount &&
    (!observesDc runtime || runtime.dcOutOfSyncCount ≤ runtime.dcTracker.total)

def countsNothing (runtime : IghMasterRuntime) : Bool :=
  runtime.skippedSlots == 0 && runtime.maxDcDeviationNs == 0 && runtime.dcOutOfSyncCount == 0

/-- No Job cycle runs after a reset of what it counts, and no start configures the runtime anew, while
the counters reported are above that. -/
def keepsCounters (master : Master) (action : MasterAction) : Bool :=
  (!isJobCycle (machine.visit master action) || continuesCounters master.backend.runtime) &&
    (!configuresRuntime (machine.visit master action) || countsNothing master.backend.runtime)

end Master

end IghMaster
