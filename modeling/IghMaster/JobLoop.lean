import IghMaster.DcSync
import IghMaster.Health
import IghMaster.RuntimeMachine

/-!
# The Job thread's times

The loop of `jobThreadMain` in `igh_master_runtime.cpp`, with `getSleepSpec` and `getApplicationTime` of
`ethercat_sync.cpp`: the application time goes on by one cycle an iteration, the thread sleeps until that
time, shifted by the PLL, on the monotonic clock, and a thread that has fallen behind takes its
application time from the clock again. Times are `uint64_t` nanoseconds, as naturals below `2 ^ 64`.
-/

namespace IghMaster

/-- The conversion of a sum with a signed operand. -/
def toUint64 (value : Int) : Nat := (value % 2 ^ 64).toNat

structure Timespec where
  tvSec : Nat
  tvNsec : Nat
  deriving DecidableEq

def nsecPerSec : Nat := 1000000000

def timespecToNs (ts : Timespec) : Nat := (ts.tvSec * nsecPerSec + ts.tvNsec) % 2 ^ 64

def nsToTimespec (ns : Nat) : Timespec := { tvSec := ns / nsecPerSec, tvNsec := ns % nsecPerSec }

namespace EtherCATSync

def getSleepSpec (wakeupTimeNs : Nat) (sync : EtherCATSync) : Timespec :=
  nsToTimespec (toUint64 (wakeupTimeNs + sync.sysTimeBase))

def getApplicationTime (monotonicTime : Nat) (sync : EtherCATSync) : Nat :=
  toUint64 (monotonicTime - sync.sysTimeBase)

end EtherCATSync

/-- `sync_handler_` may be null. -/
def getDcSleepSpec (syncHandler : Option EtherCATSync) (wakeupTimeNs : Nat) : Timespec :=
  match syncHandler with
  | some sync => sync.getSleepSpec wakeupTimeNs
  | none => nsToTimespec wakeupTimeNs

def getDcApplicationTime (syncHandler : Option EtherCATSync) (monotonicTime : Nat) : Nat :=
  match syncHandler with
  | some sync => sync.getApplicationTime monotonicTime
  | none => monotonicTime

/-- What an iteration finds: the time base, which the PLL moves between iterations only, the clock at its
top and when it is read again, and what the rest of the iteration measures. -/
structure JobIteration where
  syncHandler : Option EtherCATSync
  now0Ns : Nat
  realignNs : Nat
  tripped : Bool
  actualWakeupNs : Nat
  cycleEndNs : Nat
  dcStatusValid : Bool
  dcDiffNs : Int32
  rxOk : Bool
  deriving DecidableEq

/-- The variables of the loop that outlive an iteration, and the runtime. -/
structure JobLoop where
  appTimeNs : Nat
  wake : Timespec
  runtime : IghMasterRuntime
  deriving DecidableEq

/-- An iteration, or a call from another thread that leaves the Job thread running. -/
inductive JobLoopAction where
  | iterate (iteration : JobIteration)
  | setOperational (operational : Bool)
  | clearCommFault
  | requestSafeOutput
  | releaseSafeOutput
  deriving DecidableEq

namespace JobLoop

/-- The wake-up time of the next slot lies more than a cycle before the clock. -/
def fallsBehind (cycleNs appTimeNs : Nat) (iteration : JobIteration) : Bool :=
  let scheduled := timespecToNs
    (getDcSleepSpec iteration.syncHandler ((appTimeNs + cycleNs) % 2 ^ 64))
  (scheduled + cycleNs) % 2 ^ 64 < iteration.now0Ns

/-- The application time of an iteration. -/
def advanceTime (cycleNs appTimeNs : Nat) (iteration : JobIteration) : Nat :=
  if fallsBehind cycleNs appTimeNs iteration then
    getDcApplicationTime iteration.syncHandler iteration.realignNs
  else
    (appTimeNs + cycleNs) % 2 ^ 64

def iterate (cycleNs : Nat) (iteration : JobIteration) (loop : JobLoop) : JobLoop :=
  let appTime := advanceTime cycleNs loop.appTimeNs iteration
  let wake := getDcSleepSpec iteration.syncHandler appTime
  let timing : JobTiming :=
    { scheduledNs := timespecToNs wake
      actualWakeupNs := iteration.actualWakeupNs
      cycleEndNs := iteration.cycleEndNs
      dcStatusValid := iteration.dcStatusValid
      dcDiffNs := iteration.dcDiffNs }
  { appTimeNs := appTime
    wake := wake
    runtime := (loop.runtime.consumePendingDwellFault.latchIf iteration.tripped).finishJobCycle
      timing iteration.rxOk }

/-- `cycle_ns` is computed once, when the thread starts. -/
def next (cycleNs : Nat) (loop : JobLoop) : JobLoopAction → JobLoop
  | .iterate iteration => loop.iterate cycleNs iteration
  | .setOperational operational =>
      { loop with runtime := loop.runtime.setOperational operational }
  | .clearCommFault => { loop with runtime := loop.runtime.clearCommFault }
  | .requestSafeOutput => { loop with runtime := loop.runtime.requestSafeOutput }
  | .releaseSafeOutput => { loop with runtime := loop.runtime.releaseSafeOutput.1 }

def machine (cycleNs : Nat) : Transition.Machine JobLoop JobLoopAction where
  next := next cycleNs

/-- The thread that `start` has launched, before its first iteration. -/
def begin (syncHandler : Option EtherCATSync) (monotonicTime : Nat) (runtime : IghMasterRuntime) :
    JobLoop where
  appTimeNs := getDcApplicationTime syncHandler monotonicTime
  wake := nsToTimespec 0
  runtime := runtime

end JobLoop

abbrev JobLoopVisit := Transition.Visit JobLoop JobLoopAction
abbrev JobLoopConfig := Transition.Config JobLoop JobLoopAction

namespace JobLoop

def isIteration (visit : JobLoopVisit) : Bool :=
  match visit.action with
  | .iterate _ => true
  | _ => false

/-- The number of executed cycles. -/
def executedCycles (history : List JobLoopVisit) : Nat := history.countP isIteration

/-- An iteration that realigns the application time with the clock. -/
def realigns (cycleNs : Nat) (visit : JobLoopVisit) : Bool :=
  match visit.action with
  | .iterate iteration => fallsBehind cycleNs visit.before.appTimeNs iteration
  | _ => false

/-- The shift of the monotonic clock against the application time. -/
def timeBase (syncHandler : Option EtherCATSync) : Int :=
  match syncHandler with
  | some sync => sync.sysTimeBase
  | none => 0

/-- The sums that an iteration computes are 64-bit times. -/
structure InRange (cycleNs appTimeNs : Nat) (iteration : JobIteration) : Prop where
  now0_lt : iteration.now0Ns < 2 ^ 64
  realign_lt : iteration.realignNs < 2 ^ 64
  appTime_lt : appTimeNs + cycleNs < 2 ^ 64
  scheduled_nonneg : 0 ≤ (appTimeNs + cycleNs : Nat) + timeBase iteration.syncHandler
  scheduled_lt : (appTimeNs + cycleNs : Nat) + timeBase iteration.syncHandler + cycleNs < 2 ^ 64
  realigned_nonneg : fallsBehind cycleNs appTimeNs iteration = true →
    0 ≤ (iteration.realignNs : Int) - timeBase iteration.syncHandler
  realigned_lt : fallsBehind cycleNs appTimeNs iteration = true →
    (iteration.realignNs : Int) - timeBase iteration.syncHandler < 2 ^ 64

/-- The clock does not go back, and no sum leaves its 64 bits. -/
def Clocked (cycleNs : Nat) (config : JobLoopConfig) (action : JobLoopAction) : Prop :=
  ∀ iteration, action = .iterate iteration →
    iteration.now0Ns ≤ iteration.realignNs ∧ InRange cycleNs config.state.appTimeNs iteration

/-- The application time goes forward by at least a cycle, and the wake-up time lies at most a cycle before
the clock at the top of the iteration. -/
def Advances (cycleNs : Nat) (visit : JobLoopVisit) : Prop :=
  ∀ iteration, visit.action = .iterate iteration →
    visit.before.appTimeNs + cycleNs ≤ visit.after.appTimeNs ∧
      iteration.now0Ns ≤ timespecToNs visit.after.wake + cycleNs

/-- The application time is on the grid of the cycles, the skipped slots counted. -/
def OnGrid (cycleNs initialNs : Nat) (config : JobLoopConfig) : Prop :=
  config.state.appTimeNs = initialNs +
    (executedCycles config.history + config.state.runtime.jobCycleDiag.skippedSlots) * cycleNs

end JobLoop

end IghMaster
