import IghMaster.CycleTiming
import IghMaster.Lib.Transition

/-!
# The synchronisation of the distributed clocks

`EtherCATSync` in `ethercat_sync.cpp`. Each call of `process` may read the reference clock, unless it
warms up or backs off after failures, and after enough reads in a row it updates the PLL. Differences
are integers here: where they leave `int32_t`, the source has no defined behaviour.
-/

namespace IghMaster

def refClockWarmupCycles : Nat := 100

def refClockRequiredSuccesses : Nat := 3

def refClockFailEnterBackoff : Nat := 12

def refClockBackoffEveryCycles : Nat := 2500

def refClockBackoffMaxCycles : Nat := 25000

def dcFilterCnt : Nat := 1024

structure EtherCATSync where
  hasMaster : Bool := false
  cycleTimeNs : UInt32 := 0
  dcTimeNs : UInt64 := 0
  dcStarted : Bool := false
  dcDiffNs : Int := 0
  prevDcDiffNs : Int := 0
  dcDiffTotalNs : Int := 0
  dcDeltaTotalNs : Int := 0
  dcFilterIdx : Nat := 0
  dcAdjustNs : Int := 0
  sysTimeBase : Int := 0
  warmupCyclesRemaining : Nat := refClockWarmupCycles
  consecutiveRefSuccesses : Nat := 0
  consecutiveRefFailures : Nat := 0
  refClockProcessCycle : Nat := 0
  refClockFailStreak : Nat := 0
  refClockBackoff : Bool := false
  lastGoodDcDiffNs : Int := 0
  haveGoodDcDiff : Bool := false
  refClockReadDisabled : Bool := false
  deriving DecidableEq

/-- A call of `process`: the application time, and what the reference clock would answer. -/
structure DcInput where
  appTimeNs : UInt64
  referenceClock : Option UInt32
  deriving DecidableEq

/-- What becomes of the reference clock in a call. -/
inductive RefRead where
  | disabled
  | warmup
  | backoff
  | failed
  | read (timeLow : UInt32)
  deriving DecidableEq

namespace EtherCATSync

/-- `initialize` leaves the accumulators of the PLL as they were. -/
def initializeSync (cycleTimeNs : UInt32) (nowNs : UInt64) (sync : EtherCATSync) : EtherCATSync :=
  { sync with
    hasMaster := true
    cycleTimeNs := cycleTimeNs
    dcTimeNs := nowNs
    sysTimeBase := 0
    dcStarted := false
    dcDiffNs := 0
    prevDcDiffNs := 0
    warmupCyclesRemaining := refClockWarmupCycles
    consecutiveRefSuccesses := 0
    consecutiveRefFailures := 0
    refClockProcessCycle := 0
    refClockFailStreak := 0
    refClockBackoff := false
    lastGoodDcDiffNs := 0
    haveGoodDcDiff := false
    refClockReadDisabled := false }

def lastDcDiffNs (sync : EtherCATSync) : Int := sync.dcDiffNs

def isDcPllActive (sync : EtherCATSync) : Bool := sync.dcStarted && !sync.refClockReadDisabled

/-- The cycle time as the `int32_t` that the differences are compared with. -/
def cycle (sync : EtherCATSync) : Int := sync.cycleTimeNs.toInt32.toInt

def rawDiff (appTimeNs : UInt64) (timeLow : UInt32) : Int :=
  (appTimeNs.toUInt32 - timeLow).toInt32.toInt

/-- The difference brought into half a cycle around zero, with the division of the source. -/
def normalise (cycle diffNs : Int) : Int :=
  ((diffNs + cycle.tdiv 2).tmod cycle + cycle).tmod cycle - cycle.tdiv 2

/-! ### The reference clock -/

def enter (appTimeNs : UInt64) (sync : EtherCATSync) : EtherCATSync :=
  { sync with
    dcTimeNs := appTimeNs, warmupCyclesRemaining := sync.warmupCyclesRemaining - 1 }

def backoffInterval (sync : EtherCATSync) : Nat :=
  if refClockFailEnterBackoff * 4 ≤ sync.refClockFailStreak then refClockBackoffMaxCycles
  else if refClockFailEnterBackoff * 2 ≤ sync.refClockFailStreak then
    refClockBackoffEveryCycles * 5
  else refClockBackoffEveryCycles

def readReference (referenceClock : Option UInt32) (sync : EtherCATSync) : RefRead :=
  if sync.refClockReadDisabled then .disabled
  else if sync.warmupCyclesRemaining ≠ 0 then .warmup
  else if sync.refClockBackoff && (sync.refClockProcessCycle + 1) % sync.backoffInterval != 0 then
    .backoff
  else
    match referenceClock with
    | none => .failed
    | some timeLow => .read timeLow

/-- The last good difference stands in for a read. -/
def holdLastGood (sync : EtherCATSync) : EtherCATSync :=
  { sync with
    refClockProcessCycle := sync.refClockProcessCycle + 1
    dcDiffNs := if sync.haveGoodDcDiff then sync.lastGoodDcDiffNs else 0 }

def noteFailure (sync : EtherCATSync) : EtherCATSync :=
  { sync with
    consecutiveRefSuccesses := 0
    consecutiveRefFailures := sync.consecutiveRefFailures + 1
    refClockFailStreak := sync.refClockFailStreak + 1
    refClockBackoff :=
      sync.refClockBackoff || sync.refClockFailStreak + 1 == refClockFailEnterBackoff }

def noteRead (timeLow : UInt32) (sync : EtherCATSync) : EtherCATSync :=
  { sync with
    refClockProcessCycle := sync.refClockProcessCycle + 1
    dcDiffNs := rawDiff sync.dcTimeNs timeLow
    consecutiveRefFailures := 0
    refClockFailStreak := 0
    refClockBackoff := false
    lastGoodDcDiffNs := rawDiff sync.dcTimeNs timeLow
    haveGoodDcDiff := true
    consecutiveRefSuccesses := sync.consecutiveRefSuccesses + 1 }

def applyRead (sync : EtherCATSync) : RefRead → EtherCATSync
  | .disabled => sync
  | .warmup => { sync with dcDiffNs := 0 }
  | .backoff => sync.holdLastGood
  | .failed => sync.holdLastGood.noteFailure
  | .read timeLow => sync.noteRead timeLow

/-! ### The PLL -/

/-- The adjustment at the end of a filter period. The mean of the old and the new one is computed in
`double`, exactly, and then truncated. -/
def adjustFilter (sync : EtherCATSync) : EtherCATSync :=
  if dcFilterCnt ≤ sync.dcFilterIdx then
    let deltaAvg := (sync.dcDeltaTotalNs + dcFilterCnt / 2).tdiv dcFilterCnt
    let errorCompensation := (sync.dcDiffTotalNs.tdiv dcFilterCnt).sign
    let newAdjust := min 1000 (max (-1000) (deltaAvg + errorCompensation))
    { sync with
      dcAdjustNs := (sync.dcAdjustNs + newAdjust).tdiv 2
      dcDiffTotalNs := 0
      dcDeltaTotalNs := 0
      dcFilterIdx := 0 }
  else
    sync

/-- The part of `process` after enough reads in a row. The difference of the last update is kept as
it was read. -/
def updatePll (sync : EtherCATSync) : EtherCATSync :=
  let normalised : EtherCATSync :=
    { sync with
      prevDcDiffNs := sync.dcDiffNs
      dcDiffNs := normalise sync.cycle sync.dcDiffNs }
  if sync.dcStarted then
    let filtered :=
      { normalised with
        dcDiffTotalNs := sync.dcDiffTotalNs + normalised.dcDiffNs
        dcDeltaTotalNs := sync.dcDeltaTotalNs + (sync.dcDiffNs - sync.prevDcDiffNs)
        dcFilterIdx := sync.dcFilterIdx + 1 }.adjustFilter
    { filtered with sysTimeBase := filtered.sysTimeBase + filtered.dcAdjustNs }
  else
    { normalised with dcStarted := true, sysTimeBase := 0 }

def refRead (input : DcInput) (sync : EtherCATSync) : RefRead :=
  (sync.enter input.appTimeNs).readReference input.referenceClock

def isRead : RefRead → Bool
  | .read _ => true
  | _ => false

def process (input : DcInput) (sync : EtherCATSync) : EtherCATSync × Int :=
  if !sync.hasMaster then
    (sync, 0)
  else
    let outcome := sync.refRead input
    let exchanged := (sync.enter input.appTimeNs).applyRead outcome
    if !isRead outcome || exchanged.consecutiveRefSuccesses < refClockRequiredSuccesses then
      (exchanged, 0)
    else
      (exchanged.updatePll, exchanged.updatePll.dcDiffNs)

def machine : Transition.Machine EtherCATSync DcInput where
  next := fun sync input => (sync.process input).1

end EtherCATSync

abbrev DcVisit := Transition.Visit EtherCATSync DcInput
abbrev DcConfig := Transition.Config EtherCATSync DcInput

namespace EtherCATSync

/-! ### The reported deviation -/

def readsClock (visit : DcVisit) : Bool := isRead (visit.before.refRead visit.action)

def updatesPll (visit : DcVisit) : Bool :=
  readsClock visit &&
    refClockRequiredSuccesses ≤ visit.before.consecutiveRefSuccesses + 1

def lastUpdated : List DcVisit → Option Int
  | [] => none
  | visit :: earlier =>
      if updatesPll visit then some visit.after.lastDcDiffNs else lastUpdated earlier

def isNormalised (cycle diffNs : Int) : Bool := -(cycle / 2) ≤ diffNs && diffNs < cycle / 2

/-- Once the PLL has started, the reported deviation is normalised, and after a call that could not
read the clock it is the one of the last update. -/
def ReportsNormalised (config : DcConfig) : Prop :=
  config.state.dcStarted = true →
    isNormalised config.state.cycle config.state.lastDcDiffNs = true ∧
      ∀ visit earlier, config.history = visit :: earlier → readsClock visit = false →
        lastUpdated earlier = some config.state.lastDcDiffNs

/-- After the start of the PLL, a read too few for an update finds a difference within half a cycle,
and a call that cannot read holds the difference that the last update reported. -/
def keepsNormalised (sync : EtherCATSync) (input : DcInput) : Bool :=
  !sync.dcStarted ||
    match sync.refRead input with
    | .disabled => true
    | .warmup => true
    | .backoff => sync.lastGoodDcDiffNs == normalise sync.cycle sync.prevDcDiffNs
    | .failed => sync.lastGoodDcDiffNs == normalise sync.cycle sync.prevDcDiffNs
    | .read timeLow =>
        refClockRequiredSuccesses ≤ sync.consecutiveRefSuccesses + 1 ||
          isNormalised sync.cycle (rawDiff input.appTimeNs timeLow)

end EtherCATSync

end IghMaster
