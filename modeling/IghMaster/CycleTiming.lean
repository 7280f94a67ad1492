/-!
# Cycle timing and distributed clock samples

`master/igh/cycle_timing.hpp` and `master/igh/dc_monitor.hpp`: what the Job records about one
cycle. Times are `uint64_t` nanoseconds, held as naturals below `2 ^ 64`.
-/

namespace IghMaster

def uint64Max : Nat := 0xFFFFFFFFFFFFFFFF

structure CycleTimingStats where
  currentLatenessNs : Nat := 0
  currentExecutionNs : Nat := 0
  maxLatenessNs : Nat := 0
  maxExecutionNs : Nat := 0
  deadlineMissCount : Nat := 0
  deadlineMet : Bool := true
  deriving DecidableEq

/-- The end of the cycle that was scheduled at a wake-up, at most `UINT64_MAX`. -/
def cycleDeadline (scheduledWakeupNs cyclePeriodNs : Nat) : Nat :=
  if uint64Max - cyclePeriodNs < scheduledWakeupNs then uint64Max
  else scheduledWakeupNs + cyclePeriodNs

def observeCycleTiming (stats : CycleTimingStats)
    (scheduledWakeupNs actualWakeupNs cycleEndNs cyclePeriodNs : Nat) : CycleTimingStats :=
  let lateness := actualWakeupNs - scheduledWakeupNs
  let execution := cycleEndNs - actualWakeupNs
  let met := cyclePeriodNs != 0 && cycleEndNs ≤ cycleDeadline scheduledWakeupNs cyclePeriodNs
  { currentLatenessNs := lateness
    currentExecutionNs := execution
    maxLatenessNs := max stats.maxLatenessNs lateness
    maxExecutionNs := max stats.maxExecutionNs execution
    deadlineMissCount :=
      if !met && stats.deadlineMissCount != uint64Max then stats.deadlineMissCount + 1
      else stats.deadlineMissCount
    deadlineMet := met }

structure DcStatusSample where
  statusValid : Bool
  inSync : Bool
  deviationNs : Int32
  deriving DecidableEq

def absDeviationNs (deviationNs : Int32) : Nat := deviationNs.toInt.natAbs

def makeDcStatusSample (statusValid : Bool) (deviationNs syncThresholdNs : Int32) :
    DcStatusSample :=
  let threshold := if 0 < syncThresholdNs.toInt then syncThresholdNs.toInt.natAbs else 0
  { statusValid := statusValid
    inSync := statusValid && absDeviationNs deviationNs ≤ threshold
    deviationNs := deviationNs }

def dcOutOfSyncAnomaly (sample : DcStatusSample) : Bool :=
  sample.statusValid && !sample.inSync

end IghMaster
