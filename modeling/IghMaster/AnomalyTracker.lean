import Mathlib.Data.BitVec

/-!
# Anomaly trackers and the healthy dwell

`util/anomaly_tracker.hpp`: a tracker counts consecutive anomalies and those in a sliding window of
at most 64 cycles; the dwell counts healthy cycles after a safety reset before motion may be
enabled again.
-/

namespace IghMaster

structure AnomalyPolicy where
  consecutiveStop : UInt32 := 1
  windowSize : UInt32 := 1
  windowStop : UInt32 := 1
  deriving DecidableEq

/-- A policy after `sanitize`: no threshold is zero and the window fits its 64 bits. -/
structure SanitizedPolicy where
  consecutiveStop : Nat
  windowSize : Nat
  windowStop : Nat
  one_le_consecutiveStop : 1 ≤ consecutiveStop
  one_le_windowSize : 1 ≤ windowSize
  windowSize_le : windowSize ≤ 64
  one_le_windowStop : 1 ≤ windowStop
  windowStop_le : windowStop ≤ windowSize
  deriving DecidableEq

def AnomalyPolicy.sanitize (policy : AnomalyPolicy) : SanitizedPolicy where
  consecutiveStop := max 1 policy.consecutiveStop.toNat
  windowSize := min (max policy.windowSize.toNat 1) 64
  windowStop := min (max policy.windowStop.toNat 1) (min (max policy.windowSize.toNat 1) 64)
  one_le_consecutiveStop := Nat.le_max_left _ _
  one_le_windowSize := by omega
  windowSize_le := Nat.min_le_right _ _
  one_le_windowStop := by omega
  windowStop_le := Nat.min_le_right _ _

structure AnomalyStats where
  total : Nat
  consecutive : Nat
  windowCount : Nat
  stopRequired : Bool
  deriving DecidableEq

structure AnomalyTracker where
  policy : SanitizedPolicy
  total : Nat := 0
  windowBits : BitVec 64 := 0
  consecutive : Nat := 0
  windowCount : Nat := 0
  cursor : Nat := 0
  deriving DecidableEq

namespace AnomalyTracker

def new (policy : AnomalyPolicy) : AnomalyTracker := { policy := policy.sanitize }

/-- A counter that stops at the largest value of its type. -/
def saturatingSucc (limit count : Nat) : Nat := if count = limit then count else count + 1

def stats (tracker : AnomalyTracker) : AnomalyStats where
  total := tracker.total
  consecutive := tracker.consecutive
  windowCount := tracker.windowCount
  stopRequired :=
    tracker.policy.consecutiveStop ≤ tracker.consecutive ||
      tracker.policy.windowStop ≤ tracker.windowCount

/-- The cursor is the next bit to be written: its old value leaves the window. -/
def recordWindow (tracker : AnomalyTracker) (anomaly : Bool) : AnomalyTracker :=
  let bit := BitVec.twoPow 64 tracker.cursor
  let kept :=
    if (tracker.windowBits &&& bit) != 0 && 0 < tracker.windowCount then tracker.windowCount - 1
    else tracker.windowCount
  { tracker with
    windowBits := if anomaly then tracker.windowBits ||| bit else tracker.windowBits &&& ~~~bit
    windowCount := if anomaly then kept + 1 else kept
    cursor := (tracker.cursor + 1) % tracker.policy.windowSize }

def observe (tracker : AnomalyTracker) (anomaly : Bool) : AnomalyTracker × AnomalyStats :=
  let counted : AnomalyTracker :=
    if anomaly then
      { tracker with
        total := saturatingSucc (2 ^ 64 - 1) tracker.total
        consecutive := saturatingSucc (2 ^ 32 - 1) tracker.consecutive }
    else
      { tracker with consecutive := 0 }
  let observed := counted.recordWindow anomaly
  (observed, observed.stats)

def reset (tracker : AnomalyTracker) : AnomalyTracker := { policy := tracker.policy }

end AnomalyTracker

structure HealthyDwell where
  required : Nat := 1
  consecutiveOk : Nat := 0
  armed : Bool := false
  allowEnable : Bool := true
  deriving DecidableEq

namespace HealthyDwell

def new (requiredCycles : UInt32) : HealthyDwell := { required := max 1 requiredCycles.toNat }

def onFault (dwell : HealthyDwell) : HealthyDwell :=
  { dwell with armed := false, consecutiveOk := 0, allowEnable := false }

def requestReset (dwell : HealthyDwell) : HealthyDwell :=
  { dwell with armed := true, consecutiveOk := 0, allowEnable := false }

def observe (dwell : HealthyDwell) (healthy : Bool) : HealthyDwell :=
  if dwell.armed then
    if healthy then
      let count := AnomalyTracker.saturatingSucc (2 ^ 32 - 1) dwell.consecutiveOk
      if dwell.required ≤ count then
        { dwell with allowEnable := true, armed := false, consecutiveOk := 0 }
      else
        { dwell with consecutiveOk := count }
    else
      { dwell with consecutiveOk := 0, allowEnable := false }
  else
    dwell

def allowInitialEnable (dwell : HealthyDwell) : HealthyDwell :=
  { dwell with armed := false, consecutiveOk := 0, allowEnable := true }

def reset (dwell : HealthyDwell) (requiredCycles : UInt32) : HealthyDwell :=
  ({ dwell with required := max 1 requiredCycles.toNat } : HealthyDwell).allowInitialEnable

end HealthyDwell

end IghMaster
