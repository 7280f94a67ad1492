import IghMaster.CycleTiming
import IghMaster.Lib.Slots
import IghMaster.Lib.Transition

/-!
# The timing thread

`nextCycleDeadline` and `skippedSlotsBetween` of `master/igh/cycle_timing.hpp`, in words of their own
width, and the loop of `timingThreadMain` that goes from one deadline to the next.
-/

namespace IghMaster

def uint64MaxWord : UInt64 := UInt64.ofNat uint64Max

/-- A thread further behind takes its slots from the clock again. -/
def kMaxCatchUpSlots : UInt64 := 16

/-- The absolute deadline after the one of this wake-up; slots that have passed are left out. -/
def nextCycleDeadline (scheduledWakeupNs nowNs cyclePeriodNs : UInt64) : UInt64 :=
  if cyclePeriodNs = 0 ∨ uint64MaxWord - cyclePeriodNs < scheduledWakeupNs then uint64MaxWord
  else
    let next := scheduledWakeupNs + cyclePeriodNs
    if nowNs < next then next
    else
      let skipped := (nowNs - next) / cyclePeriodNs + 1
      -- the only sum that is not checked
      if kMaxCatchUpSlots < skipped then nowNs + cyclePeriodNs
      else if (uint64MaxWord - next) / cyclePeriodNs < skipped then uint64MaxWord
      else next + skipped * cyclePeriodNs

def skippedSlotsBetween (previousScheduledNs nextScheduledNs cyclePeriodNs : UInt64) : UInt64 :=
  if cyclePeriodNs = 0 ∨ nextScheduledNs ≤ previousScheduledNs then 0
  else
    let delta := nextScheduledNs - previousScheduledNs
    if delta ≤ cyclePeriodNs then 0 else delta / cyclePeriodNs - 1

/-! ### What a deadline has to be -/

/-- The slots after the scheduled one that have passed. -/
def missedSlots (scheduledNs nowNs periodNs : UInt64) : Nat :=
  Slots.passed scheduledNs.toNat periodNs.toNat nowNs.toNat

/-- The first slot after the scheduled one that is still ahead. -/
def nextSlot (scheduledNs nowNs periodNs : UInt64) : Nat :=
  Slots.slot scheduledNs.toNat periodNs.toNat (missedSlots scheduledNs nowNs periodNs + 1)

/-- A deadline that is ahead by at most a period of what comes later, the wake-up or the clock. Few
missed slots are all counted and the deadline is a slot; of many, those that fit are counted. -/
structure DeadlineAhead (scheduledNs nowNs periodNs deadlineNs : UInt64) : Prop where
  now_lt : nowNs < deadlineNs
  scheduled_lt : scheduledNs < deadlineNs
  le_now : scheduledNs ≤ nowNs → deadlineNs.toNat ≤ nowNs.toNat + periodNs.toNat
  few : missedSlots scheduledNs nowNs periodNs ≤ 16 →
    periodNs.toNat ∣ deadlineNs.toNat - scheduledNs.toNat ∧
      (skippedSlotsBetween scheduledNs deadlineNs periodNs).toNat =
        missedSlots scheduledNs nowNs periodNs
  many : 16 < missedSlots scheduledNs nowNs periodNs →
    (skippedSlotsBetween scheduledNs deadlineNs periodNs).toNat =
      (nowNs.toNat - scheduledNs.toNat) / periodNs.toNat

/-- Where the next slot has no representation, the deadline is the greatest word. -/
def DeadlineValid (scheduledNs nowNs periodNs deadlineNs : UInt64) : Prop :=
  (deadlineNs = uint64MaxWord ∧ 2 ^ 64 ≤ nextSlot scheduledNs nowNs periodNs) ∨
    DeadlineAhead scheduledNs nowNs periodNs deadlineNs

/-! ### The loop -/

/-- What the thread keeps from one wake-up to the next, and what it publishes. -/
structure TimingLoop where
  scheduledWakeupNs : UInt64
  publishedScheduledWakeupNs : UInt64 := 0
  timingTick : UInt64 := 0
  skippedSlots : UInt64 := 0
  deriving DecidableEq

namespace TimingLoop

/-- One iteration, with the clock after its sleep. -/
def wakeUp (cycleNs : UInt64) (loop : TimingLoop) (nowNs : UInt64) : TimingLoop :=
  let next := nextCycleDeadline loop.scheduledWakeupNs nowNs cycleNs
  let skipped := skippedSlotsBetween loop.scheduledWakeupNs next cycleNs
  { scheduledWakeupNs := next
    publishedScheduledWakeupNs := loop.scheduledWakeupNs
    timingTick := loop.timingTick + 1
    skippedSlots := if 0 < skipped then loop.skippedSlots + skipped else loop.skippedSlots }

def machine (cycleNs : UInt64) : Transition.Machine TimingLoop UInt64 where
  next := wakeUp cycleNs

def begin (cycleNs startNs : UInt64) : TimingLoop where
  scheduledWakeupNs := startNs + cycleNs

end TimingLoop

abbrev TimingLoopConfig := Transition.Config TimingLoop UInt64

namespace TimingLoop

/-- The thread is at most sixteen slots behind, and the next slot has a representation. -/
def KeepsUp (cycleNs : UInt64) (config : TimingLoopConfig) (nowNs : UInt64) : Prop :=
  missedSlots config.state.scheduledWakeupNs nowNs cycleNs ≤ 16 ∧
    nextSlot config.state.scheduledWakeupNs nowNs cycleNs < 2 ^ 64

/-- Every slot since the first was either published or counted as skipped. -/
def SlotsCounted (cycleNs firstNs : UInt64) (loop : TimingLoop) : Prop :=
  loop.scheduledWakeupNs.toNat =
    Slots.slot firstNs.toNat cycleNs.toNat (loop.timingTick.toNat + loop.skippedSlots.toNat)

end TimingLoop

end IghMaster
