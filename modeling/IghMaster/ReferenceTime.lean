import IghMaster.Lib.Transition
import IghMaster.ReferenceClock
import Mathlib.Data.BitVec

/-!
# Calls that read or align the reference clock

The calls of one servo in any order, where the master answers the low word of a clock of 64 bits, and what
the history of these calls says about the values they returned.
-/

namespace IghMaster

/-- A read finds the true time of the clock where the master answers. -/
inductive ClockAction where
  | read (activated : Bool) (trueTime : Option UInt64) (systemTimeNs : UInt64)
  | alignDcTimeBase (systemTimeNs : UInt64)
  deriving DecidableEq

namespace ReferenceClock

def next (clock : ReferenceClock) : ClockAction → ReferenceClock
  | .read activated trueTime systemTimeNs =>
      if activated then (clock.read ⟨trueTime.map UInt64.toUInt32, systemTimeNs⟩).1 else clock
  | .alignDcTimeBase systemTimeNs => clock.alignTimeBase systemTimeNs

def machine : Transition.Machine ReferenceClock ClockAction where
  next := next

end ReferenceClock

abbrev ClockVisit := Transition.Visit ReferenceClock ClockAction
abbrev ClockConfig := Transition.Config ReferenceClock ClockAction

namespace ReferenceClock

/-- What a successful read returned, and the true time it was read at. -/
def answer (visit : ClockVisit) : Option (UInt64 × UInt64) :=
  match visit.action with
  | .read true (some trueTime) systemTimeNs =>
      if visit.before.backsOff then none
      else some ((visit.before.read ⟨some trueTime.toUInt32, systemTimeNs⟩).2, trueTime)
  | _ => none

/-- The time base that an alignment set. -/
def alignment (visit : ClockVisit) : Option UInt64 :=
  match visit.action with
  | .alignDcTimeBase systemTimeNs => some systemTimeNs
  | _ => none

/-- A read that failed or that was skipped. -/
def isUnanswered (visit : ClockVisit) : Bool :=
  (answer visit).isNone && (alignment visit).isNone

/-- Of two visits of a history, newest first, the reads between them got no answer. -/
def Consecutive (later earlier : ClockVisit) (history : List ClockVisit) : Prop :=
  ∃ after between before, history = after ++ later :: (between ++ earlier :: before) ∧
    ∀ visit ∈ between, isUnanswered visit = true

/-- The time lies in the 32 bits of nanoseconds from the base on, and has the low word. -/
def InWindow (baseNs : UInt64) (timeLow : UInt32) (timeNs : Nat) : Prop :=
  baseNs.toNat ≤ timeNs ∧ timeNs < baseNs.toNat + 2 ^ 32 ∧ timeNs % 2 ^ 32 = timeLow.toNat

/-- Reads advance as the true clock does, and the first one after an alignment is the time in the window
of the base. -/
structure TimeContinuous (history : List ClockVisit) : Prop where
  advance : ∀ {later earlier}, Consecutive later earlier history →
    ∀ {value time value' time'}, answer earlier = some (value, time) →
      answer later = some (value', time') → (time' - time).toNat < 2 ^ 32 →
        value' - value = time' - time
  aligned : ∀ {later earlier}, Consecutive later earlier history →
    ∀ {baseNs value time}, alignment earlier = some baseNs → answer later = some (value, time) →
      ∃ timeNs, InWindow baseNs time.toUInt32 timeNs ∧
        (∀ other, InWindow baseNs time.toUInt32 other → other = timeNs) ∧
          value = UInt64.ofNat timeNs

end ReferenceClock

end IghMaster
