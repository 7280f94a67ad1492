/-!
# The reference clock

`getReferenceClockTime` extends the low 32 bits of the DC time to 64 bits. The high word, the last low
word and the availability of the clock are static variables in `ethercat_servo.cpp`, so that all servos
of a process share them. Its counters are `int`s, and nothing limits `consecutive_successes`: the numbers
here are those of the source up to call 2147483647 of a process (`countersWithin_exec`).
-/

namespace IghMaster

structure ReferenceClock where
  dcHighBits : UInt32 := 0
  lastTimeLow : UInt32 := 0
  dcHighBitsAligned : Bool := false
  dcAvailable : Bool := false
  retryCounter : Nat := 0
  consecutiveFailures : Nat := 0
  consecutiveSuccesses : Nat := 0
  deriving DecidableEq

/-- What a call finds: the low word that the master answers, or none, and `CLOCK_MONOTONIC`. -/
structure ClockRead where
  timeLow : Option UInt32
  systemTimeNs : UInt64
  deriving DecidableEq

namespace ReferenceClock

/-- `REQUIRED_SUCCESSES`. -/
def requiredSuccesses : Nat := 10

def retryInterval (clock : ReferenceClock) : Nat :=
  if clock.consecutiveFailures = 0 then 100
  else if 10 ≤ clock.consecutiveFailures then 5000 * 10
  else 5000

/-- The call returns before it asks the master. -/
def backsOff (clock : ReferenceClock) : Bool :=
  !clock.dcAvailable && clock.retryCounter + 1 < clock.retryInterval

def failed (clock : ReferenceClock) : ReferenceClock :=
  { clock with
    dcAvailable := false
    consecutiveFailures := clock.consecutiveFailures + 1
    consecutiveSuccesses := 0 }

/-- The first successful read takes the high word from the system time. -/
def align (timeLow : UInt32) (systemTimeNs : UInt64) (clock : ReferenceClock) : ReferenceClock :=
  if clock.dcHighBitsAligned then clock
  else
    { clock with
      dcHighBits := (systemTimeNs >>> 32).toUInt32
      lastTimeLow := timeLow
      dcHighBitsAligned := true }

/-- A low word below the last one counts as an overflow, unless the last one is 0. -/
def extend (timeLow : UInt32) (clock : ReferenceClock) : ReferenceClock :=
  { clock with
    dcHighBits :=
      if timeLow < clock.lastTimeLow ∧ clock.lastTimeLow ≠ 0 then clock.dcHighBits + 1
      else clock.dcHighBits
    lastTimeLow := timeLow }

def time (clock : ReferenceClock) : UInt64 :=
  (clock.dcHighBits.toUInt64 <<< 32) ||| clock.lastTimeLow.toUInt64

def succeeded (clock : ReferenceClock) : ReferenceClock :=
  { clock with
    consecutiveSuccesses := clock.consecutiveSuccesses + 1
    consecutiveFailures := 0
    dcAvailable := requiredSuccesses ≤ clock.consecutiveSuccesses + 1
    retryCounter :=
      if requiredSuccesses ≤ clock.consecutiveSuccesses + 1 then clock.retryCounter else 0 }

/-- The counter of the calls that do not find the clock available. -/
def countRetry (clock : ReferenceClock) : ReferenceClock :=
  if clock.dcAvailable then clock
  else if clock.backsOff then { clock with retryCounter := clock.retryCounter + 1 }
  else { clock with retryCounter := 0 }

/-- `getReferenceClockTime` of an activated servo. -/
def read (input : ClockRead) (clock : ReferenceClock) : ReferenceClock × UInt64 :=
  if clock.backsOff then
    (clock.countRetry, 0)
  else
    match input.timeLow with
    | none => (clock.countRetry.failed, 0)
    | some timeLow =>
        let extended := (clock.countRetry.align timeLow input.systemTimeNs).extend timeLow
        (extended.succeeded, extended.time)

/-- `alignDcTimeBase`. -/
def alignTimeBase (systemTimeNs : UInt64) (clock : ReferenceClock) : ReferenceClock :=
  { clock with
    dcHighBits := (systemTimeNs >>> 32).toUInt32
    lastTimeLow := systemTimeNs.toUInt32
    dcHighBitsAligned := true }

end ReferenceClock

end IghMaster
