/-!
# Freshness of external commands

`util/command_freshness.hpp`: an external command arms a deadline that the Job checks; commands of
the Job itself never expire.
-/

namespace IghMaster

inductive SetpointSource where
  | external
  | jobInternal
  deriving DecidableEq

structure CommandFreshnessState where
  armed : Bool := false
  deadlineNs : Nat := 0
  deriving DecidableEq

namespace CommandFreshnessState

def disarm (_state : CommandFreshnessState) : CommandFreshnessState :=
  { armed := false, deadlineNs := 0 }

/-- The deadline is a `uint64_t` sum. -/
def armExternalCommand (state : CommandFreshnessState) (nowNs timeoutNs : Nat) :
    CommandFreshnessState :=
  if timeoutNs = 0 then state.disarm
  else { armed := true, deadlineNs := (nowNs + timeoutNs) % UInt64.size }

def markJobInternalCommand (state : CommandFreshnessState) : CommandFreshnessState :=
  state.disarm

def isExternalCommandStale (state : CommandFreshnessState) (nowNs : Nat) : Bool :=
  state.armed && state.deadlineNs < nowNs

def contentionFallbackActive (state : CommandFreshnessState) : Bool := state.armed

@[simp]
theorem armed_disarm (state : CommandFreshnessState) : state.disarm.armed = false := rfl

theorem armed_armExternalCommand {state : CommandFreshnessState} {nowNs timeoutNs : Nat}
    (hpos : 0 < timeoutNs) : (state.armExternalCommand nowNs timeoutNs).armed = true := by
  simp [armExternalCommand, Nat.ne_of_gt hpos]

theorem deadlineNs_armExternalCommand_le (state : CommandFreshnessState)
    (nowNs timeoutNs : Nat) :
    (state.armExternalCommand nowNs timeoutNs).deadlineNs ≤ nowNs + timeoutNs := by
  unfold armExternalCommand
  split
  · exact Nat.zero_le _
  · exact Nat.mod_le _ _

/-- A command that is armed and not stale is no older than its deadline. -/
theorem le_deadlineNs_of_not_stale {state : CommandFreshnessState} {nowNs : Nat}
    (harmed : state.armed = true) (hfresh : state.isExternalCommandStale nowNs = false) :
    nowNs ≤ state.deadlineNs := by
  simpa [isExternalCommandStale, harmed] using hfresh

end CommandFreshnessState

end IghMaster
