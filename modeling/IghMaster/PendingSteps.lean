import Mathlib.Logic.Function.Basic
import IghMaster.Axis
import IghMaster.Lib.Transition

/-!
# Pending commands, one atomic access at a time

A writer thread calls `setTargetPosition`, `setTargetVelocity` and `setTargetTorque` of one axis while
the Job thread merges its pending commands at the head of `sendData`. A step is one load or store of a
pending value, of its valid flag or of a target.
-/

namespace IghMaster

inductive PendingChannel where
  | position
  | velocity
  | torque
  deriving DecidableEq

namespace PendingChannel

abbrev Value : PendingChannel → Type
  | position => Int32
  | velocity => Int32
  | torque => Int16

instance decidableEqValue : (channel : PendingChannel) → DecidableEq channel.Value
  | position => inferInstanceAs (DecidableEq Int32)
  | velocity => inferInstanceAs (DecidableEq Int32)
  | torque => inferInstanceAs (DecidableEq Int16)

/-- The order in which a merge takes the channels. -/
def rank : PendingChannel → Nat
  | position => 0
  | velocity => 1
  | torque => 2

end PendingChannel

/-- The pending value of a channel, its valid flag and the target of the axis. -/
structure PendingCell (α : Type) where
  value : α
  valid : Bool
  target : α
  deriving DecidableEq

/-- The next store of the writer. -/
inductive PendingWriter where
  | idle
  | storeValue (channel : PendingChannel) (value : channel.Value)
  | storeValid (channel : PendingChannel)

/-- The next access of the merge. -/
inductive PendingJob where
  | idle
  | loadValid (channel : PendingChannel)
  | loadValue (channel : PendingChannel)
  | storeTarget (channel : PendingChannel) (value : channel.Value)
  | clearValid (channel : PendingChannel)

structure PendingState where
  cells : (channel : PendingChannel) → PendingCell channel.Value
  writer : PendingWriter := .idle
  job : PendingJob := .idle

/-- A call or a merge begins, or a thread makes its next access. -/
inductive PendingAction where
  | call (channel : PendingChannel) (value : channel.Value)
  | beginMerge
  | writer
  | job

namespace PendingState

def setCell (channel : PendingChannel) (cell : PendingCell channel.Value) (state : PendingState) :
    PendingState :=
  { state with cells := Function.update state.cells channel cell }

def calling (channel : PendingChannel) (state : PendingState) : Bool :=
  match state.writer with
  | .idle => false
  | .storeValue called _ => called = channel
  | .storeValid called => called = channel

/-- A thread that is in a call takes no other. -/
def call (channel : PendingChannel) (value : channel.Value) (state : PendingState) : PendingState :=
  match state.writer with
  | .idle => { state with writer := .storeValue channel value }
  | _ => state

def beginMerge (state : PendingState) : PendingState :=
  match state.job with
  | .idle => { state with job := .loadValid .position }
  | _ => state

def writerStep (state : PendingState) : PendingState :=
  match state.writer with
  | .idle => state
  | .storeValue channel value =>
      { state.setCell channel { state.cells channel with value := value } with
        writer := .storeValid channel }
  | .storeValid channel =>
      { state.setCell channel { state.cells channel with valid := true } with writer := .idle }

def afterChannel : PendingChannel → PendingJob
  | .position => .loadValid .velocity
  | .velocity => .loadValid .torque
  | .torque => .idle

def jobStep (state : PendingState) : PendingState :=
  match state.job with
  | .idle => state
  | .loadValid channel =>
      if (state.cells channel).valid then { state with job := .loadValue channel }
      else { state with job := afterChannel channel }
  | .loadValue channel => { state with job := .storeTarget channel (state.cells channel).value }
  | .storeTarget channel value =>
      { state.setCell channel { state.cells channel with target := value } with
        job := .clearValid channel }
  | .clearValid channel =>
      { state.setCell channel { state.cells channel with valid := false } with
        job := afterChannel channel }

def next (state : PendingState) : PendingAction → PendingState
  | .call channel value => state.call channel value
  | .beginMerge => state.beginMerge
  | .writer => state.writerStep
  | .job => state.jobStep

def machine : Transition.Machine PendingState PendingAction where
  next := next

def ofSetpoints (setpoints : Setpoints) : PendingState where
  cells
    | .position =>
        { value := setpoints.pending.position, valid := setpoints.pending.positionValid
          target := setpoints.targetPosition }
    | .velocity =>
        { value := setpoints.pending.velocity, valid := setpoints.pending.velocityValid
          target := setpoints.targetVelocity }
    | .torque =>
        { value := setpoints.pending.torque, valid := setpoints.pending.torqueValid
          target := setpoints.targetTorque }

end PendingState

abbrev PendingVisit := Transition.Visit PendingState PendingAction
abbrev PendingConfig := Transition.Config PendingState PendingAction

namespace PendingState

/-! ### What was written, and what was merged since -/

/-- The value that the visit stores as pending on the channel. -/
def written? (channel : PendingChannel) (visit : PendingVisit) : Option channel.Value :=
  match visit.action, visit.before.writer with
  | .writer, .storeValue called value => if h : called = channel then some (h ▸ value) else none
  | _, _ => none

/-- The value that the visit applies to the target of the channel. -/
def applied? (channel : PendingChannel) (visit : PendingVisit) : Option channel.Value :=
  match visit.action, visit.before.job with
  | .job, .storeTarget merged value => if h : merged = channel then some (h ▸ value) else none
  | _, _ => none

def written (channel : PendingChannel) (history : List PendingVisit) : List channel.Value :=
  history.filterMap (written? channel)

def beginsCall (channel : PendingChannel) (visit : PendingVisit) : Bool :=
  !visit.before.calling channel && visit.after.calling channel

/-- The last store of a call on the channel, after which it has returned. -/
def returns (channel : PendingChannel) (visit : PendingVisit) : Bool :=
  visit.before.calling channel && !visit.after.calling channel

def jobIdle (state : PendingState) : Bool :=
  match state.job with
  | .idle => true
  | _ => false

def beginsMerge (visit : PendingVisit) : Bool := visit.before.jobIdle && !visit.after.jobIdle

def endsMerge (visit : PendingVisit) : Bool := !visit.before.jobIdle && visit.after.jobIdle

/-- How far the latest call on a channel has come: it is still to return, or there was none; it has
returned; a merge has begun since; a merge that began since has ended. -/
inductive CallPhase where
  | pending
  | returned
  | merging
  | merged
  deriving DecidableEq

def CallPhase.merge (visit : PendingVisit) : CallPhase → CallPhase
  | pending => pending
  | returned => if beginsMerge visit then merging else returned
  | merging => if endsMerge visit then merged else merging
  | merged => merged

def callPhase (channel : PendingChannel) : List PendingVisit → CallPhase
  | [] => .pending
  | visit :: earlier =>
      if beginsCall channel visit then .pending
      else if returns channel visit then .returned
      else (callPhase channel earlier).merge visit

/-- A merge applies only what was written, and after a complete merge that follows the last call the
target is what was written last. -/
def SetpointsArrive (config : PendingConfig) : Prop :=
  ∀ channel,
    (∀ visit earlier, config.history = visit :: earlier →
      ∀ value, applied? channel visit = some value → value ∈ written channel earlier) ∧
    (callPhase channel config.history = .merged →
      (written channel config.history).head? = some (config.state.cells channel).target)

/-- No merge clears the flag of a channel whose pending value is no longer the one it applied, unless
a call on the channel is yet to set the flag. -/
def clearsApplied (state : PendingState) : PendingAction → Bool
  | .job =>
      match state.job with
      | .clearValid channel =>
          (state.cells channel).value = (state.cells channel).target || state.calling channel
      | _ => true
  | _ => true

end PendingState

end IghMaster
