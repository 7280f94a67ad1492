import IghMaster.Lib.Transition
import IghMaster.Servo

/-!
# The fault reset window, one atomic access at a time

An API thread runs `requestFaultReset` and `clearCommFault` while the Job thread goes through safe
cycles. A step is one access to the cycle count or to the axis of the window, or the writing of the
process image between them. The gate of a request touches neither, so a request stands for one that
the gate lets through.
-/

namespace IghMaster

/-- The next store of the API thread. -/
inductive ResetApi where
  | idle
  | requestStoreAxis (axis : UInt16)
  | requestStoreCycles (axis : UInt16)
  | clearStoreCycles
  | clearStoreAxis
  deriving DecidableEq

/-- The next access of a safe cycle, with what it has loaded. -/
inductive ResetJob where
  | idle
  | loadCycles
  | loadAxis (cycles : UInt16)
  | write (cycles axis : UInt16)
  | fetchSub (axis : UInt16)
  | storeAxis (axis : UInt16)
  deriving DecidableEq

structure ResetState where
  cycles : UInt16 := 0
  axis : UInt16 := 0xFFFF
  api : ResetApi := .idle
  job : ResetJob := .idle
  deriving DecidableEq

/-- A call or a cycle begins, or a thread makes its next access. -/
inductive ResetAction where
  | callRequest (motorId : UInt8)
  | callClear
  | beginCycle
  | api
  | job
  deriving DecidableEq

namespace ResetState

/-- A thread that is in a call takes no other. -/
def callApi (first : ResetApi) (state : ResetState) : ResetState :=
  if state.api = .idle then { state with api := first } else state

def beginCycle (state : ResetState) : ResetState :=
  if state.job = .idle then { state with job := .loadCycles } else state

def apiStep (state : ResetState) : ResetState :=
  match state.api with
  | .idle => state
  | .requestStoreAxis axis => { state with axis := axis, api := .requestStoreCycles axis }
  | .requestStoreCycles _ => { state with cycles := 20, api := .idle }
  | .clearStoreCycles => { state with cycles := 0, api := .clearStoreAxis }
  | .clearStoreAxis => { state with axis := 0xFFFF, api := .idle }

def jobStep (state : ResetState) : ResetState :=
  match state.job with
  | .idle => state
  | .loadCycles => { state with job := .loadAxis state.cycles }
  | .loadAxis cycles => { state with job := .write cycles state.axis }
  | .write cycles axis => { state with job := if 0 < cycles then .fetchSub axis else .idle }
  | .fetchSub axis =>
      { state with
        cycles := state.cycles - 1
        job := if state.cycles - 1 = 0 then .storeAxis axis else .idle }
  | .storeAxis _ => { state with axis := 0xFFFF, job := .idle }

def next (state : ResetState) : ResetAction → ResetState
  | .callRequest motorId =>
      state.callApi (.requestStoreAxis (if motorId == 0xFF then 0x00FF else motorId.toUInt16))
  | .callClear => state.callApi .clearStoreCycles
  | .beginCycle => state.beginCycle
  | .api => state.apiStep
  | .job => state.jobStep

def machine : Transition.Machine ResetState ResetAction where
  next := next

def ofServo (servo : Servo) : ResetState where
  cycles := UInt16.ofNat servo.explicitFaultResetCycles
  axis := servo.explicitFaultResetAxis

end ResetState

abbrev ResetVisit := Transition.Visit ResetState ResetAction
abbrev ResetConfig := Transition.Config ResetState ResetAction

namespace ResetState

/-! ### What the cycles write to one axis -/

/-- A cycle that has loaded this writes the fault reset word to the axis, not Shutdown. -/
def resets (index : Nat) (cycles axis : UInt16) : Bool :=
  0 < cycles && Servo.resetAxisSelected axis index

/-- What the visit writes to the axis, where it writes the process image. -/
def written? (index : Nat) (visit : ResetVisit) : Option Bool :=
  match visit.action, visit.before.job with
  | .job, .write cycles axis => some (resets index cycles axis)
  | _, _ => none

/-- The cycle that is under way has written the fault reset word to the axis. -/
def hasReset (index : Nat) : ResetJob → Bool
  | .fetchSub axis => Servo.resetAxisSelected axis index
  | .storeAxis axis => Servo.resetAxisSelected axis index
  | _ => false

/-- The cycles that have written the fault reset word for the latest request, and whether the cycle
that is under way, or was the last one, began after the request had returned. -/
structure Served where
  count : Nat
  fresh : Bool
  deriving DecidableEq

def Served.visit (index : Nat) (visit : ResetVisit) (served : Served) : Served :=
  match visit.action, visit.before.job with
  | .beginCycle, .idle => { served with fresh := true }
  | .job, .write cycles axis =>
      { served with count := served.count + if resets index cycles axis then 1 else 0 }
  | _, _ => served

/-- How far the latest request is served, where it selected the axis and has returned, and no call
has begun since. A cycle under way at the return counts if it wrote the word. -/
def served (index : Nat) : List ResetVisit → Option Served
  | [] => none
  | visit :: earlier =>
      match visit.action, visit.before.api with
      | .callRequest _, .idle => none
      | .callClear, .idle => none
      | .api, .requestStoreCycles axis =>
          if Servo.resetAxisSelected axis index then
            some { count := if hasReset index visit.before.job then 1 else 0, fresh := false }
          else none
      | _, _ => (served index earlier).map (·.visit index visit)

/-- The count stays within the window, and while the latest request stands, the cycles that begin
after its return write the fault reset word as long as fewer than twenty have, and Shutdown then. -/
structure ResetsSurvive (index : Nat) (config : ResetConfig) : Prop where
  cycles_le : config.state.cycles ≤ 20
  written_eq : ∀ visit earlier, config.history = visit :: earlier →
    ∀ reset, written? index visit = some reset →
      ∀ serving, served index earlier = some serving → serving.fresh = true →
        reset = decide (serving.count < 20)

def requesting (state : ResetState) : Bool :=
  match state.api with
  | .requestStoreCycles _ => true
  | _ => false

/-- No cycle counts down a window that is closed, or that a request has opened for the axis without
this cycle having written the word to it, and none wipes the axis of an open window or of a request
that is about to open it. -/
def keepsWindow (index : Nat) (state : ResetState) : ResetAction → Bool
  | .job =>
      match state.job with
      | .fetchSub axis =>
          state.cycles != 0 &&
            (state.requesting || !Servo.resetAxisSelected state.axis index ||
              Servo.resetAxisSelected axis index)
      | .storeAxis _ =>
          !Servo.resetAxisSelected state.axis index || (state.cycles == 0 && !state.requesting)
      | _ => true
  | _ => true

end ResetState

end IghMaster
