import IghMaster.Lib.Transition
import IghMaster.Proof.RuntimeLatches

/-!
# The latch operations, one atomic access at a time

An API thread runs `releaseSafeOutput`, `requestSafeOutput` and `clearCommFault` while the Job
thread runs `latchCommFault`. A step is one load, store or exchange of one of the four flags; the
dwell and the trackers, which the operations touch in between, are no part of the flags.
-/

namespace IghMaster

structure LatchFlags where
  commFault : Bool
  safeOutputRequired : Bool
  motionReenableAllowed : Bool
  pendingDwellFault : Bool
  deriving DecidableEq

def IghMasterRuntime.latchFlags (runtime : IghMasterRuntime) : LatchFlags where
  commFault := runtime.commFault
  safeOutputRequired := runtime.safeOutputRequired
  motionReenableAllowed := runtime.motionReenableAllowed
  pendingDwellFault := runtime.pendingDwellFault

/-- The next access of the API thread. -/
inductive LatchApi where
  | idle
  | releaseLoadFault
  | releaseLoadReenable
  | releaseStoreSafe
  | requestExchangeSafe
  | requestStoreReenable
  | clearStoreFault
  | clearStoreSafe
  | clearStorePending
  | clearStoreReenable
  deriving DecidableEq

/-- The next store of the Job thread. -/
inductive LatchJob where
  | idle
  | storeFault
  | storeSafe
  | storeReenable
  | storePending
  deriving DecidableEq

structure LatchState where
  flags : LatchFlags
  api : LatchApi := .idle
  job : LatchJob := .idle
  deriving DecidableEq

/-- A call begins, or a thread makes its next access. -/
inductive LatchAction where
  | callRelease
  | callRequest
  | callClear
  | callLatch
  | api
  | job
  deriving DecidableEq

namespace LatchState

/-- A thread that is in a call takes no other. -/
def callApi (first : LatchApi) (state : LatchState) : LatchState :=
  if state.api = .idle then { state with api := first } else state

def callJob (state : LatchState) : LatchState :=
  if state.job = .idle then { state with job := .storeFault } else state

def apiStep (state : LatchState) : LatchState :=
  match state.api with
  | .idle => state
  | .releaseLoadFault =>
      if state.flags.commFault then { state with api := .idle }
      else { state with api := .releaseLoadReenable }
  | .releaseLoadReenable =>
      if state.flags.motionReenableAllowed then { state with api := .releaseStoreSafe }
      else { state with api := .idle }
  | .releaseStoreSafe =>
      { state with flags := { state.flags with safeOutputRequired := false }, api := .idle }
  | .requestExchangeSafe =>
      { state with
        flags := { state.flags with safeOutputRequired := true }
        api := if state.flags.safeOutputRequired then .idle else .requestStoreReenable }
  | .requestStoreReenable =>
      { state with flags := { state.flags with motionReenableAllowed := false }, api := .idle }
  | .clearStoreFault =>
      { state with flags := { state.flags with commFault := false }, api := .clearStoreSafe }
  | .clearStoreSafe =>
      { state with
        flags := { state.flags with safeOutputRequired := true }, api := .clearStorePending }
  | .clearStorePending =>
      { state with
        flags := { state.flags with pendingDwellFault := false }, api := .clearStoreReenable }
  | .clearStoreReenable =>
      { state with flags := { state.flags with motionReenableAllowed := false }, api := .idle }

def jobStep (state : LatchState) : LatchState :=
  match state.job with
  | .idle => state
  | .storeFault =>
      { state with flags := { state.flags with commFault := true }, job := .storeSafe }
  | .storeSafe =>
      { state with flags := { state.flags with safeOutputRequired := true }, job := .storeReenable }
  | .storeReenable =>
      { state with
        flags := { state.flags with motionReenableAllowed := false }, job := .storePending }
  | .storePending =>
      { state with flags := { state.flags with pendingDwellFault := true }, job := .idle }

def next (state : LatchState) : LatchAction → LatchState
  | .callRelease => state.callApi .releaseLoadFault
  | .callRequest => state.callApi .requestExchangeSafe
  | .callClear => state.callApi .clearStoreFault
  | .callLatch => state.callJob
  | .api => state.apiStep
  | .job => state.jobStep

def machine : Transition.Machine LatchState LatchAction where
  next := next

def quiescent (state : LatchState) : Bool := state.api = .idle && state.job = .idle

end LatchState

abbrev LatchConfig := Transition.Config LatchState LatchAction

end IghMaster
