import IghMaster.EnableFsm
import IghMaster.Lib.Transition

/-!
# The enable machine, one atomic access at a time

One `setEnable(i, enable)` call against the executions of `sendDataCommon(i)` in the Job thread. The
two threads share the demand, the active flag, the step and the wait of the axis; a step of either
is one load, store or read-modify-write of one of these. What only the Job touches (the status word,
the control word, the result and the counters) moves with the access next to it.
-/

namespace IghMaster

/-- The next access of the call. -/
inductive EnableCall where
  | loadDesired
  | storeDesired
  | storeActive
  | storeStep
  | storeWait
  | returned
  deriving DecidableEq

/-- The next access of an execution, in the order of the source. The direction of a sequence is true
for enable. -/
inductive TxAccess where
  | idle
  | debounceDesired
  | debounceActive
  | debounceStore
  | monitorDesired
  | monitorActive
  | monitorStoreActive
  | monitorStoreStep
  | monitorStoreWait
  | resumeDesired
  | resumeStoreActive
  | resumeStoreStep
  | resumeStoreWait
  | phaseDesired
  | compareDesired
  | compareActive
  | storeActive
  | loadWait
  | decrementWait
  | faultDesired
  | faultStoreWait
  | faultStoreStep
  | faultLoadWait
  | faultDecrementWait
  | faultRearmWait
  | faultClearWait
  | direction
  | loadStep (enable : Bool)
  | indexStep (enable : Bool)
  | incrementStep (enable : Bool)
  | rearmWait
  | completeActive (enable : Bool)
  | completeStep
  | completeWait
  | write
  deriving DecidableEq

structure EnableAccessState where
  fsm : EnableFsm
  enable : Bool := false
  call : EnableCall := .loadDesired
  access : TxAccess := .idle
  ctx : TxContext
  written : UInt16 := 0
  deriving DecidableEq

inductive EnableAccessAction where
  | call
  | execute (ctx : TxContext)
  | access
  deriving DecidableEq

namespace EnableAccessState

/-- `fetch_sub` on a `uint16_t`. -/
def decrement (wait : Nat) : Nat := (wait + 0xFFFF) % 0x10000

/-- `fetch_add` on a `uint8_t`. -/
def increment (step : Nat) : Nat := (step + 1) % 0x100

def sequence (enable : Bool) (step : Nat) : UInt16 :=
  if enable then cia402EnableSequence step else cia402DisableSequence step

def goto (access : TxAccess) (fsm : EnableFsm) (state : EnableAccessState) : EnableAccessState :=
  { state with fsm := fsm, access := access }

def callStep (state : EnableAccessState) : EnableAccessState :=
  match state.call with
  | .loadDesired =>
      { state with
        call := if state.fsm.desiredEnable = state.enable then .returned else .storeDesired }
  | .storeDesired =>
      { state with fsm := { state.fsm with desiredEnable := state.enable }, call := .storeActive }
  | .storeActive => { state with fsm := { state.fsm with active := true }, call := .storeStep }
  | .storeStep => { state with fsm := { state.fsm with step := 0 }, call := .storeWait }
  | .storeWait => { state with fsm := { state.fsm with wait := 0 }, call := .returned }
  | .returned => state

def debounceStep (state : EnableAccessState) : EnableAccessState :=
  let fsm := state.fsm
  match state.access with
  | .debounceDesired =>
      if state.ctx.wcOk && state.ctx.hasFault && fsm.desiredEnable && fsm.enableRequested then
        state.goto .debounceActive fsm
      else if !state.ctx.hasFault then
        state.goto .monitorDesired { fsm with faultPersistCounter := 0 }
      else
        state.goto .monitorDesired fsm
  | .debounceActive =>
      if !fsm.active && fsm.faultResetPhase == 0 && fsm.faultResetCounter == 0 then
        if faultDebounceCycles ≤ fsm.faultPersistCounter + 1 then
          state.goto .debounceStore { fsm with faultPersistCounter := 0 }
        else
          state.goto .monitorDesired
            { fsm with faultPersistCounter := fsm.faultPersistCounter + 1 }
      else
        state.goto .monitorDesired fsm
  | _ => state.goto .monitorDesired { fsm with active := true, enableRequested := false }

/-- The loss monitor where its condition fails. -/
def forgetLoss (ctx : TxContext) (fsm : EnableFsm) : EnableFsm :=
  if ctx.isOperationEnabled || ctx.hasFault then { fsm with monitorLossCounter := 0 } else fsm

def monitorStep (state : EnableAccessState) : EnableAccessState :=
  let fsm := state.fsm
  match state.access with
  | .monitorDesired =>
      if state.ctx.wcOk && fsm.desiredEnable && fsm.enableRequested then
        state.goto .monitorActive fsm
      else
        state.goto .resumeDesired (forgetLoss state.ctx fsm)
  | .monitorActive =>
      if !fsm.active && fsm.faultResetCounter == 0 && !state.ctx.hasFault then
        let loss := if state.ctx.isOperationEnabled then 0 else fsm.monitorLossCounter + 1
        if enableLossDebounceCycles ≤ loss then
          state.goto .monitorStoreActive { fsm with monitorLossCounter := 0 }
        else
          state.goto .resumeDesired { fsm with monitorLossCounter := loss }
      else
        state.goto .resumeDesired (forgetLoss state.ctx fsm)
  | .monitorStoreActive => state.goto .monitorStoreStep { fsm with active := true }
  | .monitorStoreStep => state.goto .monitorStoreWait { fsm with step := 0 }
  | _ =>
      state.goto .resumeDesired
        { fsm with
          wait := 0, controlWordState := controlWordSwitchOn, enableRequested := false }

def resumeStep (state : EnableAccessState) : EnableAccessState :=
  let fsm := state.fsm
  match state.access with
  | .resumeDesired =>
      if 0 < fsm.faultResetCounter then
        let counted := { fsm with faultResetCounter := fsm.faultResetCounter - 1 }
        if counted.faultResetCounter == 0 && counted.desiredEnable then
          state.goto .resumeStoreActive counted
        else
          state.goto .phaseDesired counted
      else
        state.goto .phaseDesired fsm
  | .resumeStoreActive => state.goto .resumeStoreStep { fsm with active := true }
  | .resumeStoreStep => state.goto .resumeStoreWait { fsm with step := 0 }
  | _ => state.goto .phaseDesired { fsm with wait := 0, controlWordState := controlWordSwitchOn }

def faultStep (state : EnableAccessState) : EnableAccessState :=
  let fsm := state.fsm
  match state.access with
  | .faultDesired =>
      if state.ctx.hasFault && fsm.desiredEnable then
        if fsm.faultResetPhase = 0 then
          state.goto .faultStoreWait
            { fsm with controlWordState := state.ctx.faultResetCw.value, faultResetPhase := 1 }
        else if fsm.faultResetPhase = 1 then
          state.goto .faultLoadWait
            { fsm with controlWordState := state.ctx.faultResetCw.value }
        else if fsm.faultResetPhase = 2 then
          state.goto .faultLoadWait { fsm with controlWordState := controlWordSwitchOn }
        else
          state.goto .write fsm
      else
        state.goto .direction fsm
  | .faultStoreWait => state.goto .faultStoreStep { fsm with wait := stepDelayCycles }
  | .faultStoreStep => state.goto .write { fsm with step := 0, enableRequested := false }
  | .faultLoadWait =>
      if 0 < fsm.wait then state.goto .faultDecrementWait fsm
      else if fsm.faultResetPhase = 1 then
        state.goto .faultRearmWait { fsm with faultResetPhase := 2 }
      else if !isCiA402Fault state.ctx.statusWord then
        state.goto .write { fsm with faultResetCounter := 1, faultResetPhase := 0 }
      else
        state.goto .faultClearWait { fsm with faultResetPhase := 0 }
  | .faultDecrementWait => state.goto .write { fsm with wait := decrement fsm.wait }
  | .faultRearmWait => state.goto .write { fsm with wait := stepDelayCycles }
  | _ => state.goto .write { fsm with wait := 0 }

/-- One step of the sequence in the direction that was loaded. -/
def sequenceStep (state : EnableAccessState) : EnableAccessState :=
  let fsm := state.fsm
  match state.access with
  | .loadStep enable =>
      if fsm.step < 4 then state.goto (.indexStep enable) fsm
      else state.goto (.completeActive enable) fsm
  | .indexStep enable =>
      state.goto (.incrementStep enable) { fsm with controlWordState := sequence enable fsm.step }
  | .incrementStep _ => state.goto .rearmWait { fsm with step := increment fsm.step }
  | .rearmWait => state.goto .write { fsm with wait := stepDelayCycles }
  | .completeActive enable =>
      state.goto .completeStep { fsm with enableRequested := enable, active := false }
  | .completeStep => state.goto .completeWait { fsm with step := 0 }
  | _ => state.goto .write { fsm with wait := 0, faultResetCounter := 0 }

def accessStep (state : EnableAccessState) : EnableAccessState :=
  let fsm := state.fsm
  match state.access with
  | .idle => state
  | .debounceDesired | .debounceActive | .debounceStore => state.debounceStep
  | .monitorDesired | .monitorActive | .monitorStoreActive | .monitorStoreStep
  | .monitorStoreWait => state.monitorStep
  | .resumeDesired | .resumeStoreActive | .resumeStoreStep | .resumeStoreWait => state.resumeStep
  | .phaseDesired =>
      state.goto .compareDesired
        (if fsm.faultResetPhase != 0 && (!state.ctx.hasFault || !fsm.desiredEnable) then
          { fsm with faultResetPhase := 0 }
        else fsm)
  | .compareDesired =>
      if fsm.desiredEnable != fsm.enableRequested then state.goto .storeActive fsm
      else state.goto .compareActive fsm
  | .compareActive =>
      if fsm.active then state.goto .storeActive fsm else state.goto .write fsm
  | .storeActive => state.goto .loadWait { fsm with active := true }
  | .loadWait =>
      if 0 < fsm.wait then state.goto .decrementWait fsm else state.goto .faultDesired fsm
  | .decrementWait => state.goto .write { fsm with wait := decrement fsm.wait }
  | .faultDesired | .faultStoreWait | .faultStoreStep | .faultLoadWait | .faultDecrementWait
  | .faultRearmWait | .faultClearWait => state.faultStep
  | .direction => state.goto (.loadStep fsm.desiredEnable) fsm
  | .loadStep _ | .indexStep _ | .incrementStep _ | .rearmWait | .completeActive _
  | .completeStep | .completeWait => state.sequenceStep
  | .write =>
      { state with
        fsm := fsm.recordControlWord state.ctx
        written := fsm.controlWordToWrite state.ctx
        access := .idle }

def execute (ctx : TxContext) (state : EnableAccessState) : EnableAccessState :=
  if state.access = .idle then { state with ctx := ctx, access := .debounceDesired } else state

def next (state : EnableAccessState) : EnableAccessAction → EnableAccessState
  | .call => state.callStep
  | .execute ctx => state.execute ctx
  | .access => state.accessStep

def machine : Transition.Machine EnableAccessState EnableAccessAction where
  next := next

end EnableAccessState

abbrev EnableAccessConfig := Transition.Config EnableAccessState EnableAccessAction

end IghMaster
