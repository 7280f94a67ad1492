import IghMaster.Cia402

/-!
# The enable machine of one axis

`EtherCATServo::sendDataCommon`: one execution supervises an enabled drive, resumes after a fault
reset, takes at most one step of the enable, disable or fault reset sequence and writes the control
word. The stages below follow the order of the source.
-/

namespace IghMaster

def stepDelayCycles : Nat := 10
def faultDebounceCycles : Nat := 5
def enableLossDebounceCycles : Nat := 50

structure EnableFsm where
  enableRequested : Bool := false
  desiredEnable : Bool := false
  active : Bool := false
  step : Nat := 0
  wait : Nat := 0
  controlWordState : UInt16 := controlWordSwitchOn
  faultResetCounter : Nat := 0
  faultResetPhase : Nat := 0
  monitorLossCounter : Nat := 0
  faultPersistCounter : Nat := 0
  pendingControlWord : UInt16 := controlWordSwitchOn
  lastWrittenControlWord : UInt16 := controlWordSwitchOn
  controlWordWritePending : Bool := false
  deriving DecidableEq

/-- What one execution reads besides the machine itself. -/
structure TxContext where
  activated : Bool
  wcOk : Bool
  statusWord : UInt16
  faultResetCw : FaultResetWord
  deriving DecidableEq

namespace TxContext

def hasFault (ctx : TxContext) : Bool := isCiA402Fault ctx.statusWord

def isOperationEnabled (ctx : TxContext) : Bool := isCiA402OperationEnabled ctx.statusWord

end TxContext

namespace EnableFsm

def supervised (fsm : EnableFsm) : Bool :=
  fsm.desiredEnable && fsm.enableRequested && !fsm.active && fsm.faultResetCounter == 0

/-- A fault that persists starts the fault reset sequence. -/
def debounceFault (ctx : TxContext) (fsm : EnableFsm) : EnableFsm :=
  if ctx.wcOk && ctx.hasFault && fsm.supervised && fsm.faultResetPhase == 0 then
    let persist := fsm.faultPersistCounter + 1
    if faultDebounceCycles ≤ persist then
      { fsm with faultPersistCounter := 0, active := true, enableRequested := false }
    else
      { fsm with faultPersistCounter := persist }
  else if !ctx.hasFault then
    { fsm with faultPersistCounter := 0 }
  else
    fsm

/-- Leaving operation enabled without a fault restarts the enable sequence. -/
def monitorEnableLoss (ctx : TxContext) (fsm : EnableFsm) : EnableFsm :=
  if ctx.wcOk && fsm.supervised && !ctx.hasFault then
    let loss := if ctx.isOperationEnabled then 0 else fsm.monitorLossCounter + 1
    if enableLossDebounceCycles ≤ loss then
      { fsm with
        monitorLossCounter := 0
        active := true
        step := 0
        wait := 0
        controlWordState := controlWordSwitchOn
        enableRequested := false }
    else
      { fsm with monitorLossCounter := loss }
  else if ctx.isOperationEnabled || ctx.hasFault then
    { fsm with monitorLossCounter := 0 }
  else
    fsm

def resumeAfterFaultReset (fsm : EnableFsm) : EnableFsm :=
  if 0 < fsm.faultResetCounter then
    let counted := { fsm with faultResetCounter := fsm.faultResetCounter - 1 }
    if counted.faultResetCounter == 0 && counted.desiredEnable then
      { counted with
        active := true, step := 0, wait := 0, controlWordState := controlWordSwitchOn }
    else
      counted
  else
    fsm

def clearFaultResetPhase (ctx : TxContext) (fsm : EnableFsm) : EnableFsm :=
  if fsm.faultResetPhase != 0 && (!ctx.hasFault || !fsm.desiredEnable) then
    { fsm with faultResetPhase := 0 }
  else
    fsm

/-- The fault reset pulse: the reset word for a step, then Shutdown, then look at the fault bit
again. Reached only with an expired wait, which the phases test a second time. -/
def faultResetStep (ctx : TxContext) (fsm : EnableFsm) : EnableFsm :=
  if fsm.faultResetPhase = 0 then
    { fsm with
      controlWordState := ctx.faultResetCw.value
      faultResetPhase := 1
      wait := stepDelayCycles
      step := 0
      enableRequested := false }
  else if fsm.faultResetPhase = 1 then
    let resetting := { fsm with controlWordState := ctx.faultResetCw.value }
    if 0 < resetting.wait then { resetting with wait := resetting.wait - 1 }
    else { resetting with faultResetPhase := 2, wait := stepDelayCycles }
  else if fsm.faultResetPhase = 2 then
    let released := { fsm with controlWordState := controlWordSwitchOn }
    if 0 < released.wait then { released with wait := released.wait - 1 }
    else if !isCiA402Fault ctx.statusWord then
      { released with faultResetCounter := 1, faultResetPhase := 0 }
    else
      { released with faultResetPhase := 0, wait := 0 }
  else
    fsm

def enableStep (fsm : EnableFsm) : EnableFsm :=
  if fsm.step < 4 then
    { fsm with
      controlWordState := cia402EnableSequence fsm.step
      step := fsm.step + 1
      wait := stepDelayCycles }
  else
    { fsm with
      enableRequested := true, active := false, step := 0, wait := 0, faultResetCounter := 0 }

def disableStep (fsm : EnableFsm) : EnableFsm :=
  if fsm.step < 4 then
    { fsm with
      controlWordState := cia402DisableSequence fsm.step
      step := fsm.step + 1
      wait := stepDelayCycles }
  else
    { fsm with
      enableRequested := false, active := false, step := 0, wait := 0, faultResetCounter := 0 }

def running (fsm : EnableFsm) : Bool :=
  fsm.desiredEnable != fsm.enableRequested || fsm.active

def advance (ctx : TxContext) (fsm : EnableFsm) : EnableFsm :=
  if fsm.running then
    let fsm := { fsm with active := true }
    if 0 < fsm.wait then { fsm with wait := fsm.wait - 1 }
    else if ctx.hasFault && fsm.desiredEnable then faultResetStep ctx fsm
    else if fsm.desiredEnable then enableStep fsm
    else disableStep fsm
  else
    fsm

def stepFsm (ctx : TxContext) (fsm : EnableFsm) : EnableFsm :=
  advance ctx (clearFaultResetPhase ctx (resumeAfterFaultReset
    (monitorEnableLoss ctx (debounceFault ctx fsm))))

/-- A pending control word that differs from the state goes first. -/
def usesPendingControlWord (fsm : EnableFsm) : Bool :=
  fsm.controlWordWritePending && fsm.pendingControlWord != fsm.controlWordState

def controlWordToWrite (ctx : TxContext) (fsm : EnableFsm) : UInt16 :=
  if fsm.usesPendingControlWord then fsm.pendingControlWord
  else if ctx.activated then fsm.controlWordState
  else controlWordSwitchOn

def recordControlWord (ctx : TxContext) (fsm : EnableFsm) : EnableFsm :=
  let written := fsm.controlWordToWrite ctx
  { fsm with
    controlWordState :=
      if fsm.usesPendingControlWord then fsm.pendingControlWord else fsm.controlWordState
    lastWrittenControlWord := written
    controlWordWritePending :=
      fsm.controlWordWritePending && written != fsm.pendingControlWord }

/-- The machine after one execution and the control word it wrote. -/
def sendDataCommon (ctx : TxContext) (fsm : EnableFsm) : EnableFsm × UInt16 :=
  let stepped := fsm.stepFsm ctx
  (stepped.recordControlWord ctx, stepped.controlWordToWrite ctx)

def startEnable (enable : Bool) (fsm : EnableFsm) : EnableFsm :=
  { fsm with desiredEnable := enable, active := true, step := 0, wait := 0 }

def shutdownForModeChange (fsm : EnableFsm) : EnableFsm :=
  if fsm.enableRequested then fsm
  else
    { fsm with
      controlWordState := controlWordSwitchOn, pendingControlWord := controlWordSwitchOn }

def forceSafe (entering : Bool) (safeControlWord : UInt16) (fsm : EnableFsm) : EnableFsm :=
  let cleared :=
    if entering then { fsm with faultResetPhase := 0, faultResetCounter := 0, step := 0, wait := 0 }
    else fsm
  { cleared with
    desiredEnable := false
    active := false
    enableRequested := false
    controlWordState := safeControlWord }

end EnableFsm

end IghMaster
