import IghMaster.Lib.Window
import IghMaster.Proof.EnableRuns

/-!
# The debounce of the two monitors

An idle enabled axis is restarted by a fault that persists or by a loss of operation enabled. The
counters behind this are cleared by some executions, kept by others and advanced by the monitored
ones; what they count over a run is bounded by the monitored executions of an unbroken window. The
loss counter outlives the enabled state it was counted in, so a run must not end an enable sequence
on a count that is left over.
-/

namespace IghMaster

open Transition Window

namespace EnableFsm

variable {ctx : TxContext} {fsm : EnableFsm}

/-- The axis is enabled, is to be enabled, and no sequence runs. -/
def idleEnabled (fsm : EnableFsm) : Bool :=
  fsm.desiredEnable && fsm.enableRequested && !fsm.active

theorem Plain.supervised_eq (hplain : fsm.Plain) : fsm.supervised = fsm.idleEnabled := by
  rw [supervised, hplain.faultResetCounter_eq]
  exact Bool.and_true _

/-- The execution takes the last step of the enable sequence. -/
def completesEnable (ctx : TxContext) (fsm : EnableFsm) : Bool :=
  fsm.desiredEnable && !fsm.enableRequested && fsm.wait == 0 && decide (4 ≤ fsm.step) &&
    !ctx.hasFault

/-! ### What an execution does to the counters -/

theorem counters_faultResetStep (ctx : TxContext) (fsm : EnableFsm) :
    (faultResetStep ctx fsm).monitorLossCounter = fsm.monitorLossCounter ∧
      (faultResetStep ctx fsm).faultPersistCounter = fsm.faultPersistCounter := by
  unfold faultResetStep
  dsimp only
  split_ifs <;> exact ⟨rfl, rfl⟩

/-- Advancing a sequence leaves both counters alone. -/
theorem counters_advance (ctx : TxContext) (fsm : EnableFsm) :
    (advance ctx fsm).monitorLossCounter = fsm.monitorLossCounter ∧
      (advance ctx fsm).faultPersistCounter = fsm.faultPersistCounter := by
  have hadvanced := advance_cases ctx fsm
  generalize advance ctx fsm = after at hadvanced ⊢
  cases hadvanced with
  | rested hrunning => exact ⟨rfl, rfl⟩
  | waited hrunning hwait => exact ⟨rfl, rfl⟩
  | disabled hrunning hwait hdesired =>
      unfold disableStep
      split <;> exact ⟨rfl, rfl⟩
  | enabled hrunning hwait hdesired hfault =>
      unfold enableStep
      split <;> exact ⟨rfl, rfl⟩
  | faulted hrunning hwait hdesired hfault => exact counters_faultResetStep ctx _

theorem counters_prepare (ctx : TxContext) (fsm : EnableFsm) :
    (prepare ctx fsm).monitorLossCounter =
        (monitorEnableLoss ctx (debounceFault ctx fsm)).monitorLossCounter ∧
      (prepare ctx fsm).faultPersistCounter =
        (monitorEnableLoss ctx (debounceFault ctx fsm)).faultPersistCounter := by
  unfold prepare
  generalize monitorEnableLoss ctx (debounceFault ctx fsm) = monitored
  unfold clearFaultResetPhase resumeAfterFaultReset
  dsimp only
  split_ifs <;> exact ⟨rfl, rfl⟩

theorem monitorEnableLoss_faultPersistCounter (ctx : TxContext) (fsm : EnableFsm) :
    (monitorEnableLoss ctx fsm).faultPersistCounter = fsm.faultPersistCounter := by
  rcases monitorEnableLoss_cases ctx fsm with ⟨loss, hloss⟩ | ⟨-, -, hloss⟩ <;> rw [hloss]

/-- Over an execution the counters are those the monitors leave. -/
theorem counters_sendDataCommon (ctx : TxContext) (fsm : EnableFsm) :
    (fsm.sendDataCommon ctx).1.monitorLossCounter =
        (monitorEnableLoss ctx (debounceFault ctx fsm)).monitorLossCounter ∧
      (fsm.sendDataCommon ctx).1.faultPersistCounter =
        (debounceFault ctx fsm).faultPersistCounter := by
  have hadvanced := counters_advance ctx (prepare ctx fsm)
  have hprepared := counters_prepare ctx fsm
  constructor
  · exact hadvanced.1.trans hprepared.1
  · exact hadvanced.2.trans (hprepared.2.trans (monitorEnableLoss_faultPersistCounter _ _))

theorem debounceFault_of_no_fault (hfault : ctx.hasFault = false) (fsm : EnableFsm) :
    debounceFault ctx fsm = { fsm with faultPersistCounter := 0 } := by
  simp [debounceFault, hfault]

/-- A status with operation enabled or a fault clears the loss counter, monitored or not. -/
theorem monitorLossCounter_of_seen (hseen : (ctx.isOperationEnabled || ctx.hasFault) = true)
    (fsm : EnableFsm) : (monitorEnableLoss ctx fsm).monitorLossCounter = 0 := by
  unfold monitorEnableLoss
  split
  · rename_i hcond
    simp only [Bool.and_eq_true, Bool.not_eq_true'] at hcond
    rw [hcond.2, Bool.or_false] at hseen
    rw [hseen]
    rfl
  · rfl

theorem monitorLossCounter_le (ctx : TxContext) (hplain : fsm.Plain) :
    (monitorEnableLoss ctx fsm).monitorLossCounter ≤
      fsm.monitorLossCounter + if ctx.wcOk && fsm.idleEnabled then 1 else 0 := by
  unfold monitorEnableLoss
  rw [hplain.supervised_eq]
  split
  · rename_i hcond
    rw [Bool.and_eq_true] at hcond
    rw [if_pos hcond.1]
    dsimp only
    split_ifs
    · exact Nat.zero_le _
    · exact Nat.zero_le _
    · exact Nat.zero_le _
    · exact Nat.le_refl _
  · split
    · exact Nat.zero_le _
    · exact Nat.le_add_right _ _

theorem monitorLossCounter_debounced_le (ctx : TxContext) (hplain : fsm.Plain) :
    (monitorEnableLoss ctx (debounceFault ctx fsm)).monitorLossCounter ≤
      fsm.monitorLossCounter + if ctx.wcOk && fsm.idleEnabled then 1 else 0 := by
  cases hfault : ctx.hasFault with
  | false =>
      rw [debounceFault_of_no_fault hfault]
      have hcleared : ({ fsm with faultPersistCounter := 0 } : EnableFsm).Plain :=
        ⟨hplain.faultResetCounter_eq, hplain.not_pending⟩
      exact monitorLossCounter_le ctx hcleared
  | true =>
      have hseen : (ctx.isOperationEnabled || ctx.hasFault) = true := by rw [hfault, Bool.or_true]
      rw [monitorLossCounter_of_seen hseen]
      exact Nat.zero_le _

theorem faultPersistCounter_le (ctx : TxContext) (hplain : fsm.Plain) :
    (debounceFault ctx fsm).faultPersistCounter ≤
      fsm.faultPersistCounter + if ctx.wcOk && fsm.idleEnabled then 1 else 0 := by
  unfold debounceFault
  rw [hplain.supervised_eq]
  split
  · rename_i hcond
    simp only [Bool.and_eq_true] at hcond
    dsimp only
    rw [hcond.1.1.1, hcond.1.2]
    split
    · exact Nat.zero_le _
    · exact Nat.le_refl _
  · split
    · exact Nat.zero_le _
    · exact Nat.le_add_right _ _

/-! ### What a restart of an idle enabled axis takes -/

theorem IdleEnabled.not_running (hidle : fsm.idleEnabled = true) : fsm.running = false := by
  simp only [idleEnabled, Bool.and_eq_true, Bool.not_eq_true'] at hidle
  simp [running, hidle]

/-- Where the monitors only count, an idle enabled machine stays idle. -/
theorem active_sendDataCommon_of_counted (hplain : fsm.Plain) (hidle : fsm.idleEnabled = true)
    {persist loss : Nat} (hmonitored : monitorEnableLoss ctx (debounceFault ctx fsm) =
      { fsm with faultPersistCounter := persist, monitorLossCounter := loss }) :
    (fsm.sendDataCommon ctx).1.active = false := by
  have hresume : resumeAfterFaultReset
      { fsm with faultPersistCounter := persist, monitorLossCounter := loss } =
        { fsm with faultPersistCounter := persist, monitorLossCounter := loss } :=
    resumeAfterFaultReset_of_counter_eq_zero hplain.faultResetCounter_eq
  obtain ⟨phase, hclear, -⟩ := clearFaultResetPhase_cases ctx
    { fsm with faultPersistCounter := persist, monitorLossCounter := loss }
  have hprepared : prepare ctx fsm =
      { fsm with
        faultPersistCounter := persist, monitorLossCounter := loss, faultResetPhase := phase } := by
    unfold prepare
    rw [hmonitored, hresume, hclear]
  have hrunning : (prepare ctx fsm).running = false := by
    rw [hprepared]
    exact IdleEnabled.not_running hidle
  have hstepped : fsm.stepFsm ctx = prepare ctx fsm := advance_of_not_running hrunning
  change (fsm.stepFsm ctx).active = false
  rw [hstepped, hprepared]
  simp only [idleEnabled, Bool.and_eq_true, Bool.not_eq_true'] at hidle
  exact hidle.2

/-- A restart without a fault ends a count of the loss monitor. -/
theorem loss_of_restart (hplain : fsm.Plain) (hidle : fsm.idleEnabled = true)
    (hfault : ctx.hasFault = false) (hactive : (fsm.sendDataCommon ctx).1.active = true) :
    ctx.wcOk = true ∧ ctx.isOperationEnabled = false ∧
      enableLossDebounceCycles ≤ fsm.monitorLossCounter + 1 := by
  by_contra hnot
  have hcounted : ∃ loss, monitorEnableLoss ctx (debounceFault ctx fsm) =
      { fsm with faultPersistCounter := 0, monitorLossCounter := loss } := by
    rw [debounceFault_of_no_fault hfault]
    unfold monitorEnableLoss
    split
    · rename_i hcond
      simp only [Bool.and_eq_true] at hcond
      dsimp only
      cases henabled : ctx.isOperationEnabled with
      | true => exact ⟨0, rfl⟩
      | false =>
          have hfew : ¬ enableLossDebounceCycles ≤ fsm.monitorLossCounter + 1 :=
            fun hle => hnot ⟨hcond.1.1, henabled, hle⟩
          rw [if_neg Bool.false_ne_true, if_neg hfew]
          exact ⟨_, rfl⟩
    · split
      · exact ⟨0, rfl⟩
      · exact ⟨fsm.monitorLossCounter, rfl⟩
  obtain ⟨loss, hmonitored⟩ := hcounted
  have hstill := active_sendDataCommon_of_counted hplain hidle hmonitored
  exact Bool.false_ne_true (hstill.symm.trans hactive)

/-- A restart with a fault ends a count of persisting faults. -/
theorem persist_of_restart (hplain : fsm.Plain) (hidle : fsm.idleEnabled = true)
    (hfault : ctx.hasFault = true) (hactive : (fsm.sendDataCommon ctx).1.active = true) :
    ctx.wcOk = true ∧ faultDebounceCycles ≤ fsm.faultPersistCounter + 1 := by
  by_contra hnot
  have hcounted : ∃ persist,
      debounceFault ctx fsm = { fsm with faultPersistCounter := persist } := by
    unfold debounceFault
    split
    · rename_i hcond
      simp only [Bool.and_eq_true] at hcond
      have hfew : ¬ faultDebounceCycles ≤ fsm.faultPersistCounter + 1 :=
        fun hle => hnot ⟨hcond.1.1.1, hle⟩
      dsimp only
      rw [if_neg hfew]
      exact ⟨_, rfl⟩
    · split
      · exact ⟨0, rfl⟩
      · exact ⟨fsm.faultPersistCounter, rfl⟩
  obtain ⟨persist, hdebounced⟩ := hcounted
  have hmonitored : monitorEnableLoss ctx (debounceFault ctx fsm) =
      { fsm with faultPersistCounter := persist, monitorLossCounter := 0 } := by
    rw [hdebounced]
    simp [monitorEnableLoss, hfault]
  have hstill := active_sendDataCommon_of_counted hplain hidle hmonitored
  exact Bool.false_ne_true (hstill.symm.trans hactive)

/-! ### Ending an enable sequence -/

theorem enableRequested_faultResetStep (ctx : TxContext) (hrequested : fsm.enableRequested = false) :
    (faultResetStep ctx fsm).enableRequested = false := by
  unfold faultResetStep
  dsimp only
  split_ifs
  · rfl
  all_goals exact hrequested

theorem completesEnable_of_advance (hbefore : fsm.enableRequested = false)
    (hafter : (advance ctx fsm).enableRequested = true) : completesEnable ctx fsm = true := by
  have hnot : fsm.enableRequested ≠ true := by simp [hbefore]
  have hadvanced := advance_cases ctx fsm
  generalize advance ctx fsm = after at hadvanced hafter
  cases hadvanced with
  | rested hrunning => exact absurd hafter hnot
  | waited hrunning hwait => exact absurd hafter hnot
  | disabled hrunning hwait hdesired =>
      unfold disableStep at hafter
      split at hafter
      · exact absurd hafter hnot
      · exact absurd hafter Bool.false_ne_true
  | enabled hrunning hwait hdesired hfault =>
      unfold enableStep at hafter
      split at hafter
      · exact absurd hafter hnot
      · rename_i hlast
        have hstep : 4 ≤ fsm.step := Nat.le_of_not_lt hlast
        simp [completesEnable, hdesired, hbefore, hwait, hstep, hfault]
  | faulted hrunning hwait hdesired hfault =>
      have hstill : (faultResetStep ctx { fsm with active := true }).enableRequested = false :=
        enableRequested_faultResetStep ctx hbefore
      exact absurd (hstill.symm.trans hafter) Bool.false_ne_true

/-- Enabled operation is first demanded by the execution that completes the enable sequence. -/
theorem completesEnable_of_requested (hplain : fsm.Plain) (hbefore : fsm.enableRequested = false)
    (hafter : (fsm.sendDataCommon ctx).1.enableRequested = true) :
    completesEnable ctx fsm = true := by
  have hidle : fsm.supervised = false := by simp [supervised, hbefore]
  have hprepared := prepare_cases ctx hplain
  have hadvanced : (advance ctx (prepare ctx fsm)).enableRequested = true := hafter
  revert hprepared hadvanced
  generalize prepare ctx fsm = prepared
  intro hprepared hadvanced
  cases hprepared with
  | quiet persist loss phase hphase =>
      have hcompletes := completesEnable_of_advance (by exact hbefore) hadvanced
      exact hcompletes
  | faultTripped loss hfault hsupervised =>
      exact absurd (hidle.symm.trans hsupervised) Bool.false_ne_true
  | lossTripped persist hfault hsupervised =>
      exact absurd (hidle.symm.trans hsupervised) Bool.false_ne_true

end EnableFsm

namespace EnableMachine

/-! ### The executions of one axis in a run -/

/-- The machine of the axis and what its execution reads, where the visit executes it. -/
def execution (index : Nat) (visit : EnableVisit) : Option (EnableFsm × TxContext) :=
  match visit.action, visit.before.axes[index]? with
  | .sendData domain inputs, some axis =>
      if visit.before.ready && axis.isMotion then
        some (axis.fsm,
          (axis.receiveData (inputs index)).txContext true (domain.wcState == .complete))
      else none
  | _, _ => none

def monitored (index : Nat) (visit : EnableVisit) : Bool :=
  (execution index visit).any fun entry => entry.2.wcOk && entry.1.idleEnabled

def seesFault (index : Nat) (visit : EnableVisit) : Bool :=
  (execution index visit).any fun entry => entry.2.hasFault

def seesOperationEnabled (index : Nat) (visit : EnableVisit) : Bool :=
  (execution index visit).any fun entry => entry.2.isOperationEnabled

/-- The visit makes `enable_requested_` true. -/
def becomesRequested (index : Nat) (visit : EnableVisit) : Bool :=
  (visit.before.axes[index]?).any (fun axis => !axis.fsm.enableRequested) &&
    (visit.after.axes[index]?).any fun axis => axis.fsm.enableRequested

/-- The execution starts a sequence of an idle enabled axis. -/
def restarts (index : Nat) (visit : EnableVisit) : Bool :=
  (execution index visit).any (fun entry => entry.1.idleEnabled) &&
    (visit.after.axes[index]?).any fun axis => axis.fsm.active

/-- The visit breaks no window of the loss monitor. -/
def keepsLossWindow (index : Nat) (visit : EnableVisit) : Bool :=
  !seesOperationEnabled index visit && !seesFault index visit && !becomesRequested index visit

/-- The visit breaks no window of the fault monitor: it executes on a fault or not at all. -/
def keepsFaultWindow (index : Nat) (visit : EnableVisit) : Bool :=
  (execution index visit).all fun entry => entry.2.hasFault

/-- Whatever restarts an idle enabled axis was debounced: a restart of the enable sequence by fifty
monitored executions, a fault reset by five of them that saw the fault. -/
structure Debounced (index : Nat) (config : EnableConfig) : Prop where
  loss : ∀ visit earlier, config.history = visit :: earlier → restarts index visit = true →
    seesFault index visit = false →
      Counted (monitored index) (keepsLossWindow index) enableLossDebounceCycles config.history
  fault : ∀ visit earlier, config.history = visit :: earlier → restarts index visit = true →
    seesFault index visit = true →
      Counted (fun visit => monitored index visit && seesFault index visit)
        (keepsFaultWindow index) faultDebounceCycles config.history

/-- No execution that completes the enable sequence of the axis leaves a loss counted before. -/
def forgetsLoss (index : Nat) (servo : Servo) (action : EnableAction) : Bool :=
  (execution index (machine.visit servo action)).all fun entry =>
    !entry.1.completesEnable entry.2 || entry.1.monitorLossCounter == 0 ||
      entry.2.isOperationEnabled

variable {index : Nat} {servo : Servo} {action : EnableAction}

/-- What a visit does to a motion axis: an execution, or nothing that the monitors count. -/
inductive AxisStep (index : Nat) (servo : Servo) (action : EnableAction) (axis : Axis) : Axis → Prop
  | executed (after : Axis) (ctx : TxContext)
      (hexecution : execution index (machine.visit servo action) = some (axis.fsm, ctx))
      (hfsm : after.fsm = (axis.fsm.sendDataCommon ctx).1) :
      AxisStep index servo action axis after
  | kept (after : Axis) (hexecution : execution index (machine.visit servo action) = none)
      (hplain : axis.fsm.Plain → after.fsm.Plain)
      (hloss : after.fsm.monitorLossCounter = axis.fsm.monitorLossCounter)
      (hpersist : after.fsm.faultPersistCounter = axis.fsm.faultPersistCounter)
      (hrequested : axis.fsm.enableRequested = false → after.fsm.enableRequested = false) :
      AxisStep index servo action axis after

theorem axisStep_same (hexecution : execution index (machine.visit servo action) = none)
    (axis : Axis) : AxisStep index servo action axis axis :=
  .kept axis hexecution id rfl rfl id

theorem axisStep_applyMode (hexecution : execution index (machine.visit servo action) = none)
    (mode : OperationMode) (axis : Axis) :
    AxisStep index servo action axis (axis.applyMode mode) := by
  refine .kept _ hexecution (Axis.plain_applyMode mode) ?_ ?_ ?_
  all_goals
    unfold Axis.applyMode EnableFsm.shutdownForModeChange
    dsimp only
    split_ifs
  all_goals first | rfl | exact id

/-- The motion axis after a visit, in terms of the one before. -/
theorem exists_axisStep {after : Axis} (hafter : (next servo action).axes[index]? = some after)
    (hmotion : after.isMotion = true) :
    ∃ axis, servo.axes[index]? = some axis ∧ axis.isMotion = true ∧
      AxisStep index servo action axis after := by
  have hmapped : ∀ update : Axis → Axis,
      (next servo action).axes[index]? = servo.axes[index]?.map update →
      (∀ axis, (update axis).isMotion = axis.isMotion) →
      (∀ axis, servo.axes[index]? = some axis → axis.isMotion = true →
        AxisStep index servo action axis (update axis)) →
      ∃ axis, servo.axes[index]? = some axis ∧ axis.isMotion = true ∧
        AxisStep index servo action axis after := by
    intro update hmap hkeeps hstep
    rw [hmap, Option.map_eq_some_iff] at hafter
    obtain ⟨axis, haxis, rfl⟩ := hafter
    rw [hkeeps axis] at hmotion
    exact ⟨axis, haxis, hmotion, hstep axis haxis hmotion⟩
  cases action with
  | setEnable flags motorId enable =>
      refine hmapped _ (Servo.getElem?_setEnable flags motorId enable servo index)
        (fun axis => by split <;> rfl) fun axis _ _ => ?_
      split
      · exact .kept _ rfl (EnableFsm.startEnable_plain enable) rfl rfl id
      · exact axisStep_same rfl axis
  | setOperationMode motorId mode =>
      refine hmapped _ (Servo.getElem?_setOperationMode motorId mode servo index)
        (fun axis => by split <;> simp) fun axis _ _ => ?_
      split
      · exact axisStep_applyMode rfl mode axis
      · exact axisStep_same rfl axis
  | safeOutput safeOutputActive resetCycles resetAxis inputs =>
      obtain ⟨position, word, hmap⟩ := getElem?_safeCycle safeOutputActive resetCycles resetAxis
        inputs servo index
      refine hmapped _ hmap (fun axis => by split <;> rfl) fun axis _ _ => ?_
      split
      · refine .kept _ rfl (EnableFsm.forceSafe_plain _ _) ?_ ?_ fun _ => rfl
        · cases safeOutputActive <;> rfl
        · cases safeOutputActive <;> rfl
      · exact axisStep_same rfl axis
  | sendData domain inputs =>
      refine hmapped _ (Servo.getElem?_sendCycle inputs domain servo index)
        (fun axis => by split <;> rfl) fun axis haxis _ => ?_
      split
      · rename_i hsent
        refine .executed _
          ((axis.receiveData (inputs index)).txContext true (domain.wcState == .complete)) ?_ rfl
        simp [execution, haxis, hsent]
      · rename_i hskipped
        exact axisStep_same (by simp [execution, haxis, hskipped]) axis

/-- What the counters of an axis say about the visits behind it. -/
structure Tracked (index : Nat) (history : List EnableVisit) (axis : Axis) : Prop where
  plain : axis.fsm.Plain
  loss : Counted (monitored index) (keepsLossWindow index) axis.fsm.monitorLossCounter history
  fault : Counted (fun visit => monitored index visit && seesFault index visit)
    (keepsFaultWindow index) axis.fsm.faultPersistCounter history

theorem tracked_of_fresh {axis : Axis} (hfresh : axis.fsm = {}) : Tracked index [] axis := by
  refine ⟨?_, ?_, ?_⟩
  · rw [hfresh]
    exact EnableFsm.plain_default
  · rw [hfresh]
    exact counted_zero _ _ _
  · rw [hfresh]
    exact counted_zero _ _ _

theorem becomesRequested_eq {axis after : Axis} (haxis : servo.axes[index]? = some axis)
    (hafter : (next servo action).axes[index]? = some after) :
    becomesRequested index (machine.visit servo action) =
      (!axis.fsm.enableRequested && after.fsm.enableRequested) := by
  have hafter' : (machine.visit servo action).after.axes[index]? = some after := hafter
  rw [becomesRequested, Machine.visit_before, haxis, hafter', Option.any_some, Option.any_some]

section Executed

variable {fsm : EnableFsm} {ctx : TxContext}
  (hexecution : execution index (machine.visit servo action) = some (fsm, ctx))

include hexecution

theorem monitored_eq :
    monitored index (machine.visit servo action) = (ctx.wcOk && fsm.idleEnabled) := by
  rw [monitored, hexecution, Option.any_some]

theorem seesFault_eq : seesFault index (machine.visit servo action) = ctx.hasFault := by
  rw [seesFault, hexecution, Option.any_some]

theorem seesOperationEnabled_eq :
    seesOperationEnabled index (machine.visit servo action) = ctx.isOperationEnabled := by
  rw [seesOperationEnabled, hexecution, Option.any_some]

theorem keepsFaultWindow_eq :
    keepsFaultWindow index (machine.visit servo action) = ctx.hasFault := by
  rw [keepsFaultWindow, hexecution, Option.all_some]

/-- The fault counter after an execution that saw a fault. -/
theorem counted_fault {history : List EnableVisit} (hplain : fsm.Plain)
    (hfault : Counted (fun visit => monitored index visit && seesFault index visit)
      (keepsFaultWindow index) fsm.faultPersistCounter history) :
    Counted (fun visit => monitored index visit && seesFault index visit) (keepsFaultWindow index)
      (fsm.sendDataCommon ctx).1.faultPersistCounter (machine.visit servo action :: history) := by
  rw [(EnableFsm.counters_sendDataCommon ctx fsm).2]
  cases hseen : ctx.hasFault with
  | false =>
      rw [EnableFsm.debounceFault_of_no_fault hseen]
      exact counted_zero _ _ _
  | true =>
      have hkept := (keepsFaultWindow_eq hexecution).trans hseen
      refine (hfault.cons hkept).mono ?_
      rw [monitored_eq hexecution, seesFault_eq hexecution, hseen, Bool.and_true]
      exact EnableFsm.faultPersistCounter_le ctx hplain

/-- The loss counter after an execution, which ends no enable sequence on a count left over. -/
theorem counted_loss {history : List EnableVisit} (hplain : fsm.Plain)
    (hloss : Counted (monitored index) (keepsLossWindow index) fsm.monitorLossCounter history)
    (hforgets : forgetsLoss index servo action = true)
    (hbecomes : becomesRequested index (machine.visit servo action) =
      (!fsm.enableRequested && (fsm.sendDataCommon ctx).1.enableRequested)) :
    Counted (monitored index) (keepsLossWindow index)
      (fsm.sendDataCommon ctx).1.monitorLossCounter (machine.visit servo action :: history) := by
  rw [(EnableFsm.counters_sendDataCommon ctx fsm).1]
  have hdebounced := EnableFsm.monitorLossCounter_debounced_le ctx hplain
  cases hseen : ctx.isOperationEnabled || ctx.hasFault with
  | true =>
      rw [EnableFsm.monitorLossCounter_of_seen hseen]
      exact counted_zero _ _ _
  | false =>
      rw [Bool.or_eq_false_iff] at hseen
      cases hrequested : becomesRequested index (machine.visit servo action) with
      | false =>
          have hkept : keepsLossWindow index (machine.visit servo action) = true := by
            rw [keepsLossWindow, seesOperationEnabled_eq hexecution, seesFault_eq hexecution,
              hseen.1, hseen.2, hrequested]
            rfl
          refine (hloss.cons hkept).mono ?_
          rw [monitored_eq hexecution]
          exact hdebounced
      | true =>
          -- the execution completes the enable sequence, on a count of zero
          rw [hrequested, eq_comm, Bool.and_eq_true, Bool.not_eq_true'] at hbecomes
          have hcompletes := EnableFsm.completesEnable_of_requested hplain hbecomes.1 hbecomes.2
          rw [forgetsLoss, hexecution, Option.all_some, hcompletes, hseen.1, Bool.not_true,
            Bool.false_or, Bool.or_false, beq_iff_eq] at hforgets
          have hidle : fsm.idleEnabled = false := by
            simp [EnableFsm.idleEnabled, hbecomes.1]
          rw [hforgets, hidle, Bool.and_false, if_neg Bool.false_ne_true] at hdebounced
          exact (counted_zero _ _ _).mono hdebounced

end Executed

/-- What a visit that does not execute the axis leaves of its windows. -/
theorem Tracked.kept {history : List EnableVisit} {axis after : Axis}
    (htracked : Tracked index history axis)
    (hexecution : execution index (machine.visit servo action) = none)
    (hplain : axis.fsm.Plain → after.fsm.Plain)
    (hloss : after.fsm.monitorLossCounter = axis.fsm.monitorLossCounter)
    (hpersist : after.fsm.faultPersistCounter = axis.fsm.faultPersistCounter)
    (hbecomes : becomesRequested index (machine.visit servo action) = false) :
    Tracked index (machine.visit servo action :: history) after := by
  refine ⟨hplain htracked.plain, ?_, ?_⟩
  · have hkept : keepsLossWindow index (machine.visit servo action) = true := by
      rw [keepsLossWindow, seesOperationEnabled, seesFault, hexecution, hbecomes]
      rfl
    rw [hloss]
    exact (htracked.loss.cons hkept).mono (Nat.le_add_right _ _)
  · have hkept : keepsFaultWindow index (machine.visit servo action) = true := by
      rw [keepsFaultWindow, hexecution]
      rfl
    rw [hpersist]
    exact (htracked.fault.cons hkept).mono (Nat.le_add_right _ _)

theorem Tracked.next {history : List EnableVisit} {axis after : Axis}
    (htracked : Tracked index history axis) (haxis : servo.axes[index]? = some axis)
    (hafter : (EnableMachine.next servo action).axes[index]? = some after)
    (hstep : AxisStep index servo action axis after)
    (hforgets : forgetsLoss index servo action = true) :
    Tracked index (machine.visit servo action :: history) after := by
  have hbecomes := becomesRequested_eq haxis hafter
  cases hstep with
  | kept hexecution hplain hloss hpersist hrequested =>
      refine htracked.kept hexecution hplain hloss hpersist ?_
      rw [hbecomes]
      cases hbefore : axis.fsm.enableRequested with
      | false => rw [hrequested hbefore, Bool.and_false]
      | true => rw [Bool.not_true, Bool.false_and]
  | executed ctx hexecution hfsm =>
      rw [hfsm] at hbecomes
      refine ⟨?_, ?_, ?_⟩
      · rw [hfsm]
        exact EnableFsm.sendDataCommon_plain htracked.plain
      · rw [hfsm]
        exact counted_loss hexecution htracked.plain htracked.loss hforgets hbecomes
      · rw [hfsm]
        exact counted_fault hexecution htracked.plain htracked.fault

/-- Where a visit executes the axis, its machine makes the execution. -/
theorem exists_of_execution {fsm : EnableFsm} {ctx : TxContext}
    (hexecution : execution index (machine.visit servo action) = some (fsm, ctx)) :
    ∃ axis after, servo.axes[index]? = some axis ∧ axis.isMotion = true ∧ axis.fsm = fsm ∧
      (next servo action).axes[index]? = some after ∧ after.fsm = (fsm.sendDataCommon ctx).1 := by
  cases action with
  | sendData domain inputs =>
      have hmap := Servo.getElem?_sendCycle inputs domain servo index
      cases haxis : servo.axes[index]? with
      | none => simp [execution, haxis] at hexecution
      | some axis =>
          by_cases hsent : (servo.ready && axis.isMotion) = true
          · rw [haxis, Option.map_some, if_pos hsent] at hmap
            simp only [execution, Machine.visit_action, Machine.visit_before, haxis, hsent, if_true,
              Option.some.injEq, Prod.mk.injEq] at hexecution
            obtain ⟨rfl, rfl⟩ := hexecution
            rw [Bool.and_eq_true] at hsent
            exact ⟨axis, _, rfl, hsent.2, rfl, hmap, rfl⟩
          · simp [execution, haxis, hsent] at hexecution
  | _ => exact absurd hexecution (by simp [execution])

/-- A restart in terms of the machine that made the execution. -/
theorem exists_of_restarts (hrestarts : restarts index (machine.visit servo action) = true) :
    ∃ axis ctx, servo.axes[index]? = some axis ∧ axis.isMotion = true ∧
      execution index (machine.visit servo action) = some (axis.fsm, ctx) ∧
      axis.fsm.idleEnabled = true ∧ (axis.fsm.sendDataCommon ctx).1.active = true ∧
      becomesRequested index (machine.visit servo action) = false := by
  rw [restarts, Bool.and_eq_true, Option.any_eq_true, Option.any_eq_true] at hrestarts
  obtain ⟨⟨⟨fsm, ctx⟩, hexecution, hidle⟩, after, hafter, hactive⟩ := hrestarts
  obtain ⟨axis, sent, haxis, hmotion, rfl, hsent, hfsm⟩ := exists_of_execution hexecution
  obtain rfl : after = sent := Option.some.inj (hafter.symm.trans hsent)
  have hrequested : axis.fsm.enableRequested = true := by
    simp only [EnableFsm.idleEnabled, Bool.and_eq_true] at hidle
    exact hidle.1.2
  refine ⟨axis, ctx, haxis, hmotion, hexecution, hidle, hfsm ▸ hactive, ?_⟩
  rw [becomesRequested_eq haxis hsent, hrequested, Bool.not_true, Bool.false_and]

/-- The axis is tracked, and what restarted it in the last visit was debounced. -/
structure Supervised (index : Nat) (config : EnableConfig) : Prop where
  tracked : config.state.MotionAt index (Tracked index config.history)
  debounced : Debounced index config

theorem debounced_advance {config : EnableConfig}
    (htracked : config.state.MotionAt index (Tracked index config.history)) :
    Debounced index (machine.advance config action) := by
  constructor
  · intro visit earlier hhistory hrestarts hfault
    rw [Machine.advance_history] at hhistory ⊢
    obtain ⟨rfl, rfl⟩ := List.cons.inj hhistory
    obtain ⟨axis, ctx, haxis, hmotion, hexecution, hidle, hactive, hrequested⟩ :=
      exists_of_restarts hrestarts
    have haxisTracked := htracked axis haxis hmotion
    rw [seesFault_eq hexecution] at hfault
    obtain ⟨hwcOk, hlost, hcount⟩ :=
      EnableFsm.loss_of_restart haxisTracked.plain hidle hfault hactive
    have hkept : keepsLossWindow index (machine.visit config.state action) = true := by
      rw [keepsLossWindow, seesOperationEnabled_eq hexecution, seesFault_eq hexecution, hlost,
        hfault, hrequested]
      rfl
    refine (haxisTracked.loss.cons hkept).mono ?_
    rw [monitored_eq hexecution, hwcOk, hidle]
    exact hcount
  · intro visit earlier hhistory hrestarts hfault
    rw [Machine.advance_history] at hhistory ⊢
    obtain ⟨rfl, rfl⟩ := List.cons.inj hhistory
    obtain ⟨axis, ctx, haxis, hmotion, hexecution, hidle, hactive, -⟩ := exists_of_restarts hrestarts
    have haxisTracked := htracked axis haxis hmotion
    rw [seesFault_eq hexecution] at hfault
    obtain ⟨hwcOk, hcount⟩ := EnableFsm.persist_of_restart haxisTracked.plain hidle hfault hactive
    have hkept := (keepsFaultWindow_eq hexecution).trans hfault
    refine (haxisTracked.fault.cons hkept).mono ?_
    rw [monitored_eq hexecution, seesFault_eq hexecution, hwcOk, hidle, hfault]
    exact hcount

theorem Supervised.advance {config : EnableConfig} (hsupervised : Supervised index config)
    (hforgets : forgetsLoss index config.state action = true) :
    Supervised index (machine.advance config action) := by
  refine ⟨?_, debounced_advance hsupervised.tracked⟩
  intro after hafter hmotion
  have hnext : (next config.state action).axes[index]? = some after := hafter
  obtain ⟨axis, haxis, hdrive, hstep⟩ := exists_axisStep hnext hmotion
  exact (hsupervised.tracked axis haxis hdrive).next haxis hnext hstep hforgets

/-- In every run of a newly activated servo whose enable sequences end on no loss counted before,
whatever restarts an idle enabled axis was debounced. -/
theorem debounced_of_forgetsLoss (setup : ServoSetup) (index : Nat) (actions : List EnableAction)
    (hforgets : machine.Meets (fun config action => forgetsLoss index config.state action = true)
      (Config.start setup.servo) actions) :
    Debounced index (machine.exec (Config.start setup.servo) actions) := by
  have hstart : Supervised index (Config.start setup.servo) := by
    refine ⟨(fresh_setup setup index).imp fun _ => tracked_of_fresh, ?_, ?_⟩
    · exact fun visit earlier hhistory => absurd hhistory (by simp)
    · exact fun visit earlier hhistory => absurd hhistory (by simp)
  have hrun := machine.exec_invariant_of_meets
    (fun config action hsupervised hmet => Supervised.advance hsupervised hmet) hstart hforgets
  exact hrun.debounced

/-- A drive that never reports operation enabled loses it for fifty executions. -/
theorem debounced_after_loss :
    Debounced 0 (machine.exec (Config.start singleAxisSetup.servo)
      (.setEnable permissiveFlags 0 true ::
        List.replicate 95 (.sendData completeDomain fun _ => {}))) :=
  debounced_of_forgetsLoss singleAxisSetup 0 _ (by decide +kernel)

/-- Forty-nine losses are counted before the axis is disabled, one after it is enabled again. -/
def lossAcrossDisable : List EnableAction :=
  .setEnable permissiveFlags 0 true ::
    (List.replicate 94 (.sendData completeDomain fun _ => {}) ++
      .setEnable permissiveFlags 0 false ::
        (List.replicate 45 (.sendData completeDomain fun _ => {}) ++
          .setEnable permissiveFlags 0 true ::
            List.replicate 46 (.sendData completeDomain fun _ => {})))

theorem not_debounced :
    ¬ ∀ setup actions index,
      Debounced index (machine.exec (Config.start (ServoSetup.servo setup)) actions) := by
  intro hall
  have hdebounced := hall singleAxisSetup lossAcrossDisable 0
  have hcounted := (hdebounced.loss _ _ rfl (by decide +kernel) (by decide +kernel)).le_takeWhile
  exact absurd hcounted (by decide +kernel)

end EnableMachine

end IghMaster
