import IghMaster.BackendHistory
import IghMaster.Proof.DriveSteps

/-!
# Executions on stale input data

Where the working counter is incomplete, the two monitors of the enable machine do nothing. The
sequences do not look at it: they advance whenever one runs and its wait is over, whatever the
working counter of the cycle.
-/

namespace IghMaster

open Transition

namespace EnableFsm

/-- An execution that wrote the word took no step. -/
structure Unmoved (fsm after : EnableFsm) (word : UInt16) : Prop where
  step_eq : after.step = fsm.step
  faultResetPhase_eq : after.faultResetPhase = fsm.faultResetPhase
  enableRequested_eq : after.enableRequested = fsm.enableRequested
  active_eq : after.active = fsm.active
  controlWordState_eq : after.controlWordState = fsm.controlWordState
  word_eq : word = fsm.controlWordState

/-- No fault reset is broken off, and no sequence runs or the one that runs waits. -/
def waits (hasFault : Bool) (fsm : EnableFsm) : Bool :=
  (fsm.faultResetPhase == 0 || (hasFault && fsm.desiredEnable)) &&
    (!fsm.running || (fsm.active && 0 < fsm.wait))

/-- The phases of the fault reset are numbered up to 2. -/
def Phased (fsm : EnableFsm) : Prop := fsm.faultResetPhase ≤ 2

theorem Prepared.phased {ctx : TxContext} {fsm prepared : EnableFsm}
    (hprepared : Prepared ctx fsm prepared) (hphased : fsm.Phased) : prepared.Phased := by
  cases hprepared with
  | quiet persist loss phase hphase =>
      change phase ≤ 2
      rcases hphase with rfl | ⟨rfl, -, -⟩
      · exact Nat.zero_le 2
      · exact hphased
  | faultTripped loss hfault hsupervised => exact Nat.zero_le 2
  | lossTripped persist hfault hsupervised => exact Nat.zero_le 2

/-- What an execution of the fault reset does to its phase: it goes round. -/
theorem faultResetPhase_faultResetStep (ctx : TxContext) (fsm : EnableFsm)
    (hphased : fsm.Phased) (hwait : fsm.wait = 0) :
    (faultResetStep ctx fsm).faultResetPhase = (fsm.faultResetPhase + 1) % 3 := by
  have hcases : fsm.faultResetPhase = 0 ∨ fsm.faultResetPhase = 1 ∨ fsm.faultResetPhase = 2 := by
    unfold Phased at hphased
    omega
  unfold faultResetStep
  rcases hcases with hphase | hphase | hphase
  · simp [hphase]
  · simp [hphase, hwait]
  · simp only [hphase, hwait, OfNat.ofNat_ne_zero, OfNat.ofNat_ne_one, if_false, if_true,
      Nat.lt_irrefl]
    split <;> rfl

theorem phased_advance {ctx : TxContext} {fsm : EnableFsm} (hphased : fsm.Phased) :
    (advance ctx fsm).Phased := by
  unfold advance
  split
  swap
  · exact hphased
  dsimp only
  split
  · exact hphased
  · rename_i hwait
    have hzero : fsm.wait = 0 := Nat.eq_zero_of_not_pos hwait
    split
    · have hround := faultResetPhase_faultResetStep ctx { fsm with active := true } hphased hzero
      unfold Phased
      rw [hround]
      omega
    · split
      · unfold enableStep
        split <;> exact hphased
      · unfold disableStep
        split <;> exact hphased

theorem phased_sendDataCommon {ctx : TxContext} {fsm : EnableFsm} (hplain : fsm.Plain)
    (hphased : fsm.Phased) : (fsm.sendDataCommon ctx).1.Phased := by
  have hstepped : (fsm.stepFsm ctx).Phased := by
    rw [stepFsm_eq_advance_prepare]
    exact phased_advance ((prepare_cases ctx hplain).phased hphased)
  simp only [sendDataCommon, recordControlWord_of_plain (stepFsm_plain ctx hplain)]
  exact hstepped

/-! ### One execution -/

/-- On stale data preparing only counts, and breaks off a fault reset that is not wanted. -/
theorem prepare_of_stale {ctx : TxContext} {fsm : EnableFsm} (hplain : fsm.Plain)
    (hstale : ctx.wcOk = false) :
    ∃ persist loss, prepare ctx fsm =
      { fsm with
        faultPersistCounter := persist
        monitorLossCounter := loss
        faultResetPhase :=
          if fsm.faultResetPhase != 0 && (!ctx.hasFault || !fsm.desiredEnable) then 0
          else fsm.faultResetPhase } := by
  have hpersist : ∃ persist, debounceFault ctx fsm = { fsm with faultPersistCounter := persist } := by
    unfold debounceFault
    rw [hstale, Bool.false_and, Bool.false_and, Bool.false_and, if_neg Bool.false_ne_true]
    split
    · exact ⟨0, rfl⟩
    · exact ⟨fsm.faultPersistCounter, rfl⟩
  obtain ⟨persist, hdebounce⟩ := hpersist
  have hloss : ∃ loss, monitorEnableLoss ctx { fsm with faultPersistCounter := persist } =
      { fsm with faultPersistCounter := persist, monitorLossCounter := loss } := by
    unfold monitorEnableLoss
    rw [hstale, Bool.false_and, Bool.false_and, if_neg Bool.false_ne_true]
    split
    · exact ⟨0, rfl⟩
    · exact ⟨fsm.monitorLossCounter, rfl⟩
  obtain ⟨loss, hmonitor⟩ := hloss
  refine ⟨persist, loss, ?_⟩
  unfold prepare
  rw [hdebounce, hmonitor,
    resumeAfterFaultReset_of_counter_eq_zero (by exact hplain.faultResetCounter_eq)]
  unfold clearFaultResetPhase
  split <;> rfl

/-- A machine that the last step of its sequence would leave as it is does not run. -/
theorem not_running_of_rested {fsm : EnableFsm} {enable : Bool} (hdesired : fsm.desiredEnable = enable)
    (hrequested : enable = fsm.enableRequested) (hactive : false = fsm.active) :
    fsm.running = false := by
  rw [running, hdesired, ← hrequested, ← hactive, bne_self_eq_false, Bool.or_false]

theorem advance_eq_self_iff (ctx : TxContext) (fsm : EnableFsm) (hphased : fsm.Phased) :
    ((advance ctx fsm).step = fsm.step ∧ (advance ctx fsm).faultResetPhase = fsm.faultResetPhase ∧
        (advance ctx fsm).enableRequested = fsm.enableRequested ∧
        (advance ctx fsm).active = fsm.active ∧
        (advance ctx fsm).controlWordState = fsm.controlWordState) ↔
      (!fsm.running || (fsm.active && 0 < fsm.wait)) = true := by
  have hadvanced := advance_cases ctx fsm
  generalize advance ctx fsm = after at hadvanced ⊢
  cases hadvanced with
  | rested hrunning =>
      rw [hrunning, Bool.not_false, Bool.true_or]
      exact iff_of_true ⟨rfl, rfl, rfl, rfl, rfl⟩ rfl
  | waited hrunning hwait =>
      rw [hrunning, decide_eq_true hwait, Bool.and_true, Bool.not_true, Bool.false_or]
      exact ⟨fun hsame => hsame.2.2.2.1.symm, fun hactive => ⟨rfl, rfl, rfl, hactive.symm, rfl⟩⟩
  | disabled hrunning hzero hdesired =>
      refine iff_of_false ?_ (by simp [hrunning, hzero])
      rintro ⟨hstep, -, hrequested, hactive, -⟩
      unfold disableStep at hstep hrequested hactive
      split at hstep
      · exact absurd hstep (Nat.succ_ne_self _)
      · rename_i hend
        rw [if_neg hend] at hrequested hactive
        have hidle := not_running_of_rested hdesired hrequested hactive
        exact absurd (hidle.symm.trans hrunning) Bool.false_ne_true
  | enabled hrunning hzero hdesired hfault =>
      refine iff_of_false ?_ (by simp [hrunning, hzero])
      rintro ⟨hstep, -, hrequested, hactive, -⟩
      unfold enableStep at hstep hrequested hactive
      split at hstep
      · exact absurd hstep (Nat.succ_ne_self _)
      · rename_i hend
        rw [if_neg hend] at hrequested hactive
        have hidle := not_running_of_rested hdesired hrequested hactive
        exact absurd (hidle.symm.trans hrunning) Bool.false_ne_true
  | faulted hrunning hzero hdesired hfault =>
      refine iff_of_false ?_ (by simp [hrunning, hzero])
      rintro ⟨-, hphase, -, -, -⟩
      rw [faultResetPhase_faultResetStep ctx { fsm with active := true } hphased hzero] at hphase
      unfold Phased at hphased
      dsimp only at hphase
      omega

/-- One execution on stale data takes no step just where the machine waits. -/
theorem unmoved_sendDataCommon_iff {ctx : TxContext} {fsm : EnableFsm} (hplain : fsm.Plain)
    (hphased : fsm.Phased) (hactivated : ctx.activated = true) (hstale : ctx.wcOk = false) :
    fsm.Unmoved (fsm.sendDataCommon ctx).1 (fsm.sendDataCommon ctx).2 ↔
      fsm.waits ctx.hasFault = true := by
  obtain ⟨persist, loss, hprepare⟩ := prepare_of_stale hplain hstale
  rw [sendDataCommon_of_plain ctx hplain hactivated, stepFsm_eq_advance_prepare, hprepare]
  by_cases hbroken : (fsm.faultResetPhase != 0 && (!ctx.hasFault || !fsm.desiredEnable)) = true
  · rw [if_pos hbroken]
    rw [← Bool.not_and, Bool.and_eq_true, bne_iff_ne, Bool.not_eq_true'] at hbroken
    obtain ⟨hphase, hquiet⟩ := hbroken
    have hwaits : fsm.waits ctx.hasFault = false := by
      simp [waits, hphase, hquiet]
    simp only [hwaits, Bool.false_eq_true, iff_false]
    intro hunmoved
    have hkept := hunmoved.faultResetPhase_eq
    dsimp only at hkept
    rw [faultResetPhase_advance (by exact hquiet)] at hkept
    exact hphase hkept.symm
  · rw [if_neg hbroken]
    have hfirst : (fsm.faultResetPhase == 0 || (ctx.hasFault && fsm.desiredEnable)) = true := by
      rw [← Bool.not_and, Bool.not_eq_true, ← Bool.not_eq_true', Bool.not_and, Bool.not_not] at hbroken
      simpa [bne] using hbroken
    rw [waits, hfirst, Bool.true_and]
    refine Iff.trans ?_ (advance_eq_self_iff ctx
      { fsm with faultPersistCounter := persist, monitorLossCounter := loss } hphased)
    constructor
    · intro hunmoved
      exact ⟨hunmoved.step_eq, hunmoved.faultResetPhase_eq, hunmoved.enableRequested_eq,
        hunmoved.active_eq, hunmoved.controlWordState_eq⟩
    · rintro ⟨hstep, hphase, hrequested, hactive, hword⟩
      exact ⟨hstep, hphase, hrequested, hactive, hword, hword⟩

end EnableFsm

namespace Axis

/-- `sendDataCommon` for an axis whose slave reports the status word, in a cycle whose domain has the
working counter state. -/
def executeWith (statusWord : UInt16) (wcState : WcState) (axis : Axis) : Axis :=
  ({ axis with input := { axis.input with statusWord := statusWord } } : Axis).sendDataCommon true
    (wcState == .complete)

end Axis

namespace Backend

/-- Whatever an action does to a motion axis, its fault reset stays in one of the phases. -/
theorem phased_driveStep {backend : Backend} {index : Nat} {action : BackendAction}
    {axis after : Axis} (hplain : axis.fsm.Plain) (hphased : axis.fsm.Phased)
    (hstep : DriveStep backend index action axis after) : after.fsm.Phased := by
  cases hstep with
  | kept after hsame hidle =>
      rw [hsame.fsm_eq]
      exact hphased
  | enabled motorId enable haction hstarts => exact hphased
  | modeChanged motorId mode haction hcovers =>
      unfold Axis.applyMode
      split
      · exact hphased
      · change axis.fsm.shutdownForModeChange.Phased
        unfold EnableFsm.shutdownForModeChange
        split <;> exact hphased
  | activated input positioned haction hinactive hsame =>
      change positioned.fsm.Phased
      rw [hsame.fsm_eq]
      exact hphased
  | safe input received haction hrunning hsafe hreceived =>
      have hsame := (sameDrive_inputAxis backend index input axis).fsm_eq
      subst hreceived
      change (EnableFsm.forceSafe _ _ (backend.inputAxis index input axis).fsm).Phased
      rw [hsame]
      cases backend.servo.safeOutputActive with
      | true => exact hphased
      | false => exact Nat.zero_le 2
  | sent input received haction hrunning hsafe hreceived =>
      have hsame := (sameDrive_inputAxis backend index input axis).fsm_eq
      subst hreceived
      change (EnableFsm.sendDataCommon _ (backend.inputAxis index input axis).fsm).1.Phased
      rw [hsame]
      exact EnableFsm.phased_sendDataCommon hplain hphased

theorem phased_exec (actions : List BackendAction) (index : Nat) :
    (machine.exec (Config.start {}) actions).state.Sound ∧
      (machine.exec (Config.start {}) actions).state.servo.MotionAt index
        fun axis => axis.fsm.Phased := by
  have hstart : (Config.start {} : BackendConfig).state.Sound ∧
      (Config.start {} : BackendConfig).state.servo.MotionAt index fun axis => axis.fsm.Phased :=
    ⟨sound_default, fun _ haxis => absurd haxis (by simp)⟩
  have hstep : ∀ (config : BackendConfig) (action : BackendAction),
      (config.state.Sound ∧ config.state.servo.MotionAt index fun axis => axis.fsm.Phased) →
        (machine.advance config action).state.Sound ∧
          (machine.advance config action).state.servo.MotionAt index
            fun axis => axis.fsm.Phased := by
    rintro config action ⟨hsound, hphased⟩
    refine ⟨hsound.next action, ?_⟩
    refine motionAt_next hsound.formed hphased (fun _ _ _ _ _ => Nat.zero_le 2) ?_
    intro axis haxis hmotion haxisPhased
    exact phased_driveStep (hsound.axes index axis haxis hmotion).plain haxisPhased
      (driveStep_axisNext config.state index action hmotion)
  exact machine.exec_invariant hstep actions hstart

/-- In every run an execution on stale data leaves the machine of a motion axis and its control word
just where the machine waits. -/
theorem unmoved_executeWith_iff (actions : List BackendAction) (index : Nat) (statusWord : UInt16)
    (wcState : WcState) (hstale : wcState ≠ .complete) {axis : Axis}
    (haxis : (machine.exec (Config.start {}) actions).state.servo.axes[index]? = some axis)
    (hmotion : axis.isMotion = true) :
    axis.fsm.Unmoved (axis.executeWith statusWord wcState).fsm
        (axis.executeWith statusWord wcState).output.controlWord ↔
      axis.fsm.waits (isCiA402Fault statusWord) = true := by
  obtain ⟨hsound, hphased⟩ := phased_exec actions index
  have hwcOk : (wcState == WcState.complete) = false := by
    rw [beq_eq_false_iff_ne]
    exact hstale
  let received : Axis := { axis with input := { axis.input with statusWord := statusWord } }
  exact EnableFsm.unmoved_sendDataCommon_iff (hsound.axes index axis haxis hmotion).plain
    (hphased axis haxis hmotion) (by rfl : (received.txContext true _).activated = true) hwcOk

def enabledStart : List BackendAction :=
  dwelledStart ++ [.releaseSafeOutput, .call (.setEnable 0 true)]

/-- Between two steps the drive stays where it is for want of a complete working counter. -/
theorem unmoved_enabledStart :
    ∃ axis, (machine.exec (Config.start {}) (enabledStart ++ [healthyJob 0])).state.servo.axes[0]? =
        some axis ∧
      axis.fsm.Unmoved (axis.executeWith 0x0250 .incomplete).fsm
        (axis.executeWith 0x0250 .incomplete).output.controlWord := by
  have hsome : ∃ axis,
      (machine.exec (Config.start {}) (enabledStart ++ [healthyJob 0])).state.servo.axes[0]? =
        some axis ∧ axis.isMotion = true ∧ axis.fsm.waits (isCiA402Fault 0x0250) = true := by
    decide +kernel
  obtain ⟨axis, haxis, hmotion, hwaits⟩ := hsome
  exact ⟨axis, haxis, (unmoved_executeWith_iff (enabledStart ++ [healthyJob 0]) 0 0x0250
    .incomplete (by decide) haxis hmotion).mpr hwaits⟩

/-- The first step of the enable sequence is taken without a single datagram answered. -/
theorem not_unmoved_enabledStart :
    ∃ axis, (machine.exec (Config.start {}) enabledStart).state.servo.axes[0]? = some axis ∧
      axis.isMotion = true ∧
      ¬ axis.fsm.Unmoved (axis.executeWith 0x0250 .zero).fsm
        (axis.executeWith 0x0250 .zero).output.controlWord := by
  have hsome : ∃ axis, (machine.exec (Config.start {}) enabledStart).state.servo.axes[0]? =
      some axis ∧ axis.isMotion = true ∧ (axis.executeWith 0x0250 .zero).fsm.step ≠ axis.fsm.step := by
    decide +kernel
  obtain ⟨axis, haxis, hmotion, hstep⟩ := hsome
  exact ⟨axis, haxis, hmotion, fun hunmoved => hstep hunmoved.step_eq⟩

end Backend

end IghMaster
