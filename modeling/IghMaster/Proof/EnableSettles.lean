import IghMaster.Proof.EnableReach
import IghMaster.Proof.HeldPositions

/-!
# The enable machine settles

While the drive reports operation enabled, every execution of a running machine brings its sequence
closer to the end: a wait runs down, or a step is taken, and each of the four steps waits at most
ten executions. A machine that does not run has nothing left over. Both need that the machine was
stopped with its step and its wait at zero, which a safe cycle sees to when it begins.
-/

namespace IghMaster

open Transition

namespace EnableFsm

/-- Executions in a row, with nothing in between. -/
def executeAll (ctxs : List TxContext) (fsm : EnableFsm) : EnableFsm :=
  ctxs.foldl (fun fsm ctx => (fsm.sendDataCommon ctx).1) fsm

/-- The machine is idle with nothing left over, and as it was asked to be. -/
structure Settled (fsm : EnableFsm) : Prop where
  active_eq : fsm.active = false
  step_eq : fsm.step = 0
  wait_eq : fsm.wait = 0
  faultResetPhase_eq : fsm.faultResetPhase = 0
  faultResetCounter_eq : fsm.faultResetCounter = 0
  enableRequested_eq : fsm.enableRequested = fsm.desiredEnable

/-- What holds of a machine between two complete operations. -/
structure Timely (fsm : EnableFsm) : Prop where
  plain : fsm.Plain
  step_le : fsm.step ≤ 4
  wait_le : fsm.wait ≤ stepDelayCycles
  stopped : fsm.active = false → fsm.step = 0 ∧ fsm.wait = 0

theorem timely_default : Timely {} :=
  ⟨plain_default, Nat.zero_le 4, Nat.zero_le _, fun _ => ⟨rfl, rfl⟩⟩

/-- Reached by complete operations in any order, with what `safe_output_active_` holds then: a safe
cycle enters unless the cycle before it was safe and no call has left the safe output since. -/
inductive ReachedUnder : Bool → EnableFsm → Prop where
  | fresh (safeOutputActive : Bool) : ReachedUnder safeOutputActive {}
  | activate {safeOutputActive : Bool} {fsm : EnableFsm}
      (hfsm : ReachedUnder safeOutputActive fsm) : ReachedUnder safeOutputActive fsm.activate
  | startEnable {safeOutputActive : Bool} {fsm : EnableFsm} (enable : Bool)
      (hfsm : ReachedUnder safeOutputActive fsm) :
      ReachedUnder safeOutputActive (fsm.startEnable enable)
  | shutdownForModeChange {safeOutputActive : Bool} {fsm : EnableFsm}
      (hfsm : ReachedUnder safeOutputActive fsm) :
      ReachedUnder safeOutputActive fsm.shutdownForModeChange
  | forceSafe {safeOutputActive : Bool} {fsm : EnableFsm} (safeControlWord : UInt16)
      (hfsm : ReachedUnder safeOutputActive fsm) :
      ReachedUnder true (fsm.forceSafe (!safeOutputActive) safeControlWord)
  | leaveSafe {safeOutputActive : Bool} {fsm : EnableFsm}
      (hfsm : ReachedUnder safeOutputActive fsm) : ReachedUnder false fsm
  | sendDataCommon {safeOutputActive : Bool} {fsm : EnableFsm} (ctx : TxContext)
      (hfsm : ReachedUnder safeOutputActive fsm) : ReachedUnder false (fsm.sendDataCommon ctx).1

variable {fsm : EnableFsm} {ctx : TxContext}

/-! ### Complete operations -/

theorem Timely.startEnable (htimely : fsm.Timely) (enable : Bool) : (fsm.startEnable enable).Timely :=
  ⟨startEnable_plain enable htimely.plain, Nat.zero_le 4, Nat.zero_le _, fun _ => ⟨rfl, rfl⟩⟩

theorem Timely.shutdownForModeChange (htimely : fsm.Timely) : fsm.shutdownForModeChange.Timely := by
  have hplain := shutdownForModeChange_plain htimely.plain
  unfold EnableFsm.shutdownForModeChange at hplain ⊢
  split
  · exact htimely
  · exact ⟨⟨htimely.plain.faultResetCounter_eq, htimely.plain.not_pending⟩, htimely.step_le,
      htimely.wait_le, htimely.stopped⟩

/-- A safe cycle leaves nothing over, when it begins or where nothing was left over before. -/
theorem Timely.forceSafe (htimely : fsm.Timely) {entering : Bool} (word : UInt16)
    (hleft : entering = false → fsm.step = 0 ∧ fsm.wait = 0) :
    (fsm.forceSafe entering word).Timely ∧
      (fsm.forceSafe entering word).step = 0 ∧ (fsm.forceSafe entering word).wait = 0 := by
  have hplain := forceSafe_plain entering word htimely.plain
  cases entering with
  | true => exact ⟨⟨hplain, Nat.zero_le 4, Nat.zero_le _, fun _ => ⟨rfl, rfl⟩⟩, rfl, rfl⟩
  | false =>
      have hnothing := hleft rfl
      exact ⟨⟨hplain, htimely.step_le, htimely.wait_le, fun _ => hnothing⟩, hnothing⟩

theorem Prepared.timely {prepared : EnableFsm} (hprepared : Prepared ctx fsm prepared)
    (htimely : fsm.Timely) : prepared.Timely := by
  have hplain := hprepared.plain htimely.plain
  cases hprepared with
  | quiet persist loss phase hphase =>
      exact ⟨hplain, htimely.step_le, htimely.wait_le, htimely.stopped⟩
  | faultTripped loss hfault hsupervised =>
      exact ⟨hplain, htimely.step_le, htimely.wait_le, Bool.noConfusion⟩
  | lossTripped persist hfault hsupervised =>
      exact ⟨hplain, Nat.zero_le 4, Nat.zero_le _, Bool.noConfusion⟩

theorem Timely.faultResetStep (htimely : fsm.Timely) (hactive : fsm.active = true)
    (hfault : ctx.hasFault = true) : (EnableFsm.faultResetStep ctx fsm).Timely := by
  have hplain := faultResetStep_plain htimely.plain hfault
  have hstill : (EnableFsm.faultResetStep ctx fsm).active = true :=
    (active_faultResetStep ctx fsm).trans hactive
  have hless : fsm.wait - 1 ≤ stepDelayCycles := Nat.le_trans (Nat.sub_le _ _) htimely.wait_le
  have hbounds : (EnableFsm.faultResetStep ctx fsm).step ≤ 4 ∧
      (EnableFsm.faultResetStep ctx fsm).wait ≤ stepDelayCycles := by
    unfold EnableFsm.faultResetStep
    dsimp only
    split_ifs
    · exact ⟨Nat.zero_le 4, Nat.le_refl _⟩
    · exact ⟨htimely.step_le, hless⟩
    · exact ⟨htimely.step_le, Nat.le_refl _⟩
    · exact ⟨htimely.step_le, hless⟩
    · exact ⟨htimely.step_le, htimely.wait_le⟩
    · exact ⟨htimely.step_le, Nat.zero_le _⟩
    · exact ⟨htimely.step_le, htimely.wait_le⟩
  exact ⟨hplain, hbounds.1, hbounds.2, fun h => absurd (hstill.symm.trans h) Bool.noConfusion⟩

theorem Timely.enableStep (htimely : fsm.Timely) (hactive : fsm.active = true) :
    fsm.enableStep.Timely := by
  have hplain := enableStep_plain htimely.plain
  unfold EnableFsm.enableStep at hplain ⊢
  split
  · rename_i hstep
    rw [if_pos hstep] at hplain
    exact ⟨hplain, hstep, Nat.le_refl _, fun h => absurd (hactive.symm.trans h) Bool.noConfusion⟩
  · exact ⟨⟨rfl, htimely.plain.not_pending⟩, Nat.zero_le 4, Nat.zero_le _, fun _ => ⟨rfl, rfl⟩⟩

theorem Timely.disableStep (htimely : fsm.Timely) (hactive : fsm.active = true) :
    fsm.disableStep.Timely := by
  have hplain := disableStep_plain htimely.plain
  unfold EnableFsm.disableStep at hplain ⊢
  split
  · rename_i hstep
    rw [if_pos hstep] at hplain
    exact ⟨hplain, hstep, Nat.le_refl _, fun h => absurd (hactive.symm.trans h) Bool.noConfusion⟩
  · exact ⟨⟨rfl, htimely.plain.not_pending⟩, Nat.zero_le 4, Nat.zero_le _, fun _ => ⟨rfl, rfl⟩⟩

theorem Timely.activate (htimely : fsm.Timely) : ({ fsm with active := true } : EnableFsm).Timely :=
  ⟨⟨htimely.plain.faultResetCounter_eq, htimely.plain.not_pending⟩, htimely.step_le,
    htimely.wait_le, Bool.noConfusion⟩

theorem Timely.advance (htimely : fsm.Timely) : (EnableFsm.advance ctx fsm).Timely := by
  have hactive := htimely.activate
  have hadvanced := advance_cases ctx fsm
  generalize EnableFsm.advance ctx fsm = after at hadvanced ⊢
  cases hadvanced with
  | rested hrunning => exact htimely
  | waited hrunning hwait =>
      have hless : fsm.wait - 1 ≤ stepDelayCycles := Nat.le_trans (Nat.sub_le _ _) htimely.wait_le
      exact ⟨⟨htimely.plain.faultResetCounter_eq, htimely.plain.not_pending⟩, htimely.step_le, hless,
        Bool.noConfusion⟩
  | disabled hrunning hwait hdesired => exact hactive.disableStep rfl
  | enabled hrunning hwait hdesired hfault => exact hactive.enableStep rfl
  | faulted hrunning hwait hdesired hfault => exact hactive.faultResetStep rfl hfault

theorem Timely.stepFsm (htimely : fsm.Timely) (ctx : TxContext) : (fsm.stepFsm ctx).Timely := by
  rw [stepFsm_eq_advance_prepare]
  exact ((prepare_cases ctx htimely.plain).timely htimely).advance

theorem Timely.recordControlWord (htimely : fsm.Timely) (ctx : TxContext) :
    (fsm.recordControlWord ctx).Timely := by
  rw [recordControlWord_of_plain htimely.plain]
  exact ⟨⟨htimely.plain.faultResetCounter_eq, htimely.plain.not_pending⟩, htimely.step_le,
    htimely.wait_le, htimely.stopped⟩

theorem Timely.sendDataCommon (htimely : fsm.Timely) (ctx : TxContext) :
    (fsm.sendDataCommon ctx).1.Timely := (htimely.stepFsm ctx).recordControlWord ctx

/-- While safe cycles go on nothing is left over in the machine. -/
theorem ReachedUnder.timely {safeOutputActive : Bool} (hreached : fsm.ReachedUnder safeOutputActive) :
    fsm.Timely ∧ (safeOutputActive = true → fsm.step = 0 ∧ fsm.wait = 0) := by
  induction hreached with
  | fresh safeOutputActive => exact ⟨timely_default, fun _ => ⟨rfl, rfl⟩⟩
  | activate hfsm ih =>
      have hplain := ih.1.plain
      exact ⟨⟨⟨hplain.faultResetCounter_eq, hplain.not_pending⟩, ih.1.step_le, ih.1.wait_le,
        ih.1.stopped⟩, ih.2⟩
  | startEnable enable hfsm ih => exact ⟨ih.1.startEnable enable, fun _ => ⟨rfl, rfl⟩⟩
  | shutdownForModeChange hfsm ih =>
      refine ⟨ih.1.shutdownForModeChange, fun hactive => ?_⟩
      unfold EnableFsm.shutdownForModeChange
      split
      · exact ih.2 hactive
      · exact ih.2 hactive
  | forceSafe word hfsm ih =>
      have hforced := ih.1.forceSafe word fun h => ih.2 (by rwa [Bool.not_eq_false'] at h)
      exact ⟨hforced.1, fun _ => hforced.2⟩
  | leaveSafe hfsm ih => exact ⟨ih.1, fun h => absurd h Bool.false_ne_true⟩
  | sendDataCommon ctx hfsm ih =>
      exact ⟨ih.1.sendDataCommon ctx, fun h => absurd h Bool.false_ne_true⟩

/-- The safe output may have been left in between. -/
theorem ReachedUnder.of_imp {before after : Bool} (hreached : fsm.ReachedUnder before)
    (himp : after = true → before = true) : fsm.ReachedUnder after := by
  cases after with
  | false => exact hreached.leaveSafe
  | true =>
      obtain rfl := himp rfl
      exact hreached

/-! ### Executions that see the drive operation enabled -/

theorem hasFault_of_operationEnabled (henabled : ctx.isOperationEnabled = true) :
    ctx.hasFault = false := by
  unfold TxContext.isOperationEnabled isCiA402OperationEnabled at henabled
  rw [Bool.and_eq_true] at henabled
  unfold TxContext.hasFault isCiA402Fault
  rw [bne, henabled.1, Bool.not_true]

/-- Such an execution forgets what the monitors have counted and an unfinished fault reset. -/
theorem prepare_of_operationEnabled (henabled : ctx.isOperationEnabled = true)
    (hplain : fsm.Plain) :
    prepare ctx fsm =
      { fsm with faultPersistCounter := 0, monitorLossCounter := 0, faultResetPhase := 0 } := by
  have hfault := hasFault_of_operationEnabled henabled
  have hdebounce : debounceFault ctx fsm = { fsm with faultPersistCounter := 0 } := by
    simp [debounceFault, hfault]
  have hmonitor : ∀ debounced : EnableFsm,
      monitorEnableLoss ctx debounced = { debounced with monitorLossCounter := 0 } := by
    intro debounced
    unfold monitorEnableLoss
    rw [henabled, Bool.true_or, if_pos rfl]
    dsimp only
    split
    · rw [if_neg (by decide)]
    · rfl
  have hclear : ∀ monitored : EnableFsm,
      clearFaultResetPhase ctx monitored = { monitored with faultResetPhase := 0 } := by
    intro monitored
    unfold clearFaultResetPhase
    rw [hfault, Bool.not_false, Bool.true_or, Bool.and_true]
    split
    · rfl
    · rename_i hphase
      have hzero : monitored.faultResetPhase = 0 := by simpa using hphase
      rw [← hzero]
  have hresume : resumeAfterFaultReset
      { fsm with faultPersistCounter := 0, monitorLossCounter := 0 } =
        { fsm with faultPersistCounter := 0, monitorLossCounter := 0 } :=
    resumeAfterFaultReset_of_counter_eq_zero hplain.faultResetCounter_eq
  unfold prepare
  rw [hdebounce, hmonitor, hresume, hclear]

/-- What one such execution does. -/
theorem sendDataCommon_of_operationEnabled (htimely : fsm.Timely)
    (henabled : ctx.isOperationEnabled = true) :
    (fsm.sendDataCommon ctx).1.remaining = fsm.remaining - 1 ∧
      (fsm.sendDataCommon ctx).1.faultResetPhase = 0 := by
  have hfault := hasFault_of_operationEnabled henabled
  have hprepared := prepare_of_operationEnabled henabled htimely.plain
  have hsent : (fsm.sendDataCommon ctx).1 = (fsm.stepFsm ctx).recordControlWord ctx := rfl
  rw [hsent, recordControlWord_of_plain (htimely.stepFsm ctx).plain, stepFsm_eq_advance_prepare,
    hprepared]
  have hreset : (ctx.hasFault && fsm.desiredEnable) = false := by rw [hfault, Bool.false_and]
  constructor
  · exact remaining_advance hreset (by exact htimely.step_le)
  · exact faultResetPhase_advance hreset

variable {ctxs : List TxContext}

theorem executeAll_of_operationEnabled (henabled : ∀ ctx ∈ ctxs, ctx.isOperationEnabled = true)
    (htimely : fsm.Timely) :
    (fsm.executeAll ctxs).Timely ∧ (fsm.executeAll ctxs).remaining = fsm.remaining - ctxs.length ∧
      (ctxs = [] ∨ (fsm.executeAll ctxs).faultResetPhase = 0) := by
  induction ctxs using List.reverseRecOn with
  | nil => exact ⟨htimely, rfl, Or.inl rfl⟩
  | append_singleton ctxs ctx ih =>
      rw [List.forall_mem_append, List.forall_mem_singleton] at henabled
      obtain ⟨hbefore, hremaining, -⟩ := ih henabled.1
      have hlast : fsm.executeAll (ctxs ++ [ctx]) =
          ((fsm.executeAll ctxs).sendDataCommon ctx).1 := by
        rw [executeAll, List.foldl_append]
        rfl
      have hexecuted := sendDataCommon_of_operationEnabled hbefore henabled.2
      rw [hlast]
      refine ⟨hbefore.sendDataCommon ctx, ?_, Or.inr hexecuted.2⟩
      rw [hexecuted.1, hremaining, List.length_append, List.length_singleton, Nat.sub_sub]

theorem Timely.settled (htimely : fsm.Timely) (hremaining : fsm.remaining = 0)
    (hphase : fsm.faultResetPhase = 0) : fsm.Settled := by
  have hrest : fsm.running = false := by
    by_contra hrunning
    rw [remaining_of_running (by simpa using hrunning)] at hremaining
    omega
  unfold running at hrest
  rw [Bool.or_eq_false_iff, bne_eq_false_iff_eq] at hrest
  have hnothing := htimely.stopped hrest.2
  exact ⟨hrest.2, hnothing.1, hnothing.2, hphase, htimely.plain.faultResetCounter_eq, hrest.1.symm⟩

/-- Fifty-five executions that see the drive operation enabled, or more, settle the machine. -/
theorem Timely.settled_executeAll (htimely : fsm.Timely)
    (henabled : ∀ ctx ∈ ctxs, ctx.isOperationEnabled = true) (hlength : 55 ≤ ctxs.length) :
    (fsm.executeAll ctxs).Settled := by
  obtain ⟨hafter, hremaining, hphase⟩ := executeAll_of_operationEnabled henabled htimely
  have hbound := remaining_le htimely.wait_le
  refine hafter.settled (by omega) (hphase.resolve_left ?_)
  rintro rfl
  exact absurd hlength (by decide)

/-- The enable machine comes to rest within fifty-five executions that see the drive operation
enabled, whatever complete operations came before them, and stays at rest under more of them. -/
theorem settles_of_reachedUnder {safeOutputActive : Bool}
    (hreached : fsm.ReachedUnder safeOutputActive)
    (henabled : ∀ ctx ∈ ctxs, ctx.isOperationEnabled = true) (hlength : 55 ≤ ctxs.length) :
    (fsm.executeAll ctxs).Settled :=
  hreached.timely.1.settled_executeAll henabled hlength

/-- A fault reset under way when the drive recovers: the longest way to rest. -/
theorem settles_afterFaultReset :
    let fault : TxContext :=
      { activated := true, wcOk := true, statusWord := 0x0008, faultResetCw := controlWordFaultReset }
    let enabled : TxContext := { fault with statusWord := 0x1237 }
    let fsm := ((({} : EnableFsm).startEnable true).sendDataCommon fault).1
    fsm.faultResetPhase = 1 ∧ (fsm.executeAll (List.replicate 55 enabled)).Settled := by
  intro fault enabled fsm
  refine ⟨by decide, settles_of_reachedUnder
    (((ReachedUnder.fresh false).startEnable true).sendDataCommon fault) ?_ ?_⟩
  · intro ctx hctx
    rw [List.eq_of_mem_replicate hctx]
    decide
  · rw [List.length_replicate]

end EnableFsm

/-! ### Runs of a backend -/

namespace Backend

theorem safeOutputActive_next_job {backend : Backend} (hformed : backend.Formed) (input : JobInput)
    (hrunning : backend.runtime.jobRunning = true) :
    (next backend (.job input)).servo.safeOutputActive = backend.cycleIsSafe input := by
  change (backend.jobCycle input).servo.safeOutputActive = backend.cycleIsSafe input
  have hbare := bare_jobCycle hformed input hrunning
  rw [Servo.field_of_bare Servo.safeOutputActive (fun _ => rfl) hbare, cycleServo]
  cases hsafe : backend.cycleIsSafe input with
  | true => rw [if_pos rfl]
  | false => rw [if_neg Bool.false_ne_true]

theorem reachedUnder_driveStep {backend : Backend} (hformed : backend.Formed) {index : Nat}
    {action : BackendAction} {axis after : Axis}
    (hreached : axis.fsm.ReachedUnder backend.servo.safeOutputActive)
    (hstep : DriveStep backend index action axis after) :
    after.fsm.ReachedUnder (next backend action).servo.safeOutputActive := by
  -- only a Job cycle turns the safe output on
  have hother : (∀ input, action ≠ .job input) →
      (next backend action).servo.safeOutputActive = true → backend.servo.safeOutputActive = true :=
    fun hother hactive => safeOutputActive_next hother hactive
  cases hstep with
  | kept after hsame hidle =>
      rw [hsame.fsm_eq]
      refine hreached.of_imp fun hactive => ?_
      by_cases hjob : ∃ input, action = .job input
      · obtain ⟨input, rfl⟩ := hjob
        have hstill : next backend (.job input) = backend :=
          jobCycle_of_not_running input (hidle input rfl)
        exact (congrArg (·.servo.safeOutputActive) hstill).symm.trans hactive
      · exact hother (fun input h => hjob ⟨input, h⟩) hactive
  | enabled motorId enable haction hstarts =>
      exact (hreached.startEnable enable).of_imp (hother (by simp [haction]))
  | modeChanged motorId mode haction hcovers =>
      refine EnableFsm.ReachedUnder.of_imp ?_ (hother (by simp [haction]))
      unfold Axis.applyMode
      split
      · exact hreached
      · exact hreached.shutdownForModeChange
  | activated input positioned haction hinactive hsame =>
      rw [← hsame.fsm_eq] at hreached
      exact hreached.activate.of_imp (hother (by simp [haction]))
  | safe input received haction hrunning hsafe hreceived =>
      have hsame := sameDrive_inputAxis backend index input axis
      subst hreceived haction
      rw [← hsame.fsm_eq] at hreached
      rw [safeOutputActive_next_job hformed input hrunning, hsafe]
      exact hreached.forceSafe _
  | sent input received haction hrunning hsafe hreceived =>
      have hsame := sameDrive_inputAxis backend index input axis
      subst hreceived haction
      rw [← hsame.fsm_eq] at hreached
      rw [safeOutputActive_next_job hformed input hrunning, hsafe]
      exact hreached.sendDataCommon _

/-- In every run of a backend the machine of each motion axis is one that complete operations reach. -/
theorem motionAt_reachedUnder (actions : List BackendAction) (index : Nat) :
    (machine.exec (Config.start {}) actions).state.servo.MotionAt index fun axis =>
      axis.fsm.ReachedUnder (machine.exec (Config.start {}) actions).state.servo.safeOutputActive := by
  have hstart : (Config.start {} : BackendConfig).state.Formed ∧
      (Config.start {} : BackendConfig).state.servo.MotionAt index
        fun axis => axis.fsm.ReachedUnder false :=
    ⟨formed_default, fun _ haxis => absurd haxis (by simp)⟩
  have hstep : ∀ (config : BackendConfig) (action : BackendAction),
      (config.state.Formed ∧ config.state.servo.MotionAt index
        fun axis => axis.fsm.ReachedUnder config.state.servo.safeOutputActive) →
      ((machine.advance config action).state.Formed ∧
        (machine.advance config action).state.servo.MotionAt index
          fun axis => axis.fsm.ReachedUnder
            (machine.advance config action).state.servo.safeOutputActive) := by
    rintro config action ⟨hformed, hreached⟩
    refine ⟨formed_next hformed action, motionAt_next hformed hreached ?_ ?_⟩
    · exact fun _ _ _ _ _ => .fresh _
    · intro axis haxis hmotion haxisReached
      exact reachedUnder_driveStep hformed haxisReached
        (driveStep_axisNext config.state index action hmotion)
  exact (machine.exec_invariant hstep actions hstart).2

end Backend

end IghMaster
