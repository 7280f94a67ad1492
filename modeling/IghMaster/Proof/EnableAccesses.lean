import Mathlib.Logic.Function.Iterate
import IghMaster.EnableSteps
import IghMaster.Proof.EnableFsm

/-!
# An execution without interference

The accesses of one execution, taken one after the other with no call between them, are
`sendDataCommon`. Each stage of the source is one lemma; an execution is their composition.
-/

namespace IghMaster.EnableAccessState

open Transition

/-- Some number of accesses of the Job lead from the first state to the second. -/
def Reaches (state target : EnableAccessState) : Prop := ∃ count, accessStep^[count] state = target

theorem Reaches.refl (state : EnableAccessState) : Reaches state state := ⟨0, rfl⟩

theorem Reaches.head {state target : EnableAccessState} (hrest : Reaches state.accessStep target) :
    Reaches state target := by
  obtain ⟨count, hcount⟩ := hrest
  exact ⟨count + 1, hcount⟩

theorem Reaches.trans {state between target : EnableAccessState} (hfirst : Reaches state between)
    (hsecond : Reaches between target) : Reaches state target := by
  obtain ⟨first, rfl⟩ := hfirst
  obtain ⟨second, rfl⟩ := hsecond
  exact ⟨second + first, Function.iterate_add_apply _ second first state⟩

theorem Reaches.step {state next target : EnableAccessState} (hstep : state.accessStep = next)
    (hrest : Reaches next target) : Reaches state target := Reaches.head (hstep ▸ hrest)

variable (state : EnableAccessState) (fsm : EnableFsm)

/-- The condition of the fault debounce, split where its second load is made. -/
theorem debounceCondition_eq (ctx : TxContext) (fsm : EnableFsm) :
    (ctx.wcOk && ctx.hasFault && fsm.supervised && fsm.faultResetPhase == 0) =
      ((ctx.wcOk && ctx.hasFault && fsm.desiredEnable && fsm.enableRequested) &&
        (!fsm.active && fsm.faultResetPhase == 0 && fsm.faultResetCounter == 0)) := by
  rw [EnableFsm.supervised]
  ac_rfl

theorem monitorCondition_eq (ctx : TxContext) (fsm : EnableFsm) :
    (ctx.wcOk && fsm.supervised && !ctx.hasFault) =
      ((ctx.wcOk && fsm.desiredEnable && fsm.enableRequested) &&
        (!fsm.active && fsm.faultResetCounter == 0 && !ctx.hasFault)) := by
  rw [EnableFsm.supervised]
  ac_rfl

theorem reaches_debounce :
    Reaches (state.goto .debounceDesired fsm)
      (state.goto .monitorDesired (fsm.debounceFault state.ctx)) := by
  rw [EnableFsm.debounceFault, debounceCondition_eq]
  by_cases hdemand :
      (state.ctx.wcOk && state.ctx.hasFault && fsm.desiredEnable && fsm.enableRequested) = true
  · rw [hdemand, Bool.true_and]
    refine Reaches.step (if_pos hdemand) ?_
    by_cases hidle : (!fsm.active && fsm.faultResetPhase == 0 && fsm.faultResetCounter == 0) = true
    · rw [if_pos hidle]
      dsimp only
      by_cases hpersist : faultDebounceCycles ≤ fsm.faultPersistCounter + 1
      · refine Reaches.step ((if_pos hidle).trans (if_pos hpersist)) ?_
        rw [if_pos hpersist]
        exact ⟨1, rfl⟩
      · refine Reaches.step ((if_pos hidle).trans (if_neg hpersist)) ?_
        rw [if_neg hpersist]
        exact Reaches.refl _
    · have hfault : ¬ (!state.ctx.hasFault) = true := by
        simp only [Bool.and_eq_true] at hdemand
        simp [hdemand.1.1.2]
      refine Reaches.step (if_neg hidle) ?_
      rw [if_neg hidle, if_neg hfault]
      exact Reaches.refl _
  · rw [Bool.not_eq_true] at hdemand
    rw [hdemand, Bool.false_and, if_neg Bool.false_ne_true]
    have hskip : ¬ (state.ctx.wcOk && state.ctx.hasFault && fsm.desiredEnable &&
        fsm.enableRequested) = true := Bool.not_eq_true _ ▸ hdemand
    by_cases hfault : (!state.ctx.hasFault) = true
    · rw [if_pos hfault]
      exact Reaches.step ((if_neg hskip).trans (if_pos hfault)) (Reaches.refl _)
    · rw [if_neg hfault]
      exact Reaches.step ((if_neg hskip).trans (if_neg hfault)) (Reaches.refl _)

theorem reaches_monitor :
    Reaches (state.goto .monitorDesired fsm)
      (state.goto .resumeDesired (fsm.monitorEnableLoss state.ctx)) := by
  by_cases hdemand : (state.ctx.wcOk && fsm.desiredEnable && fsm.enableRequested) = true
  · refine Reaches.step (if_pos hdemand) ?_
    by_cases hidle : (!fsm.active && fsm.faultResetCounter == 0 && !state.ctx.hasFault) = true
    · have hwhole : (state.ctx.wcOk && fsm.supervised && !state.ctx.hasFault) = true := by
        rw [monitorCondition_eq, hdemand, hidle, Bool.and_self]
      rw [EnableFsm.monitorEnableLoss, if_pos hwhole]
      dsimp only
      by_cases hloss : enableLossDebounceCycles ≤
          (if state.ctx.isOperationEnabled = true then 0 else fsm.monitorLossCounter + 1)
      · refine Reaches.step ((if_pos hidle).trans (if_pos hloss)) ?_
        rw [if_pos hloss]
        exact ⟨3, rfl⟩
      · refine Reaches.step ((if_pos hidle).trans (if_neg hloss)) ?_
        rw [if_neg hloss]
        exact Reaches.refl _
    · have hwhole : ¬ (state.ctx.wcOk && fsm.supervised && !state.ctx.hasFault) = true := by
        rwa [monitorCondition_eq, hdemand, Bool.true_and]
      have hforget : fsm.monitorEnableLoss state.ctx = forgetLoss state.ctx fsm := if_neg hwhole
      rw [hforget]
      exact Reaches.step (if_neg hidle) (Reaches.refl _)
  · have hwhole : ¬ (state.ctx.wcOk && fsm.supervised && !state.ctx.hasFault) = true := by
      rw [monitorCondition_eq, Bool.and_eq_true]
      exact fun hboth => hdemand hboth.1
    have hforget : fsm.monitorEnableLoss state.ctx = forgetLoss state.ctx fsm := if_neg hwhole
    rw [hforget]
    exact Reaches.step (if_neg hdemand) (Reaches.refl _)

theorem reaches_resume :
    Reaches (state.goto .resumeDesired fsm)
      (state.goto .phaseDesired fsm.resumeAfterFaultReset) := by
  rw [EnableFsm.resumeAfterFaultReset]
  by_cases hcounter : 0 < fsm.faultResetCounter
  · rw [if_pos hcounter]
    dsimp only
    by_cases hresume : (fsm.faultResetCounter - 1 == 0 && fsm.desiredEnable) = true
    · refine Reaches.step ((if_pos hcounter).trans (if_pos hresume)) ?_
      rw [if_pos hresume]
      exact ⟨3, rfl⟩
    · rw [if_neg hresume]
      exact Reaches.step ((if_pos hcounter).trans (if_neg hresume)) (Reaches.refl _)
  · rw [if_neg hcounter]
    exact Reaches.step (if_neg hcounter) (Reaches.refl _)

theorem reaches_clearPhase :
    Reaches (state.goto .phaseDesired fsm)
      (state.goto .compareDesired (fsm.clearFaultResetPhase state.ctx)) :=
  ⟨1, rfl⟩

theorem reaches_prepare :
    Reaches (state.goto .debounceDesired fsm)
      (state.goto .compareDesired (fsm.prepare state.ctx)) :=
  (reaches_debounce state fsm).trans
    ((reaches_monitor state _).trans ((reaches_resume state _).trans (reaches_clearPhase state _)))

theorem reaches_faultReset (hwait : fsm.wait = 0)
    (hdemand : (state.ctx.hasFault && fsm.desiredEnable) = true) :
    Reaches (state.goto .faultDesired fsm)
      (state.goto .write (fsm.faultResetStep state.ctx)) := by
  have hexpired : ¬ 0 < fsm.wait := by omega
  rw [EnableFsm.faultResetStep]
  by_cases hzero : fsm.faultResetPhase = 0
  · refine Reaches.step ((if_pos hdemand).trans (if_pos hzero)) ?_
    rw [if_pos hzero]
    exact ⟨2, rfl⟩
  · rw [if_neg hzero]
    by_cases hone : fsm.faultResetPhase = 1
    · refine Reaches.step ((if_pos hdemand).trans ((if_neg hzero).trans (if_pos hone))) ?_
      rw [if_pos hone]
      dsimp only
      rw [if_neg hexpired]
      refine Reaches.step ((if_neg hexpired).trans (if_pos hone)) ?_
      exact ⟨1, rfl⟩
    · rw [if_neg hone]
      by_cases htwo : fsm.faultResetPhase = 2
      · refine Reaches.step
          ((if_pos hdemand).trans ((if_neg hzero).trans ((if_neg hone).trans (if_pos htwo)))) ?_
        rw [if_pos htwo]
        dsimp only
        rw [if_neg hexpired]
        by_cases hcleared : (!isCiA402Fault state.ctx.statusWord) = true
        · rw [if_pos hcleared]
          exact Reaches.step ((if_neg hexpired).trans ((if_neg hone).trans (if_pos hcleared)))
            (Reaches.refl _)
        · rw [if_neg hcleared]
          refine Reaches.step ((if_neg hexpired).trans ((if_neg hone).trans (if_neg hcleared))) ?_
          exact ⟨1, rfl⟩
      · rw [if_neg htwo]
        exact Reaches.step
          ((if_pos hdemand).trans ((if_neg hzero).trans ((if_neg hone).trans (if_neg htwo))))
          (Reaches.refl _)

theorem decrement_of_pos {wait : Nat} (hpos : 0 < wait) (hword : wait < 0x10000) :
    decrement wait = wait - 1 := by
  rw [decrement]
  omega

theorem increment_of_lt {step : Nat} (hstep : step < 4) : increment step = step + 1 := by
  rw [increment]
  omega

/-- One step of the sequence in the direction that the demand had when it was loaded. -/
theorem reaches_sequence (enable : Bool) :
    Reaches (state.goto (.loadStep enable) fsm)
      (state.goto .write (if enable then fsm.enableStep else fsm.disableStep)) := by
  by_cases hstep : fsm.step < 4
  · have hsteps : Reaches (state.goto (.indexStep enable) fsm)
        (state.goto .write
          { fsm with
            controlWordState := sequence enable fsm.step
            step := increment fsm.step
            wait := stepDelayCycles }) := ⟨3, rfl⟩
    rw [increment_of_lt hstep] at hsteps
    refine Reaches.step (if_pos hstep) ?_
    cases enable with
    | false => rw [EnableFsm.disableStep, if_pos hstep]; exact hsteps
    | true => rw [EnableFsm.enableStep, if_pos hstep]; exact hsteps
  · have hsteps : Reaches (state.goto (.completeActive enable) fsm)
        (state.goto .write
          { fsm with
            enableRequested := enable
            active := false
            step := 0
            wait := 0
            faultResetCounter := 0 }) := ⟨3, rfl⟩
    refine Reaches.step (if_neg hstep) ?_
    cases enable with
    | false => rw [EnableFsm.disableStep, if_neg hstep]; exact hsteps
    | true => rw [EnableFsm.enableStep, if_neg hstep]; exact hsteps

theorem reaches_advance (hword : fsm.wait < 0x10000) :
    Reaches (state.goto .compareDesired fsm) (state.goto .write (fsm.advance state.ctx)) := by
  rw [EnableFsm.advance]
  by_cases hrunning : fsm.running = true
  · rw [if_pos hrunning]
    dsimp only
    have hactive : Reaches (state.goto .compareDesired fsm)
        (state.goto .loadWait { fsm with active := true }) := by
      by_cases hdemand : (fsm.desiredEnable != fsm.enableRequested) = true
      · exact Reaches.step (if_pos hdemand) ⟨1, rfl⟩
      · have hflag : fsm.active = true :=
          (Bool.or_eq_true_iff.mp hrunning).resolve_left hdemand
        refine Reaches.step (if_neg hdemand) ?_
        exact Reaches.step (if_pos hflag) ⟨1, rfl⟩
    refine hactive.trans ?_
    by_cases hwait : 0 < fsm.wait
    · rw [if_pos hwait, ← decrement_of_pos hwait hword]
      exact Reaches.step (if_pos hwait) ⟨1, rfl⟩
    · rw [if_neg hwait]
      refine Reaches.step (if_neg hwait) ?_
      have hexpired : fsm.wait = 0 := by omega
      by_cases hfault : (state.ctx.hasFault && fsm.desiredEnable) = true
      · rw [if_pos hfault]
        exact reaches_faultReset state _ hexpired hfault
      · rw [if_neg hfault]
        refine Reaches.step (if_neg hfault) ?_
        refine Reaches.step rfl ?_
        exact reaches_sequence state { fsm with active := true } fsm.desiredEnable
  · rw [if_neg hrunning]
    have hdemand : ¬ (fsm.desiredEnable != fsm.enableRequested) = true :=
      fun hne => hrunning (Bool.or_eq_true_iff.mpr (Or.inl hne))
    have hflag : ¬ fsm.active = true :=
      fun hactive => hrunning (Bool.or_eq_true_iff.mpr (Or.inr hactive))
    refine Reaches.step (if_neg hdemand) ?_
    exact Reaches.step (if_neg hflag) (Reaches.refl _)

def executed (state : EnableAccessState) (ctx : TxContext) : EnableAccessState :=
  { state with
    fsm := (state.fsm.sendDataCommon ctx).1
    access := .idle
    ctx := ctx
    written := (state.fsm.sendDataCommon ctx).2 }

/-- An execution that no call interrupts is `sendDataCommon`. -/
theorem reaches_executed (ctx : TxContext) (hidle : state.access = .idle)
    (hplain : state.fsm.Plain) (hword : state.fsm.wait < 0x10000) :
    Reaches (state.execute ctx) (state.executed ctx) := by
  have hprepared : (state.fsm.prepare ctx).wait < 0x10000 :=
    Nat.lt_of_le_of_lt (EnableFsm.prepare_cases ctx hplain).wait_le hword
  rw [execute, if_pos hidle]
  refine (reaches_prepare { state with ctx := ctx } state.fsm).trans ?_
  refine (reaches_advance { state with ctx := ctx } _ hprepared).trans ?_
  exact ⟨1, rfl⟩

end IghMaster.EnableAccessState
