import Mathlib.Tactic.Common
import IghMaster.EnableFsm

/-!
# What one execution of the enable machine does

An execution first prepares (the two monitors and the fault reset bookkeeping) and then advances a
sequence. `prepare_cases` and the lemmas on `advance` say once what either part can do; the
invariants over runs are derived from them.
-/

namespace IghMaster.EnableFsm

/-- The stages of an execution before the sequence advances. -/
def prepare (ctx : TxContext) (fsm : EnableFsm) : EnableFsm :=
  clearFaultResetPhase ctx (resumeAfterFaultReset (monitorEnableLoss ctx (debounceFault ctx fsm)))

theorem stepFsm_eq_advance_prepare (ctx : TxContext) (fsm : EnableFsm) :
    fsm.stepFsm ctx = advance ctx (prepare ctx fsm) := rfl

/-- No control word is pending and no resume is scheduled. Both mechanisms of the source are never
started, so this holds of every reachable machine. -/
structure Plain (fsm : EnableFsm) : Prop where
  faultResetCounter_eq : fsm.faultResetCounter = 0
  not_pending : fsm.controlWordWritePending = false

theorem plain_default : Plain {} := ⟨rfl, rfl⟩

theorem debounceFault_cases (ctx : TxContext) (fsm : EnableFsm) :
    (∃ persist, debounceFault ctx fsm = { fsm with faultPersistCounter := persist }) ∨
      (ctx.hasFault = true ∧ fsm.supervised = true ∧ fsm.faultResetPhase = 0 ∧
        debounceFault ctx fsm =
          { fsm with faultPersistCounter := 0, active := true, enableRequested := false }) := by
  unfold debounceFault
  split
  · rename_i hcond
    simp only [Bool.and_eq_true, beq_iff_eq] at hcond
    simp only
    split
    · exact Or.inr ⟨hcond.1.1.2, hcond.1.2, hcond.2, rfl⟩
    · exact Or.inl ⟨_, rfl⟩
  · split
    · exact Or.inl ⟨_, rfl⟩
    · exact Or.inl ⟨fsm.faultPersistCounter, rfl⟩

theorem monitorEnableLoss_cases (ctx : TxContext) (fsm : EnableFsm) :
    (∃ loss, monitorEnableLoss ctx fsm = { fsm with monitorLossCounter := loss }) ∨
      (ctx.hasFault = false ∧ fsm.supervised = true ∧
        monitorEnableLoss ctx fsm =
          { fsm with
            monitorLossCounter := 0
            active := true
            step := 0
            wait := 0
            controlWordState := controlWordSwitchOn
            enableRequested := false }) := by
  unfold monitorEnableLoss
  split
  · rename_i hcond
    simp only [Bool.and_eq_true, Bool.not_eq_true'] at hcond
    dsimp only
    by_cases hloss : enableLossDebounceCycles ≤
        (if ctx.isOperationEnabled = true then 0 else fsm.monitorLossCounter + 1)
    · rw [if_pos hloss]
      exact Or.inr ⟨hcond.2, hcond.1.2, rfl⟩
    · rw [if_neg hloss]
      exact Or.inl ⟨_, rfl⟩
  · split
    · exact Or.inl ⟨_, rfl⟩
    · exact Or.inl ⟨fsm.monitorLossCounter, rfl⟩

theorem resumeAfterFaultReset_of_counter_eq_zero {fsm : EnableFsm}
    (hcounter : fsm.faultResetCounter = 0) : resumeAfterFaultReset fsm = fsm := by
  simp [resumeAfterFaultReset, hcounter]

theorem clearFaultResetPhase_cases (ctx : TxContext) (fsm : EnableFsm) :
    ∃ phase, clearFaultResetPhase ctx fsm = { fsm with faultResetPhase := phase } ∧
      (phase = 0 ∨ (phase = fsm.faultResetPhase ∧ ctx.hasFault = true ∧
        fsm.desiredEnable = true)) := by
  unfold clearFaultResetPhase
  split
  · exact ⟨0, rfl, Or.inl rfl⟩
  · rename_i hcond
    refine ⟨fsm.faultResetPhase, rfl, ?_⟩
    by_cases hphase : fsm.faultResetPhase = 0
    · exact Or.inl hphase
    · refine Or.inr ⟨rfl, ?_⟩
      simpa [bne_iff_ne, hphase] using hcond

/-- Preparing an execution either touches only counters and the phase, or trips one of the two
monitors of an enabled drive. -/
inductive Prepared (ctx : TxContext) (fsm : EnableFsm) : EnableFsm → Prop where
  | quiet (persist loss phase : Nat)
      (hphase : phase = 0 ∨
        (phase = fsm.faultResetPhase ∧ ctx.hasFault = true ∧ fsm.desiredEnable = true)) :
      Prepared ctx fsm
        { fsm with
          faultPersistCounter := persist, monitorLossCounter := loss, faultResetPhase := phase }
  | faultTripped (loss : Nat) (hfault : ctx.hasFault = true) (hsupervised : fsm.supervised = true) :
      Prepared ctx fsm
        { fsm with
          faultPersistCounter := 0
          monitorLossCounter := loss
          faultResetPhase := 0
          active := true
          enableRequested := false }
  | lossTripped (persist : Nat) (hfault : ctx.hasFault = false)
      (hsupervised : fsm.supervised = true) :
      Prepared ctx fsm
        { fsm with
          faultPersistCounter := persist
          monitorLossCounter := 0
          faultResetPhase := 0
          active := true
          step := 0
          wait := 0
          controlWordState := controlWordSwitchOn
          enableRequested := false }

theorem prepare_cases (ctx : TxContext) {fsm : EnableFsm} (hplain : fsm.Plain) :
    Prepared ctx fsm (prepare ctx fsm) := by
  have hcounter := hplain.faultResetCounter_eq
  have hresume : ∀ monitored : EnableFsm, monitored.faultResetCounter = 0 →
      resumeAfterFaultReset monitored = monitored :=
    fun _ => resumeAfterFaultReset_of_counter_eq_zero
  unfold prepare
  rcases debounceFault_cases ctx fsm with ⟨persist, hdebounce⟩ | ⟨hfault, hsup, hphase, hdebounce⟩
  · rw [hdebounce]
    rcases monitorEnableLoss_cases ctx { fsm with faultPersistCounter := persist } with
      ⟨loss, hloss⟩ | ⟨hfault, hsup, hloss⟩
    · rw [hloss, hresume _ (by exact hcounter)]
      obtain ⟨phase, hclear, hphase⟩ := clearFaultResetPhase_cases ctx
        { fsm with faultPersistCounter := persist, monitorLossCounter := loss }
      rw [hclear]
      exact .quiet persist loss phase hphase
    · rw [hloss, hresume _ (by exact hcounter)]
      obtain ⟨phase, hclear, hphase⟩ := clearFaultResetPhase_cases ctx
        { fsm with
          faultPersistCounter := persist
          monitorLossCounter := 0
          active := true
          step := 0
          wait := 0
          controlWordState := controlWordSwitchOn
          enableRequested := false }
      rw [hclear]
      obtain rfl : phase = 0 := by
        rcases hphase with hphase | ⟨-, htrue, -⟩
        · exact hphase
        · exact absurd (htrue.symm.trans hfault) (by simp)
      exact .lossTripped persist hfault hsup
  · rw [hdebounce]
    rcases monitorEnableLoss_cases ctx
        { fsm with faultPersistCounter := 0, active := true, enableRequested := false } with
      ⟨loss, hloss⟩ | ⟨hnofault, -, -⟩
    · rw [hloss, hresume _ (by exact hcounter)]
      obtain ⟨phase, hclear, hphase'⟩ := clearFaultResetPhase_cases ctx
        { fsm with
          faultPersistCounter := 0
          monitorLossCounter := loss
          active := true
          enableRequested := false }
      rw [hclear]
      obtain rfl : phase = 0 := by
        rcases hphase' with h | ⟨h, -, -⟩
        · exact h
        · exact h.trans hphase
      exact .faultTripped loss hfault hsup
    · exact absurd (hfault.symm.trans hnofault) (by simp)

theorem Prepared.desiredEnable_eq {ctx : TxContext} {fsm prepared : EnableFsm}
    (hprepared : Prepared ctx fsm prepared) : prepared.desiredEnable = fsm.desiredEnable := by
  cases hprepared <;> rfl

theorem Prepared.plain {ctx : TxContext} {fsm prepared : EnableFsm}
    (hprepared : Prepared ctx fsm prepared) (hplain : fsm.Plain) : prepared.Plain := by
  cases hprepared <;> exact ⟨hplain.faultResetCounter_eq, hplain.not_pending⟩

theorem Prepared.wait_le {ctx : TxContext} {fsm prepared : EnableFsm}
    (hprepared : Prepared ctx fsm prepared) : prepared.wait ≤ fsm.wait := by
  cases hprepared with
  | quiet persist loss phase hphase => exact Nat.le_refl _
  | faultTripped loss hfault hsupervised => exact Nat.le_refl _
  | lossTripped persist hfault hsupervised => exact Nat.zero_le _

/-- An axis that is not to be enabled is not supervised: preparing clears its phase and counts. -/
theorem Prepared.eq_of_not_desired {ctx : TxContext} {fsm prepared : EnableFsm}
    (hprepared : Prepared ctx fsm prepared) (hdesired : fsm.desiredEnable = false) :
    ∃ persist loss, prepared =
      { fsm with
        faultPersistCounter := persist, monitorLossCounter := loss, faultResetPhase := 0 } := by
  cases hprepared with
  | quiet persist loss phase hphase =>
      obtain rfl : phase = 0 := by simpa [hdesired] using hphase
      exact ⟨persist, loss, rfl⟩
  | faultTripped loss hfault hsupervised => simp [supervised, hdesired] at hsupervised
  | lossTripped persist hfault hsupervised => simp [supervised, hdesired] at hsupervised

/-! ### Advancing a sequence -/

theorem running_of_active {fsm : EnableFsm} (hactive : fsm.active = true) : fsm.running = true := by
  rw [running, hactive, Bool.or_true]

theorem advance_of_not_running {ctx : TxContext} {fsm : EnableFsm}
    (hrunning : fsm.running = false) : advance ctx fsm = fsm := by
  simp [advance, hrunning]

theorem advance_of_wait_pos {ctx : TxContext} {fsm : EnableFsm} (hrunning : fsm.running = true)
    (hwait : 0 < fsm.wait) :
    advance ctx fsm = { fsm with active := true, wait := fsm.wait - 1 } := by
  simp [advance, hrunning, hwait]

theorem advance_of_disable {ctx : TxContext} {fsm : EnableFsm} (hrunning : fsm.running = true)
    (hwait : fsm.wait = 0) (hdesired : fsm.desiredEnable = false) :
    advance ctx fsm = disableStep { fsm with active := true } := by
  simp [advance, hrunning, hwait, hdesired]

theorem advance_of_enable {ctx : TxContext} {fsm : EnableFsm} (hrunning : fsm.running = true)
    (hwait : fsm.wait = 0) (hdesired : fsm.desiredEnable = true) (hfault : ctx.hasFault = false) :
    advance ctx fsm = enableStep { fsm with active := true } := by
  simp [advance, hrunning, hwait, hdesired, hfault]

theorem advance_of_fault {ctx : TxContext} {fsm : EnableFsm} (hrunning : fsm.running = true)
    (hwait : fsm.wait = 0) (hdesired : fsm.desiredEnable = true) (hfault : ctx.hasFault = true) :
    advance ctx fsm = faultResetStep ctx { fsm with active := true } := by
  simp [advance, hrunning, hwait, hdesired, hfault]

/-- What an execution does to the sequences: nothing at rest, a wait that runs down, or a step of the
one that is to be taken. -/
inductive Advanced (ctx : TxContext) (fsm : EnableFsm) : EnableFsm → Prop where
  | rested (hrunning : fsm.running = false) : Advanced ctx fsm fsm
  | waited (hrunning : fsm.running = true) (hwait : 0 < fsm.wait) :
      Advanced ctx fsm { fsm with active := true, wait := fsm.wait - 1 }
  | disabled (hrunning : fsm.running = true) (hwait : fsm.wait = 0)
      (hdesired : fsm.desiredEnable = false) :
      Advanced ctx fsm (disableStep { fsm with active := true })
  | enabled (hrunning : fsm.running = true) (hwait : fsm.wait = 0)
      (hdesired : fsm.desiredEnable = true) (hfault : ctx.hasFault = false) :
      Advanced ctx fsm (enableStep { fsm with active := true })
  | faulted (hrunning : fsm.running = true) (hwait : fsm.wait = 0)
      (hdesired : fsm.desiredEnable = true) (hfault : ctx.hasFault = true) :
      Advanced ctx fsm (faultResetStep ctx { fsm with active := true })

theorem advance_cases (ctx : TxContext) (fsm : EnableFsm) : Advanced ctx fsm (advance ctx fsm) := by
  cases hrunning : fsm.running with
  | false =>
      rw [advance_of_not_running hrunning]
      exact .rested hrunning
  | true =>
      rcases Nat.eq_zero_or_pos fsm.wait with hwait | hwait
      · cases hdesired : fsm.desiredEnable with
        | false =>
            rw [advance_of_disable hrunning hwait hdesired]
            exact .disabled hrunning hwait hdesired
        | true =>
            cases hfault : ctx.hasFault with
            | false =>
                rw [advance_of_enable hrunning hwait hdesired hfault]
                exact .enabled hrunning hwait hdesired hfault
            | true =>
                rw [advance_of_fault hrunning hwait hdesired hfault]
                exact .faulted hrunning hwait hdesired hfault
      · rw [advance_of_wait_pos hrunning hwait]
        exact .waited hrunning hwait

theorem faultResetStep_plain {ctx : TxContext} {fsm : EnableFsm} (hplain : fsm.Plain)
    (hfault : ctx.hasFault = true) : (faultResetStep ctx fsm).Plain := by
  have hsw : isCiA402Fault ctx.statusWord = true := hfault
  -- the second look at the status word sees the same fault, so no resume is ever scheduled
  unfold faultResetStep
  split
  · exact ⟨hplain.faultResetCounter_eq, hplain.not_pending⟩
  · split
    · dsimp only
      split <;> exact ⟨hplain.faultResetCounter_eq, hplain.not_pending⟩
    · split
      · simp only [hsw, Bool.not_true, Bool.false_eq_true, if_false]
        split <;> exact ⟨hplain.faultResetCounter_eq, hplain.not_pending⟩
      · exact hplain

theorem enableStep_plain {fsm : EnableFsm} (hplain : fsm.Plain) : (enableStep fsm).Plain := by
  unfold enableStep
  split
  · exact ⟨hplain.faultResetCounter_eq, hplain.not_pending⟩
  · exact ⟨rfl, hplain.not_pending⟩

theorem disableStep_plain {fsm : EnableFsm} (hplain : fsm.Plain) : (disableStep fsm).Plain := by
  unfold disableStep
  split
  · exact ⟨hplain.faultResetCounter_eq, hplain.not_pending⟩
  · exact ⟨rfl, hplain.not_pending⟩

theorem advance_plain {ctx : TxContext} {fsm : EnableFsm} (hplain : fsm.Plain) :
    (advance ctx fsm).Plain := by
  have hactive : ({ fsm with active := true } : EnableFsm).Plain :=
    ⟨hplain.faultResetCounter_eq, hplain.not_pending⟩
  have hadvanced := advance_cases ctx fsm
  generalize advance ctx fsm = after at hadvanced ⊢
  cases hadvanced with
  | rested hrunning => exact hplain
  | waited hrunning hwait => exact ⟨hplain.faultResetCounter_eq, hplain.not_pending⟩
  | disabled hrunning hwait hdesired => exact disableStep_plain hactive
  | enabled hrunning hwait hdesired hfault => exact enableStep_plain hactive
  | faulted hrunning hwait hdesired hfault => exact faultResetStep_plain hactive hfault

theorem stepFsm_plain (ctx : TxContext) {fsm : EnableFsm} (hplain : fsm.Plain) :
    (fsm.stepFsm ctx).Plain := by
  rw [stepFsm_eq_advance_prepare]
  exact advance_plain ((prepare_cases ctx hplain).plain hplain)

@[simp]
theorem desiredEnable_faultResetStep (ctx : TxContext) (fsm : EnableFsm) :
    (faultResetStep ctx fsm).desiredEnable = fsm.desiredEnable := by
  unfold faultResetStep
  split
  · rfl
  · split
    · dsimp only
      split <;> rfl
    · split
      · dsimp only
        split
        · rfl
        · split <;> rfl
      · rfl

theorem active_faultResetStep (ctx : TxContext) (fsm : EnableFsm) :
    (faultResetStep ctx fsm).active = fsm.active := by
  unfold faultResetStep
  split
  · rfl
  · split
    · dsimp only
      split <;> rfl
    · split
      · dsimp only
        split
        · rfl
        · split <;> rfl
      · rfl

@[simp]
theorem desiredEnable_enableStep (fsm : EnableFsm) :
    (enableStep fsm).desiredEnable = fsm.desiredEnable := by
  unfold enableStep
  split <;> rfl

@[simp]
theorem desiredEnable_disableStep (fsm : EnableFsm) :
    (disableStep fsm).desiredEnable = fsm.desiredEnable := by
  unfold disableStep
  split <;> rfl

@[simp]
theorem desiredEnable_advance (ctx : TxContext) (fsm : EnableFsm) :
    (advance ctx fsm).desiredEnable = fsm.desiredEnable := by
  have hadvanced := advance_cases ctx fsm
  generalize advance ctx fsm = after at hadvanced ⊢
  cases hadvanced with
  | rested hrunning => rfl
  | waited hrunning hwait => rfl
  | disabled hrunning hwait hdesired => exact desiredEnable_disableStep _
  | enabled hrunning hwait hdesired hfault => exact desiredEnable_enableStep _
  | faulted hrunning hwait hdesired hfault => exact desiredEnable_faultResetStep ctx _

/-- Only a fault of an axis that is to be enabled moves the phase. -/
theorem faultResetPhase_advance {ctx : TxContext} {fsm : EnableFsm}
    (hquiet : (ctx.hasFault && fsm.desiredEnable) = false) :
    (advance ctx fsm).faultResetPhase = fsm.faultResetPhase := by
  have hadvanced := advance_cases ctx fsm
  generalize advance ctx fsm = after at hadvanced ⊢
  cases hadvanced with
  | rested hrunning => rfl
  | waited hrunning hwait => rfl
  | disabled hrunning hwait hdesired =>
      unfold disableStep
      split <;> rfl
  | enabled hrunning hwait hdesired hfault =>
      unfold enableStep
      split <;> rfl
  | faulted hrunning hwait hdesired hfault =>
      rw [hfault, hdesired, Bool.and_self] at hquiet
      exact absurd hquiet.symm Bool.false_ne_true

theorem desiredEnable_stepFsm {ctx : TxContext} {fsm : EnableFsm} (hplain : fsm.Plain) :
    (fsm.stepFsm ctx).desiredEnable = fsm.desiredEnable := by
  rw [stepFsm_eq_advance_prepare, desiredEnable_advance,
    (prepare_cases ctx hplain).desiredEnable_eq]

/-! ### Executions until rest -/

section Remaining

variable {ctx : TxContext} {fsm : EnableFsm}

/-- An upper bound on the executions until a sequence has come to its end. -/
def remaining (fsm : EnableFsm) : Nat :=
  if fsm.running then fsm.wait + (4 - fsm.step) * (stepDelayCycles + 1) + 1 else 0

theorem remaining_le (hwait : fsm.wait ≤ stepDelayCycles) : fsm.remaining ≤ 55 := by
  unfold remaining stepDelayCycles at *
  split <;> omega

theorem remaining_of_running (hrunning : fsm.running = true) :
    fsm.remaining = fsm.wait + (4 - fsm.step) * (stepDelayCycles + 1) + 1 := by
  rw [remaining, if_pos hrunning]

/-- A step of either sequence is followed by its delay, and the last one stops the machine. -/
theorem remaining_sequenceStep (hstep : fsm.step ≤ 4) (enable : Bool) (word : UInt16)
    (hdesired : fsm.desiredEnable = enable) (hactive : fsm.active = true) :
    (if fsm.step < 4 then
      { fsm with controlWordState := word, step := fsm.step + 1, wait := stepDelayCycles }
    else
      { fsm with
        enableRequested := enable
        active := false
        step := 0
        wait := 0
        faultResetCounter := 0 }).remaining = (4 - fsm.step) * (stepDelayCycles + 1) := by
  split
  · rename_i hlt
    have hrunning : ({ fsm with
        controlWordState := word, step := fsm.step + 1, wait := stepDelayCycles } :
          EnableFsm).running = true := running_of_active hactive
    rw [remaining_of_running hrunning]
    change stepDelayCycles + (4 - (fsm.step + 1)) * (stepDelayCycles + 1) + 1 = _
    unfold stepDelayCycles
    omega
  · rename_i hlast
    have hrest : ({ fsm with
        enableRequested := enable, active := false, step := 0, wait := 0, faultResetCounter := 0 } :
          EnableFsm).running = false := by
      simp [running, hdesired]
    rw [remaining, hrest, if_neg Bool.false_ne_true]
    unfold stepDelayCycles
    omega

/-- Where no fault has to be reset, an execution brings the machine one execution closer to its
rest. -/
theorem remaining_advance (hreset : (ctx.hasFault && fsm.desiredEnable) = false)
    (hstep : fsm.step ≤ 4) : (advance ctx fsm).remaining = fsm.remaining - 1 := by
  have hlast (hrunning : fsm.running = true) (hwait : fsm.wait = 0) :
      fsm.remaining - 1 = (4 - fsm.step) * (stepDelayCycles + 1) := by
    rw [remaining_of_running hrunning, hwait, Nat.zero_add, Nat.add_sub_cancel]
  have hadvanced := advance_cases ctx fsm
  generalize advance ctx fsm = after at hadvanced ⊢
  cases hadvanced with
  | rested hrunning => rw [remaining, hrunning, if_neg Bool.false_ne_true]
  | waited hrunning hwait =>
      rw [remaining_of_running hrunning, remaining_of_running (running_of_active rfl)]
      change fsm.wait - 1 + (4 - fsm.step) * (stepDelayCycles + 1) + 1 = _
      omega
  | disabled hrunning hwait hdesired =>
      rw [hlast hrunning hwait]
      exact remaining_sequenceStep (by exact hstep) false _ hdesired rfl
  | enabled hrunning hwait hdesired hfault =>
      rw [hlast hrunning hwait]
      exact remaining_sequenceStep (by exact hstep) true _ hdesired rfl
  | faulted hrunning hwait hdesired hfault =>
      rw [hfault, hdesired, Bool.and_self] at hreset
      exact absurd hreset.symm Bool.false_ne_true

end Remaining

/-! ### The word that is written -/

theorem controlWordToWrite_of_plain {ctx : TxContext} {fsm : EnableFsm} (hplain : fsm.Plain) :
    fsm.controlWordToWrite ctx =
      if ctx.activated then fsm.controlWordState else controlWordSwitchOn := by
  simp [controlWordToWrite, usesPendingControlWord, hplain.not_pending]

theorem recordControlWord_of_plain {ctx : TxContext} {fsm : EnableFsm} (hplain : fsm.Plain) :
    fsm.recordControlWord ctx =
      { fsm with lastWrittenControlWord := fsm.controlWordToWrite ctx } := by
  have hpending := hplain.not_pending
  cases fsm
  simp_all [recordControlWord, usesPendingControlWord]

/-- One execution of a plain machine: it steps, and while the servo is activated the word written
is the word of the stepped machine. -/
theorem sendDataCommon_of_plain (ctx : TxContext) {fsm : EnableFsm} (hplain : fsm.Plain)
    (hactivated : ctx.activated = true) :
    fsm.sendDataCommon ctx =
      ({ fsm.stepFsm ctx with lastWrittenControlWord := (fsm.stepFsm ctx).controlWordState },
        (fsm.stepFsm ctx).controlWordState) := by
  have hstepped := stepFsm_plain ctx hplain
  simp only [sendDataCommon, recordControlWord_of_plain hstepped,
    controlWordToWrite_of_plain hstepped, hactivated, if_true]

theorem sendDataCommon_plain {ctx : TxContext} {fsm : EnableFsm} (hplain : fsm.Plain) :
    (fsm.sendDataCommon ctx).1.Plain := by
  have hstepped := stepFsm_plain ctx hplain
  simp only [sendDataCommon, recordControlWord_of_plain hstepped]
  exact ⟨hstepped.faultResetCounter_eq, hstepped.not_pending⟩

theorem startEnable_plain {fsm : EnableFsm} (enable : Bool) (hplain : fsm.Plain) :
    (fsm.startEnable enable).Plain := ⟨hplain.faultResetCounter_eq, hplain.not_pending⟩

theorem shutdownForModeChange_plain {fsm : EnableFsm} (hplain : fsm.Plain) :
    fsm.shutdownForModeChange.Plain := by
  unfold shutdownForModeChange
  split
  · exact hplain
  · exact ⟨hplain.faultResetCounter_eq, hplain.not_pending⟩

theorem enableRequested_shutdownForModeChange (fsm : EnableFsm) :
    fsm.shutdownForModeChange.enableRequested = fsm.enableRequested := by
  unfold shutdownForModeChange
  split <;> rfl

theorem desiredEnable_shutdownForModeChange (fsm : EnableFsm) :
    fsm.shutdownForModeChange.desiredEnable = fsm.desiredEnable := by
  unfold shutdownForModeChange
  split <;> rfl

theorem active_shutdownForModeChange (fsm : EnableFsm) :
    fsm.shutdownForModeChange.active = fsm.active := by
  unfold shutdownForModeChange
  split <;> rfl

/-- A mode change leaves the word alone or puts Shutdown in its place. -/
theorem controlWordState_shutdownForModeChange (fsm : EnableFsm) :
    fsm.shutdownForModeChange.controlWordState = fsm.controlWordState ∨
      fsm.shutdownForModeChange.controlWordState = controlWordSwitchOn := by
  unfold shutdownForModeChange
  split
  · exact Or.inl rfl
  · exact Or.inr rfl

theorem forceSafe_plain {fsm : EnableFsm} (entering : Bool) (word : UInt16)
    (hplain : fsm.Plain) : (fsm.forceSafe entering word).Plain := by
  cases entering
  · exact ⟨hplain.faultResetCounter_eq, hplain.not_pending⟩
  · exact ⟨rfl, hplain.not_pending⟩

end IghMaster.EnableFsm
