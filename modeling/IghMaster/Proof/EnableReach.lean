import IghMaster.Proof.EnableAccesses
import IghMaster.Proof.DisableRuns

/-!
# The reachable states of an enable machine

A machine is reached by complete operations and by calls whose accesses fall between those of
executions. Whatever the interleaving, nothing is pending and the step never passes the end of a
sequence; an annotation at each access carries this through an execution.
-/

namespace IghMaster

open Transition

namespace EnableFsm

def activate (fsm : EnableFsm) : EnableFsm :=
  { fsm with enableRequested := false, controlWordState := controlWordSwitchOn }

inductive Reached : EnableFsm → Prop where
  | fresh : Reached {}
  | activate {fsm : EnableFsm} (hfsm : Reached fsm) : Reached fsm.activate
  | startEnable {fsm : EnableFsm} (enable : Bool) (hfsm : Reached fsm) :
      Reached (fsm.startEnable enable)
  | sendDataCommon {fsm : EnableFsm} (ctx : TxContext) (hfsm : Reached fsm) :
      Reached (fsm.sendDataCommon ctx).1
  | shutdownForModeChange {fsm : EnableFsm} (hfsm : Reached fsm) :
      Reached fsm.shutdownForModeChange
  | forceSafe {fsm : EnableFsm} (entering : Bool) (safeControlWord : UInt16)
      (hfsm : Reached fsm) : Reached (fsm.forceSafe entering safeControlWord)
  | interleaved {fsm : EnableFsm} (enable : Bool) (ctx : TxContext)
      (actions : List EnableAccessAction) (hfsm : Reached fsm)
      (hreturned : (EnableAccessState.machine.exec
        (Config.start { fsm := fsm, enable := enable, ctx := ctx }) actions).state.call = .returned)
      (hidle : (EnableAccessState.machine.exec
        (Config.start { fsm := fsm, enable := enable, ctx := ctx }) actions).state.access = .idle) :
      Reached (EnableAccessState.machine.exec
        (Config.start { fsm := fsm, enable := enable, ctx := ctx }) actions).state.fsm

structure Bounded (fsm : EnableFsm) : Prop where
  faultResetCounter_eq : fsm.faultResetCounter = 0
  not_pending : fsm.controlWordWritePending = false
  step_le : fsm.step ≤ 4
  wait_lt : fsm.wait < 0x10000

theorem Bounded.plain {fsm : EnableFsm} (hbounded : fsm.Bounded) : fsm.Plain :=
  ⟨hbounded.faultResetCounter_eq, hbounded.not_pending⟩

end EnableFsm

namespace EnableAccessState

/-- What holds of an execution in any interleaving when it is about to make an access. -/
def Annotated (ctx : TxContext) (fsm : EnableFsm) : TxAccess → Prop
  | .resumeStoreActive | .resumeStoreStep | .resumeStoreWait => False
  | .faultStoreWait | .faultStoreStep | .faultLoadWait | .faultDecrementWait | .faultRearmWait
  | .faultClearWait => ctx.hasFault = true
  | .indexStep _ | .incrementStep _ => fsm.step < 4
  | _ => True

structure Sound (state : EnableAccessState) : Prop where
  bounded : state.fsm.Bounded
  annotated : Annotated state.ctx state.fsm state.access

/-- The annotations speak of the machine only through an upper bound on its step. -/
theorem Annotated.of_step_le {ctx : TxContext} {fsm fsm' : EnableFsm} {access : TxAccess}
    (hannotated : Annotated ctx fsm access) (hstep : fsm'.step ≤ fsm.step) :
    Annotated ctx fsm' access := by
  cases access with
  | indexStep enable => exact Nat.lt_of_le_of_lt hstep hannotated
  | incrementStep enable => exact Nat.lt_of_le_of_lt hstep hannotated
  | _ => exact hannotated

theorem Sound.callStep {state : EnableAccessState} (hsound : state.Sound) :
    state.callStep.Sound := by
  obtain ⟨⟨hcounter, hpending, hstep, hwait⟩, hannotated⟩ := hsound
  unfold EnableAccessState.callStep
  split
  · exact ⟨⟨hcounter, hpending, hstep, hwait⟩, hannotated⟩
  · exact ⟨⟨hcounter, hpending, hstep, hwait⟩, hannotated.of_step_le (Nat.le_refl _)⟩
  · exact ⟨⟨hcounter, hpending, hstep, hwait⟩, hannotated.of_step_le (Nat.le_refl _)⟩
  · exact ⟨⟨hcounter, hpending, Nat.zero_le 4, hwait⟩, hannotated.of_step_le (Nat.zero_le _)⟩
  · exact ⟨⟨hcounter, hpending, hstep, Nat.zero_lt_succ _⟩, hannotated.of_step_le (Nat.le_refl _)⟩
  · exact ⟨⟨hcounter, hpending, hstep, hwait⟩, hannotated⟩

theorem Sound.execute {state : EnableAccessState} (hsound : state.Sound) (ctx : TxContext) :
    (state.execute ctx).Sound := by
  unfold EnableAccessState.execute
  split
  · exact ⟨hsound.bounded, trivial⟩
  · exact hsound

theorem Sound.debounceStep {state : EnableAccessState} (hsound : state.Sound) :
    state.debounceStep.Sound := by
  obtain ⟨⟨hcounter, hpending, hstep, hwait⟩, -⟩ := hsound
  unfold EnableAccessState.debounceStep
  dsimp only
  split
  · split
    · exact ⟨⟨hcounter, hpending, hstep, hwait⟩, trivial⟩
    · split <;> exact ⟨⟨hcounter, hpending, hstep, hwait⟩, trivial⟩
  · split
    · split <;> exact ⟨⟨hcounter, hpending, hstep, hwait⟩, trivial⟩
    · exact ⟨⟨hcounter, hpending, hstep, hwait⟩, trivial⟩
  · exact ⟨⟨hcounter, hpending, hstep, hwait⟩, trivial⟩

theorem bounded_forgetLoss (ctx : TxContext) {fsm : EnableFsm} (hbounded : fsm.Bounded) :
    (forgetLoss ctx fsm).Bounded := by
  unfold forgetLoss
  split
  · exact ⟨hbounded.faultResetCounter_eq, hbounded.not_pending, hbounded.step_le, hbounded.wait_lt⟩
  · exact hbounded

theorem Sound.monitorStep {state : EnableAccessState} (hsound : state.Sound) :
    state.monitorStep.Sound := by
  have hforget := bounded_forgetLoss state.ctx hsound.bounded
  obtain ⟨⟨hcounter, hpending, hstep, hwait⟩, -⟩ := hsound
  unfold EnableAccessState.monitorStep
  dsimp only
  split
  · split
    · exact ⟨⟨hcounter, hpending, hstep, hwait⟩, trivial⟩
    · exact ⟨hforget, trivial⟩
  · split
    · by_cases hloss : enableLossDebounceCycles ≤
          (if state.ctx.isOperationEnabled = true then 0 else state.fsm.monitorLossCounter + 1)
      · rw [if_pos hloss]
        exact ⟨⟨hcounter, hpending, hstep, hwait⟩, trivial⟩
      · rw [if_neg hloss]
        exact ⟨⟨hcounter, hpending, hstep, hwait⟩, trivial⟩
    · exact ⟨hforget, trivial⟩
  · exact ⟨⟨hcounter, hpending, hstep, hwait⟩, trivial⟩
  · exact ⟨⟨hcounter, hpending, Nat.zero_le 4, hwait⟩, trivial⟩
  · exact ⟨⟨hcounter, hpending, hstep, Nat.zero_lt_succ _⟩, trivial⟩

/-- No resume is ever scheduled, so its accesses are never made. -/
theorem Sound.resumeStep {state : EnableAccessState} (hsound : state.Sound) :
    state.resumeStep.Sound := by
  obtain ⟨⟨hcounter, hpending, hstep, hwait⟩, hannotated⟩ := hsound
  unfold EnableAccessState.resumeStep
  dsimp only
  split
  · rw [if_neg (by omega)]
    exact ⟨⟨hcounter, hpending, hstep, hwait⟩, trivial⟩
  · rename_i haccess
    rw [haccess] at hannotated
    exact hannotated.elim
  · rename_i haccess
    rw [haccess] at hannotated
    exact hannotated.elim
  · exact ⟨⟨hcounter, hpending, hstep, Nat.zero_lt_succ _⟩, trivial⟩

theorem stepDelayCycles_lt : stepDelayCycles < 0x10000 := by decide

theorem decrement_lt (wait : Nat) : decrement wait < 0x10000 := by
  rw [decrement]
  omega

theorem bounded_decrement {fsm : EnableFsm} (hbounded : fsm.Bounded) :
    ({ fsm with wait := decrement fsm.wait } : EnableFsm).Bounded := by
  obtain ⟨hcounter, hpending, hstep, hwait⟩ := hbounded
  exact ⟨hcounter, hpending, hstep, decrement_lt _⟩

theorem Sound.faultStep {state : EnableAccessState} (hsound : state.Sound) :
    state.faultStep.Sound := by
  have hdecremented := bounded_decrement hsound.bounded
  obtain ⟨⟨hcounter, hpending, hstep, hwait⟩, hannotated⟩ := hsound
  unfold EnableAccessState.faultStep
  dsimp only
  split
  · split
    · rename_i hdemand
      rw [Bool.and_eq_true] at hdemand
      split
      · exact ⟨⟨hcounter, hpending, hstep, hwait⟩, hdemand.1⟩
      · split
        · exact ⟨⟨hcounter, hpending, hstep, hwait⟩, hdemand.1⟩
        · split
          · exact ⟨⟨hcounter, hpending, hstep, hwait⟩, hdemand.1⟩
          · exact ⟨⟨hcounter, hpending, hstep, hwait⟩, trivial⟩
    · exact ⟨⟨hcounter, hpending, hstep, hwait⟩, trivial⟩
  · rename_i haccess
    rw [haccess] at hannotated
    exact ⟨⟨hcounter, hpending, hstep, stepDelayCycles_lt⟩, hannotated⟩
  · exact ⟨⟨hcounter, hpending, Nat.zero_le 4, hwait⟩, trivial⟩
  · rename_i haccess
    rw [haccess] at hannotated
    -- the second look at the status word sees the fault that led here
    have hfault : isCiA402Fault state.ctx.statusWord = true := hannotated
    split
    · exact ⟨⟨hcounter, hpending, hstep, hwait⟩, hannotated⟩
    · split
      · exact ⟨⟨hcounter, hpending, hstep, hwait⟩, hannotated⟩
      · rw [hfault, Bool.not_true, if_neg Bool.false_ne_true]
        exact ⟨⟨hcounter, hpending, hstep, hwait⟩, hannotated⟩
  · exact ⟨hdecremented, trivial⟩
  · exact ⟨⟨hcounter, hpending, hstep, stepDelayCycles_lt⟩, trivial⟩
  · exact ⟨⟨hcounter, hpending, hstep, Nat.zero_lt_succ _⟩, trivial⟩

theorem Sound.sequenceStep {state : EnableAccessState} (hsound : state.Sound) :
    state.sequenceStep.Sound := by
  obtain ⟨⟨hcounter, hpending, hstep, hwait⟩, hannotated⟩ := hsound
  unfold EnableAccessState.sequenceStep
  dsimp only
  split
  · split
    · rename_i hlt
      exact ⟨⟨hcounter, hpending, hstep, hwait⟩, hlt⟩
    · exact ⟨⟨hcounter, hpending, hstep, hwait⟩, trivial⟩
  · rename_i haccess
    rw [haccess] at hannotated
    exact ⟨⟨hcounter, hpending, hstep, hwait⟩, hannotated⟩
  · rename_i haccess
    rw [haccess] at hannotated
    have hlt : state.fsm.step < 4 := hannotated
    refine ⟨⟨hcounter, hpending, ?_, hwait⟩, trivial⟩
    show increment state.fsm.step ≤ 4
    rw [increment_of_lt hlt]
    exact hlt
  · exact ⟨⟨hcounter, hpending, hstep, stepDelayCycles_lt⟩, trivial⟩
  · exact ⟨⟨hcounter, hpending, hstep, hwait⟩, trivial⟩
  · exact ⟨⟨hcounter, hpending, Nat.zero_le 4, hwait⟩, trivial⟩
  · exact ⟨⟨rfl, hpending, hstep, Nat.zero_lt_succ _⟩, trivial⟩

theorem bounded_recordControlWord (ctx : TxContext) {fsm : EnableFsm} (hbounded : fsm.Bounded) :
    (fsm.recordControlWord ctx).Bounded := by
  rw [EnableFsm.recordControlWord_of_plain hbounded.plain]
  exact ⟨hbounded.faultResetCounter_eq, hbounded.not_pending, hbounded.step_le, hbounded.wait_lt⟩

theorem Sound.accessStep {state : EnableAccessState} (hsound : state.Sound) :
    state.accessStep.Sound := by
  obtain ⟨hcounter, hpending, hstep, hwait⟩ := hsound.bounded
  unfold EnableAccessState.accessStep
  dsimp only
  split
  · exact hsound
  · exact hsound.debounceStep
  · exact hsound.debounceStep
  · exact hsound.debounceStep
  · exact hsound.monitorStep
  · exact hsound.monitorStep
  · exact hsound.monitorStep
  · exact hsound.monitorStep
  · exact hsound.monitorStep
  · exact hsound.resumeStep
  · exact hsound.resumeStep
  · exact hsound.resumeStep
  · exact hsound.resumeStep
  · split <;> exact ⟨⟨hcounter, hpending, hstep, hwait⟩, trivial⟩
  · split <;> exact ⟨⟨hcounter, hpending, hstep, hwait⟩, trivial⟩
  · split <;> exact ⟨⟨hcounter, hpending, hstep, hwait⟩, trivial⟩
  · exact ⟨⟨hcounter, hpending, hstep, hwait⟩, trivial⟩
  · split <;> exact ⟨⟨hcounter, hpending, hstep, hwait⟩, trivial⟩
  · exact ⟨bounded_decrement hsound.bounded, trivial⟩
  · exact hsound.faultStep
  · exact hsound.faultStep
  · exact hsound.faultStep
  · exact hsound.faultStep
  · exact hsound.faultStep
  · exact hsound.faultStep
  · exact hsound.faultStep
  · exact ⟨⟨hcounter, hpending, hstep, hwait⟩, trivial⟩
  · exact hsound.sequenceStep
  · exact hsound.sequenceStep
  · exact hsound.sequenceStep
  · exact hsound.sequenceStep
  · exact hsound.sequenceStep
  · exact hsound.sequenceStep
  · exact hsound.sequenceStep
  · exact ⟨bounded_recordControlWord state.ctx hsound.bounded, trivial⟩

theorem Sound.next {state : EnableAccessState} (hsound : state.Sound)
    (action : EnableAccessAction) : (state.next action).Sound := by
  cases action with
  | call => exact hsound.callStep
  | execute ctx => exact hsound.execute ctx
  | access => exact hsound.accessStep

end EnableAccessState

namespace EnableFsm

/-- Whatever a call does between the accesses of executions, a bounded machine stays bounded. -/
theorem Bounded.exec {fsm : EnableFsm} (hbounded : fsm.Bounded) (enable : Bool) (ctx : TxContext)
    (actions : List EnableAccessAction) :
    (EnableAccessState.machine.exec
      (Config.start { fsm := fsm, enable := enable, ctx := ctx }) actions).state.Sound := by
  have hstart : (Config.start { fsm := fsm, enable := enable, ctx := ctx } :
      EnableAccessConfig).state.Sound := ⟨hbounded, trivial⟩
  have hstep : ∀ (config : EnableAccessConfig) (action : EnableAccessAction),
      config.state.Sound → (EnableAccessState.machine.advance config action).state.Sound :=
    fun config action hsound => hsound.next action
  exact EnableAccessState.machine.exec_invariant hstep actions hstart

/-- An execution is an interleaving without a call. -/
theorem Bounded.sendDataCommon {fsm : EnableFsm} (hbounded : fsm.Bounded) (ctx : TxContext) :
    (fsm.sendDataCommon ctx).1.Bounded := by
  have hstart : ({ fsm := fsm, ctx := ctx } : EnableAccessState).Sound := ⟨hbounded, trivial⟩
  have haccess : ∀ (count : Nat) (state : EnableAccessState), state.Sound →
      (EnableAccessState.accessStep^[count] state).Sound := by
    intro count
    induction count with
    | zero => exact fun _ hsound => hsound
    | succ count ih => exact fun state hsound => ih state.accessStep hsound.accessStep
  obtain ⟨count, hreach⟩ := EnableAccessState.reaches_executed { fsm := fsm, ctx := ctx } ctx
    rfl hbounded.plain hbounded.wait_lt
  have hsound := haccess count _ (hstart.execute ctx)
  rw [hreach] at hsound
  exact hsound.bounded

theorem bounded_shutdownForModeChange {fsm : EnableFsm} (hbounded : fsm.Bounded) :
    fsm.shutdownForModeChange.Bounded := by
  unfold shutdownForModeChange
  split
  · exact hbounded
  · exact ⟨hbounded.faultResetCounter_eq, hbounded.not_pending, hbounded.step_le, hbounded.wait_lt⟩

theorem Reached.bounded {fsm : EnableFsm} (hreached : fsm.Reached) : fsm.Bounded := by
  induction hreached with
  | fresh => exact ⟨rfl, rfl, Nat.zero_le 4, by decide⟩
  | activate hfsm ih => exact ⟨ih.faultResetCounter_eq, ih.not_pending, ih.step_le, ih.wait_lt⟩
  | startEnable enable hfsm ih =>
      exact ⟨ih.faultResetCounter_eq, ih.not_pending, Nat.zero_le 4, Nat.zero_lt_succ _⟩
  | sendDataCommon ctx hfsm ih => exact ih.sendDataCommon ctx
  | shutdownForModeChange hfsm ih => exact bounded_shutdownForModeChange ih
  | forceSafe entering safeControlWord hfsm ih =>
      cases entering with
      | false => exact ⟨ih.faultResetCounter_eq, ih.not_pending, ih.step_le, ih.wait_lt⟩
      | true => exact ⟨rfl, ih.not_pending, Nat.zero_le 4, Nat.zero_lt_succ _⟩
  | interleaved enable ctx actions hfsm hreturned hidle ih =>
      exact (ih.exec enable ctx actions).bounded

end EnableFsm

namespace EnableMachine

theorem reached_next {index : Nat} {servo : Servo} (action : EnableAction)
    (hreached : servo.MotionAt index fun axis => axis.fsm.Reached) :
    (next servo action).MotionAt index fun axis => axis.fsm.Reached := by
  cases action with
  | setEnable flags motorId enable =>
      exact hreached.setEnable fun axis _ _ _ haxis => haxis.startEnable enable
  | setOperationMode motorId mode =>
      refine hreached.setOperationMode fun axis _ _ _ haxis => ?_
      unfold Axis.applyMode
      split
      · exact haxis
      · exact haxis.shutdownForModeChange
  | safeOutput safeOutputActive resetCycles resetAxis inputs =>
      have hreceived := hreached.receiveData inputs fun axis haxis => haxis
      exact Servo.MotionAt.applySafe (by exact hreceived) fun axis _ _ haxis => haxis.forceSafe _ _
  | sendData domain inputs =>
      have hreceived := hreached.receiveData inputs fun axis haxis => haxis
      exact hreceived.sendData fun axis _ haxis => haxis.sendDataCommon _

/-- In every run of a servo the machine of each motion axis is a reached one. -/
theorem motionAt_reached (setup : ServoSetup) (index : Nat) (actions : List EnableAction) :
    (machine.exec (Config.start setup.servo) actions).state.MotionAt index
      fun axis => axis.fsm.Reached := by
  have hstart : (Config.start setup.servo : EnableConfig).state.MotionAt index
      fun axis => axis.fsm.Reached := by
    refine (fresh_setup setup index).imp fun axis hfresh => ?_
    rw [hfresh]
    exact .fresh
  have hstep : ∀ (config : EnableConfig) (action : EnableAction),
      (config.state.MotionAt index fun axis => axis.fsm.Reached) →
        (machine.advance config action).state.MotionAt index fun axis => axis.fsm.Reached :=
    fun config action hreached => reached_next action hreached
  exact machine.exec_invariant hstep actions hstart

end EnableMachine

end IghMaster
