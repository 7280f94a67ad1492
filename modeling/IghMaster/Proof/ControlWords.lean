import IghMaster.Proof.DriveSteps

/-!
# The words that are sent to a drive

Whatever an action does to the enable machine of an axis, its word is one that the servo knows, and only
the zero of a fresh process image is sent besides.
-/

namespace IghMaster

theorem mem_commandWords_switchOn : controlWordSwitchOn ∈ commandWords := List.mem_cons_self

theorem mem_commandWords_reset (word : FaultResetWord) : word.value ∈ commandWords := by
  rcases word.value_eq with hword | hword
  · rw [hword]
    decide
  · rw [hword]
    decide

theorem mem_commandWords_enable (step : Nat) : cia402EnableSequence step ∈ commandWords := by
  unfold cia402EnableSequence
  split <;> decide

theorem mem_commandWords_disable (step : Nat) : cia402DisableSequence step ∈ commandWords := by
  unfold cia402DisableSequence
  split <;> decide

namespace EnableFsm

variable {ctx : TxContext} {fsm : EnableFsm}

theorem controlWord_faultResetStep (hword : fsm.controlWordState ∈ commandWords) :
    (faultResetStep ctx fsm).controlWordState ∈ commandWords := by
  unfold faultResetStep
  split
  · exact mem_commandWords_reset ctx.faultResetCw
  · split
    · dsimp only
      split <;> exact mem_commandWords_reset ctx.faultResetCw
    · split
      · dsimp only
        split
        · exact mem_commandWords_switchOn
        · split <;> exact mem_commandWords_switchOn
      · exact hword

theorem controlWord_enableStep (hword : fsm.controlWordState ∈ commandWords) :
    (enableStep fsm).controlWordState ∈ commandWords := by
  unfold enableStep
  split
  · exact mem_commandWords_enable fsm.step
  · exact hword

theorem controlWord_disableStep (hword : fsm.controlWordState ∈ commandWords) :
    (disableStep fsm).controlWordState ∈ commandWords := by
  unfold disableStep
  split
  · exact mem_commandWords_disable fsm.step
  · exact hword

theorem controlWord_advance (hword : fsm.controlWordState ∈ commandWords) :
    (advance ctx fsm).controlWordState ∈ commandWords := by
  have hadvanced := advance_cases ctx fsm
  generalize advance ctx fsm = after at hadvanced ⊢
  cases hadvanced with
  | rested hrunning => exact hword
  | waited hrunning hwait => exact hword
  | disabled hrunning hwait hdesired =>
      apply controlWord_disableStep
      exact hword
  | enabled hrunning hwait hdesired hfault =>
      apply controlWord_enableStep
      exact hword
  | faulted hrunning hwait hdesired hfault =>
      apply controlWord_faultResetStep
      exact hword

theorem controlWord_stepFsm (hplain : fsm.Plain) (hword : fsm.controlWordState ∈ commandWords) :
    (fsm.stepFsm ctx).controlWordState ∈ commandWords := by
  rw [stepFsm_eq_advance_prepare]
  apply controlWord_advance
  have hprepared := prepare_cases ctx hplain
  generalize prepare ctx fsm = prepared at hprepared ⊢
  cases hprepared with
  | quiet persist loss phase hphase => exact hword
  | faultTripped loss hfault hsupervised => exact hword
  | lossTripped persist hfault hsupervised => exact mem_commandWords_switchOn

/-- What one execution of a machine writes while the servo is activated. -/
theorem written_mem_commandWords (hplain : fsm.Plain) (hactivated : ctx.activated = true)
    (hword : fsm.controlWordState ∈ commandWords) : (fsm.sendDataCommon ctx).2 ∈ commandWords := by
  rw [sendDataCommon_of_plain ctx hplain hactivated]
  exact controlWord_stepFsm hplain hword

end EnableFsm

namespace Axis

/-- The machine's word, and what the drive is sent. -/
structure Worded (axis : Axis) : Prop where
  state : axis.fsm.controlWordState ∈ commandWords
  output : axis.output.controlWord ∈ commandWords ∨ axis.output.controlWord = 0

theorem Worded.of_sameDrive {axis after : Axis} (hworded : axis.Worded) (hsame : axis.SameDrive after) :
    after.Worded where
  state := by
    rw [hsame.fsm_eq]
    exact hworded.state
  output := by
    rw [hsame.output_eq]
    exact hworded.output

theorem sent_mem_commandWords {axis : Axis} (hsound : axis.Sound)
    (hword : axis.fsm.controlWordState ∈ commandWords) (wcOk : Bool) :
    (axis.sendData true wcOk).output.controlWord ∈ commandWords :=
  EnableFsm.written_mem_commandWords hsound.plain rfl hword

theorem Worded.driveStep {backend : Backend} {index : Nat} {action : BackendAction}
    {axis after : Axis} (hworded : axis.Worded) (hsound : axis.Sound)
    (hstep : Backend.DriveStep backend index action axis after) : after.Worded := by
  cases hstep with
  | kept after hsame hidle => exact hworded.of_sameDrive hsame
  | enabled motorId enable haction hstarts => exact ⟨hworded.state, hworded.output⟩
  | modeChanged motorId mode haction hcovers =>
      unfold applyMode
      split
      · exact hworded
      · refine ⟨?_, hworded.output⟩
        rcases axis.fsm.controlWordState_shutdownForModeChange with hkept | hshutdown
        · exact hkept ▸ hworded.state
        · exact hshutdown ▸ mem_commandWords_switchOn
  | activated input positioned haction hinactive hsame =>
      exact ⟨mem_commandWords_switchOn, Or.inr rfl⟩
  | safe input received haction hrunning hsafe hreceived =>
      subst hreceived
      have hreceived := hworded.of_sameDrive (Backend.sameDrive_inputAxis backend index input axis)
      have hword : backend.servo.safeControlWord index axis ∈ commandWords := by
        rcases backend.servo.safeControlWord_cases index axis with hword | ⟨-, -, hword⟩
        · rw [hword]
          exact mem_commandWords_switchOn
        · rw [hword]
          exact mem_commandWords_reset axis.faultResetCw
      refine ⟨?_, ?_⟩
      · unfold applySafe EnableFsm.forceSafe
        exact hword
      · unfold applySafe
        dsimp only
        split
        · exact Or.inl hword
        · exact hreceived.output
  | sent input received haction hrunning hsafe hreceived =>
      subst hreceived
      have hsame := Backend.sameDrive_inputAxis backend index input axis
      have hword := sent_mem_commandWords (hsound.of_sameDrive hsame) (hworded.of_sameDrive hsame).state
        (input.domain.wcState == .complete)
      have hsent := hword
      refine ⟨?_, Or.inl hword⟩
      change (EnableFsm.sendDataCommon _ _).2 ∈ commandWords at hsent
      change (EnableFsm.sendDataCommon _ _).1.controlWordState ∈ commandWords
      rw [EnableFsm.sendDataCommon_of_plain _ (hsound.of_sameDrive hsame).plain rfl] at hsent ⊢
      exact hsent

end Axis

namespace Backend

/-- A backend of some run whose drives have only seen words that the servo knows. -/
structure Worded (backend : Backend) : Prop where
  sound : backend.Sound
  axes : ∀ index, backend.servo.MotionAt index Axis.Worded

theorem worded_default : ({} : Backend).Worded :=
  ⟨sound_default, fun _ _ haxis => absurd haxis (by simp)⟩

theorem Worded.next {backend : Backend} (hworded : backend.Worded) (action : BackendAction) :
    (next backend action).Worded := by
  refine ⟨hworded.sound.next action, fun index => ?_⟩
  refine motionAt_next hworded.sound.formed
    ((hworded.axes index).and (hworded.sound.axes index)) ?_ ?_
  · intro bus slave config offsets hoffsets
    exact ⟨mem_commandWords_switchOn, Or.inr rfl⟩
  · rintro axis haxis hmotion ⟨haxisWorded, haxisSound⟩
    exact haxisWorded.driveStep haxisSound (driveStep_axisNext backend index action hmotion)

end Backend

end IghMaster
