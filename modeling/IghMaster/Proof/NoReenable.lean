import IghMaster.BackendHistory
import IghMaster.Proof.DriveSteps

/-!
# No enable without a request

After a safe cycle every motion axis is inert: nothing is demanded of it, its machine is idle and
its words are at the level of Shutdown. Only an accepted enable wakes it up, since every part of the
machine that starts on its own asks for the demand first.
-/

namespace IghMaster

open Transition

namespace Axis

/-- No enable is demanded, the machine is idle and the words in place do not raise the drive. -/
structure Inert (axis : Axis) : Prop where
  desiredEnable_eq : axis.fsm.desiredEnable = false
  enableRequested_eq : axis.fsm.enableRequested = false
  active_eq : axis.fsm.active = false
  state_level : driveLevel axis.fsm.controlWordState = 0
  output_level : driveLevel axis.output.controlWord = 0

theorem Inert.of_sameDrive {axis after : Axis} (hinert : axis.Inert)
    (hsame : axis.SameDrive after) : after.Inert where
  desiredEnable_eq := hsame.fsm_eq ▸ hinert.desiredEnable_eq
  enableRequested_eq := hsame.fsm_eq ▸ hinert.enableRequested_eq
  active_eq := hsame.fsm_eq ▸ hinert.active_eq
  state_level := hsame.fsm_eq ▸ hinert.state_level
  output_level := hsame.output_eq ▸ hinert.output_level

theorem Inert.not_running {axis : Axis} (hinert : axis.Inert) : axis.fsm.running = false := by
  unfold EnableFsm.running
  rw [hinert.desiredEnable_eq, hinert.enableRequested_eq, hinert.active_eq]
  rfl

theorem Inert.applyMode {axis : Axis} (hinert : axis.Inert) (mode : OperationMode) :
    (axis.applyMode mode).Inert := by
  unfold Axis.applyMode
  split
  · exact hinert
  · constructor
    · exact (axis.fsm.desiredEnable_shutdownForModeChange).trans hinert.desiredEnable_eq
    · exact (axis.fsm.enableRequested_shutdownForModeChange).trans hinert.enableRequested_eq
    · exact (axis.fsm.active_shutdownForModeChange).trans hinert.active_eq
    · change driveLevel axis.fsm.shutdownForModeChange.controlWordState = 0
      rcases axis.fsm.controlWordState_shutdownForModeChange with hkept | hshutdown
      · rw [hkept]
        exact hinert.state_level
      · rw [hshutdown]
        exact driveLevel_switchOn
    · exact hinert.output_level

theorem inert_applySafe {axis : Axis} (hsound : axis.Sound) (entering : Bool)
    (actualPosition : Int32) {word : UInt16} (hword : driveLevel word = 0) :
    (axis.applySafe entering actualPosition word).Inert := by
  have houtput : (axis.applySafe entering actualPosition word).output.controlWord = word := by
    simp [Axis.applySafe, hsound.mapped.controlWord]
  constructor
  · cases entering <;> rfl
  · cases entering <;> rfl
  · cases entering <;> rfl
  · cases entering <;> exact hword
  · rw [houtput]
    exact hword

theorem Inert.sendData {axis : Axis} (hinert : axis.Inert) (hsound : axis.Sound) (wcOk : Bool) :
    (axis.sendData true wcOk).Inert := by
  obtain ⟨persist, loss, hprepared⟩ :=
    (EnableFsm.prepare_cases (axis.txContext true wcOk) hsound.plain).eq_of_not_desired
      hinert.desiredEnable_eq
  have hstep : axis.fsm.stepFsm (axis.txContext true wcOk) =
      { axis.fsm with
        faultPersistCounter := persist, monitorLossCounter := loss, faultResetPhase := 0 } := by
    rw [EnableFsm.stepFsm_eq_advance_prepare, hprepared]
    exact EnableFsm.advance_of_not_running hinert.not_running
  have hsent := EnableFsm.sendDataCommon_of_plain (axis.txContext true wcOk) hsound.plain rfl
  rw [hstep] at hsent
  have hfsm : (axis.sendData true wcOk).fsm = _ := congrArg Prod.fst hsent
  have hword : (axis.sendData true wcOk).output.controlWord = _ := congrArg Prod.snd hsent
  constructor
  · rw [hfsm]
    exact hinert.desiredEnable_eq
  · rw [hfsm]
    exact hinert.enableRequested_eq
  · rw [hfsm]
    exact hinert.active_eq
  · rw [hfsm]
    exact hinert.state_level
  · rw [hword]
    exact hinert.state_level

theorem Inert.activateAxis {axis : Axis} (hinert : axis.Inert) :
    (Servo.activateAxis axis).Inert :=
  ⟨hinert.desiredEnable_eq, rfl, hinert.active_eq, driveLevel_switchOn, rfl⟩

end Axis

namespace Backend

/-- No enable was accepted since a Job cycle went through the safe outputs: then no motion axis is
written a word that switches it on, and no enable is under way. -/
def NoAutomaticReenable (config : BackendConfig) : Prop :=
  Since (fun visit => acceptsEnable visit = false) (fun visit => isSafeCycle visit = true)
      config.history →
    ∀ axis ∈ config.state.servo.axes, axis.isMotion = true →
      axis.fsm.enableRequested = false ∧ axis.fsm.active = false ∧
        axis.output.controlWord ≠ controlWordEnableVoltage ∧
        axis.output.controlWord ≠ controlWordEnableOperation ∧
        axis.output.controlWord ≠ controlWordKeepOperation

def AllInert (backend : Backend) : Prop := ∀ index, backend.servo.MotionAt index Axis.Inert

theorem accepted_of_startsEnable {servo : Servo} {flags : RuntimeFlags} {motorId : UInt8}
    {enable : Bool} {index : Nat}
    (hstarts : servo.startsEnable flags motorId enable index = true) :
    (servo.setEnable flags motorId enable).2 = true := by
  unfold Servo.startsEnable at hstarts
  simp only [Bool.and_eq_true, Bool.not_eq_true'] at hstarts
  obtain ⟨⟨⟨hactivated, hgates⟩, hevidence⟩, haddressed⟩ := hstarts
  unfold Servo.setEnable
  rw [hactivated, hgates, hevidence]
  simp only [Bool.not_true, Bool.false_eq_true, if_false]
  by_cases hbroadcast : (motorId == 0xFF) = true
  · rw [if_pos hbroadcast]
    split <;> rfl
  · rw [if_neg hbroadcast] at haddressed ⊢
    rw [Bool.and_eq_true, beq_iff_eq] at haddressed
    obtain ⟨rfl, hany⟩ := haddressed
    cases haxis : servo.axes[motorId.toNat]? with
    | none => simp [haxis] at hany
    | some axis =>
        dsimp only
        split <;> rfl

theorem AllInert.not_startsEnable {backend : Backend} (hinert : backend.AllInert)
    (motorId : UInt8) {index : Nat} {axis : Axis}
    (haxis : backend.servo.axes[index]? = some axis) (hmotion : axis.isMotion = true) :
    backend.servo.startsEnable backend.flags motorId false index = false := by
  rw [← Bool.not_eq_true]
  intro hstarts
  unfold Servo.startsEnable at hstarts
  rw [Bool.and_eq_true] at hstarts
  have haddressed := hstarts.2
  by_cases hbroadcast : (motorId == 0xFF) = true
  · -- a broadcast stores something only where some motion axis is still to be enabled
    rw [if_pos hbroadcast] at haddressed
    obtain ⟨other, hmem, hother⟩ := List.any_eq_true.mp haddressed
    obtain ⟨position, hposition⟩ := List.mem_iff_getElem?.mp hmem
    rw [Bool.and_eq_true] at hother
    have hdesired := (hinert position other hposition hother.1).desiredEnable_eq
    simp [hdesired] at hother
  · rw [if_neg hbroadcast] at haddressed
    have hdesired := (hinert index axis haxis hmotion).desiredEnable_eq
    simp [haxis, hdesired] at haddressed

theorem inert_newAxis (config : MotorConfig) (offsets : PdoOffsets) (word : FaultResetWord) :
    Axis.Inert { config := config, offsets := offsets, faultResetCw := word } :=
  ⟨rfl, rfl, rfl, driveLevel_switchOn, rfl⟩

theorem AllInert.next {backend : Backend} (hinert : backend.AllInert) (hsound : backend.Sound)
    {action : BackendAction} (hrefused : acceptsEnable (machine.visit backend action) = false) :
    AllInert (Backend.next backend action) := by
  intro index
  have hboth := (hsound.axes index).and (hinert index)
  refine motionAt_next hsound.formed hboth (fun _ _ _ _ _ => inert_newAxis _ _ _) ?_
  intro axis haxis hmotion haxisBoth
  obtain ⟨haxisSound, haxisInert⟩ := haxisBoth
  have hstep := driveStep_axisNext backend index action hmotion
  revert hstep
  generalize backend.axisNext index action axis = after
  intro hstep
  cases hstep with
  | kept after hsame hidle => exact haxisInert.of_sameDrive hsame
  | enabled motorId enable haction hstarts =>
      cases enable with
      | true =>
          subst haction
          have haccepted : acceptsEnable (machine.visit backend (.call (.setEnable motorId true))) =
              true := accepted_of_startsEnable hstarts
          exact absurd (hrefused.symm.trans haccepted) (by simp)
      | false =>
          have hnone := hinert.not_startsEnable motorId haxis hmotion
          exact absurd (hnone.symm.trans hstarts) (by simp)
  | modeChanged motorId mode haction hcovers => exact haxisInert.applyMode mode
  | activated input positioned haction hinactive hsame =>
      exact (haxisInert.of_sameDrive hsame).activateAxis
  | safe input received haction hrunning hsafe hreceived =>
      subst hreceived
      have hreceivedSound := haxisSound.of_sameDrive (sameDrive_inputAxis backend index input axis)
      exact Axis.inert_applySafe hreceivedSound _ _ (Servo.driveLevel_safeControlWord _ _ _)
  | sent input received haction hrunning hsafe hreceived =>
      subst hreceived
      have hsame := sameDrive_inputAxis backend index input axis
      exact (haxisInert.of_sameDrive hsame).sendData (haxisSound.of_sameDrive hsame) _

/-- A safe cycle of a running Job makes every motion axis inert. -/
theorem allInert_of_isSafeCycle {backend : Backend} (hsound : backend.Sound)
    {action : BackendAction} (hsafe : isSafeCycle (machine.visit backend action) = true) :
    AllInert (Backend.next backend action) := by
  cases action with
  | job input =>
      rw [isSafeCycle_job, Bool.and_eq_true] at hsafe
      intro index
      refine motionAt_next hsound.formed (hsound.axes index)
        (fun _ _ _ _ _ => inert_newAxis _ _ _) ?_
      intro axis haxis hmotion haxisSound
      simp only [axisNext, hmotion, hsafe.1, Bool.and_true, if_true, jobAxis, if_pos hsafe.2]
      have hreceivedSound := haxisSound.of_sameDrive (sameDrive_inputAxis backend index input axis)
      exact Axis.inert_applySafe hreceivedSound _ _ (Servo.driveLevel_safeControlWord _ _ _)
  | _ => exact absurd hsafe (by simp [isSafeCycle])

/-- In every run, after a safe cycle no motion axis is switched on unless an enable is accepted. -/
theorem noAutomaticReenable (actions : List BackendAction) :
    NoAutomaticReenable (machine.exec (Config.start {}) actions) := by
  intro hsince axis hmem hmotion
  have hinert : AllInert (machine.exec (Config.start {}) actions).state := by
    refine machine.since_invariant (fun config => config.state.Sound)
      (fun config => AllInert config.state) ?_ ?_ ?_ actions sound_default hsince
    · exact fun config action hsound => hsound.next action
    · exact fun config action hsound hsafe => allInert_of_isSafeCycle hsound hsafe
    · exact fun config action hsound hinert hrefused => hinert.next hsound hrefused
  obtain ⟨index, haxis⟩ := List.mem_iff_getElem?.mp hmem
  have haxisInert := hinert index axis haxis hmotion
  refine ⟨haxisInert.enableRequested_eq, haxisInert.active_eq, ?_, ?_, ?_⟩
  · intro hword
    exact absurd haxisInert.output_level (by rw [hword]; decide)
  · intro hword
    exact absurd haxisInert.output_level (by rw [hword]; decide)
  · intro hword
    exact absurd haxisInert.output_level (by rw [hword]; decide)

end Backend

end IghMaster
