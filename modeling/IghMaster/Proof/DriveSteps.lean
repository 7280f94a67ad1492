import IghMaster.Proof.BackendAxes
import IghMaster.Proof.EnableFsm

/-!
# What reaches the drive

Of all that an action may change about an axis, the drive sees the enable machine and the process
image. `DriveStep` lists what an action can do to these. `Sound` is what holds of every motion axis
in every run: the machine is plain and the entries that are not mapped stay zero.
-/

namespace IghMaster

namespace Axis

/-- Only setpoints, freshness and cached inputs may differ. -/
structure SameDrive (axis after : Axis) : Prop where
  fsm_eq : after.fsm = axis.fsm
  offsets_eq : after.offsets = axis.offsets
  output_eq : after.output = axis.output
  faultResetCw_eq : after.faultResetCw = axis.faultResetCw
  mode_eq : after.mode = axis.mode

namespace SameDrive

theorem refl (axis : Axis) : axis.SameDrive axis := ⟨rfl, rfl, rfl, rfl, rfl⟩

theorem trans {first second third : Axis} (hfirst : first.SameDrive second)
    (hsecond : second.SameDrive third) : first.SameDrive third where
  fsm_eq := hsecond.fsm_eq.trans hfirst.fsm_eq
  offsets_eq := hsecond.offsets_eq.trans hfirst.offsets_eq
  output_eq := hsecond.output_eq.trans hfirst.output_eq
  faultResetCw_eq := hsecond.faultResetCw_eq.trans hfirst.faultResetCw_eq
  mode_eq := hsecond.mode_eq.trans hfirst.mode_eq

end SameDrive

theorem sameDrive_tripStale (csvCmdWatchdog : Bool) (nowNs : Nat) (axis : Axis) :
    axis.SameDrive (axis.tripStale csvCmdWatchdog nowNs) := by
  unfold tripStale
  split_ifs <;> exact ⟨rfl, rfl, rfl, rfl, rfl⟩

theorem sameDrive_contentionFallback (csvCmdWatchdog : Bool) (axis : Axis) :
    axis.SameDrive (axis.contentionFallback csvCmdWatchdog) := by
  unfold contentionFallback
  split_ifs <;> exact ⟨rfl, rfl, rfl, rfl, rfl⟩

theorem sameDrive_setInitialPosition (reads : List Int32) (axis : Axis) :
    axis.SameDrive (Servo.setInitialPosition reads axis) := by
  unfold Servo.setInitialPosition
  split <;> exact ⟨rfl, rfl, rfl, rfl, rfl⟩

end Axis

namespace Backend

theorem sameDrive_inputAxis (backend : Backend) (index : Nat) (input : JobInput) (axis : Axis) :
    axis.SameDrive (backend.inputAxis index input axis) := by
  unfold inputAxis
  dsimp only
  split
  · have htripped := axis.sameDrive_tripStale backend.servo.csvCmdWatchdog input.freshnessNowNs
    exact htripped.trans ⟨rfl, rfl, rfl, rfl, rfl⟩
  · exact ⟨rfl, rfl, rfl, rfl, rfl⟩

/-- What an action can do to the part of a motion axis that reaches the drive. -/
inductive DriveStep (backend : Backend) (index : Nat) (action : BackendAction) (axis : Axis) :
    Axis → Prop
  | kept (after : Axis) (hsame : axis.SameDrive after)
      (hidle : ∀ input, action = .job input → backend.runtime.jobRunning = false) :
      DriveStep backend index action axis after
  | enabled (motorId : UInt8) (enable : Bool) (haction : action = .call (.setEnable motorId enable))
      (hstarts : backend.servo.startsEnable backend.flags motorId enable index = true) :
      DriveStep backend index action axis (axis.startEnable enable)
  | modeChanged (motorId : UInt8) (mode : OperationMode)
      (haction : action = .call (.setOperationMode motorId mode))
      (hcovers : Servo.covers motorId index = true) :
      DriveStep backend index action axis (axis.applyMode mode)
  | activated (input : BringUpInput) (positioned : Axis) (haction : action = .bringUp input)
      (hinactive : backend.servo.activated = false) (hsame : axis.SameDrive positioned) :
      DriveStep backend index action axis (Servo.activateAxis positioned)
  | safe (input : JobInput) (received : Axis) (haction : action = .job input)
      (hrunning : backend.runtime.jobRunning = true) (hsafe : backend.cycleIsSafe input = true)
      (hreceived : received = backend.inputAxis index input axis) :
      DriveStep backend index action axis
        (received.applySafe (!backend.servo.safeOutputActive) (backend.safePosition index input)
          (backend.servo.safeControlWord index axis))
  | sent (input : JobInput) (received : Axis) (haction : action = .job input)
      (hrunning : backend.runtime.jobRunning = true) (hsafe : backend.cycleIsSafe input = false)
      (hreceived : received = backend.inputAxis index input axis) :
      DriveStep backend index action axis
        (received.sendData true (input.domain.wcState == .complete))

theorem driveStep_bringUpAxis (backend : Backend) (index : Nat) (input : BringUpInput)
    (axis : Axis) :
    DriveStep backend index (.bringUp input) axis (backend.bringUpAxis index input axis) := by
  obtain ⟨positioned, hpositioned, hnext⟩ := backend.bringUpAxis_cases index input axis
  have hsame : axis.SameDrive positioned := by
    rcases hpositioned with rfl | rfl
    · exact Axis.SameDrive.refl _
    · exact axis.sameDrive_setInitialPosition _
  rcases hnext with hnext | ⟨hinactive, hnext⟩
  · rw [hnext]
    exact .kept _ hsame (by simp)
  · rw [hnext]
    exact .activated input positioned rfl hinactive hsame

theorem driveStep_performAxis (backend : Backend) (index : Nat) (call : ServoCall) (axis : Axis) :
    DriveStep backend index (.call call) axis
      (backend.servo.performAxis backend.flags index call axis) := by
  cases call with
  | setEnable motorId enable =>
      simp only [Servo.performAxis]
      split
      · rename_i hstarts
        rw [Bool.and_eq_true] at hstarts
        exact .enabled motorId enable rfl hstarts.1
      · exact .kept _ (Axis.SameDrive.refl axis) (by simp)
  | setOperationMode motorId mode =>
      simp only [Servo.performAxis]
      split
      · rename_i hcovers
        exact .modeChanged motorId mode rfl hcovers
      · exact .kept _ (Axis.SameDrive.refl axis) (by simp)
  | applyCommandContentionFallback =>
      simp only [Servo.performAxis]
      split
      · exact .kept _ (axis.sameDrive_contentionFallback _) (by simp)
      · exact .kept _ (Axis.SameDrive.refl axis) (by simp)
  | setTargetPosition motorId position overrideFilter =>
      simp only [Servo.performAxis]
      split <;> exact .kept _ ⟨rfl, rfl, rfl, rfl, rfl⟩ (by simp)
  | setIdleInputPosition motorId position =>
      simp only [Servo.performAxis]
      split <;> exact .kept _ ⟨rfl, rfl, rfl, rfl, rfl⟩ (by simp)
  | setTargetVelocity motorId velocity overrideIdle source nowNs =>
      simp only [Servo.performAxis]
      split <;> exact .kept _ ⟨rfl, rfl, rfl, rfl, rfl⟩ (by simp)
  | setIdleInputVelocity motorId velocity =>
      simp only [Servo.performAxis]
      split <;> exact .kept _ ⟨rfl, rfl, rfl, rfl, rfl⟩ (by simp)
  | setTargetTorque motorId torque source nowNs =>
      simp only [Servo.performAxis]
      split <;> exact .kept _ ⟨rfl, rfl, rfl, rfl, rfl⟩ (by simp)

theorem driveStep_axisNext (backend : Backend) (index : Nat) (action : BackendAction) {axis : Axis}
    (hmotion : axis.isMotion = true) :
    DriveStep backend index action axis (backend.axisNext index action axis) := by
  cases action with
  | bringUp input => exact driveStep_bringUpAxis backend index input axis
  | call call => exact driveStep_performAxis backend index call axis
  | job input =>
      simp only [axisNext, hmotion, Bool.and_true]
      by_cases hrunning : backend.runtime.jobRunning = true
      · rw [if_pos hrunning]
        unfold jobAxis
        by_cases hsafe : backend.cycleIsSafe input = true
        · rw [if_pos hsafe]
          exact .safe input _ rfl hrunning hsafe rfl
        · rw [if_neg hsafe]
          exact .sent input _ rfl hrunning (by simpa using hsafe) rfl
      · rw [if_neg hrunning]
        exact .kept _ (Axis.SameDrive.refl axis) fun _ _ => by simpa using hrunning
  | clearCommFault => exact .kept _ ⟨rfl, rfl, rfl, rfl, rfl⟩ (by simp)
  | initializeServo bus config motors => exact .kept _ (Axis.SameDrive.refl axis) (by simp)
  | setOperational => exact .kept _ (Axis.SameDrive.refl axis) (by simp)
  | deactivate => exact .kept _ (Axis.SameDrive.refl axis) (by simp)
  | requestFaultReset motorId allowWithoutFault slavesInOp =>
      exact .kept _ (Axis.SameDrive.refl axis) (by simp)
  | requestSafeOutput => exact .kept _ (Axis.SameDrive.refl axis) (by simp)
  | releaseSafeOutput => exact .kept _ (Axis.SameDrive.refl axis) (by simp)

end Backend

/-! ### What holds of every motion axis -/

namespace BusSetup

/-- A registered offset is below `2 ^ 31`. -/
theorem lt_of_register {bus : BusSetup} {slave : Nat} {entry : UInt16} {offset : Nat}
    (hregister : bus.register slave entry = some offset) : offset < 2 ^ 31 := by
  unfold register registerEntry at hregister
  dsimp only at hregister
  split at hregister
  · exact absurd hregister (by simp)
  · rw [Option.some.injEq] at hregister
    have hlt := (bus.regPdoEntry slave entry 0).toInt_lt
    rw [← hregister, Int32.toNatClampNeg]
    omega

/-- Control word and target position of a drive are mapped. -/
structure Mapped (offsets : PdoOffsets) : Prop where
  controlWord : offsets.controlWord ≠ pdoOffsetUnset
  targetPosition : offsets.targetPosition ≠ pdoOffsetUnset

theorem mapped_registerMotorEntries {bus : BusSetup} {slave : Nat} {offsets : PdoOffsets}
    (hregister : bus.registerMotorEntries slave = some offsets) : Mapped offsets := by
  unfold registerMotorEntries at hregister
  simp only [Option.bind_eq_bind, Option.bind_eq_some_iff, Option.pure_def,
    Option.some.injEq] at hregister
  obtain ⟨controlWord, hcontrolWord, targetPosition, htargetPosition, -, -, -, -, -, -, -, -, -, -,
    -, -, -, -, -, -, rfl⟩ := hregister
  have hcontrol := lt_of_register hcontrolWord
  have hposition := lt_of_register htargetPosition
  constructor
  · change controlWord ≠ pdoOffsetUnset
    unfold pdoOffsetUnset
    omega
  · change targetPosition ≠ pdoOffsetUnset
    unfold pdoOffsetUnset
    omega

theorem mapped_registerJointModule {bus : BusSetup} {slave : Nat} {config : MotorConfig}
    {registered : SlaveOffsets} (hregister : bus.registerJointModule slave config = some registered) :
    Mapped registered.motor := by
  unfold registerJointModule at hregister
  simp only [Option.bind_eq_bind, Option.bind_eq_some_iff] at hregister
  obtain ⟨motor, hmotor, paddingRx, -, hrest⟩ := hregister
  have hmapped := mapped_registerMotorEntries hmotor
  split at hrest
  · simp only [Option.bind_eq_some_iff, Option.pure_def, Option.some.injEq] at hrest
    obtain ⟨-, -, -, -, -, -, rfl⟩ := hrest
    exact ⟨hmapped.controlWord, hmapped.targetPosition⟩
  · simp only [Option.bind_eq_some_iff, Option.pure_def, Option.some.injEq] at hrest
    obtain ⟨-, -, -, -, rfl⟩ := hrest
    exact ⟨hmapped.controlWord, hmapped.targetPosition⟩

theorem mapped_registerCoolDriveJmdt {bus : BusSetup} {slave : Nat} {registered : SlaveOffsets}
    (hregister : bus.registerCoolDriveJmdt slave = some registered) : Mapped registered.motor := by
  unfold registerCoolDriveJmdt at hregister
  simp only [Option.bind_eq_bind, Option.bind_eq_some_iff, Option.pure_def,
    Option.some.injEq] at hregister
  obtain ⟨motor, hmotor, -, -, -, -, -, -, -, -, rfl⟩ := hregister
  have hmapped := mapped_registerMotorEntries hmotor
  exact ⟨hmapped.controlWord, hmapped.targetPosition⟩

/-- A slave without a drive leaves the offsets of an axis as they are at first. -/
theorem mapped_of_registers {bus : BusSetup} {slave : Nat} {config : MotorConfig}
    {offsets : PdoOffsets} (hregisters : bus.Registers slave config offsets) : Mapped offsets := by
  have hdefault : Mapped {} := ⟨by decide, by decide⟩
  obtain ⟨useFloat, registered, hregister, rfl⟩ := hregisters
  unfold registerSlave at hregister
  split at hregister
  · obtain ⟨gateway, -, rfl⟩ := Option.map_eq_some_iff.mp hregister
    exact hdefault
  · split at hregister
    · obtain ⟨sri, -, rfl⟩ := Option.map_eq_some_iff.mp hregister
      exact hdefault
    · split at hregister
      · exact mapped_registerJointModule hregister
      · exact mapped_registerCoolDriveJmdt hregister
      · exact absurd hregister.symm (Option.some_ne_none registered)

end BusSetup

namespace Axis

structure Sound (axis : Axis) : Prop where
  plain : axis.fsm.Plain
  mapped : BusSetup.Mapped axis.offsets
  velocity_unmapped : axis.offsets.targetVelocity = 0 → axis.output.targetVelocity = 0
  torque_unmapped : axis.offsets.targetTorque = 0 → axis.output.targetTorque = 0

theorem Sound.of_sameDrive {axis after : Axis} (hsound : axis.Sound)
    (hsame : axis.SameDrive after) : after.Sound where
  plain := by
    rw [hsame.fsm_eq]
    exact hsound.plain
  mapped := by
    rw [hsame.offsets_eq]
    exact hsound.mapped
  velocity_unmapped := by
    rw [hsame.offsets_eq, hsame.output_eq]
    exact hsound.velocity_unmapped
  torque_unmapped := by
    rw [hsame.offsets_eq, hsame.output_eq]
    exact hsound.torque_unmapped

theorem Sound.applyMode {axis : Axis} (hsound : axis.Sound) (mode : OperationMode) :
    (axis.applyMode mode).Sound := by
  unfold Axis.applyMode
  split
  · exact hsound
  · exact ⟨EnableFsm.shutdownForModeChange_plain hsound.plain, hsound.mapped,
      hsound.velocity_unmapped, hsound.torque_unmapped⟩

theorem Sound.applySafe {axis : Axis} (hsound : axis.Sound) (entering : Bool)
    (actualPosition : Int32) (word : UInt16) :
    (axis.applySafe entering actualPosition word).Sound := by
  refine ⟨EnableFsm.forceSafe_plain entering word hsound.plain, hsound.mapped, fun hoffset => ?_,
    fun hoffset => ?_⟩
  · have hzero : axis.offsets.targetVelocity = 0 := hoffset
    simpa [Axis.applySafe, hzero] using hsound.velocity_unmapped hzero
  · have hzero : axis.offsets.targetTorque = 0 := hoffset
    simpa [Axis.applySafe, hzero] using hsound.torque_unmapped hzero

theorem Sound.sendData {axis : Axis} (hsound : axis.Sound) (wcOk : Bool) :
    (axis.sendData true wcOk).Sound := by
  refine ⟨EnableFsm.sendDataCommon_plain hsound.plain, hsound.mapped, fun hoffset => ?_,
    fun hoffset => ?_⟩
  · have hzero : axis.offsets.targetVelocity = 0 := hoffset
    simpa [Axis.sendData, Axis.sendTargets, Axis.sendDataCommon, hzero] using
      hsound.velocity_unmapped hzero
  · have hzero : axis.offsets.targetTorque = 0 := hoffset
    simpa [Axis.sendData, Axis.sendTargets, Axis.sendDataCommon, hzero] using
      hsound.torque_unmapped hzero

theorem Sound.driveStep {backend : Backend} {index : Nat} {action : BackendAction}
    {axis after : Axis} (hsound : axis.Sound)
    (hstep : Backend.DriveStep backend index action axis after) : after.Sound := by
  cases hstep with
  | kept after hsame hidle => exact hsound.of_sameDrive hsame
  | enabled motorId enable haction hstarts =>
      exact ⟨EnableFsm.startEnable_plain enable hsound.plain, hsound.mapped,
        hsound.velocity_unmapped, hsound.torque_unmapped⟩
  | modeChanged motorId mode haction hcovers => exact hsound.applyMode mode
  | activated input positioned haction hinactive hsame =>
      have hpositioned := hsound.of_sameDrive hsame
      exact ⟨⟨hpositioned.plain.faultResetCounter_eq, hpositioned.plain.not_pending⟩,
        hpositioned.mapped, fun _ => rfl, fun _ => rfl⟩
  | safe input received haction hrunning hsafe hreceived =>
      subst hreceived
      have hinput := hsound.of_sameDrive (Backend.sameDrive_inputAxis backend index input axis)
      exact hinput.applySafe _ _ _
  | sent input received haction hrunning hsafe hreceived =>
      subst hreceived
      have hinput := hsound.of_sameDrive (Backend.sameDrive_inputAxis backend index input axis)
      exact hinput.sendData _

end Axis

namespace Backend

/-- A backend of some run: it is formed and its motion axes are sound. -/
structure Sound (backend : Backend) : Prop where
  formed : backend.Formed
  axes : ∀ index, backend.servo.MotionAt index Axis.Sound

theorem sound_default : ({} : Backend).Sound :=
  ⟨formed_default, fun _ _ haxis => absurd haxis (by simp)⟩

theorem Sound.next {backend : Backend} (hsound : backend.Sound) (action : BackendAction) :
    (next backend action).Sound := by
  refine ⟨formed_next hsound.formed action, fun index => ?_⟩
  refine motionAt_next hsound.formed (hsound.axes index) ?_ ?_
  · intro bus slave config offsets hoffsets
    exact ⟨⟨rfl, rfl⟩, BusSetup.mapped_of_registers hoffsets, fun _ => rfl, fun _ => rfl⟩
  · intro axis haxis hmotion haxisSound
    exact haxisSound.driveStep (driveStep_axisNext backend index action hmotion)

end Backend

end IghMaster
