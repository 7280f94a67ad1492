import IghMaster.Proof.SetpointRuns

/-!
# The position that safe cycles hold

The safe cycles latch the position of an axis when they begin and write it from then on. No other
action touches the latch, so what a run holds is what its Job cycles read.
-/

namespace IghMaster

namespace Axis

theorem safeLatchedPosition_applyMode (mode : OperationMode) (axis : Axis) :
    (axis.applyMode mode).safeLatchedPosition = axis.safeLatchedPosition := by
  unfold applyMode
  split <;> rfl

theorem safeLatchedPosition_setInitialPosition (reads : List Int32) (axis : Axis) :
    (Servo.setInitialPosition reads axis).safeLatchedPosition = axis.safeLatchedPosition := by
  unfold Servo.setInitialPosition
  split <;> rfl

theorem safeLatchedPosition_performAxis (flags : RuntimeFlags) (servo : Servo) (index : Nat)
    (call : ServoCall) (axis : Axis) :
    (servo.performAxis flags index call axis).safeLatchedPosition = axis.safeLatchedPosition := by
  cases call <;> simp only [Servo.performAxis]
  case setOperationMode motorId mode =>
    split
    · exact safeLatchedPosition_applyMode mode axis
    · rfl
  case applyCommandContentionFallback =>
    split
    · exact (axis.uncommanded_contentionFallback _).2
    · rfl
  all_goals split <;> rfl

end Axis

namespace Backend

theorem safeLatchedPosition_axisNext (backend : Backend) (index : Nat) {action : BackendAction}
    (hother : ∀ input, action ≠ .job input) (axis : Axis) :
    (backend.axisNext index action axis).safeLatchedPosition = axis.safeLatchedPosition := by
  cases action with
  | bringUp input =>
      simp only [axisNext]
      obtain ⟨positioned, hpositioned, hnext⟩ := backend.bringUpAxis_cases index input axis
      have hsame : positioned.safeLatchedPosition = axis.safeLatchedPosition := by
        rcases hpositioned with rfl | rfl
        · rfl
        · exact axis.safeLatchedPosition_setInitialPosition _
      rcases hnext with hnext | ⟨-, hnext⟩
      · rw [hnext, hsame]
      · rw [hnext]
        exact hsame
  | call call => exact axis.safeLatchedPosition_performAxis _ _ _ call
  | clearCommFault => rfl
  | job input => exact absurd rfl (hother input)
  | _ => rfl

/-- While the safe cycles go on, each motion axis is held at a position of the given ones. -/
structure Holds (positions : Nat → Int32 → Prop) (backend : Backend) : Prop where
  initialized : backend.servo.safeOutputActive = true → backend.servo.initialized = true
  latched : backend.servo.safeOutputActive = true →
    ∀ index, backend.servo.MotionAt index fun axis => positions index axis.safeLatchedPosition

variable {positions : Nat → Int32 → Prop} {backend : Backend}

theorem Holds.mono {positions' : Nat → Int32 → Prop} (hholds : Holds positions backend)
    (hpositions : ∀ index position, positions index position → positions' index position) :
    Holds positions' backend where
  initialized := hholds.initialized
  latched := fun hactive index =>
    (hholds.latched hactive index).imp fun _ => hpositions index _

theorem servo_requestFaultReset {α : Type} (field : Servo → α)
    (hfield : ∀ servo resetAxis cycles, field { servo with
      explicitFaultResetAxis := resetAxis, explicitFaultResetCycles := cycles } = field servo)
    (backend : Backend) (motorId : UInt8) (allowWithoutFault slavesInOp : Bool) :
    field (backend.requestFaultReset motorId allowWithoutFault slavesInOp).1.servo =
      field backend.servo := by
  rcases requestFaultReset_cases backend motorId allowWithoutFault slavesInOp with
    hrefused | ⟨-, haccepted⟩
  · rw [hrefused]
  · rw [haccepted]
    exact hfield _ _ _

theorem safeOutputActive_activatedServo (backend : Backend) (input : BringUpInput) :
    (backend.activatedServo input).1.safeOutputActive = backend.servo.safeOutputActive := by
  have hbare := Servo.bare_initializePositionsFromSdo input.initialReads backend.servo
  have hpositioned := Servo.field_of_bare Servo.safeOutputActive (fun _ => rfl) hbare
  rw [← hpositioned]
  unfold activatedServo Servo.activate
  split_ifs <;> rfl

theorem safeOutputActive_bringUp {input : BringUpInput}
    (hactive : (backend.bringUp input).1.servo.safeOutputActive = true) :
    backend.servo.safeOutputActive = true := by
  rw [← safeOutputActive_activatedServo backend input]
  have hbrought := broughtUp backend input
  revert hactive hbrought
  generalize backend.bringUp input = result
  intro hactive hbrought
  cases hbrought with
  | notActivated hfailed => exact hactive
  | evidenceFailed hdone hmissing =>
      exact absurd hactive (by simp [deactivate, Servo.deactivate])
  | jobFailed hdone hfailed =>
      exact absurd hactive (by simp [deactivate, Servo.deactivate])
  | running hdone hstarted => exact hactive

theorem safeOutputActive_next {action : BackendAction} (hother : ∀ input, action ≠ .job input)
    (hactive : (next backend action).servo.safeOutputActive = true) :
    backend.servo.safeOutputActive = true := by
  cases action with
  | initializeServo bus config motors =>
      have hkept : (backend.initializeServo bus config motors).1.servo.safeOutputActive =
          backend.servo.safeOutputActive := by
        unfold initializeServo
        rcases backend.servo.initializeServo_cases bus config.busCycleUs config.cmdWatchdogMs
          config.csvCmdWatchdog motors with hrefused | ⟨-, hfailed | ⟨axes, -, hdone⟩⟩
        · rw [hrefused]
        · rw [hfailed]
          rfl
        · rw [hdone]
          rfl
      exact hkept.symm.trans hactive
  | bringUp input => exact safeOutputActive_bringUp hactive
  | setOperational => exact hactive
  | deactivate => exact absurd hactive (by simp [next, deactivate, Servo.deactivate])
  | call call =>
      have hbare := Servo.bare_perform backend.flags backend.servo call
      exact (Servo.field_of_bare Servo.safeOutputActive (fun _ => rfl) hbare).symm.trans hactive
  | requestFaultReset motorId allowWithoutFault slavesInOp =>
      exact (servo_requestFaultReset Servo.safeOutputActive (fun _ _ _ => rfl) backend motorId
        allowWithoutFault slavesInOp).symm.trans hactive
  | clearCommFault =>
      exact absurd hactive (by simp [next, clearCommFault, Servo.clearCommFault])
  | requestSafeOutput => exact hactive
  | releaseSafeOutput =>
      rw [next_releaseSafeOutput] at hactive
      split at hactive <;> exact hactive
  | job input => exact absurd rfl (hother input)

theorem initialized_next (hformed : backend.Formed) (action : BackendAction)
    (hinitialized : backend.servo.initialized = true) :
    (next backend action).servo.initialized = true := by
  have hsame : configuration (next backend action).servo = configuration backend.servo :=
    configuration_next hformed fun _ _ _ _ => hinitialized
  have hkept := congrArg Servo.initialized hsame
  exact hkept.trans hinitialized

/-- No servo is initialised during safe cycles, so no other action changes what they hold. -/
theorem Holds.next (hholds : Holds positions backend) (hformed : backend.Formed)
    {action : BackendAction} (hother : ∀ input, action ≠ .job input) :
    Holds positions (Backend.next backend action) := by
  constructor
  · intro hactive
    exact initialized_next hformed action (hholds.initialized (safeOutputActive_next hother hactive))
  · intro hactive index
    have hbefore := safeOutputActive_next hother hactive
    refine motionAt_next_of_initialized hformed (hholds.initialized hbefore)
      (hholds.latched hbefore index) ?_
    intro axis _ _ hposition
    rwa [safeLatchedPosition_axisNext backend index hother axis]

/-- A Job cycle looks the position of an axis up right after it read it. -/
theorem safePosition_eq (hready : backend.servo.ready = true) (input : JobInput) {index : Nat}
    (hindex : index < 256) {axis : Axis} (haxis : backend.servo.axes[index]? = some axis)
    (hmotion : axis.isMotion = true) :
    backend.safePosition index input = (input.inputs index).actualPosition := by
  have hread := getElem?_beforeOutputs hready input index
  rw [haxis, Option.map_some, if_pos hmotion] at hread
  unfold safePosition Servo.getPosition
  rw [Nat.mod_eq_of_lt hindex, hread]
  rfl

variable {input : JobInput}

/-- The position that a safe cycle holds was read by it, or held before. -/
theorem Holds.safeLatchedPosition (hholds : Holds positions backend) (hsound : backend.Sound)
    (hrunning : backend.runtime.jobRunning = true) (hlength : backend.servo.axes.length ≤ 8)
    (hread : ∀ index, positions index (input.inputs index).actualPosition)
    (hsafe : backend.cycleIsSafe input = true) {index : Nat} {axis : Axis}
    (haxis : backend.servo.axes[index]? = some axis) (hmotion : axis.isMotion = true) :
    positions index (backend.jobAxis index input axis).safeLatchedPosition := by
  have hready : backend.servo.ready = true := hsound.formed.ready_eq.trans hrunning
  have hindex : index < 256 := by
    have hin := (List.getElem?_eq_some_iff.mp haxis).1
    omega
  rw [jobAxis, if_pos hsafe, safePosition_eq hready input hindex haxis hmotion]
  change positions index (Axis.latchSafePosition _ (backend.inputAxis index input axis).safeLatchedPosition
    (input.inputs index).actualPosition)
  rw [(uncommanded_inputAxis backend index input axis).2]
  cases hactive : backend.servo.safeOutputActive with
  | false => exact hread index
  | true => exact hholds.latched hactive index axis haxis hmotion

theorem Holds.jobCycle (hholds : Holds positions backend) (hsound : backend.Sound)
    (hlength : backend.servo.axes.length ≤ 8)
    (hread : backend.runtime.jobRunning = true →
      ∀ index, positions index (input.inputs index).actualPosition) :
    Holds positions (backend.jobCycle input) := by
  by_cases hrunning : backend.runtime.jobRunning = true
  · have hbare := bare_jobCycle hsound.formed input hrunning
    have hready : backend.servo.ready = true := hsound.formed.ready_eq.trans hrunning
    constructor
    · intro _
      have hkept := Servo.field_of_bare Servo.initialized (fun _ => rfl) hbare
      rw [Servo.ready, Bool.and_eq_true] at hready
      rw [hkept, cycleServo]
      split <;> exact hready.1
    · intro hactive index after hafter hmotion
      have hsafe : backend.cycleIsSafe input = true := by
        rw [Servo.field_of_bare Servo.safeOutputActive (fun _ => rfl) hbare, cycleServo] at hactive
        by_contra hmoving
        rw [if_neg hmoving] at hactive
        exact absurd hactive (by simp)
      obtain ⟨axis, haxis, hdrive, rfl⟩ :=
        exists_of_getElem?_jobCycle hsound.formed hrunning hafter hmotion
      exact hholds.safeLatchedPosition hsound hrunning hlength (hread hrunning) hsafe haxis hdrive
  · rw [jobCycle_of_not_running input (by simpa using hrunning)]
    exact hholds

theorem faultResetCw_jobAxis (backend : Backend) (index : Nat) (input : JobInput) (axis : Axis) :
    (backend.jobAxis index input axis).faultResetCw = axis.faultResetCw := by
  unfold jobAxis
  split <;> exact faultResetCw_inputAxis backend index input axis

theorem output_jobAxis {axis : Axis} (hsound : axis.Sound) (backend : Backend) (index : Nat)
    (hsafe : backend.cycleIsSafe input = true) :
    (backend.jobAxis index input axis).output.targetVelocity = 0 ∧
      (backend.jobAxis index input axis).output.targetTorque = 0 ∧
      (backend.jobAxis index input axis).output.controlWord =
        backend.servo.safeControlWord index axis ∧
      (backend.jobAxis index input axis).output.targetPosition =
        (backend.jobAxis index input axis).safeLatchedPosition := by
  have hinput := hsound.of_sameDrive (sameDrive_inputAxis backend index input axis)
  rw [jobAxis, if_pos hsafe]
  refine ⟨?_, ?_, ?_, ?_⟩
  · by_cases hoffset : (backend.inputAxis index input axis).offsets.targetVelocity = 0
    · simpa [Axis.applySafe, hoffset] using hinput.velocity_unmapped hoffset
    · simp [Axis.applySafe, hoffset]
  · by_cases hoffset : (backend.inputAxis index input axis).offsets.targetTorque = 0
    · simpa [Axis.applySafe, hoffset] using hinput.torque_unmapped hoffset
    · simp [Axis.applySafe, hoffset]
  · simp [Axis.applySafe, hinput.mapped.controlWord]
  · simp [Axis.applySafe, hinput.mapped.targetPosition]

end Backend

end IghMaster
