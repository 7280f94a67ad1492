import IghMaster.Proof.BackendLatches

/-!
# Setpoints across a safe-output episode

A safe cycle pins the targets of an axis but leaves the pending commands and the idle velocity. The
runs below are those in which a release finds neither worth anything; then what was commanded before
an episode is gone after it.
-/

namespace IghMaster

open Transition

def ServoCall.commandsAxis (index : Nat) : ServoCall → Bool
  | .setOperationMode motorId _ => Servo.covers motorId index
  | .setTargetPosition motorId _ _ => motorId.toNat == index
  | .setIdleInputPosition motorId _ => motorId.toNat == index
  | .setTargetVelocity motorId _ _ _ _ => motorId.toNat == index
  | .setIdleInputVelocity motorId _ => motorId.toNat == index
  | .setTargetTorque motorId _ _ _ => motorId.toNat == index
  | .setEnable _ _ => false
  | .applyCommandContentionFallback => false

namespace Setpoints

/-- Neither a pending torque nor the idle velocity would reach the drive. -/
def settled (setpoints : Setpoints) : Bool :=
  (!setpoints.pending.torqueValid || setpoints.pending.torque == 0) &&
    setpoints.idleInputVelocity == 0

/-- The targets follow the idle values, and no torque is applied. -/
structure Pinned (setpoints : Setpoints) : Prop where
  position : setpoints.positionOverrideActive = false
  velocity : setpoints.velocityOverrideActive = false
  torque : setpoints.targetTorque = 0

/-- What may happen to the setpoints of an axis that is not commanded. -/
inductive Uncommanded (setpoints : Setpoints) : Setpoints → Prop
  | same : Uncommanded setpoints setpoints
  | zeroTorque : Uncommanded setpoints setpoints.zeroTorque
  | zeroVelocity : Uncommanded setpoints setpoints.zeroVelocity

variable {setpoints after : Setpoints}

theorem Uncommanded.pinned (hafter : Uncommanded setpoints after) (hpinned : setpoints.Pinned) :
    after.Pinned := by
  cases hafter with
  | same => exact hpinned
  | zeroTorque => exact ⟨hpinned.position, hpinned.velocity, rfl⟩
  | zeroVelocity => exact ⟨hpinned.position, hpinned.velocity, hpinned.torque⟩

theorem Uncommanded.settled (hafter : Uncommanded setpoints after)
    (hsettled : setpoints.settled = true) : after.settled = true := by
  cases hafter with
  | same => exact hsettled
  | zeroTorque =>
      unfold Setpoints.settled at hsettled ⊢
      rw [Bool.and_eq_true] at hsettled ⊢
      exact ⟨rfl, hsettled.2⟩
  | zeroVelocity => exact hsettled

theorem Uncommanded.idleInputPosition_eq (hafter : Uncommanded setpoints after) :
    after.idleInputPosition = setpoints.idleInputPosition := by
  cases hafter <;> rfl

/-- The values that the next `sendData` sends. -/
def sent (setpoints : Setpoints) : Setpoints := setpoints.mergePending.applyIdle true

/-- Pinned and settled setpoints send the idle position and zeros, and stay so. -/
theorem Pinned.sent (hpinned : setpoints.Pinned) (hsettled : setpoints.settled = true) :
    setpoints.sent.Pinned ∧ setpoints.sent.settled = true ∧
      setpoints.sent.targetPosition = setpoints.idleInputPosition ∧
      setpoints.sent.targetVelocity = 0 := by
  unfold Setpoints.settled at hsettled
  rw [Bool.and_eq_true, beq_iff_eq] at hsettled
  have htorque : setpoints.sent.targetTorque = 0 := by
    change (if setpoints.pending.torqueValid then setpoints.pending.torque
      else setpoints.targetTorque) = 0
    split
    · rename_i hvalid
      simpa [hvalid] using hsettled.1
    · exact hpinned.torque
  refine ⟨⟨hpinned.position, hpinned.velocity, htorque⟩, ?_, ?_, ?_⟩
  · change (!false || _) && setpoints.idleInputVelocity == 0
    simp [hsettled.2]
  · change (if true && !setpoints.positionOverrideActive then setpoints.idleInputPosition else _) = _
    rw [hpinned.position]
    rfl
  · change (if true && !setpoints.velocityOverrideActive then setpoints.idleInputVelocity
      else _) = 0
    rw [hpinned.velocity]
    exact hsettled.2

end Setpoints

namespace Axis

theorem uncommanded_tripStale (csvCmdWatchdog : Bool) (nowNs : Nat) (axis : Axis) :
    axis.setpoints.Uncommanded (axis.tripStale csvCmdWatchdog nowNs).setpoints ∧
      (axis.tripStale csvCmdWatchdog nowNs).safeLatchedPosition = axis.safeLatchedPosition := by
  unfold tripStale
  split_ifs
  · exact ⟨.zeroTorque, rfl⟩
  · exact ⟨.zeroVelocity, rfl⟩
  · exact ⟨.same, rfl⟩

theorem uncommanded_contentionFallback (csvCmdWatchdog : Bool) (axis : Axis) :
    axis.setpoints.Uncommanded (axis.contentionFallback csvCmdWatchdog).setpoints ∧
      (axis.contentionFallback csvCmdWatchdog).safeLatchedPosition =
        axis.safeLatchedPosition := by
  unfold contentionFallback
  split_ifs
  · exact ⟨.zeroTorque, rfl⟩
  · exact ⟨.zeroVelocity, rfl⟩
  · exact ⟨.same, rfl⟩

/-- A call for another axis leaves this one as it is. -/
theorem uncommanded_of_other {motorId : UInt8} {index : Nat} (hother : (motorId.toNat == index) = false)
    (changed axis : Axis) :
    axis.setpoints.Uncommanded (if motorId.toNat = index then changed else axis).setpoints ∧
      (if motorId.toNat = index then changed else axis).safeLatchedPosition =
        axis.safeLatchedPosition := by
  rw [if_neg (by simpa using hother)]
  exact ⟨.same, rfl⟩

theorem uncommanded_performAxis {index : Nat} {call : ServoCall}
    (hcommands : call.commandsAxis index = false) (flags : RuntimeFlags) (servo : Servo)
    (axis : Axis) :
    axis.setpoints.Uncommanded (servo.performAxis flags index call axis).setpoints ∧
      (servo.performAxis flags index call axis).safeLatchedPosition =
        axis.safeLatchedPosition := by
  cases call with
  | setEnable motorId enable =>
      simp only [Servo.performAxis]
      split <;> exact ⟨.same, rfl⟩
  | applyCommandContentionFallback =>
      simp only [Servo.performAxis]
      split
      · exact axis.uncommanded_contentionFallback _
      · exact ⟨.same, rfl⟩
  | setOperationMode motorId mode =>
      have hother : Servo.covers motorId index = false := hcommands
      simp only [Servo.performAxis, hother]
      exact ⟨.same, rfl⟩
  | setTargetPosition motorId position overrideFilter =>
      exact uncommanded_of_other hcommands _ axis
  | setIdleInputPosition motorId position =>
      exact uncommanded_of_other hcommands _ axis
  | setTargetVelocity motorId velocity overrideIdle source nowNs =>
      exact uncommanded_of_other hcommands _ axis
  | setIdleInputVelocity motorId velocity =>
      exact uncommanded_of_other hcommands _ axis
  | setTargetTorque motorId torque source nowNs =>
      exact uncommanded_of_other hcommands _ axis

end Axis

namespace Backend

theorem uncommanded_inputAxis (backend : Backend) (index : Nat) (input : JobInput) (axis : Axis) :
    axis.setpoints.Uncommanded (backend.inputAxis index input axis).setpoints ∧
      (backend.inputAxis index input axis).safeLatchedPosition = axis.safeLatchedPosition := by
  unfold inputAxis
  dsimp only
  split
  · exact axis.uncommanded_tripStale _ _
  · exact ⟨.same, rfl⟩

def leavesAxis (index : Nat) (visit : BackendVisit) : Bool :=
  match visit.action with
  | .call call => !call.commandsAxis index
  | _ => true

/-- The axis was not commanded since an episode of safe-output began, and a safe cycle ran since. -/
def EpisodePast (index : Nat) (history : List BackendVisit) : Prop :=
  SinceBoth (fun visit => leavesAxis index visit = true) (fun visit => beginsEpisode visit = true)
    (fun visit => isSafeCycle visit = true) history

instance (index : Nat) (history : List BackendVisit) : Decidable (EpisodePast index history) :=
  inferInstanceAs (Decidable (SinceBoth _ _ _ _))

/-- A motion cycle after such an episode sends no torque, no velocity and the latched position. The
episode ended by a release, as otherwise the cycle would be safe. -/
def SetpointsDie (index : Nat) (config : BackendConfig) : Prop :=
  ∀ visit earlier axis, config.history = visit :: earlier → isMotionCycle visit = true →
    EpisodePast index earlier → visit.after.servo.axes[index]? = some axis →
      axis.isMotion = true →
        axis.output.targetTorque = 0 ∧ axis.output.targetVelocity = 0 ∧
          axis.output.targetPosition = axis.safeLatchedPosition

/-- A release that ends an episode in which the axis was not commanded finds its setpoints settled. -/
def releasesSettled (index : Nat) (config : BackendConfig) : BackendAction → Bool
  | .releaseSafeOutput =>
      !(config.state.canRelease && config.state.runtime.safeOutputRequired) ||
        !decide (EpisodePast index config.history) ||
        config.state.servo.axes[index]?.all fun axis =>
          !axis.isMotion || axis.setpoints.settled
  | _ => true

/-- Motion outputs are written, or a release alone would let them be. -/
def movable (backend : Backend) : Bool :=
  backend.runtime.jobRunning &&
    (!backend.runtime.safeOutputRequired || backend.runtime.motionReenableAllowed)

theorem movable_of_motionCycle {backend : Backend} {input : JobInput}
    (hrunning : backend.runtime.jobRunning = true) (hsafe : backend.cycleIsSafe input = false) :
    backend.movable = true := by
  rw [movable, hrunning, not_required_of_motionCycle hsafe]
  rfl

/-- What the setpoints of an axis are after an episode in which it was not commanded. -/
structure HeldAxis (backend : Backend) (axis : Axis) : Prop where
  pinned : axis.setpoints.Pinned
  idle : backend.movable = true → axis.setpoints.idleInputPosition = axis.safeLatchedPosition
  settled : backend.runtime.safeOutputRequired = false → axis.setpoints.settled = true

structure SetpointRun (index : Nat) (config : BackendConfig) : Prop where
  sound : config.state.Sound
  held : EpisodePast index config.history →
    config.state.servo.MotionAt index (HeldAxis config.state)
  die : SetpointsDie index config

theorem movable_requestSafeOutput {backend : Backend}
    (hmovable : ({ backend with runtime := backend.runtime.requestSafeOutput } :
      Backend).movable = true) : backend.movable = true := by
  unfold IghMasterRuntime.requestSafeOutput at hmovable
  by_cases hsafe : backend.runtime.safeOutputRequired = true
  · rw [if_pos hsafe] at hmovable
    exact hmovable
  · rw [if_neg hsafe] at hmovable
    exact absurd hmovable (by simp [movable])

theorem movable_bringUp {backend : Backend} {input : BringUpInput}
    (hmovable : (backend.bringUp input).1.movable = true) : backend.movable = true := by
  have hbrought := broughtUp backend input
  revert hmovable hbrought
  generalize backend.bringUp input = result
  intro hmovable hbrought
  cases hbrought with
  | notActivated hfailed => exact hmovable
  | evidenceFailed hactivated hmissing =>
      exact absurd hmovable (by simp [movable, deactivate, IghMasterRuntime.stop])
  | jobFailed hactivated hfailed =>
      exact absurd hmovable (by simp [movable, deactivate, IghMasterRuntime.stop])
  | running hactivated hstarted =>
      rcases IghMasterRuntime.start_cases input.runtime backend.runtime.requestSafeOutput with
        ⟨-, hstart⟩ | ⟨-, -, hstart⟩ | ⟨-, hfailed⟩
      · apply movable_requestSafeOutput
        unfold movable at hmovable ⊢
        dsimp only at hmovable
        rw [hstart] at hmovable
        exact hmovable
      · unfold movable at hmovable
        dsimp only at hmovable
        rw [hstart] at hmovable
        simp [IghMasterRuntime.launch] at hmovable
      · exact absurd (hfailed.symm.trans hstarted) (by simp)

theorem movable_next {backend : Backend} {action : BackendAction}
    (hjob : ∀ input, action ≠ .job input) (hmovable : (next backend action).movable = true) :
    backend.movable = true := by
  cases action with
  | initializeServo bus config motors => exact hmovable
  | bringUp input => exact movable_bringUp hmovable
  | setOperational => exact hmovable
  | deactivate =>
      exact absurd hmovable (by simp [next, movable, deactivate, IghMasterRuntime.stop])
  | call call => exact hmovable
  | requestFaultReset motorId allowWithoutFault slavesInOp => exact hmovable
  | clearCommFault =>
      exact absurd hmovable (by simp [next, movable, clearCommFault, IghMasterRuntime.clearCommFault])
  | requestSafeOutput => exact movable_requestSafeOutput hmovable
  | releaseSafeOutput =>
      rw [next_releaseSafeOutput] at hmovable
      by_cases hcan : backend.canRelease = true
      · rw [if_pos hcan] at hmovable
        simp only [canRelease, IghMasterRuntime.releaseAllowed, Bool.and_eq_true] at hcan
        unfold movable at hmovable ⊢
        rw [Bool.and_eq_true] at hmovable ⊢
        exact ⟨hmovable.1, by rw [hcan.2.2, Bool.or_true]⟩
      · rw [if_neg hcan] at hmovable
        exact hmovable
  | job input => exact absurd rfl (hjob input)

/-! ### One step -/

theorem heldAxis_new (backend : Backend) (config : MotorConfig) (offsets : PdoOffsets)
    (word : FaultResetWord) :
    HeldAxis backend { config := config, offsets := offsets, faultResetCw := word } :=
  ⟨⟨rfl, rfl, rfl⟩, fun _ => rfl, fun _ => rfl⟩

theorem held_of_safeCycle {backend : Backend} (hsound : backend.Sound) {input : JobInput}
    (hrunning : backend.runtime.jobRunning = true) (hsafe : backend.cycleIsSafe input = true)
    (index : Nat) :
    (next backend (.job input)).servo.MotionAt index (HeldAxis (next backend (.job input))) := by
  have hrequired := safeOutputRequired_of_cycleIsSafe hsound.formed hrunning hsafe
  refine motionAt_next hsound.formed (hsound.axes index)
    (fun _ _ config offsets _ => heldAxis_new _ config offsets _) ?_
  intro axis haxis hmotion _
  simp only [axisNext, hmotion, hrunning, Bool.and_true, if_true, jobAxis, if_pos hsafe]
  refine ⟨⟨rfl, rfl, rfl⟩, fun _ => rfl, fun hreleased => ?_⟩
  exact absurd (hrequired.symm.trans hreleased) (by simp)

/-- An axis that is not commanded stays held over an action that leaves its idle position. -/
theorem HeldAxis.of_uncommanded {backend backend' : Backend} {axis after : Axis}
    (hheld : HeldAxis backend axis) (hsetpoints : axis.setpoints.Uncommanded after.setpoints)
    (hlatched : after.safeLatchedPosition = axis.safeLatchedPosition)
    (hmovable : backend'.movable = true → backend.movable = true)
    (hsettled : backend'.runtime.safeOutputRequired = false → axis.setpoints.settled = true) :
    HeldAxis backend' after where
  pinned := hsetpoints.pinned hheld.pinned
  idle := fun hafter => by
    rw [hsetpoints.idleInputPosition_eq, hlatched]
    exact hheld.idle (hmovable hafter)
  settled := fun hafter => hsetpoints.settled (hsettled hafter)

theorem HeldAxis.sendData {backend : Backend} {axis : Axis} (hheld : HeldAxis backend axis)
    (hmovable : backend.movable = true) (hsafe : backend.runtime.safeOutputRequired = false)
    (backend' : Backend) (wcOk : Bool) :
    HeldAxis backend' (axis.sendData true wcOk) ∧
      (axis.sendData true wcOk).setpoints.targetPosition =
        (axis.sendData true wcOk).safeLatchedPosition ∧
      (axis.sendData true wcOk).setpoints.targetVelocity = 0 := by
  have hidle := hheld.idle hmovable
  obtain ⟨hpinned, hsettled, hposition, hvelocity⟩ := hheld.pinned.sent (hheld.settled hsafe)
  have hsetpoints : (axis.sendData true wcOk).setpoints = axis.setpoints.sent := rfl
  have hlatched : (axis.sendData true wcOk).safeLatchedPosition = axis.safeLatchedPosition := rfl
  refine ⟨⟨?_, fun _ => ?_, fun _ => ?_⟩, ?_, ?_⟩
  · rw [hsetpoints]
    exact hpinned
  · exact hidle
  · rw [hsetpoints]
    exact hsettled
  · rw [hsetpoints, hlatched, hposition]
    exact hidle
  · rw [hsetpoints]
    exact hvelocity

theorem EpisodePast.of_cons {index : Nat} {visit : BackendVisit} {history : List BackendVisit}
    (hpast : EpisodePast index (visit :: history)) (hsafe : isSafeCycle visit = false) :
    leavesAxis index visit = true ∧ EpisodePast index history := by
  unfold EpisodePast at hpast
  rw [sinceBoth_cons] at hpast
  rcases hpast with ⟨-, hcycle⟩ | ⟨hleaves, hpast | ⟨hcycle, -⟩⟩
  · exact absurd (hsafe.symm.trans hcycle) (by simp)
  · exact ⟨hleaves, hpast⟩
  · exact absurd (hsafe.symm.trans hcycle) (by simp)

/-- Over the actions besides the start and the Job cycle, an axis that is not commanded is not
given new setpoints. -/
theorem uncommanded_axisNext {backend : Backend} {index : Nat} {action : BackendAction}
    (hjob : ∀ input, action ≠ .job input) (hstart : ∀ input, action ≠ .bringUp input)
    (hleaves : leavesAxis index (machine.visit backend action) = true) (axis : Axis) :
    axis.setpoints.Uncommanded (backend.axisNext index action axis).setpoints ∧
      (backend.axisNext index action axis).safeLatchedPosition = axis.safeLatchedPosition := by
  cases action with
  | job input => exact absurd rfl (hjob input)
  | bringUp input => exact absurd rfl (hstart input)
  | call call =>
      have hcommands : call.commandsAxis index = false := by simpa [leavesAxis] using hleaves
      exact Axis.uncommanded_performAxis hcommands backend.flags backend.servo axis
  | initializeServo bus config motors => exact ⟨.same, rfl⟩
  | setOperational => exact ⟨.same, rfl⟩
  | deactivate => exact ⟨.same, rfl⟩
  | requestFaultReset motorId allowWithoutFault slavesInOp => exact ⟨.same, rfl⟩
  | clearCommFault => exact ⟨.same, rfl⟩
  | requestSafeOutput => exact ⟨.same, rfl⟩
  | releaseSafeOutput => exact ⟨.same, rfl⟩

theorem pinned_setInitialPosition {axis : Axis} (reads : List Int32)
    (hpinned : axis.setpoints.Pinned) :
    (Servo.setInitialPosition reads axis).setpoints.Pinned ∧
      (Servo.setInitialPosition reads axis).setpoints.settled = axis.setpoints.settled := by
  unfold Servo.setInitialPosition
  split
  · exact ⟨⟨hpinned.position, hpinned.velocity, hpinned.torque⟩, rfl⟩
  · exact ⟨hpinned, rfl⟩

theorem HeldAxis.bringUp {backend : Backend} (hformed : backend.Formed) {index : Nat}
    {axis : Axis} (hheld : HeldAxis backend axis) (input : BringUpInput) :
    HeldAxis (backend.bringUp input).1 (backend.bringUpAxis index input axis) := by
  have hreleased : (backend.bringUp input).1.runtime.safeOutputRequired = false →
      backend.runtime.safeOutputRequired = false := by
    intro hafter
    rw [← Bool.not_eq_true]
    intro hsafe
    exact absurd (hafter.symm.trans (safeOutputRequired_bringUp (Or.inr hsafe))) (by simp)
  by_cases hactivated : backend.servo.activated = true
  · have hsame : backend.bringUpAxis index input axis = axis := by
      simp [bringUpAxis, hactivated]
    rw [hsame]
    exact hheld.of_uncommanded .same rfl movable_bringUp
      fun hafter => hheld.settled (hreleased hafter)
  · -- a servo that is activated only now waits for its first safe cycle
    rw [Bool.not_eq_true] at hactivated
    have hstill : (backend.bringUp input).1.movable = true → False := by
      intro hafter
      have hbefore := movable_bringUp hafter
      unfold movable at hbefore
      rw [Bool.and_eq_true, hformed.running_eq, hactivated] at hbefore
      exact absurd hbefore.1 (by simp)
    obtain ⟨positioned, hpositioned, hnext⟩ := backend.bringUpAxis_cases index input axis
    have hkept : positioned.setpoints.Pinned ∧
        positioned.setpoints.settled = axis.setpoints.settled := by
      rcases hpositioned with rfl | rfl
      · exact ⟨hheld.pinned, rfl⟩
      · exact pinned_setInitialPosition _ hheld.pinned
    have hsettled : (backend.bringUp input).1.runtime.safeOutputRequired = false →
        positioned.setpoints.settled = true :=
      fun hafter => hkept.2.trans (hheld.settled (hreleased hafter))
    rcases hnext with hnext | ⟨-, hnext⟩
    · rw [hnext]
      exact ⟨hkept.1, fun h => (hstill h).elim, hsettled⟩
    · rw [hnext]
      exact ⟨hkept.1, fun h => (hstill h).elim, hsettled⟩

theorem SetpointRun.held_next {index : Nat} {config : BackendConfig} {action : BackendAction}
    (hrun : SetpointRun index config) (hsettled : releasesSettled index config action = true)
    (hpast : EpisodePast index (machine.advance config action).history) :
    (next config.state action).servo.MotionAt index (HeldAxis (next config.state action)) := by
  by_cases hcycle : isSafeCycle (machine.visit config.state action) = true
  · cases action with
    | job input =>
        rw [isSafeCycle_job, Bool.and_eq_true] at hcycle
        exact held_of_safeCycle hrun.sound hcycle.1 hcycle.2 index
    | _ => exact absurd hcycle (by simp [isSafeCycle])
  rw [Bool.not_eq_true] at hcycle
  obtain ⟨hleaves, hbefore⟩ := EpisodePast.of_cons hpast hcycle
  refine motionAt_next hrun.sound.formed (hrun.held hbefore)
    (fun _ _ motor offsets _ => heldAxis_new _ motor offsets _) ?_
  intro axis haxis hmotion hheld
  by_cases hjob : ∃ input, action = .job input
  · obtain ⟨input, rfl⟩ := hjob
    by_cases hrunning : config.state.runtime.jobRunning = true
    · have hsafe : config.state.cycleIsSafe input = false := by
        rw [isSafeCycle_job, hrunning, Bool.true_and] at hcycle
        exact hcycle
      have hreleased := not_required_of_motionCycle hsafe
      have hmovable := movable_of_motionCycle hrunning hsafe
      simp only [axisNext, hmotion, hrunning, Bool.and_true, if_true, jobAxis, hsafe,
        Bool.false_eq_true, if_false]
      obtain ⟨hinput, hlatched⟩ := uncommanded_inputAxis config.state index input axis
      have hheldInput : HeldAxis config.state (config.state.inputAxis index input axis) :=
        hheld.of_uncommanded hinput hlatched id hheld.settled
      exact (hheldInput.sendData hmovable hreleased _ _).1
    · have hsame : next config.state (.job input) = config.state :=
        jobCycle_of_not_running input (by simpa using hrunning)
      rw [hsame]
      simp only [axisNext, Bool.not_eq_true] at hrunning ⊢
      rw [hrunning]
      exact hheld
  · by_cases hstart : ∃ input, action = .bringUp input
    · obtain ⟨input, rfl⟩ := hstart
      exact hheld.bringUp hrun.sound.formed input
    · have hjob : ∀ input, action ≠ .job input := fun input h => hjob ⟨input, h⟩
      have hstart : ∀ input, action ≠ .bringUp input := fun input h => hstart ⟨input, h⟩
      obtain ⟨huncommanded, hlatched⟩ := uncommanded_axisNext hjob hstart hleaves axis
      refine hheld.of_uncommanded huncommanded hlatched (movable_next hjob) fun hafter => ?_
      by_cases hsafe : config.state.runtime.safeOutputRequired = true
      swap
      · exact hheld.settled (by simpa using hsafe)
      -- the action is a release that returns true, and it finds the axis settled
      obtain ⟨rfl, hcan⟩ := release_of_released hrun.sound.formed hsafe hafter
      simpa [releasesSettled, hcan, hsafe, hbefore, haxis, hmotion] using hsettled

theorem SetpointRun.die_next {index : Nat} {config : BackendConfig} {action : BackendAction}
    (hrun : SetpointRun index config) : SetpointsDie index (machine.advance config action) := by
  intro visit earlier after hhistory hcycle hpast hafter hmotion
  obtain ⟨rfl, rfl⟩ := List.cons.inj hhistory
  cases action with
  | job input =>
      rw [isMotionCycle_job, Bool.and_eq_true, Bool.not_eq_true'] at hcycle
      obtain ⟨hrunning, hsafe⟩ := hcycle
      obtain ⟨axis, haxis, hmotionAxis, rfl⟩ :=
        exists_of_getElem?_jobCycle hrun.sound.formed hrunning hafter hmotion
      have hsound := (hrun.sound.axes index axis haxis hmotionAxis).of_sameDrive
        (sameDrive_inputAxis config.state index input axis)
      have hreleased := not_required_of_motionCycle hsafe
      have hmovable := movable_of_motionCycle hrunning hsafe
      obtain ⟨hinput, hlatched⟩ := uncommanded_inputAxis config.state index input axis
      have hheld := hrun.held hpast axis haxis hmotionAxis
      have hheldInput : HeldAxis config.state (config.state.inputAxis index input axis) :=
        hheld.of_uncommanded hinput hlatched id hheld.settled
      obtain ⟨hsent, hposition, hvelocity⟩ := hheldInput.sendData hmovable hreleased config.state
        (input.domain.wcState == .complete)
      rw [jobAxis_of_motionCycle hsafe]
      refine ⟨?_, ?_, hposition⟩
      · change (if (config.state.inputAxis index input axis).offsets.targetTorque != 0 then _
          else (config.state.inputAxis index input axis).output.targetTorque) = 0
        split
        · exact hsent.pinned.torque
        · rename_i hoffset
          exact hsound.torque_unmapped (by simpa using hoffset)
      · change (if (config.state.inputAxis index input axis).offsets.targetVelocity != 0 then _
          else (config.state.inputAxis index input axis).output.targetVelocity) = 0
        split
        · exact hvelocity
        · rename_i hoffset
          exact hsound.velocity_unmapped (by simpa using hoffset)
  | _ => exact absurd hcycle (by simp [isMotionCycle, machine])

theorem SetpointRun.advance {index : Nat} {config : BackendConfig} {action : BackendAction}
    (hrun : SetpointRun index config) (hsettled : releasesSettled index config action = true) :
    SetpointRun index (machine.advance config action) where
  sound := hrun.sound.next action
  held := hrun.held_next hsettled
  die := hrun.die_next

/-- In every run whose releases find the setpoints settled, what was commanded before an episode is
not sent after it. -/
theorem setpointsDie_of_releasesSettled (index : Nat) (actions : List BackendAction)
    (hsettled : machine.Meets (fun config action => releasesSettled index config action = true)
      (Config.start {}) actions) :
    SetpointsDie index (machine.exec (Config.start {}) actions) := by
  have hstart : SetpointRun index (Config.start {}) := by
    refine ⟨sound_default, fun hpast => absurd hpast id, ?_⟩
    exact fun _ _ _ hhistory => absurd hhistory (by simp)
  have hrun := machine.exec_invariant_of_meets
    (fun config action hrun hkept => SetpointRun.advance hrun hkept) hstart hsettled
  exact hrun.die

/-- A torque is commanded and, before a cycle takes it over, safe-output is requested: it is still
pending when the next motion cycle comes. -/
def torqueAcrossEpisode : List BackendAction :=
  dwelledStart ++ [.releaseSafeOutput, .call (.setTargetTorque 0 100 .jobInternal 0),
    .requestSafeOutput, healthyJob 0, .clearCommFault, healthyJob 0, .releaseSafeOutput,
    healthyJob 0]

theorem not_setpointsDie :
    ¬ ∀ actions index, SetpointsDie index (machine.exec (Config.start {}) actions) := by
  intro hall
  have hdie := hall torqueAcrossEpisode 0 _ _ _ rfl (by decide +kernel) (by decide +kernel) rfl
    (by decide +kernel)
  exact absurd hdie.1 (by decide +kernel)

/-- A torque that a cycle took over before the episode is gone after it. -/
theorem setpointsDie_after_episode :
    SetpointsDie 0 (machine.exec (Config.start {})
      (dwelledStart ++ [.releaseSafeOutput, .call (.setTargetTorque 0 100 .jobInternal 0),
        healthyJob 0, .requestSafeOutput, healthyJob 0, .clearCommFault, healthyJob 0,
        .releaseSafeOutput, healthyJob 0])) :=
  setpointsDie_of_releasesSettled 0 _ (by decide +kernel)

end Backend

end IghMaster
