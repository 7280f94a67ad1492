import IghMaster.Proof.SetpointRuns

/-!
# Switches into CSP

A switch aligns the target with the actual position, but a position that was commanded before is taken
over from its buffer by the next `sendData` all the same. The runs below are those in which a switch
finds no such position, or one that is the actual position anyway; then the drive is sent the position
of the switch until it is given another one.
-/

namespace IghMaster

open Transition

def ServoCall.positionsAxis (index : Nat) : ServoCall → Bool
  | .setOperationMode motorId _ => Servo.covers motorId index
  | .setTargetPosition motorId _ _ => motorId.toNat == index
  | .setIdleInputPosition motorId _ => motorId.toNat == index
  | _ => false

namespace Setpoints

/-- Only the other channels may differ. -/
structure SamePosition (setpoints after : Setpoints) : Prop where
  target_eq : after.targetPosition = setpoints.targetPosition
  override_eq : after.positionOverrideActive = setpoints.positionOverrideActive
  pending_eq : after.pending.position = setpoints.pending.position
  valid_eq : after.pending.positionValid = setpoints.pending.positionValid

theorem SamePosition.refl (setpoints : Setpoints) : setpoints.SamePosition setpoints :=
  ⟨rfl, rfl, rfl, rfl⟩

/-- The position is sent, whether or not a pending command is taken over. -/
structure AtPosition (position : Int32) (setpoints : Setpoints) : Prop where
  target : setpoints.targetPosition = position
  override : setpoints.positionOverrideActive = true
  pending : setpoints.pending.positionValid = true → setpoints.pending.position = position

/-- No other position than the given one would be taken over. -/
def pendsOnly (position : Int32) (setpoints : Setpoints) : Bool :=
  !setpoints.pending.positionValid || setpoints.pending.position == position

variable {setpoints after : Setpoints} {position : Int32}

theorem AtPosition.of_same (hat : setpoints.AtPosition position)
    (hsame : setpoints.SamePosition after) : after.AtPosition position where
  target := hsame.target_eq.trans hat.target
  override := hsame.override_eq.trans hat.override
  pending := fun hvalid => hsame.pending_eq.trans (hat.pending (hsame.valid_eq ▸ hvalid))

theorem Uncommanded.samePosition (hafter : Uncommanded setpoints after) :
    setpoints.SamePosition after := by
  cases hafter <;> exact ⟨rfl, rfl, rfl, rfl⟩

theorem AtPosition.sent (hat : setpoints.AtPosition position) :
    setpoints.sent.AtPosition position := by
  have htarget : setpoints.mergePending.targetPosition = position := by
    change (if setpoints.pending.positionValid then setpoints.pending.position
      else setpoints.targetPosition) = position
    split
    · rename_i hvalid
      exact hat.pending hvalid
    · exact hat.target
  refine ⟨?_, hat.override, fun hvalid => absurd hvalid Bool.false_ne_true⟩
  change (if true && !setpoints.positionOverrideActive then setpoints.idleInputPosition
    else setpoints.mergePending.targetPosition) = position
  rw [hat.override]
  exact htarget

theorem atPosition_enterMode (hpends : setpoints.pendsOnly position = true) :
    (setpoints.enterMode .cyclicSyncPosition position).AtPosition position := by
  rw [enterMode, if_pos rfl]
  refine ⟨rfl, rfl, fun hvalid => ?_⟩
  change setpoints.pending.positionValid = true at hvalid
  simpa [pendsOnly, hvalid] using hpends

end Setpoints

namespace Axis

theorem samePosition_performAxis {index : Nat} {call : ServoCall}
    (hpositions : call.positionsAxis index = false) (flags : RuntimeFlags) (servo : Servo)
    (axis : Axis) :
    axis.setpoints.SamePosition (servo.performAxis flags index call axis).setpoints := by
  by_cases hcommands : call.commandsAxis index = true
  swap
  · rw [Bool.not_eq_true] at hcommands
    exact (axis.uncommanded_performAxis hcommands flags servo).1.samePosition
  cases call with
  | setTargetVelocity motorId velocity overrideIdle source nowNs =>
      simp only [Servo.performAxis]
      split <;> exact ⟨rfl, rfl, rfl, rfl⟩
  | setIdleInputVelocity motorId velocity =>
      simp only [Servo.performAxis]
      split <;> exact ⟨rfl, rfl, rfl, rfl⟩
  | setTargetTorque motorId torque source nowNs =>
      simp only [Servo.performAxis]
      split <;> exact ⟨rfl, rfl, rfl, rfl⟩
  | setOperationMode motorId mode =>
      exact absurd (hpositions.symm.trans hcommands) Bool.false_ne_true
  | setTargetPosition motorId position overrideFilter =>
      exact absurd (hpositions.symm.trans hcommands) Bool.false_ne_true
  | setIdleInputPosition motorId position =>
      exact absurd (hpositions.symm.trans hcommands) Bool.false_ne_true
  | setEnable motorId enable => exact absurd hcommands Bool.false_ne_true
  | applyCommandContentionFallback => exact absurd hcommands Bool.false_ne_true

end Axis

namespace Backend

/-- The call switches the axis from another mode to CSP. -/
def entersPosition (index : Nat) (backend : Backend) : BackendAction → Bool
  | .call (.setOperationMode motorId mode) =>
      Servo.covers motorId index && mode == .cyclicSyncPosition &&
        backend.servo.axes[index]?.any fun axis =>
          axis.isMotion && axis.mode != .cyclicSyncPosition
  | _ => false

def repositions (index : Nat) (visit : BackendVisit) : Bool :=
  isSafeCycle visit ||
    match visit.action with
    | .call call => call.positionsAxis index
    | _ => false

/-- The actual position that was cached when the axis was last switched into CSP, if it was not
positioned since. -/
def switchedAt (index : Nat) : List BackendVisit → Option Int32
  | [] => none
  | visit :: earlier =>
      if entersPosition index visit.before visit.action then
        visit.before.servo.axes[index]?.map fun axis => axis.last.actualPosition
      else if repositions index visit then none
      else switchedAt index earlier

/-- A motion cycle sends the position of the switch. -/
def Bumpless (index : Nat) (config : BackendConfig) : Prop :=
  ∀ visit earlier position axis, config.history = visit :: earlier →
    isMotionCycle visit = true → switchedAt index earlier = some position →
      visit.after.servo.axes[index]? = some axis → axis.isMotion = true →
        axis.output.targetPosition = position

/-- A switch into CSP finds no pending position, or the actual one. -/
def switchesSettled (index : Nat) (backend : Backend) (action : BackendAction) : Bool :=
  !entersPosition index backend action ||
    backend.servo.axes[index]?.all fun axis => axis.setpoints.pendsOnly axis.last.actualPosition

structure SwitchRun (index : Nat) (config : BackendConfig) : Prop where
  sound : config.state.Sound
  held : ∀ position, switchedAt index config.history = some position →
    config.state.movable = true →
      config.state.servo.MotionAt index fun axis => axis.setpoints.AtPosition position
  bumpless : Bumpless index config

variable {index : Nat} {config : BackendConfig} {action : BackendAction}

/-! ### One step -/

theorem atPosition_of_entersPosition {backend : Backend} (hsound : backend.Sound)
    (henters : entersPosition index backend action = true)
    (hsettled : switchesSettled index backend action = true) {axis : Axis}
    (haxis : backend.servo.axes[index]? = some axis) :
    (next backend action).servo.MotionAt index fun after =>
      after.setpoints.AtPosition axis.last.actualPosition := by
  rw [switchesSettled, henters, haxis] at hsettled
  simp only [Bool.not_true, Bool.false_or, Option.all_some] at hsettled
  cases action with
  | call call =>
      cases call with
      | setOperationMode motorId mode =>
          simp only [entersPosition, haxis, Option.any_some, Bool.and_eq_true, beq_iff_eq,
            bne_iff_ne] at henters
          obtain ⟨⟨hcovers, rfl⟩, hmotion, hmode⟩ := henters
          intro after hafter _
          have hother : ∀ bus config motors,
              BackendAction.call (.setOperationMode motorId .cyclicSyncPosition) ≠
                .initializeServo bus config motors := by simp
          have hnext := getElem?_next hsound.formed index hother
          rw [hafter, haxis, Option.map_some, Option.some.injEq] at hnext
          rw [hnext]
          simp only [axisNext, Servo.performAxis, hcovers, if_true]
          rw [Axis.applyMode, if_neg (by simp [hmotion, hmode])]
          exact Setpoints.atPosition_enterMode hsettled
      | _ => exact absurd henters Bool.false_ne_true
  | _ => exact absurd henters Bool.false_ne_true

/-- Outside the Job cycles, an axis of a backend that may move keeps its position unless it is
positioned. -/
theorem samePosition_axisNext {backend : Backend} (hsound : backend.Sound)
    (hother : ∀ input, action ≠ .job input) (hmovable : backend.movable = true)
    (hkeeps : repositions index (machine.visit backend action) = false) (axis : Axis) :
    axis.setpoints.SamePosition (backend.axisNext index action axis).setpoints := by
  have hrunning : backend.runtime.jobRunning = true := by
    rw [movable, Bool.and_eq_true] at hmovable
    exact hmovable.1
  have hactivated : backend.servo.activated = true := hsound.formed.running_eq.symm.trans hrunning
  cases action with
  | bringUp input =>
      simp only [axisNext, bringUpAxis, hactivated, Bool.not_true, Bool.and_false, Bool.false_and,
        Bool.false_eq_true, if_false]
      exact .refl _
  | call call =>
      have hcall : call.positionsAxis index = false := by
        simpa [repositions, isSafeCycle] using hkeeps
      exact axis.samePosition_performAxis hcall backend.flags backend.servo
  | job input => exact absurd rfl (hother input)
  | clearCommFault => exact ⟨rfl, rfl, rfl, rfl⟩
  | initializeServo bus config motors => exact .refl _
  | setOperational => exact .refl _
  | deactivate => exact .refl _
  | requestFaultReset motorId allowWithoutFault slavesInOp => exact .refl _
  | requestSafeOutput => exact .refl _
  | releaseSafeOutput => exact .refl _

theorem switchedAt_cons_of_enters {visit : BackendVisit} {earlier : List BackendVisit}
    (henters : entersPosition index visit.before visit.action = true) :
    switchedAt index (visit :: earlier) =
      visit.before.servo.axes[index]?.map fun axis => axis.last.actualPosition := by
  rw [switchedAt, if_pos henters]

theorem switchedAt_of_cons {visit : BackendVisit} {earlier : List BackendVisit} {position : Int32}
    (henters : entersPosition index visit.before visit.action = false)
    (hswitched : switchedAt index (visit :: earlier) = some position) :
    repositions index visit = false ∧ switchedAt index earlier = some position := by
  rw [switchedAt, henters, if_neg Bool.false_ne_true] at hswitched
  split at hswitched
  · exact absurd hswitched (by simp)
  · rename_i hkeeps
    exact ⟨by simpa using hkeeps, hswitched⟩

theorem SwitchRun.atPosition_jobAxis (hrun : SwitchRun index config) {input : JobInput}
    {position : Int32} (hswitched : switchedAt index config.history = some position)
    (hrunning : config.state.runtime.jobRunning = true)
    (hsafe : config.state.cycleIsSafe input = false) {axis : Axis}
    (haxis : config.state.servo.axes[index]? = some axis) (hmotion : axis.isMotion = true) :
    (config.state.jobAxis index input axis).setpoints.AtPosition position ∧
      (config.state.jobAxis index input axis).output.targetPosition = position := by
  have hmovable : config.state.movable = true := by
    rw [movable, hrunning, not_required_of_motionCycle hsafe]
    rfl
  have hinput : (config.state.inputAxis index input axis).setpoints.AtPosition position :=
    (hrun.held position hswitched hmovable axis haxis hmotion).of_same
      (uncommanded_inputAxis config.state index input axis).1.samePosition
  rw [jobAxis_of_motionCycle hsafe]
  exact ⟨hinput.sent, hinput.sent.target⟩

theorem SwitchRun.held_next (hrun : SwitchRun index config)
    (hsettled : switchesSettled index config.state action = true) {position : Int32}
    (hswitched : switchedAt index (machine.advance config action).history = some position)
    (hmovable : (next config.state action).movable = true) :
    (next config.state action).servo.MotionAt index
      fun axis => axis.setpoints.AtPosition position := by
  rw [Machine.advance_history] at hswitched
  by_cases henters : entersPosition index config.state action = true
  · rw [switchedAt_cons_of_enters (by exact henters), Machine.visit_before,
      Option.map_eq_some_iff] at hswitched
    obtain ⟨axis, haxis, rfl⟩ := hswitched
    exact atPosition_of_entersPosition hrun.sound henters hsettled haxis
  · obtain ⟨hkeeps, hbefore⟩ := switchedAt_of_cons (by simpa using henters) hswitched
    by_cases hjob : ∃ input, action = .job input
    · obtain ⟨input, rfl⟩ := hjob
      change (config.state.jobCycle input).servo.MotionAt index _
      by_cases hrunning : config.state.runtime.jobRunning = true
      · have hsafe : config.state.cycleIsSafe input = false := by
          simpa [repositions, isSafeCycle, hrunning] using hkeeps
        intro after hafter hmotion
        have hmap := getElem?_jobCycle hrun.sound.formed input index
        rw [hafter] at hmap
        obtain ⟨axis, haxis, hupdate⟩ := Option.map_eq_some_iff.mp hmap.symm
        by_cases hdrive : axis.isMotion = true
        · rw [hrunning, hdrive, if_pos (by rfl)] at hupdate
          rw [← hupdate]
          exact (hrun.atPosition_jobAxis hbefore hrunning hsafe haxis hdrive).1
        · rw [if_neg (by simp [hdrive])] at hupdate
          exact absurd (hupdate ▸ hmotion) hdrive
      · have hstate := jobCycle_of_not_running input (Bool.eq_false_of_not_eq_true hrunning)
        change (config.state.jobCycle input).movable = true at hmovable
        rw [hstate] at hmovable ⊢
        exact hrun.held position hbefore hmovable
    · have hother : ∀ input, action ≠ .job input := fun input h => hjob ⟨input, h⟩
      have hmovableBefore := movable_next hother hmovable
      have hrunning : config.state.runtime.jobRunning = true := by
        rw [movable, Bool.and_eq_true] at hmovableBefore
        exact hmovableBefore.1
      have hready : config.state.servo.ready = true :=
        hrun.sound.formed.ready_eq.trans hrunning
      rw [Servo.ready, Bool.and_eq_true] at hready
      refine motionAt_next_of_initialized hrun.sound.formed hready.1
        (hrun.held position hbefore hmovableBefore) ?_
      intro axis _ _ hat
      exact hat.of_same (samePosition_axisNext hrun.sound hother hmovableBefore hkeeps axis)

theorem SwitchRun.bumpless_next (hrun : SwitchRun index config) :
    Bumpless index (machine.advance config action) := by
  intro visit earlier position after hhistory hcycle hswitched hafter hmotion
  obtain ⟨rfl, rfl⟩ := List.cons.inj hhistory
  cases action with
  | job input =>
      have hmoves := hcycle
      rw [isMotionCycle_job, Bool.and_eq_true, Bool.not_eq_true'] at hmoves
      obtain ⟨axis, haxis, hdrive, rfl⟩ :=
        exists_of_getElem?_jobCycle hrun.sound.formed hmoves.1 hafter hmotion
      exact (hrun.atPosition_jobAxis hswitched hmoves.1 hmoves.2 haxis hdrive).2
  | _ => exact absurd hcycle Bool.false_ne_true

theorem SwitchRun.advance (hrun : SwitchRun index config)
    (hsettled : switchesSettled index config.state action = true) :
    SwitchRun index (machine.advance config action) where
  sound := hrun.sound.next action
  held := fun _ hswitched hmovable => hrun.held_next hsettled hswitched hmovable
  bumpless := hrun.bumpless_next

/-- In every run whose switches into CSP find no other position pending, each sends the position that
it aligned to. -/
theorem bumpless_of_switchesSettled (index : Nat) (actions : List BackendAction)
    (hsettled : machine.Meets
      (fun config action => switchesSettled index config.state action = true)
      (Config.start {}) actions) :
    Bumpless index (machine.exec (Config.start {}) actions) := by
  have hstart : SwitchRun index (Config.start {}) :=
    ⟨sound_default, fun _ hswitched => absurd hswitched (by simp [switchedAt]),
      fun _ _ _ _ hhistory => absurd hhistory (by simp)⟩
  have hstep : ∀ (config : BackendConfig) (action : BackendAction), SwitchRun index config →
      switchesSettled index config.state action = true →
        SwitchRun index (machine.advance config action) :=
    fun config action hrun hkept => hrun.advance hkept
  exact (machine.exec_invariant_of_meets hstep hstart hsettled).bumpless

/-- A position is commanded in CSV; no cycle takes it over before the switch. -/
def commandedBeforeSwitch : List BackendAction :=
  dwelledStart ++ [.releaseSafeOutput, .call (.setOperationMode 0 .cyclicSyncVelocity),
    .call (.setTargetPosition 0 5000 true), .call (.setOperationMode 0 .cyclicSyncPosition),
    healthyJob 0]

theorem not_bumpless :
    ¬ ∀ actions index, Bumpless index (machine.exec (Config.start {}) actions) := by
  intro hall
  have hbumpless := hall commandedBeforeSwitch 0 _ _ 0 _ rfl (by decide +kernel) (by decide +kernel)
    rfl (by decide +kernel)
  exact absurd hbumpless (by decide +kernel)

/-- A cycle in CSV takes the commanded position over before the switch. -/
theorem bumpless_after_cycle :
    Bumpless 0 (machine.exec (Config.start {})
      (dwelledStart ++ [.releaseSafeOutput, .call (.setOperationMode 0 .cyclicSyncVelocity),
        .call (.setTargetPosition 0 5000 true), healthyJob 0,
        .call (.setOperationMode 0 .cyclicSyncPosition), healthyJob 0])) :=
  bumpless_of_switchesSettled 0 _ (by decide +kernel)

end Backend

end IghMaster
