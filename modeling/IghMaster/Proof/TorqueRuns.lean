import IghMaster.Proof.BackendLatches

/-!
# Torque commands and their watchdog

An external torque command arms a deadline, and the deadline is disarmed by more than what removes
the torque. The runs below are those in which no disarmed torque of an external command is let
through, by a release or by a change into the torque mode.
-/

namespace IghMaster

open Transition

namespace Axis

def nextTorque (axis : Axis) : Int16 := axis.setpoints.mergePending.targetTorque

/-- The torque watchdog and the mode stay, and the torque stays or is zeroed. -/
structure TorqueKept (axis after : Axis) : Prop where
  torque : after.nextTorque = axis.nextTorque ∨ after.nextTorque = 0
  freshness : after.torqueFreshness = axis.torqueFreshness
  mode : after.mode = axis.mode

theorem TorqueKept.refl (axis : Axis) : axis.TorqueKept axis := ⟨Or.inl rfl, rfl, rfl⟩

theorem TorqueKept.trans {first second third : Axis} (hfirst : first.TorqueKept second)
    (hsecond : second.TorqueKept third) : first.TorqueKept third where
  torque := by
    rcases hsecond.torque with hsame | hzero
    · rw [hsame]
      exact hfirst.torque
    · exact Or.inr hzero
  freshness := hsecond.freshness.trans hfirst.freshness
  mode := hsecond.mode.trans hfirst.mode

theorem TorqueKept.nextTorque_ne_zero {axis after : Axis} (hkept : axis.TorqueKept after)
    (hne : after.nextTorque ≠ 0) : axis.nextTorque ≠ 0 := by
  rcases hkept.torque with hsame | hzero
  · rw [← hsame]
    exact hne
  · exact absurd hzero hne

theorem torqueKept_applySafe (entering : Bool) (actualPosition : Int32) (word : UInt16)
    (axis : Axis) : axis.TorqueKept (axis.applySafe entering actualPosition word) := by
  refine ⟨?_, rfl, rfl⟩
  change (if axis.setpoints.pending.torqueValid then axis.setpoints.pending.torque else 0) =
      (if axis.setpoints.pending.torqueValid then axis.setpoints.pending.torque
        else axis.setpoints.targetTorque) ∨
    (if axis.setpoints.pending.torqueValid then axis.setpoints.pending.torque else 0) = 0
  by_cases hvalid : axis.setpoints.pending.torqueValid = true
  · rw [if_pos hvalid, if_pos hvalid]
    exact Or.inl rfl
  · rw [if_neg hvalid, if_neg hvalid]
    exact Or.inr rfl

theorem torqueKept_sendData (activated wcOk : Bool) (axis : Axis) :
    axis.TorqueKept (axis.sendData activated wcOk) := ⟨Or.inl rfl, rfl, rfl⟩

theorem torqueKept_contentionFallback (csvCmdWatchdog : Bool) (axis : Axis) :
    axis.TorqueKept (axis.contentionFallback csvCmdWatchdog) := by
  unfold contentionFallback
  split_ifs
  · exact ⟨Or.inr rfl, rfl, rfl⟩
  · exact ⟨Or.inl rfl, rfl, rfl⟩
  · exact TorqueKept.refl axis

theorem torqueKept_setInitialPosition (reads : List Int32) (axis : Axis) :
    axis.TorqueKept (Servo.setInitialPosition reads axis) := by
  unfold Servo.setInitialPosition
  split <;> exact ⟨Or.inl rfl, rfl, rfl⟩

theorem tripStale_torque (csvCmdWatchdog : Bool) (nowNs : Nat) (axis : Axis) :
    (axis.isTorqueStale nowNs = true ∧ (axis.tripStale csvCmdWatchdog nowNs).nextTorque = 0 ∧
        (axis.tripStale csvCmdWatchdog nowNs).torqueFreshness.armed = false ∧
        (axis.tripStale csvCmdWatchdog nowNs).mode = axis.mode) ∨
      (axis.isTorqueStale nowNs = false ∧
        axis.TorqueKept (axis.tripStale csvCmdWatchdog nowNs)) := by
  unfold tripStale
  by_cases hstale : axis.isTorqueStale nowNs = true
  · rw [if_pos hstale]
    exact Or.inl ⟨hstale, rfl, rfl, rfl⟩
  · rw [if_neg hstale]
    refine Or.inr ⟨by simpa using hstale, ?_⟩
    split
    · exact ⟨Or.inl rfl, rfl, rfl⟩
    · exact TorqueKept.refl axis

theorem nextTorque_applyMode (mode : OperationMode) (axis : Axis) :
    (axis.applyMode mode).nextTorque = axis.nextTorque := by
  unfold applyMode
  split
  · rfl
  · unfold nextTorque Setpoints.enterMode
    dsimp only
    split_ifs <;> rfl

theorem torqueFreshness_applyMode {mode : OperationMode} {axis : Axis}
    (henter : axis.mode ≠ .cyclicSyncTorque ∨ mode = .cyclicSyncTorque) :
    (axis.applyMode mode).torqueFreshness = axis.torqueFreshness := by
  unfold applyMode
  split
  · rfl
  · change (if axis.mode = .cyclicSyncTorque ∧ mode ≠ .cyclicSyncTorque then
      axis.torqueFreshness.disarm else axis.torqueFreshness) = axis.torqueFreshness
    rw [if_neg]
    rintro ⟨hmode, hleave⟩
    rcases henter with hother | hsame
    · exact hother hmode
    · exact hleave hsame

theorem mode_applyMode {mode : OperationMode} {axis : Axis} (hmotion : axis.isMotion = true) :
    (axis.applyMode mode).mode = mode := by
  unfold applyMode
  by_cases hsame : axis.mode = mode
  · simp [hmotion, hsame]
  · simp [hmotion, hsame]

theorem disarmed_applyMode {mode : OperationMode} {axis : Axis} (hmotion : axis.isMotion = true)
    (hbefore : axis.mode = .cyclicSyncTorque) (hafter : mode ≠ .cyclicSyncTorque) :
    (axis.applyMode mode).torqueFreshness.armed = false := by
  have hchange : axis.mode ≠ mode := by
    rw [hbefore]
    exact hafter.symm
  unfold applyMode
  rw [if_neg (by simp [hmotion, hchange])]
  change (if axis.mode = .cyclicSyncTorque ∧ mode ≠ .cyclicSyncTorque then
    axis.torqueFreshness.disarm else axis.torqueFreshness).armed = false
  rw [if_pos ⟨hbefore, hafter⟩]
  rfl

end Axis

namespace Backend

/-- The torque command that the visit gave to the axis, with its source and time. -/
def torqueCommand (index : Nat) (visit : BackendVisit) : Option (SetpointSource × Nat) :=
  match visit.action with
  | .call (.setTargetTorque motorId _ source nowNs) =>
      if motorId.toNat = index then some (source, nowNs) else none
  | _ => none

def latestTorqueCommand (index : Nat) (history : List BackendVisit) :
    Option (SetpointSource × Nat) := history.findSome? (torqueCommand index)

/-- Where a motion cycle writes a torque to an axis in the torque mode, the latest command was given
by the Job or is no older than the watchdog. -/
def NoStaleTorque (index : Nat) (config : BackendConfig) : Prop :=
  ∀ visit earlier input axis, config.history = visit :: earlier → visit.action = .job input →
    isMotionCycle visit = true → 0 < visit.before.servo.externalCmdWatchdogNs →
      visit.after.servo.axes[index]? = some axis → axis.isMotion = true →
        axis.mode = .cyclicSyncTorque → axis.output.targetTorque ≠ 0 →
          ∃ source issuedNs, latestTorqueCommand index earlier = some (source, issuedNs) ∧
            (source = .jobInternal ∨
              input.freshnessNowNs ≤ issuedNs + visit.before.servo.externalCmdWatchdogNs)

/-- An external command left a torque to be sent, and no deadline watches it. -/
def unwatched (index : Nat) (history : List BackendVisit) (axis : Axis) : Bool :=
  axis.nextTorque != 0 && !axis.torqueFreshness.armed &&
    (latestTorqueCommand index history).any fun command => command.1 == .external

/-- A step that does not let an unwatched torque through: a release with the axis in the torque mode,
or a change into that mode outside safe-output. -/
def watchesTorque (index : Nat) (config : BackendConfig) : BackendAction → Bool
  | .releaseSafeOutput =>
      !(config.state.canRelease && config.state.runtime.safeOutputRequired) ||
        config.state.servo.axes[index]?.all fun axis =>
          !axis.isMotion || axis.mode != .cyclicSyncTorque || !unwatched index config.history axis
  | .call (.setOperationMode motorId mode) =>
      config.state.runtime.safeOutputRequired || mode != .cyclicSyncTorque ||
        !Servo.covers motorId index ||
          config.state.servo.axes[index]?.all fun axis =>
            !axis.isMotion || axis.mode == .cyclicSyncTorque ||
              !unwatched index config.history axis
  | _ => true

/-- What an action can do to the torque of an axis. -/
inductive TorqueStep (backend : Backend) (index : Nat) (action : BackendAction) (axis : Axis) :
    Axis → Prop
  | kept (after : Axis) (hkept : axis.TorqueKept after)
      (hcommand : torqueCommand index (machine.visit backend action) = none) :
      TorqueStep backend index action axis after
  | tripped (after : Axis) (hzero : after.nextTorque = 0)
      (hdisarmed : after.torqueFreshness.armed = false) :
      TorqueStep backend index action axis after
  | cleared (haction : action = .clearCommFault) :
      TorqueStep backend index action axis axis.disarmCommandFreshness
  | modeChanged (motorId : UInt8) (mode : OperationMode)
      (haction : action = .call (.setOperationMode motorId mode))
      (hcovers : Servo.covers motorId index = true) :
      TorqueStep backend index action axis (axis.applyMode mode)
  | commanded (motorId : UInt8) (torque : Int16) (source : SetpointSource) (nowNs : Nat)
      (haction : action = .call (.setTargetTorque motorId torque source nowNs))
      (hindex : motorId.toNat = index) :
      TorqueStep backend index action axis
        (axis.setTargetTorque torque source nowNs backend.servo.externalCmdWatchdogNs)

/-- An action that keeps the torque of the axes it covers. -/
theorem torqueStep_ite {backend : Backend} {index : Nat} {action : BackendAction} {axis after : Axis}
    {condition : Prop} [Decidable condition] (hkept : axis.TorqueKept after)
    (hcommand : torqueCommand index (machine.visit backend action) = none) :
    TorqueStep backend index action axis (if condition then after else axis) := by
  split
  · exact .kept _ hkept hcommand
  · exact .kept _ (Axis.TorqueKept.refl axis) hcommand

theorem torqueStep_performAxis (backend : Backend) (index : Nat) (call : ServoCall)
    (axis : Axis) :
    TorqueStep backend index (.call call) axis
      (backend.servo.performAxis backend.flags index call axis) := by
  cases call with
  | setEnable motorId enable =>
      exact torqueStep_ite ⟨Or.inl rfl, rfl, rfl⟩ rfl
  | setOperationMode motorId mode =>
      simp only [Servo.performAxis]
      split
      · rename_i hcovers
        exact .modeChanged motorId mode rfl hcovers
      · exact .kept _ (Axis.TorqueKept.refl axis) rfl
  | setTargetPosition motorId position overrideFilter =>
      exact torqueStep_ite ⟨Or.inl rfl, rfl, rfl⟩ rfl
  | setIdleInputPosition motorId position =>
      exact torqueStep_ite ⟨Or.inl rfl, rfl, rfl⟩ rfl
  | setTargetVelocity motorId velocity overrideIdle source nowNs =>
      exact torqueStep_ite ⟨Or.inl rfl, rfl, rfl⟩ rfl
  | setIdleInputVelocity motorId velocity =>
      exact torqueStep_ite ⟨Or.inl rfl, rfl, rfl⟩ rfl
  | setTargetTorque motorId torque source nowNs =>
      simp only [Servo.performAxis]
      split
      · rename_i hindex
        exact .commanded motorId torque source nowNs rfl hindex
      · rename_i hindex
        exact .kept _ (Axis.TorqueKept.refl axis) (by simp [torqueCommand, hindex])
  | applyCommandContentionFallback =>
      exact torqueStep_ite (axis.torqueKept_contentionFallback _) rfl

theorem torqueKept_bringUpAxis (backend : Backend) (index : Nat) (input : BringUpInput)
    (axis : Axis) : axis.TorqueKept (backend.bringUpAxis index input axis) := by
  obtain ⟨positioned, hpositioned, hnext⟩ := backend.bringUpAxis_cases index input axis
  have hkept : axis.TorqueKept positioned := by
    rcases hpositioned with rfl | rfl
    · exact Axis.TorqueKept.refl _
    · exact axis.torqueKept_setInitialPosition _
  rcases hnext with hnext | ⟨-, hnext⟩
  · rw [hnext]
    exact hkept
  · rw [hnext]
    exact hkept.trans ⟨Or.inl rfl, rfl, rfl⟩

/-- Before the outputs, a Job cycle keeps the torque of an axis or trips its watchdog. -/
theorem torque_inputAxis (backend : Backend) (index : Nat) (input : JobInput) (axis : Axis) :
    (axis.TorqueKept (backend.inputAxis index input axis) ∧
        (backend.checksFreshness = true → axis.isTorqueStale input.freshnessNowNs = false)) ∨
      ((backend.inputAxis index input axis).nextTorque = 0 ∧
        (backend.inputAxis index input axis).torqueFreshness.armed = false) := by
  unfold inputAxis
  dsimp only
  by_cases hchecks : backend.checksFreshness = true
  · rw [if_pos hchecks]
    rcases axis.tripStale_torque backend.servo.csvCmdWatchdog input.freshnessNowNs with
      ⟨-, hzero, hdisarmed, -⟩ | ⟨hfresh, hkept⟩
    · exact Or.inr ⟨hzero, hdisarmed⟩
    · exact Or.inl ⟨hkept.trans ⟨Or.inl rfl, rfl, rfl⟩, fun _ => hfresh⟩
  · rw [if_neg hchecks]
    exact Or.inl ⟨⟨Or.inl rfl, rfl, rfl⟩, fun h => absurd h hchecks⟩

theorem torqueStep_jobAxis (backend : Backend) (index : Nat) (input : JobInput) (axis : Axis) :
    TorqueStep backend index (.job input) axis (backend.jobAxis index input axis) := by
  have houtputs : (backend.inputAxis index input axis).TorqueKept
      (backend.jobAxis index input axis) := by
    unfold jobAxis
    split
    · exact Axis.torqueKept_applySafe _ _ _ _
    · exact Axis.torqueKept_sendData _ _ _
  rcases torque_inputAxis backend index input axis with ⟨hkept, -⟩ | ⟨hzero, hdisarmed⟩
  · exact .kept _ (hkept.trans houtputs) rfl
  · refine .tripped _ ?_ ?_
    · rcases houtputs.torque with hsame | hnone
      · rw [hsame]
        exact hzero
      · exact hnone
    · rw [houtputs.freshness]
      exact hdisarmed

theorem torqueStep_axisNext (backend : Backend) (index : Nat) (action : BackendAction)
    (axis : Axis) :
    TorqueStep backend index action axis (backend.axisNext index action axis) := by
  cases action with
  | bringUp input => exact .kept _ (torqueKept_bringUpAxis backend index input axis) rfl
  | call call => exact torqueStep_performAxis backend index call axis
  | clearCommFault => exact .cleared rfl
  | job input =>
      simp only [axisNext]
      split
      · exact torqueStep_jobAxis backend index input axis
      · exact .kept _ (Axis.TorqueKept.refl axis) rfl
  | initializeServo bus config motors => exact .kept _ (Axis.TorqueKept.refl axis) rfl
  | setOperational => exact .kept _ (Axis.TorqueKept.refl axis) rfl
  | deactivate => exact .kept _ (Axis.TorqueKept.refl axis) rfl
  | requestFaultReset motorId allowWithoutFault slavesInOp =>
      exact .kept _ (Axis.TorqueKept.refl axis) rfl
  | requestSafeOutput => exact .kept _ (Axis.TorqueKept.refl axis) rfl
  | releaseSafeOutput => exact .kept _ (Axis.TorqueKept.refl axis) rfl

/-! ### The invariant -/

/-- What is known of the torque of an axis, given its latest command. -/
structure WatchedAxis (backend : Backend) (latest : Option (SetpointSource × Nat))
    (axis : Axis) : Prop where
  commanded : axis.nextTorque ≠ 0 → latest.isSome = true
  armed : axis.torqueFreshness.armed = true → ∃ issuedNs, latest = some (.external, issuedNs) ∧
    axis.torqueFreshness.deadlineNs ≤ issuedNs + backend.servo.externalCmdWatchdogNs
  watched : 0 < backend.servo.externalCmdWatchdogNs →
    backend.runtime.safeOutputRequired = false → axis.mode = .cyclicSyncTorque →
      axis.nextTorque ≠ 0 →
        axis.torqueFreshness.armed = true ∨ ∃ issuedNs, latest = some (.jobInternal, issuedNs)

structure TorqueRun (index : Nat) (config : BackendConfig) : Prop where
  sound : config.state.Sound
  watched : config.state.servo.MotionAt index
    (WatchedAxis config.state (latestTorqueCommand index config.history))
  fresh : NoStaleTorque index config

theorem watchedAxis_new (backend : Backend) (latest : Option (SetpointSource × Nat))
    (config : MotorConfig) (offsets : PdoOffsets) (word : FaultResetWord) :
    WatchedAxis backend latest { config := config, offsets := offsets, faultResetCw := word } :=
  ⟨fun h => absurd rfl h, fun h => absurd h (by simp), fun _ _ _ h => absurd rfl h⟩

/-- An unwatched torque is all that can be wrong with a torque that no one watches. -/
theorem WatchedAxis.of_not_unwatched {backend : Backend} {index : Nat}
    {history : List BackendVisit} {axis : Axis}
    (hwatched : WatchedAxis backend (latestTorqueCommand index history) axis)
    (hnot : unwatched index history axis = false) (hne : axis.nextTorque ≠ 0) :
    axis.torqueFreshness.armed = true ∨
      ∃ issuedNs, latestTorqueCommand index history = some (.jobInternal, issuedNs) := by
  by_cases harmed : axis.torqueFreshness.armed = true
  · exact Or.inl harmed
  · have hsome := hwatched.commanded hne
    cases hlatest : latestTorqueCommand index history with
    | none => simp [hlatest] at hsome
    | some command =>
        obtain ⟨source, issuedNs⟩ := command
        cases source with
        | jobInternal => exact Or.inr ⟨issuedNs, rfl⟩
        | external => simp [unwatched, hne, harmed, hlatest] at hnot

theorem latestTorqueCommand_cons_of_none {index : Nat} {visit : BackendVisit}
    {history : List BackendVisit} (hnone : torqueCommand index visit = none) :
    latestTorqueCommand index (visit :: history) = latestTorqueCommand index history := by
  rw [latestTorqueCommand, List.findSome?_cons, hnone]
  rfl

theorem latestTorqueCommand_cons_of_some {index : Nat} {visit : BackendVisit}
    {command : SetpointSource × Nat} {history : List BackendVisit}
    (hsome : torqueCommand index visit = some command) :
    latestTorqueCommand index (visit :: history) = some command := by
  rw [latestTorqueCommand, List.findSome?_cons, hsome]

theorem externalCmdWatchdogNs_next {backend : Backend} (hformed : backend.Formed)
    (action : BackendAction) (hinitialized : backend.servo.initialized = true) :
    (next backend action).servo.externalCmdWatchdogNs = backend.servo.externalCmdWatchdogNs := by
  have hsame : configuration (next backend action).servo = configuration backend.servo :=
    configuration_next hformed fun _ _ _ _ => hinitialized
  have htimeout := congrArg Servo.externalCmdWatchdogNs hsame
  exact htimeout

/-- A kept torque stays watched over every action that gives no command and releases nothing. -/
theorem WatchedAxis.of_kept {backend backend' : Backend} {latest : Option (SetpointSource × Nat)}
    {axis after : Axis} (hwatched : WatchedAxis backend latest axis)
    (hkept : axis.TorqueKept after)
    (htimeout : backend'.servo.externalCmdWatchdogNs = backend.servo.externalCmdWatchdogNs)
    (hreleased : backend'.runtime.safeOutputRequired = false →
      axis.mode = .cyclicSyncTorque → axis.nextTorque ≠ 0 →
        backend.runtime.safeOutputRequired = false ∨ axis.torqueFreshness.armed = true ∨
          ∃ issuedNs, latest = some (.jobInternal, issuedNs)) :
    WatchedAxis backend' latest after where
  commanded := fun hne => hwatched.commanded (hkept.nextTorque_ne_zero hne)
  armed := fun harmed => by
    rw [hkept.freshness] at harmed ⊢
    rw [htimeout]
    exact hwatched.armed harmed
  watched := fun hpos hafter hmode hne => by
    rw [htimeout] at hpos
    rw [hkept.mode] at hmode
    rw [hkept.freshness]
    have hbefore := hkept.nextTorque_ne_zero hne
    rcases hreleased hafter hmode hbefore with hsafe | hwatch
    · exact hwatched.watched hpos hsafe hmode hbefore
    · exact hwatch

/-- A torque of zero with its watchdog disarmed needs no watching. -/
theorem watchedAxis_of_zero {backend : Backend} {latest : Option (SetpointSource × Nat)}
    {axis : Axis} (hzero : axis.nextTorque = 0) (hdisarmed : axis.torqueFreshness.armed = false) :
    WatchedAxis backend latest axis :=
  ⟨fun h => absurd hzero h, fun h => absurd (hdisarmed.symm.trans h) (by simp),
    fun _ _ _ h => absurd hzero h⟩

theorem watchedAxis_setTargetTorque {backend : Backend} {watchdogNs : Nat}
    (htimeout : backend.servo.externalCmdWatchdogNs = watchdogNs) (axis : Axis) (torque : Int16)
    (source : SetpointSource) (nowNs : Nat) :
    WatchedAxis backend (some (source, nowNs))
      (axis.setTargetTorque torque source nowNs watchdogNs) := by
  subst htimeout
  cases source with
  | jobInternal =>
      refine ⟨fun _ => rfl, fun harmed => ?_, fun _ _ _ _ => Or.inr ⟨nowNs, rfl⟩⟩
      exact absurd harmed (by simp [Axis.setTargetTorque, CommandFreshnessState.markJobInternalCommand])
  | external =>
      refine ⟨fun _ => rfl, fun _ => ⟨nowNs, rfl, ?_⟩, fun hpos _ _ _ => Or.inl ?_⟩
      · exact CommandFreshnessState.deadlineNs_armExternalCommand_le _ _ _
      · exact CommandFreshnessState.armed_armExternalCommand hpos

/-! ### Runs -/

theorem TorqueRun.watched_next {index : Nat} {config : BackendConfig} {action : BackendAction}
    (hrun : TorqueRun index config) (hwatches : watchesTorque index config action = true) :
    (next config.state action).servo.MotionAt index (WatchedAxis (next config.state action)
      (latestTorqueCommand index (machine.advance config action).history)) := by
  have hformed := hrun.sound.formed
  refine motionAt_next hformed hrun.watched
    (fun _ _ motor offsets _ => watchedAxis_new _ _ motor offsets _) ?_
  intro axis haxis hmotion hwatched
  have htimeout : (next config.state action).servo.externalCmdWatchdogNs =
      config.state.servo.externalCmdWatchdogNs := by
    apply externalCmdWatchdogNs_next hformed
    rw [← Bool.not_eq_false]
    intro hfresh
    rw [hformed.axes_eq_nil hfresh] at haxis
    exact absurd haxis (by simp)
  have hstep := torqueStep_axisNext config.state index action axis
  revert hstep
  generalize config.state.axisNext index action axis = after
  intro hstep
  rw [Machine.advance_history]
  cases hstep with
  | kept after hkept hcommand =>
      rw [latestTorqueCommand_cons_of_none hcommand]
      refine hwatched.of_kept hkept htimeout fun hreleased hmode hne => ?_
      by_cases hsafe : config.state.runtime.safeOutputRequired = true
      swap
      · exact Or.inl (by simpa using hsafe)
      -- the action is a release that returns true, and it finds the torque watched
      obtain ⟨rfl, hcan⟩ := release_of_released hformed hsafe hreleased
      refine Or.inr (hwatched.of_not_unwatched ?_ hne)
      simpa [watchesTorque, hcan, hsafe, haxis, hmotion, hmode] using hwatches
  | tripped after hzero hdisarmed => exact watchedAxis_of_zero hzero hdisarmed
  | cleared haction =>
      subst haction
      rw [latestTorqueCommand_cons_of_none (by rfl)]
      refine ⟨fun hne => hwatched.commanded hne, fun h => absurd h (by simp [
        Axis.disarmCommandFreshness]), fun _ hreleased => absurd hreleased (by simp [next,
        clearCommFault, IghMasterRuntime.clearCommFault])⟩
  | modeChanged motorId mode haction hcovers =>
      subst haction
      rw [latestTorqueCommand_cons_of_none (by rfl)]
      refine ⟨fun hne => ?_, fun harmed => ?_, fun hpos hreleased hmode hne => ?_⟩
      · rw [Axis.nextTorque_applyMode] at hne
        exact hwatched.commanded hne
      · by_cases hleave : axis.mode ≠ .cyclicSyncTorque ∨ mode = .cyclicSyncTorque
        · rw [Axis.torqueFreshness_applyMode hleave] at harmed ⊢
          rw [htimeout]
          exact hwatched.armed harmed
        · -- the mode was left, so the watchdog is disarmed
          push Not at hleave
          have hdisarmed := Axis.disarmed_applyMode hmotion hleave.1 hleave.2
          exact absurd (hdisarmed.symm.trans harmed) (by simp)
      · rw [Axis.mode_applyMode hmotion] at hmode
        rw [Axis.nextTorque_applyMode] at hne
        rw [Axis.torqueFreshness_applyMode (Or.inr hmode)]
        have hreleased : config.state.runtime.safeOutputRequired = false := hreleased
        by_cases hbefore : axis.mode = .cyclicSyncTorque
        · exact hwatched.watched (htimeout ▸ hpos) hreleased hbefore hne
        · apply hwatched.of_not_unwatched _ hne
          simpa [watchesTorque, hreleased, hmode, hcovers, haxis, hmotion, hbefore] using hwatches
  | commanded motorId torque source nowNs haction hindex =>
      subst haction
      rw [latestTorqueCommand_cons_of_some (by simp [torqueCommand, hindex]; rfl)]
      exact watchedAxis_setTargetTorque htimeout axis torque source nowNs

theorem TorqueRun.fresh_next {index : Nat} {config : BackendConfig} {action : BackendAction}
    (hrun : TorqueRun index config) : NoStaleTorque index (machine.advance config action) := by
  intro visit earlier input after hhistory haction hcycle hpos hafter hmotion hmode hne
  obtain ⟨rfl, rfl⟩ := List.cons.inj hhistory
  have haction : action = .job input := haction
  subst haction
  rw [isMotionCycle_job, Bool.and_eq_true, Bool.not_eq_true'] at hcycle
  obtain ⟨hrunning, hsafe⟩ := hcycle
  have hpos : 0 < config.state.servo.externalCmdWatchdogNs := hpos
  obtain ⟨axis, haxis, hmotionAxis, rfl⟩ :=
    exists_of_getElem?_jobCycle hrun.sound.formed hrunning hafter hmotion
  have hsame := sameDrive_inputAxis config.state index input axis
  have hsound := (hrun.sound.axes index axis haxis hmotionAxis).of_sameDrive hsame
  rw [jobAxis_of_motionCycle hsafe] at hmode hne
  have hsent : (config.state.inputAxis index input axis).nextTorque ≠ 0 := by
    intro hzero
    apply hne
    change (if (config.state.inputAxis index input axis).offsets.targetTorque != 0 then
      (config.state.inputAxis index input axis).nextTorque
      else (config.state.inputAxis index input axis).output.targetTorque) = 0
    split
    · exact hzero
    · rename_i hoffset
      exact hsound.torque_unmapped (by simpa using hoffset)
  have hmodeBefore : axis.mode = .cyclicSyncTorque := hsame.mode_eq.symm.trans hmode
  rcases torque_inputAxis config.state index input axis with ⟨hkept, hfresh⟩ | ⟨hzero, -⟩
  swap
  · exact absurd hzero hsent
  have hwatched := hrun.watched axis haxis hmotionAxis
  have hreleased := not_required_of_motionCycle hsafe
  rcases hwatched.watched hpos hreleased hmodeBefore (hkept.nextTorque_ne_zero hsent) with
    harmed | ⟨issuedNs, hlatest⟩
  · obtain ⟨issuedNs, hlatest, hdeadline⟩ := hwatched.armed harmed
    refine ⟨.external, issuedNs, hlatest, Or.inr ?_⟩
    have hready : config.state.servo.ready = true :=
      hrun.sound.formed.ready_eq.trans hrunning
    have hchecks : config.state.checksFreshness = true := by
      rw [Servo.ready, Bool.and_eq_true] at hready
      simp [checksFreshness, hready.1, hreleased, Nat.ne_of_gt hpos]
    have hnotStale := hfresh hchecks
    unfold Axis.isTorqueStale at hnotStale
    rw [hmodeBefore, beq_self_eq_true, Bool.true_and] at hnotStale
    exact (CommandFreshnessState.le_deadlineNs_of_not_stale harmed hnotStale).trans hdeadline
  · exact ⟨.jobInternal, issuedNs, hlatest, Or.inl rfl⟩

theorem TorqueRun.advance {index : Nat} {config : BackendConfig} {action : BackendAction}
    (hrun : TorqueRun index config) (hwatches : watchesTorque index config action = true) :
    TorqueRun index (machine.advance config action) where
  sound := hrun.sound.next action
  watched := hrun.watched_next hwatches
  fresh := hrun.fresh_next

/-- In every run that lets no unwatched torque through, no stale torque is written in the torque
mode, whatever the clock does. -/
theorem noStaleTorque_of_watchesTorque (index : Nat) (actions : List BackendAction)
    (hwatches : machine.Meets (fun config action => watchesTorque index config action = true)
      (Config.start {}) actions) :
    NoStaleTorque index (machine.exec (Config.start {}) actions) := by
  have hstart : TorqueRun index (Config.start {}) :=
    ⟨sound_default, fun _ haxis => absurd haxis (by simp),
      fun _ _ _ _ hhistory => absurd hhistory (by simp)⟩
  have hrun := machine.exec_invariant_of_meets
    (fun config action hrun hkept => TorqueRun.advance hrun hkept) hstart hwatches
  exact hrun.fresh

/-- An external torque, a change of the mode away and back, and no further command: the change has
disarmed the watchdog. -/
def torqueAcrossModes : List BackendAction :=
  dwelledStart ++ [.releaseSafeOutput, .call (.setOperationMode 0 .cyclicSyncTorque),
    .call (.setTargetTorque 0 100 .external 0), healthyJob 0,
    .call (.setOperationMode 0 .cyclicSyncPosition),
    .call (.setOperationMode 0 .cyclicSyncTorque), healthyJob 1000000000]

theorem not_noStaleTorque :
    ¬ ∀ actions index, NoStaleTorque index (machine.exec (Config.start {}) actions) := by
  intro hall
  obtain ⟨source, issuedNs, hlatest, hfresh⟩ := hall torqueAcrossModes 0 _ _ _ _ rfl rfl
    (by decide +kernel) (by decide +kernel) rfl (by decide +kernel) (by decide +kernel)
    (by decide +kernel)
  have hexternal := hlatest.symm.trans
    (show latestTorqueCommand 0 _ = some (SetpointSource.external, 0) by decide +kernel)
  obtain ⟨rfl, rfl⟩ := Prod.mk.inj (Option.some.inj hexternal)
  rcases hfresh with hsource | hrecent
  · exact absurd hsource (by decide)
  · exact absurd hrecent (by decide +kernel)

/-- An external torque that is repeated in time. -/
theorem noStaleTorque_while_commanded :
    NoStaleTorque 0 (machine.exec (Config.start {})
      (dwelledStart ++ [.releaseSafeOutput, .call (.setOperationMode 0 .cyclicSyncTorque),
        .call (.setTargetTorque 0 100 .external 0), healthyJob 1000,
        .call (.setTargetTorque 0 90 .external 2000), healthyJob 250002000])) :=
  noStaleTorque_of_watchesTorque 0 _ (by decide +kernel)

end Backend

end IghMaster
