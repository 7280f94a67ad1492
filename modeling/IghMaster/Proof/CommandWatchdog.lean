import IghMaster.Proof.HeldPositions
import IghMaster.Proof.MasterSteps
import IghMaster.Proof.TorqueRuns

/-!
# The command watchdog

Each axis has two channels under watch, its torque in CST and its velocity in CSV. The freshness check
compares the clock with a deadline that the axis stores; over a run that deadline is the one of the
latest command that is still watched.
-/

namespace IghMaster

open Transition

inductive WatchdogChannel where
  | torque
  | velocity
  deriving DecidableEq

namespace WatchdogChannel

def mode : WatchdogChannel → OperationMode
  | torque => .cyclicSyncTorque
  | velocity => .cyclicSyncVelocity

/-- The velocity is watched only where `csv_cmd_watchdog_` asks for it. -/
def isWatched (servo : Servo) : WatchdogChannel → Bool
  | torque => true
  | velocity => servo.csvCmdWatchdog

def freshness (axis : Axis) : WatchdogChannel → CommandFreshnessState
  | torque => axis.torqueFreshness
  | velocity => axis.velocityFreshness

def isStale (servo : Servo) (nowNs : Nat) (axis : Axis) (channel : WatchdogChannel) : Bool :=
  channel.isWatched servo && axis.mode == channel.mode &&
    (channel.freshness axis).isExternalCommandStale nowNs

end WatchdogChannel

/-- The time that an action reads for the watchdog. -/
def BackendAction.clockReading : BackendAction → Option Nat
  | .call (.setTargetVelocity _ _ _ _ nowNs) => some nowNs
  | .call (.setTargetTorque _ _ _ nowNs) => some nowNs
  | .job input => some input.freshnessNowNs
  | _ => none

/-- `CLOCK_MONOTONIC` counts the nanoseconds since the boot in a signed 64-bit number. -/
def BackendAction.ReadsClock (action : BackendAction) : Prop :=
  ∀ nowNs ∈ action.clockReading, nowNs < 2 ^ 63

instance (action : BackendAction) : Decidable action.ReadsClock :=
  inferInstanceAs (Decidable (∀ nowNs ∈ action.clockReading, nowNs < 2 ^ 63))

namespace Backend

def inModeOf (channel : WatchdogChannel) (index : Nat) (backend : Backend) : Bool :=
  backend.servo.axes[index]?.any fun axis => axis.isMotion && axis.mode == channel.mode

/-- The command that the visit gave to the channel of an axis, with its source and time. An external
velocity counts in CSV alone. -/
def watchdogCommand (channel : WatchdogChannel) (index : Nat) (visit : BackendVisit) :
    Option (SetpointSource × Nat) :=
  if (visit.before.servo.axes[index]?).isSome then
    match channel, visit.action with
    | .torque, .call (.setTargetTorque motorId _ source nowNs) =>
        if motorId.toNat = index then some (source, nowNs) else none
    | .velocity, .call (.setTargetVelocity motorId _ _ source nowNs) =>
        if motorId.toNat = index ∧ (source = .jobInternal ∨ inModeOf .velocity index visit.before)
        then some (source, nowNs) else none
    | _, _ => none
  else
    none

def leavesMode (channel : WatchdogChannel) (index : Nat) (visit : BackendVisit) : Bool :=
  inModeOf channel index visit.before && !inModeOf channel index visit.after

/-- The visit is a Job cycle outside safe-output that finds an external command of a watched channel
older than the timeout. -/
def overdue (channel : WatchdogChannel) (index : Nat) (visit : BackendVisit)
    (command : Option (SetpointSource × Nat)) : Bool :=
  match visit.action, command with
  | .job input, some (.external, issuedNs) =>
      visit.before.runtime.jobRunning && !visit.before.runtime.safeOutputRequired &&
        channel.isWatched visit.before.servo && inModeOf channel index visit.before &&
          decide (issuedNs + visit.before.servo.externalCmdWatchdogNs < input.freshnessNowNs)
  | _, _ => false

/-- The latest command of a channel since the mode of the channel was left, the fault latch was cleared
or the command before it tripped the watchdog. -/
def watchedCommand (channel : WatchdogChannel) (index : Nat) :
    List BackendVisit → Option (SetpointSource × Nat)
  | [] => none
  | visit :: earlier =>
      if isClearCommFault visit || leavesMode channel index visit ||
          overdue channel index visit (watchedCommand channel index earlier) then none
      else (watchdogCommand channel index visit).or (watchedCommand channel index earlier)

/-- The freshness check of a Job cycle latches the fault. -/
def freshnessLatches (input : JobInput) (backend : Backend) : Bool :=
  let consumed : Backend := { backend with runtime := backend.runtime.consumePendingDwellFault }
  !consumed.runtime.commFault &&
    (consumed.checkFreshness input.freshnessNowNs).runtime.commFault

/-- A Job cycle that starts outside safe-output latches the fault in its freshness check just where
the latest command of some axis is overdue, and then the whole bus gets safe outputs at once. -/
def ExactWatchdog (config : BackendConfig) : Prop :=
  ∀ (visit : BackendVisit) earlier input, config.history = visit :: earlier →
    visit.action = .job input → visit.before.runtime.jobRunning = true →
      visit.before.runtime.safeOutputRequired = false →
      0 < visit.before.servo.externalCmdWatchdogNs →
        (visit.before.freshnessLatches input = true ↔
          ∃ index channel, overdue channel index visit (watchedCommand channel index earlier) = true) ∧
        (visit.before.freshnessLatches input = true → isSafeCycle visit = true ∧
          ∀ (index : Nat) (axis : Axis), visit.after.servo.axes[index]? = some axis →
            axis.isMotion = true → axis.output.targetTorque = 0 ∧ axis.output.targetVelocity = 0)

end Backend

/-! ### The stored deadline -/

/-- An external command is stored by its deadline, and any other by none. -/
def CommandFreshnessState.Records (timeoutNs : Nat) (command : Option (SetpointSource × Nat))
    (state : CommandFreshnessState) : Prop :=
  match command with
  | some (.external, issuedNs) => state.armed = true ∧ state.deadlineNs = issuedNs + timeoutNs
  | _ => state.armed = false

namespace CommandFreshnessState

variable {timeoutNs nowNs : Nat} {command : Option (SetpointSource × Nat)}
  {state : CommandFreshnessState}

theorem Records.stale_iff (hrecords : state.Records timeoutNs command) (nowNs : Nat) :
    state.isExternalCommandStale nowNs = true ↔
      ∃ issuedNs, command = some (.external, issuedNs) ∧ issuedNs + timeoutNs < nowNs := by
  match command with
  | none =>
      have harmed : state.armed = false := hrecords
      simp [isExternalCommandStale, harmed]
  | some (.jobInternal, issuedNs) =>
      have harmed : state.armed = false := hrecords
      simp [isExternalCommandStale, harmed]
  | some (.external, issuedNs) =>
      obtain ⟨harmed, hdeadline⟩ := hrecords
      simp [isExternalCommandStale, harmed, hdeadline]

/-- A deadline that fits into its 64 bits is stored as it is. -/
theorem records_armExternalCommand (hpos : 0 < timeoutNs) (hfits : nowNs + timeoutNs < UInt64.size) :
    (state.armExternalCommand nowNs timeoutNs).Records timeoutNs (some (.external, nowNs)) := by
  unfold armExternalCommand
  rw [if_neg (Nat.ne_of_gt hpos)]
  exact ⟨rfl, Nat.mod_eq_of_lt hfits⟩

theorem records_markJobInternalCommand (state : CommandFreshnessState) :
    state.markJobInternalCommand.Records timeoutNs (some (.jobInternal, nowNs)) := rfl

end CommandFreshnessState

namespace Axis

theorem isTorqueStale_eq (servo : Servo) (nowNs : Nat) (axis : Axis) :
    axis.isTorqueStale nowNs = WatchdogChannel.torque.isStale servo nowNs axis := by
  rw [WatchdogChannel.isStale, WatchdogChannel.isWatched, Bool.true_and]
  rfl

theorem isVelocityStale_eq (servo : Servo) (nowNs : Nat) (axis : Axis) :
    axis.isVelocityStale servo.csvCmdWatchdog nowNs =
      WatchdogChannel.velocity.isStale servo nowNs axis := rfl

theorem freshness_tripStale (channel : WatchdogChannel) (servo : Servo) (nowNs : Nat)
    (axis : Axis) :
    (channel.isStale servo nowNs axis = true ∧
        (channel.freshness (axis.tripStale servo.csvCmdWatchdog nowNs)).armed = false) ∨
      (channel.isStale servo nowNs axis = false ∧
        channel.freshness (axis.tripStale servo.csvCmdWatchdog nowNs) = channel.freshness axis) := by
  unfold tripStale
  rw [isTorqueStale_eq servo, isVelocityStale_eq]
  by_cases htorque : WatchdogChannel.torque.isStale servo nowNs axis = true
  · -- an axis in CST has no stale velocity
    have hvelocity : WatchdogChannel.velocity.isStale servo nowNs axis = false := by
      simp only [WatchdogChannel.isStale, Bool.and_eq_true, beq_iff_eq] at htorque
      have hmode : (axis.mode == WatchdogChannel.velocity.mode) = false := by
        rw [htorque.1.2]
        decide
      simp [WatchdogChannel.isStale, hmode]
    rw [if_pos htorque]
    cases channel with
    | torque => exact Or.inl ⟨htorque, rfl⟩
    | velocity => exact Or.inr ⟨hvelocity, rfl⟩
  · rw [if_neg htorque]
    rw [Bool.not_eq_true] at htorque
    by_cases hvelocity : WatchdogChannel.velocity.isStale servo nowNs axis = true
    · rw [if_pos hvelocity]
      cases channel with
      | torque => exact Or.inr ⟨htorque, rfl⟩
      | velocity => exact Or.inl ⟨hvelocity, rfl⟩
    · rw [if_neg hvelocity]
      rw [Bool.not_eq_true] at hvelocity
      cases channel with
      | torque => exact Or.inr ⟨htorque, rfl⟩
      | velocity => exact Or.inr ⟨hvelocity, rfl⟩

theorem mode_tripStale (csvCmdWatchdog : Bool) (nowNs : Nat) (axis : Axis) :
    (axis.tripStale csvCmdWatchdog nowNs).mode = axis.mode := by
  unfold tripStale
  split_ifs <;> rfl

theorem freshness_disarmLeavingMode (channel : WatchdogChannel) (mode : OperationMode)
    (axis : Axis) :
    channel.freshness (axis.disarmLeavingMode mode) =
      if axis.mode = channel.mode ∧ mode ≠ channel.mode then (channel.freshness axis).disarm
      else channel.freshness axis := by
  cases channel <;> rfl

theorem freshness_applyMode (channel : WatchdogChannel) (mode : OperationMode) {axis : Axis}
    (hmotion : axis.isMotion = true) :
    (axis.mode = channel.mode ∧ (axis.applyMode mode).mode ≠ channel.mode ∧
        (channel.freshness (axis.applyMode mode)).armed = false) ∨
      ((axis.mode = channel.mode → (axis.applyMode mode).mode = channel.mode) ∧
        channel.freshness (axis.applyMode mode) = channel.freshness axis) := by
  rw [mode_applyMode hmotion]
  by_cases hsame : axis.mode = mode
  · have hkept : axis.applyMode mode = axis := by
      rw [applyMode, if_pos (by simp [hsame])]
    rw [hkept]
    exact Or.inr ⟨fun hbefore => hsame.symm.trans hbefore, rfl⟩
  · have hchanged : channel.freshness (axis.applyMode mode) =
        channel.freshness (axis.disarmLeavingMode mode) := by
      rw [applyMode, if_neg (by simp [hmotion, hsame])]
      cases channel <;> rfl
    rw [hchanged, freshness_disarmLeavingMode]
    by_cases hleft : axis.mode = channel.mode ∧ mode ≠ channel.mode
    · rw [if_pos hleft]
      exact Or.inl ⟨hleft.1, hleft.2, rfl⟩
    · rw [if_neg hleft]
      exact Or.inr ⟨fun hbefore => by_contra fun hafter => hleft ⟨hbefore, hafter⟩, rfl⟩

end Axis

/-! ### What an action does to a channel -/

namespace Backend

/-- What an action can do to the deadline of a watched channel. -/
inductive WatchStep (channel : WatchdogChannel) (backend : Backend) (index : Nat)
    (action : BackendAction) (axis : Axis) : Axis → Prop
  | kept (after : Axis) (hother : action ≠ .clearCommFault)
      (hfreshness : channel.freshness after = channel.freshness axis)
      (hmode : axis.mode = channel.mode → after.mode = channel.mode)
      (hcommand : watchdogCommand channel index (machine.visit backend action) = none)
      (hfresh : ∀ input, action = .job input → backend.runtime.jobRunning = true →
        backend.runtime.safeOutputRequired = false →
          channel.isStale backend.servo input.freshnessNowNs axis = false) :
      WatchStep channel backend index action axis after
  | left (after : Axis) (hbefore : axis.mode = channel.mode) (hafter : after.mode ≠ channel.mode)
      (hdisarmed : (channel.freshness after).armed = false) :
      WatchStep channel backend index action axis after
  | tripped (after : Axis) (input : JobInput) (haction : action = .job input)
      (hrunning : backend.runtime.jobRunning = true)
      (hsafe : backend.runtime.safeOutputRequired = false)
      (hstale : channel.isStale backend.servo input.freshnessNowNs axis = true)
      (hdisarmed : (channel.freshness after).armed = false) :
      WatchStep channel backend index action axis after
  | commanded (after : Axis) (source : SetpointSource) (nowNs : Nat)
      (hmode : after.mode = axis.mode)
      (hcommand : watchdogCommand channel index (machine.visit backend action) =
        some (source, nowNs))
      (hrecords : (channel.freshness after).Records backend.servo.externalCmdWatchdogNs
        (some (source, nowNs))) :
      WatchStep channel backend index action axis after
  | cleared (after : Axis) (haction : action = .clearCommFault)
      (hdisarmed : (channel.freshness after).armed = false) :
      WatchStep channel backend index action axis after

variable {channel : WatchdogChannel} {backend : Backend} {index : Nat} {axis : Axis}

theorem watchdogCommand_eq_none {visit : BackendVisit}
    (hnone : visit.action.clockReading = none ∨ ∃ input, visit.action = .job input) :
    watchdogCommand channel index visit = none := by
  unfold watchdogCommand
  split
  · split
    · rename_i haction
      simp [haction, BackendAction.clockReading] at hnone
    · rename_i haction
      simp [haction, BackendAction.clockReading] at hnone
    · rfl
  · rfl

theorem WatchStep.of_unread {action : BackendAction} {after : Axis}
    (hother : action ≠ .clearCommFault) (hunread : action.clockReading = none)
    (hfreshness : channel.freshness after = channel.freshness axis) (hmode : after.mode = axis.mode) :
    WatchStep channel backend index action axis after := by
  refine .kept after hother hfreshness (fun hbefore => hmode.trans hbefore)
    (watchdogCommand_eq_none (Or.inl hunread)) fun input haction => ?_
  subst haction
  exact absurd hunread (by simp [BackendAction.clockReading])

/-- A command of the Job is recorded by no deadline, and an external one by its own. -/
theorem records_setTargetTorque {source : SetpointSource} {nowNs timeoutNs : Nat}
    (hpos : 0 < timeoutNs) (hfits : nowNs + timeoutNs < UInt64.size) (torque : Int16) (axis : Axis) :
    (axis.setTargetTorque torque source nowNs timeoutNs).torqueFreshness.Records timeoutNs
      (some (source, nowNs)) := by
  cases source with
  | external => exact CommandFreshnessState.records_armExternalCommand hpos hfits
  | jobInternal => exact axis.torqueFreshness.records_markJobInternalCommand

theorem inModeOf_eq (haxis : backend.servo.axes[index]? = some axis)
    (hmotion : axis.isMotion = true) :
    inModeOf channel index backend = (axis.mode == channel.mode) := by
  simp [inModeOf, haxis, hmotion]

theorem watchStep_setTargetTorque (haxis : backend.servo.axes[index]? = some axis)
    (hpos : 0 < backend.servo.externalCmdWatchdogNs) (motorId : UInt8) (torque : Int16)
    (source : SetpointSource) {nowNs : Nat}
    (hfits : nowNs + backend.servo.externalCmdWatchdogNs < UInt64.size) :
    WatchStep channel backend index (.call (.setTargetTorque motorId torque source nowNs)) axis
      (backend.servo.performAxis backend.flags index
        (.setTargetTorque motorId torque source nowNs) axis) := by
  simp only [Servo.performAxis]
  split
  · rename_i hindex
    cases channel with
    | torque =>
        refine .commanded _ source nowNs rfl ?_ ?_
        · simp [watchdogCommand, haxis, hindex]
        · exact records_setTargetTorque hpos hfits torque axis
    | velocity =>
        exact .kept _ (by simp) rfl id (by simp [watchdogCommand]) (fun _ h => by simp at h)
  · rename_i hindex
    refine .kept _ (by simp) rfl id ?_ (fun _ h => by simp at h)
    cases channel <;> simp [watchdogCommand, hindex]

theorem watchStep_setTargetVelocity (haxis : backend.servo.axes[index]? = some axis)
    (hmotion : axis.isMotion = true) (hwatched : channel.isWatched backend.servo = true)
    (hpos : 0 < backend.servo.externalCmdWatchdogNs) (motorId : UInt8) (velocity : Int32)
    (overrideIdle : Bool) (source : SetpointSource) {nowNs : Nat}
    (hfits : nowNs + backend.servo.externalCmdWatchdogNs < UInt64.size) :
    WatchStep channel backend index
      (.call (.setTargetVelocity motorId velocity overrideIdle source nowNs)) axis
      (backend.servo.performAxis backend.flags index
        (.setTargetVelocity motorId velocity overrideIdle source nowNs) axis) := by
  simp only [Servo.performAxis]
  split
  swap
  · rename_i hindex
    refine .kept _ (by simp) rfl id ?_ (fun _ h => by simp at h)
    cases channel <;> simp [watchdogCommand, hindex]
  rename_i hindex
  cases channel with
  | torque => exact .kept _ (by simp) rfl id (by simp [watchdogCommand]) (fun _ h => by simp at h)
  | velocity =>
      have hcsv : backend.servo.csvCmdWatchdog = true := hwatched
      have hmode : inModeOf .velocity index backend = (axis.mode == .cyclicSyncVelocity) :=
        inModeOf_eq haxis hmotion
      cases source with
      | jobInternal =>
          refine .commanded _ .jobInternal nowNs rfl ?_ ?_
          · simp [watchdogCommand, haxis, hindex]
          · exact axis.velocityFreshness.records_markJobInternalCommand
      | external =>
          by_cases hcsvMode : axis.mode = .cyclicSyncVelocity
          · refine .commanded _ .external nowNs rfl ?_ ?_
            · simp [watchdogCommand, haxis, hindex, hmode, hcsvMode]
            · have harmed : (axis.setTargetVelocity velocity overrideIdle .external
                  backend.servo.csvCmdWatchdog nowNs
                  backend.servo.externalCmdWatchdogNs).velocityFreshness =
                  axis.velocityFreshness.armExternalCommand nowNs
                    backend.servo.externalCmdWatchdogNs := by
                simp [Axis.setTargetVelocity, hcsv, hcsvMode]
              change CommandFreshnessState.Records _ _ (Axis.velocityFreshness _)
              rw [harmed]
              exact CommandFreshnessState.records_armExternalCommand hpos hfits
          · -- outside CSV the command is not watched
            refine .kept _ (by simp) ?_ id ?_ (fun _ h => by simp at h)
            · change (Axis.setTargetVelocity _ _ _ _ _ _ axis).velocityFreshness = _
              simp [Axis.setTargetVelocity, hcsvMode]
              rfl
            · simp [watchdogCommand, haxis, hindex, hmode, hcsvMode]

theorem watchStep_performAxis (haxis : backend.servo.axes[index]? = some axis)
    (hmotion : axis.isMotion = true) (hwatched : channel.isWatched backend.servo = true)
    (hpos : 0 < backend.servo.externalCmdWatchdogNs) (call : ServoCall)
    (hfits : ∀ nowNs ∈ BackendAction.clockReading (.call call),
      nowNs + backend.servo.externalCmdWatchdogNs < UInt64.size) :
    WatchStep channel backend index (.call call) axis
      (backend.servo.performAxis backend.flags index call axis) := by
  cases call with
  | setTargetTorque motorId torque source nowNs =>
      exact watchStep_setTargetTorque haxis hpos motorId torque source (hfits nowNs rfl)
  | setTargetVelocity motorId velocity overrideIdle source nowNs =>
      exact watchStep_setTargetVelocity haxis hmotion hwatched hpos motorId velocity overrideIdle
        source (hfits nowNs rfl)
  | setOperationMode motorId mode =>
      simp only [Servo.performAxis]
      split
      · rcases axis.freshness_applyMode channel mode hmotion with
          ⟨hbefore, hafter, hdisarmed⟩ | ⟨hmode, hfreshness⟩
        · exact .left _ hbefore hafter hdisarmed
        · exact .kept _ (by simp) hfreshness hmode (watchdogCommand_eq_none (Or.inl rfl))
            (fun _ h => by simp at h)
      · exact .of_unread (by simp) rfl rfl rfl
  | applyCommandContentionFallback =>
      simp only [Servo.performAxis]
      unfold Axis.contentionFallback
      split_ifs <;> exact .of_unread (by simp) rfl (by cases channel <;> rfl) rfl
  | _ =>
      simp only [Servo.performAxis]
      split <;> exact .of_unread (by simp) rfl (by cases channel <;> rfl) rfl

theorem watchStep_jobAxis (hchecks : backend.runtime.safeOutputRequired = false →
      backend.checksFreshness = true) (hrunning : backend.runtime.jobRunning = true)
    (input : JobInput) :
    WatchStep channel backend index (.job input) axis (backend.jobAxis index input axis) := by
  have hcommand : watchdogCommand channel index (machine.visit backend (.job input)) = none :=
    watchdogCommand_eq_none (Or.inr ⟨input, rfl⟩)
  have houtputs : channel.freshness (backend.jobAxis index input axis) =
        channel.freshness (backend.inputAxis index input axis) ∧
      (backend.jobAxis index input axis).mode = (backend.inputAxis index input axis).mode := by
    unfold jobAxis
    split <;> exact ⟨by cases channel <;> rfl, rfl⟩
  have hinputMode : (backend.inputAxis index input axis).mode = axis.mode := by
    unfold inputAxis
    dsimp only
    split
    · exact axis.mode_tripStale _ _
    · rfl
  have hinputFreshness : channel.freshness (backend.inputAxis index input axis) =
      channel.freshness (if backend.checksFreshness then
        axis.tripStale backend.servo.csvCmdWatchdog input.freshnessNowNs else axis) := by
    cases channel <;> rfl
  have hmode : axis.mode = channel.mode → (backend.jobAxis index input axis).mode = channel.mode :=
    fun hbefore => (houtputs.2.trans hinputMode).trans hbefore
  rw [← houtputs.1] at hinputFreshness
  by_cases hsafe : backend.runtime.safeOutputRequired = false
  · rw [if_pos (hchecks hsafe)] at hinputFreshness
    rcases axis.freshness_tripStale channel backend.servo input.freshnessNowNs with
      ⟨hstale, hdisarmed⟩ | ⟨hfresh, hkept⟩
    · refine .tripped _ input rfl hrunning hsafe hstale ?_
      rw [hinputFreshness]
      exact hdisarmed
    · refine .kept _ (by simp) (hinputFreshness.trans hkept) hmode hcommand fun other haction _ _ => ?_
      obtain rfl := BackendAction.job.inj haction
      exact hfresh
  · have hskipped : backend.checksFreshness = false := by
      rw [Bool.not_eq_false] at hsafe
      simp [checksFreshness, hsafe]
    rw [if_neg (by simp [hskipped])] at hinputFreshness
    exact .kept _ (by simp) hinputFreshness hmode hcommand fun _ _ _ hfalse => absurd hfalse hsafe

theorem freshness_bringUpAxis (input : BringUpInput) (axis : Axis) :
    channel.freshness (backend.bringUpAxis index input axis) = channel.freshness axis := by
  obtain ⟨positioned, hpositioned, hnext⟩ := backend.bringUpAxis_cases index input axis
  have hsame : channel.freshness positioned = channel.freshness axis := by
    rcases hpositioned with rfl | rfl
    · rfl
    · unfold Servo.setInitialPosition
      split <;> cases channel <;> rfl
  have hactivated :
      channel.freshness (Servo.activateAxis positioned) = channel.freshness positioned := by
    cases channel <;> rfl
  rcases hnext with hnext | ⟨-, hnext⟩
  · rw [hnext, hsame]
  · rw [hnext, hactivated, hsame]

/-- An action under a clock that never comes near its end. -/
theorem watchStep_axisNext (hformed : backend.Formed) {action : BackendAction}
    (haxis : backend.servo.axes[index]? = some axis) (hmotion : axis.isMotion = true)
    (hwatched : channel.isWatched backend.servo = true)
    (hpos : 0 < backend.servo.externalCmdWatchdogNs)
    (hfits : ∀ nowNs ∈ action.clockReading,
      nowNs + backend.servo.externalCmdWatchdogNs < UInt64.size) :
    WatchStep channel backend index action axis (backend.axisNext index action axis) := by
  cases action with
  | bringUp input =>
      exact .of_unread (by simp) rfl (freshness_bringUpAxis input axis)
        (torqueKept_bringUpAxis backend index input axis).mode
  | call call => exact watchStep_performAxis haxis hmotion hwatched hpos call hfits
  | clearCommFault => exact .cleared _ rfl (by cases channel <;> rfl)
  | job input =>
      simp only [axisNext, hmotion, Bool.and_true]
      split
      · rename_i hrunning
        refine watchStep_jobAxis (fun hsafe => ?_) hrunning input
        have hready : backend.servo.ready = true := hformed.ready_eq.trans hrunning
        rw [Servo.ready, Bool.and_eq_true] at hready
        simp [checksFreshness, hready.1, hsafe, Nat.ne_of_gt hpos]
      · rename_i hidle
        exact .kept _ (by simp) rfl id (watchdogCommand_eq_none (Or.inr ⟨input, rfl⟩))
          fun _ _ hrunning => absurd hrunning hidle
  | _ => exact .of_unread (by simp) rfl rfl rfl

/-! ### The invariant -/

/-- The axis stores the deadline of the command, where the channel is watched. -/
def RecordsCommand (channel : WatchdogChannel) (index : Nat)
    (command : Option (SetpointSource × Nat)) (backend : Backend) : Prop :=
  channel.isWatched backend.servo = true → backend.servo.MotionAt index fun axis =>
    (channel.freshness axis).Records backend.servo.externalCmdWatchdogNs command

/-- A watched channel is stale in a Job cycle just where its latest command is overdue. -/
theorem RecordsCommand.stale_iff {command : Option (SetpointSource × Nat)}
    (hrecords : RecordsCommand channel index command backend)
    (haxis : backend.servo.axes[index]? = some axis) (hmotion : axis.isMotion = true)
    {input : JobInput} (hrunning : backend.runtime.jobRunning = true)
    (hsafe : backend.runtime.safeOutputRequired = false) :
    channel.isStale backend.servo input.freshnessNowNs axis = true ↔
      overdue channel index (machine.visit backend (.job input)) command = true := by
  have hmode : inModeOf channel index backend = (axis.mode == channel.mode) :=
    inModeOf_eq haxis hmotion
  by_cases hwatched : channel.isWatched backend.servo = true
  · have hstale := (hrecords hwatched axis haxis hmotion).stale_iff input.freshnessNowNs
    rw [WatchdogChannel.isStale, hwatched, Bool.true_and, Bool.and_eq_true, hstale]
    constructor
    · rintro ⟨hin, issuedNs, hcommand, hlate⟩
      simp [overdue, hcommand, hrunning, hsafe, hwatched, hmode, hin, hlate]
    · intro hoverdue
      unfold overdue at hoverdue
      split at hoverdue
      · rename_i read issuedNs haction
        obtain rfl := BackendAction.job.inj haction
        simp only [Machine.visit_before, hmode, Bool.and_eq_true] at hoverdue
        exact ⟨hoverdue.1.2, issuedNs, rfl, of_decide_eq_true hoverdue.2⟩
      · exact absurd hoverdue (by simp)
  · rw [Bool.not_eq_true] at hwatched
    refine iff_of_false (by simp [WatchdogChannel.isStale, hwatched]) ?_
    unfold overdue
    split
    · simp [hwatched]
    · simp

theorem exists_of_overdue {visit : BackendVisit} {command : Option (SetpointSource × Nat)}
    (hoverdue : overdue channel index visit command = true) :
    (∃ input, visit.action = .job input) ∧ visit.before.runtime.jobRunning = true ∧
      visit.before.runtime.safeOutputRequired = false ∧
        ∃ axis, visit.before.servo.axes[index]? = some axis ∧ axis.isMotion = true := by
  unfold overdue at hoverdue
  split at hoverdue
  · rename_i input issuedNs haction
    simp only [Bool.and_eq_true, Bool.not_eq_true'] at hoverdue
    obtain ⟨⟨⟨⟨hrunning, hsafe⟩, -⟩, hin⟩, -⟩ := hoverdue
    refine ⟨⟨input, haction⟩, hrunning, hsafe, ?_⟩
    simp only [inModeOf, Option.any_eq_true, Bool.and_eq_true] at hin
    obtain ⟨axis, haxis, hmotion, -⟩ := hin
    exact ⟨axis, haxis, hmotion⟩
  · exact absurd hoverdue (by simp)

theorem watchedCommand_cons (channel : WatchdogChannel) (index : Nat) (visit : BackendVisit)
    (earlier : List BackendVisit) :
    watchedCommand channel index (visit :: earlier) =
      if isClearCommFault visit || leavesMode channel index visit ||
          overdue channel index visit (watchedCommand channel index earlier) then none
      else (watchdogCommand channel index visit).or (watchedCommand channel index earlier) := rfl

theorem watchedCommand_eq_none {visit : BackendVisit} {earlier : List BackendVisit}
    (habsent : visit.before.servo.axes[index]? = none)
    (hnone : watchedCommand channel index earlier = none) :
    watchedCommand channel index (visit :: earlier) = none := by
  have hcommand : watchdogCommand channel index visit = none := by
    unfold watchdogCommand
    rw [if_neg (by simp [habsent])]
  rw [watchedCommand_cons, hcommand, hnone]
  split <;> rfl

/-- What is known of the watchdogs of a run. -/
structure WatchRun (config : BackendConfig) : Prop where
  sound : config.state.Sound
  faultSafe : config.state.runtime.latches.FaultSafe
  bounded : config.state.servo.externalCmdWatchdogNs < 2 ^ 63
  absent : ∀ (index : Nat), config.state.servo.axes[index]? = none →
    ∀ channel, watchedCommand channel index config.history = none
  recorded : 0 < config.state.servo.externalCmdWatchdogNs → ∀ channel index,
    RecordsCommand channel index (watchedCommand channel index config.history) config.state
  exact : ExactWatchdog config

/-- The record of a channel follows its commands over one action. -/
theorem WatchStep.records {earlier : List BackendVisit} {action : BackendAction} {after : Axis}
    (hstep : WatchStep channel backend index action axis after)
    (haxis : backend.servo.axes[index]? = some axis) (hmotion : axis.isMotion = true)
    (hafter : (next backend action).servo.axes[index]? = some after)
    (hmotionAfter : after.isMotion = true)
    (hwatched : channel.isWatched backend.servo = true)
    (hrecords : RecordsCommand channel index (watchedCommand channel index earlier) backend) :
    (channel.freshness after).Records backend.servo.externalCmdWatchdogNs
      (watchedCommand channel index (machine.visit backend action :: earlier)) := by
  have hbeforeMode : inModeOf channel index backend = (axis.mode == channel.mode) :=
    inModeOf_eq haxis hmotion
  have hafterMode : inModeOf channel index (next backend action) = (after.mode == channel.mode) :=
    inModeOf_eq hafter hmotionAfter
  have hleaves : leavesMode channel index (machine.visit backend action) =
      ((axis.mode == channel.mode) && !(after.mode == channel.mode)) := by
    rw [leavesMode, Machine.visit_before, hbeforeMode]
    exact congrArg (fun mode => (axis.mode == channel.mode) && !mode) hafterMode
  rw [watchedCommand_cons, hleaves]
  have hclears : action ≠ .clearCommFault →
      isClearCommFault (machine.visit backend action) = false := by
    intro hother
    cases action <;> first | rfl | exact absurd rfl hother
  cases hstep with
  | kept hother hfreshness hmode hcommand hfresh =>
      have hstays : ((axis.mode == channel.mode) && !(after.mode == channel.mode)) = false := by
        by_cases hbefore : axis.mode = channel.mode
        · simp [hmode hbefore]
        · simp [hbefore]
      have hintime : overdue channel index (machine.visit backend action)
          (watchedCommand channel index earlier) = false := by
        rw [← Bool.not_eq_true]
        intro hoverdue
        obtain ⟨⟨input, haction⟩, hrunning, hsafe, -⟩ := exists_of_overdue hoverdue
        have haction : action = .job input := haction
        subst haction
        have hstale := (hrecords.stale_iff haxis hmotion hrunning hsafe).mpr hoverdue
        exact absurd ((hfresh input rfl hrunning hsafe).symm.trans hstale) (by simp)
      rw [hstays, hintime, hclears hother, if_neg (by simp), hcommand, Option.none_or, hfreshness]
      exact hrecords hwatched axis haxis hmotion
  | left hbefore hleft hdisarmed =>
      rw [if_pos (by simp [hbefore, hleft])]
      exact hdisarmed
  | tripped input haction hrunning hsafe hstale hdisarmed =>
      subst haction
      have hoverdue := (hrecords.stale_iff haxis hmotion hrunning hsafe).mp hstale
      rw [hoverdue, if_pos (by simp)]
      exact hdisarmed
  | commanded source nowNs hmode hcommand hrecorded =>
      have hother : action ≠ .clearCommFault := by
        rintro rfl
        rw [watchdogCommand_eq_none (Or.inl rfl)] at hcommand
        exact absurd hcommand (by simp)
      have hintime : overdue channel index (machine.visit backend action)
          (watchedCommand channel index earlier) = false := by
        rw [← Bool.not_eq_true]
        intro hoverdue
        rw [watchdogCommand_eq_none (Or.inr (exists_of_overdue hoverdue).1)] at hcommand
        exact absurd hcommand (by simp)
      rw [hmode, hintime, hclears hother, if_neg (by simp), hcommand]
      exact hrecorded
  | cleared haction hdisarmed =>
      subst haction
      rw [if_pos (by simp [isClearCommFault])]
      exact hdisarmed

/-! ### The invariant over one action -/

variable {config : BackendConfig} {action : BackendAction}

/-- Only an initialisation gives a servo its axes, or changes its watchdog. -/
theorem getElem?_next_of_none (hformed : backend.Formed)
    (hnone : (next backend action).servo.axes[index]? = none) :
    backend.servo.axes[index]? = none := by
  by_cases hother : ∃ bus config motors, action = .initializeServo bus config motors
  · obtain ⟨bus, config, motors, rfl⟩ := hother
    cases hinitialized : backend.servo.initialized with
    | false => rw [hformed.axes_eq_nil hinitialized, List.getElem?_nil]
    | true =>
        change (backend.servo.initializeServo _ _ _ _ motors).1.axes[index]? = none at hnone
        rw [Servo.initializeServo_of_initialized _ _ _ _ _ hinitialized] at hnone
        exact hnone
  · rw [getElem?_next hformed index fun bus config motors h => hother ⟨bus, config, motors, h⟩]
      at hnone
    exact Option.map_eq_none_iff.mp hnone

theorem watchdog_next (hformed : backend.Formed) (action : BackendAction)
    (hinitialized : backend.servo.initialized = true) :
    (next backend action).servo.externalCmdWatchdogNs = backend.servo.externalCmdWatchdogNs ∧
      (next backend action).servo.csvCmdWatchdog = backend.servo.csvCmdWatchdog := by
  have hsame : configuration (next backend action).servo = configuration backend.servo :=
    configuration_next hformed fun _ _ _ _ => hinitialized
  have htimeout := congrArg Servo.externalCmdWatchdogNs hsame
  have hcsv := congrArg Servo.csvCmdWatchdog hsame
  exact ⟨htimeout, hcsv⟩

theorem bounded_next (hformed : backend.Formed) (action : BackendAction)
    (hbounded : backend.servo.externalCmdWatchdogNs < 2 ^ 63) :
    (next backend action).servo.externalCmdWatchdogNs < 2 ^ 63 := by
  by_cases hother : ∃ bus config motors, action = .initializeServo bus config motors
  · obtain ⟨bus, config, motors, rfl⟩ := hother
    have hmilliseconds := config.cmdWatchdogMs.toNat_lt
    change (backend.servo.initializeServo bus config.busCycleUs config.cmdWatchdogMs
      config.csvCmdWatchdog motors).1.externalCmdWatchdogNs < 2 ^ 63
    have hconfigured : config.cmdWatchdogMs.toNat * 1000000 < 2 ^ 63 := by omega
    rcases backend.servo.initializeServo_cases bus config.busCycleUs config.cmdWatchdogMs
      config.csvCmdWatchdog motors with hrefused | ⟨-, hfailed | ⟨axes, -, hdone⟩⟩
    · rw [hrefused]
      exact hbounded
    · rw [hfailed]
      exact hconfigured
    · rw [hdone]
      exact hconfigured
  · have hsame : configuration (next backend action).servo = configuration backend.servo :=
      configuration_next hformed fun bus config motors h => absurd ⟨bus, config, motors, h⟩ hother
    have htimeout := congrArg Servo.externalCmdWatchdogNs hsame
    exact htimeout.trans_lt hbounded

theorem WatchRun.absent_next (hrun : WatchRun config)
    (hnone : (next config.state action).servo.axes[index]? = none) (channel : WatchdogChannel) :
    watchedCommand channel index (machine.advance config action).history = none := by
  have hbefore := getElem?_next_of_none hrun.sound.formed hnone
  rw [Machine.advance_history]
  exact watchedCommand_eq_none hbefore (hrun.absent index hbefore channel)

theorem WatchRun.recorded_next (hrun : WatchRun config) (hclock : action.ReadsClock)
    (hpos : 0 < (next config.state action).servo.externalCmdWatchdogNs)
    (channel : WatchdogChannel) (index : Nat) :
    RecordsCommand channel index
      (watchedCommand channel index (machine.advance config action).history)
      (next config.state action) := by
  have hformed := hrun.sound.formed
  intro hwatched
  rw [Machine.advance_history]
  cases hbefore : config.state.servo.axes[index]? with
  | none =>
      have hnone : watchedCommand channel index
          (machine.visit config.state action :: config.history) = none :=
        watchedCommand_eq_none hbefore (hrun.absent index hbefore channel)
      rw [hnone]
      have habsent : config.state.servo.MotionAt index fun _ => True := fun _ _ _ => trivial
      refine motionAt_next hformed habsent (fun _ _ motor offsets _ => ?_) fun axis haxis _ _ => ?_
      · cases channel <;> rfl
      · exact absurd (hbefore.symm.trans haxis) (by simp)
  | some before =>
      have hinitialized : config.state.servo.initialized = true := by
        rw [← Bool.not_eq_false]
        intro hfresh
        rw [hformed.axes_eq_nil hfresh] at hbefore
        exact absurd hbefore (by simp)
      obtain ⟨htimeout, hcsv⟩ := watchdog_next hformed action hinitialized
      rw [htimeout] at hpos
      have hwatched : channel.isWatched config.state.servo = true := by
        cases channel with
        | torque => rfl
        | velocity => exact hcsv.symm.trans hwatched
      have hrecords := hrun.recorded hpos channel index
      rw [htimeout]
      have hfits : ∀ nowNs ∈ action.clockReading,
          nowNs + config.state.servo.externalCmdWatchdogNs < UInt64.size := by
        intro nowNs hreading
        have hnow := hclock nowNs hreading
        have hbounded := hrun.bounded
        rw [UInt64.size]
        omega
      have hsteps : (next config.state action).servo.MotionAt index fun after =>
          ∃ axis, config.state.servo.axes[index]? = some axis ∧ axis.isMotion = true ∧
            WatchStep channel config.state index action axis after := by
        have hpresent : config.state.servo.MotionAt index fun _ => True := fun _ _ _ => trivial
        refine motionAt_next_of_initialized hformed hinitialized hpresent
          fun axis haxis hmotion _ => ⟨axis, haxis, hmotion, ?_⟩
        exact watchStep_axisNext hformed haxis hmotion hwatched hpos hfits
      intro after hafter hmotionAfter
      obtain ⟨axis, haxis, hmotion, hstep⟩ := hsteps after hafter hmotionAfter
      exact hstep.records haxis hmotion hafter hmotionAfter hwatched hrecords

/-- The freshness check latches the fault where a channel of a motion axis is stale. -/
theorem freshnessLatches_iff (hformed : backend.Formed) {input : JobInput}
    (hrunning : backend.runtime.jobRunning = true)
    (hsafe : backend.runtime.safeOutputRequired = false)
    (hfault : backend.runtime.commFault = false)
    (hpos : 0 < backend.servo.externalCmdWatchdogNs) :
    backend.freshnessLatches input = true ↔
      ∃ (index : Nat) (axis : Axis) (channel : WatchdogChannel),
        backend.servo.axes[index]? = some axis ∧ axis.isMotion = true ∧
          channel.isStale backend.servo input.freshnessNowNs axis = true := by
  have hready : backend.servo.ready = true := hformed.ready_eq.trans hrunning
  rw [Servo.ready, Bool.and_eq_true] at hready
  have hconsumed : backend.runtime.consumePendingDwellFault.commFault = false ∧
      backend.runtime.consumePendingDwellFault.safeOutputRequired = false := by
    unfold IghMasterRuntime.consumePendingDwellFault
    split <;> exact ⟨hfault, hsafe⟩
  have hchecked : (backend.servo.checkExternalCommandFreshness false input.freshnessNowNs).2 =
      backend.servo.axes.any fun axis => axis.isMotion &&
        (axis.isTorqueStale input.freshnessNowNs ||
          axis.isVelocityStale backend.servo.csvCmdWatchdog input.freshnessNowNs) := by
    unfold Servo.checkExternalCommandFreshness
    rw [if_neg (by simp [hready.1, Nat.ne_of_gt hpos])]
  have hlatches : backend.freshnessLatches input =
      (backend.servo.checkExternalCommandFreshness false input.freshnessNowNs).2 := by
    change (!backend.runtime.consumePendingDwellFault.commFault &&
      (IghMasterRuntime.latchIf (backend.servo.checkExternalCommandFreshness
        backend.runtime.consumePendingDwellFault.safeOutputRequired input.freshnessNowNs).2
        backend.runtime.consumePendingDwellFault).commFault) = _
    rw [hconsumed.2]
    generalize (backend.servo.checkExternalCommandFreshness false input.freshnessNowNs).2 = trip
    cases trip with
    | false => simp [IghMasterRuntime.latchIf, hconsumed.1]
    | true => simp [IghMasterRuntime.latchIf, IghMasterRuntime.latchCommFault, hconsumed.1]
  rw [hlatches, hchecked, List.any_eq_true]
  constructor
  · rintro ⟨axis, hmem, hstale⟩
    obtain ⟨index, hin, rfl⟩ := List.mem_iff_getElem.mp hmem
    rw [Bool.and_eq_true, Bool.or_eq_true, Axis.isTorqueStale_eq backend.servo] at hstale
    obtain ⟨hmotion, htorque | hvelocity⟩ := hstale
    · exact ⟨index, _, .torque, List.getElem?_eq_getElem hin, hmotion, htorque⟩
    · exact ⟨index, _, .velocity, List.getElem?_eq_getElem hin, hmotion, hvelocity⟩
  · rintro ⟨index, axis, channel, haxis, hmotion, hstale⟩
    refine ⟨axis, List.mem_of_getElem? haxis, ?_⟩
    rw [hmotion, Bool.true_and, Bool.or_eq_true, Axis.isTorqueStale_eq backend.servo]
    cases channel with
    | torque => exact Or.inl hstale
    | velocity => exact Or.inr hstale

theorem cycleIsSafe_of_freshnessLatches {input : JobInput}
    (hfault : backend.runtime.latches.FaultSafe)
    (hlatches : backend.freshnessLatches input = true) : backend.cycleIsSafe input = true := by
  have hconsumed : backend.runtime.consumePendingDwellFault.latches.FaultSafe := by
    rw [IghMasterRuntime.latches_consumePendingDwellFault]
    exact hfault.consume
  have hchecked : (backend.beforeOutputs input).runtime.latches.FaultSafe :=
    hconsumed.monitored (IghMasterRuntime.monitored_latchIf _ _)
  rw [freshnessLatches, Bool.and_eq_true] at hlatches
  exact hchecked hlatches.2

theorem WatchRun.exact_next (hrun : WatchRun config) :
    ExactWatchdog (machine.advance config action) := by
  intro visit earlier input hhistory haction hrunning hsafe hpos
  obtain ⟨rfl, rfl⟩ := List.cons.inj hhistory
  have haction : action = .job input := haction
  subst haction
  have hrunning : config.state.runtime.jobRunning = true := hrunning
  have hsafe : config.state.runtime.safeOutputRequired = false := hsafe
  have hpos : 0 < config.state.servo.externalCmdWatchdogNs := hpos
  have hfault : config.state.runtime.commFault = false := by
    rw [← Bool.not_eq_true]
    intro hlatched
    exact absurd ((hrun.faultSafe hlatched).symm.trans hsafe) (by simp)
  constructor
  · refine (freshnessLatches_iff hrun.sound.formed hrunning hsafe hfault hpos).trans ?_
    constructor
    · rintro ⟨index, axis, channel, haxis, hmotion, hstale⟩
      have hrecords := hrun.recorded hpos channel index
      exact ⟨index, channel, (hrecords.stale_iff haxis hmotion hrunning hsafe).mp hstale⟩
    · rintro ⟨index, channel, hoverdue⟩
      obtain ⟨-, -, -, axis, haxis, hmotion⟩ := exists_of_overdue hoverdue
      have hrecords := hrun.recorded hpos channel index
      exact ⟨index, axis, channel, haxis, hmotion,
        (hrecords.stale_iff haxis hmotion hrunning hsafe).mpr hoverdue⟩
  · intro hlatches
    have hcycle := cycleIsSafe_of_freshnessLatches hrun.faultSafe hlatches
    refine ⟨?_, fun index after hafter hmotion => ?_⟩
    · rw [isSafeCycle_job, hrunning, hcycle]
      rfl
    · obtain ⟨axis, haxis, hdrive, rfl⟩ :=
        exists_of_getElem?_jobCycle hrun.sound.formed hrunning hafter hmotion
      obtain ⟨hvelocity, htorque, -, -⟩ :=
        output_jobAxis (hrun.sound.axes index axis haxis hdrive) config.state index hcycle
      exact ⟨htorque, hvelocity⟩

theorem WatchRun.advance (hrun : WatchRun config) (hclock : action.ReadsClock) :
    WatchRun (machine.advance config action) where
  sound := hrun.sound.next action
  faultSafe := faultSafe_next hrun.sound.formed hrun.faultSafe action
  bounded := bounded_next hrun.sound.formed action hrun.bounded
  absent := fun _ hnone channel => hrun.absent_next hnone channel
  recorded := fun hpos channel index => hrun.recorded_next hclock hpos channel index
  exact := hrun.exact_next

theorem watchRun_start : WatchRun (Config.start {}) where
  sound := sound_default
  faultSafe := fun h => absurd h (by simp [IghMasterRuntime.latches])
  bounded := by decide
  absent := fun _ _ _ => rfl
  recorded := fun _ _ _ _ axis haxis => absurd haxis (by simp)
  exact := fun _ _ _ hhistory => absurd hhistory (by simp)

/-- In every run the freshness check trips exactly where a command is overdue. -/
theorem exactWatchdog_exec (actions : List BackendAction)
    (hclock : ∀ action ∈ actions, action.ReadsClock) :
    ExactWatchdog (machine.exec (Config.start {}) actions) := by
  have hmeets : machine.Meets (fun _ action => action.ReadsClock) (Config.start {}) actions :=
    machine.meets_of_forall_mem hclock
  have hrun := machine.exec_invariant_of_meets
    (fun config action hrun hreads => WatchRun.advance hrun hreads) watchRun_start hmeets
  exact hrun.exact

/-- An external torque that is not repeated, found out by a Job cycle a second later. -/
theorem exactWatchdog_after_torque :
    ExactWatchdog (machine.exec (Config.start {})
      (dwelledStart ++ [.releaseSafeOutput, .call (.setOperationMode 0 .cyclicSyncTorque),
        .call (.setTargetTorque 0 100 .external 0), healthyJob 1000000000])) :=
  exactWatchdog_exec _ (by decide)

end Backend

end IghMaster
