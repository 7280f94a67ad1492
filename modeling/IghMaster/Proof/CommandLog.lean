import IghMaster.EventLog
import IghMaster.Proof.HeldPositions
import IghMaster.Proof.NoReenable
import IghMaster.Proof.TorqueRuns

/-!
# What the queued commands tell

A command is queued whenever it changes something, and nothing else changes the mode of a motor. Whether it
is to be enabled is changed by the commands and by the cycles with safe outputs.
-/

namespace IghMaster

open Transition

/-! ### The details of the two commands -/

theorem detail_of_ne {first second : String} (index : Fin 256)
    (hne : detailOf first index ≠ detailOf second index) : detailOf first ≠ detailOf second :=
  fun hsame => hne (congrFun hsame index)

theorem setEnableDetail_ne : detailOf (Servo.setEnableDetail true) ≠ detailOf (Servo.setEnableDetail false) :=
  detail_of_ne 18 (by decide +kernel)

theorem setOperationModeDetail_ne (enable : Bool) (mode : OperationMode) :
    detailOf (Servo.setOperationModeDetail mode) ≠ detailOf (Servo.setEnableDetail enable) := by
  apply detail_of_ne 4
  unfold Servo.setOperationModeDetail Servo.operationModeToString
  cases enable <;> split_ifs <;> decide +kernel

namespace Servo

variable (motorId : UInt8) (nowNs : UInt64) (servo : Servo)

theorem enables_setEnable (enable : Bool) :
    (servo.commandEvent motorId nowNs 0 (setEnableDetail enable)).enables = some enable := by
  have hdetail : (servo.commandEvent motorId nowNs 0 (setEnableDetail enable)).detail =
      detailOf (setEnableDetail enable) := rfl
  rw [RuntimeLogEvent.enables, hdetail]
  cases enable with
  | true => rw [if_pos rfl]
  | false => rw [if_neg setEnableDetail_ne.symm, if_pos rfl]

theorem setsMode_setEnable (enable : Bool) :
    (servo.commandEvent motorId nowNs 0 (setEnableDetail enable)).setsMode = none := by
  have hdetail : (servo.commandEvent motorId nowNs 0 (setEnableDetail enable)).detail =
      detailOf (setEnableDetail enable) := rfl
  rw [RuntimeLogEvent.setsMode, hdetail, if_neg (setOperationModeDetail_ne enable _).symm]

theorem enables_setOperationMode (mode : OperationMode) :
    (servo.commandEvent motorId nowNs mode.value (setOperationModeDetail mode)).enables = none := by
  have hdetail : (servo.commandEvent motorId nowNs mode.value (setOperationModeDetail mode)).detail =
      detailOf (setOperationModeDetail mode) := rfl
  rw [RuntimeLogEvent.enables, hdetail, if_neg (setOperationModeDetail_ne true mode),
    if_neg (setOperationModeDetail_ne false mode)]

theorem setsMode_setOperationMode (mode : OperationMode) :
    (servo.commandEvent motorId nowNs mode.value (setOperationModeDetail mode)).setsMode = some mode := by
  have hmode : (servo.commandEvent motorId nowNs mode.value
      (setOperationModeDetail mode)).operationMode = mode.value := rfl
  have hdetail : (servo.commandEvent motorId nowNs mode.value (setOperationModeDetail mode)).detail =
      detailOf (setOperationModeDetail mode) := rfl
  rw [RuntimeLogEvent.setsMode, hdetail, hmode, if_pos rfl]

end Servo

/-! ### What one action asks -/

namespace Servo

variable {servo : Servo} {index : Nat} {axis : Axis} {motorId : UInt8}

theorem mode_of_inMode {mode : OperationMode} (hin : servo.inMode motorId mode = true)
    (hcovers : covers motorId index = true) (haxis : servo.axes[index]? = some axis)
    (hmotion : axis.isMotion = true) : axis.mode = mode := by
  unfold inMode at hin
  split at hin
  · have haxisIn := List.all_eq_true.mp hin axis (List.mem_of_getElem? haxis)
    simpa [hmotion] using haxisIn
  · rename_i hone
    rcases covers_iff.mp hcovers with hall | hindex
    · exact absurd (beq_iff_eq.mpr hall) hone
    · rw [hindex, haxis] at hin
      exact of_decide_eq_true hin

theorem accepted_of_covers (mode : OperationMode) (hcovers : covers motorId index = true)
    (haxis : servo.axes[index]? = some axis) : (servo.setOperationMode motorId mode).2 = true := by
  have hwithin : (motorId == 0xFF || motorId.toNat < servo.motorCount) = true := by
    rcases covers_iff.mp hcovers with hall | hindex
    · rw [hall]
      rfl
    · rw [hindex, Bool.or_eq_true, decide_eq_true_eq]
      exact Or.inr (List.getElem?_eq_some_iff.mp haxis).1
  unfold setOperationMode
  by_cases hin : servo.inMode motorId mode = true
  · rw [if_pos hin]
  · rw [if_neg hin, if_pos hwithin]

/-- An accepted call that changes something starts the sequences of the motors it covers. -/
theorem startsEnable_of_changes {flags : RuntimeFlags} {enable : Bool}
    (haccepted : (servo.setEnable flags motorId enable).2 = true)
    (hchanges : servo.enableChanges motorId enable = true) (hcovers : covers motorId index = true) :
    servo.startsEnable flags motorId enable index = true := by
  have hactivated := activated_of_setEnable haccepted
  unfold setEnable at haccepted
  rw [hactivated] at haccepted
  simp only [Bool.not_true, Bool.false_eq_true, if_false] at haccepted
  split at haccepted
  · exact absurd haccepted Bool.false_ne_true
  rename_i hgates
  split at haccepted
  · exact absurd haccepted Bool.false_ne_true
  rename_i hevidence
  rw [Bool.not_eq_true] at hgates hevidence
  unfold startsEnable
  rw [hactivated, hgates, hevidence]
  simp only [Bool.not_false, Bool.true_and]
  unfold enableChanges at hchanges
  split at hchanges
  · rename_i hall
    rw [if_pos hall]
    exact hchanges
  · rename_i hone
    rw [if_neg hone]
    rcases covers_iff.mp hcovers with hall | hindex
    · exact absurd (beq_iff_eq.mpr hall) hone
    · subst hindex
      split at hchanges
      · rename_i axis haxis
        rw [Bool.and_eq_true] at hchanges
        rw [haxis, beq_self_eq_true, Bool.true_and, Option.any_some]
        exact hchanges.2
      · exact absurd hchanges Bool.false_ne_true

theorem changes_of_startsEnable {flags : RuntimeFlags} {enable : Bool}
    (hstarts : servo.startsEnable flags motorId enable index = true)
    (haxis : servo.axes[index]? = some axis) (hmotion : axis.isMotion = true) :
    servo.enableChanges motorId enable = true ∧ covers motorId index = true := by
  unfold startsEnable at hstarts
  rw [Bool.and_eq_true] at hstarts
  obtain ⟨-, haddressed⟩ := hstarts
  unfold enableChanges
  by_cases hall : (motorId == 0xFF) = true
  · rw [if_pos hall] at haddressed ⊢
    exact ⟨haddressed, covers_iff.mpr (Or.inl (beq_iff_eq.mp hall))⟩
  · rw [if_neg hall] at haddressed ⊢
    rw [Bool.and_eq_true, beq_iff_eq, haxis, Option.any_some] at haddressed
    obtain ⟨hindex, hchanges⟩ := haddressed
    rw [hindex, haxis]
    dsimp only
    rw [hmotion, Bool.true_and]
    exact ⟨hchanges, covers_iff.mpr (Or.inr hindex)⟩

/-- A servo without axes has no command queued. -/
theorem loggedCommand_of_nil (hnil : servo.axes = []) (flags : RuntimeFlags) (nowNs : UInt64)
    (call : ServoCall) : servo.loggedCommand flags nowNs call = none := by
  cases call with
  | setEnable motorId enable =>
      have hchanges : servo.enableChanges motorId enable = false := by
        simp [enableChanges, hnil]
      rw [loggedCommand, hchanges, Bool.and_false, if_neg Bool.false_ne_true]
  | setOperationMode motorId mode =>
      rw [loggedCommand, if_neg]
      rw [Bool.and_eq_true, Bool.not_eq_true']
      rintro ⟨haccepted, hin⟩
      unfold setOperationMode at haccepted
      rw [hin, if_neg Bool.false_ne_true] at haccepted
      by_cases hall : (motorId == 0xFF) = true
      · simp [inMode, hall, hnil] at hin
      · simp [hall, motorCount, hnil] at haccepted
  | _ => rfl

end Servo

namespace Backend.DriveStep

variable {backend : Backend} {index : Nat} {action : BackendAction} {axis after : Axis}

theorem mode_eq (hstep : DriveStep backend index action axis after)
    (hother : ∀ motorId mode, action ≠ .call (.setOperationMode motorId mode)) :
    after.mode = axis.mode := by
  cases hstep with
  | kept after hsame hidle => exact hsame.mode_eq
  | enabled motorId enable haction hstarts => rfl
  | modeChanged motorId mode haction hcovers => exact absurd haction (hother motorId mode)
  | activated input positioned haction hinactive hsame => exact hsame.mode_eq
  | safe input received haction hrunning hsafe hreceived =>
      rw [hreceived]
      exact (sameDrive_inputAxis backend index input axis).mode_eq
  | sent input received haction hrunning hsafe hreceived =>
      rw [hreceived]
      exact (sameDrive_inputAxis backend index input axis).mode_eq

theorem desiredEnable_eq (hstep : DriveStep backend index action axis after) (hplain : axis.fsm.Plain)
    (hother : ∀ motorId enable, action ≠ .call (.setEnable motorId enable)) :
    after.fsm.desiredEnable =
      (!isSafeCycle (machine.visit backend action) && axis.fsm.desiredEnable) := by
  cases hstep with
  | kept after hsame hidle =>
      have hsafe : isSafeCycle (machine.visit backend action) = false := by
        cases action with
        | job input => rw [isSafeCycle_job, hidle input rfl, Bool.false_and]
        | _ => rfl
      rw [hsafe, Bool.not_false, Bool.true_and, hsame.fsm_eq]
  | enabled motorId enable haction hstarts => exact absurd haction (hother motorId enable)
  | modeChanged motorId mode haction hcovers =>
      subst haction
      exact Axis.desiredEnable_applyMode mode axis
  | activated input positioned haction hinactive hsame =>
      subst haction
      change positioned.fsm.desiredEnable = axis.fsm.desiredEnable
      rw [hsame.fsm_eq]
  | safe input received haction hrunning hsafe hreceived =>
      subst haction
      rw [isSafeCycle_job, hrunning, hsafe]
      rfl
  | sent input received haction hrunning hsafe hreceived =>
      subst haction
      rw [isSafeCycle_job, hrunning, hsafe, Bool.and_false, Bool.not_false, Bool.true_and, hreceived]
      have hfsm := (sameDrive_inputAxis backend index input axis).fsm_eq
      have hreceivedPlain : (backend.inputAxis index input axis).fsm.Plain := by
        rw [hfsm]
        exact hplain
      change (EnableFsm.sendDataCommon _ _).1.desiredEnable = axis.fsm.desiredEnable
      rw [EnableFsm.sendDataCommon_of_plain _ hreceivedPlain rfl]
      change (EnableFsm.stepFsm _ _).desiredEnable = axis.fsm.desiredEnable
      rw [EnableFsm.desiredEnable_stepFsm hreceivedPlain, hfsm]

end Backend.DriveStep

namespace LoggedBackend

variable {state : LoggedBackend} {index : Nat} {axis : Axis}

theorem logCommand_call (state : LoggedBackend) (call : ServoCall) (clock : Nat → LogClock)
    (commandNs : UInt64) :
    state.logCommand { action := .call call, clock := clock, commandNs := commandNs } =
      state.backend.servo.loggedCommand state.backend.flags commandNs call := rfl

theorem wants_visit (index : Nat) (state : LoggedBackend) (action : LoggedAction) :
    LoggedVisit.wants index (machine.visit state action) =
      if Backend.isSafeCycle (Backend.machine.visit state.backend action.action) then some false
      else (state.logCommand action).bind (asksOf index RuntimeLogEvent.enables) := rfl

/-- An event of a command asks as many axes as its call covers. -/
theorem asksOf_commandEvent {α : Type} (asks : RuntimeLogEvent → Option α) (motorId : UInt8)
    (nowNs : UInt64) (operationMode : Int8) (detail : String) (servo : Servo) (index : Nat) :
    asksOf index asks (servo.commandEvent motorId nowNs operationMode detail) =
      if Servo.covers motorId index then
        asks (servo.commandEvent motorId nowNs operationMode detail)
      else none := rfl

/-- Only `setOperationMode` asks for a mode. -/
theorem setsMode_logCommand {action : LoggedAction}
    (hother : ∀ motorId mode, action.action ≠ .call (.setOperationMode motorId mode)) :
    (state.logCommand action).bind (asksOf index RuntimeLogEvent.setsMode) = none := by
  obtain ⟨action, clock, commandNs⟩ := action
  cases action with
  | call call =>
      rw [logCommand_call]
      cases call with
      | setEnable motorId enable =>
          rw [Servo.loggedCommand]
          split_ifs
          · rw [Option.bind_some, asksOf_commandEvent, Servo.setsMode_setEnable, ite_self]
          · rfl
      | setOperationMode motorId mode => exact absurd rfl (hother motorId mode)
      | _ => rfl
  | _ => rfl

/-- Only `setEnable` asks for an axis to be enabled or not. -/
theorem enables_logCommand {action : LoggedAction}
    (hother : ∀ motorId enable, action.action ≠ .call (.setEnable motorId enable)) :
    (state.logCommand action).bind (asksOf index RuntimeLogEvent.enables) = none := by
  obtain ⟨action, clock, commandNs⟩ := action
  cases action with
  | call call =>
      rw [logCommand_call]
      cases call with
      | setEnable motorId enable => exact absurd rfl (hother motorId enable)
      | setOperationMode motorId mode =>
          rw [Servo.loggedCommand]
          split_ifs
          · rw [Option.bind_some, asksOf_commandEvent, Servo.enables_setOperationMode, ite_self]
          · rfl
      | _ => rfl
  | _ => rfl

/-- The mode of a motor after an action is the one that the queued command asks for. -/
theorem mode_axisNext (action : LoggedAction) (haxis : state.backend.servo.axes[index]? = some axis)
    (hmotion : axis.isMotion = true) :
    (state.backend.axisNext index action.action axis).mode =
      ((state.logCommand action).bind (asksOf index RuntimeLogEvent.setsMode)).getD axis.mode := by
  by_cases hother : ∀ motorId mode, action.action ≠ .call (.setOperationMode motorId mode)
  · rw [setsMode_logCommand hother, Option.getD_none]
    exact (Backend.driveStep_axisNext state.backend index action.action hmotion).mode_eq hother
  · push Not at hother
    obtain ⟨motorId, mode, hcall⟩ := hother
    obtain ⟨action, clock, commandNs⟩ := action
    change action = _ at hcall
    subst hcall
    rw [logCommand_call, Servo.loggedCommand]
    change (if Servo.covers motorId index then axis.applyMode mode else axis).mode = _
    by_cases hcovers : Servo.covers motorId index = true
    · rw [if_pos hcovers, Axis.mode_applyMode hmotion, Servo.accepted_of_covers mode hcovers haxis,
        Bool.true_and]
      by_cases hin : state.backend.servo.inMode motorId mode = true
      · -- nothing is queued, but the motor is in the mode
        rw [hin, Bool.not_true, if_neg Bool.false_ne_true]
        exact (Servo.mode_of_inMode hin hcovers haxis hmotion).symm
      · rw [Bool.not_eq_true] at hin
        rw [hin, Bool.not_false, if_pos rfl, Option.bind_some, asksOf_commandEvent, if_pos hcovers,
          Servo.setsMode_setOperationMode, Option.getD_some]
    · rw [if_neg hcovers]
      split_ifs
      · rw [Option.bind_some, asksOf_commandEvent, if_neg hcovers, Option.getD_none]
      · rfl

/-- Whether a motor is to be enabled after an action is what the action wants. -/
theorem desiredEnable_axisNext (action : LoggedAction)
    (haxis : state.backend.servo.axes[index]? = some axis) (hmotion : axis.isMotion = true)
    (hplain : axis.fsm.Plain) :
    (state.backend.axisNext index action.action axis).fsm.desiredEnable =
      (LoggedVisit.wants index (machine.visit state action)).getD axis.fsm.desiredEnable := by
  rw [wants_visit]
  by_cases hother : ∀ motorId enable, action.action ≠ .call (.setEnable motorId enable)
  · rw [enables_logCommand hother,
      (Backend.driveStep_axisNext state.backend index action.action hmotion).desiredEnable_eq hplain
        hother]
    cases Backend.isSafeCycle (Backend.machine.visit state.backend action.action) with
    | true => rfl
    | false => rfl
  · push Not at hother
    obtain ⟨motorId, enable, hcall⟩ := hother
    obtain ⟨action, clock, commandNs⟩ := action
    change action = _ at hcall
    subst hcall
    have hsafe : Backend.isSafeCycle
        (Backend.machine.visit state.backend (.call (.setEnable motorId enable))) = false := rfl
    rw [hsafe, if_neg Bool.false_ne_true, logCommand_call, Servo.loggedCommand]
    change (if state.backend.servo.startsEnable state.backend.flags motorId enable index &&
      axis.isMotion then axis.startEnable enable else axis).fsm.desiredEnable = _
    rw [hmotion, Bool.and_true]
    by_cases hstarts :
        state.backend.servo.startsEnable state.backend.flags motorId enable index = true
    · obtain ⟨hchanges, hcovers⟩ := Servo.changes_of_startsEnable hstarts haxis hmotion
      rw [if_pos hstarts, Backend.accepted_of_startsEnable hstarts, hchanges, Bool.and_self, if_pos rfl,
        Option.bind_some, asksOf_commandEvent, if_pos hcovers, Servo.enables_setEnable]
      rfl
    · rw [if_neg hstarts]
      split_ifs with hqueued
      · obtain ⟨haccepted, hchanges⟩ := Bool.and_eq_true_iff.mp hqueued
        have hcovers : ¬ Servo.covers motorId index = true :=
          fun hcovers => hstarts (Servo.startsEnable_of_changes haccepted hchanges hcovers)
        rw [Option.bind_some, asksOf_commandEvent, if_neg hcovers, Option.getD_none]
      · rfl

end LoggedBackend

/-! ### What was asked last -/

/-- A field of the motor at the index is what was asked last, if anything was. -/
structure LastAsked {α : Type} (index : Nat) (field : Axis → α) (asked : LoggedVisit → Option α)
    (first : α) (config : LoggedConfig) : Prop where
  holds : config.state.backend.servo.MotionAt index fun axis =>
    field axis = (flow asked config.history).getLastD first
  fresh : config.state.backend.servo.initialized = false → flow asked config.history = []

theorem LastAsked.advance {α : Type} {index : Nat} {field : Axis → α} {asked : LoggedVisit → Option α}
    {first : α} {config : LoggedConfig} (hlast : LastAsked index field asked first config)
    (hformed : config.state.backend.Formed) {action : LoggedAction}
    (hnew : ∀ motor offsets, field { config := motor, offsets := offsets,
                                     faultResetCw := motor.faultResetControlWord } = first)
    (hunasked : config.state.backend.servo.initialized = false →
      asked (LoggedBackend.machine.visit config.state action) = none)
    (hstep : ∀ axis, config.state.backend.servo.axes[index]? = some axis → axis.isMotion = true →
      field (config.state.backend.axisNext index action.action axis) =
        (asked (LoggedBackend.machine.visit config.state action)).getD (field axis)) :
    LastAsked index field asked first (LoggedBackend.machine.advance config action) := by
  constructor
  · rw [Machine.advance_history, getLastD_flow_cons]
    by_cases hinitialized : config.state.backend.servo.initialized = true
    · refine Backend.motionAt_next_of_initialized hformed hinitialized hlast.holds
        fun axis haxis hmotion hfield => ?_
      rw [hstep axis haxis hmotion, hfield]
    · -- nothing was asked of the motors that are new
      rw [Bool.not_eq_true] at hinitialized
      have hnone : config.state.backend.servo.axes[index]? = none := by
        rw [hformed.axes_eq_nil hinitialized]
        rfl
      rw [hunasked hinitialized, hlast.fresh hinitialized]
      refine Backend.motionAt_next hformed hlast.holds (fun _ _ motor offsets _ => hnew motor offsets)
        fun axis haxis _ _ => ?_
      rw [hnone] at haxis
      cases haxis
  · intro hfresh
    have hinitialized : config.state.backend.servo.initialized = false := by
      rw [← Bool.not_eq_true]
      intro hbefore
      have hafter := Backend.initialized_next hformed action.action hbefore
      exact absurd (hafter.symm.trans hfresh) (by decide)
    rw [Machine.advance_history, flow_cons, hunasked hinitialized, hlast.fresh hinitialized]
    rfl

namespace LoggedBackend

/-- Before the servo is initialized no command is queued. -/
theorem logCommand_of_fresh {state : LoggedBackend} (hformed : state.backend.Formed)
    (hfresh : state.backend.servo.initialized = false) (action : LoggedAction) :
    state.logCommand action = none := by
  obtain ⟨action, clock, commandNs⟩ := action
  cases action with
  | call call => exact Servo.loggedCommand_of_nil (hformed.axes_eq_nil hfresh) _ _ call
  | _ => rfl

theorem wants_of_fresh {state : LoggedBackend} (hformed : state.backend.Formed)
    (hfresh : state.backend.servo.initialized = false) (index : Nat) (action : LoggedAction) :
    LoggedVisit.wants index (machine.visit state action) = none := by
  have hsafe : Backend.isSafeCycle (Backend.machine.visit state.backend action.action) = false := by
    obtain ⟨action, clock, commandNs⟩ := action
    cases action with
    | job input =>
        have hidle : state.backend.runtime.jobRunning = false := by
          rw [← hformed.ready_eq, Servo.ready, hfresh, Bool.false_and]
        rw [Backend.isSafeCycle_job, hidle, Bool.false_and]
    | _ => rfl
  rw [wants_visit, hsafe, if_neg Bool.false_ne_true, logCommand_of_fresh hformed hfresh, Option.bind_none]

/-- The mode that the queued command of a visit asks of the axis at the index. -/
def modeAsked (index : Nat) (visit : LoggedVisit) : Option OperationMode :=
  visit.queues.bind (asksOf index RuntimeLogEvent.setsMode)

structure Commanded (index : Nat) (config : LoggedConfig) : Prop where
  sound : config.state.backend.Sound
  queued : config.state.queued = flow LoggedVisit.queues config.history
  modes : LastAsked index Axis.mode (modeAsked index) .cyclicSyncPosition config
  enables : LastAsked index (fun axis => axis.fsm.desiredEnable) (LoggedVisit.wants index) false config

theorem commanded_start (index : Nat) : Commanded index (Config.start {}) where
  sound := Backend.sound_default
  queued := rfl
  modes := ⟨fun _ haxis => absurd haxis (by simp), fun _ => rfl⟩
  enables := ⟨fun _ haxis => absurd haxis (by simp), fun _ => rfl⟩

theorem Commanded.advance {index : Nat} {config : LoggedConfig} (hcommanded : Commanded index config)
    (action : LoggedAction) : Commanded index (machine.advance config action) := by
  have hformed := hcommanded.sound.formed
  refine ⟨hcommanded.sound.next action.action, ?_, ?_, ?_⟩
  · rw [Machine.advance_history, flow_cons, ← hcommanded.queued]
    rfl
  · refine hcommanded.modes.advance hformed (fun _ _ => rfl) (fun hfresh => ?_)
      fun axis haxis hmotion => mode_axisNext action haxis hmotion
    change (config.state.logCommand action).bind _ = none
    rw [logCommand_of_fresh hformed hfresh, Option.bind_none]
  · refine hcommanded.enables.advance hformed (fun _ _ => rfl)
      (fun hfresh => wants_of_fresh hformed hfresh index action)
      fun axis haxis hmotion => desiredEnable_axisNext action haxis hmotion ?_
    exact (hcommanded.sound.axes index axis haxis hmotion).plain

/-- **The queue tells what was asked**: at the end of every run the mode of each motor is that of its last
command in the queue, and so is whether it is to be enabled, but for the cycles with safe outputs. -/
theorem commandsTell_exec (actions : List LoggedAction) (index : Nat) :
    CommandsTell index (machine.exec (.start {}) actions) := by
  have hcommanded : Commanded index (machine.exec (.start {}) actions) :=
    machine.exec_invariant (fun _ action hbefore => hbefore.advance action) actions
      (commanded_start index)
  refine ⟨hcommanded.queued, ?_, hcommanded.enables.holds⟩
  rw [hcommanded.queued, filterMap_flow]
  exact hcommanded.modes.holds

end LoggedBackend

end IghMaster
