import IghMaster.Lib.Ledger
import IghMaster.Proof.EventLog
import IghMaster.Proof.MasterIsolation

/-!
# What a run logs

An axis logs in the cycles it sends, and no other axis pushes events under its id. So at any moment of any
run the events pushed for it tell the cycles that it has sent.
-/

namespace IghMaster

open Transition

namespace AxisLog

/-- Every event of an axis is made by `runtimeEvent`, with one of three details. -/
theorem exists_of_mem_sendData {activated wcOk : Bool} {index : Nat} {clock : LogClock} {axis : Axis}
    {log : AxisLog} {event : RuntimeLogEvent}
    (hevent : event ∈ (log.sendData activated wcOk index clock axis).2) :
    ∃ (merged : Axis) (type : RuntimeLogEventType) (nowNs : UInt64) (controlWord : UInt16),
      ∃ detail ∈ ["", "fault_detected", "control_word_write"],
        event = merged.runtimeEvent index type nowNs controlWord detail := by
  have hstate : ∀ (axis : Axis) (log : AxisLog), ∀ event ∈ (log.logState index clock.state axis).2,
      ∃ type nowNs controlWord, ∃ detail ∈ ["", "fault_detected", "control_word_write"],
        event = axis.runtimeEvent index type nowNs controlWord detail := by
    intro axis log event hevent
    unfold logState at hevent
    dsimp only at hevent
    split_ifs at hevent
    · rw [List.mem_cons, List.mem_singleton] at hevent
      rcases hevent with rfl | rfl
      · exact ⟨_, _, _, "", by simp, rfl⟩
      · exact ⟨_, _, _, "fault_detected", by simp, rfl⟩
    · rw [List.mem_singleton] at hevent
      exact ⟨_, _, _, "", by simp, hevent⟩
    · cases hevent
  have hcontrol : ∀ (axis : Axis) (log : AxisLog) (controlWord : UInt16),
      ∀ event ∈ (log.logControlWord index clock.control controlWord axis).2,
        event = axis.runtimeEvent index .controlWord clock.control controlWord
          "control_word_write" := by
    intro axis log controlWord event hevent
    unfold logControlWord at hevent
    split_ifs at hevent
    · exact List.mem_singleton.mp hevent
    · cases hevent
  have htarget : ∀ (axis : Axis) (log : AxisLog) (controlWord : UInt16),
      ∀ event ∈ (log.maybeLogTargetSetpoint activated index clock.target controlWord axis).2,
        event = axis.runtimeEvent index .targetSetpoint clock.target controlWord "" := by
    intro axis log controlWord event hevent
    unfold maybeLogTargetSetpoint at hevent
    dsimp only at hevent
    split_ifs at hevent
    · cases hevent
    · cases hevent
    · cases hevent
    · exact List.mem_singleton.mp hevent
  rw [sendData] at hevent
  dsimp only at hevent
  rw [List.mem_append, List.mem_append] at hevent
  rcases hevent with (hevent | hevent) | hevent
  · exact ⟨_, hstate _ _ event hevent⟩
  · exact ⟨_, _, _, _, "control_word_write", by simp, hcontrol _ _ _ event hevent⟩
  · exact ⟨_, _, _, _, "", by simp, htarget _ _ _ event hevent⟩

/-- All events of an axis have its id. -/
theorem motorId_of_mem_sendData {activated wcOk : Bool} {index : Nat} (hindex : index < 256)
    {clock : LogClock} {axis : Axis} {log : AxisLog} {event : RuntimeLogEvent}
    (hevent : event ∈ (log.sendData activated wcOk index clock axis).2) :
    event.motorId.toNat = index := by
  obtain ⟨merged, type, nowNs, controlWord, detail, -, rfl⟩ := exists_of_mem_sendData hevent
  exact Axis.motorId_runtimeEvent hindex type nowNs controlWord detail merged

end AxisLog

/-- Of the events of all axes, those under an id are the events of the axis at that index. -/
theorem eventsOf_flatMap_range {index : Nat} {type : RuntimeLogEventType}
    {events : Nat → List RuntimeLogEvent} (count : Nat)
    (hother : ∀ other, other < count → other ≠ index → eventsOf index type (events other) = []) :
    eventsOf index type ((List.range count).flatMap events) =
      if index < count then eventsOf index type (events index) else [] := by
  induction count with
  | zero => rfl
  | succ count ih =>
      have hearlier := ih fun other hlt hne => hother other (Nat.lt_succ_of_lt hlt) hne
      rw [List.range_succ, List.flatMap_append, eventsOf_append, hearlier, List.flatMap_singleton]
      rcases Nat.lt_trichotomy index count with hlt | rfl | hgt
      · rw [if_pos hlt, if_pos (Nat.lt_succ_of_lt hlt), hother count (Nat.lt_succ_self _) (by omega),
          List.append_nil]
      · rw [if_neg (Nat.lt_irrefl _), if_pos (Nat.lt_succ_self _), List.nil_append]
      · rw [if_neg (by omega), if_neg (by omega), hother count (Nat.lt_succ_self _) (by omega)]
        rfl

theorem ToldBy.congr {index : Nat} {cycles : List SentCycle} {events events' : List RuntimeLogEvent}
    (htold : ToldBy index cycles events)
    (hsame : ∀ type, eventsOf index type events' = eventsOf index type events) :
    ToldBy index cycles events' where
  states := by
    rw [hsame]
    exact htold.states
  faults := by
    rw [hsame]
    exact htold.faults
  controlWords := by
    rw [hsame]
    exact htold.controlWords
  setpoints := by
    rw [hsame]
    exact htold.setpoints

namespace Servo

/-- The log of a motor that is sent, and of any other slave. -/
theorem logAxis_of_motion {domain : DomainState} {clock : Nat → LogClock} {logs : Nat → AxisLog}
    {servo : Servo} {index : Nat} {axis : Axis} (haxis : servo.axes[index]? = some axis)
    (hmotion : axis.isMotion = true) :
    servo.logAxis domain clock logs index =
      (logs index).sendData servo.activated (domain.wcState == .complete) index (clock index) axis := by
  rw [logAxis, haxis]
  dsimp only
  rw [if_pos hmotion]

theorem logAxis_of_not_motion {domain : DomainState} {clock : Nat → LogClock} {logs : Nat → AxisLog}
    {servo : Servo} {index : Nat} (hother : servo.axes[index]?.filter Axis.isMotion = none) :
    servo.logAxis domain clock logs index = (logs index, []) := by
  rw [logAxis]
  cases haxis : servo.axes[index]? with
  | none => rfl
  | some axis =>
      have hmotion : axis.isMotion = false := by simpa [haxis] using hother
      dsimp only
      rw [hmotion, if_neg Bool.false_ne_true]

theorem exists_of_mem_logAxis {domain : DomainState} {clock : Nat → LogClock} {logs : Nat → AxisLog}
    {servo : Servo} {index : Nat} {event : RuntimeLogEvent}
    (hevent : event ∈ (servo.logAxis domain clock logs index).2) :
    ∃ axis, event ∈ ((logs index).sendData servo.activated (domain.wcState == .complete) index
      (clock index) axis).2 := by
  cases haxis : servo.axes[index]?.filter Axis.isMotion with
  | none =>
      rw [logAxis_of_not_motion haxis] at hevent
      cases hevent
  | some axis =>
      obtain ⟨hat, hmotion⟩ := Option.filter_eq_some_iff.mp haxis
      rw [logAxis_of_motion hat hmotion] at hevent
      exact ⟨axis, hevent⟩

theorem eventsOf_logSendData {domain : DomainState} {clock : Nat → LogClock} {logs : Nat → AxisLog}
    {servo : Servo} (hready : servo.ready = true) (hcount : servo.motorCount ≤ 256) {index : Nat}
    (type : RuntimeLogEventType) :
    eventsOf index type (servo.logSendData domain clock logs).2 =
      eventsOf index type (servo.logAxis domain clock logs index).2 := by
  rw [logSendData, if_pos hready]
  dsimp only
  rw [eventsOf_flatMap_range]
  · split_ifs with hlt
    · rfl
    · have hnone : servo.axes[index]? = none := List.getElem?_eq_none (Nat.le_of_not_lt hlt)
      rw [logAxis_of_not_motion (by rw [hnone]; rfl), eventsOf_nil]
  · intro other hlt hne
    apply eventsOf_eq_nil
    intro event hevent hmotor
    obtain ⟨axis, hsent⟩ := exists_of_mem_logAxis hevent
    exact hne ((AxisLog.motorId_of_mem_sendData (by omega) hsent).symm.trans hmotor)

end Servo

namespace LoggedBackend

variable {state : LoggedBackend} {index : Nat}

/-- An axis as `sendData` finds it in a running cycle has a plain machine with a known word. -/
theorem known_sentCycle (hworded : state.backend.Worded) {input : JobInput}
    (hrunning : state.backend.runtime.jobRunning = true) {axis : Axis}
    (haxis : (state.backend.beforeOutputs input).servo.axes[index]? = some axis)
    (hmotion : axis.isMotion = true) (wcOk : Bool) :
    (axis.sentCycle true wcOk).controlWord ≠ 0xFFFF := by
  have hready := hworded.sound.formed.ready_eq.trans hrunning
  rw [Backend.getElem?_beforeOutputs hready, Option.map_eq_some_iff] at haxis
  obtain ⟨before, hbefore, rfl⟩ := haxis
  by_cases hdrive : before.isMotion = true
  · rw [if_pos hdrive]
    have hsame := Backend.sameDrive_inputAxis state.backend index input before
    have hknown := Axis.sent_mem_commandWords
      ((hworded.sound.axes index before hbefore hdrive).of_sameDrive hsame)
      ((hworded.axes index before hbefore hdrive).of_sameDrive hsame).state wcOk
    intro hword
    change (Axis.sendData true wcOk _).output.controlWord = 0xFFFF at hword
    rw [hword] at hknown
    exact absurd hknown (by decide)
  · rw [if_neg hdrive] at hmotion
    exact absurd hmotion hdrive

/-- What an action does to the log of one axis: it is left alone, or one cycle is sent. -/
inductive Logs (index : Nat) (state : LoggedBackend) (action : LoggedAction) : Prop where
  | still (hsends : LoggedVisit.sends index (machine.visit state action) = none)
      (hlog : (state.logCycle action).1 index = state.axisLogs index)
      (hevents : ∀ type, eventsOf index type (state.logCycle action).2 = [])
  | sent (axis : Axis) (clock : LogClock) (wcOk : Bool)
      (hsends : LoggedVisit.sends index (machine.visit state action) = some (axis.sentCycle true wcOk))
      (hknown : (axis.sentCycle true wcOk).controlWord ≠ 0xFFFF)
      (hlog : (state.logCycle action).1 index =
        ((state.axisLogs index).sendData true wcOk index clock axis).1)
      (hevents : ∀ type, eventsOf index type (state.logCycle action).2 =
        eventsOf index type ((state.axisLogs index).sendData true wcOk index clock axis).2)

theorem sends_job (index : Nat) (state : LoggedBackend) (input : JobInput) (clock : Nat → LogClock)
    (commandNs : UInt64) :
    LoggedVisit.sends index
        (machine.visit state { action := .job input, clock := clock, commandNs := commandNs }) =
      if state.backend.runtime.jobRunning && !state.backend.cycleIsSafe input then
        ((state.backend.beforeOutputs input).servo.axes[index]?.filter Axis.isMotion).map
          (Axis.sentCycle true (input.domain.wcState == .complete))
      else none := rfl

theorem logs_cases (hworded : state.backend.Worded) (hcount : state.backend.servo.motorCount ≤ 256)
    (index : Nat) (action : LoggedAction) : Logs index state action := by
  obtain ⟨action, clock, commandNs⟩ := action
  cases action with
  | job input =>
      by_cases hsends : (state.backend.runtime.jobRunning && !state.backend.cycleIsSafe input) = true
      · obtain ⟨hrunning, hsafe⟩ := Bool.and_eq_true_iff.mp hsends
        have hready := hworded.sound.formed.ready_eq.trans hrunning
        have hinitialized : state.backend.servo.initialized = true := by
          rw [Servo.ready, Bool.and_eq_true] at hready
          exact hready.1
        have hbare := Backend.bare_beforeOutputs input state.backend
        have hready' : (state.backend.beforeOutputs input).servo.ready = true :=
          (Servo.field_of_bare Servo.ready (fun _ => rfl) hbare).trans hready
        have hactivated : (state.backend.beforeOutputs input).servo.activated = true := by
          rw [Servo.ready, Bool.and_eq_true] at hready'
          exact hready'.2
        have hcycle : state.logCycle { action := .job input, clock := clock, commandNs := commandNs } =
            (state.backend.beforeOutputs input).servo.logSendData input.domain clock
              state.axisLogs := by
          rw [logCycle]
          dsimp only
          rw [hrunning, hinitialized, Bool.true_and, Bool.true_and, if_pos hsafe]
        have hlength : (state.backend.beforeOutputs input).servo.motorCount ≤ 256 := by
          rw [Servo.motorCount, Backend.length_beforeOutputs hready]
          exact hcount
        have hlogs : ∀ other,
            ((state.backend.beforeOutputs input).servo.logSendData input.domain clock
              state.axisLogs).1 other =
            ((state.backend.beforeOutputs input).servo.logAxis input.domain clock state.axisLogs
              other).1 := by
          intro other
          rw [Servo.logSendData, if_pos hready']
        cases haxis : (state.backend.beforeOutputs input).servo.axes[index]?.filter Axis.isMotion with
        | none =>
            refine .still ?_ ?_ fun type => ?_
            · rw [sends_job, if_pos hsends, haxis, Option.map_none]
            · rw [hcycle, hlogs, Servo.logAxis_of_not_motion haxis]
            · rw [hcycle, Servo.eventsOf_logSendData hready' hlength,
                Servo.logAxis_of_not_motion haxis, eventsOf_nil]
        | some axis =>
            obtain ⟨hat, hmotion⟩ := Option.filter_eq_some_iff.mp haxis
            have hlogged : (state.backend.beforeOutputs input).servo.logAxis input.domain clock
                state.axisLogs index = _ := Servo.logAxis_of_motion hat hmotion
            rw [hactivated] at hlogged
            refine .sent axis (clock index) (input.domain.wcState == .complete) ?_
              (known_sentCycle hworded hrunning hat hmotion _) ?_ fun type => ?_
            · rw [sends_job, if_pos hsends, haxis, Option.map_some]
            · rw [hcycle, hlogs, hlogged]
            · rw [hcycle, Servo.eventsOf_logSendData hready' hlength, hlogged]
      · have hcycle : state.logCycle { action := .job input, clock := clock, commandNs := commandNs } =
            (state.axisLogs, []) := by
          rw [logCycle]
          dsimp only
          rw [if_neg]
          intro hlogs
          apply hsends
          rw [Bool.and_eq_true, Bool.and_eq_true] at hlogs
          rw [Bool.and_eq_true]
          exact ⟨hlogs.1.1, hlogs.2⟩
        refine .still ?_ ?_ fun type => ?_
        · rw [sends_job, if_neg hsends]
        · rw [hcycle]
        · rw [hcycle, eventsOf_nil]
  | _ => exact .still rfl rfl fun type => rfl

/-- The servo never has more axes than there are ids. -/
theorem motorCount_next (hworded : state.backend.Worded) (hcount : state.backend.servo.motorCount ≤ 256)
    {action : LoggedAction} (hids : action.hasIds = true) :
    (state.next action).backend.servo.motorCount ≤ 256 := by
  obtain ⟨action, clock, commandNs⟩ := action
  by_cases hother : ∃ bus config motors, action = .initializeServo bus config motors
  · obtain ⟨bus, config, motors, rfl⟩ := hother
    change (state.backend.servo.initializeServo bus config.busCycleUs config.cmdWatchdogMs
      config.csvCmdWatchdog motors).1.axes.length ≤ 256
    rcases state.backend.servo.initializeServo_axes bus config.busCycleUs config.cmdWatchdogMs
      config.csvCmdWatchdog motors with hkept | ⟨-, hinitial⟩
    · rw [hkept]
      exact hcount
    · rw [Servo.length_initialAxes hinitial]
      exact of_decide_eq_true hids
  · have hshape := Backend.sameShape_next hworded.sound.formed
      fun bus config motors h => hother ⟨bus, config, motors, h⟩
    exact hshape.length.le.trans hcount

/-- The log of the axis at the index and what it has told so far. -/
structure Telling (index : Nat) (config : LoggedConfig) : Prop where
  worded : config.state.backend.Worded
  count : config.state.backend.servo.motorCount ≤ 256
  tracks : (config.state.axisLogs index).Tracks (flow (LoggedVisit.sends index) config.history)
  told : ToldBy index (flow (LoggedVisit.sends index) config.history) config.state.pushed

theorem Telling.advance {config : LoggedConfig} (hindex : index < 256) (htelling : Telling index config)
    {action : LoggedAction} (hids : action.hasIds = true) :
    Telling index (machine.advance config action) := by
  have hpushed : (config.state.next action).pushed =
      config.state.pushed ++ (config.state.logCycle action).2 := rfl
  have hlogs : (config.state.next action).axisLogs = (config.state.logCycle action).1 := rfl
  refine ⟨htelling.worded.next action.action, motorCount_next htelling.worded htelling.count hids, ?_, ?_⟩
  all_goals rw [Machine.advance_history, Machine.advance_state, flow_cons]
  · change ((config.state.next action).axisLogs index).Tracks _
    rw [hlogs]
    cases logs_cases htelling.worded htelling.count index action with
    | still hsends hlog hevents =>
        rw [hsends, hlog, Option.toList_none, List.append_nil]
        exact htelling.tracks
    | sent axis clock wcOk hsends hknown hlog hevents =>
        rw [hsends, hlog]
        exact (htelling.tracks.sendData hindex clock hknown htelling.told).1
  · change ToldBy index _ (config.state.next action).pushed
    rw [hpushed]
    cases logs_cases htelling.worded htelling.count index action with
    | still hsends hlog hevents =>
        rw [hsends, Option.toList_none, List.append_nil]
        apply htelling.told.congr
        intro type
        rw [eventsOf_append, hevents, List.append_nil]
    | sent axis clock wcOk hsends hknown hlog hevents =>
        rw [hsends]
        apply (htelling.tracks.sendData hindex clock hknown htelling.told).2.congr
        intro type
        rw [eventsOf_append, eventsOf_append, hevents]

theorem telling_exec (actions : List LoggedAction) (hids : ∀ action ∈ actions, action.hasIds = true)
    {index : Nat} (hindex : index < 256) : Telling index (machine.exec (.start {}) actions) := by
  have hstart : Telling index (Config.start {}) :=
    ⟨Backend.worded_default, Nat.zero_le _, AxisLog.tracks_nil, .nil, .nil, .nil, .nil⟩
  have hstep : ∀ (config : LoggedConfig) (action : LoggedAction), Telling index config →
      action.hasIds = true → Telling index (machine.advance config action) :=
    fun config action htelling haction => htelling.advance hindex haction
  exact machine.exec_invariant_of_meets hstep hstart (machine.meets_of_forall_mem hids)

/-- **The event log tells the truth**: at the end of every run the events pushed under an id are told by
the cycles that the axis has sent. -/
theorem toldBy_exec (actions : List LoggedAction) (hids : ∀ action ∈ actions, action.hasIds = true)
    {index : Nat} (hindex : index < 256) :
    ToldBy index (flow (LoggedVisit.sends index) (machine.exec (.start {}) actions).history)
      (machine.exec (.start {}) actions).state.pushed :=
  (telling_exec actions hids hindex).told

/-- A backend with one NH17 module that is released and sends two cycles. -/
def loggedStart : List LoggedAction :=
  (Backend.dwelledStart ++
      [.releaseSafeOutput, Backend.healthyJob 0, .call (.setEnable 0 true), Backend.healthyJob 0]).map
    fun action => { action := action, clock := fun _ => ⟨0, 0, 0⟩, commandNs := 0 }

theorem toldBy_loggedStart :
    (flow (LoggedVisit.sends 0) (machine.exec (.start {}) loggedStart).history).length = 2 ∧
      ToldBy 0 (flow (LoggedVisit.sends 0) (machine.exec (.start {}) loggedStart).history)
        (machine.exec (.start {}) loggedStart).state.pushed := by
  have hids : ∀ action ∈ loggedStart, action.hasIds = true := by decide +kernel
  exact ⟨by decide +kernel, toldBy_exec loggedStart hids (by decide)⟩

end LoggedBackend

end IghMaster
