import IghMaster.Proof.LogFile
import IghMaster.Proof.LoggerRuns

/-!
# What the file tells

The lines of the file are events that the backend logged, in their order: those that no push lost, as far
as they have been written. So the lines of an axis tell a part of the cycles that it has sent, and all of
them once everything is written.
-/

namespace IghMaster

open TextTable Transition

/-! ### Parts of related lists -/

section Related

variable {First Second Third : Type} {related : First → Second → Prop} {firsts part : List First}
  {seconds : List Second}

theorem forall₂_sublist (hrelated : List.Forall₂ related firsts seconds) (hpart : part.Sublist firsts) :
    ∃ told, List.Sublist told seconds ∧ List.Forall₂ related part told := by
  induction hpart generalizing seconds with
  | slnil => exact ⟨[], List.nil_sublist _, .nil⟩
  | cons first _ ih =>
      cases hrelated with
      | cons hfirst hrest =>
          obtain ⟨told, htold, htoldRelated⟩ := ih hrest
          exact ⟨told, htold.cons _, htoldRelated⟩
  | cons_cons first _ ih =>
      cases hrelated with
      | cons hfirst hrest =>
          obtain ⟨told, htold, htoldRelated⟩ := ih hrest
          exact ⟨_ :: told, htold.cons_cons _, .cons hfirst htoldRelated⟩

theorem forall₂_prefix (hrelated : List.Forall₂ related firsts seconds) (hpart : part <+: firsts) :
    ∃ told, told <+: seconds ∧ List.Forall₂ related part told := by
  refine ⟨seconds.take part.length, List.take_prefix _ _, ?_⟩
  rw [List.prefix_iff_eq_take.mp hpart, List.length_take]
  have htake := List.forall₂_take part.length hrelated
  rw [Nat.min_eq_left hpart.length_le]
  exact htake

theorem forall₂_of_both {other : First → Third → Prop} {result : Third → Second → Prop}
    (himp : ∀ first second third, related first second → other first third → result third second)
    {thirds : List Third} (hrelated : List.Forall₂ related firsts seconds)
    (hother : List.Forall₂ other firsts thirds) : List.Forall₂ result thirds seconds := by
  induction hrelated generalizing thirds with
  | nil =>
      cases hother
      exact .nil
  | cons hfirst _ ih =>
      cases hother with
      | cons hthird hrest => exact .cons (himp _ _ _ hfirst hthird) (ih hrest)

end Related

/-! ### The events that are written -/

namespace LoggerState

open LoggerVisit

variable {config : LoggerConfig}

theorem flow_answersCommand (history : List LoggerVisit) :
    flow answersCommand history = ((flow answers history).filter Answer.isCommand).map Answer.event :=
  flow_filter_map answers Answer.isCommand Answer.event history

theorem flow_answersEvent (history : List LoggerVisit) :
    flow answersEvent history =
      ((flow answers history).filter fun answer => !answer.isCommand).map Answer.event :=
  flow_filter_map answers (fun answer => !answer.isCommand) Answer.event history

theorem flow_accepts (history : List LoggerVisit) :
    flow LoggerVisit.accepts history =
      ((flow answers history).filter Answer.accepted).map Answer.event :=
  flow_filter_map answers Answer.accepted Answer.event history

theorem mem_flow_answers {answer : Answer} (hanswer : answer ∈ flow answers config.history) :
    answer.event ∈ flow answersCommand config.history ∨
      answer.event ∈ flow answersEvent config.history := by
  rw [flow_answersCommand, flow_answersEvent]
  cases hkind : answer.isCommand with
  | true => exact Or.inl (List.mem_map_of_mem (List.mem_filter.mpr ⟨hanswer, hkind⟩))
  | false => exact Or.inr (List.mem_map_of_mem (List.mem_filter.mpr ⟨hanswer, by rw [hkind]; rfl⟩))

/-- The accepted events of an axis are those of its pushed events that were not refused: commands are
events of another type. -/
theorem eventsOf_accepts (index : Nat) {type : RuntimeLogEventType} (htype : type ≠ .servoCommand)
    (hcommands : ∀ event ∈ flow answersCommand config.history, event.type = .servoCommand) :
    ∃ pushes : List Answer, (∀ answer ∈ pushes, answer ∈ flow answers config.history) ∧
      eventsOf index type (flow answersEvent config.history) = pushes.map Answer.event ∧
      eventsOf index type (flow LoggerVisit.accepts config.history) =
        (pushes.filter Answer.accepted).map Answer.event := by
  rw [flow_answersCommand] at hcommands
  refine ⟨(flow answers config.history).filter fun answer =>
    decide (answer.event.motorId.toNat = index ∧ answer.event.type = type) && !answer.isCommand,
    fun answer hanswer => (List.mem_filter.mp hanswer).1, ?_, ?_⟩
  · rw [flow_answersEvent, eventsOf, List.filter_map, List.filter_filter]
    rfl
  · rw [flow_accepts, eventsOf, List.filter_map, List.filter_filter, List.filter_filter]
    congr 1
    apply List.filter_congr
    intro answer hanswer
    have hkind : answer.event.type = type → answer.isCommand = false := by
      intro hsame
      rw [← Bool.not_eq_true]
      intro hcommand
      exact htype (hsame.symm.trans (hcommands answer.event
        (List.mem_map_of_mem (List.mem_filter.mpr ⟨hanswer, hcommand⟩))))
    by_cases hmine : answer.event.motorId.toNat = index ∧ answer.event.type = type
    · simp [Function.comp, hmine, hkind hmine.2]
    · simp [Function.comp, hmine]

end LoggerState

/-! ### The lines of an axis -/

/-- The line is written of the event. -/
def IsWrittenAs (base : LogBase) (event : RuntimeLogEvent) (line : LogLine) : Prop :=
  ∃ written, event.IsLineOf written ∧ line = base.logLine written

namespace IsWrittenAs

variable {base : LogBase} {event : RuntimeLogEvent} {line : LogLine}

theorem same (hwritten : IsWrittenAs base event line) :
    line.motorId = event.motorId ∧ line.type = event.type ∧ line.statusWord = event.statusWord ∧
      line.cia402State = event.cia402State ∧ line.controlWord = event.controlWord ∧
      line.operationMode = event.operationMode ∧ line.targetPosition = event.targetPosition ∧
      line.targetVelocity = event.targetVelocity ∧ line.targetTorque = event.targetTorque := by
  obtain ⟨written, rfl | ⟨-, -, code, rfl⟩, rfl⟩ := hwritten
  · exact ⟨rfl, rfl, rfl, rfl, rfl, rfl, rfl, rfl, rfl⟩
  · exact ⟨rfl, rfl, rfl, rfl, rfl, rfl, rfl, rfl, rfl⟩

theorem shows {index : Nat} {cycle : SentCycle} (hshows : event.Shows index cycle)
    (hwritten : IsWrittenAs base event line) : line.Shows index cycle := by
  obtain ⟨hmotor, -, hstatus, hstate, -, hmode, hposition, hvelocity, htorque⟩ := hwritten.same
  exact
    { motorId := hmotor ▸ hshows.motorId
      statusWord := hstatus.trans hshows.statusWord
      cia402State := hstate.trans hshows.cia402State
      operationMode := hmode.trans hshows.operationMode
      targetPosition := hposition.trans hshows.targetPosition
      targetVelocity := hvelocity.trans hshows.targetVelocity
      targetTorque := htorque.trans hshows.targetTorque }

theorem showsSent {index : Nat} {cycle : SentCycle} (hshows : event.ShowsSent index cycle)
    (hwritten : IsWrittenAs base event line) : line.ShowsSent index cycle := by
  obtain ⟨-, -, -, -, hcontrol, -⟩ := hwritten.same
  exact ⟨hwritten.shows hshows.toShows, hcontrol.trans hshows.controlWord⟩

end IsWrittenAs

theorem linesOf_written {base : LogBase} {events : List RuntimeLogEvent} {lines : List LogLine}
    (hwritten : List.Forall₂ (IsWrittenAs base) events lines) (index : Nat)
    (type : RuntimeLogEventType) :
    List.Forall₂ (IsWrittenAs base) (eventsOf index type events) (linesOf index type lines) := by
  refine List.rel_filter (fun event line hline => ?_) hwritten
  obtain ⟨hmotor, htype, -⟩ := hline.same
  simp only [decide_eq_true_eq]
  rw [hmotor, htype]

/-- If the written events of every type are a part of the logged ones, then so are the lines. -/
theorem LinesTell.of_part {part : List SentCycle → List SentCycle → Prop} {index : Nat}
    {cycles : List SentCycle} {logged written : List RuntimeLogEvent} {base : LogBase}
    {lines : List LogLine} (htold : ToldBy index cycles logged)
    (hwritten : List.Forall₂ (IsWrittenAs base) written lines)
    (hpart : ∀ type, type ≠ .servoCommand → ∀ (shows : RuntimeLogEvent → SentCycle → Prop) worth,
      List.Forall₂ shows (eventsOf index type logged) worth →
        ∃ told, part told worth ∧ List.Forall₂ shows (eventsOf index type written) told) :
    LinesTell part index cycles lines := by
  have hlines : ∀ type, type ≠ .servoCommand →
      ∀ {shows : RuntimeLogEvent → SentCycle → Prop} {showsLine : LogLine → SentCycle → Prop},
      (∀ event cycle line, shows event cycle → IsWrittenAs base event line → showsLine line cycle) →
        ∀ {worth : List SentCycle}, List.Forall₂ shows (eventsOf index type logged) worth →
          TellPart part showsLine (linesOf index type lines) worth := by
    intro type htype shows showsLine hline worth hworth
    obtain ⟨told, htoldPart, htoldShown⟩ := hpart type htype shows worth hworth
    exact ⟨told, htoldPart,
      forall₂_of_both hline htoldShown (linesOf_written hwritten index type)⟩
  have hshows : ∀ event cycle line, RuntimeLogEvent.Shows index event cycle →
      IsWrittenAs base event line → LogLine.Shows index line cycle :=
    fun _ _ _ hshows hline => hline.shows hshows
  have hshowsSent : ∀ event cycle line, RuntimeLogEvent.ShowsSent index event cycle →
      IsWrittenAs base event line → LogLine.ShowsSent index line cycle :=
    fun _ _ _ hshows hline => hline.showsSent hshows
  exact ⟨hlines .cia402State (by decide) hshows htold.states,
    hlines .errorCode (by decide) hshows htold.faults,
    hlines .controlWord (by decide) hshowsSent htold.controlWords,
    hlines .targetSetpoint (by decide) hshowsSent htold.setpoints⟩

/-! ### The run -/

namespace LoggerState

open LoggerVisit

/-- What a logger has handed on, if its queue was empty at first. -/
structure HandsOn (config : LoggerConfig) : Prop where
  kept : Kept config
  commands : flow queues config.history =
    flow answersCommand config.history ++
      (config.state.realTime.unflushed ++ config.state.pendingCommands)
  events : flow enters config.history =
    flow answersEvent config.history ++ config.state.realTime.unpushed
  taken : flow takes config.history = flow writes config.history ++ config.state.inHand

theorem handsOn_exec (ringBuffer : Nat → RuntimeLogEvent) (actions : List LoggerAction) :
    HandsOn (machine.exec (.start (initialized ringBuffer [])) actions) :=
  ⟨kept_exec ringBuffer [] actions, commands_exec ringBuffer [] actions,
    events_exec ringBuffer [] actions, taken_exec ringBuffer [] actions⟩

namespace HandsOn

variable {config : LoggerConfig} {logged : LoggedConfig} (hhands : HandsOn config)

include hhands

/-- What is written was accepted before. -/
theorem writes_prefix : flow writes config.history <+: flow LoggerVisit.accepts config.history := by
  have htaken := hhands.kept.taken_prefix
  rw [hhands.taken] at htaken
  exact (List.prefix_append _ _).trans htaken

variable (hserves : ServesBackend logged config)

include hserves

theorem answersEvent_prefix : flow answersEvent config.history <+: logged.state.pushed := by
  have hentered := hserves.events
  rw [hhands.events] at hentered
  exact (List.prefix_append _ _).trans hentered

theorem answersCommand_prefix : flow answersCommand config.history <+: logged.state.queued := by
  have hqueued := hserves.commands
  rw [hhands.commands] at hqueued
  exact (List.prefix_append _ _).trans hqueued

variable (hplain : LoggedBackend.PlainDetails logged)

include hplain

theorem command_of_mem_answersCommand :
    ∀ event ∈ flow answersCommand config.history, event.type = .servoCommand :=
  fun event hevent => (hplain.queued event ((hhands.answersCommand_prefix hserves).subset hevent)).1

theorem written_sublist (index : Nat) {type : RuntimeLogEventType} (htype : type ≠ .servoCommand) :
    (eventsOf index type (flow writes config.history)).Sublist
      (eventsOf index type logged.state.pushed) := by
  obtain ⟨pushes, -, hpushed, haccepted⟩ :=
    eventsOf_accepts index htype (hhands.command_of_mem_answersCommand hserves hplain)
  have hwritten := hhands.writes_prefix.sublist.filter fun event =>
    decide (event.motorId.toNat = index ∧ event.type = type)
  have hentered := (hhands.answersEvent_prefix hserves).sublist.filter fun event =>
    decide (event.motorId.toNat = index ∧ event.type = type)
  refine (hwritten.trans ?_).trans hentered
  change (eventsOf index type _).Sublist (eventsOf index type _)
  rw [haccepted, hpushed]
  exact List.filter_sublist.map Answer.event

/-- Where no push is refused, the pushed events of an axis are all accepted. -/
theorem eventsOf_accepts_of_refusesNone (hnone : RefusesNone config) (index : Nat)
    {type : RuntimeLogEventType} (htype : type ≠ .servoCommand) :
    eventsOf index type (flow LoggerVisit.accepts config.history) =
      eventsOf index type (flow answersEvent config.history) := by
  obtain ⟨pushes, hmem, hpushed, haccepted⟩ :=
    eventsOf_accepts index htype (hhands.command_of_mem_answersCommand hserves hplain)
  have hall : ∀ answer ∈ pushes, answer.accepted = true := by
    intro answer hanswer
    obtain ⟨visit, hvisit, hanswers⟩ := List.mem_filterMap.mp (List.mem_reverse.mp (hmem answer hanswer))
    exact hnone visit hvisit answer hanswers
  rw [haccepted, hpushed, List.filter_eq_self.mpr hall]

/-- A line has the detail of an event that the backend logged. -/
theorem isPlainDetail_of_mem_logFile : ∀ line ∈ config.state.logFile, IsPlainDetail line.detail := by
  have hevents : ∀ event ∈ flow writes config.history, IsPlainDetail event.detail := by
    intro event hevent
    have haccepted := hhands.writes_prefix.subset hevent
    rw [flow_accepts] at haccepted
    obtain ⟨answer, hanswer, rfl⟩ := List.mem_map.mp haccepted
    rcases mem_flow_answers (List.mem_filter.mp hanswer).1 with hcommand | hpushed
    · exact (hplain.queued _ ((hhands.answersCommand_prefix hserves).subset hcommand)).2
    · exact hplain.pushed _ ((hhands.answersEvent_prefix hserves).subset hpushed)
  have hdetails : List.Forall₂ (· = ·) ((flow writes config.history).map RuntimeLogEvent.detail)
      (config.state.logFile.map RuntimeLogEvent.detail) := by
    rw [List.forall₂_map_left_iff, List.forall₂_map_right_iff]
    refine hhands.kept.written.imp fun event line hline => ?_
    rcases hline with rfl | ⟨-, -, code, rfl⟩
    · rfl
    · rfl
  rw [List.forall₂_eq_eq_eq] at hdetails
  intro line hline
  have hdetail : line.detail ∈ config.state.logFile.map RuntimeLogEvent.detail :=
    List.mem_map_of_mem hline
  rw [← hdetails] at hdetail
  obtain ⟨event, hevent, hsame⟩ := List.mem_map.mp hdetail
  rw [← hsame]
  exact hevents event hevent

/-- The lines of an axis that was told of in full tell of a part. -/
theorem fileTells (base : LogBase)
    (htold : ∀ index < 256,
      ToldBy index (flow (LoggedVisit.sends index) logged.history) logged.state.pushed) :
    FileTells logged config (config.state.logFile.map base.logLine) := by
  have hwritten : List.Forall₂ (IsWrittenAs base) (flow writes config.history)
      (config.state.logFile.map base.logLine) :=
    List.forall₂_map_right_iff.mpr (hhands.kept.written.imp fun event line hline => ⟨line, hline, rfl⟩)
  refine ⟨fun index hindex => ?_, fun hnone index hindex => ?_, fun hnone hall index hindex => ?_⟩
  · refine .of_part (htold index hindex) hwritten fun type htype shows worth hworth => ?_
    exact forall₂_sublist hworth (hhands.written_sublist hserves hplain index htype)
  · refine .of_part (htold index hindex) hwritten fun type htype shows worth hworth => ?_
    have haccepted := hhands.eventsOf_accepts_of_refusesNone hserves hplain hnone index htype
    have hpart := hhands.writes_prefix.filter fun event =>
      decide (event.motorId.toNat = index ∧ event.type = type)
    change eventsOf index type _ <+: eventsOf index type _ at hpart
    rw [haccepted] at hpart
    exact forall₂_prefix hworth (hpart.trans ((hhands.answersEvent_prefix hserves).filter _))
  · refine .of_part (htold index hindex) hwritten fun type htype shows worth hworth => ?_
    have haccepted := hhands.eventsOf_accepts_of_refusesNone hserves hplain hnone index htype
    have htaken := hhands.taken
    have hentered := hhands.events
    rw [hall.inHand, List.append_nil, hall.taken] at htaken
    rw [hall.unpushed, List.append_nil, hall.events] at hentered
    refine ⟨worth, rfl, ?_⟩
    rw [← htaken, haccepted, ← hentered]
    exact hworth

end HandsOn

/-- **From the bus to the file**: whatever a logger has written for a backend can be read back, and its
lines tell of the cycles that every axis has sent. -/
theorem fileTells_exec (loggedActions : List LoggedAction)
    (hids : ∀ action ∈ loggedActions, action.hasIds = true) (ringBuffer : Nat → RuntimeLogEvent)
    (actions : List LoggerAction) (base : LogBase)
    (hserves : ServesBackend (LoggedBackend.machine.exec (.start {}) loggedActions)
      (machine.exec (.start (initialized ringBuffer [])) actions)) :
    ∃ lines, readLog (base.fileText
        (machine.exec (.start (initialized ringBuffer [])) actions).state.logFile) = some lines ∧
      FileTells (LoggedBackend.machine.exec (.start {}) loggedActions)
        (machine.exec (.start (initialized ringBuffer [])) actions) lines := by
  have hplain := LoggedBackend.plainDetails_exec loggedActions
  have hhands := handsOn_exec ringBuffer actions
  exact ⟨_, base.readLog_fileText (hhands.isPlainDetail_of_mem_logFile hserves hplain),
    hhands.fileTells hserves hplain base fun index hindex =>
      (LoggedBackend.telling_exec loggedActions hids hindex).told⟩

/-! ### A run with a file -/

/-- The event that an action hands to the real-time thread. -/
def pushOf : LoggerAction → Option RuntimeLogEvent
  | .pushRtEvent event => some event
  | _ => none

theorem enters_sublist (visit : LoggerVisit) :
    (enters visit).toList.Sublist (pushOf visit.action).toList := by
  unfold enters
  split
  · rename_i event haction _
    rw [haction]
    split_ifs
    · exact List.Sublist.refl _
    · exact List.nil_sublist _
  · exact List.nil_sublist _

theorem flow_enters_sublist (config : LoggerConfig) (actions : List LoggerAction) :
    (flow enters (machine.exec config actions).history).Sublist
      (flow enters config.history ++ actions.filterMap pushOf) := by
  induction actions generalizing config with
  | nil =>
      rw [Machine.exec_nil, List.filterMap_nil, List.append_nil]
  | cons action actions ih =>
      have hrest := ih (machine.advance config action)
      rw [Machine.exec_cons]
      refine hrest.trans ?_
      rw [Machine.advance_history, flow_cons, List.append_assoc]
      have hfirst := enters_sublist (machine.visit config.state action)
      have hactions : (action :: actions).filterMap pushOf =
          (pushOf action).toList ++ actions.filterMap pushOf := by
        cases hpush : pushOf action with
        | none => rw [List.filterMap_cons_none hpush, Option.toList_none, List.nil_append]
        | some event => rw [List.filterMap_cons_some hpush, Option.toList_some, List.singleton_append]
      rw [hactions]
      exact (hfirst.append_right _).append_left _

/-- The real-time thread pushes the events of a run one after the other, and a drain writes them. -/
def handOver (events : List RuntimeLogEvent) : List LoggerAction :=
  (events.flatMap fun event => .pushRtEvent event :: List.replicate 275 (.realTime true)) ++
    .drain 0 false :: List.replicate 560 (.log 0 0)

theorem filterMap_handOver (events : List RuntimeLogEvent) :
    (handOver events).filterMap pushOf = events := by
  have hnone : ∀ count action, pushOf action = none →
      (List.replicate count action).filterMap pushOf = [] := by
    intro count action haction
    rw [List.filterMap_eq_nil_iff]
    intro other hother
    rw [List.eq_of_mem_replicate hother]
    exact haction
  rw [handOver, List.filterMap_append, List.filterMap_cons_none rfl, hnone _ _ rfl, List.append_nil]
  induction events with
  | nil => rfl
  | cons event rest ih =>
      have hpush : pushOf (.pushRtEvent event) = some event := rfl
      rw [List.flatMap_cons, List.filterMap_append, List.filterMap_cons_some hpush, hnone _ _ rfl, ih]
      rfl

/-- A logger that has let as many events in as there are has let in these. -/
theorem enters_handOver (state : LoggerState) (events : List RuntimeLogEvent)
    (hlength : (flow enters (machine.exec (.start state) (handOver events)).history).length =
      events.length) :
    flow enters (machine.exec (.start state) (handOver events)).history = events := by
  have hsublist := flow_enters_sublist (.start state) (handOver events)
  rw [filterMap_handOver, Config.history_start, flow_nil, List.nil_append] at hsublist
  exact hsublist.eq_of_length hlength

theorem fileTells_loggedStart :
    let logged := LoggedBackend.machine.exec (.start {}) LoggedBackend.loggedStart
    let config := machine.exec (.start (initialized (fun _ => .blank) [])) (handOver logged.state.pushed)
    ServesBackend logged config ∧ RefusesNone config ∧ HasWritten logged config ∧
      config.state.logFile.length = 2 ∧
      ∃ lines, readLog (LoggedBackend.epochBase.fileText config.state.logFile) = some lines ∧
        FileTells logged config lines := by
  intro logged config
  -- all that the run shows is evaluated at once
  have hrun : config.state.logFile.length = 2 ∧
      (flow enters config.history).length = logged.state.pushed.length ∧
      (flow queues config.history).length = 0 ∧
      (config.history.all fun visit => (answers visit).all Answer.accepted) = true ∧
      config.state.realTime.unpushed.length = 0 ∧
      (flow takes config.history).length = (flow LoggerVisit.accepts config.history).length ∧
      config.state.inHand.length = 0 := by decide +kernel
  obtain ⟨hfile, hlength, hqueues, haccepted, hunpushed, htaken, hinHand⟩ := hrun
  have hkept := kept_exec (fun _ => .blank) [] (handOver logged.state.pushed)
  have hevents : flow enters config.history = logged.state.pushed :=
    enters_handOver _ logged.state.pushed hlength
  have hserves : ServesBackend logged config := by
    refine ⟨?_, ?_⟩
    · rw [hevents]
    · rw [List.eq_nil_of_length_eq_zero hqueues]
      exact List.nil_prefix
  have hnone : RefusesNone config := by
    intro visit hvisit answer hanswers
    have hall := List.all_eq_true.mp haccepted visit hvisit
    rw [hanswers] at hall
    exact hall
  have hall : HasWritten logged config :=
    ⟨hevents, List.eq_nil_of_length_eq_zero hunpushed, hkept.taken_prefix.eq_of_length htaken,
      List.eq_nil_of_length_eq_zero hinHand⟩
  have hids : ∀ action ∈ LoggedBackend.loggedStart, action.hasIds = true := by decide +kernel
  have htells := fileTells_exec LoggedBackend.loggedStart hids (fun _ => .blank)
    (handOver logged.state.pushed) LoggedBackend.epochBase hserves
  have hconfig : machine.exec (.start (initialized (fun _ => .blank) []))
      (handOver logged.state.pushed) = config := rfl
  rw [hconfig] at htells
  exact ⟨hserves, hnone, hall, hfile, htells⟩

end LoggerState

end IghMaster
