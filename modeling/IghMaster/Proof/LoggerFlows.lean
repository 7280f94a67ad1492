import IghMaster.Proof.RuntimeLogger

/-!
# What the real-time thread hands on

Every step balances: a command that leaves the queue is in the hands of the real-time thread until its push
returns, and so is an event of its own.
-/

namespace IghMaster

open Transition Mutex LoggerVisit

namespace LoggerState

variable {state : LoggerState} {thread : Nat}

/-! ### The pushes -/

theorem next_pushingCommand {event : RuntimeLogEvent} {rest : List RuntimeLogEvent}
    (hphase : state.realTime = .pushingCommand event rest) (locks : Bool) :
    state.next (.realTime locks) =
      { state with
        ring := state.ringAfter (.realTime locks)
        realTime := afterPush (.pushingCommand event rest) (.flushing rest)
          (state.ringAfter (.realTime locks)).producer } := by
  change state.stepRealTime locks (state.ringAfter (.realTime locks)) = _
  rw [stepRealTime, hphase]

theorem next_pushing {event : RuntimeLogEvent} (hphase : state.realTime = .pushing event)
    (locks : Bool) :
    state.next (.realTime locks) =
      { state with
        ring := state.ringAfter (.realTime locks)
        realTime := afterPush (.pushing event) .idle
          (state.ringAfter (.realTime locks)).producer } := by
  change state.stepRealTime locks (state.ringAfter (.realTime locks)) = _
  rw [stepRealTime, hphase]

theorem answers_of_inPush_none (hphase : state.realTime.inPush = none) (locks : Bool) :
    answers (machine.visit state (.realTime locks)) = none := by
  unfold answers
  rw [Machine.visit_before]
  cases hrealTime : state.realTime with
  | pushingCommand event rest => rw [hrealTime] at hphase; cases hphase
  | pushing event => rw [hrealTime] at hphase; cases hphase
  | _ => rfl

/-- What an access of the push of a command does: the call goes on, or it returns with an answer. -/
theorem answers_pushingCommand {event : RuntimeLogEvent} {rest : List RuntimeLogEvent}
    (hphase : state.realTime = .pushingCommand event rest) (locks : Bool) :
    (answers (machine.visit state (.realTime locks)) = none ∧
        (state.next (.realTime locks)).realTime = .pushingCommand event rest) ∨
      (answers (machine.visit state (.realTime locks)) =
          some { event := event, isCommand := true, accepted := state.ring.producer.inSlot } ∧
        (state.next (.realTime locks)).realTime = .flushing rest) := by
  have hproducer : (machine.next state (.realTime locks)).ring.producer =
      (state.ringAfter (.realTime locks)).producer :=
    congrArg (fun after => after.ring.producer) (next_pushingCommand hphase locks)
  rw [next_pushingCommand hphase]
  simp only [answers, Machine.visit_before, Machine.visit_after, Machine.visit_action, hphase, hproducer]
  cases (state.ringAfter (.realTime locks)).producer with
  | idle => exact Or.inr ⟨rfl, rfl⟩
  | checking pushed head => exact Or.inl ⟨rfl, rfl⟩
  | copying pushed head fields => exact Or.inl ⟨rfl, rfl⟩

theorem answers_pushing {event : RuntimeLogEvent} (hphase : state.realTime = .pushing event)
    (locks : Bool) :
    (answers (machine.visit state (.realTime locks)) = none ∧
        (state.next (.realTime locks)).realTime = .pushing event) ∨
      (answers (machine.visit state (.realTime locks)) =
          some { event := event, isCommand := false, accepted := state.ring.producer.inSlot } ∧
        (state.next (.realTime locks)).realTime = .idle) := by
  have hproducer : (machine.next state (.realTime locks)).ring.producer =
      (state.ringAfter (.realTime locks)).producer :=
    congrArg (fun after => after.ring.producer) (next_pushing hphase locks)
  rw [next_pushing hphase]
  simp only [answers, Machine.visit_before, Machine.visit_after, Machine.visit_action, hphase, hproducer]
  cases (state.ringAfter (.realTime locks)).producer with
  | idle => exact Or.inr ⟨rfl, rfl⟩
  | checking pushed head => exact Or.inl ⟨rfl, rfl⟩
  | copying pushed head fields => exact Or.inl ⟨rfl, rfl⟩

/-! ### The commands -/

def commandStore (state : LoggerState) : List RuntimeLogEvent :=
  state.realTime.unflushed ++ state.pendingCommands

theorem answersCommand_of_answers_none {visit : LoggerVisit} (hanswers : answers visit = none) :
    answersCommand visit = none := by
  rw [answersCommand, hanswers]
  rfl

theorem answersEvent_of_answers_none {visit : LoggerVisit} (hanswers : answers visit = none) :
    answersEvent visit = none := by
  rw [answersEvent, hanswers]
  rfl

theorem commandStore_callRealTime (state : LoggerState) {phase : RtLogPhase}
    (hphase : phase.unflushed = []) : (state.callRealTime phase).commandStore = state.commandStore := by
  rcases callRealTime_cases state phase with hsame | ⟨hidle, -, hafter⟩
  · rw [hsame]
  · rw [hafter, commandStore, commandStore, hidle, hphase]
    rfl

theorem SameQueue.commandStore {after : LoggerState} (hsame : SameQueue state after) :
    after.commandStore = state.commandStore := by
  rw [LoggerState.commandStore, LoggerState.commandStore, hsame.realTime, hsame.pendingCommands]

/-- Outside of a push the real-time thread only moves the commands nearer to the ring. -/
theorem commandStore_stepRealTime (hphase : state.realTime.inPush = none) (locks : Bool) :
    (state.next (.realTime locks)).commandStore = state.commandStore := by
  change (state.stepRealTime locks (state.ringAfter (.realTime locks))).commandStore = _
  cases hrealTime : state.realTime with
  | idle => rw [stepRealTime, hrealTime]
  | locking =>
      rw [stepRealTime, hrealTime]
      dsimp only
      split_ifs <;> rw [commandStore, commandStore, hrealTime] <;> rfl
  | swapping =>
      rw [stepRealTime, hrealTime, commandStore, commandStore, hrealTime]
      exact List.append_nil _
  | unlocking localPending =>
      rw [stepRealTime, hrealTime, commandStore, commandStore, hrealTime]
      rfl
  | flushing localPending =>
      cases localPending <;>
        rw [stepRealTime, hrealTime, commandStore, commandStore, hrealTime] <;> rfl
  | entering event =>
      rw [stepRealTime, hrealTime, commandStore, commandStore, hrealTime]
      rfl
  | pushingCommand event rest => rw [hrealTime] at hphase; cases hphase
  | pushing event => rw [hrealTime] at hphase; cases hphase

theorem commands_balance_realTime (state : LoggerState) (locks : Bool) :
    Balances machine commandStore queues answersCommand state (.realTime locks) := by
  cases hpush : state.realTime.inPush with
  | none =>
      exact balances_of_still (commandStore_stepRealTime hpush locks) rfl
        (answersCommand_of_answers_none (answers_of_inPush_none hpush locks))
  | some event =>
      have hpending : (machine.next state (.realTime locks)).pendingCommands =
          state.pendingCommands := by
        change (state.stepRealTime locks (state.ringAfter (.realTime locks))).pendingCommands = _
        unfold stepRealTime
        split <;> first | rfl | (split_ifs <;> rfl) | skip
        all_goals
          rename_i hphase
          rw [hphase] at hpush
          cases hpush
      cases hphase : state.realTime with
      | pushingCommand pushed rest =>
          rcases answers_pushingCommand hphase locks with ⟨hanswers, hafter⟩ | ⟨hanswers, hafter⟩
          · refine balances_of_still ?_ rfl (answersCommand_of_answers_none hanswers)
            rw [commandStore, commandStore, hpending, hphase]
            exact congrArg (fun phase => RtLogPhase.unflushed phase ++ _) hafter
          · have hgoes : answersCommand (machine.visit state (.realTime locks)) = some pushed := by
              rw [answersCommand, hanswers]
              rfl
            have hunflushed : (machine.next state (.realTime locks)).realTime.unflushed = rest :=
              congrArg RtLogPhase.unflushed hafter
            rw [Balances, hgoes, commandStore, commandStore, hpending, hunflushed, hphase]
            exact List.append_nil _
      | pushing pushed =>
          rcases answers_pushing hphase locks with ⟨hanswers, hafter⟩ | ⟨hanswers, hafter⟩
          · refine balances_of_still ?_ rfl (answersCommand_of_answers_none hanswers)
            rw [commandStore, commandStore, hpending, hphase]
            exact congrArg (fun phase => RtLogPhase.unflushed phase ++ _) hafter
          · have hunflushed : (machine.next state (.realTime locks)).realTime.unflushed = [] :=
              congrArg RtLogPhase.unflushed hafter
            refine balances_of_still ?_ rfl ?_
            · rw [commandStore, commandStore, hpending, hunflushed, hphase]
              rfl
            · rw [answersCommand, hanswers]
              rfl
      | _ => rw [hphase] at hpush; cases hpush

theorem commands_balance (state : LoggerState) (action : LoggerAction) :
    Balances machine commandStore queues answersCommand state action := by
  cases action with
  | flushPendingToBuffer => exact balances_of_still (commandStore_callRealTime state rfl) rfl rfl
  | pushRtEvent event => exact balances_of_still (commandStore_callRealTime state rfl) rfl rfl
  | realTime locks => exact commands_balance_realTime state locks
  | queueCommand thread event =>
      refine balances_of_still ?_ rfl rfl
      change (state.queueCommand thread event).commandStore = state.commandStore
      rcases queueCommand_cases state thread event with hsame | ⟨-, hafter⟩
      · rw [hsame]
      · rw [hafter]
        rfl
  | queue thread =>
      have hnext : machine.next state (.queue thread) = state.stepQueuing thread := rfl
      cases hphase : state.queuing thread with
      | appending event =>
          have hcomes : queues (machine.visit state (.queue thread)) = some event := by
            simp only [queues, Machine.visit_action, Machine.visit_before, hphase]
          have hgoes : answersCommand (machine.visit state (.queue thread)) = none := rfl
          rw [Balances, hcomes, hgoes, hnext, stepQueuing, hphase]
          exact List.append_assoc _ _ _
      | locking event =>
          refine balances_of_still ?_ ?_ rfl
          · rw [hnext, stepQueuing, hphase]
            dsimp only
            split_ifs <;> rfl
          · simp only [queues, Machine.visit_action, Machine.visit_before, hphase]
      | idle =>
          refine balances_of_still ?_ ?_ rfl
          · rw [hnext, stepQueuing, hphase]
          · simp only [queues, Machine.visit_action, Machine.visit_before, hphase]
      | unlocking =>
          refine balances_of_still ?_ ?_ rfl
          · rw [hnext, stepQueuing, hphase]
            rfl
          · simp only [queues, Machine.visit_action, Machine.visit_before, hphase]
  | drain thread fetches =>
      exact balances_of_still (sameQueue_callDraining state thread _).commandStore rfl rfl
  | shutdown thread =>
      exact balances_of_still (sameQueue_callDraining state thread _).commandStore rfl rfl
  | log thread fetched =>
      exact balances_of_still (sameQueue_stepDraining state thread fetched).commandStore rfl rfl

/-! ### The events of the real-time thread -/

theorem unpushed_callRealTime (state : LoggerState) {phase : RtLogPhase}
    (hphase : phase.unpushed = []) :
    (state.callRealTime phase).realTime.unpushed = state.realTime.unpushed := by
  rcases callRealTime_cases state phase with hsame | ⟨hidle, -, hafter⟩
  · rw [hsame]
  · rw [hafter, hidle]
    exact hphase

theorem events_balance_pushRtEvent (state : LoggerState) (event : RuntimeLogEvent) :
    Balances machine (fun state => state.realTime.unpushed) enters answersEvent state
      (.pushRtEvent event) := by
  have hnext : machine.next state (.pushRtEvent event) = state.callRealTime (.entering event) := rfl
  cases hphase : state.realTime with
  | idle =>
      cases henabled : state.enabled with
      | true =>
          have hcomes : enters (machine.visit state (.pushRtEvent event)) = some event := by
            simp only [enters, Machine.visit_action, Machine.visit_before, hphase, henabled, if_true]
          have hgoes : answersEvent (machine.visit state (.pushRtEvent event)) = none := rfl
          rw [Balances, hcomes, hgoes, hnext, callRealTime, hphase]
          dsimp only
          rw [if_pos henabled]
          rfl
      | false =>
          refine balances_of_still ?_ ?_ rfl
          · rw [hnext, callRealTime, hphase]
            dsimp only
            rw [if_neg (by rw [henabled]; exact Bool.false_ne_true), hphase]
          · simp [enters, hphase, henabled]
  | _ =>
      refine balances_of_still ?_ ?_ rfl
      · rw [hnext, callRealTime, hphase]
        dsimp only
        rw [hphase]
      · simp only [enters, Machine.visit_action, Machine.visit_before, hphase]

theorem unpushed_stepRealTime (hphase : state.realTime.inPush = none) (locks : Bool) :
    (state.next (.realTime locks)).realTime.unpushed = state.realTime.unpushed := by
  change (state.stepRealTime locks (state.ringAfter (.realTime locks))).realTime.unpushed = _
  cases hrealTime : state.realTime with
  | locking =>
      rw [stepRealTime, hrealTime]
      dsimp only
      split_ifs <;> rfl
  | flushing localPending => cases localPending <;> rw [stepRealTime, hrealTime] <;> rfl
  | pushingCommand event rest => rw [hrealTime] at hphase; cases hphase
  | pushing event => rw [hrealTime] at hphase; cases hphase
  | idle =>
      rw [stepRealTime, hrealTime]
      exact congrArg RtLogPhase.unpushed hrealTime
  | _ =>
      rw [stepRealTime, hrealTime]
      rfl

theorem events_balance_realTime (state : LoggerState) (locks : Bool) :
    Balances machine (fun state => state.realTime.unpushed) enters answersEvent state
      (.realTime locks) := by
  cases hpush : state.realTime.inPush with
  | none =>
      exact balances_of_still (unpushed_stepRealTime hpush locks) rfl
        (answersEvent_of_answers_none (answers_of_inPush_none hpush locks))
  | some event =>
      cases hphase : state.realTime with
      | pushingCommand pushed rest =>
          rcases answers_pushingCommand hphase locks with ⟨hanswers, hafter⟩ | ⟨hanswers, hafter⟩
          · refine balances_of_still ?_ rfl (answersEvent_of_answers_none hanswers)
            rw [hphase]
            exact congrArg RtLogPhase.unpushed hafter
          · have hunpushed : (machine.next state (.realTime locks)).realTime.unpushed = [] :=
              congrArg RtLogPhase.unpushed hafter
            refine balances_of_still ?_ rfl ?_
            · rw [hunpushed, hphase]
              rfl
            · rw [answersEvent, hanswers]
              rfl
      | pushing pushed =>
          rcases answers_pushing hphase locks with ⟨hanswers, hafter⟩ | ⟨hanswers, hafter⟩
          · refine balances_of_still ?_ rfl (answersEvent_of_answers_none hanswers)
            rw [hphase]
            exact congrArg RtLogPhase.unpushed hafter
          · have hgoes : answersEvent (machine.visit state (.realTime locks)) = some pushed := by
              rw [answersEvent, hanswers]
              rfl
            have hunpushed : (machine.next state (.realTime locks)).realTime.unpushed = [] :=
              congrArg RtLogPhase.unpushed hafter
            rw [Balances, hgoes, hunpushed, hphase]
            rfl
      | _ => rw [hphase] at hpush; cases hpush

theorem events_balance (state : LoggerState) (action : LoggerAction) :
    Balances machine (fun state => state.realTime.unpushed) enters answersEvent state action := by
  have hsame : ∀ {after : LoggerState}, after.realTime = state.realTime →
      after.realTime.unpushed = state.realTime.unpushed := fun h => congrArg RtLogPhase.unpushed h
  cases action with
  | flushPendingToBuffer => exact balances_of_still (unpushed_callRealTime state rfl) rfl rfl
  | pushRtEvent event => exact events_balance_pushRtEvent state event
  | realTime locks => exact events_balance_realTime state locks
  | queueCommand thread event =>
      refine balances_of_still (hsame ?_) rfl rfl
      change (state.queueCommand thread event).realTime = state.realTime
      rcases queueCommand_cases state thread event with hsame | ⟨-, hafter⟩
      · rw [hsame]
      · rw [hafter]
        rfl
  | queue thread => exact balances_of_still (hsame (stepQueuing_frame state thread).1) rfl rfl
  | drain thread fetches =>
      exact balances_of_still (hsame (sameQueue_callDraining state thread _).realTime) rfl rfl
  | shutdown thread =>
      exact balances_of_still (hsame (sameQueue_callDraining state thread _).realTime) rfl rfl
  | log thread fetched =>
      exact balances_of_still (hsame (sameQueue_stepDraining state thread fetched).realTime) rfl rfl

end LoggerState

end IghMaster
