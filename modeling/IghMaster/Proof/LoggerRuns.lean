import IghMaster.Proof.LoggerFlows

/-!
# What goes through the logger

The ring goes through a run of its own, whose pushes and pops are those that the threads see return. What
a drain took out of the ring it writes. So nothing is lost on the way but what a full ring refuses.
-/

namespace IghMaster

open Transition Mutex LoggerVisit

namespace LoggerState

variable {state : LoggerState} {thread : Nat}

/-! ### The run of the ring -/

theorem ringAfter_of_none {action : LoggerAction} (hstill : state.ringMove action = none) :
    state.ringAfter action = state.ring := by rw [ringAfter, hstill]

theorem ring_next (state : LoggerState) (action : LoggerAction) :
    (state.next action).ring = state.ringAfter action := by
  cases action with
  | flushPendingToBuffer =>
      change (state.callRealTime .locking).ring = state.ring
      rcases callRealTime_cases state .locking with hsame | ⟨-, -, hafter⟩
      · rw [hsame]
      · rw [hafter]
  | pushRtEvent event =>
      change (state.callRealTime (.entering event)).ring = state.ring
      rcases callRealTime_cases state (.entering event) with hsame | ⟨-, -, hafter⟩
      · rw [hsame]
      · rw [hafter]
  | realTime locks =>
      change (state.stepRealTime locks (state.ringAfter (.realTime locks))).ring = _
      cases hphase : state.realTime with
      | locking =>
          rw [ringAfter_of_none (by rw [ringMove, hphase]; rfl), stepRealTime, hphase]
          dsimp only
          split_ifs <;> rfl
      | flushing localPending =>
          cases localPending with
          | nil => rw [ringAfter_of_none (by rw [ringMove, hphase]; rfl), stepRealTime, hphase]
          | cons event rest => rw [stepRealTime, hphase]
      | pushingCommand event rest => rw [stepRealTime, hphase]
      | entering event => rw [stepRealTime, hphase]
      | pushing event => rw [stepRealTime, hphase]
      | _ => rw [ringAfter_of_none (by rw [ringMove, hphase]; rfl), stepRealTime, hphase]
  | queueCommand thread event =>
      change (state.queueCommand thread event).ring = state.ring
      rcases queueCommand_cases state thread event with hsame | ⟨-, hafter⟩
      · rw [hsame]
      · rw [hafter]
        rfl
  | queue thread => exact (stepQueuing_frame state thread).2
  | drain thread fetches =>
      change (state.callDraining thread _).ring = state.ring
      rcases callDraining_cases state thread _ with hsame | ⟨-, hafter⟩
      · rw [hsame]
      · rw [hafter]
        rfl
  | shutdown thread =>
      change (state.callDraining thread _).ring = state.ring
      rcases callDraining_cases state thread _ with hsame | ⟨-, hafter⟩
      · rw [hsame]
      · rw [hafter]
        rfl
  | log thread fetched =>
      change (state.stepDraining thread fetched (state.ringAfter (.log thread fetched))).ring = _
      cases hphase : state.draining thread with
      | looping event call =>
          rw [stepDraining, hphase]
          rfl
      | popping call =>
          rw [stepDraining, hphase]
          rfl
      | idle => rw [ringAfter_of_none (by rw [ringMove, hphase]; rfl), stepDraining, hphase]
      | locking call =>
          rw [ringAfter_of_none (by rw [ringMove, hphase]; rfl), stepDraining, hphase]
          dsimp only
          split_ifs <;> rfl
      | lockingToClose =>
          rw [ringAfter_of_none (by rw [ringMove, hphase]; rfl), stepDraining, hphase]
          dsimp only
          split_ifs <;> rfl
      | _ =>
          rw [ringAfter_of_none (by rw [ringMove, hphase]; rfl), stepDraining, hphase]
          rfl

theorem drives_ring : Drives machine RuntimeLogger.machine LoggerState.ring ringMove where
  moved {state action move} hmove := by
    have hafter : state.ringAfter action = RuntimeLogger.machine.next state.ring move := by
      rw [ringAfter, hmove]
    exact (ring_next state action).trans hafter
  still {state action} hstill := (ring_next state action).trans (ringAfter_of_none hstill)

/-- What the ring goes through with an action. -/
abbrev ringVisit (state : LoggerState) (action : LoggerAction) :
    Option (RingVisit RuntimeLogField RuntimeLogField.Value) :=
  Visit.ofPart LoggerState.ring ringMove (machine.visit state action)

theorem ringMove_of_inPush {event : RuntimeLogEvent} (hpush : state.realTime.inPush = some event)
    (locks : Bool) : state.ringMove (.realTime locks) = some .produce := by
  rw [ringMove]
  cases hphase : state.realTime with
  | pushingCommand pushed rest => rfl
  | pushing pushed => rfl
  | _ => rw [hphase] at hpush; cases hpush

/-- Whether a push returns depends on the ring alone. -/
theorem answers_of_inPush {event : RuntimeLogEvent} (hpush : state.realTime.inPush = some event)
    (locks : Bool) :
    ((state.ring.produce RuntimeLogger.kRingCapacity RuntimeLogField.all).producer.isIdle = true →
        ∃ isCommand, answers (machine.visit state (.realTime locks)) =
          some { event := event, isCommand := isCommand, accepted := state.ring.producer.inSlot }) ∧
      ((state.ring.produce RuntimeLogger.kRingCapacity RuntimeLogField.all).producer.isIdle = false →
        answers (machine.visit state (.realTime locks)) = none) := by
  have hring : (machine.next state (.realTime locks)).ring =
      state.ring.produce RuntimeLogger.kRingCapacity RuntimeLogField.all :=
    drives_ring.moved (ringMove_of_inPush hpush locks)
  cases hphase : state.realTime with
  | pushingCommand pushed rest =>
      rw [hphase] at hpush
      cases hpush
      simp only [answers, Machine.visit_before, Machine.visit_after, Machine.visit_action, hphase, hring]
      cases (state.ring.produce RuntimeLogger.kRingCapacity RuntimeLogField.all).producer with
      | idle => exact ⟨fun _ => ⟨true, rfl⟩, fun hbusy => absurd hbusy.symm Bool.false_ne_true⟩
      | checking pushed head => exact ⟨fun hidle => absurd hidle Bool.false_ne_true, fun _ => rfl⟩
      | copying pushed head fields => exact ⟨fun hidle => absurd hidle Bool.false_ne_true, fun _ => rfl⟩
  | pushing pushed =>
      rw [hphase] at hpush
      cases hpush
      simp only [answers, Machine.visit_before, Machine.visit_after, Machine.visit_action, hphase, hring]
      cases (state.ring.produce RuntimeLogger.kRingCapacity RuntimeLogField.all).producer with
      | idle => exact ⟨fun _ => ⟨false, rfl⟩, fun hbusy => absurd hbusy.symm Bool.false_ne_true⟩
      | checking pushed head => exact ⟨fun hidle => absurd hidle Bool.false_ne_true, fun _ => rfl⟩
      | copying pushed head fields => exact ⟨fun hidle => absurd hidle Bool.false_ne_true, fun _ => rfl⟩
  | _ => rw [hphase] at hpush; cases hpush

theorem ringVisit_of_move {action : LoggerAction}
    {move : RingAction RuntimeLogField RuntimeLogField.Value}
    (hmove : state.ringMove action = some move) :
    ringVisit state action =
      some { before := state.ring, action := move, after := (state.next action).ring } := by
  rw [ringVisit, Visit.ofPart, Machine.visit_before, Machine.visit_action, hmove]
  rfl

/-- A push that returns is accepted by the ring or refused. -/
theorem ring_of_inPush (hsound : Sound state) {event : RuntimeLogEvent}
    (hpush : state.realTime.inPush = some event) (locks : Bool) :
    LoggerVisit.accepts (machine.visit state (.realTime locks)) =
        (ringVisit state (.realTime locks)).bind RingState.accepts ∧
      ∀ answer, answers (machine.visit state (.realTime locks)) = some answer →
        answer.accepted = false →
          (ringVisit state (.realTime locks)).any (RingState.refuses RuntimeLogger.kRingCapacity) =
            true := by
  obtain ⟨hreturns, hgoes⟩ := answers_of_inPush hpush locks
  rw [ringVisit_of_move (ringMove_of_inPush hpush locks), Option.bind_some, Option.any_some]
  have hproducer := hsound.ring.producer
  rw [hpush] at hproducer
  cases hphase : state.ring.producer with
  | idle => rw [hphase] at hproducer; cases hproducer
  | checking pushed head =>
      have haccepts : RingState.accepts (Visit.mk state.ring
          (RingAction.produce : RingAction RuntimeLogField RuntimeLogField.Value)
          (state.next (.realTime locks)).ring) = none := by
        simp only [RingState.accepts, hphase]
      rw [haccepts]
      by_cases hfull : (head + 1) % RuntimeLogger.kRingCapacity = state.ring.ringTail
      · have hidle : (state.ring.produce RuntimeLogger.kRingCapacity
            RuntimeLogField.all).producer.isIdle = true := by
          simp only [RingState.produce, hphase, if_pos hfull, RingPhase.isIdle]
        obtain ⟨isCommand, hanswers⟩ := hreturns hidle
        rw [LoggerVisit.accepts, hanswers, hphase]
        refine ⟨rfl, fun answer _ _ => ?_⟩
        simp only [RingState.refuses, hphase]
        exact decide_eq_true hfull
      · have hbusy : (state.ring.produce RuntimeLogger.kRingCapacity
            RuntimeLogField.all).producer.isIdle = false := by
          simp only [RingState.produce, hphase, if_neg hfull, RingPhase.isIdle]
        rw [LoggerVisit.accepts, hgoes hbusy]
        exact ⟨rfl, fun answer hanswer => by cases hanswer⟩
  | copying pushed head rest =>
      rw [hphase] at hproducer
      cases hproducer
      cases rest with
      | cons field rest =>
          have haccepts : RingState.accepts (Visit.mk state.ring
              (RingAction.produce : RingAction RuntimeLogField RuntimeLogField.Value)
              (state.next (.realTime locks)).ring) = none := by
            simp only [RingState.accepts, hphase]
          have hbusy : (state.ring.produce RuntimeLogger.kRingCapacity
              RuntimeLogField.all).producer.isIdle = false := by
            simp only [RingState.produce, hphase, RingPhase.isIdle]
          rw [haccepts, LoggerVisit.accepts, hgoes hbusy]
          exact ⟨rfl, fun answer hanswer => by cases hanswer⟩
      | nil =>
          have haccepts : RingState.accepts (Visit.mk state.ring
              (RingAction.produce : RingAction RuntimeLogField RuntimeLogField.Value)
              (state.next (.realTime locks)).ring) = some event := by
            simp only [RingState.accepts, hphase]
          have hidle : (state.ring.produce RuntimeLogger.kRingCapacity
              RuntimeLogField.all).producer.isIdle = true := by
            simp only [RingState.produce, hphase, RingPhase.isIdle]
          obtain ⟨isCommand, hanswers⟩ := hreturns hidle
          rw [haccepts, LoggerVisit.accepts, hanswers, hphase]
          refine ⟨rfl, fun answer hanswer hrefused => ?_⟩
          cases hanswer
          cases hrefused

theorem accepts_visit (hsound : Sound state) (action : LoggerAction) :
    LoggerVisit.accepts (machine.visit state action) =
      (ringVisit state action).bind RingState.accepts := by
  cases action with
  | realTime locks =>
      cases hpush : state.realTime.inPush with
      | some event => exact (ring_of_inPush hsound hpush locks).1
      | none =>
          have haccepts : LoggerVisit.accepts (machine.visit state (.realTime locks)) = none := by
            rw [LoggerVisit.accepts, answers_of_inPush_none hpush locks]
            rfl
          rw [haccepts]
          cases hmove : state.ringMove (.realTime locks) with
          | none =>
              rw [ringVisit, Visit.ofPart, Machine.visit_before, Machine.visit_action, hmove]
              rfl
          | some move =>
              rw [ringVisit_of_move hmove, Option.bind_some]
              rw [ringMove] at hmove
              cases hphase : state.realTime with
              | flushing localPending =>
                  rw [hphase] at hmove
                  cases localPending <;> cases hmove
                  rfl
              | entering event =>
                  rw [hphase] at hmove
                  cases hmove
                  rfl
              | pushingCommand event rest => rw [hphase] at hpush; cases hpush
              | pushing event => rw [hphase] at hpush; cases hpush
              | _ => rw [hphase] at hmove; cases hmove
  | log thread fetched =>
      have haccepts : LoggerVisit.accepts (machine.visit state (.log thread fetched)) = none := rfl
      rw [haccepts]
      cases hmove : state.ringMove (.log thread fetched) with
      | none =>
          rw [ringVisit, Visit.ofPart, Machine.visit_before, Machine.visit_action, hmove]
          rfl
      | some move =>
          rw [ringVisit_of_move hmove, Option.bind_some]
          rw [ringMove] at hmove
          cases hphase : state.draining thread with
          | looping event call =>
              rw [hphase] at hmove
              cases hmove
              rfl
          | popping call =>
              rw [hphase] at hmove
              cases hmove
              rfl
          | _ => rw [hphase] at hmove; cases hmove
  | _ => rfl

/-! ### The pops -/

theorem draining_popping {call : DrainCall} (hphase : state.draining thread = .popping call)
    (fetched : UInt16) :
    (state.next (.log thread fetched)).draining thread =
      afterPop call state.ring.consumer
        (state.ring.consume RuntimeLogger.kRingCapacity RuntimeLogField.all).consumer := by
  have hring : state.ringAfter (.log thread fetched) =
      state.ring.consume RuntimeLogger.kRingCapacity RuntimeLogField.all := by
    rw [ringAfter, ringMove, hphase]
    rfl
  change (state.stepDraining thread fetched (state.ringAfter (.log thread fetched))).draining thread = _
  rw [hring, stepDraining, hphase]
  exact Function.update_self ..

theorem ring_of_inPop {call : DrainCall} (hphase : state.draining thread = .popping call)
    (fetched : UInt16) :
    takes (machine.visit state (.log thread fetched)) =
      (ringVisit state (.log thread fetched)).bind RingState.pops := by
  have hmove : state.ringMove (.log thread fetched) = some .consume := by
    rw [ringMove, hphase]
    rfl
  have hafter : (machine.next state (.log thread fetched)).draining thread = _ :=
    draining_popping hphase fetched
  rw [ringVisit_of_move hmove, Option.bind_some]
  simp only [takes, Machine.visit_action, Machine.visit_before, Machine.visit_after, hphase, hafter]
  cases hconsumer : state.ring.consumer with
  | idle => simp only [RingState.consume, RingState.pops, hconsumer, afterPop]
  | checking lent tail =>
      simp only [RingState.consume, RingState.pops, hconsumer]
      by_cases hempty : tail = state.ring.ringHead
      · rw [if_pos hempty]
        rfl
      · rw [if_neg hempty]
        rfl
  | copying event tail rest =>
      cases rest with
      | nil => simp only [RingState.consume, RingState.pops, hconsumer, afterPop]
      | cons field rest => simp only [RingState.consume, RingState.pops, hconsumer, afterPop]

theorem takes_visit (state : LoggerState) (action : LoggerAction) :
    takes (machine.visit state action) = (ringVisit state action).bind RingState.pops := by
  cases action with
  | realTime locks =>
      have htakes : takes (machine.visit state (.realTime locks)) = none := rfl
      rw [htakes]
      cases hmove : state.ringMove (.realTime locks) with
      | none =>
          rw [ringVisit, Visit.ofPart, Machine.visit_before, Machine.visit_action, hmove]
          rfl
      | some move =>
          rw [ringVisit_of_move hmove, Option.bind_some]
          rw [ringMove] at hmove
          cases hphase : state.realTime with
          | flushing localPending =>
              rw [hphase] at hmove
              cases localPending <;> cases hmove
              rfl
          | entering event =>
              rw [hphase] at hmove
              cases hmove
              rfl
          | pushingCommand event rest =>
              rw [hphase] at hmove
              cases hmove
              rfl
          | pushing event =>
              rw [hphase] at hmove
              cases hmove
              rfl
          | _ => rw [hphase] at hmove; cases hmove
  | log thread fetched =>
      cases hphase : state.draining thread with
      | popping call => exact ring_of_inPop hphase fetched
      | looping event call =>
          have hmove : state.ringMove (.log thread fetched) = some (.tryPopFromRing event) := by
            rw [ringMove, hphase]
            rfl
          rw [ringVisit_of_move hmove, Option.bind_some]
          simp only [takes, Machine.visit_action, Machine.visit_before, hphase]
          rfl
      | _ =>
          have hmove : state.ringMove (.log thread fetched) = none := by
            rw [ringMove, hphase]
            rfl
          rw [ringVisit, Visit.ofPart, Machine.visit_before, Machine.visit_action, hmove]
          simp only [takes, Machine.visit_action, Machine.visit_before, hphase]
          rfl
  | _ => rfl

/-- A drain that returns has loaded a tail that is at the head. -/
theorem consumer_of_findsEmpty (hsound : Sound state) {action : LoggerAction}
    (hempty : findsEmpty (machine.visit state action) = true) :
    ∃ event, state.ring.consumer = .checking event state.ring.ringHead := by
  cases action with
  | log thread fetched =>
      cases hphase : state.draining thread with
      | popping call =>
          have hbusy : state.ring.consumer.isIdle = false :=
            hsound.ring.consumer.mpr ⟨thread, by rw [hphase]; rfl⟩
          have hafter : (machine.next state (.log thread fetched)).draining thread = _ :=
            draining_popping hphase fetched
          simp only [findsEmpty, Machine.visit_action, Machine.visit_before, Machine.visit_after,
            hphase, hafter] at hempty
          cases hconsumer : state.ring.consumer with
          | idle =>
              rw [hconsumer] at hbusy
              exact absurd hbusy.symm Bool.false_ne_true
          | checking event tail =>
              simp only [RingState.consume, hconsumer] at hempty
              by_cases hsame : tail = state.ring.ringHead
              · rw [hsame]
                exact ⟨event, rfl⟩
              · rw [if_neg hsame] at hempty
                exact absurd hempty Bool.false_ne_true
          | copying event tail rest =>
              cases rest <;> simp only [RingState.consume, hconsumer, afterPop] at hempty <;>
                exact absurd hempty Bool.false_ne_true
      | _ =>
          simp only [findsEmpty, Machine.visit_action, Machine.visit_before, hphase] at hempty
          exact absurd hempty Bool.false_ne_true
  | _ => exact absurd hempty Bool.false_ne_true

/-! ### The file -/

/-- The event that a drain writes with this visit, before it may get a code. -/
def writes (visit : LoggerVisit) : Option RuntimeLogEvent :=
  match visit.action with
  | .log thread _ =>
      match visit.before.draining thread with
      | .writing event _ => some event
      | _ => none
  | _ => none

theorem inHand_eq (hholder : state.fileMutex = some thread) :
    state.inHand = (state.draining thread).inHand := by
  rw [inHand, hholder]

theorem FileSound.fileMutex (hfile : FileSound state)
    (hholds : (state.draining thread).holdsFile = true) : state.fileMutex = some thread :=
  (hfile.owned thread).mp hholds

theorem SameFile.inHand {after : LoggerState} (hsame : SameFile state after) :
    after.inHand = state.inHand := by
  rw [LoggerState.inHand, LoggerState.inHand, hsame.fileMutex, hsame.draining]

/-- A thread that has nothing in its hand before and after changes nothing in the hand of the holder. -/
theorem inHand_setDraining (state : LoggerState) {base : LoggerState} {phase : DrainPhase}
    (hdraining : base.draining = state.draining) (hmutex : base.fileMutex = state.fileMutex)
    (hphase : phase.inHand = (state.draining thread).inHand) :
    (base.setDraining thread phase).inHand = state.inHand := by
  have hhand : ∀ other, ((base.setDraining thread phase).draining other).inHand =
      (state.draining other).inHand := by
    intro other
    rw [draining_setDraining, hdraining]
    by_cases hother : other = thread
    · rw [hother, Function.update_self, hphase]
    · rw [Function.update_of_ne hother]
  have hsame : (base.setDraining thread phase).fileMutex = state.fileMutex := hmutex
  rw [inHand, inHand, hsame]
  cases state.fileMutex with
  | none => rfl
  | some holder => exact hhand holder

theorem inHand_callDraining (state : LoggerState) (thread : Nat) {phase : DrainPhase}
    (hphase : phase.inHand = []) : (state.callDraining thread phase).inHand = state.inHand := by
  rcases callDraining_cases state thread phase with hsame | ⟨hidle, hafter⟩
  · rw [hsame]
  · rw [hafter]
    refine inHand_setDraining state rfl rfl ?_
    rw [hphase, hidle]
    rfl

theorem next_log (state : LoggerState) (thread : Nat) (fetched : UInt16) :
    machine.next state (.log thread fetched) =
      state.stepDraining thread fetched (state.ringAfter (.log thread fetched)) := rfl

theorem written_balance_popping (hfile : FileSound state) {call : DrainCall}
    (hphase : state.draining thread = .popping call) (fetched : UInt16) :
    Balances machine inHand takes writes state (.log thread fetched) := by
  have hholds : (state.draining thread).holdsFile = true := by
    rw [hphase]
    rfl
  have hbefore : state.inHand = [] := by
    rw [inHand_eq (hfile.fileMutex hholds), hphase]
    rfl
  have hafter : (machine.next state (.log thread fetched)).draining thread = _ :=
    draining_popping hphase fetched
  have hmutex : (machine.next state (.log thread fetched)).fileMutex = some thread := by
    rw [next_log, stepDraining, hphase]
    exact hfile.fileMutex hholds
  have hwrites : writes (machine.visit state (.log thread fetched)) = none := by
    simp only [writes, Machine.visit_action, Machine.visit_before, hphase]
  have htakes : (takes (machine.visit state (.log thread fetched))).toList =
      ((machine.next state (.log thread fetched)).draining thread).inHand := by
    simp only [takes, Machine.visit_action, Machine.visit_before, Machine.visit_after, hphase]
    cases (machine.next state (.log thread fetched)).draining thread <;> rfl
  rw [Balances, hwrites, hbefore, htakes, inHand_eq hmutex]
  rfl

theorem written_balance_log (hfile : FileSound state) (thread : Nat) (fetched : UInt16) :
    Balances machine inHand takes writes state (.log thread fetched) := by
  have hholder : (state.draining thread).holdsFile = true →
      state.inHand = (state.draining thread).inHand :=
    fun hholds => inHand_eq (hfile.fileMutex hholds)
  have hnone : ∀ {other : LoggerState}, other.fileMutex = none → other.inHand = [] := by
    intro other hmutex
    rw [inHand, hmutex]
  have hacquired : ∀ phase : DrainPhase, phase.inHand = [] → state.fileMutex.isNone = true →
      ({ state with fileMutex := some thread }.setDraining thread phase).inHand = state.inHand := by
    intro phase hphase hfree
    rw [hnone (Option.isNone_iff_eq_none.mp hfree), ← hphase]
    change ((Function.update state.draining thread phase) thread).inHand = phase.inHand
    rw [Function.update_self]
  cases hphase : state.draining thread with
  | popping call => exact written_balance_popping hfile hphase fetched
  | writing event call =>
      rw [hphase] at hholder
      have hwrites : writes (machine.visit state (.log thread fetched)) = some event := by
        simp only [writes, Machine.visit_action, Machine.visit_before, hphase]
      have htakes : takes (machine.visit state (.log thread fetched)) = none := by
        simp only [takes, Machine.visit_action, Machine.visit_before, hphase]
      have hmutex : (machine.next state (.log thread fetched)).fileMutex = some thread := by
        rw [next_log, stepDraining, hphase]
        exact hfile.fileMutex (by rw [hphase]; rfl)
      have hafter : (machine.next state (.log thread fetched)).draining thread =
          .looping (event.fetchErrorCode call.fetches fetched) call := by
        rw [next_log, stepDraining, hphase]
        exact Function.update_self ..
      rw [Balances, hwrites, htakes, hholder rfl, inHand_eq hmutex, hafter]
      rfl
  | idle =>
      refine balances_of_still ?_ ?_ ?_
      · rw [next_log, stepDraining, hphase]
      · simp only [takes, Machine.visit_action, Machine.visit_before, hphase]
      · simp only [writes, Machine.visit_action, Machine.visit_before, hphase]
  | _ =>
      rw [hphase] at hholder
      refine balances_of_still ?_ ?_ ?_
      · rw [next_log, stepDraining, hphase]
        dsimp only
        first
          | (split_ifs with hfree
             · exact hacquired _ rfl hfree
             · rfl)
          | (refine inHand_setDraining state rfl rfl ?_
             rw [hphase]
             first | rfl | (split_ifs <;> rfl))
          | exact (hnone rfl).trans (hholder rfl).symm
      · simp only [takes, Machine.visit_action, Machine.visit_before, hphase]
      · simp only [writes, Machine.visit_action, Machine.visit_before, hphase]

theorem written_balance (hfile : FileSound state) (action : LoggerAction) :
    Balances machine inHand takes writes state action := by
  cases action with
  | flushPendingToBuffer => exact balances_of_still (sameFile_callRealTime state _).inHand rfl rfl
  | pushRtEvent event => exact balances_of_still (sameFile_callRealTime state _).inHand rfl rfl
  | realTime locks => exact balances_of_still (sameFile_stepRealTime state locks).inHand rfl rfl
  | queueCommand thread event =>
      exact balances_of_still (sameFile_queueCommand state thread event).inHand rfl rfl
  | queue thread => exact balances_of_still (sameFile_stepQueuing state thread).inHand rfl rfl
  | drain thread fetches => exact balances_of_still (inHand_callDraining state thread rfl) rfl rfl
  | shutdown thread => exact balances_of_still (inHand_callDraining state thread rfl) rfl rfl
  | log thread fetched => exact written_balance_log hfile thread fetched

theorem isLineOf_fetchErrorCode (event : RuntimeLogEvent) (fetches : Bool) (fetched : UInt16) :
    event.IsLineOf (event.fetchErrorCode fetches fetched) := by
  unfold RuntimeLogEvent.fetchErrorCode
  split_ifs with hfault
  · exact Or.inr ⟨hfault.1, hfault.2.1, fetched, rfl⟩
  · exact Or.inl rfl

/-- A step writes one line or none. -/
theorem logFile_next (state : LoggerState) (action : LoggerAction) :
    (writes (machine.visit state action) = none ∧ (machine.next state action).logFile = state.logFile) ∨
      ∃ event line, writes (machine.visit state action) = some event ∧ event.IsLineOf line ∧
        (machine.next state action).logFile = state.logFile ++ [line] := by
  cases action with
  | flushPendingToBuffer => exact Or.inl ⟨rfl, (sameFile_callRealTime state _).logFile⟩
  | pushRtEvent event => exact Or.inl ⟨rfl, (sameFile_callRealTime state _).logFile⟩
  | realTime locks => exact Or.inl ⟨rfl, (sameFile_stepRealTime state locks).logFile⟩
  | queueCommand thread event => exact Or.inl ⟨rfl, (sameFile_queueCommand state thread event).logFile⟩
  | queue thread => exact Or.inl ⟨rfl, (sameFile_stepQueuing state thread).logFile⟩
  | drain thread fetches =>
      refine Or.inl ⟨rfl, ?_⟩
      change (state.callDraining thread _).logFile = state.logFile
      rcases callDraining_cases state thread _ with hsame | ⟨-, hafter⟩
      · rw [hsame]
      · rw [hafter]
        rfl
  | shutdown thread =>
      refine Or.inl ⟨rfl, ?_⟩
      change (state.callDraining thread _).logFile = state.logFile
      rcases callDraining_cases state thread _ with hsame | ⟨-, hafter⟩
      · rw [hsame]
      · rw [hafter]
        rfl
  | log thread fetched =>
      simp only [writes, Machine.visit_action, Machine.visit_before]
      rw [next_log]
      cases hphase : state.draining thread with
      | writing event call =>
          refine Or.inr ⟨event, event.fetchErrorCode call.fetches fetched, rfl,
            isLineOf_fetchErrorCode event call.fetches fetched, ?_⟩
          rw [stepDraining, hphase]
          rfl
      | locking call =>
          refine Or.inl ⟨rfl, ?_⟩
          rw [stepDraining, hphase]
          dsimp only
          split_ifs <;> rfl
      | lockingToClose =>
          refine Or.inl ⟨rfl, ?_⟩
          rw [stepDraining, hphase]
          dsimp only
          split_ifs <;> rfl
      | idle =>
          refine Or.inl ⟨rfl, ?_⟩
          rw [stepDraining, hphase]
      | _ =>
          refine Or.inl ⟨rfl, ?_⟩
          rw [stepDraining, hphase]
          rfl

def Written (config : LoggerConfig) : Prop :=
  List.Forall₂ RuntimeLogEvent.IsLineOf (flow writes config.history) config.state.logFile

theorem written_advance {config : LoggerConfig} (hwritten : Written config) (action : LoggerAction) :
    Written (machine.advance config action) := by
  rw [Written, Machine.advance_history, Machine.advance_state, flow_cons]
  rcases logFile_next config.state action with ⟨hwrites, hsame⟩ | ⟨event, line, hwrites, hline, hafter⟩
  · rw [hwrites, hsame, Option.toList_none, List.append_nil]
    exact hwritten
  · rw [hwrites, hafter, Option.toList_some]
    exact List.rel_append hwritten (.cons hline .nil)

/-! ### The run -/

abbrev ringConfig (config : LoggerConfig) : RingConfig RuntimeLogField RuntimeLogField.Value :=
  config.ofPart LoggerState.ring ringMove

/-- The ring has gone through what the logger sees of it. -/
structure Faithful (config : LoggerConfig) : Prop where
  sound : Sound config.state
  ring : RingState.Conserved RuntimeLogger.kRingCapacity (ringConfig config)
  accepted : flow LoggerVisit.accepts config.history =
    RingState.acceptedEvents (ringConfig config).history
  taken : flow takes config.history = RingState.poppedEvents (ringConfig config).history

theorem history_ringConfig_advance (config : LoggerConfig) (action : LoggerAction) :
    (ringConfig (machine.advance config action)).history =
      (ringVisit config.state action).toList ++ (ringConfig config).history := by
  change (machine.advance config action).history.filterMap (Visit.ofPart LoggerState.ring ringMove) = _
  rw [Machine.advance_history]
  cases hvisit : ringVisit config.state action with
  | none =>
      have hnone : Visit.ofPart LoggerState.ring ringMove (machine.visit config.state action) = none :=
        hvisit
      rw [List.filterMap_cons_none hnone]
      rfl
  | some visit =>
      have hsome : Visit.ofPart LoggerState.ring ringMove (machine.visit config.state action) =
          some visit := hvisit
      rw [List.filterMap_cons_some hsome]
      rfl

theorem Faithful.advance {config : LoggerConfig} (hfaithful : Faithful config) (action : LoggerAction) :
    Faithful (machine.advance config action) := by
  refine ⟨sound_next hfaithful.sound action, ?_, ?_, ?_⟩
  · exact drives_ring.invariant_advance
      (fun ring move hring => hring.advance RuntimeLogger.mem_all move) hfaithful.ring action
  · rw [Machine.advance_history, flow_cons, accepts_visit hfaithful.sound action,
      history_ringConfig_advance, hfaithful.accepted]
    cases ringVisit config.state action with
    | none => exact List.append_nil _
    | some visit => exact (RingState.acceptedEvents_cons visit _).symm
  · rw [Machine.advance_history, flow_cons, takes_visit, history_ringConfig_advance,
      hfaithful.taken]
    cases ringVisit config.state action with
    | none => exact List.append_nil _
    | some visit => exact (RingState.poppedEvents_cons visit _).symm

theorem Faithful.length_of_refused {config : LoggerConfig} (hfaithful : Faithful config)
    {action : LoggerAction} {answer : Answer}
    (hanswers : answers (machine.visit config.state action) = some answer)
    (hrefused : answer.accepted = false) :
    (flow LoggerVisit.accepts config.history).length =
      (flow takes config.history).length + (RuntimeLogger.kRingCapacity - 1) := by
  cases action with
  | realTime locks =>
      cases hpush : config.state.realTime.inPush with
      | none =>
          rw [answers_of_inPush_none hpush locks] at hanswers
          cases hanswers
      | some event =>
          have hring : (config.state.next (.realTime locks)).ring =
              RuntimeLogger.machine.next config.state.ring .produce :=
            drives_ring.moved (ringMove_of_inPush hpush locks)
          have hrefuses := (ring_of_inPush hfaithful.sound hpush locks).2 answer hanswers hrefused
          rw [ringVisit_of_move (ringMove_of_inPush hpush locks), Option.any_some, hring] at hrefuses
          rw [hfaithful.accepted, hfaithful.taken]
          exact hfaithful.ring.length_of_refuses hrefuses
  | _ => cases hanswers

theorem Faithful.drained {config : LoggerConfig} (hfaithful : Faithful config) {action : LoggerAction}
    (hempty : findsEmpty (machine.visit config.state action) = true) :
    flow takes config.history = flow LoggerVisit.accepts config.history := by
  obtain ⟨event, hchecking⟩ := consumer_of_findsEmpty hfaithful.sound hempty
  obtain ⟨queue, hqueue, hevents⟩ := hfaithful.ring
  have hloaded : (ringConfig config).state.consumer = .checking event config.state.ring.ringHead :=
    hchecking
  have hconsumer := hqueue.consumer
  rw [hloaded] at hconsumer
  have htail : config.state.ring.ringTail = config.state.ring.ringHead := hconsumer.symm
  have hnone : queue = [] := hqueue.holds.empty_iff.mp htail
  rw [hfaithful.accepted, hfaithful.taken, hevents, hnone, List.append_nil]

structure Kept (config : LoggerConfig) : Prop where
  faithful : Faithful config
  written : Written config
  refused : ∀ after visit earlier, config.history = after ++ visit :: earlier →
    ∀ answer, answers visit = some answer → answer.accepted = false →
      (flow LoggerVisit.accepts earlier).length =
        (flow takes earlier).length + (RuntimeLogger.kRingCapacity - 1)
  drained : ∀ after visit earlier, config.history = after ++ visit :: earlier →
    findsEmpty visit = true → flow takes earlier = flow LoggerVisit.accepts earlier

theorem Kept.advance {config : LoggerConfig} (hkept : Kept config) (action : LoggerAction) :
    Kept (machine.advance config action) where
  faithful := hkept.faithful.advance action
  written := written_advance hkept.written action
  refused := forall_past_cons
    (fun _ hanswers hrefused => hkept.faithful.length_of_refused hanswers hrefused) hkept.refused
  drained := forall_past_cons hkept.faithful.drained hkept.drained

theorem kept_initialized (ringBuffer : Nat → RuntimeLogEvent) (leftover : List RuntimeLogEvent) :
    Kept (.start (initialized ringBuffer leftover)) := by
  have hnil : ∀ (after : List LoggerVisit) visit earlier, [] ≠ after ++ visit :: earlier :=
    fun after visit earlier hsplit => by simp at hsplit
  have hring := (RingState.conserved_exec (by decide : 0 < RuntimeLogger.kRingCapacity)
    RuntimeLogger.mem_all ringBuffer []).1
  exact ⟨⟨sound_initialized ringBuffer leftover, hring, rfl, rfl⟩, .nil,
    fun after visit earlier hsplit => absurd hsplit (hnil after visit earlier),
    fun after visit earlier hsplit => absurd hsplit (hnil after visit earlier)⟩

theorem kept_exec (ringBuffer : Nat → RuntimeLogEvent) (leftover : List RuntimeLogEvent)
    (actions : List LoggerAction) :
    Kept (machine.exec (.start (initialized ringBuffer leftover)) actions) :=
  machine.exec_invariant (fun _ action hkept => hkept.advance action) actions
    (kept_initialized ringBuffer leftover)

theorem sound_step (state : LoggerState) (action : LoggerAction) (hsound : Sound state) :
    Sound (machine.next state action) :=
  sound_next hsound action

section Flows

variable (ringBuffer : Nat → RuntimeLogEvent) (leftover : List RuntimeLogEvent)
  (actions : List LoggerAction)

theorem commands_exec :
    leftover ++ flow queues (machine.exec (.start (initialized ringBuffer leftover)) actions).history =
      flow answersCommand (machine.exec (.start (initialized ringBuffer leftover)) actions).history ++
        ((machine.exec (.start (initialized ringBuffer leftover)) actions).state.realTime.unflushed ++
          (machine.exec (.start (initialized ringBuffer leftover)) actions).state.pendingCommands) :=
  have hflow := machine.flow_exec sound_step (fun state action _ => commands_balance state action)
    (sound_initialized ringBuffer leftover) actions
  hflow

theorem events_exec :
    flow enters (machine.exec (.start (initialized ringBuffer leftover)) actions).history =
      flow answersEvent (machine.exec (.start (initialized ringBuffer leftover)) actions).history ++
        (machine.exec (.start (initialized ringBuffer leftover)) actions).state.realTime.unpushed :=
  have hflow := machine.flow_exec sound_step (fun state action _ => events_balance state action)
    (sound_initialized ringBuffer leftover) actions
  hflow

theorem taken_exec :
    flow takes (machine.exec (.start (initialized ringBuffer leftover)) actions).history =
      flow writes (machine.exec (.start (initialized ringBuffer leftover)) actions).history ++
        (machine.exec (.start (initialized ringBuffer leftover)) actions).state.inHand :=
  have hflow := machine.flow_exec sound_step
    (fun _ action hsound => written_balance hsound.file action)
    (sound_initialized ringBuffer leftover) actions
  hflow

end Flows

theorem Kept.taken_prefix {config : LoggerConfig} (hkept : Kept config) :
    flow takes config.history <+: flow LoggerVisit.accepts config.history := by
  obtain ⟨queue, -, hqueue⟩ := hkept.faithful.ring
  rw [hkept.faithful.accepted, hkept.faithful.taken, hqueue]
  exact List.prefix_append _ _

/-- **The logger loses no event but to a full ring**, and keeps their order, under every interleaving of
its threads. -/
theorem conserves_exec (ringBuffer : Nat → RuntimeLogEvent) (leftover : List RuntimeLogEvent)
    (actions : List LoggerAction) :
    Conserves leftover (machine.exec (.start (initialized ringBuffer leftover)) actions) := by
  have hkept := kept_exec ringBuffer leftover actions
  have hsound := sound_exec ringBuffer leftover actions
  refine
    { commands := ?_, events := events_exec ringBuffer leftover actions
      taken := hkept.taken_prefix, refused := ?_, drained := hkept.drained
      written := ⟨_, taken_exec ringBuffer leftover actions, hkept.written⟩
      queueOwner := ⟨fun thread hrealTime => ?_, fun thread other hthread hother => ?_⟩
      fileOwner := fun thread other hthread hother => hsound.file.owned.unique hthread hother
      fileOpen := fun thread event call hphase => hsound.file.fileOpen thread (by rw [hphase]; rfl) }
  · rw [List.append_assoc]
    exact commands_exec ringBuffer leftover actions
  · exact fun after visit earlier answer hsplit => hkept.refused after visit earlier hsplit answer
  · by_contra hqueuing
    have hsame : PendingHolder.realTime = .queuing thread :=
      hsound.pending.unique hrealTime (Bool.eq_true_of_not_eq_false hqueuing)
    cases hsame
  · have hsame : PendingHolder.queuing thread = .queuing other := hsound.pending.unique hthread hother
    cases hsame
    rfl

end LoggerState

end IghMaster
