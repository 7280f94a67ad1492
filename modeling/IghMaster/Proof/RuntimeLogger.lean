import IghMaster.Lib.Mutex
import IghMaster.Proof.DiagnosticRing
import IghMaster.RuntimeLogger

/-!
# What the runtime logger keeps

The mutexes make the queue and the file the business of one thread at a time, which the ring needs of its
consumer, and the real-time thread is the only producer. The ring is then a machine of its own within the
logger, and what is known of its runs carries over.
-/

namespace IghMaster

open Transition Mutex

/-! ### The ring's threads -/

namespace RingPhase

variable {Field : Type} {Value : Field → Type}

def event? : RingPhase Field Value → Option (∀ field, Value field)
  | idle => none
  | checking event _ => some event
  | copying event _ _ => some event

def isIdle : RingPhase Field Value → Bool
  | idle => true
  | _ => false

theorem eq_idle_of_event? {phase : RingPhase Field Value} (hevent : phase.event? = none) :
    phase = idle := by
  cases phase with
  | idle => rfl
  | checking event loaded => cases hevent
  | copying event loaded rest => cases hevent

end RingPhase

namespace RingState

variable {Field : Type} {Value : Field → Type} [DecidableEq Field] {capacity : Nat}
  {fields : List Field} {state : RingState Field Value} {event : ∀ field, Value field}

theorem consumer_produce (state : RingState Field Value) :
    (state.produce capacity fields).consumer = state.consumer := by
  unfold produce
  split
  · rfl
  · split_ifs <;> rfl
  · rfl
  · rfl

theorem producer_consume (state : RingState Field Value) :
    (state.consume capacity fields).producer = state.producer := by
  unfold consume
  split
  · rfl
  · split_ifs <;> rfl
  · rfl
  · rfl

/-- A push goes on with its event or returns. -/
theorem producer_produce (hevent : state.producer.event? = some event) :
    (state.produce capacity fields).producer = .idle ∨
      (state.produce capacity fields).producer.event? = some event := by
  unfold produce
  split
  · rename_i hphase
    rw [hphase] at hevent
    cases hevent
  · rename_i pushed head hphase
    rw [hphase] at hevent
    split_ifs
    · exact Or.inl rfl
    · exact Or.inr hevent
  · rename_i pushed head field rest hphase
    rw [hphase] at hevent
    exact Or.inr hevent
  · exact Or.inl rfl

end RingState

namespace LoggerState

/-! ### Who holds what -/

def holdsPending (state : LoggerState) : PendingHolder → Bool
  | .realTime => state.realTime.holdsPending
  | .queuing thread => (state.queuing thread).holdsPending

def reads : DrainPhase → Bool
  | .looping _ _ => true
  | .popping _ => true
  | .writing _ _ => true
  | _ => false

structure FileSound (state : LoggerState) : Prop where
  owned : Owned (DrainPhase.holdsFile ∘ state.draining) state.fileMutex
  fileOpen : ∀ thread, reads (state.draining thread) = true → state.fileOpen = true

structure RingSound (state : LoggerState) : Prop where
  producer : state.ring.producer.event? = state.realTime.inPush
  consumer : state.ring.consumer.isIdle = false ↔
    ∃ thread, (state.draining thread).inPop = true

structure Sound (state : LoggerState) : Prop where
  pending : Owned state.holdsPending state.pendingMutex
  file : FileSound state
  ring : RingSound state

variable {state : LoggerState} {thread : Nat}

theorem queuing_setQueuing (state : LoggerState) (thread : Nat) (phase : QueuePhase) :
    (state.setQueuing thread phase).queuing = Function.update state.queuing thread phase := rfl

theorem holdsPending_realTime (state after : LoggerState) (hqueuing : after.queuing = state.queuing) :
    after.holdsPending =
      Function.update state.holdsPending .realTime after.realTime.holdsPending := by
  funext holder
  cases holder with
  | realTime => rw [Function.update_self]; rfl
  | queuing thread =>
      rw [Function.update_of_ne (by simp), holdsPending, hqueuing]
      rfl

theorem holdsPending_setQueuing (state : LoggerState) (thread : Nat) (phase : QueuePhase) :
    (state.setQueuing thread phase).holdsPending =
      Function.update state.holdsPending (.queuing thread) phase.holdsPending := by
  funext holder
  cases holder with
  | realTime =>
      rw [Function.update_of_ne (by simp)]
      rfl
  | queuing other =>
      by_cases hsame : other = thread
      · subst hsame
        rw [Function.update_self, holdsPending, queuing_setQueuing, Function.update_self]
      · rw [Function.update_of_ne (by simpa using hsame), holdsPending, queuing_setQueuing,
          Function.update_of_ne hsame]
        rfl

theorem pending_of_realTime (state : LoggerState) {after : LoggerState}
    (hqueuing : after.queuing = state.queuing)
    (howned : Owned (Function.update state.holdsPending .realTime after.realTime.holdsPending)
      after.pendingMutex) : Owned after.holdsPending after.pendingMutex := by
  rw [holdsPending_realTime state after hqueuing]
  exact howned

theorem holdsPending_afterPush {phase returned : RtLogPhase}
    {producer : RingPhase RuntimeLogField RuntimeLogField.Value}
    (hphase : phase.holdsPending = false) (hreturned : returned.holdsPending = false) :
    (afterPush phase returned producer).holdsPending = false := by
  cases producer with
  | idle => exact hreturned
  | checking event loaded => exact hphase
  | copying event loaded rest => exact hphase

theorem pending_stepRealTime (hpending : Owned state.holdsPending state.pendingMutex) (locks : Bool)
    (ring : RingState RuntimeLogField RuntimeLogField.Value) :
    Owned (state.stepRealTime locks ring).holdsPending (state.stepRealTime locks ring).pendingMutex := by
  have hqueuing : (state.stepRealTime locks ring).queuing = state.queuing := by
    unfold stepRealTime
    split <;> try rfl
    split <;> rfl
  refine pending_of_realTime state hqueuing ?_
  have hholds : state.holdsPending .realTime = state.realTime.holdsPending := rfl
  unfold stepRealTime
  split
  · exact hpending.keep hholds.symm
  · rename_i hphase
    rw [hphase] at hholds
    split_ifs with hlocks
    · rw [Bool.and_eq_true, Option.isNone_iff_eq_none] at hlocks
      rw [hlocks.2] at hpending
      exact hpending.acquire .realTime
    · exact hpending.keep hholds.symm
  · rename_i hphase
    rw [hphase] at hholds
    exact hpending.keep hholds.symm
  · rename_i hphase
    rw [hphase] at hholds
    exact hpending.release hholds
  all_goals
    rename_i hphase
    rw [hphase] at hholds
  · exact hpending.keep hholds.symm
  · exact hpending.keep hholds.symm
  · exact hpending.keep (hholds.trans (holdsPending_afterPush rfl rfl).symm).symm
  · exact hpending.keep hholds.symm
  · exact hpending.keep (hholds.trans (holdsPending_afterPush rfl rfl).symm).symm

theorem pending_stepQueuing (hpending : Owned state.holdsPending state.pendingMutex) (thread : Nat) :
    Owned (state.stepQueuing thread).holdsPending (state.stepQueuing thread).pendingMutex := by
  have hholds : state.holdsPending (.queuing thread) = (state.queuing thread).holdsPending := rfl
  unfold stepQueuing
  split
  · exact hpending
  · rename_i event hphase
    split_ifs with hlocks
    · rw [Option.isNone_iff_eq_none] at hlocks
      rw [hlocks] at hpending
      rw [holdsPending_setQueuing]
      exact hpending.acquire (.queuing thread)
    · exact hpending
  · rename_i event hphase
    rw [hphase] at hholds
    rw [holdsPending_setQueuing]
    exact hpending.keep hholds.symm
  · rename_i hphase
    rw [hphase] at hholds
    rw [holdsPending_setQueuing]
    exact hpending.release hholds

/-! ### The threads of the queue and those of the file -/

/-- What the calls of `drain` and `shutdown` leave alone. -/
structure SameQueue (state after : LoggerState) : Prop where
  realTime : after.realTime = state.realTime
  queuing : after.queuing = state.queuing
  pendingMutex : after.pendingMutex = state.pendingMutex
  pendingCommands : after.pendingCommands = state.pendingCommands
  producer : after.ring.producer = state.ring.producer

/-- What all other calls leave alone. -/
structure SameFile (state after : LoggerState) : Prop where
  draining : after.draining = state.draining
  fileMutex : after.fileMutex = state.fileMutex
  fileOpen : after.fileOpen = state.fileOpen
  logFile : after.logFile = state.logFile
  consumer : after.ring.consumer = state.ring.consumer

theorem sameQueue_refl (state : LoggerState) : SameQueue state state := ⟨rfl, rfl, rfl, rfl, rfl⟩

theorem sameFile_refl (state : LoggerState) : SameFile state state := ⟨rfl, rfl, rfl, rfl, rfl⟩

theorem sameQueue_setDraining (state : LoggerState) (thread : Nat) (phase : DrainPhase) :
    SameQueue state (state.setDraining thread phase) := ⟨rfl, rfl, rfl, rfl, rfl⟩

theorem callRealTime_cases (state : LoggerState) (phase : RtLogPhase) :
    state.callRealTime phase = state ∨ (state.realTime = .idle ∧ state.enabled = true ∧
      state.callRealTime phase = { state with realTime := phase }) := by
  unfold callRealTime
  split
  · rename_i hidle
    split_ifs with henabled
    · exact Or.inr ⟨hidle, henabled, rfl⟩
    · exact Or.inl rfl
  · exact Or.inl rfl

theorem queueCommand_cases (state : LoggerState) (thread : Nat) (event : RuntimeLogEvent) :
    state.queueCommand thread event = state ∨ (state.queuing thread = .idle ∧
      state.queueCommand thread event = state.setQueuing thread (.locking event)) := by
  unfold queueCommand
  split
  · rename_i hidle
    split_ifs
    · exact Or.inr ⟨hidle, rfl⟩
    · exact Or.inl rfl
  · exact Or.inl rfl

theorem callDraining_cases (state : LoggerState) (thread : Nat) (phase : DrainPhase) :
    state.callDraining thread phase = state ∨ (state.draining thread = .idle ∧
      state.callDraining thread phase = state.setDraining thread phase) := by
  unfold callDraining
  split
  · rename_i hidle
    split_ifs
    · exact Or.inr ⟨hidle, rfl⟩
    · exact Or.inl rfl
  · exact Or.inl rfl

theorem consumer_ringAfter (state : LoggerState) (locks : Bool) :
    (state.ringAfter (.realTime locks)).consumer = state.ring.consumer := by
  have htryPush : ∀ event, (state.ring.tryPushToRing event).consumer = state.ring.consumer := by
    intro event
    unfold RingState.tryPushToRing
    split <;> rfl
  unfold ringAfter ringMove RtLogPhase.ringMove
  cases state.realTime with
  | flushing localPending =>
      cases localPending with
      | nil => rfl
      | cons event rest => exact htryPush event
  | pushingCommand event rest => exact RingState.consumer_produce state.ring
  | entering event => exact htryPush event
  | pushing event => exact RingState.consumer_produce state.ring
  | _ => rfl

theorem producer_ringAfter (state : LoggerState) (thread : Nat) (fetched : UInt16) :
    (state.ringAfter (.log thread fetched)).producer = state.ring.producer := by
  have htryPop : ∀ event, (state.ring.tryPopFromRing event).producer = state.ring.producer := by
    intro event
    unfold RingState.tryPopFromRing
    split <;> rfl
  unfold ringAfter ringMove DrainPhase.ringMove
  dsimp only
  cases state.draining thread with
  | looping event call => exact htryPop event
  | popping call => exact RingState.producer_consume state.ring
  | _ => rfl

theorem sameFile_stepRealTime (state : LoggerState) (locks : Bool) :
    SameFile state (state.next (.realTime locks)) := by
  have hconsumer := consumer_ringAfter state locks
  change SameFile state (state.stepRealTime locks (state.ringAfter (.realTime locks)))
  unfold stepRealTime
  split
  · exact sameFile_refl state
  · split_ifs <;> exact ⟨rfl, rfl, rfl, rfl, rfl⟩
  · exact ⟨rfl, rfl, rfl, rfl, rfl⟩
  · exact ⟨rfl, rfl, rfl, rfl, rfl⟩
  · exact ⟨rfl, rfl, rfl, rfl, rfl⟩
  all_goals exact ⟨rfl, rfl, rfl, rfl, hconsumer⟩

theorem sameQueue_stepDraining (state : LoggerState) (thread : Nat) (fetched : UInt16) :
    SameQueue state (state.next (.log thread fetched)) := by
  have hproducer := producer_ringAfter state thread fetched
  change SameQueue state
    (state.stepDraining thread fetched (state.ringAfter (.log thread fetched)))
  unfold stepDraining
  split
  case h_5 => exact ⟨rfl, rfl, rfl, rfl, hproducer⟩
  case h_6 => exact ⟨rfl, rfl, rfl, rfl, hproducer⟩
  all_goals first
    | exact ⟨rfl, rfl, rfl, rfl, rfl⟩
    | (split_ifs <;> exact ⟨rfl, rfl, rfl, rfl, rfl⟩)

theorem sameQueue_callDraining (state : LoggerState) (thread : Nat) (phase : DrainPhase) :
    SameQueue state (state.callDraining thread phase) := by
  rcases callDraining_cases state thread phase with hsame | ⟨-, hafter⟩
  · rw [hsame]
    exact sameQueue_refl state
  · rw [hafter]
    exact sameQueue_setDraining state thread phase

theorem sameFile_callRealTime (state : LoggerState) (phase : RtLogPhase) :
    SameFile state (state.callRealTime phase) := by
  rcases callRealTime_cases state phase with hsame | ⟨-, -, hafter⟩
  · rw [hsame]
    exact sameFile_refl state
  · rw [hafter]
    exact ⟨rfl, rfl, rfl, rfl, rfl⟩

theorem sameFile_queueCommand (state : LoggerState) (thread : Nat) (event : RuntimeLogEvent) :
    SameFile state (state.queueCommand thread event) := by
  rcases queueCommand_cases state thread event with hsame | ⟨-, hafter⟩
  · rw [hsame]
    exact sameFile_refl state
  · rw [hafter]
    exact ⟨rfl, rfl, rfl, rfl, rfl⟩

theorem stepQueuing_frame (state : LoggerState) (thread : Nat) :
    (state.stepQueuing thread).realTime = state.realTime ∧
      (state.stepQueuing thread).ring = state.ring := by
  unfold stepQueuing
  split
  · exact ⟨rfl, rfl⟩
  · split_ifs <;> exact ⟨rfl, rfl⟩
  · exact ⟨rfl, rfl⟩
  · exact ⟨rfl, rfl⟩

theorem sameFile_stepQueuing (state : LoggerState) (thread : Nat) :
    SameFile state (state.stepQueuing thread) := by
  unfold stepQueuing
  split
  · exact sameFile_refl state
  · split_ifs <;> exact ⟨rfl, rfl, rfl, rfl, rfl⟩
  · exact ⟨rfl, rfl, rfl, rfl, rfl⟩
  · exact ⟨rfl, rfl, rfl, rfl, rfl⟩

theorem SameQueue.pending {after : LoggerState} (hsame : SameQueue state after)
    (hpending : Owned state.holdsPending state.pendingMutex) :
    Owned after.holdsPending after.pendingMutex := by
  have hholds : after.holdsPending = state.holdsPending := by
    funext holder
    cases holder with
    | realTime => exact congrArg RtLogPhase.holdsPending hsame.realTime
    | queuing thread => exact congrArg (fun queuing => (queuing thread).holdsPending) hsame.queuing
  rw [hholds, hsame.pendingMutex]
  exact hpending

theorem pending_next (hpending : Owned state.holdsPending state.pendingMutex) (action : LoggerAction) :
    Owned (state.next action).holdsPending (state.next action).pendingMutex := by
  have hcall : ∀ phase : RtLogPhase, phase.holdsPending = false →
      Owned (state.callRealTime phase).holdsPending (state.callRealTime phase).pendingMutex := by
    intro phase hphase
    rcases callRealTime_cases state phase with hsame | ⟨hidle, -, hafter⟩
    · rw [hsame]
      exact hpending
    · have hholds : state.holdsPending .realTime = state.realTime.holdsPending := rfl
      rw [hidle] at hholds
      rw [hafter]
      exact pending_of_realTime state rfl (hpending.keep (hphase.trans hholds.symm))
  cases action with
  | flushPendingToBuffer => exact hcall .locking rfl
  | pushRtEvent event => exact hcall (.entering event) rfl
  | realTime locks => exact pending_stepRealTime hpending locks _
  | queueCommand thread event =>
      change Owned (state.queueCommand thread event).holdsPending
        (state.queueCommand thread event).pendingMutex
      rcases queueCommand_cases state thread event with hsame | ⟨hidle, hafter⟩
      · rw [hsame]
        exact hpending
      · have hholds : state.holdsPending (.queuing thread) = (state.queuing thread).holdsPending := rfl
        rw [hidle] at hholds
        rw [hafter, holdsPending_setQueuing]
        exact hpending.keep hholds.symm
  | queue thread => exact pending_stepQueuing hpending thread
  | drain thread fetches => exact (sameQueue_callDraining state thread _).pending hpending
  | shutdown thread => exact (sameQueue_callDraining state thread _).pending hpending
  | log thread fetched => exact (sameQueue_stepDraining state thread fetched).pending hpending

/-! ### The file -/

theorem holdsFile_of_reads {phase : DrainPhase} (hreads : reads phase = true) :
    phase.holdsFile = true := by
  cases phase with
  | looping event call => rfl
  | popping call => rfl
  | writing event call => rfl
  | _ => cases hreads

theorem draining_setDraining (state : LoggerState) (thread : Nat) (phase : DrainPhase) :
    (state.setDraining thread phase).draining = Function.update state.draining thread phase := rfl

/-- A thread moves on: it takes, keeps or gives back the mutex, and reads the file only while it is open. -/
theorem FileSound.setDraining (hfile : FileSound state) {base : LoggerState} {phase : DrainPhase}
    (hdraining : base.draining = state.draining) (hopen : base.fileOpen = state.fileOpen)
    (howned : Owned (Function.update (DrainPhase.holdsFile ∘ state.draining) thread phase.holdsFile)
      base.fileMutex) (hreads : reads phase = true → state.fileOpen = true) :
    FileSound (base.setDraining thread phase) := by
  refine ⟨?_, fun other hother => ?_⟩
  · rw [draining_setDraining, hdraining, Function.comp_update]
    exact howned
  · change base.fileOpen = true
    rw [hopen]
    rw [draining_setDraining, hdraining] at hother
    by_cases hsame : other = thread
    · rw [hsame, Function.update_self] at hother
      exact hreads hother
    · rw [Function.update_of_ne hsame] at hother
      exact hfile.fileOpen other hother

/-- The file is closed by its holder, so that nobody else is reading it. -/
theorem FileSound.close (hfile : FileSound state) (hphase : state.draining thread = .closing) :
    FileSound ({ state with fileOpen := false }.setDraining thread .unlockingClosed) := by
  have hholds : (DrainPhase.holdsFile ∘ state.draining) thread = true := by
    rw [Function.comp_apply, hphase]
    rfl
  refine ⟨?_, fun other hother => ?_⟩
  · rw [draining_setDraining, Function.comp_update]
    exact hfile.owned.keep hholds.symm
  · rw [draining_setDraining] at hother
    by_cases hsame : other = thread
    · rw [hsame, Function.update_self] at hother
      cases hother
    · rw [Function.update_of_ne hsame] at hother
      exact absurd (hfile.owned.unique (holdsFile_of_reads hother) hholds) hsame

theorem FileSound.stepDraining (hfile : FileSound state) (thread : Nat) (fetched : UInt16)
    (ring : RingState RuntimeLogField RuntimeLogField.Value) :
    FileSound (state.stepDraining thread fetched ring) := by
  have hholds : (DrainPhase.holdsFile ∘ state.draining) thread =
      (state.draining thread).holdsFile := rfl
  unfold LoggerState.stepDraining
  split
  all_goals
    rename_i hphase
    rw [hphase] at hholds
  · exact hfile
  · refine hfile.setDraining rfl rfl (hfile.owned.keep ?_) ?_
    · rw [hholds]
      split_ifs <;> rfl
    · split_ifs <;> exact fun hreads => absurd hreads Bool.false_ne_true
  · split_ifs with hlocks
    · refine hfile.setDraining rfl rfl ?_ fun hreads => absurd hreads Bool.false_ne_true
      have howned := hfile.owned
      rw [Option.isNone_iff_eq_none.mp hlocks] at howned
      exact howned.acquire thread
    · exact hfile
  · refine hfile.setDraining rfl rfl (hfile.owned.keep ?_) ?_
    · rw [hholds]
      split_ifs <;> rfl
    · split_ifs with hopen
      · exact fun _ => hopen
      · exact fun hreads => absurd hreads Bool.false_ne_true
  · refine hfile.setDraining rfl rfl (hfile.owned.keep hholds.symm) fun _ => ?_
    exact hfile.fileOpen thread (by rw [hphase]; rfl)
  · have hopen : state.fileOpen = true := hfile.fileOpen thread (by rw [hphase]; rfl)
    refine hfile.setDraining rfl rfl (hfile.owned.keep ?_) fun _ => hopen
    rw [hholds]
    unfold afterPop
    split <;> rfl
  · refine hfile.setDraining rfl rfl (hfile.owned.keep hholds.symm) fun _ => ?_
    exact hfile.fileOpen thread (by rw [hphase]; rfl)
  · rename_i call
    refine hfile.setDraining rfl rfl ?_ ?_
    · have hafter : (if call.shutsDown then DrainPhase.lockingToClose else .idle).holdsFile = false := by
        split_ifs <;> rfl
      rw [hafter]
      exact hfile.owned.release hholds
    · split_ifs <;> exact fun hreads => absurd hreads Bool.false_ne_true
  · split_ifs with hlocks
    · refine hfile.setDraining rfl rfl ?_ fun hreads => absurd hreads Bool.false_ne_true
      have howned := hfile.owned
      rw [Option.isNone_iff_eq_none.mp hlocks] at howned
      exact howned.acquire thread
    · exact hfile
  · exact hfile.close hphase
  · exact hfile.setDraining rfl rfl (hfile.owned.release hholds)
      fun hreads => absurd hreads Bool.false_ne_true
  · exact hfile.setDraining rfl rfl (hfile.owned.keep hholds.symm)
      fun hreads => absurd hreads Bool.false_ne_true

theorem FileSound.callDraining (hfile : FileSound state) (thread : Nat) {phase : DrainPhase}
    (hholds : phase.holdsFile = false) : FileSound (state.callDraining thread phase) := by
  rcases callDraining_cases state thread phase with hsame | ⟨hidle, hafter⟩
  · rw [hsame]
    exact hfile
  · rw [hafter]
    refine hfile.setDraining rfl rfl (hfile.owned.keep ?_) fun hreads => ?_
    · rw [Function.comp_apply, hidle, hholds]
      rfl
    · rw [holdsFile_of_reads hreads] at hholds
      cases hholds

theorem SameFile.file {after : LoggerState} (hsame : SameFile state after) (hfile : FileSound state) :
    FileSound after := by
  refine ⟨?_, fun thread hreads => ?_⟩
  · rw [hsame.draining, hsame.fileMutex]
    exact hfile.owned
  · rw [hsame.draining] at hreads
    rw [hsame.fileOpen]
    exact hfile.fileOpen thread hreads

theorem fileSound_next (hfile : FileSound state) (action : LoggerAction) :
    FileSound (state.next action) := by
  cases action with
  | flushPendingToBuffer => exact (sameFile_callRealTime state _).file hfile
  | pushRtEvent event => exact (sameFile_callRealTime state _).file hfile
  | realTime locks => exact (sameFile_stepRealTime state locks).file hfile
  | queueCommand thread event => exact (sameFile_queueCommand state thread event).file hfile
  | queue thread => exact (sameFile_stepQueuing state thread).file hfile
  | drain thread fetches => exact hfile.callDraining thread rfl
  | shutdown thread => exact hfile.callDraining thread rfl
  | log thread fetched => exact hfile.stepDraining thread fetched _

/-! ### The ring's two threads -/

theorem ringAfter_tryPush {event : RuntimeLogEvent}
    (hmove : state.realTime.ringMove = some (.tryPushToRing event)) (locks : Bool) :
    state.ringAfter (.realTime locks) = state.ring.tryPushToRing event := by
  rw [ringAfter, ringMove, hmove]
  rfl

theorem ringAfter_produce (hmove : state.realTime.ringMove = some .produce) (locks : Bool) :
    state.ringAfter (.realTime locks) =
      state.ring.produce RuntimeLogger.kRingCapacity RuntimeLogField.all := by
  rw [ringAfter, ringMove, hmove]
  rfl

theorem event?_afterPush {phase returned : RtLogPhase} {event : RuntimeLogEvent}
    {producer : RingPhase RuntimeLogField RuntimeLogField.Value} (hphase : phase.inPush = some event)
    (hreturned : returned.inPush = none) (hproducer : producer = .idle ∨ producer.event? = some event) :
    producer.event? = (afterPush phase returned producer).inPush := by
  cases producer with
  | idle => exact hreturned.symm
  | checking pushed head => exact (hproducer.resolve_left (by simp)).trans hphase.symm
  | copying pushed head rest => exact (hproducer.resolve_left (by simp)).trans hphase.symm

theorem event?_tryPushToRing {ring : RingState RuntimeLogField RuntimeLogField.Value}
    (hidle : ring.producer = .idle) (event : RuntimeLogEvent) :
    (ring.tryPushToRing event).producer.event? = some event := by
  rw [RingState.tryPushToRing, hidle]
  rfl

/-- The real-time thread is in a push just when the ring's producer is, and with the same event. -/
theorem producer_stepRealTime (hproducer : state.ring.producer.event? = state.realTime.inPush)
    (locks : Bool) :
    (state.next (.realTime locks)).ring.producer.event? =
      (state.next (.realTime locks)).realTime.inPush := by
  change (state.stepRealTime locks (state.ringAfter (.realTime locks))).ring.producer.event? =
    (state.stepRealTime locks (state.ringAfter (.realTime locks))).realTime.inPush
  cases hphase : state.realTime with
  | idle =>
      rw [stepRealTime, hphase]
      dsimp only
      rw [hproducer, hphase]
  | locking =>
      rw [stepRealTime, hphase]
      rw [hphase] at hproducer
      dsimp only
      split_ifs <;> exact hproducer
  | swapping =>
      rw [stepRealTime, hphase]
      rw [hphase] at hproducer
      exact hproducer
  | unlocking localPending =>
      rw [stepRealTime, hphase]
      rw [hphase] at hproducer
      exact hproducer
  | flushing localPending =>
      rw [hphase] at hproducer
      cases localPending with
      | nil =>
          rw [stepRealTime, hphase]
          exact hproducer
      | cons event rest =>
          rw [ringAfter_tryPush (by rw [hphase]; rfl), stepRealTime, hphase]
          exact event?_tryPushToRing (RingPhase.eq_idle_of_event? hproducer) event
  | pushingCommand event rest =>
      rw [hphase] at hproducer
      rw [ringAfter_produce (by rw [hphase]; rfl), stepRealTime, hphase]
      exact event?_afterPush rfl rfl (RingState.producer_produce hproducer)
  | entering event =>
      rw [hphase] at hproducer
      rw [ringAfter_tryPush (by rw [hphase]; rfl), stepRealTime, hphase]
      exact event?_tryPushToRing (RingPhase.eq_idle_of_event? hproducer) event
  | pushing event =>
      rw [hphase] at hproducer
      rw [ringAfter_produce (by rw [hphase]; rfl), stepRealTime, hphase]
      exact event?_afterPush rfl rfl (RingState.producer_produce hproducer)

theorem producer_next (hproducer : state.ring.producer.event? = state.realTime.inPush)
    (action : LoggerAction) :
    (state.next action).ring.producer.event? = (state.next action).realTime.inPush := by
  have hcall : ∀ phase : RtLogPhase, phase.inPush = none →
      (state.callRealTime phase).ring.producer.event? = (state.callRealTime phase).realTime.inPush := by
    intro phase hphase
    rcases callRealTime_cases state phase with hsame | ⟨hidle, -, hafter⟩
    · rw [hsame]
      exact hproducer
    · rw [hidle] at hproducer
      rw [hafter]
      exact hproducer.trans hphase.symm
  have hsameQueue : ∀ {after : LoggerState}, SameQueue state after →
      after.ring.producer.event? = after.realTime.inPush := by
    intro after hsame
    rw [hsame.producer, hsame.realTime]
    exact hproducer
  cases action with
  | flushPendingToBuffer => exact hcall .locking rfl
  | pushRtEvent event => exact hcall (.entering event) rfl
  | realTime locks => exact producer_stepRealTime hproducer locks
  | queueCommand thread event =>
      change (state.queueCommand thread event).ring.producer.event? =
        (state.queueCommand thread event).realTime.inPush
      rcases queueCommand_cases state thread event with hsame | ⟨-, hafter⟩
      · rw [hsame]
        exact hproducer
      · rw [hafter]
        exact hproducer
  | queue thread =>
      obtain ⟨hrealTime, hring⟩ := stepQueuing_frame state thread
      change (state.stepQueuing thread).ring.producer.event? =
        (state.stepQueuing thread).realTime.inPush
      rw [hring, hrealTime]
      exact hproducer
  | drain thread fetches => exact hsameQueue (sameQueue_callDraining state thread _)
  | shutdown thread => exact hsameQueue (sameQueue_callDraining state thread _)
  | log thread fetched => exact hsameQueue (sameQueue_stepDraining state thread fetched)

theorem holdsFile_of_inPop {phase : DrainPhase} (hpop : phase.inPop = true) :
    phase.holdsFile = true := by
  cases phase with
  | popping call => rfl
  | _ => cases hpop

/-- A thread that was in no pop and is in none stays out of the consumer's way. -/
theorem inPop_setDraining (state : LoggerState) {base : LoggerState} {phase : DrainPhase}
    (hdraining : base.draining = state.draining)
    (hphase : phase.inPop = (state.draining thread).inPop) :
    (∃ other, ((base.setDraining thread phase).draining other).inPop = true) ↔
      ∃ other, (state.draining other).inPop = true := by
  have hsame : ∀ other, ((base.setDraining thread phase).draining other).inPop =
      (state.draining other).inPop := by
    intro other
    rw [draining_setDraining, hdraining]
    by_cases hother : other = thread
    · rw [hother, Function.update_self, hphase]
    · rw [Function.update_of_ne hother]
  simp only [hsame]

/-- While a thread holds the file, no other one is in a pop. -/
theorem FileSound.inPop_iff (hfile : FileSound state)
    (hholds : (state.draining thread).holdsFile = true) :
    (∃ other, (state.draining other).inPop = true) ↔ (state.draining thread).inPop = true := by
  constructor
  · rintro ⟨other, hother⟩
    have hsame : other = thread := hfile.owned.unique (holdsFile_of_inPop hother) hholds
    rw [← hsame]
    exact hother
  · exact fun hpop => ⟨thread, hpop⟩

theorem holdsFile_afterPop (call : DrainCall)
    (before after : RingPhase RuntimeLogField RuntimeLogField.Value) :
    (afterPop call before after).holdsFile = true := by
  unfold afterPop
  split <;> rfl

theorem inPop_afterPop (call : DrainCall)
    (before after : RingPhase RuntimeLogField RuntimeLogField.Value) :
    after.isIdle = false ↔ (afterPop call before after).inPop = true := by
  unfold afterPop
  cases after with
  | idle =>
      refine iff_of_false Bool.true_eq_false.mp ?_
      cases before <;> exact Bool.false_ne_true
  | checking event loaded =>
      cases before <;> exact iff_of_true rfl rfl
  | copying event loaded rest =>
      cases before <;> exact iff_of_true rfl rfl

/-- Some thread is in a pop just when the ring's consumer is. -/
theorem consumer_stepDraining (hfile : FileSound state)
    (hconsumer : state.ring.consumer.isIdle = false ↔
      ∃ other, (state.draining other).inPop = true) (thread : Nat) (fetched : UInt16) :
    (state.next (.log thread fetched)).ring.consumer.isIdle = false ↔
      ∃ other, ((state.next (.log thread fetched)).draining other).inPop = true := by
  have hafter : FileSound (state.next (.log thread fetched)) := hfile.stepDraining thread fetched _
  have hstill : ∀ {base : LoggerState} {phase : DrainPhase},
      base.ring = state.ring → base.draining = state.draining →
        phase.inPop = (state.draining thread).inPop →
          ((base.setDraining thread phase).ring.consumer.isIdle = false ↔
            ∃ other, ((base.setDraining thread phase).draining other).inPop = true) := by
    intro base phase hring hdraining hphase
    change base.ring.consumer.isIdle = false ↔ _
    rw [hring, hconsumer]
    exact (inPop_setDraining state hdraining hphase).symm
  cases hphase : state.draining thread with
  | looping event call =>
      have hring : state.ringAfter (.log thread fetched) = state.ring.tryPopFromRing event := by
        rw [ringAfter, ringMove, hphase]
        rfl
      have hidle : state.ring.consumer.isIdle = true := by
        rw [hfile.inPop_iff (by rw [hphase]; rfl), hphase] at hconsumer
        exact Bool.eq_true_of_not_eq_false fun hbusy => absurd (hconsumer.mp hbusy) Bool.false_ne_true
      have hnext : state.next (.log thread fetched) =
          { state with ring := state.ring.tryPopFromRing event }.setDraining thread (.popping call) := by
        change state.stepDraining thread fetched (state.ringAfter (.log thread fetched)) = _
        rw [hring, stepDraining, hphase]
      have hpopping : (state.next (.log thread fetched)).draining thread = .popping call := by
        rw [hnext, draining_setDraining, Function.update_self]
      rw [hafter.inPop_iff (by rw [hpopping]; rfl), hpopping, hnext]
      refine iff_of_true ?_ rfl
      change (state.ring.tryPopFromRing event).consumer.isIdle = false
      unfold RingState.tryPopFromRing
      cases hcons : state.ring.consumer with
      | idle => rfl
      | checking lent loaded => rw [hcons] at hidle; cases hidle
      | copying lent loaded rest => rw [hcons] at hidle; cases hidle
  | popping call =>
      have hnext : state.next (.log thread fetched) =
          { state with ring := state.ringAfter (.log thread fetched) }.setDraining thread
            (afterPop call state.ring.consumer (state.ringAfter (.log thread fetched)).consumer) := by
        change state.stepDraining thread fetched (state.ringAfter (.log thread fetched)) = _
        rw [stepDraining, hphase]
      have hpopped : (state.next (.log thread fetched)).draining thread =
          afterPop call state.ring.consumer (state.ringAfter (.log thread fetched)).consumer := by
        rw [hnext, draining_setDraining, Function.update_self]
      rw [hafter.inPop_iff (by rw [hpopped]; exact holdsFile_afterPop _ _ _), hpopped, hnext]
      exact inPop_afterPop call _ _
  | _ =>
      change (state.stepDraining thread fetched _).ring.consumer.isIdle = false ↔
        ∃ other, ((state.stepDraining thread fetched _).draining other).inPop = true
      rw [stepDraining, hphase]
      dsimp only
      first
        | exact hconsumer
        | exact hstill rfl rfl (by rw [hphase]; rfl)
        | (split_ifs <;> first | exact hconsumer | exact hstill rfl rfl (by rw [hphase]; rfl))

theorem SameFile.consumer_iff {after : LoggerState} (hsame : SameFile state after)
    (hconsumer : state.ring.consumer.isIdle = false ↔
      ∃ other, (state.draining other).inPop = true) :
    after.ring.consumer.isIdle = false ↔ ∃ other, (after.draining other).inPop = true := by
  rw [hsame.consumer, hsame.draining]
  exact hconsumer

theorem consumer_callDraining (hconsumer : state.ring.consumer.isIdle = false ↔
      ∃ other, (state.draining other).inPop = true) (thread : Nat) {phase : DrainPhase}
    (hphase : phase.inPop = false) :
    (state.callDraining thread phase).ring.consumer.isIdle = false ↔
      ∃ other, ((state.callDraining thread phase).draining other).inPop = true := by
  rcases callDraining_cases state thread phase with hsame | ⟨hidle, hafter⟩
  · rw [hsame]
    exact hconsumer
  · rw [hafter]
    refine hconsumer.trans (inPop_setDraining state rfl ?_).symm
    rw [hphase, hidle]
    rfl

theorem consumer_next (hfile : FileSound state)
    (hconsumer : state.ring.consumer.isIdle = false ↔
      ∃ other, (state.draining other).inPop = true) (action : LoggerAction) :
    (state.next action).ring.consumer.isIdle = false ↔
      ∃ other, ((state.next action).draining other).inPop = true := by
  cases action with
  | flushPendingToBuffer => exact (sameFile_callRealTime state _).consumer_iff hconsumer
  | pushRtEvent event => exact (sameFile_callRealTime state _).consumer_iff hconsumer
  | realTime locks => exact (sameFile_stepRealTime state locks).consumer_iff hconsumer
  | queueCommand thread event => exact (sameFile_queueCommand state thread event).consumer_iff hconsumer
  | queue thread => exact (sameFile_stepQueuing state thread).consumer_iff hconsumer
  | drain thread fetches => exact consumer_callDraining hconsumer thread rfl
  | shutdown thread => exact consumer_callDraining hconsumer thread rfl
  | log thread fetched => exact consumer_stepDraining hfile hconsumer thread fetched

theorem sound_next (hsound : Sound state) (action : LoggerAction) : Sound (state.next action) :=
  ⟨pending_next hsound.pending action, fileSound_next hsound.file action,
    producer_next hsound.ring.producer action,
    consumer_next hsound.file hsound.ring.consumer action⟩

theorem sound_initialized (ringBuffer : Nat → RuntimeLogEvent) (leftover : List RuntimeLogEvent) :
    Sound (initialized ringBuffer leftover) := by
  refine ⟨fun holder => ?_, ⟨fun thread => ?_, fun thread hreads => rfl⟩, rfl, ?_⟩
  · refine iff_of_false ?_ (Option.some_ne_none holder).symm
    cases holder <;> exact Bool.false_ne_true
  · exact iff_of_false Bool.false_ne_true (Option.some_ne_none thread).symm
  · refine iff_of_false (fun hidle => nomatch hidle) ?_
    rintro ⟨thread, hpop⟩
    cases hpop

theorem sound_exec (ringBuffer : Nat → RuntimeLogEvent) (leftover : List RuntimeLogEvent)
    (actions : List LoggerAction) :
    Sound (machine.exec (.start (initialized ringBuffer leftover)) actions).state :=
  @Machine.exec_invariant _ _ machine (fun config => Sound config.state)
    (fun _ action hsound => sound_next hsound action) _ actions
    (sound_initialized ringBuffer leftover)

end LoggerState

end IghMaster
