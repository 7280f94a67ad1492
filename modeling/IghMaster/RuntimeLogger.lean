import IghMaster.DiagnosticRing
import IghMaster.Lib.Component
import IghMaster.Lib.Ledger

/-!
# The runtime logger and its threads

`RuntimeLogger` between `initialize` and the next one. The real-time thread pushes events and moves the
queued commands into the ring, any number of threads queue commands under `pending_mutex_`, any number
drain the ring into the file under `file_mutex_` or shut the logger down. A step is one access to
`enabled_`, to a mutex, to the queue or the file, or one of the ring's.
-/

namespace IghMaster

abbrev RuntimeLogEvent := ∀ field, RuntimeLogField.Value field

namespace RuntimeLogEvent

def type (event : RuntimeLogEvent) : RuntimeLogEventType := event .type

def errorCode (event : RuntimeLogEvent) : UInt16 := event .errorCode

def withErrorCode (code : UInt16) (event : RuntimeLogEvent) : RuntimeLogEvent :=
  Function.update event .errorCode code

/-- The default of the variable that `drain` pops into. -/
def blank : RuntimeLogEvent
  | .timestampNs => (0 : UInt64)
  | .motorId => (0 : UInt8)
  | .type => RuntimeLogEventType.cia402State
  | .statusWord => (0 : UInt16)
  | .controlWord => (0 : UInt16)
  | .cia402State => (0 : UInt16)
  | .operationMode => (0 : Int8)
  | .targetPosition => (0 : Int32)
  | .targetVelocity => (0 : Int32)
  | .targetTorque => (0 : Int16)
  | .errorCode => (0 : UInt16)
  | .detail _ => (0 : Int8)

/-- A fault without a code is given the one that the fetcher reads from the drive. -/
def fetchErrorCode (fetches : Bool) (fetched : UInt16) (event : RuntimeLogEvent) : RuntimeLogEvent :=
  if event.type = .errorCode ∧ event.errorCode = 0 ∧ fetches = true then event.withErrorCode fetched
  else event

end RuntimeLogEvent

/-- Where the real-time thread is: in `flushPendingToBuffer`, whose last part is a loop over the commands
it has taken, or in `pushRtEvent`. -/
inductive RtLogPhase where
  | idle
  | locking
  | swapping
  | unlocking (localPending : List RuntimeLogEvent)
  | flushing (localPending : List RuntimeLogEvent)
  | pushingCommand (event : RuntimeLogEvent) (localPending : List RuntimeLogEvent)
  | entering (event : RuntimeLogEvent)
  | pushing (event : RuntimeLogEvent)

/-- Where a thread is in `queueCommand`. -/
inductive QueuePhase where
  | idle
  | locking (event : RuntimeLogEvent)
  | appending (event : RuntimeLogEvent)
  | unlocking

/-- A call of `drain`: whether it has a fetcher, and whether `shutdown` made it. -/
structure DrainCall where
  fetches : Bool
  shutsDown : Bool

/-- Where a thread is in `drain` or `shutdown`. -/
inductive DrainPhase where
  | idle
  | entering
  | locking (call : DrainCall)
  | checkingFile (call : DrainCall)
  | looping (event : RuntimeLogEvent) (call : DrainCall)
  | popping (call : DrainCall)
  | writing (event : RuntimeLogEvent) (call : DrainCall)
  | unlocking (call : DrainCall)
  | lockingToClose
  | closing
  | unlockingClosed
  | disabling

/-- Who holds `pending_mutex_`. -/
inductive PendingHolder where
  | realTime
  | queuing (thread : Nat)
  deriving DecidableEq

structure LoggerState where
  enabled : Bool
  ring : RingState RuntimeLogField RuntimeLogField.Value
  pendingCommands : List RuntimeLogEvent
  pendingMutex : Option PendingHolder := none
  realTime : RtLogPhase := .idle
  queuing : Nat → QueuePhase := fun _ => .idle
  fileOpen : Bool
  logFile : List RuntimeLogEvent := []
  fileMutex : Option Nat := none
  draining : Nat → DrainPhase := fun _ => .idle

/-- A thread calls, or makes its next access. An attempt to lock may fail for no reason, and a fetcher
may read any code. -/
inductive LoggerAction where
  | flushPendingToBuffer
  | pushRtEvent (event : RuntimeLogEvent)
  | realTime (locks : Bool)
  | queueCommand (thread : Nat) (event : RuntimeLogEvent)
  | queue (thread : Nat)
  | drain (thread : Nat) (fetches : Bool)
  | shutdown (thread : Nat)
  | log (thread : Nat) (fetched : UInt16)

/-- The thread has passed the check of the other index. -/
def RingPhase.inSlot {Field : Type} {Value : Field → Type} : RingPhase Field Value → Bool
  | copying _ _ _ => true
  | _ => false

namespace RtLogPhase

def ringMove : RtLogPhase → Option (RingAction RuntimeLogField RuntimeLogField.Value)
  | flushing (event :: _) => some (.tryPushToRing event)
  | pushingCommand _ _ => some .produce
  | entering event => some (.tryPushToRing event)
  | pushing _ => some .produce
  | _ => none

/-- The event that the phase is in a push with. -/
def inPush : RtLogPhase → Option RuntimeLogEvent
  | pushingCommand event _ => some event
  | pushing event => some event
  | _ => none

def holdsPending : RtLogPhase → Bool
  | swapping => true
  | unlocking _ => true
  | _ => false

/-- The commands that were taken out of the queue and whose push has not returned. -/
def unflushed : RtLogPhase → List RuntimeLogEvent
  | unlocking localPending => localPending
  | flushing localPending => localPending
  | pushingCommand event localPending => event :: localPending
  | _ => []

/-- The event of `pushRtEvent` whose push has not returned. -/
def unpushed : RtLogPhase → List RuntimeLogEvent
  | entering event => [event]
  | pushing event => [event]
  | _ => []

end RtLogPhase

namespace QueuePhase

def holdsPending : QueuePhase → Bool
  | appending _ => true
  | unlocking => true
  | _ => false

end QueuePhase

namespace DrainPhase

def ringMove : DrainPhase → Option (RingAction RuntimeLogField RuntimeLogField.Value)
  | looping event _ => some (.tryPopFromRing event)
  | popping _ => some .consume
  | _ => none

def inPop : DrainPhase → Bool
  | popping _ => true
  | _ => false

def holdsFile : DrainPhase → Bool
  | checkingFile _ => true
  | looping _ _ => true
  | popping _ => true
  | writing _ _ => true
  | unlocking _ => true
  | closing => true
  | unlockingClosed => true
  | _ => false

/-- The event that was popped and is still to be written. -/
def inHand : DrainPhase → List RuntimeLogEvent
  | writing event _ => [event]
  | _ => []

end DrainPhase

namespace LoggerState

/-- The ring's part in an access. -/
def ringMove (state : LoggerState) :
    LoggerAction → Option (RingAction RuntimeLogField RuntimeLogField.Value)
  | .realTime _ => state.realTime.ringMove
  | .log thread _ => (state.draining thread).ringMove
  | _ => none

def ringAfter (state : LoggerState) (action : LoggerAction) :
    RingState RuntimeLogField RuntimeLogField.Value :=
  match state.ringMove action with
  | some move => RuntimeLogger.machine.next state.ring move
  | none => state.ring

/-- A call of a push returns when the producer is idle again. -/
def afterPush (phase returned : RtLogPhase) :
    RingPhase RuntimeLogField RuntimeLogField.Value → RtLogPhase
  | .idle => returned
  | _ => phase

/-- A pop that returns has an event if it came out of the slot. -/
def afterPop (call : DrainCall) (before after : RingPhase RuntimeLogField RuntimeLogField.Value) :
    DrainPhase :=
  match before, after with
  | .copying event _ _, .idle => .writing event call
  | _, .idle => .unlocking call
  | _, _ => .popping call

def setQueuing (thread : Nat) (phase : QueuePhase) (state : LoggerState) : LoggerState :=
  { state with queuing := Function.update state.queuing thread phase }

def setDraining (thread : Nat) (phase : DrainPhase) (state : LoggerState) : LoggerState :=
  { state with draining := Function.update state.draining thread phase }

/-- A call of the real-time thread goes on only if the logger is enabled. -/
def callRealTime (phase : RtLogPhase) (state : LoggerState) : LoggerState :=
  match state.realTime with
  | .idle => if state.enabled then { state with realTime := phase } else state
  | _ => state

def flushPendingToBuffer (state : LoggerState) : LoggerState := state.callRealTime .locking

def pushRtEvent (event : RuntimeLogEvent) (state : LoggerState) : LoggerState :=
  state.callRealTime (.entering event)

/-- An access of the real-time thread, with the ring as it leaves it. It never waits for the mutex. -/
def stepRealTime (locks : Bool) (ring : RingState RuntimeLogField RuntimeLogField.Value)
    (state : LoggerState) : LoggerState :=
  match state.realTime with
  | .idle => state
  | .locking =>
      if locks && state.pendingMutex.isNone then
        { state with pendingMutex := some .realTime, realTime := .swapping }
      else
        { state with realTime := .idle }
  | .swapping =>
      { state with pendingCommands := [], realTime := .unlocking state.pendingCommands }
  | .unlocking localPending =>
      { state with pendingMutex := none, realTime := .flushing localPending }
  | .flushing [] => { state with realTime := .idle }
  | .flushing (event :: rest) => { state with ring := ring, realTime := .pushingCommand event rest }
  | .pushingCommand event rest =>
      { state with
        ring := ring
        realTime := afterPush (.pushingCommand event rest) (.flushing rest) ring.producer }
  | .entering event => { state with ring := ring, realTime := .pushing event }
  | .pushing event =>
      { state with ring := ring, realTime := afterPush (.pushing event) .idle ring.producer }

def queueCommand (thread : Nat) (event : RuntimeLogEvent) (state : LoggerState) : LoggerState :=
  match state.queuing thread with
  | .idle => if state.enabled then state.setQueuing thread (.locking event) else state
  | _ => state

def stepQueuing (thread : Nat) (state : LoggerState) : LoggerState :=
  match state.queuing thread with
  | .idle => state
  | .locking event =>
      if state.pendingMutex.isNone then
        { state with pendingMutex := some (.queuing thread) }.setQueuing thread (.appending event)
      else
        state
  | .appending event =>
      { state with pendingCommands := state.pendingCommands ++ [event] }.setQueuing thread .unlocking
  | .unlocking => { state with pendingMutex := none }.setQueuing thread .idle

def callDraining (thread : Nat) (phase : DrainPhase) (state : LoggerState) : LoggerState :=
  match state.draining thread with
  | .idle => if state.enabled then state.setDraining thread phase else state
  | _ => state

def drain (thread : Nat) (fetches : Bool) (state : LoggerState) : LoggerState :=
  state.callDraining thread (.locking { fetches := fetches, shutsDown := false })

def shutdown (thread : Nat) (state : LoggerState) : LoggerState :=
  state.callDraining thread .entering

/-- An access of a thread in `drain` or `shutdown`, with the ring as it leaves it. `shutdown` asks for
`enabled_` once more in its call of `drain`. -/
def stepDraining (thread : Nat) (fetched : UInt16)
    (ring : RingState RuntimeLogField RuntimeLogField.Value) (state : LoggerState) : LoggerState :=
  match state.draining thread with
  | .idle => state
  | .entering =>
      state.setDraining thread
        (if state.enabled then .locking { fetches := false, shutsDown := true } else .lockingToClose)
  | .locking call =>
      if state.fileMutex.isNone then
        { state with fileMutex := some thread }.setDraining thread (.checkingFile call)
      else
        state
  | .checkingFile call =>
      state.setDraining thread (if state.fileOpen then .looping .blank call else .unlocking call)
  | .looping _ call => { state with ring := ring }.setDraining thread (.popping call)
  | .popping call =>
      { state with ring := ring }.setDraining thread (afterPop call state.ring.consumer ring.consumer)
  | .writing event call =>
      let line := event.fetchErrorCode call.fetches fetched
      { state with logFile := state.logFile ++ [line] }.setDraining thread (.looping line call)
  | .unlocking call =>
      { state with fileMutex := none }.setDraining thread
        (if call.shutsDown then .lockingToClose else .idle)
  | .lockingToClose =>
      if state.fileMutex.isNone then
        { state with fileMutex := some thread }.setDraining thread .closing
      else
        state
  | .closing => { state with fileOpen := false }.setDraining thread .unlockingClosed
  | .unlockingClosed => { state with fileMutex := none }.setDraining thread .disabling
  | .disabling => { state with enabled := false }.setDraining thread .idle

def next (state : LoggerState) (action : LoggerAction) : LoggerState :=
  match action with
  | .flushPendingToBuffer => state.flushPendingToBuffer
  | .pushRtEvent event => state.pushRtEvent event
  | .realTime locks => state.stepRealTime locks (state.ringAfter action)
  | .queueCommand thread event => state.queueCommand thread event
  | .queue thread => state.stepQueuing thread
  | .drain thread fetches => state.drain thread fetches
  | .shutdown thread => state.shutdown thread
  | .log thread fetched => state.stepDraining thread fetched (state.ringAfter action)

def machine : Transition.Machine LoggerState LoggerAction where
  next := next

/-- What `initialize` leaves where it succeeds: an empty ring and a new file. It does not look at the
commands that are still queued. -/
def initialized (ringBuffer : Nat → RuntimeLogEvent) (leftover : List RuntimeLogEvent) :
    LoggerState where
  enabled := true
  ring := { ringBuffer := ringBuffer }
  pendingCommands := leftover
  fileOpen := true

end LoggerState

abbrev LoggerVisit := Transition.Visit LoggerState LoggerAction
abbrev LoggerConfig := Transition.Config LoggerState LoggerAction

/-! ### What goes through the logger -/

namespace LoggerVisit

/-- The command that joins the queue with this visit. -/
def queues (visit : LoggerVisit) : Option RuntimeLogEvent :=
  match visit.action with
  | .queue thread =>
      match visit.before.queuing thread with
      | .appending event => some event
      | _ => none
  | _ => none

/-- The event of a `pushRtEvent` that finds the logger enabled. -/
def enters (visit : LoggerVisit) : Option RuntimeLogEvent :=
  match visit.action, visit.before.realTime with
  | .pushRtEvent event, .idle => if visit.before.enabled then some event else none
  | _, _ => none

/-- A push returned to the loop over the queued commands or to `pushRtEvent`, with the event in the ring
or refused. -/
structure Answer where
  event : RuntimeLogEvent
  isCommand : Bool
  accepted : Bool

def answers (visit : LoggerVisit) : Option Answer :=
  match visit.action, visit.before.realTime, visit.after.ring.producer with
  | .realTime _, .pushingCommand event _, .idle =>
      some { event := event, isCommand := true, accepted := visit.before.ring.producer.inSlot }
  | .realTime _, .pushing event, .idle =>
      some { event := event, isCommand := false, accepted := visit.before.ring.producer.inSlot }
  | _, _, _ => none

def answersCommand (visit : LoggerVisit) : Option RuntimeLogEvent :=
  ((answers visit).filter Answer.isCommand).map Answer.event

def answersEvent (visit : LoggerVisit) : Option RuntimeLogEvent :=
  ((answers visit).filter fun answer => !answer.isCommand).map Answer.event

def accepts (visit : LoggerVisit) : Option RuntimeLogEvent :=
  ((answers visit).filter Answer.accepted).map Answer.event

/-- The event that a `drain` pops with this visit. -/
def takes (visit : LoggerVisit) : Option RuntimeLogEvent :=
  match visit.action with
  | .log thread _ =>
      match visit.before.draining thread, visit.after.draining thread with
      | .popping _, .writing event _ => some event
      | _, _ => none
  | _ => none

/-- A `drain` finds the ring empty with this visit. -/
def findsEmpty (visit : LoggerVisit) : Bool :=
  match visit.action with
  | .log thread _ =>
      match visit.before.draining thread, visit.after.draining thread with
      | .popping _, .unlocking _ => true
      | _, _ => false
  | _ => false

end LoggerVisit

/-- The line that is written of an event: a fault without a code may have got one. -/
def RuntimeLogEvent.IsLineOf (event line : RuntimeLogEvent) : Prop :=
  line = event ∨
    (event.type = .errorCode ∧ event.errorCode = 0 ∧ ∃ code, line = event.withErrorCode code)

/-- The event that the holder of the file has popped and still has to write. -/
def LoggerState.inHand (state : LoggerState) : List RuntimeLogEvent :=
  match state.fileMutex with
  | some thread => (state.draining thread).inHand
  | none => []

open Transition LoggerVisit in
/-- Everything that was handed to the logger is in one place, in its order: in the queue, on its way into
the ring, refused by a full ring, in the ring, in the hand of a drain, or a line of the file. A drain goes on until
it has taken all, and no two threads are at the queue or at the file at once. -/
structure LoggerState.Conserves (leftover : List RuntimeLogEvent) (config : LoggerConfig) : Prop where
  commands : leftover ++ flow queues config.history =
    flow answersCommand config.history ++ config.state.realTime.unflushed ++
      config.state.pendingCommands
  events : flow enters config.history =
    flow answersEvent config.history ++ config.state.realTime.unpushed
  taken : flow takes config.history <+: flow accepts config.history
  refused : ∀ after visit earlier answer, config.history = after ++ visit :: earlier →
    answers visit = some answer → answer.accepted = false →
      (flow accepts earlier).length =
        (flow takes earlier).length + (RuntimeLogger.kRingCapacity - 1)
  drained : ∀ after visit earlier, config.history = after ++ visit :: earlier →
    findsEmpty visit = true → flow takes earlier = flow accepts earlier
  written : ∃ written, flow takes config.history = written ++ config.state.inHand ∧
    List.Forall₂ RuntimeLogEvent.IsLineOf written config.state.logFile
  queueOwner : (∀ thread, config.state.realTime.holdsPending = true →
      (config.state.queuing thread).holdsPending = false) ∧
    ∀ thread other, (config.state.queuing thread).holdsPending = true →
      (config.state.queuing other).holdsPending = true → thread = other
  fileOwner : ∀ thread other, (config.state.draining thread).holdsFile = true →
    (config.state.draining other).holdsFile = true → thread = other
  fileOpen : ∀ thread event call, config.state.draining thread = .writing event call →
    config.state.fileOpen = true

end IghMaster
