import IghMaster.Lib.Transition
import Mathlib.Data.List.FinRange
import Mathlib.Logic.Function.Basic

/-!
# The diagnostic ring, one access at a time

`tryPushToRing` and `tryPopFromRing` of `diagnostics/runtime_logger.cpp`, where one thread pushes and
another one pops. A step is a load or a store of an index or the copy of one field of a slot; the first
load of a call is the step that makes it.
-/

namespace IghMaster

/-- Where a thread is in its call, with the event, the index of its own that it has loaded and the fields
it still has to copy: before the load of the other index, or in the slot. -/
inductive RingPhase (Field : Type) (Value : Field → Type) where
  | idle
  | checking (event : ∀ field, Value field) (loaded : Nat)
  | copying (event : ∀ field, Value field) (loaded : Nat) (rest : List Field)

structure RingState (Field : Type) (Value : Field → Type) where
  ringBuffer : Nat → ∀ field, Value field
  ringHead : Nat := 0
  ringTail : Nat := 0
  producer : RingPhase Field Value := .idle
  consumer : RingPhase Field Value := .idle

/-- A thread calls, the consumer with the event that it lends, or makes its next access. -/
inductive RingAction (Field : Type) (Value : Field → Type) where
  | tryPushToRing (event : ∀ field, Value field)
  | produce
  | tryPopFromRing (event : ∀ field, Value field)
  | consume

abbrev RingVisit (Field : Type) (Value : Field → Type) :=
  Transition.Visit (RingState Field Value) (RingAction Field Value)

abbrev RingConfig (Field : Type) (Value : Field → Type) :=
  Transition.Config (RingState Field Value) (RingAction Field Value)

namespace RingState

variable {Field : Type} {Value : Field → Type}

/-- A thread that is in a call takes no other. -/
def tryPushToRing (event : ∀ field, Value field) (state : RingState Field Value) :
    RingState Field Value :=
  match state.producer with
  | .idle => { state with producer := .checking event state.ringHead }
  | _ => state

def tryPopFromRing (event : ∀ field, Value field) (state : RingState Field Value) :
    RingState Field Value :=
  match state.consumer with
  | .idle => { state with consumer := .checking event state.ringTail }
  | _ => state

variable [DecidableEq Field] (capacity : Nat) (fields : List Field)

def produce (state : RingState Field Value) : RingState Field Value :=
  match state.producer with
  | .idle => state
  | .checking event head =>
      if (head + 1) % capacity = state.ringTail then { state with producer := .idle }
      else { state with producer := .copying event head fields }
  | .copying event head (field :: rest) =>
      { state with
        ringBuffer := Function.update state.ringBuffer head
          (Function.update (state.ringBuffer head) field (event field))
        producer := .copying event head rest }
  | .copying _ head [] =>
      { state with ringHead := (head + 1) % capacity, producer := .idle }

def consume (state : RingState Field Value) : RingState Field Value :=
  match state.consumer with
  | .idle => state
  | .checking event tail =>
      if tail = state.ringHead then { state with consumer := .idle }
      else { state with consumer := .copying event tail fields }
  | .copying event tail (field :: rest) =>
      { state with
        consumer := .copying (Function.update event field (state.ringBuffer tail field)) tail rest }
  | .copying _ tail [] =>
      { state with ringTail := (tail + 1) % capacity, consumer := .idle }

def next (state : RingState Field Value) : RingAction Field Value → RingState Field Value
  | .tryPushToRing event => state.tryPushToRing event
  | .produce => state.produce capacity fields
  | .tryPopFromRing event => state.tryPopFromRing event
  | .consume => state.consume capacity fields

def machine : Transition.Machine (RingState Field Value) (RingAction Field Value) where
  next := next capacity fields

omit [DecidableEq Field]

/-- The event of a push that returns true with this visit. -/
def accepts (visit : RingVisit Field Value) : Option (∀ field, Value field) :=
  match visit.action, visit.before.producer with
  | .produce, .copying event _ [] => some event
  | _, _ => none

/-- The event of a pop that returns true with this visit. -/
def pops (visit : RingVisit Field Value) : Option (∀ field, Value field) :=
  match visit.action, visit.before.consumer with
  | .consume, .copying event _ [] => some event
  | _, _ => none

/-- A push returns false with this visit. -/
def refuses (visit : RingVisit Field Value) : Bool :=
  match visit.action, visit.before.producer with
  | .produce, .checking _ head => (head + 1) % capacity = visit.before.ringTail
  | _, _ => false

/-- The events of the pushes that returned true, in their order. -/
def acceptedEvents (history : List (RingVisit Field Value)) : List (∀ field, Value field) :=
  (history.filterMap accepts).reverse

def poppedEvents (history : List (RingVisit Field Value)) : List (∀ field, Value field) :=
  (history.filterMap pops).reverse

/-- What comes out is the beginning of what went in, a push is refused only while all slots but one hold
events that are still to be popped, and the threads are never in the same slot. -/
structure IsFifo (config : RingConfig Field Value) : Prop where
  popped : poppedEvents config.history <+: acceptedEvents config.history
  refused : ∀ after visit earlier, config.history = after ++ visit :: earlier →
    refuses capacity visit = true →
      (acceptedEvents earlier).length = (poppedEvents earlier).length + (capacity - 1)
  apart : ∀ event head rest event' tail rest',
    config.state.producer = .copying event head rest →
      config.state.consumer = .copying event' tail rest' → head ≠ tail

end RingState

/-! ### The events of the runtime logger -/

inductive RuntimeLogEventType where
  | cia402State
  | controlWord
  | servoCommand
  | errorCode
  | targetSetpoint
  deriving DecidableEq

inductive RuntimeLogField where
  | timestampNs
  | motorId
  | type
  | statusWord
  | controlWord
  | cia402State
  | operationMode
  | targetPosition
  | targetVelocity
  | targetTorque
  | errorCode
  | detail (index : Fin 256)
  deriving DecidableEq

namespace RuntimeLogField

def Value : RuntimeLogField → Type
  | timestampNs => UInt64
  | motorId => UInt8
  | type => RuntimeLogEventType
  | statusWord => UInt16
  | controlWord => UInt16
  | cia402State => UInt16
  | operationMode => Int8
  | targetPosition => Int32
  | targetVelocity => Int32
  | targetTorque => Int16
  | errorCode => UInt16
  | detail _ => Int8

/-- The order in which an event is copied. -/
def all : List RuntimeLogField :=
  [timestampNs, motorId, type, statusWord, controlWord, cia402State, operationMode, targetPosition,
    targetVelocity, targetTorque, errorCode] ++ (List.finRange 256).map detail

end RuntimeLogField

namespace RuntimeLogger

def kRingCapacity : Nat := 2048

def machine :
    Transition.Machine (RingState RuntimeLogField RuntimeLogField.Value)
      (RingAction RuntimeLogField RuntimeLogField.Value) :=
  RingState.machine kRingCapacity RuntimeLogField.all

/-- What a run leaves of a ring that `initialize` has emptied, whatever its slots hold. -/
def exec (ringBuffer : Nat → ∀ field, RuntimeLogField.Value field)
    (actions : List (RingAction RuntimeLogField RuntimeLogField.Value)) :
    RingConfig RuntimeLogField RuntimeLogField.Value :=
  machine.exec (.start { ringBuffer := ringBuffer }) actions

end RuntimeLogger

end IghMaster
