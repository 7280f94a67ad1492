import IghMaster.Lib.Transition
import Mathlib.Data.BitVec
import Mathlib.Logic.Function.Basic

/-!
# The sequence lock, one atomic access at a time

`util/seqlock.hpp` and `util/pdo_cache_helpers.hpp`: one thread writes the protected fields between
`writeBegin` and `writeEnd`, any number of threads read some of them between `readBegin` and `readRetry`
and start over when the sequence number has changed. A step is one access to the sequence number or to a
field. `seq_` has 64 bits. A structure that is copied is read field by field.
-/

namespace IghMaster

/-- What the writer does next, with what it has loaded. -/
inductive SeqLockWriter where
  | idle
  | beginning (loaded : Nat)
  | writing
  | ending (loaded : Nat)
  deriving DecidableEq

/-- Where a reader is in its loop, with the start value of the iteration, the fields it still has to read
and what it has read. -/
inductive SeqLockReader (Call Field : Type) (Value : Field → Type) where
  | idle
  | beginning (call : Call)
  | reading (call : Call) (start : Nat) (rest : List Field) (seen : List (Sigma Value))
  | returned (call : Call) (seen : List (Sigma Value))

structure SeqLockState (Reader Call Field : Type) (Value : Field → Type) where
  seq : Nat := 0
  contents : ∀ field, Value field
  writer : SeqLockWriter := .idle
  readers : Reader → SeqLockReader Call Field Value := fun _ => .idle

/-- The writer makes one access of `writeBegin`, to a field or of `writeEnd`; a reader calls, or makes its
next access. -/
inductive SeqLockAction (Reader Call Field : Type) (Value : Field → Type) where
  | loadBegin
  | storeBegin
  | storeField (field : Field) (value : Value field)
  | loadEnd
  | storeEnd
  | call (reader : Reader) (call : Call)
  | read (reader : Reader)

namespace SeqLockState

variable {Reader Call Field : Type} {Value : Field → Type}

def loadBegin (state : SeqLockState Reader Call Field Value) : SeqLockState Reader Call Field Value :=
  match state.writer with
  | .idle => { state with writer := .beginning state.seq }
  | _ => state

def storeBegin (state : SeqLockState Reader Call Field Value) : SeqLockState Reader Call Field Value :=
  match state.writer with
  | .beginning loaded => { state with seq := (loaded + 1) % 2 ^ 64, writer := .writing }
  | _ => state

def storeField [DecidableEq Field] (field : Field) (value : Value field)
    (state : SeqLockState Reader Call Field Value) : SeqLockState Reader Call Field Value :=
  match state.writer with
  | .writing => { state with contents := Function.update state.contents field value }
  | _ => state

def loadEnd (state : SeqLockState Reader Call Field Value) : SeqLockState Reader Call Field Value :=
  match state.writer with
  | .writing => { state with writer := .ending state.seq }
  | _ => state

def storeEnd (state : SeqLockState Reader Call Field Value) : SeqLockState Reader Call Field Value :=
  match state.writer with
  | .ending loaded => { state with seq := (loaded + 1) % 2 ^ 64, writer := .idle }
  | _ => state

def setReader [DecidableEq Reader] (reader : Reader) (phase : SeqLockReader Call Field Value)
    (state : SeqLockState Reader Call Field Value) : SeqLockState Reader Call Field Value :=
  { state with readers := Function.update state.readers reader phase }

/-- A thread that is in a call takes no other. -/
def callReader [DecidableEq Reader] (reader : Reader) (call : Call)
    (state : SeqLockState Reader Call Field Value) : SeqLockState Reader Call Field Value :=
  match state.readers reader with
  | .idle => state.setReader reader (.beginning call)
  | .returned _ _ => state.setReader reader (.beginning call)
  | _ => state

/-- `readBegin` loads until the number is even, then come the fields, then the load of `readRetry`. -/
def read [DecidableEq Reader] (fields : Call → List Field) (reader : Reader)
    (state : SeqLockState Reader Call Field Value) : SeqLockState Reader Call Field Value :=
  match state.readers reader with
  | .idle => state
  | .beginning call =>
      if state.seq % 2 = 1 then state
      else state.setReader reader (.reading call state.seq (fields call) [])
  | .reading call start (field :: rest) seen =>
      state.setReader reader (.reading call start rest (seen ++ [⟨field, state.contents field⟩]))
  | .reading call start [] seen =>
      if state.seq ≠ start then state.setReader reader (.beginning call)
      else state.setReader reader (.returned call seen)
  | .returned _ _ => state

variable [DecidableEq Reader] [DecidableEq Field] (fields : Call → List Field)

def next (state : SeqLockState Reader Call Field Value) :
    SeqLockAction Reader Call Field Value → SeqLockState Reader Call Field Value
  | .loadBegin => state.loadBegin
  | .storeBegin => state.storeBegin
  | .storeField field value => state.storeField field value
  | .loadEnd => state.loadEnd
  | .storeEnd => state.storeEnd
  | .call reader call => state.callReader reader call
  | .read reader => state.read fields reader

def machine :
    Transition.Machine (SeqLockState Reader Call Field Value)
      (SeqLockAction Reader Call Field Value) where
  next := next fields

end SeqLockState

abbrev SeqLockVisit (Reader Call Field : Type) (Value : Field → Type) :=
  Transition.Visit (SeqLockState Reader Call Field Value) (SeqLockAction Reader Call Field Value)

abbrev SeqLockConfig (Reader Call Field : Type) (Value : Field → Type) :=
  Transition.Config (SeqLockState Reader Call Field Value) (SeqLockAction Reader Call Field Value)

namespace SeqLockState

variable {Reader Call Field : Type} {Value : Field → Type}

/-- The store with which `writeEnd` completes a write. -/
def completesWrite (visit : SeqLockVisit Reader Call Field Value) : Bool :=
  match visit.action, visit.before.writer with
  | .storeEnd, .ending _ => true
  | _, _ => false

def completedWrites (history : List (SeqLockVisit Reader Call Field Value)) : Nat :=
  history.countP completesWrite

/-- The load of `readBegin`, with which an iteration begins once the number is even. -/
def loadsStart [DecidableEq Reader] (reader : Reader)
    (visit : SeqLockVisit Reader Call Field Value) : Bool :=
  match visit.action, visit.before.readers reader with
  | .read other, .beginning _ => other = reader
  | _, _ => false

/-- The writes completed since that load. -/
def writesDuring [DecidableEq Reader] (reader : Reader) :
    List (SeqLockVisit Reader Call Field Value) → Nat
  | [] => 0
  | visit :: earlier =>
      if loadsStart reader visit then 0
      else writesDuring reader earlier + if completesWrite visit then 1 else 0

/-- The load of `readRetry` comes before the sequence number can have gone round. -/
def KeepsUp [DecidableEq Reader] (config : SeqLockConfig Reader Call Field Value)
    (action : SeqLockAction Reader Call Field Value) : Prop :=
  ∀ reader call start seen, action = .read reader →
    config.state.readers reader = .reading call start [] seen →
      writesDuring reader config.history < 2 ^ 63

/-- The fields hold these values at first, or as of a completed write. -/
def Published (initial : ∀ field, Value field) (history : List (SeqLockVisit Reader Call Field Value))
    (snapshot : ∀ field, Value field) : Prop :=
  snapshot = initial ∨
    ∃ visit ∈ history, completesWrite visit = true ∧ visit.after.contents = snapshot

/-- A reader that has left its loop has read its fields from one published snapshot. -/
def Untorn (fields : Call → List Field) (initial : ∀ field, Value field)
    (config : SeqLockConfig Reader Call Field Value) : Prop :=
  ∀ reader call seen, config.state.readers reader = .returned call seen →
    seen.map Sigma.fst = fields call ∧
      ∃ snapshot, Published initial config.history snapshot ∧
        ∀ sample ∈ seen, sample.2 = snapshot sample.1

end SeqLockState

/-! ### The cached process data -/

/-- The members of `ForceSensorCache`. -/
inductive ForceSensorMember where
  | dataNo | fx | fy | fz | mx | my | mz | fxI | fyI | fzI | mxI | myI | mzI | useFloat | valid
  deriving DecidableEq

/-- The vectors that are read under the lock. -/
inductive PdoCacheVector where
  | lastStatusWords
  | lastOperationModeDisplays
  | lastErrorCodes
  | lastActualPositions
  | lastActualVelocities
  | lastActualTorques
  | lastSensorForce2020
  | lastMotorEncoder2021
  | forceSensorCache
  deriving DecidableEq

/-- An element of a vector of numbers, or a member of an element of `force_sensor_cache_`. -/
inductive PdoCacheField where
  | lastStatusWord (index : Nat)
  | lastOperationModeDisplay (index : Nat)
  | lastErrorCode (index : Nat)
  | lastActualPosition (index : Nat)
  | lastActualVelocity (index : Nat)
  | lastActualTorque (index : Nat)
  | lastSensorForce2020 (index : Nat)
  | lastMotorEncoder2021 (index : Nat)
  | forceSensor (index : Nat) (member : ForceSensorMember)
  deriving DecidableEq

namespace PdoCacheField

/-- A `float` is the word it is stored in. -/
def Value : PdoCacheField → Type
  | lastStatusWord _ => UInt16
  | lastOperationModeDisplay _ => Int8
  | lastErrorCode _ => UInt16
  | lastActualPosition _ => Int32
  | lastActualVelocity _ => Int32
  | lastActualTorque _ => Int16
  | lastSensorForce2020 _ => Int32
  | lastMotorEncoder2021 _ => Int32
  | forceSensor _ .dataNo => UInt16
  | forceSensor _ .useFloat => Bool
  | forceSensor _ .valid => Bool
  | forceSensor _ _ => UInt32

end PdoCacheField

/-- The fields of which an element is made up. -/
def PdoCacheVector.element (index : Nat) : PdoCacheVector → List PdoCacheField
  | lastStatusWords => [.lastStatusWord index]
  | lastOperationModeDisplays => [.lastOperationModeDisplay index]
  | lastErrorCodes => [.lastErrorCode index]
  | lastActualPositions => [.lastActualPosition index]
  | lastActualVelocities => [.lastActualVelocity index]
  | lastActualTorques => [.lastActualTorque index]
  | lastSensorForce2020 => [.lastSensorForce2020 index]
  | lastMotorEncoder2021 => [.lastMotorEncoder2021 index]
  | forceSensorCache =>
      [.dataNo, .fx, .fy, .fz, .mx, .my, .mz, .fxI, .fyI, .fzI, .mxI, .myI, .mzI, .useFloat,
        .valid].map (.forceSensor index)

/-- The calls that read under the lock; sizes of vectors do not change while the lock is in use. -/
inductive PdoCacheRead where
  | seqlockReadField (vec : PdoCacheVector) (index : Nat)
  | seqlockReadIndex (vec : PdoCacheVector) (size index : Nat)
  | getMotorStates (motorCount pdoOffsetsSize : Nat)
  deriving DecidableEq

/-- The protected fields that one iteration of the loop reads. An index out of range reads none of them,
and `enable_requested_` in the loop of `getMotorStates` is not protected. -/
def PdoCacheRead.fields : PdoCacheRead → List PdoCacheField
  | seqlockReadField vec index => vec.element index
  | seqlockReadIndex vec size index => if index < size then vec.element index else []
  | getMotorStates motorCount pdoOffsetsSize =>
      ((List.range (min 7 motorCount)).takeWhile (· < pdoOffsetsSize)).flatMap fun index =>
        [.lastStatusWord index, .lastOperationModeDisplay index, .lastActualPosition index,
          .lastActualVelocity index, .lastActualTorque index, .lastSensorForce2020 index,
          .lastMotorEncoder2021 index, .lastErrorCode index]

namespace PdoCache

variable {Reader : Type} [DecidableEq Reader]

def machine :
    Transition.Machine (SeqLockState Reader PdoCacheRead PdoCacheField PdoCacheField.Value)
      (SeqLockAction Reader PdoCacheRead PdoCacheField PdoCacheField.Value) :=
  SeqLockState.machine PdoCacheRead.fields

/-- The values of a freshly configured cache. -/
def cleared : ∀ field, PdoCacheField.Value field
  | .lastStatusWord _ => (0 : UInt16)
  | .lastOperationModeDisplay _ => (0 : Int8)
  | .lastErrorCode _ => (0 : UInt16)
  | .lastActualPosition _ => (0 : Int32)
  | .lastActualVelocity _ => (0 : Int32)
  | .lastActualTorque _ => (0 : Int16)
  | .lastSensorForce2020 _ => (0 : Int32)
  | .lastMotorEncoder2021 _ => (0 : Int32)
  | .forceSensor _ .dataNo => (0 : UInt16)
  | .forceSensor _ .fx => (0 : UInt32)
  | .forceSensor _ .fy => (0 : UInt32)
  | .forceSensor _ .fz => (0 : UInt32)
  | .forceSensor _ .mx => (0 : UInt32)
  | .forceSensor _ .my => (0 : UInt32)
  | .forceSensor _ .mz => (0 : UInt32)
  | .forceSensor _ .fxI => (0 : UInt32)
  | .forceSensor _ .fyI => (0 : UInt32)
  | .forceSensor _ .fzI => (0 : UInt32)
  | .forceSensor _ .mxI => (0 : UInt32)
  | .forceSensor _ .myI => (0 : UInt32)
  | .forceSensor _ .mzI => (0 : UInt32)
  | .forceSensor _ .useFloat => false
  | .forceSensor _ .valid => false

/-- What the run leaves behind of a lock that nobody has used yet. -/
def exec (initial : ∀ field, PdoCacheField.Value field)
    (actions : List (SeqLockAction Reader PdoCacheRead PdoCacheField PdoCacheField.Value)) :
    SeqLockConfig Reader PdoCacheRead PdoCacheField PdoCacheField.Value :=
  machine.exec (.start { contents := initial }) actions

end PdoCache

end IghMaster
