/-!
# CiA 402 words and operation modes

`servo/cia402.hpp`: the control words of object 0x6040 with the sequences that enable and disable
a drive, the two bits of the status word that the enable machine looks at, and the state that a status
word is decoded to.
-/

namespace IghMaster

/-- `OperationMode` is an `int8_t` enumeration that the caller may cast any byte to, so every value
is a mode. -/
structure OperationMode where
  value : Int8
  deriving DecidableEq, Repr

namespace OperationMode

def none : OperationMode := ⟨0⟩
def cyclicSyncPosition : OperationMode := ⟨8⟩
def cyclicSyncVelocity : OperationMode := ⟨9⟩
def cyclicSyncTorque : OperationMode := ⟨10⟩

end OperationMode

def controlWordSwitchOn : UInt16 := 0x06
def controlWordEnableVoltage : UInt16 := 0x07
def controlWordEnableOperation : UInt16 := 0x0F
def controlWordKeepOperation : UInt16 := 0x1F

/-- A control word that asks for a fault reset: bit 7 alone, or together with Shutdown. -/
structure FaultResetWord where
  value : UInt16
  value_eq : value = 0x80 ∨ value = 0x86
  deriving DecidableEq

def controlWordFaultReset : FaultResetWord := ⟨0x86, Or.inr rfl⟩
def controlWordFaultResetBit : FaultResetWord := ⟨0x80, Or.inl rfl⟩

/-- `kCia402EnableSequence`, read at the positions 0 to 3 only. -/
def cia402EnableSequence : Nat → UInt16
  | 0 => controlWordSwitchOn
  | 1 => controlWordEnableVoltage
  | 2 => controlWordEnableOperation
  | _ => controlWordKeepOperation

/-- `kCia402DisableSequence`, read at the positions 0 to 3 only. -/
def cia402DisableSequence : Nat → UInt16
  | 0 => controlWordKeepOperation
  | 1 => controlWordEnableOperation
  | 2 => controlWordEnableVoltage
  | _ => controlWordSwitchOn

/-- All control words that the servo knows. -/
def commandWords : List UInt16 :=
  [controlWordSwitchOn, controlWordEnableVoltage, controlWordEnableOperation, controlWordKeepOperation,
    controlWordFaultReset.value, controlWordFaultResetBit.value]

def isCiA402OperationEnabled (statusWord : UInt16) : Bool :=
  (statusWord &&& 0x08) == 0 && (statusWord &&& 0x04) != 0

def isCiA402Fault (statusWord : UInt16) : Bool :=
  (statusWord &&& 0x08) != 0

/-! ### The decoded state -/

inductive Cia402State where
  | notReadyToSwitchOn
  | switchOnDisabled
  | readyToSwitchOn
  | switchedOn
  | operationEnabled
  | quickStopActive
  | faultReactionActive
  | fault
  deriving DecidableEq, Repr

namespace Cia402State

def value : Cia402State → UInt16
  | notReadyToSwitchOn => 0x00
  | switchOnDisabled => 0x40
  | readyToSwitchOn => 0x21
  | switchedOn => 0x23
  | operationEnabled => 0x27
  | quickStopActive => 0x07
  | faultReactionActive => 0x0F
  | fault => 0x08

theorem value_ne (state : Cia402State) : state.value ≠ 0xFFFF := by
  cases state <;> decide

end Cia402State

def decodeCia402State (statusWord : UInt16) : Cia402State :=
  let keyBits := statusWord &&& 0x4F
  if keyBits = 0x00 then .notReadyToSwitchOn
  else if keyBits = 0x40 then .switchOnDisabled
  else if statusWord &&& 0x6F = 0x21 then .readyToSwitchOn
  else if statusWord &&& 0x6F = 0x23 then .switchedOn
  else if statusWord &&& 0x6F = 0x27 then .operationEnabled
  else if statusWord &&& 0x6F = 0x07 then .quickStopActive
  else if keyBits = 0x0F then .faultReactionActive
  else if keyBits &&& 0x08 = 0x08 then .fault
  else .notReadyToSwitchOn

def cia402StateName (state : UInt16) : String :=
  if state = 0x00 then "NOT_READY_TO_SWITCH_ON"
  else if state = 0x40 then "SWITCH_ON_DISABLED"
  else if state = 0x21 then "READY_TO_SWITCH_ON"
  else if state = 0x23 then "SWITCHED_ON"
  else if state = 0x27 then "OPERATION_ENABLED"
  else if state = 0x07 then "QUICK_STOP_ACTIVE"
  else if state = 0x0F then "FAULT_REACTION_ACTIVE"
  else if state = 0x08 then "FAULT"
  else "UNKNOWN"

/-- How far a control word drives the axis up: Shutdown and the fault reset words are lowest, then
Switch on, then the two words of enabled operation. -/
def driveLevel (controlWord : UInt16) : Nat :=
  if controlWord = controlWordEnableOperation ∨ controlWord = controlWordKeepOperation then 2
  else if controlWord = controlWordEnableVoltage then 1
  else 0

theorem driveLevel_le_two (controlWord : UInt16) : driveLevel controlWord ≤ 2 := by
  unfold driveLevel
  split
  · omega
  · split <;> omega

@[simp]
theorem driveLevel_switchOn : driveLevel controlWordSwitchOn = 0 := by decide

theorem FaultResetWord.driveLevel_value (word : FaultResetWord) : driveLevel word.value = 0 := by
  rcases word.value_eq with h | h <;> rw [h] <;> decide

theorem driveLevel_disableSequence_succ_le (step : Nat) :
    driveLevel (cia402DisableSequence (step + 1)) ≤ driveLevel (cia402DisableSequence step) := by
  match step with
  | 0 => decide
  | 1 => decide
  | 2 => decide
  | _ + 3 => exact Nat.le_refl _

end IghMaster
