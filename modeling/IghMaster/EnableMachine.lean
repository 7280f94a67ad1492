import IghMaster.Lib.Transition
import IghMaster.Runtime
import IghMaster.Servo

/-!
# The enable machine of a whole servo

The steps that move the enable machines of a servo: complete `setEnable` and `setOperationMode`
calls, safe-output cycles and `sendData` cycles. The flags that gate a call, the inputs of a cycle
and the fault reset window of a safe cycle are those of the step, so that a run may order the steps
in any way.
-/

namespace IghMaster

inductive EnableAction where
  | setEnable (flags : RuntimeFlags) (motorId : UInt8) (enable : Bool)
  | setOperationMode (motorId : UInt8) (mode : OperationMode)
  | safeOutput (safeOutputActive : Bool) (resetCycles : Nat) (resetAxis : UInt16)
      (inputs : Nat → TxPdo)
  | sendData (domain : DomainState) (inputs : Nat → TxPdo)

namespace EnableMachine

/-- A safe cycle that finds the given fault reset window. -/
def safeCycle (safeOutputActive : Bool) (resetCycles : Nat) (resetAxis : UInt16)
    (inputs : Nat → TxPdo) (servo : Servo) : Servo :=
  let received := servo.receiveData inputs
  { received with
    safeOutputActive := safeOutputActive
    explicitFaultResetCycles := resetCycles
    explicitFaultResetAxis := resetAxis }.applySafeProcessImageOutputs

def next (servo : Servo) : EnableAction → Servo
  | .setEnable flags motorId enable => (servo.setEnable flags motorId enable).1
  | .setOperationMode motorId mode => (servo.setOperationMode motorId mode).1
  | .safeOutput safeOutputActive resetCycles resetAxis inputs =>
      safeCycle safeOutputActive resetCycles resetAxis inputs servo
  | .sendData domain inputs => (servo.receiveData inputs).sendData domain

def machine : Transition.Machine Servo EnableAction where
  next := next

end EnableMachine

structure ServoSetup where
  bus : BusSetup
  config : IghMasterConfig
  motors : List MotorConfig
  activation : Servo.ActivateInput

/-- A servo that was initialised and activated, as far as the bus allowed it. -/
def ServoSetup.servo (setup : ServoSetup) : Servo :=
  ((({} : Servo).initializeServo setup.bus setup.config.busCycleUs setup.config.cmdWatchdogMs
    setup.config.csvCmdWatchdog setup.motors).1.activate setup.activation).1

/-! ### A bus with one NH17 module -/

/-- The offsets of the joint module's entries, as its PDO mapping lays them out. -/
def jointModuleOffset : UInt16 → Int32
  | 0x6040 => 0
  | 0x607A => 2
  | 0x60FF => 6
  | 0x6071 => 10
  | 0x6060 => 12
  | 0x6041 => 14
  | 0x6064 => 16
  | 0x606C => 20
  | 0x6077 => 24
  | 0x6061 => 26
  | 0x603F => 27
  | _ => -1

def singleAxisBus : BusSetup where
  requestMaster := true
  createDomain := true
  slaveInfo := fun _ => none
  slaveConfig := fun _ => true
  configurePdoMapping := fun _ => true
  regPdoEntry := fun _ index _ => jointModuleOffset index
  regPdoEntryPos := fun _ syncManager _ _ => if syncManager = 2 then 13 else 29

def nh17Config : MotorConfig where
  vendorId := 0x00522227
  productCode := 0x00009253
  name := "joint1"
  pdoLayout := .jointModule

def singleAxisSetup : ServoSetup where
  bus := singleAxisBus
  config := {}
  motors := [nh17Config]
  activation :=
    { interpolationPeriodGate := true, masterActivate := true, domainData := true }

def permissiveFlags : RuntimeFlags where
  jobThreadRunning := true
  commFault := false
  safeOutputRequired := false
  motionReenableAllowed := true

def completeDomain : DomainState where
  workingCounter := 3
  wcState := .complete

abbrev EnableVisit := Transition.Visit Servo EnableAction
abbrev EnableConfig := Transition.Config Servo EnableAction

end IghMaster
