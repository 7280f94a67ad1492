import IghMaster.Backend
import IghMaster.Lib.ByteMemory
import IghMaster.PdoMapping

/-!
# The process image

What the cyclic functions of the servo do to the bytes that the master exchanges with its slaves, those
of gateways and force sensors included. An image holds the outputs and the inputs of every slave; the
record that an axis keeps of them elsewhere is never read here.
-/

namespace IghMaster

open ByteMemory

/-! ### Reading and writing an entry -/

def readU16 (image : Memory) (offset : Nat) : UInt16 := .ofNat (ofBytes (load image offset 2))

def readU32 (image : Memory) (offset : Nat) : UInt32 := .ofNat (ofBytes (load image offset 4))

def readS8 (image : Memory) (offset : Nat) : Int8 := (image offset).toInt8

def readS16 (image : Memory) (offset : Nat) : Int16 := (readU16 image offset).toInt16

def readS32 (image : Memory) (offset : Nat) : Int32 := (readU32 image offset).toInt32

def writeU8 (value : UInt8) (offset : Nat) : Store := ⟨offset, [value]⟩

def writeU16 (value : UInt16) (offset : Nat) : Store := ⟨offset, toBytes 2 value.toNat⟩

def writeU32 (value : UInt32) (offset : Nat) : Store := ⟨offset, toBytes 4 value.toNat⟩

def writeS8 (value : Int8) (offset : Nat) : Store := writeU8 value.toUInt8 offset

def writeS16 (value : Int16) (offset : Nat) : Store := writeU16 value.toUInt16 offset

def writeS32 (value : Int32) (offset : Nat) : Store := writeU32 value.toUInt32 offset

def clearBytes (count offset : Nat) : Store := ⟨offset, List.replicate count 0⟩

/-- An entry with offset 0 is taken for one that is not mapped. -/
def whenMapped (offset : Nat) (write : Nat → Store) : List Store :=
  if offset != 0 then [write offset] else []

/-- Some entries may begin at 0 and are marked otherwise. -/
def whenSet (offset : Nat) (write : Nat → Store) : List Store :=
  if offset != pdoOffsetUnset then [write offset] else []

/-! ### What the servo keeps of the slaves without a drive -/

structure GatewayData where
  canRxId : UInt32 := 0
  canRxLength : UInt8 := 0
  canRxData : List UInt8 := List.replicate 64 0
  rs4851TxLength : UInt8 := 0
  rs4851TxData : List UInt8 := List.replicate 64 0
  rs4852TxLength : UInt8 := 0
  rs4852TxData : List UInt8 := List.replicate 64 0
  deriving DecidableEq

/-- The six values of a sensor, floats by their bits. -/
structure Wrench (α : Type) where
  fx : α
  fy : α
  fz : α
  mx : α
  my : α
  mz : α
  deriving DecidableEq

structure ForceSensorCache where
  dataNo : UInt16 := 0
  floats : Wrench UInt32 := ⟨0, 0, 0, 0, 0, 0⟩
  integers : Wrench Int32 := ⟨0, 0, 0, 0, 0, 0⟩
  useFloat : Bool := false
  valid : Bool := false
  deriving DecidableEq

/-- What the servo keeps of a slave besides its axis. -/
structure SlaveData where
  offsets : SlaveOffsets := {}
  sriUseFloat : Bool := false
  gatewayData : GatewayData := {}
  forceSensor : ForceSensorCache := {}
  deriving DecidableEq

namespace GatewayData

/-- `receiveData` for a gateway. -/
def receive (offsets : GatewayOffsets) (image : Memory) (data : GatewayData) : GatewayData where
  canRxId := if offsets.canRxId != 0 then readU32 image offsets.canRxId else data.canRxId
  canRxLength := if offsets.canRxLength != 0 then image offsets.canRxLength else data.canRxLength
  canRxData := if offsets.canRxData != 0 then load image offsets.canRxData 64 else data.canRxData
  rs4851TxLength :=
    if offsets.rs4851TxLength != 0 then image offsets.rs4851TxLength else data.rs4851TxLength
  rs4851TxData :=
    if offsets.rs4851TxData != 0 then load image offsets.rs4851TxData 64 else data.rs4851TxData
  rs4852TxLength :=
    if offsets.rs4852TxLength != 0 then image offsets.rs4852TxLength else data.rs4852TxLength
  rs4852TxData :=
    if offsets.rs4852TxData != 0 then load image offsets.rs4852TxData 64 else data.rs4852TxData

end GatewayData

namespace ForceSensorCache

def readWrench {α : Type} (read : Nat → α) (offsets : SriOffsets) : Wrench α :=
  ⟨read offsets.fx, read offsets.fy, read offsets.fz, read offsets.mx, read offsets.my,
    read offsets.mz⟩

/-- `receiveData` for a force sensor: the values of the other format stay. -/
def receive (useFloat : Bool) (offsets : SriOffsets) (image : Memory) (cache : ForceSensorCache) :
    ForceSensorCache where
  dataNo := if offsets.dataNo != pdoOffsetUnset then readU16 image offsets.dataNo else cache.dataNo
  floats :=
    if useFloat && offsets.fx != pdoOffsetUnset then readWrench (readU32 image) offsets
    else cache.floats
  integers :=
    if !useFloat && offsets.fx != pdoOffsetUnset then readWrench (readS32 image) offsets
    else cache.integers
  useFloat := useFloat
  valid := offsets.dataNo != pdoOffsetUnset

end ForceSensorCache

namespace SlaveData

def receive (image : Memory) (axis : Axis) (slave : SlaveData) : SlaveData :=
  if axis.config.isGateway then
    { slave with gatewayData := slave.gatewayData.receive slave.offsets.gateway image }
  else if axis.config.isSriM8126 then
    { slave with
      forceSensor := slave.forceSensor.receive slave.sriUseFloat slave.offsets.sri image }
  else slave

end SlaveData

/-- What a gateway is sent: nothing, in every channel. -/
def GatewayOffsets.clear (offsets : GatewayOffsets) : List Store :=
  whenMapped offsets.canTxId (writeU32 0) ++ whenMapped offsets.canTxLength (writeU8 0) ++
    whenMapped offsets.canTxData (clearBytes 64) ++
      whenMapped offsets.rs4851RxLength (writeU8 0) ++
        whenMapped offsets.rs4851RxData (clearBytes 64) ++
          whenMapped offsets.rs4852RxLength (writeU8 0) ++
            whenMapped offsets.rs4852RxData (clearBytes 64)

def SriOffsets.clear (offsets : SriOffsets) : List Store :=
  whenSet offsets.para1 (writeS16 0) ++ whenSet offsets.para2 (writeS16 0) ++
    whenSet offsets.para3 (writeS16 0)

/-! ### One axis -/

/-- An entry that is not mapped is read as 0. -/
def PdoOffsets.readInputs (image : Memory) (offsets : PdoOffsets) : TxPdo where
  statusWord := readU16 image offsets.statusWord
  operationModeDisplay := readS8 image offsets.operationModeDisplay
  errorCode := if offsets.errorCode != 0 then readU16 image offsets.errorCode else 0
  actualPosition := readS32 image offsets.actualPosition
  actualVelocity := readS32 image offsets.actualVelocity
  actualTorque := readS16 image offsets.actualTorque
  sensorForce2020 :=
    if offsets.sensorForce2020 != 0 then readS32 image offsets.sensorForce2020 else 0
  motorEncoder2021 :=
    if offsets.motorEncoder2021 != 0 then readS32 image offsets.motorEncoder2021 else 0

namespace Axis

/-- `receiveData` for one motor. -/
def receiveImage (image : Memory) (axis : Axis) : Axis :=
  if axis.isMotion then { axis with last := axis.offsets.readInputs image } else axis

/-- `sendDataCommon`: the status word is that of the image. -/
def sendCommonImage (activated wcOk : Bool) (paddingRx : Nat) (axis : Axis) (image : Memory) :
    Axis × Memory :=
  let sent := axis.fsm.sendDataCommon
    { activated := activated
      wcOk := wcOk
      statusWord := readU16 image axis.offsets.statusWord
      faultResetCw := axis.faultResetCw }
  ({ axis with fsm := sent.1 },
    applyAll (writeU16 sent.2 axis.offsets.controlWord ::
      (whenMapped axis.offsets.operationMode (writeS8 axis.mode.value) ++
        whenMapped paddingRx (writeU8 0))) image)

/-- `sendDataCSP`. -/
def sendCspImage (activated : Bool) (axis : Axis) (image : Memory) : Axis × Memory :=
  let position :=
    if activated && !axis.setpoints.positionOverrideActive then axis.setpoints.idleInputPosition
    else axis.setpoints.targetPosition
  ({ axis with setpoints := { axis.setpoints with targetPosition := position } },
    (writeS32 position axis.offsets.targetPosition).apply image)

/-- `sendDataCSV`. -/
def sendCsvImage (activated : Bool) (axis : Axis) (image : Memory) : Axis × Memory :=
  let velocity :=
    if activated && !axis.setpoints.velocityOverrideActive then axis.setpoints.idleInputVelocity
    else axis.setpoints.targetVelocity
  ({ axis with setpoints := { axis.setpoints with targetVelocity := velocity } },
    applyAll (whenMapped axis.offsets.targetVelocity (writeS32 velocity)) image)

/-- `sendDataCST`. -/
def sendCstImage (digitalOutputs : Nat) (axis : Axis) (image : Memory) : Axis × Memory :=
  (axis,
    applyAll (whenMapped axis.offsets.targetTorque (writeS16 axis.setpoints.targetTorque) ++
      whenMapped digitalOutputs (writeS16 0)) image)

/-- One motor in the loop of `sendData`. -/
def sendImage (activated wcOk : Bool) (offsets : SlaveOffsets) (axis : Axis) (image : Memory) :
    Axis × Memory :=
  let merged : Axis := { axis with setpoints := axis.setpoints.mergePending }
  let common := merged.sendCommonImage activated wcOk offsets.paddingRx image
  let position := common.1.sendCspImage activated common.2
  let velocity := position.1.sendCsvImage activated position.2
  velocity.1.sendCstImage offsets.digitalOutputs velocity.2

def safeStores (safeControlWord : UInt16) (axis : Axis) : List Store :=
  whenSet axis.offsets.controlWord (writeU16 safeControlWord) ++
    whenSet axis.offsets.targetPosition (writeS32 axis.setpoints.targetPosition) ++
      whenMapped axis.offsets.targetVelocity (writeS32 axis.setpoints.targetVelocity) ++
        whenMapped axis.offsets.targetTorque (writeS16 axis.setpoints.targetTorque) ++
          whenMapped axis.offsets.operationMode (writeS8 axis.mode.value)

/-- One motor in `applySafeProcessImageOutputs`, whose padding is not written. -/
def applySafeImage (entering : Bool) (actualPosition : Int32) (safeControlWord : UInt16)
    (axis : Axis) (image : Memory) : Axis × Memory :=
  let forced : Axis :=
    { axis.applySafe entering actualPosition safeControlWord with output := axis.output }
  (forced, applyAll (forced.safeStores safeControlWord) image)

end Axis

/-! ### The servo with its image -/

def Domain.isInput (domain : Domain) (slaves address : Nat) : Bool :=
  (List.range slaves).any fun slave =>
    (domain.syncs slave).any fun sync =>
      sync.direction == .input && domain.base slave sync.index ≤ address &&
        address < domain.base slave sync.index + sync.size

/-- The master documents that a cycle on the bus changes the data of the slaves' inputs only. -/
def Domain.KeepsOutputs (domain : Domain) (slaves : Nat) (image received : Memory) : Prop :=
  ∀ address, domain.isInput slaves address = false → received address = image address

/-- The records of the process data that the axes keep are left as they are. The domain is the one that
the servo was initialized with. -/
structure ImageBackend where
  backend : Backend := {}
  domain : Domain := { syncs := fun _ => [], base := fun _ _ => 0 }
  slaves : List SlaveData := []
  image : Memory := fun _ => 0

/-- What a Job cycle finds: the image as `ecrt_master_receive` and `ecrt_domain_process` leave it. -/
structure ImageJobInput where
  freshnessNowNs : Nat
  received : Memory
  domain : DomainState
  timing : JobTiming

namespace ImageBackend

def servo (state : ImageBackend) : Servo := state.backend.servo

def withServo (state : ImageBackend) (servo : Servo) : ImageBackend :=
  { state with backend := { state.backend with servo := servo } }

/-- Every slave must have a layout, and the master must take it. -/
def mappingBus (bus : BusSetup) : BusSetup :=
  { bus with
    configurePdoMapping := fun corrected =>
      bus.configurePdoMapping corrected &&
        corrected.all fun config => (configurePdoMapping config).isSome }

def newSlaves (bus : BusSetup) (motors : List MotorConfig) : List SlaveData :=
  List.zipWith (fun config offsets =>
    { offsets := offsets, sriUseFloat := BusSetup.isSriM8126F32 config })
    motors ((bus.initialSlaves motors).getD [])

/-- `initialize`; there are no process data before `activate`. -/
def initializeServo (bus : BusSetup) (domain : Domain) (config : IghMasterConfig)
    (motors : List MotorConfig) (state : ImageBackend) : ImageBackend :=
  let prepared := state.backend.initializeServo (mappingBus bus) config motors
  if prepared.2 then
    { backend := prepared.1, domain := domain, slaves := newSlaves bus motors }
  else
    { state with backend := prepared.1 }

/-- The process data are mapped by this call. -/
def activates (input : BringUpInput) (state : ImageBackend) : Bool :=
  state.servo.initialized && !state.servo.activated && input.activation.masterActivate &&
    input.activation.domainData

/-- An activation finds the image that the master has set up. -/
def bringUp (input : BringUpInput) (firstImage : Memory) (state : ImageBackend) : ImageBackend :=
  { state with
    backend := (state.backend.bringUp input).1
    image := if state.activates input then firstImage else state.image }

/-- `receiveData`. -/
def receiveData (received : Memory) (state : ImageBackend) : ImageBackend :=
  if state.servo.ready then
    { state.withServo
        { state.servo with axes := state.servo.axes.map (Axis.receiveImage received) } with
      slaves := List.zipWith (SlaveData.receive received) state.servo.axes state.slaves
      image := received }
  else
    state

/-- One slave in the loop of `sendData`. -/
def sendSlave (activated wcOk : Bool) (entry : Axis × SlaveData) (image : Memory) : Axis × Memory :=
  if entry.1.config.isGateway then (entry.1, applyAll entry.2.offsets.gateway.clear image)
  else if entry.1.config.isSriM8126 then (entry.1, applyAll entry.2.offsets.sri.clear image)
  else entry.1.sendImage activated wcOk entry.2.offsets image

/-- `sendData`. -/
def sendData (domainState : DomainState) (state : ImageBackend) : ImageBackend :=
  if state.servo.ready then
    let sent := Footprint.runEach
      (sendSlave state.servo.activated (domainState.wcState == .complete))
      (state.servo.axes.zip state.slaves) state.image
    { state.withServo { state.servo with axes := sent.1 } with image := sent.2 }
  else
    state

/-- One slave in the loop of `applySafeProcessImageOutputs`. -/
def safeSlave (servo : Servo) (entry : Axis × Nat) (image : Memory) : Axis × Memory :=
  if entry.1.isMotion then
    entry.1.applySafeImage (!servo.safeOutputActive) (servo.getPosition (entry.2 % 256))
      (servo.safeControlWord entry.2 entry.1) image
  else
    (entry.1, image)

/-- `applySafeProcessImageOutputs`. -/
def applySafeProcessImageOutputs (state : ImageBackend) : ImageBackend :=
  if state.servo.ready then
    let forced := Footprint.runEach (safeSlave state.servo) state.servo.axes.zipIdx state.image
    { state.withServo
        { state.servo with
          safeOutputActive := true
          axes := forced.1
          explicitFaultResetCycles := state.servo.explicitFaultResetCycles - 1
          explicitFaultResetAxis :=
            if state.servo.explicitFaultResetCycles = 1 then 0xFFFF
            else state.servo.explicitFaultResetAxis } with
      image := forced.2 }
  else
    state

def exchangeOutputs (domainState : DomainState) (state : ImageBackend) : ImageBackend :=
  if state.backend.runtime.safeOutputRequired then state.applySafeProcessImageOutputs
  else (state.withServo { state.servo with safeOutputActive := false }).sendData domainState

/-- One iteration of the loop of `jobThreadMain`. -/
def jobCycle (input : ImageJobInput) (state : ImageBackend) : ImageBackend :=
  let consumed : Backend :=
    { state.backend with runtime := state.backend.runtime.consumePendingDwellFault }
  if !state.backend.runtime.jobRunning then
    state
  else if !state.servo.initialized then
    { state with backend := consumed.finishJobCycle input.timing false }
  else
    let checked : ImageBackend :=
      { state with backend := consumed.checkFreshness input.freshnessNowNs }
    let exchanged := (checked.receiveData input.received).exchangeOutputs input.domain
    { exchanged with
      backend := exchanged.backend.finishJobCycle input.timing input.domain.rxOk }

/-- `getForceSensorSample`: the values as they were received, before their conversion to SI units. -/
def getForceSensorSample (slaveId : UInt8) (state : ImageBackend) :
    Option (UInt16 × (Wrench UInt32 ⊕ Wrench Int32)) :=
  match state.servo.axes[slaveId.toNat]?, state.slaves[slaveId.toNat]? with
  | some axis, some slave =>
      if axis.config.isSriM8126 && slave.forceSensor.valid then
        some (slave.forceSensor.dataNo,
          if slave.forceSensor.useFloat then .inl slave.forceSensor.floats
          else .inr slave.forceSensor.integers)
      else none
  | _, _ => none

end ImageBackend

inductive ImageAction where
  | initializeServo (bus : BusSetup) (domain : Domain) (config : IghMasterConfig)
      (motors : List MotorConfig)
  | bringUp (input : BringUpInput) (firstImage : Memory)
  | setOperational
  | deactivate
  | call (call : ServoCall)
  | requestFaultReset (motorId : UInt8) (allowWithoutFault slavesInOp : Bool)
  | clearCommFault
  | requestSafeOutput
  | releaseSafeOutput
  | job (input : ImageJobInput)

namespace ImageBackend

def next (state : ImageBackend) : ImageAction → ImageBackend
  | .initializeServo bus domain config motors => state.initializeServo bus domain config motors
  | .bringUp input firstImage => state.bringUp input firstImage
  | .setOperational => { state with backend := state.backend.next .setOperational }
  | .deactivate => { state with backend := state.backend.deactivate }
  | .call call => { state with backend := state.backend.next (.call call) }
  | .requestFaultReset motorId allowWithoutFault slavesInOp =>
      { state with
        backend := state.backend.next (.requestFaultReset motorId allowWithoutFault slavesInOp) }
  | .clearCommFault => { state with backend := state.backend.clearCommFault }
  | .requestSafeOutput => { state with backend := state.backend.requestSafeOutput }
  | .releaseSafeOutput => { state with backend := state.backend.releaseSafeOutput.1 }
  | .job input => state.jobCycle input

def machine : Transition.Machine ImageBackend ImageAction where
  next := next

end ImageBackend

/-! ### The records that an image stands for -/

namespace Domain

/-- The value of an object of the slave where the mapping puts it, 0 if it is not mapped. -/
def value (domain : Domain) (image : Memory) (slave : Nat) (index : UInt16) (count : Nat) : Nat :=
  match locate (domain.syncs slave) index 0 with
  | some (sync, bits) => ofBytes (load image (domain.base slave sync + bits / 8) count)
  | none => 0

def valueU16 (domain : Domain) (image : Memory) (slave : Nat) (index : UInt16) : UInt16 :=
  .ofNat (domain.value image slave index 2)

def valueS8 (domain : Domain) (image : Memory) (slave : Nat) (index : UInt16) : Int8 :=
  (UInt8.ofNat (domain.value image slave index 1)).toInt8

def valueS16 (domain : Domain) (image : Memory) (slave : Nat) (index : UInt16) : Int16 :=
  (domain.valueU16 image slave index).toInt16

def valueS32 (domain : Domain) (image : Memory) (slave : Nat) (index : UInt16) : Int32 :=
  (UInt32.ofNat (domain.value image slave index 4)).toInt32

/-- A CoolDrive has its force and encoder values under other objects than a joint module. -/
def eitherObject (domain : Domain) (slave : Nat) (first second : UInt16) : UInt16 :=
  if (locate (domain.syncs slave) first 0).isSome then first else second

def inputs (domain : Domain) (image : Memory) (slave : Nat) : TxPdo where
  statusWord := domain.valueU16 image slave 0x6041
  operationModeDisplay := domain.valueS8 image slave 0x6061
  errorCode := domain.valueU16 image slave 0x603F
  actualPosition := domain.valueS32 image slave 0x6064
  actualVelocity := domain.valueS32 image slave 0x606C
  actualTorque := domain.valueS16 image slave 0x6077
  sensorForce2020 := domain.valueS32 image slave (domain.eitherObject slave 0x2020 0x310B)
  motorEncoder2021 := domain.valueS32 image slave (domain.eitherObject slave 0x2021 0x3108)

def outputs (domain : Domain) (image : Memory) (slave : Nat) : RxPdo where
  controlWord := domain.valueU16 image slave 0x6040
  targetPosition := domain.valueS32 image slave 0x607A
  targetVelocity := domain.valueS32 image slave 0x60FF
  targetTorque := domain.valueS16 image slave 0x6071
  operationMode := domain.valueS8 image slave 0x6060

end Domain

/-- A drive's records of its process data. -/
def Axis.withProcessData (inputs : TxPdo) (outputs : RxPdo) (axis : Axis) : Axis :=
  if axis.isMotion then { axis with input := inputs, output := outputs } else axis

def Servo.withRecords (inputs : Nat → TxPdo) (outputs : Nat → RxPdo) (servo : Servo) : Servo :=
  { servo with
    axes := servo.axes.mapIdx fun slave axis => axis.withProcessData (inputs slave) (outputs slave) }

def Backend.withRecords (inputs : Nat → TxPdo) (outputs : Nat → RxPdo) (backend : Backend) : Backend :=
  { backend with servo := backend.servo.withRecords inputs outputs }

namespace ImageBackend

/-- The backend with records in place of the image. -/
def view (state : ImageBackend) : Backend :=
  state.backend.withRecords (state.domain.inputs state.image) (state.domain.outputs state.image)

/-- The action of a backend with records. -/
def abstractAction (state : ImageBackend) : ImageAction → BackendAction
  | .initializeServo bus _ config motors => .initializeServo (mappingBus bus) config motors
  | .bringUp input _ => .bringUp input
  | .setOperational => .setOperational
  | .deactivate => .deactivate
  | .call call => .call call
  | .requestFaultReset motorId allowWithoutFault slavesInOp =>
      .requestFaultReset motorId allowWithoutFault slavesInOp
  | .clearCommFault => .clearCommFault
  | .requestSafeOutput => .requestSafeOutput
  | .releaseSafeOutput => .releaseSafeOutput
  | .job input =>
      .job { freshnessNowNs := input.freshnessNowNs
             inputs := state.domain.inputs input.received
             domain := input.domain
             timing := input.timing }

end ImageBackend

end IghMaster
