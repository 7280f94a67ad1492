import IghMaster.Axis

/-!
# The registered entries of a slave

`registerPDOEntries` with all of `PDOOffsets`: the padding of a drive, the channels of a gateway and the
values of a force sensor besides the entries of an axis. A gateway is asked for before the layout here.
-/

namespace IghMaster

/-- What the gateway sends and receives; CAN FD shares the entries of CAN. -/
structure GatewayOffsets where
  canTxId : Nat := 0
  canTxLength : Nat := 0
  canTxData : Nat := 0
  rs4851RxLength : Nat := 0
  rs4851RxData : Nat := 0
  rs4852RxLength : Nat := 0
  rs4852RxData : Nat := 0
  canRxId : Nat := 0
  canRxLength : Nat := 0
  canRxData : Nat := 0
  rs4851TxLength : Nat := 0
  rs4851TxData : Nat := 0
  rs4852TxLength : Nat := 0
  rs4852TxData : Nat := 0
  deriving DecidableEq

structure SriOffsets where
  para1 : Nat := 0
  para2 : Nat := 0
  para3 : Nat := 0
  dataNo : Nat := 0
  fx : Nat := 0
  fy : Nat := 0
  fz : Nat := 0
  mx : Nat := 0
  my : Nat := 0
  mz : Nat := 0
  deriving DecidableEq

/-- `PDOOffsets`. No layout maps digital outputs. -/
structure SlaveOffsets where
  motor : PdoOffsets := {}
  paddingRx : Nat := 0
  paddingTx : Nat := 0
  digitalOutputs : Nat := 0
  gateway : GatewayOffsets := {}
  sri : SriOffsets := {}
  deriving DecidableEq

/-- What `initialize` learns from the bus. A registration returns the offset of its entry, or a
negative error code. -/
structure BusSetup where
  requestMaster : Bool
  createDomain : Bool
  slaveInfo : UInt16 → Option SlaveIdentity
  slaveConfig : Nat → Bool
  configurePdoMapping : List MotorConfig → Bool
  regPdoEntry : Nat → UInt16 → UInt8 → Int32
  regPdoEntryPos : Nat → Nat → Nat → Nat → Int32

namespace BusSetup

/-- VID and PID are taken from the bus where the slave answers. -/
def correctIdentity (bus : BusSetup) (config : MotorConfig) : MotorConfig :=
  match bus.slaveInfo config.position with
  | some identity =>
      { config with vendorId := identity.vendorId, productCode := identity.productCode }
  | none => config

/-- One registration: a negative result fails. -/
def registerEntry (bus : BusSetup) (slave : Nat) (index : UInt16) (subindex : UInt8) : Option Nat :=
  let ret := bus.regPdoEntry slave index subindex
  if ret < 0 then none else some ret.toNatClampNeg

def register (bus : BusSetup) (slave : Nat) (index : UInt16) : Option Nat :=
  bus.registerEntry slave index 0

def registerPos (bus : BusSetup) (slave syncManager entry : Nat) : Option Nat :=
  let ret := bus.regPdoEntryPos slave syncManager 0 entry
  if ret < 0 then none else some ret.toNatClampNeg

/-- The entries that both motor layouts register. -/
def registerMotorEntries (bus : BusSetup) (slave : Nat) : Option PdoOffsets := do
  let controlWord ← bus.register slave 0x6040
  let targetPosition ← bus.register slave 0x607A
  let targetVelocity ← bus.register slave 0x60FF
  let targetTorque ← bus.register slave 0x6071
  let operationMode ← bus.register slave 0x6060
  let statusWord ← bus.register slave 0x6041
  let actualPosition ← bus.register slave 0x6064
  let actualVelocity ← bus.register slave 0x606C
  let actualTorque ← bus.register slave 0x6077
  let operationModeDisplay ← bus.register slave 0x6061
  return { controlWord, targetPosition, targetVelocity, targetTorque, operationMode, statusWord
           actualPosition, actualVelocity, actualTorque, operationModeDisplay }

def isSjd17 (config : MotorConfig) : Bool :=
  config.vendorId == 0x000009CF && config.productCode == 0x00010001

/-- The gap after the outputs and that after the inputs have no object of their own. -/
def registerJointModule (bus : BusSetup) (slave : Nat) (config : MotorConfig) :
    Option SlaveOffsets := do
  let motor ← bus.registerMotorEntries slave
  let paddingRx ← bus.registerPos slave 2 5
  if isSjd17 config then
    let sensorForce2020 ← bus.register slave 0x2020
    let motorEncoder2021 ← bus.register slave 0x2021
    let paddingTx ← bus.registerPos slave 3 7
    return { motor := { motor with sensorForce2020, motorEncoder2021 }, paddingRx, paddingTx }
  else
    let errorCode ← bus.register slave 0x603F
    let paddingTx ← bus.registerPos slave 3 6
    return { motor := { motor with errorCode }, paddingRx, paddingTx }

/-- Both paddings are registered by the same object, which is found among the outputs. -/
def registerCoolDriveJmdt (bus : BusSetup) (slave : Nat) : Option SlaveOffsets := do
  let motor ← bus.registerMotorEntries slave
  let paddingRx ← bus.register slave 0x5FFE
  let paddingTx ← bus.register slave 0x5FFE
  let sensorForce2020 ← bus.register slave 0x310B
  let motorEncoder2021 ← bus.register slave 0x3108
  return { motor := { motor with sensorForce2020, motorEncoder2021 }, paddingRx, paddingTx }

def subindices (first last : Nat) (index : UInt16) : List (UInt16 × UInt8) :=
  (List.range' first (last + 1 - first)).map fun subindex => (index, subindex.toUInt8)

/-- The data bytes after the first: their offsets are not kept. -/
def registerBytes (bus : BusSetup) (slave : Nat) (index : UInt16) (first last : Nat) : Option Unit :=
  if (subindices first last index).all fun entry => 0 ≤ bus.regPdoEntry slave entry.1 entry.2 then
    some ()
  else none

/-- The second RS485 channel may be missing, wholly or in its data. -/
def registerSecondTx (bus : BusSetup) (slave : Nat) : Nat × Nat :=
  match bus.registerEntry slave 0x2005 0x01 with
  | none => (0, 0)
  | some length => (length, (bus.registerEntry slave 0x2005 0x02).getD 0)

def registerGateway (bus : BusSetup) (slave : Nat) : Option GatewayOffsets := do
  let canTxId ← bus.registerEntry slave 0x2000 0x01
  let canTxLength ← bus.registerEntry slave 0x2000 0x02
  let canTxData ← bus.registerEntry slave 0x2000 0x03
  bus.registerBytes slave 0x2000 0x04 0x41
  let rs4851RxLength ← bus.registerEntry slave 0x2002 0x01
  let rs4851RxData ← bus.registerEntry slave 0x2002 0x02
  bus.registerBytes slave 0x2002 0x03 0x41
  let rs4852RxLength ← bus.registerEntry slave 0x2004 0x01
  let rs4852RxData ← bus.registerEntry slave 0x2004 0x02
  bus.registerBytes slave 0x2004 0x03 0x41
  let canRxId ← bus.registerEntry slave 0x2001 0x01
  let canRxLength ← bus.registerEntry slave 0x2001 0x02
  let canRxData ← bus.registerEntry slave 0x2001 0x03
  bus.registerBytes slave 0x2001 0x04 0x42
  let rs4851TxLength ← bus.registerEntry slave 0x2003 0x01
  let rs4851TxData ← bus.registerEntry slave 0x2003 0x02
  bus.registerBytes slave 0x2003 0x03 0x41
  let second := bus.registerSecondTx slave
  return { canTxId, canTxLength, canTxData, rs4851RxLength, rs4851RxData, rs4852RxLength, rs4852RxData
           canRxId, canRxLength, canRxData, rs4851TxLength, rs4851TxData
           rs4852TxLength := second.1, rs4852TxData := second.2 }

def registerSri (bus : BusSetup) (slave : Nat) (useFloat : Bool) : Option SriOffsets := do
  let para1 ← bus.registerEntry slave 0x7010 0x01
  let para2 ← bus.registerEntry slave 0x7010 0x02
  let para3 ← bus.registerEntry slave 0x7010 0x03
  let txIndex := if useFloat then 0x6030 else 0x6020
  let dataNo ← bus.registerEntry slave txIndex 0x01
  let fx ← bus.registerEntry slave txIndex 0x02
  let fy ← bus.registerEntry slave txIndex 0x03
  let fz ← bus.registerEntry slave txIndex 0x04
  let mx ← bus.registerEntry slave txIndex 0x05
  let my ← bus.registerEntry slave txIndex 0x06
  let mz ← bus.registerEntry slave txIndex 0x07
  return { para1, para2, para3, dataNo, fx, fy, fz, mx, my, mz }

def isSriM8126F32 (config : MotorConfig) : Bool :=
  (config.vendorId == 0x00000E53 &&
      (config.productCode == 0x00081261 || config.productCode == 0x00082291)) ||
    (List.range config.modelId.length).any fun start =>
      "f32".toList.isPrefixOf (config.modelId.toList.drop start)

/-- `registerPDOEntries` for one slave. `sri_use_float_` was set before the identity of the slave was
corrected. -/
def registerSlave (bus : BusSetup) (slave : Nat) (useFloat : Bool) (config : MotorConfig) :
    Option SlaveOffsets :=
  if config.isGateway then (bus.registerGateway slave).map fun gateway => { gateway }
  else if config.isSriM8126 then (bus.registerSri slave useFloat).map fun sri => { sri }
  else
    match config.pdoLayout with
    | .jointModule => bus.registerJointModule slave config
    | .coolDriveJmdt => bus.registerCoolDriveJmdt slave
    | _ => none

/-- The identities that are read from the bus decide how a slave is registered, and the configuration
before that whether a sensor sends floats. -/
def initialSlaves (bus : BusSetup) (configs : List MotorConfig) : Option (List SlaveOffsets) :=
  configs.zipIdx.mapM fun entry =>
    bus.registerSlave entry.2 (isSriM8126F32 entry.1) (bus.correctIdentity entry.1)

end BusSetup

/-! ### What the mapping gives to the registration -/

/-- The mapping and the registration take the slave for the same kind. -/
def MotorConfig.registersAsMapped (useFloat : Bool) (config : MotorConfig) : Bool :=
  if config.isGateway then config.pdoLayout != .jointModule && config.pdoLayout != .coolDriveJmdt
  else !config.isSriM8126 || useFloat == BusSetup.isSriM8126F32 config

namespace SlaveOffsets

/-- The entries of a joint module whose outputs and inputs begin at the addresses. -/
def joint (isSjd17 : Bool) (output input : Nat) : SlaveOffsets where
  motor :=
    { controlWord := output
      targetPosition := output + 2
      targetVelocity := output + 6
      targetTorque := output + 10
      operationMode := output + 12
      statusWord := input
      actualPosition := input + 2
      actualVelocity := input + 6
      actualTorque := input + 10
      operationModeDisplay := input + 12
      errorCode := if isSjd17 then 0 else input + 13
      sensorForce2020 := if isSjd17 then input + 13 else 0
      motorEncoder2021 := if isSjd17 then input + 17 else 0 }
  paddingRx := output + 13
  paddingTx := input + (if isSjd17 then 21 else 15)

def jmdt (output input : Nat) : SlaveOffsets where
  motor :=
    { controlWord := output
      operationMode := output + 2
      targetPosition := output + 4
      targetVelocity := output + 8
      targetTorque := output + 12
      statusWord := input
      operationModeDisplay := input + 2
      actualPosition := input + 4
      actualVelocity := input + 8
      actualTorque := input + 12
      sensorForce2020 := input + 14
      motorEncoder2021 := input + 18 }
  paddingRx := output + 3
  paddingTx := output + 3

def ofGateway (output input : Nat) : SlaveOffsets where
  gateway :=
    { canTxId := output
      canTxLength := output + 4
      canTxData := output + 5
      rs4851RxLength := output + 69
      rs4851RxData := output + 70
      rs4852RxLength := output + 134
      rs4852RxData := output + 135
      canRxId := input
      canRxLength := input + 4
      canRxData := input + 5
      rs4851TxLength := input + 70
      rs4851TxData := input + 71
      rs4852TxLength := input + 136
      rs4852TxData := input + 137 }

def ofSri (output input : Nat) : SlaveOffsets where
  sri :=
    { para1 := output
      para2 := output + 2
      para3 := output + 4
      dataNo := input
      fx := input + 2
      fy := input + 6
      fz := input + 10
      mx := input + 14
      my := input + 18
      mz := input + 22 }

/-- The entries of a slave as it is mapped. -/
def mapped (config : MotorConfig) (output input : Nat) : SlaveOffsets :=
  if config.isGateway then ofGateway output input
  else if config.isSriM8126 then ofSri output input
  else if config.pdoLayout == .jointModule then joint (BusSetup.isSjd17 config) output input
  else jmdt output input

end SlaveOffsets

end IghMaster
