import IghMaster.MasterHistory

/-!
# The joint map

What `map_joints` has to leave in a master, and what a bus that it accepts has to be free of.
-/

namespace IghMaster

namespace AxisConfig

/-- Where the slave is on its bus. -/
def address (slave : AxisConfig) : UInt16 × UInt16 := (slave.busAlias, slave.position)

def isSriM8126 (slave : AxisConfig) : Bool := slave.pdoLayout == .sriM8126

def isNamed (axis : AxisConfig) : Bool := !axis.jointName.isEmpty

def isIdentified (slave : AxisConfig) : Bool := slave.vendorId != 0 && slave.productCode != 0

/-- Neither the name nor the address of one axis is that of the other. -/
def Differs (first second : AxisConfig) : Prop :=
  first.jointName ≠ second.jointName ∧ first.address ≠ second.address

end AxisConfig

structure NoClashes (axes slaves : List AxisConfig) : Prop where
  count : axes.length ≤ 7
  named : ∀ axis ∈ axes, axis.isNamed = true
  names : (axes.map AxisConfig.jointName).Nodup
  identified : ∀ slave ∈ axes ++ slaves, slave.isIdentified = true
  sensors : (axes ++ slaves).countP AxisConfig.isSriM8126 ≤ 1
  addresses : ((axes ++ slaves).map AxisConfig.address).Nodup

namespace Master

/-- The lists pass the checks that come before the first write. -/
def mapListsPass (axes slaves : List AxisConfig) : Bool :=
  validateAxisConfigs axes == .none && validateBusSlaves slaves &&
    !(axes.isEmpty && slaves.isEmpty)

def motorConfigs (axes slaves : List AxisConfig) : List MotorConfig :=
  (axes ++ slaves).map AxisConfig.toMotorConfig

def firstForceSensor (axes slaves : List AxisConfig) : Option Nat :=
  (motorConfigs axes slaves).findIdx? MotorConfig.isSriM8126

/-- The servo is given the lists and takes them. -/
def mapSucceeds (bus : BusSetup) (config : IghMasterConfig) (axes slaves : List AxisConfig)
    (master : Master) : Bool :=
  (motorConfigs axes slaves).countP MotorConfig.isSriM8126 ≤ 1 &&
    (master.backend.initializeServo bus config (motorConfigs axes slaves)).2

/-- The lists pass their checks, and then the call fails. -/
def mapFailsLate (bus : BusSetup) (config : IghMasterConfig) (axes slaves : List AxisConfig)
    (master : Master) : Bool :=
  mapListsPass axes slaves && !master.mapSucceeds bus config axes slaves

/-- The visit is a `map_joints` that returns false. -/
def isRefusedMap (visit : MasterVisit) : Bool :=
  match taken visit with
  | some (.mapJoints bus config axes slaves) =>
      (visit.before.mapJoints bus config axes slaves).2.isSome
  | _ => false

/-- There is a joint name for each mapped axis and it is the name of that axis; a map that is refused
leaves what the master tells of its map. -/
structure MapConsistent (visit : MasterVisit) : Prop where
  count : visit.after.jointNames.length = visit.after.axisCount
  names : ∀ (index : Nat) (axis : AxisConfig),
    visit.after.axes[index]? = some axis → visit.after.jointNames[index]? = some axis.jointName
  kept : isRefusedMap visit = true →
    visit.after.jointNames = visit.before.jointNames ∧
      visit.after.axisCount = visit.before.axisCount ∧
        visit.after.forceSensorSlaveIndex = visit.before.forceSensorSlaveIndex

/-- A map that fails late names the joints and the force sensor that the master already names. -/
def KeepsMap (visit : MasterVisit) : Prop :=
  ∀ bus config axes slaves, taken visit = some (.mapJoints bus config axes slaves) →
    visit.before.mapFailsLate bus config axes slaves = true →
      axes.map AxisConfig.jointName = visit.before.jointNames ∧
        firstForceSensor axes slaves = visit.before.forceSensorSlaveIndex

/-- The members that only `map_joints` writes. -/
def jointMap (master : Master) : List AxisConfig × List String × Option Nat :=
  (master.axes, master.jointNames, master.forceSensorSlaveIndex)

/-! ### A bus with a gateway and a force sensor -/

/-- The offsets of the entries as the gateway and the sensor are mapped one after the other. -/
def gatewayOffset (index : UInt16) (subindex : UInt8) : Int32 :=
  let entry := subindex.toNat
  let afterId := if entry = 1 then 0 else entry + 2
  match index with
  | 0x2000 => Int32.ofNat afterId
  | 0x2002 => Int32.ofNat (68 + entry)
  | 0x2004 => Int32.ofNat (133 + entry)
  | 0x2001 => Int32.ofNat (199 + afterId)
  | 0x2003 => Int32.ofNat (268 + entry)
  | 0x2005 => Int32.ofNat (334 + entry)
  | 0x7010 => Int32.ofNat (398 + 2 * entry)
  | 0x6030 => Int32.ofNat (if entry = 1 then 406 else 400 + 4 * entry)
  | _ => -2

def gatewayBus : BusSetup where
  requestMaster := true
  createDomain := true
  slaveInfo := fun position =>
    if position = 0 then some ⟨0x00000130, 0x01300060⟩
    else if position = 1 then some ⟨0x00000E53, 0x00081261⟩
    else none
  slaveConfig := fun _ => true
  configurePdoMapping := fun _ => true
  regPdoEntry := fun _ => gatewayOffset
  regPdoEntryPos := fun _ _ _ _ => -2

def gatewayAxis : AxisConfig where
  jointName := "gateway"
  vendorId := 0x00000130
  productCode := 0x01300060
  pdoLayout := .gateway

def forceSensor (position : UInt16) : AxisConfig where
  jointName := "force_sensor"
  position := position
  vendorId := 0x00000E53
  productCode := 0x00081261
  pdoLayout := .sriM8126

end Master

end IghMaster
