import IghMaster.Proof.BackendLatches
import IghMaster.Proof.ImageContents

/-!
# What is known of the slaves without a drive

The servo keeps what gateways and force sensors sent last. At any time that is what their objects held
when the bus last handed over their inputs, or nothing if it has not yet done so.
-/

namespace IghMaster

open ByteMemory Footprint Transition

/-! ### By objects -/

namespace Domain

/-- Where the mapping puts an object. -/
def entryAddress (domain : Domain) (slave : Nat) (index : UInt16) (subindex : Nat) : Nat :=
  match locate (domain.syncs slave) index subindex.toUInt8 with
  | some (sync, bits) => domain.base slave sync + bits / 8
  | none => 0

/-- The 64 data bytes of a channel, by the subindex of the first. -/
def channelBytes (domain : Domain) (image : Memory) (slave : Nat) (index : UInt16) (first : Nat) :
    List UInt8 :=
  (List.range 64).map fun byte => image (domain.entryAddress slave index (first + byte))

/-- What a gateway sends; an identifier at address 0 is not read. -/
def gatewayInputs (domain : Domain) (image : Memory) (slave : Nat) : GatewayData where
  canRxId :=
    if domain.entryAddress slave 0x2001 0x01 ≠ 0 then
      readU32 image (domain.entryAddress slave 0x2001 0x01)
    else 0
  canRxLength := image (domain.entryAddress slave 0x2001 0x02)
  canRxData := domain.channelBytes image slave 0x2001 0x03
  rs4851TxLength := image (domain.entryAddress slave 0x2003 0x01)
  rs4851TxData := domain.channelBytes image slave 0x2003 0x02
  rs4852TxLength := image (domain.entryAddress slave 0x2005 0x01)
  rs4852TxData := domain.channelBytes image slave 0x2005 0x02

def sensorObject (useFloat : Bool) : UInt16 := if useFloat then 0x6030 else 0x6020

def sensorWrench {α : Type} (domain : Domain) (read : Nat → α) (slave : Nat) (useFloat : Bool) :
    Wrench α :=
  let address (subindex : Nat) := domain.entryAddress slave (sensorObject useFloat) subindex
  ⟨read (address 2), read (address 3), read (address 4), read (address 5), read (address 6),
    read (address 7)⟩

def sensorInputs (domain : Domain) (image : Memory) (slave : Nat) (useFloat : Bool) :
    ForceSensorCache where
  dataNo := readU16 image (domain.entryAddress slave (sensorObject useFloat) 1)
  floats := if useFloat then domain.sensorWrench (readU32 image) slave useFloat else ⟨0, 0, 0, 0, 0, 0⟩
  integers :=
    if useFloat then ⟨0, 0, 0, 0, 0, 0⟩ else domain.sensorWrench (readS32 image) slave useFloat
  useFloat := useFloat
  valid := true

/-- The number and the values of a sample, in the format that the sensor sends. -/
def sensorSample (domain : Domain) (image : Memory) (slave : Nat) (useFloat : Bool) :
    UInt16 × (Wrench UInt32 ⊕ Wrench Int32) :=
  (readU16 image (domain.entryAddress slave (sensorObject useFloat) 1),
    if useFloat then .inl (domain.sensorWrench (readU32 image) slave useFloat)
    else .inr (domain.sensorWrench (readS32 image) slave useFloat))

section Address

variable {domain : Domain} {slave : Nat} {syncs : List SyncManager} {index : UInt16}

theorem entryAddress_eq (hsyncs : domain.syncs slave = syncs) {subindex sync offset : Nat}
    (hlocate : locate syncs index subindex.toUInt8 = some (sync, 8 * offset)) :
    domain.entryAddress slave index subindex = domain.base slave sync + offset := by
  rw [entryAddress, hsyncs, hlocate]
  change domain.base slave sync + 8 * offset / 8 = _
  rw [Nat.mul_div_cancel_left offset (by decide)]

/-- The bytes of a channel lie one after the other, so that they are read at once. -/
theorem channelBytes_eq (hsyncs : domain.syncs slave = syncs) (image : Memory)
    {first sync offset : Nat}
    (hlocate : ∀ byte < 64, locate syncs index (first + byte).toUInt8 =
      some (sync, 8 * (offset + byte))) :
    domain.channelBytes image slave index first =
      load image (domain.base slave sync + offset) 64 := by
  refine List.map_congr_left fun byte hbyte => ?_
  rw [entryAddress_eq hsyncs (hlocate byte (List.mem_range.mp hbyte)), Nat.add_assoc]

end Address

end Domain

namespace SlaveData

variable {domain : Domain} {slave : Nat} {data : SlaveData}

theorem receive_gateway (hsyncs : domain.syncs slave = gatewaySyncs)
    (hoffsets : data.offsets = .ofGateway (domain.base slave 2) (domain.base slave 3))
    (hbefore : domain.base slave 3 = 0 → data.gatewayData.canRxId = 0) (image : Memory) :
    data.gatewayData.receive data.offsets.gateway image = domain.gatewayInputs image slave := by
  have address {index : UInt16} {subindex offset : Nat}
      (hlocate : locate gatewaySyncs index subindex.toUInt8 = some (3, 8 * offset)) :
      domain.entryAddress slave index subindex = domain.base slave 3 + offset :=
    Domain.entryAddress_eq hsyncs hlocate
  have channel {index : UInt16} {first offset : Nat}
      (hlocate : ∀ byte < 64, locate gatewaySyncs index (first + byte).toUInt8 =
        some (3, 8 * (offset + byte))) :
      domain.channelBytes image slave index first = load image (domain.base slave 3 + offset) 64 :=
    Domain.channelBytes_eq hsyncs image hlocate
  have hid := address (by decide +kernel :
    locate gatewaySyncs 0x2001 (Nat.toUInt8 0x01) = some (3, 8 * 0))
  have hlength := address (by decide +kernel :
    locate gatewaySyncs 0x2001 (Nat.toUInt8 0x02) = some (3, 8 * 4))
  have hlength1 := address (by decide +kernel :
    locate gatewaySyncs 0x2003 (Nat.toUInt8 0x01) = some (3, 8 * 70))
  have hlength2 := address (by decide +kernel :
    locate gatewaySyncs 0x2005 (Nat.toUInt8 0x01) = some (3, 8 * 136))
  have hdata := channel (by decide +kernel : ∀ byte < 64,
    locate gatewaySyncs 0x2001 (0x03 + byte).toUInt8 = some (3, 8 * (5 + byte)))
  have hdata1 := channel (by decide +kernel : ∀ byte < 64,
    locate gatewaySyncs 0x2003 (0x02 + byte).toUInt8 = some (3, 8 * (71 + byte)))
  have hdata2 := channel (by decide +kernel : ∀ byte < 64,
    locate gatewaySyncs 0x2005 (0x02 + byte).toUInt8 = some (3, 8 * (137 + byte)))
  rw [hoffsets, GatewayData.receive, Domain.gatewayInputs, hid, hlength, hlength1, hlength2, hdata,
    hdata1, hdata2]
  simp only [SlaveOffsets.ofGateway, Nat.add_zero, bne_iff_ne, ne_eq, Nat.add_eq_zero_iff,
    OfNat.ofNat_ne_zero, and_false, not_false_eq_true, if_true]
  congr 1
  split
  · rfl
  · rename_i hzero
    exact hbefore (by simpa using hzero)

theorem receive_sensor {useFloat : Bool} (hsyncs : domain.syncs slave = sriSyncs useFloat)
    (hoffsets : data.offsets = .ofSri (domain.base slave 2) (domain.base slave 3))
    (hset : domain.base slave 3 + 2 < pdoOffsetUnset)
    (hfloats : useFloat = false → data.forceSensor.floats = ⟨0, 0, 0, 0, 0, 0⟩)
    (hintegers : useFloat = true → data.forceSensor.integers = ⟨0, 0, 0, 0, 0, 0⟩) (image : Memory) :
    data.forceSensor.receive useFloat data.offsets.sri image =
      domain.sensorInputs image slave useFloat := by
  have address {subindex offset : Nat}
      (hlocate : locate (sriSyncs useFloat) (Domain.sensorObject useFloat) subindex.toUInt8 =
        some (3, 8 * offset)) :
      domain.entryAddress slave (Domain.sensorObject useFloat) subindex =
        domain.base slave 3 + offset :=
    Domain.entryAddress_eq hsyncs hlocate
  have hnumber := address (by cases useFloat <;> decide : locate (sriSyncs useFloat)
    (Domain.sensorObject useFloat) (Nat.toUInt8 1) = some (3, 8 * 0))
  have hfx := address (by cases useFloat <;> decide : locate (sriSyncs useFloat)
    (Domain.sensorObject useFloat) (Nat.toUInt8 2) = some (3, 8 * 2))
  have hfy := address (by cases useFloat <;> decide : locate (sriSyncs useFloat)
    (Domain.sensorObject useFloat) (Nat.toUInt8 3) = some (3, 8 * 6))
  have hfz := address (by cases useFloat <;> decide : locate (sriSyncs useFloat)
    (Domain.sensorObject useFloat) (Nat.toUInt8 4) = some (3, 8 * 10))
  have hmx := address (by cases useFloat <;> decide : locate (sriSyncs useFloat)
    (Domain.sensorObject useFloat) (Nat.toUInt8 5) = some (3, 8 * 14))
  have hmy := address (by cases useFloat <;> decide : locate (sriSyncs useFloat)
    (Domain.sensorObject useFloat) (Nat.toUInt8 6) = some (3, 8 * 18))
  have hmz := address (by cases useFloat <;> decide : locate (sriSyncs useFloat)
    (Domain.sensorObject useFloat) (Nat.toUInt8 7) = some (3, 8 * 22))
  have hdataNo : domain.base slave 3 ≠ pdoOffsetUnset := by omega
  have hvalues : domain.base slave 3 + 2 ≠ pdoOffsetUnset := by omega
  rw [hoffsets, ForceSensorCache.receive, Domain.sensorInputs, Domain.sensorWrench,
    Domain.sensorWrench, hnumber]
  dsimp only
  rw [hfx, hfy, hfz, hmx, hmy, hmz]
  cases useFloat with
  | false =>
      simp [SlaveOffsets.ofSri, hdataNo, hvalues, ForceSensorCache.readWrench, hfloats]
  | true =>
      simp [SlaveOffsets.ofSri, hdataNo, hvalues, ForceSensorCache.readWrench, hintegers]

end SlaveData

namespace ImageBackend

/-- The image that a Job cycle receives, if it runs. -/
def receivedBy (visit : Visit ImageBackend ImageAction) : Option Memory :=
  match visit.action with
  | .job input =>
      if visit.before.backend.runtime.jobRunning then some input.received
      else none
  | _ => none

/-- The image that the last Job cycle of the history read. -/
def lastReceived (history : List (Visit ImageBackend ImageAction)) : Option Memory :=
  history.findSome? receivedBy

/-- What is known of a slave when the image was the last one received. -/
def knownOf (domain : Domain) (slave : Nat) (config : MotorConfig) (useFloat : Bool) :
    Option Memory → GatewayData × ForceSensorCache
  | none => ({}, {})
  | some image =>
      if config.isGateway then (domain.gatewayInputs image slave, {})
      else if config.isSriM8126 then ({}, domain.sensorInputs image slave useFloat)
      else ({}, {})

section KnownOf

variable {domain : Domain} {slave : Nat} {config : MotorConfig} {useFloat : Bool}

theorem knownOf_gateway (hgateway : config.isGateway = true)
    (hsyncs : domain.syncs slave = gatewaySyncs) (received : Option Memory) :
    (knownOf domain slave config useFloat received).2 = {} ∧
      (domain.base slave 3 = 0 →
        (knownOf domain slave config useFloat received).1.canRxId = 0) := by
  cases received with
  | none => exact ⟨rfl, fun _ => rfl⟩
  | some image =>
      have hid : domain.entryAddress slave 0x2001 0x01 = domain.base slave 3 + 0 :=
        Domain.entryAddress_eq hsyncs (by decide +kernel)
      rw [knownOf, if_pos hgateway]
      refine ⟨rfl, fun hzero => ?_⟩
      dsimp only [Domain.gatewayInputs]
      rw [hid, hzero, if_neg (by simp)]

theorem knownOf_sensor (hgateway : config.isGateway = false) (hsri : config.isSriM8126 = true)
    (received : Option Memory) :
    (knownOf domain slave config useFloat received).1 = {} ∧
      (useFloat = false →
        (knownOf domain slave config useFloat received).2.floats = ⟨0, 0, 0, 0, 0, 0⟩) ∧
      (useFloat = true →
        (knownOf domain slave config useFloat received).2.integers = ⟨0, 0, 0, 0, 0, 0⟩) := by
  cases received with
  | none => exact ⟨rfl, fun _ => rfl, fun _ => rfl⟩
  | some image =>
      rw [knownOf, if_neg (by simp [hgateway]), if_pos hsri]
      refine ⟨rfl, fun hfloat => ?_, fun hfloat => ?_⟩
      · rw [hfloat]
        rfl
      · rw [hfloat]
        rfl

theorem knownOf_drive (hgateway : config.isGateway = false) (hsri : config.isSriM8126 = false)
    (received : Option Memory) : knownOf domain slave config useFloat received = ({}, {}) := by
  cases received with
  | none => rfl
  | some image => rw [knownOf, if_neg (by simp [hgateway]), if_neg (by simp [hsri])]

end KnownOf

/-- Every slave is known by the last image that was received. -/
def Known (received : Option Memory) (state : ImageBackend) : Prop :=
  ∀ (slave : Nat) (axis : Axis) (data : SlaveData), state.servo.axes[slave]? = some axis →
    state.slaves[slave]? = some data →
      (data.gatewayData, data.forceSensor) =
        knownOf state.domain slave axis.config data.sriUseFloat received

namespace Known

variable {state : ImageBackend} {received : Option Memory}

/-- What a slave receives does not depend on what was known before. -/
theorem receive (hknown : Known received state) (hwired : state.Wired) {slave : Nat} {axis : Axis}
    {data : SlaveData} (haxis : state.servo.axes[slave]? = some axis)
    (hdata : state.slaves[slave]? = some data) (image : Memory) :
    ((data.receive image axis).gatewayData, (data.receive image axis).forceSensor) =
      knownOf state.domain slave axis.config data.sriUseFloat (some image) := by
  obtain ⟨hlaid, -⟩ := hwired.laid haxis hdata
  have hset := (hwired.set slave (Wired.lt_of_axis haxis)).2
  have hbefore := hknown slave axis data haxis hdata
  have hgatewayData := congrArg Prod.fst hbefore
  have hforceSensor := congrArg Prod.snd hbefore
  dsimp only at hgatewayData hforceSensor
  rcases hlaid.kinds with ⟨-, hgateway, hsri⟩ | ⟨hgateway, hsyncs, hoffsets⟩ |
      ⟨hgateway, hsri, hsyncs, hoffsets⟩
  · rw [SlaveData.receive, if_neg (by simp [hgateway]), if_neg (by simp [hsri]), hbefore,
      knownOf_drive hgateway hsri, knownOf_drive hgateway hsri]
  · obtain ⟨hnone, hid⟩ := @knownOf_gateway state.domain slave axis.config data.sriUseFloat hgateway
      hsyncs received
    rw [← hgatewayData] at hid
    rw [SlaveData.receive, if_pos hgateway, knownOf, if_pos hgateway, hforceSensor, hnone,
      SlaveData.receive_gateway hsyncs hoffsets hid]
  · obtain ⟨hnone, hfloats, hintegers⟩ :=
      @knownOf_sensor state.domain slave axis.config data.sriUseFloat hgateway hsri received
    rw [← hforceSensor] at hfloats hintegers
    rw [SlaveData.receive, if_neg (by simp [hgateway]), if_pos hsri, knownOf,
      if_neg (by simp [hgateway]), if_pos hsri, hgatewayData, hnone,
      SlaveData.receive_sensor hsyncs hoffsets hset hfloats hintegers]

/-- What leaves the slaves, the domain and the wiring leaves what is known. -/
theorem of_wirings (hknown : Known received state) {state' : ImageBackend}
    (hdomain : state'.domain = state.domain) (hslaves : state'.slaves = state.slaves)
    (haxes : state'.servo.axes.map Axis.wiring = state.servo.axes.map Axis.wiring) :
    Known received state' := by
  intro slave axis data haxis hdata
  have hbefore : state.servo.axes[slave]?.map Axis.wiring = some axis.wiring := by
    rw [← List.getElem?_map, ← haxes, List.getElem?_map, haxis]
    rfl
  obtain ⟨axis', haxis', hsame⟩ := Option.map_eq_some_iff.mp hbefore
  rw [hslaves] at hdata
  rw [hdomain, ← (Prod.mk.inj hsame).1]
  exact hknown slave axis' data haxis' hdata

theorem receiveData (hknown : Known received state) (hwired : state.Wired) (image : Memory)
    (hready : state.servo.ready = true) : Known (some image) (state.receiveData image) := by
  intro slave axis data haxis hdata
  rw [Wired.receiveData_of_ready hready] at haxis hdata ⊢
  change (state.servo.axes.map _)[slave]? = some axis at haxis
  change (List.zipWith _ state.servo.axes state.slaves)[slave]? = some data at hdata
  rw [List.getElem?_map, Option.map_eq_some_iff] at haxis
  obtain ⟨before, hbefore, rfl⟩ := haxis
  rw [List.getElem?_zipWith_eq_some] at hdata
  obtain ⟨before', dataBefore, hbefore', hdataBefore, rfl⟩ := hdata
  obtain rfl : before = before' := Option.some.inj (hbefore.symm.trans hbefore')
  have hwiring := congrArg Prod.fst (wiring_receiveImage image before)
  have hfloat := congrArg Prod.snd
    (SlaveData.wiring_receive image before dataBefore)
  have hreceived := hknown.receive hwired hbefore hdataBefore image
  change (before.receiveImage image).config = before.config at hwiring
  change (dataBefore.receive image before).sriUseFloat =
    dataBefore.sriUseFloat at hfloat
  rw [hwiring, hfloat]
  exact hreceived

theorem exchangeOutputs (hknown : Known received state) (hwired : state.Wired)
    (domainState : DomainState) : Known received (state.exchangeOutputs domainState) := by
  obtain ⟨hdomain, hslaves⟩ := @Wired.slaves_exchangeOutputs state domainState
  refine hknown.of_wirings hdomain hslaves ?_
  unfold ImageBackend.exchangeOutputs
  split
  · exact hwired.wirings_applySafe
  · exact hwired.released.wirings_sendData domainState

theorem jobCycle (hknown : Known received state) (hwired : state.Wired) (input : ImageJobInput) :
    Known
      (if state.backend.runtime.jobRunning then some input.received
        else received) (state.jobCycle input) := by
  cases hrunning : state.backend.runtime.jobRunning with
  | false =>
      have hsame : state.jobCycle input = state := by
        rw [ImageBackend.jobCycle, hrunning, if_pos (by rfl)]
      rw [if_neg Bool.false_ne_true, hsame]
      exact hknown
  | true =>
      have hchecked := hwired.checked input.freshnessNowNs
      have hready : (state.checked input.freshnessNowNs).servo.ready = true := by
        have hstill := jobRunning_checked input.freshnessNowNs state
        exact hchecked.formed.ready_eq.trans (hstill.trans hrunning)
      have hknownChecked : Known received (state.checked input.freshnessNowNs) :=
        hknown.of_wirings rfl rfl (wirings_checked input.freshnessNowNs state)
      have hreceived := hknownChecked.receiveData hchecked input.received hready
      have hsent := hreceived.exchangeOutputs (hchecked.receiveData_wired input.received) input.domain
      rw [if_pos rfl, hwired.jobCycle_of_running hrunning]
      exact hsent.of_wirings rfl rfl rfl

theorem newSlaves {bus : BusSetup} {domain : Domain} {motors : List MotorConfig} {backend : Backend} :
    Known none { backend := backend, domain := domain, slaves := newSlaves bus motors } := by
  intro slave axis data _ hdata
  change (List.zipWith _ motors _)[slave]? = some data at hdata
  rw [List.getElem?_zipWith_eq_some] at hdata
  obtain ⟨motor, offsets, -, -, rfl⟩ := hdata
  rfl

end Known

/-! ### Over a run -/

/-- What is known of the slaves is what the history tells. -/
structure KnownRun (config : ImageConfig) : Prop where
  wired : config.state.Wired
  none_of_fresh : config.state.servo.initialized = false → lastReceived config.history = none
  known : Known (lastReceived config.history) config.state

theorem initialized_next {state : ImageBackend} (hwired : state.Wired) {action : ImageAction}
    (hserved : state.IsServed action) (hinitialized : state.servo.initialized = true) :
    (state.next action).servo.initialized = true := by
  have hformed := formed_view.mpr hwired.formed
  have hsame := Backend.configuration_next hformed fun (_ : BusSetup) _ _
    (_ : state.abstractAction action = _) => hinitialized
  rw [← view_next hwired hserved] at hsame
  exact (congrArg Servo.initialized hsame).trans hinitialized

theorem lastReceived_cons (visit : Visit ImageBackend ImageAction)
    (history : List (Visit ImageBackend ImageAction)) :
    lastReceived (visit :: history) = (receivedBy visit).or (lastReceived history) := by
  rw [lastReceived, List.findSome?_cons]
  cases receivedBy visit <;> rfl

theorem lastReceived_job (state : ImageBackend) (input : ImageJobInput)
    (history : List (Visit ImageBackend ImageAction)) :
    lastReceived (machine.visit state (.job input) :: history) =
      if state.backend.runtime.jobRunning then some input.received
      else lastReceived history := by
  have hvisit : receivedBy (machine.visit state (.job input)) =
      if state.backend.runtime.jobRunning then some input.received
      else none := rfl
  rw [lastReceived_cons, hvisit]
  split <;> rfl

/-- A Job cycle finds the servo initialized. -/
theorem receivedBy_of_fresh {state : ImageBackend} (hwired : state.Wired)
    (hfresh : state.servo.initialized = false) (action : ImageAction) :
    receivedBy (machine.visit state action) = none := by
  have hidle : state.backend.runtime.jobRunning = false := by
    rw [← hwired.formed.ready_eq]
    change (state.servo.initialized && state.servo.activated) = false
    rw [hfresh, Bool.false_and]
  cases action with
  | job input =>
      have hvisit : receivedBy (machine.visit state (.job input)) =
          if state.backend.runtime.jobRunning then some input.received
          else none := rfl
      rw [hvisit, hidle, if_neg Bool.false_ne_true]
  | _ => rfl

theorem KnownRun.advance {config : ImageConfig} (hrun : KnownRun config) {action : ImageAction}
    (hserved : config.state.IsServed action) : KnownRun (machine.advance config action) := by
  have hwired := hrun.wired
  refine ⟨hwired.next hserved, fun hfresh => ?_, ?_⟩
  · have hbefore : config.state.servo.initialized = false := by
      rw [← Bool.not_eq_true]
      intro hinitialized
      have hnext := initialized_next hwired hserved hinitialized
      rw [Machine.advance_state] at hfresh
      exact absurd (hfresh.symm.trans hnext) Bool.false_ne_true
    rw [Machine.advance_history, lastReceived_cons, receivedBy_of_fresh hwired hbefore,
      hrun.none_of_fresh hbefore]
    rfl
  · rw [Machine.advance_history, Machine.advance_state]
    cases action with
    | job input =>
        rw [lastReceived_job]
        exact hrun.known.jobCycle hwired input
    | initializeServo bus domain config' motors =>
        rw [lastReceived_cons]
        rcases initializeServo_cases bus domain config' motors config.state with
          ⟨servo, haxes, hfailed, -⟩ | ⟨axes, -, hfresh, backend, -, hdone, -⟩
        · change Known (lastReceived config.history)
            (config.state.initializeServo bus domain config' motors)
          rw [hfailed]
          exact hrun.known.of_wirings rfl rfl (congrArg (List.map Axis.wiring) haxes)
        · change Known (lastReceived config.history)
            (config.state.initializeServo bus domain config' motors)
          rw [hdone, hrun.none_of_fresh hfresh]
          exact Known.newSlaves
    | _ =>
        exact hrun.known.of_wirings rfl rfl
          (hwired.wirings_next hserved fun _ _ _ _ => ImageAction.noConfusion)

theorem knownRun_exec {actions : List ImageAction} (hserved : IsServedRun actions) :
    KnownRun (machine.exec (Config.start {}) actions) := by
  have hstart : KnownRun (Config.start {}) :=
    ⟨wired_default, fun _ => rfl, fun _ _ _ haxis => absurd haxis.symm (Option.some_ne_none _)⟩
  exact machine.exec_invariant_of_meets (fun _ _ hbefore haction => hbefore.advance haction) hstart
    hserved

theorem getForceSensorSample_of_known {state : ImageBackend} {slaveId : UInt8} {axis : Axis}
    {data : SlaveData} (haxis : state.servo.axes[slaveId.toNat]? = some axis)
    (hdata : state.slaves[slaveId.toNat]? = some data) (hgateway : axis.config.isGateway = false)
    (hsri : axis.config.isSriM8126 = true) {received : Option Memory}
    (hknown : data.forceSensor =
      (knownOf state.domain slaveId.toNat axis.config data.sriUseFloat received).2) :
    state.getForceSensorSample slaveId =
      received.map fun image =>
        state.domain.sensorSample image slaveId.toNat data.sriUseFloat := by
  rw [getForceSensorSample, haxis, hdata]
  dsimp only
  cases received with
  | none =>
      have hcache : data.forceSensor = {} := hknown
      rw [hcache, hsri]
      rfl
  | some image =>
      have hcache : data.forceSensor =
          state.domain.sensorInputs image slaveId.toNat data.sriUseFloat := by
        rw [hknown, knownOf, if_neg (by simp [hgateway]), if_pos hsri]
      rw [hcache, hsri, Option.map_some, Domain.sensorSample, Domain.sensorInputs]
      cases data.sriUseFloat <;> rfl

/-- Whatever the run: the data of a gateway and the sample of a force sensor are what their objects held
in the last image that was received, and there is no sample before or of any other slave. -/
theorem exec_known {actions : List ImageAction} (hserved : IsServedRun actions) :
    let config := machine.exec (Config.start {}) actions
    let state := config.state
    (∀ (slave : Nat) (axis : Axis) (data : SlaveData), state.servo.axes[slave]? = some axis →
        state.slaves[slave]? = some data → axis.config.isGateway = true →
          data.gatewayData =
            ((lastReceived config.history).map fun image =>
              state.domain.gatewayInputs image slave).getD {}) ∧
      (∀ (slaveId : UInt8) (axis : Axis) (data : SlaveData),
        state.servo.axes[slaveId.toNat]? = some axis → state.slaves[slaveId.toNat]? = some data →
          axis.config.isGateway = false → axis.config.isSriM8126 = true →
            state.getForceSensorSample slaveId =
              (lastReceived config.history).map fun image =>
                state.domain.sensorSample image slaveId.toNat data.sriUseFloat) ∧
      ∀ slaveId : UInt8, (∀ axis, state.servo.axes[slaveId.toNat]? = some axis →
        axis.config.isSriM8126 = false) → state.getForceSensorSample slaveId = none := by
  intro config state
  have hrun : KnownRun config := knownRun_exec hserved
  refine ⟨fun slave axis data haxis hdata hgateway => ?_,
    fun slaveId axis data haxis hdata hgateway hsri => ?_, fun slaveId hother => ?_⟩
  · have hknown := congrArg Prod.fst (hrun.known slave axis data haxis hdata)
    refine hknown.trans ?_
    cases lastReceived config.history with
    | none => rfl
    | some image =>
        rw [knownOf, if_pos hgateway]
        rfl
  · have hknown := congrArg Prod.snd (hrun.known slaveId.toNat axis data haxis hdata)
    exact getForceSensorSample_of_known haxis hdata hgateway hsri hknown
  · unfold getForceSensorSample
    split
    · rename_i axis data haxis hdata
      rw [hother axis haxis, Bool.false_and, if_neg Bool.false_ne_true]
    · rfl

theorem exec_known_fourSlaves :
    let config := machine.exec (Config.start {}) (exchangeRun fourSlaves)
    let state := config.state
    (∀ (slave : Nat) (axis : Axis) (data : SlaveData), state.servo.axes[slave]? = some axis →
        state.slaves[slave]? = some data → axis.config.isGateway = true →
          data.gatewayData =
            ((lastReceived config.history).map fun image =>
              state.domain.gatewayInputs image slave).getD {}) ∧
      (∀ (slaveId : UInt8) (axis : Axis) (data : SlaveData),
        state.servo.axes[slaveId.toNat]? = some axis → state.slaves[slaveId.toNat]? = some data →
          axis.config.isGateway = false → axis.config.isSriM8126 = true →
            state.getForceSensorSample slaveId =
              (lastReceived config.history).map fun image =>
                state.domain.sensorSample image slaveId.toNat data.sriUseFloat) ∧
      ∀ slaveId : UInt8, (∀ axis, state.servo.axes[slaveId.toNat]? = some axis →
        axis.config.isSriM8126 = false) → state.getForceSensorSample slaveId = none :=
  exec_known (isServedRun_exchangeRun (by decide) initializeServo_fourSlaves)

end ImageBackend

end IghMaster
