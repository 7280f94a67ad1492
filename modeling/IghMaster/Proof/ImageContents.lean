import IghMaster.Proof.ImageRuns

/-!
# What the image can hold

The outputs of gateways and force sensors stay zero, and so does every byte that is not an input or one
of the entries that drives a motor.
-/

namespace IghMaster

open ByteMemory Footprint Transition

abbrev ImageConfig := Config ImageBackend ImageAction

/-- The objects by which a drive is told what to do, with their bytes. -/
def drivenObjects : List (UInt16 × Nat) :=
  [(0x6040, 2), (0x607A, 4), (0x60FF, 4), (0x6071, 2), (0x6060, 1)]

namespace Domain

/-- The bytes of an object where the mapping puts it. -/
def entryBytes (domain : Domain) (slave : Nat) (index : UInt16) (count : Nat) : Set Nat :=
  { address | ∃ sync bits, locate (domain.syncs slave) index 0 = some (sync, bits) ∧
      domain.base slave sync + bits / 8 ≤ address ∧
        address < domain.base slave sync + bits / 8 + count }

def drivenBytes (domain : Domain) (slave : Nat) : Set Nat :=
  { address | ∃ object ∈ drivenObjects, address ∈ domain.entryBytes slave object.1 object.2 }

theorem mem_drivenBytes {domain : Domain} {slave : Nat} {syncs : List SyncManager}
    (hsyncs : domain.syncs slave = syncs) {index : UInt16} {count : Nat}
    (hobject : (index, count) ∈ drivenObjects) {sync offset : Nat}
    (hlocate : locate syncs index 0 = some (sync, 8 * offset)) {address : Nat}
    (hfirst : domain.base slave sync + offset ≤ address)
    (hstop : address < domain.base slave sync + offset + count) :
    address ∈ domain.drivenBytes slave := by
  have hbytes : 8 * offset / 8 = offset := Nat.mul_div_cancel_left offset (by decide)
  refine ⟨(index, count), hobject, sync, 8 * offset, hsyncs ▸ hlocate, ?_, ?_⟩
  · rw [hbytes]
    exact hfirst
  · rw [hbytes]
    exact hstop

end Domain

namespace Laid

variable {domain : Domain} {slave : Nat} {config : MotorConfig} {useFloat : Bool}
  {offsets : SlaveOffsets}

/-- The entries of a drive's record are its driven bytes. -/
theorem covers_drivenBytes (hlaid : Laid domain slave config useFloat offsets)
    (hmotion : config.isNonMotionSlave = false) {store : Store} {record : RxPdo}
    (hstore : store = writeU16 record.controlWord offsets.motor.controlWord ∨
      store = writeS32 record.targetPosition offsets.motor.targetPosition ∨
        store = writeS32 record.targetVelocity offsets.motor.targetVelocity ∨
          store = writeS16 record.targetTorque offsets.motor.targetTorque ∨
            store = writeS8 record.operationMode offsets.motor.operationMode)
    {address : Nat} (hcovers : store.Covers address) : address ∈ domain.drivenBytes slave := by
  obtain ⟨hfirst, hstop⟩ := hcovers
  cases hlaid with
  | joint hgateway hlayout hsyncs =>
      obtain ⟨h6040, h607A, h60FF, h6071, h6060, -⟩ := locate_joint (BusSetup.isSjd17 config)
      rcases hstore with rfl | rfl | rfl | rfl | rfl
      · exact Domain.mem_drivenBytes hsyncs (by decide : (0x6040, 2) ∈ drivenObjects) h6040 hfirst hstop
      · exact Domain.mem_drivenBytes hsyncs (by decide : (0x607A, 4) ∈ drivenObjects) h607A hfirst hstop
      · exact Domain.mem_drivenBytes hsyncs (by decide : (0x60FF, 4) ∈ drivenObjects) h60FF hfirst hstop
      · exact Domain.mem_drivenBytes hsyncs (by decide : (0x6071, 2) ∈ drivenObjects) h6071 hfirst hstop
      · exact Domain.mem_drivenBytes hsyncs (by decide : (0x6060, 1) ∈ drivenObjects) h6060 hfirst hstop
  | jmdt hgateway hlayout hsyncs =>
      obtain ⟨h6040, h607A, h60FF, h6071, h6060, -⟩ := locate_jmdt
      rcases hstore with rfl | rfl | rfl | rfl | rfl
      · exact Domain.mem_drivenBytes hsyncs (by decide : (0x6040, 2) ∈ drivenObjects) h6040 hfirst hstop
      · exact Domain.mem_drivenBytes hsyncs (by decide : (0x607A, 4) ∈ drivenObjects) h607A hfirst hstop
      · exact Domain.mem_drivenBytes hsyncs (by decide : (0x60FF, 4) ∈ drivenObjects) h60FF hfirst hstop
      · exact Domain.mem_drivenBytes hsyncs (by decide : (0x6071, 2) ∈ drivenObjects) h6071 hfirst hstop
      · exact Domain.mem_drivenBytes hsyncs (by decide : (0x6060, 1) ∈ drivenObjects) h6060 hfirst hstop
  | gateway hgateway hsyncs => simp [MotorConfig.isNonMotionSlave, hgateway] at hmotion
  | sri hgateway hlayout hsyncs =>
      simp [MotorConfig.isNonMotionSlave, MotorConfig.isSriM8126, hlayout] at hmotion

theorem drivenBytes_subset (hlaid : Laid domain slave config useFloat offsets)
    (hmotion : config.isNonMotionSlave = false) :
    domain.drivenBytes slave ⊆ domain.area slave 2 := by
  rintro address ⟨object, hobject, sync, bits, hlocate, hfirst, hstop⟩
  have hsize := (hlaid.outputsAt hmotion).2
  have place {syncs : List SyncManager} {index : UInt16} {count offset : Nat}
      (hknown : locate syncs index 0 = some (2, 8 * offset)) (hle : offset + count ≤ 14)
      (hfound : locate syncs index 0 = some (sync, bits)) : sync = 2 ∧ bits / 8 + count ≤ 14 := by
    rw [hknown] at hfound
    obtain ⟨rfl, rfl⟩ := Prod.mk.inj (Option.some.inj hfound)
    omega
  have hfound : sync = 2 ∧ bits / 8 + object.2 ≤ 14 := by
    simp only [drivenObjects, List.mem_cons, List.not_mem_nil, or_false] at hobject
    cases hlaid with
    | joint hgateway hlayout hsyncs =>
        rw [hsyncs] at hlocate
        obtain ⟨h6040, h607A, h60FF, h6071, h6060, -⟩ := locate_joint (BusSetup.isSjd17 config)
        rcases hobject with rfl | rfl | rfl | rfl | rfl
        · exact place h6040 (by decide) hlocate
        · exact place h607A (by decide) hlocate
        · exact place h60FF (by decide) hlocate
        · exact place h6071 (by decide) hlocate
        · exact place h6060 (by decide) hlocate
    | jmdt hgateway hlayout hsyncs =>
        rw [hsyncs] at hlocate
        obtain ⟨h6040, h607A, h60FF, h6071, h6060, -⟩ := locate_jmdt
        rcases hobject with rfl | rfl | rfl | rfl | rfl
        · exact place h6040 (by decide) hlocate
        · exact place h607A (by decide) hlocate
        · exact place h60FF (by decide) hlocate
        · exact place h6071 (by decide) hlocate
        · exact place h6060 (by decide) hlocate
    | gateway hgateway hsyncs => simp [MotorConfig.isNonMotionSlave, hgateway] at hmotion
    | sri hgateway hlayout hsyncs =>
        simp [MotorConfig.isNonMotionSlave, MotorConfig.isSriM8126, hlayout] at hmotion
  obtain ⟨rfl, hbits⟩ := hfound
  exact ⟨by omega, by omega⟩

end Laid

/-! ### What a slave stores -/

theorem toBytes_zero_mem {count : Nat} {byte : UInt8} (hbyte : byte ∈ toBytes count 0) : byte = 0 := by
  rw [toBytes_zero] at hbyte
  exact List.eq_of_mem_replicate hbyte

theorem GatewayOffsets.clear_zero (offsets : GatewayOffsets) :
    ∀ store ∈ offsets.clear, ∀ byte ∈ store.bytes, byte = 0 := by
  intro store hstore byte hbyte
  simp only [GatewayOffsets.clear, List.mem_append, mem_whenMapped] at hstore
  rcases hstore with (((((⟨-, rfl⟩ | ⟨-, rfl⟩) | ⟨-, rfl⟩) | ⟨-, rfl⟩) | ⟨-, rfl⟩) | ⟨-, rfl⟩) | ⟨-, rfl⟩
  · exact toBytes_zero_mem hbyte
  · exact List.mem_singleton.mp hbyte
  · exact List.eq_of_mem_replicate hbyte
  · exact List.mem_singleton.mp hbyte
  · exact List.eq_of_mem_replicate hbyte
  · exact List.mem_singleton.mp hbyte
  · exact List.eq_of_mem_replicate hbyte

theorem SriOffsets.clear_zero (offsets : SriOffsets) :
    ∀ store ∈ offsets.clear, ∀ byte ∈ store.bytes, byte = 0 := by
  intro store hstore byte hbyte
  simp only [SriOffsets.clear, List.mem_append, mem_whenSet] at hstore
  rcases hstore with (⟨-, rfl⟩ | ⟨-, rfl⟩) | ⟨-, rfl⟩
  · exact toBytes_zero_mem hbyte
  · exact toBytes_zero_mem hbyte
  · exact toBytes_zero_mem hbyte

namespace Laid

variable {domain : Domain} {slave : Nat} {axis : Axis} {data : SlaveData} {live : Set Nat}

/-- In the loop of `sendData` a slave stores zeros but to the bytes that drive it. -/
theorem zeroOutside_sendSlave
    (hlaid : Laid domain slave axis.config data.sriUseFloat data.offsets)
    (hoffsets : axis.offsets = data.offsets.motor)
    (hdriven : axis.isMotion = true → domain.drivenBytes slave ⊆ live) (activated wcOk : Bool)
    {image : Memory} (hzero : ZeroOutside live image) :
    ZeroOutside live (ImageBackend.sendSlave activated wcOk (axis, data) image).2 := by
  rcases hlaid.kinds with ⟨hmotion, -, -⟩ | ⟨hgateway, -, -⟩ | ⟨hgateway, hsri, -, -⟩
  · rw [hlaid.sendSlave_eq hoffsets hmotion]
    refine hzero.applyAll fun store hstore => ?_
    simp only [SlaveOffsets.recordStores, List.mem_cons, List.not_mem_nil, or_false] at hstore
    have hlive := hdriven (by simp [Axis.isMotion, hmotion])
    rcases hstore with rfl | rfl | rfl | rfl | rfl | rfl
    · exact .inl fun address hcovers => hlive (hlaid.covers_drivenBytes hmotion (.inl rfl) hcovers)
    · exact .inl fun address hcovers =>
        hlive (hlaid.covers_drivenBytes hmotion (.inr (.inr (.inr (.inr rfl)))) hcovers)
    · exact .inr fun byte hbyte => List.mem_singleton.mp hbyte
    · exact .inl fun address hcovers =>
        hlive (hlaid.covers_drivenBytes hmotion (.inr (.inl rfl)) hcovers)
    · exact .inl fun address hcovers =>
        hlive (hlaid.covers_drivenBytes hmotion (.inr (.inr (.inl rfl))) hcovers)
    · exact .inl fun address hcovers =>
        hlive (hlaid.covers_drivenBytes hmotion (.inr (.inr (.inr (.inl rfl)))) hcovers)
  · rw [ImageBackend.sendSlave, if_pos hgateway]
    exact hzero.applyAll fun store hstore => .inr (data.offsets.gateway.clear_zero store hstore)
  · rw [ImageBackend.sendSlave, if_neg (by simp [hgateway]), if_pos hsri]
    exact hzero.applyAll fun store hstore => .inr (data.offsets.sri.clear_zero store hstore)

theorem zeroOutside_safeSlave
    (hlaid : Laid domain slave axis.config data.sriUseFloat data.offsets)
    (hoffsets : axis.offsets = data.offsets.motor)
    (hset : domain.base slave 2 + 4 < pdoOffsetUnset)
    (hdriven : axis.isMotion = true → domain.drivenBytes slave ⊆ live) (servo : Servo) (index : Nat)
    {image : Memory} (hzero : ZeroOutside live image) :
    ZeroOutside live (ImageBackend.safeSlave servo (axis, index) image).2 := by
  cases hmotion : axis.config.isNonMotionSlave with
  | true =>
      rw [ImageBackend.safeSlave, if_neg (by simp [Axis.isMotion, hmotion])]
      exact hzero
  | false =>
      rw [hlaid.safeSlave_eq hoffsets hmotion hset]
      refine hzero.applyAll fun store hstore => .inl fun address hcovers => ?_
      simp only [SlaveOffsets.safeRecordStores, List.mem_cons, List.not_mem_nil, or_false] at hstore
      exact hdriven (by simp [Axis.isMotion, hmotion]) (hlaid.covers_drivenBytes hmotion hstore hcovers)

end Laid

/-! ### Over a run -/

namespace ImageBackend

/-- The bytes that a slave's inputs take, or that drive a motor. -/
def live (state : ImageBackend) : Set Nat :=
  { address | ∃ (slave : Nat) (axis : Axis), state.servo.axes[slave]? = some axis ∧
      (address ∈ state.domain.area slave 3 ∨
        (axis.isMotion = true ∧ address ∈ state.domain.drivenBytes slave)) }

theorem live_subset {state state' : ImageBackend} (hdomain : state'.domain = state.domain)
    (haxes : state'.servo.axes.map Axis.wiring = state.servo.axes.map Axis.wiring) :
    state.live ⊆ state'.live := by
  rintro address ⟨slave, axis, haxis, hlive⟩
  have hafter : state'.servo.axes[slave]?.map Axis.wiring = some axis.wiring := by
    rw [← List.getElem?_map, haxes, List.getElem?_map, haxis]
    rfl
  obtain ⟨axis', haxis', hsame⟩ := Option.map_eq_some_iff.mp hafter
  have hmotion : axis'.isMotion = axis.isMotion :=
    congrArg (fun wiring : MotorConfig × PdoOffsets => !wiring.1.isNonMotionSlave) hsame
  refine ⟨slave, axis', haxis', ?_⟩
  rw [hdomain, hmotion]
  exact hlive

/-- No byte but a live one is anything but zero. -/
def Clean (state : ImageBackend) : Prop := ZeroOutside state.live state.image

namespace Clean

variable {state : ImageBackend}

theorem of_wirings (hclean : state.Clean) {state' : ImageBackend}
    (hdomain : state'.domain = state.domain)
    (haxes : state'.servo.axes.map Axis.wiring = state.servo.axes.map Axis.wiring)
    (himage : ZeroOutside state.live state.image → ZeroOutside state.live state'.image) :
    state'.Clean :=
  fun address hout => himage hclean address fun hin => hout (live_subset hdomain haxes hin)

theorem of_zero (himage : state.image = fun _ => 0) : state.Clean := by
  intro address _
  rw [himage]

theorem receiveData (hclean : state.Clean) (hwired : state.Wired) {received : Memory}
    (hkeeps : state.domain.KeepsOutputs state.servo.motorCount state.image received) :
    (state.receiveData received).Clean := by
  cases hready : state.servo.ready with
  | false =>
      rw [ImageBackend.receiveData, hready, if_neg (by simp)]
      exact hclean
  | true =>
      rw [Wired.receiveData_of_ready hready]
      refine hclean.of_wirings rfl (wirings_receiveImage _ _) fun hzero address hout => ?_
      have hother : state.domain.isInput state.servo.motorCount address = false := by
        rw [← Bool.not_eq_true]
        intro hinput
        obtain ⟨slave, hslave, hin⟩ := hwired.mem_area_of_isInput hinput
        exact hout ⟨slave, _, List.getElem?_eq_getElem hslave, .inl hin⟩
      exact (hkeeps address hother).trans (hzero address hout)

theorem drivenBytes_subset {slave : Nat} {axis : Axis} (haxis : state.servo.axes[slave]? = some axis)
    (hmotion : axis.isMotion = true) : state.domain.drivenBytes slave ⊆ state.live :=
  fun _ hin => ⟨slave, axis, haxis, .inr ⟨hmotion, hin⟩⟩

theorem sendData (hclean : state.Clean) (hwired : state.Wired) (domainState : DomainState) :
    (state.sendData domainState).Clean := by
  cases hready : state.servo.ready with
  | false =>
      rw [ImageBackend.sendData, hready, if_neg (by simp)]
      exact hclean
  | true =>
      obtain ⟨-, -, hloop⟩ := sendData_of_ready hready domainState
      have himage := congrArg Prod.snd hloop
      refine hclean.of_wirings (layout_sendData state domainState).1
        (hwired.wirings_sendData domainState) fun hzero => ?_
      dsimp only at himage
      rw [himage]
      refine runEach_preserves (fun entry hentry image hbefore => ?_) hzero
      obtain ⟨slave, hslave⟩ := List.mem_iff_getElem?.mp hentry
      obtain ⟨haxis, hdata⟩ := Wired.getElem?_entries.mp hslave
      obtain ⟨hlaid, hoffsets⟩ := hwired.laid haxis hdata
      exact hlaid.zeroOutside_sendSlave hoffsets (drivenBytes_subset haxis) _ _ hbefore

theorem applySafe (hclean : state.Clean) (hwired : state.Wired) :
    state.applySafeProcessImageOutputs.Clean := by
  cases hready : state.servo.ready with
  | false =>
      rw [ImageBackend.applySafeProcessImageOutputs, hready, if_neg (by simp)]
      exact hclean
  | true =>
      obtain ⟨-, -, hloop⟩ := applySafe_of_ready hready
      have himage := congrArg Prod.snd hloop
      refine hclean.of_wirings (layout_applySafe state).1 hwired.wirings_applySafe fun hzero => ?_
      dsimp only at himage
      rw [himage]
      refine runEach_preserves (fun entry hentry image hbefore => ?_) hzero
      obtain ⟨axis, slave⟩ := entry
      have haxis := List.mem_zipIdx_iff_getElem?.mp hentry
      obtain ⟨data, hdata⟩ := hwired.exists_data haxis
      obtain ⟨hlaid, hoffsets⟩ := hwired.laid haxis hdata
      have hset := (hwired.set slave (Wired.lt_of_axis haxis)).1
      exact hlaid.zeroOutside_safeSlave hoffsets hset (drivenBytes_subset haxis) _ _ hbefore

theorem exchangeOutputs (hclean : state.Clean) (hwired : state.Wired) (domainState : DomainState) :
    (state.exchangeOutputs domainState).Clean := by
  unfold ImageBackend.exchangeOutputs
  split
  · exact hclean.applySafe hwired
  · have hreleased : (state.withServo { state.servo with safeOutputActive := false }).Clean := hclean
    exact hreleased.sendData hwired.released domainState

/-- A Job cycle goes through the same steps, whatever it does to the runtime besides. -/
theorem jobCycle (hclean : state.Clean) (hwired : state.Wired) {input : ImageJobInput}
    (hserved : state.IsServed (.job input)) : (state.jobCycle input).Clean := by
  unfold ImageBackend.jobCycle
  dsimp only
  split
  · exact hclean
  rename_i hjob
  split
  · exact hclean
  have hchecked : (state.checked input.freshnessNowNs).Clean :=
    hclean.of_wirings rfl (wirings_checked input.freshnessNowNs state) id
  have hwiredChecked := hwired.checked input.freshnessNowNs
  have hkeeps := hwired.keepsOutputs_checked input.freshnessNowNs (hserved (by simpa using hjob))
  have hreceived := hchecked.receiveData hwiredChecked hkeeps
  exact hreceived.exchangeOutputs (hwiredChecked.receiveData_wired input.received) input.domain

theorem next (hclean : state.Clean) (hwired : state.Wired) {action : ImageAction}
    (hserved : state.IsServed action) : (state.next action).Clean := by
  cases action with
  | job input => exact hclean.jobCycle hwired hserved
  | initializeServo bus domain config motors =>
      rcases initializeServo_cases bus domain config motors state with
        ⟨servo, haxes, hfailed, -⟩ | ⟨axes, -, -, backend, -, hdone, -⟩
      · change (state.initializeServo bus domain config motors).Clean
        rw [hfailed]
        exact hclean.of_wirings rfl (congrArg (List.map Axis.wiring) haxes) id
      · change (state.initializeServo bus domain config motors).Clean
        rw [hdone]
        exact of_zero rfl
  | bringUp input firstImage =>
      cases hactivates : state.activates input with
      | true =>
          refine of_zero ?_
          change (state.bringUp input firstImage).image = _
          rw [ImageBackend.bringUp, hactivates, if_pos rfl]
          exact hserved hactivates
      | false =>
          have hother : ∀ bus domain config motors,
              ImageAction.bringUp input firstImage ≠ .initializeServo bus domain config motors :=
            fun _ _ _ _ => ImageAction.noConfusion
          refine hclean.of_wirings rfl (hwired.wirings_next hserved hother) fun hzero => ?_
          change ZeroOutside state.live (state.bringUp input firstImage).image
          rw [ImageBackend.bringUp, hactivates, if_neg Bool.false_ne_true]
          exact hzero
  | _ =>
      exact hclean.of_wirings rfl
        (hwired.wirings_next hserved fun _ _ _ _ => ImageAction.noConfusion) id

end Clean

theorem wired_exec {actions : List ImageAction} (hserved : IsServedRun actions) :
    (machine.exec (Config.start {}) actions).state.Wired :=
  (refines.exec wired_default hserved).1

theorem clean_exec {actions : List ImageAction} (hserved : IsServedRun actions) :
    (machine.exec (Config.start {}) actions).state.Clean := by
  have hstep : ∀ (config : ImageConfig) (action : ImageAction),
      (config.state.Wired ∧ config.state.Clean) → config.state.IsServed action →
        (machine.advance config action).state.Wired ∧ (machine.advance config action).state.Clean :=
    fun _ _ hbefore haction =>
      ⟨hbefore.1.next haction, hbefore.2.next hbefore.1 haction⟩
  have hstart : (Config.start {} : ImageConfig).state.Wired ∧
      (Config.start {} : ImageConfig).state.Clean :=
    ⟨wired_default, Clean.of_zero rfl⟩
  exact (machine.exec_invariant_of_meets hstep hstart hserved).2

/-- Another slave's live bytes are not among the outputs of a slave without a drive. -/
theorem Wired.not_live {state : ImageBackend} (hwired : state.Wired) {slave : Nat} {axis : Axis}
    (haxis : state.servo.axes[slave]? = some axis) (hmotion : axis.isMotion = false) {address : Nat}
    (hin : address ∈ state.domain.area slave 2) : address ∉ state.live := by
  rintro ⟨slave', axis', haxis', hinput | ⟨hdrive, hdriven⟩⟩
  · have hapart : Disjoint (state.domain.area slave 2) (state.domain.area slave' 3) :=
      hwired.apart (lt_of_axis haxis) (lt_of_axis haxis') (by simp)
    exact Set.disjoint_left.mp hapart hin hinput
  · obtain ⟨data, hdata⟩ := hwired.exists_data haxis'
    obtain ⟨hlaid, -⟩ := hwired.laid haxis' hdata
    have hne : slave ≠ slave' := by
      rintro rfl
      rw [Option.some.inj (haxis.symm.trans haxis'), hdrive] at hmotion
      exact absurd hmotion.symm Bool.false_ne_true
    have hapart : Disjoint (state.domain.area slave 2) (state.domain.area slave' 2) :=
      hwired.apart (lt_of_axis haxis) (lt_of_axis haxis') fun h => hne (congrArg Prod.fst h)
    have hother := hlaid.drivenBytes_subset (by simpa [Axis.isMotion] using hdrive) hdriven
    exact Set.disjoint_left.mp hapart hin hother

/-- Whatever the run: a byte that is not zero is an input of some slave or drives a motor, so that no
gateway and no force sensor is ever sent anything but zeros. -/
theorem image_contents {actions : List ImageAction} (hserved : IsServedRun actions) :
    let state := (machine.exec (Config.start {}) actions).state
    (∀ address, state.image address ≠ 0 →
        ∃ (slave : Nat) (axis : Axis), state.servo.axes[slave]? = some axis ∧
          (address ∈ state.domain.area slave 3 ∨
            (axis.isMotion = true ∧ address ∈ state.domain.drivenBytes slave))) ∧
      ∀ (slave : Nat) (axis : Axis), state.servo.axes[slave]? = some axis → axis.isMotion = false →
        ∀ address ∈ state.domain.area slave 2, state.image address = 0 := by
  intro state
  have hwired : state.Wired := wired_exec hserved
  have hclean : state.Clean := clean_exec hserved
  constructor
  · intro address hne
    by_contra hout
    exact hne (hclean address hout)
  · intro slave axis haxis hmotion address hin
    exact hclean address (hwired.not_live haxis hmotion hin)

theorem image_contents_fourSlaves :
    let state := (machine.exec (Config.start {}) (exchangeRun fourSlaves)).state
    (∀ address, state.image address ≠ 0 →
        ∃ (slave : Nat) (axis : Axis), state.servo.axes[slave]? = some axis ∧
          (address ∈ state.domain.area slave 3 ∨
            (axis.isMotion = true ∧ address ∈ state.domain.drivenBytes slave))) ∧
      ∀ (slave : Nat) (axis : Axis), state.servo.axes[slave]? = some axis → axis.isMotion = false →
        ∀ address ∈ state.domain.area slave 2, state.image address = 0 :=
  image_contents (isServedRun_exchangeRun (by decide) initializeServo_fourSlaves)

end ImageBackend

end IghMaster
