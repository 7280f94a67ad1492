import IghMaster.ProcessImage
import IghMaster.Proof.PdoRegistration

/-!
# What a slave's step does to the process image

A slave writes within the bytes of its outputs and reads within those of its inputs, and each of its
entries is where the mapping puts the object. So a drive's records are what its objects hold.
-/

namespace IghMaster

open ByteMemory Footprint

/-! ### One entry -/

theorem readU16_of_mem {stores : List Store} (hapart : stores.Pairwise Store.Apart) {value : UInt16}
    {offset : Nat} (hmem : writeU16 value offset ∈ stores) (image : Memory) :
    readU16 (applyAll stores image) offset = value := by
  have hbytes : load (applyAll stores image) offset 2 = toBytes 2 value.toNat :=
    load_applyAll hapart hmem image
  rw [readU16, hbytes, ofBytes_toBytes_of_lt (UInt16.toNat_lt value)]
  exact UInt16.ofNat_toNat

theorem readU32_of_mem {stores : List Store} (hapart : stores.Pairwise Store.Apart) {value : UInt32}
    {offset : Nat} (hmem : writeU32 value offset ∈ stores) (image : Memory) :
    readU32 (applyAll stores image) offset = value := by
  have hbytes : load (applyAll stores image) offset 4 = toBytes 4 value.toNat :=
    load_applyAll hapart hmem image
  rw [readU32, hbytes, ofBytes_toBytes_of_lt (UInt32.toNat_lt value)]
  exact UInt32.ofNat_toNat

theorem readS8_of_mem {stores : List Store} (hapart : stores.Pairwise Store.Apart) {value : Int8}
    {offset : Nat} (hmem : writeS8 value offset ∈ stores) (image : Memory) :
    readS8 (applyAll stores image) offset = value := by
  have hbytes : load (applyAll stores image) offset 1 = [value.toUInt8] :=
    load_applyAll hapart hmem image
  have hbyte : applyAll stores image offset = value.toUInt8 := (List.cons.inj hbytes).1
  rw [readS8, hbyte, Int8.toInt8_toUInt8]

theorem readS16_of_mem {stores : List Store} (hapart : stores.Pairwise Store.Apart) {value : Int16}
    {offset : Nat} (hmem : writeS16 value offset ∈ stores) (image : Memory) :
    readS16 (applyAll stores image) offset = value := by
  rw [readS16, readU16_of_mem hapart hmem, Int16.toInt16_toUInt16]

theorem readS32_of_mem {stores : List Store} (hapart : stores.Pairwise Store.Apart) {value : Int32}
    {offset : Nat} (hmem : writeS32 value offset ∈ stores) (image : Memory) :
    readS32 (applyAll stores image) offset = value := by
  rw [readS32, readU32_of_mem hapart hmem, Int32.toInt32_toUInt32]

section Agreement

variable {image image' : Memory} {offset : Nat}

theorem readU16_congr (hsame : ∀ index < 2, image (offset + index) = image' (offset + index)) :
    readU16 image offset = readU16 image' offset := by
  rw [readU16, readU16, load_congr hsame]

theorem readU32_congr (hsame : ∀ index < 4, image (offset + index) = image' (offset + index)) :
    readU32 image offset = readU32 image' offset := by
  rw [readU32, readU32, load_congr hsame]

theorem readS32_congr (hsame : ∀ index < 4, image (offset + index) = image' (offset + index)) :
    readS32 image offset = readS32 image' offset := by
  rw [readS32, readS32, readU32_congr hsame]

theorem readS16_congr (hsame : ∀ index < 2, image (offset + index) = image' (offset + index)) :
    readS16 image offset = readS16 image' offset := by
  rw [readS16, readS16, readU16_congr hsame]

end Agreement

/-! ### The bytes of a slave -/

namespace Domain

variable {domain : Domain} {slave : Nat}

theorem size_eq {syncs : List SyncManager} (hsyncs : domain.syncs slave = syncs) (syncIndex : Nat) :
    domain.size slave syncIndex =
      ((syncs.find? fun sync => sync.index = syncIndex).map SyncManager.size).getD 0 := by
  rw [size, hsyncs]
  cases syncs.find? fun sync => decide (sync.index = syncIndex) <;> rfl

section Values

variable {syncs : List SyncManager} {index : UInt16}

theorem value_eq (hsyncs : domain.syncs slave = syncs) (image : Memory) {sync offset : Nat}
    (hlocate : locate syncs index 0 = some (sync, 8 * offset)) (count : Nat) :
    domain.value image slave index count =
      ofBytes (load image (domain.base slave sync + offset) count) := by
  rw [value, hsyncs, hlocate]
  change ofBytes (load image (domain.base slave sync + 8 * offset / 8) count) = _
  rw [Nat.mul_div_cancel_left offset (by decide)]

theorem valueU16_eq (hsyncs : domain.syncs slave = syncs) (image : Memory) {sync offset : Nat}
    (hlocate : locate syncs index 0 = some (sync, 8 * offset)) :
    domain.valueU16 image slave index = readU16 image (domain.base slave sync + offset) := by
  rw [valueU16, value_eq hsyncs image hlocate, readU16]

theorem valueS16_eq (hsyncs : domain.syncs slave = syncs) (image : Memory) {sync offset : Nat}
    (hlocate : locate syncs index 0 = some (sync, 8 * offset)) :
    domain.valueS16 image slave index = readS16 image (domain.base slave sync + offset) := by
  rw [valueS16, valueU16_eq hsyncs image hlocate, readS16]

theorem valueS32_eq (hsyncs : domain.syncs slave = syncs) (image : Memory) {sync offset : Nat}
    (hlocate : locate syncs index 0 = some (sync, 8 * offset)) :
    domain.valueS32 image slave index = readS32 image (domain.base slave sync + offset) := by
  rw [valueS32, value_eq hsyncs image hlocate, readS32, readU32]

theorem valueS8_eq (hsyncs : domain.syncs slave = syncs) (image : Memory) {sync offset : Nat}
    (hlocate : locate syncs index 0 = some (sync, 8 * offset)) :
    domain.valueS8 image slave index = readS8 image (domain.base slave sync + offset) := by
  have hload : load image (domain.base slave sync + offset) 1 =
      [image (domain.base slave sync + offset)] := rfl
  rw [valueS8, value_eq hsyncs image hlocate, hload, readS8, ofBytes, ofBytes, Nat.mul_zero,
    Nat.add_zero, UInt8.ofNat_toNat]

theorem value_eq_zero (hsyncs : domain.syncs slave = syncs) (image : Memory)
    (hlocate : locate syncs index 0 = none) (count : Nat) :
    domain.value image slave index count = 0 := by
  rw [value, hsyncs, hlocate]

theorem valueU16_eq_zero (hsyncs : domain.syncs slave = syncs) (image : Memory)
    (hlocate : locate syncs index 0 = none) :
    domain.valueU16 image slave index = 0 := by
  rw [valueU16, value_eq_zero hsyncs image hlocate]
  rfl

theorem valueS32_eq_zero (hsyncs : domain.syncs slave = syncs) (image : Memory)
    (hlocate : locate syncs index 0 = none) :
    domain.valueS32 image slave index = 0 := by
  rw [valueS32, value_eq_zero hsyncs image hlocate]
  rfl

theorem eitherObject_eq_first (hsyncs : domain.syncs slave = syncs) {first second : UInt16}
    {found : Nat × Nat} (hlocate : locate syncs first 0 = some found) :
    domain.eitherObject slave first second = first := by
  rw [eitherObject, hsyncs, hlocate, if_pos (by rfl)]

theorem eitherObject_eq_second (hsyncs : domain.syncs slave = syncs) {first second : UInt16}
    (hlocate : locate syncs first 0 = none) : domain.eitherObject slave first second = second := by
  rw [eitherObject, hsyncs, hlocate, if_neg (by simp)]

end Values

/-- The bytes that belong to the slave. -/
def bytes (domain : Domain) (slave : Nat) : Set Nat := domain.area slave 2 ∪ domain.area slave 3

end Domain

theorem jointSyncs_size (isSjd17 : Bool) {domain : Domain} {slave : Nat}
    (hsyncs : domain.syncs slave = jointSyncs isSjd17) :
    domain.size slave 2 = 14 ∧ domain.size slave 3 = if isSjd17 then 22 else 16 := by
  rw [Domain.size_eq hsyncs, Domain.size_eq hsyncs]
  cases isSjd17 <;> decide

theorem jmdtSyncs_size {domain : Domain} {slave : Nat} (hsyncs : domain.syncs slave = jmdtSyncs) :
    domain.size slave 2 = 14 ∧ domain.size slave 3 = 22 := by
  rw [Domain.size_eq hsyncs, Domain.size_eq hsyncs]
  decide

theorem gatewaySyncs_size {domain : Domain} {slave : Nat}
    (hsyncs : domain.syncs slave = gatewaySyncs) :
    domain.size slave 2 = 199 ∧ domain.size slave 3 = 202 := by
  rw [Domain.size_eq hsyncs, Domain.size_eq hsyncs]
  decide +kernel

theorem sriSyncs_size (useFloat : Bool) {domain : Domain} {slave : Nat}
    (hsyncs : domain.syncs slave = sriSyncs useFloat) :
    domain.size slave 2 = 6 ∧ domain.size slave 3 = 26 := by
  rw [Domain.size_eq hsyncs, Domain.size_eq hsyncs]
  cases useFloat <;> decide

/-! ### The records of a drive -/

/-- What the outputs of a drive hold at the entries that it registered. -/
def PdoOffsets.readOutputs (image : Memory) (offsets : PdoOffsets) : RxPdo where
  controlWord := readU16 image offsets.controlWord
  targetPosition := readS32 image offsets.targetPosition
  targetVelocity := readS32 image offsets.targetVelocity
  targetTorque := readS16 image offsets.targetTorque
  operationMode := readS8 image offsets.operationMode

namespace Laid

variable {domain : Domain} {slave : Nat} {config : MotorConfig} {useFloat : Bool}
  {offsets : SlaveOffsets}

theorem outputs_eq (hlaid : Laid domain slave config useFloat offsets)
    (hmotion : config.isNonMotionSlave = false) (image : Memory) :
    domain.outputs image slave = offsets.motor.readOutputs image := by
  cases hlaid with
  | joint hgateway hlayout hsyncs =>
      obtain ⟨h6040, h607A, h60FF, h6071, h6060, -⟩ := locate_joint (BusSetup.isSjd17 config)
      rw [Domain.outputs, Domain.valueU16_eq hsyncs image h6040,
        Domain.valueS32_eq hsyncs image h607A, Domain.valueS32_eq hsyncs image h60FF,
        Domain.valueS16_eq hsyncs image h6071, Domain.valueS8_eq hsyncs image h6060]
      rfl
  | jmdt hgateway hlayout hsyncs =>
      obtain ⟨h6040, h607A, h60FF, h6071, h6060, -⟩ := locate_jmdt
      rw [Domain.outputs, Domain.valueU16_eq hsyncs image h6040,
        Domain.valueS32_eq hsyncs image h607A, Domain.valueS32_eq hsyncs image h60FF,
        Domain.valueS16_eq hsyncs image h6071, Domain.valueS8_eq hsyncs image h6060]
      rfl
  | gateway hgateway hsyncs => simp [MotorConfig.isNonMotionSlave, hgateway] at hmotion
  | sri hgateway hlayout hsyncs =>
      simp [MotorConfig.isNonMotionSlave, MotorConfig.isSriM8126, hlayout] at hmotion

theorem inputs_eq (hlaid : Laid domain slave config useFloat offsets)
    (hmotion : config.isNonMotionSlave = false) (image : Memory) :
    domain.inputs image slave = offsets.motor.readInputs image := by
  cases hlaid with
  | joint hgateway hlayout hsyncs =>
      obtain ⟨-, -, -, -, -, h6041, h6064, h606C, h6077, h6061⟩ :=
        locate_joint (BusSetup.isSjd17 config)
      rw [Domain.inputs, Domain.valueU16_eq hsyncs image h6041,
        Domain.valueS8_eq hsyncs image h6061, Domain.valueS32_eq hsyncs image h6064,
        Domain.valueS32_eq hsyncs image h606C, Domain.valueS16_eq hsyncs image h6077]
      cases hsjd : BusSetup.isSjd17 config with
      | false =>
          rw [hsjd] at hsyncs
          obtain ⟨h603F, h2020, h2021, h310B, h3108⟩ := locate_xinqi
          rw [Domain.valueU16_eq hsyncs image h603F,
            Domain.eitherObject_eq_second hsyncs h2020, Domain.valueS32_eq_zero hsyncs image h310B,
            Domain.eitherObject_eq_second hsyncs h2021, Domain.valueS32_eq_zero hsyncs image h3108]
          simp [PdoOffsets.readInputs, SlaveOffsets.joint]
      | true =>
          rw [hsjd] at hsyncs
          obtain ⟨h603F, h2020, h2021⟩ := locate_sjd17
          rw [Domain.valueU16_eq_zero hsyncs image h603F,
            Domain.eitherObject_eq_first hsyncs h2020, Domain.valueS32_eq hsyncs image h2020,
            Domain.eitherObject_eq_first hsyncs h2021, Domain.valueS32_eq hsyncs image h2021]
          simp [PdoOffsets.readInputs, SlaveOffsets.joint]
  | jmdt hgateway hlayout hsyncs =>
      obtain ⟨-, -, -, -, -, h6041, h6064, h606C, h6077, h6061, h603F, h2020, h2021, h310B, h3108⟩ :=
        locate_jmdt
      rw [Domain.inputs, Domain.valueU16_eq hsyncs image h6041,
        Domain.valueS8_eq hsyncs image h6061, Domain.valueS32_eq hsyncs image h6064,
        Domain.valueS32_eq hsyncs image h606C, Domain.valueS16_eq hsyncs image h6077,
        Domain.valueU16_eq_zero hsyncs image h603F,
        Domain.eitherObject_eq_second hsyncs h2020, Domain.valueS32_eq hsyncs image h310B,
        Domain.eitherObject_eq_second hsyncs h2021, Domain.valueS32_eq hsyncs image h3108]
      simp [PdoOffsets.readInputs, SlaveOffsets.jmdt]
  | gateway hgateway hsyncs => simp [MotorConfig.isNonMotionSlave, hgateway] at hmotion
  | sri hgateway hlayout hsyncs =>
      simp [MotorConfig.isNonMotionSlave, MotorConfig.isSriM8126, hlayout] at hmotion

end Laid

/-- A step that stores within a region, by what it reads there, is local to it. -/
theorem isLocal_applyAll {Result : Type} {region : Set Nat} {result : Memory → Result}
    {stores : Memory → List Store}
    (hcovers : ∀ memory, ∀ store ∈ stores memory, ∀ address, store.Covers address → address ∈ region)
    (hreads : ∀ memory memory', Set.EqOn memory memory' region →
      result memory = result memory' ∧ stores memory = stores memory') :
    IsLocal region fun memory => (result memory, applyAll (stores memory) memory) where
  frame := fun memory address hout =>
    applyAll_of_not_covers (fun store hmem hcovered => hout (hcovers memory store hmem address hcovered))
      memory
  result := fun hsame => (hreads _ _ hsame).1
  after := by
    intro memory memory' hsame address haddress
    have hstores : stores memory = stores memory' := (hreads _ _ hsame).2
    change applyAll (stores memory) memory address = applyAll (stores memory') memory' address
    rw [hstores]
    exact applyAll_congr (hsame haddress)

/-! ### The stores of a cycle -/

namespace Axis

/-- The axis after a motion cycle that reads the status word. -/
def sentAxis (activated wcOk : Bool) (statusWord : UInt16) (axis : Axis) : Axis :=
  { axis with
    fsm := (axis.fsm.sendDataCommon
      { activated := activated, wcOk := wcOk, statusWord := statusWord,
        faultResetCw := axis.faultResetCw }).1
    setpoints := axis.setpoints.mergePending.applyIdle activated }

def sentStores (activated wcOk : Bool) (offsets : SlaveOffsets) (statusWord : UInt16) (axis : Axis) :
    List Store :=
  let sent := axis.fsm.sendDataCommon
    { activated := activated, wcOk := wcOk, statusWord := statusWord,
      faultResetCw := axis.faultResetCw }
  let setpoints := axis.setpoints.mergePending.applyIdle activated
  (writeU16 sent.2 axis.offsets.controlWord ::
      (whenMapped axis.offsets.operationMode (writeS8 axis.mode.value) ++
        whenMapped offsets.paddingRx (writeU8 0))) ++
    (writeS32 setpoints.targetPosition axis.offsets.targetPosition ::
      (whenMapped axis.offsets.targetVelocity (writeS32 setpoints.targetVelocity) ++
        (whenMapped axis.offsets.targetTorque (writeS16 setpoints.targetTorque) ++
          whenMapped offsets.digitalOutputs (writeS16 0))))

theorem sendImage_eq (activated wcOk : Bool) (offsets : SlaveOffsets) (axis : Axis)
    (image : Memory) :
    axis.sendImage activated wcOk offsets image =
      (axis.sentAxis activated wcOk (readU16 image axis.offsets.statusWord),
        applyAll (axis.sentStores activated wcOk offsets (readU16 image axis.offsets.statusWord))
          image) := by
  refine Prod.ext rfl ?_
  rw [sentStores, applyAll_append, applyAll_cons (writeS32 _ _), applyAll_append, applyAll_append]
  rw [sendImage, sendCstImage, applyAll_append]
  rfl

end Axis

/-! ### The outputs of a drive -/

/-- Where the outputs of a drive are, in the order of a joint module or of a CoolDrive. -/
structure OutputsAt (offsets : SlaveOffsets) (output : Nat) : Prop where
  controlWord : offsets.motor.controlWord = output
  digitalOutputs : offsets.digitalOutputs = 0
  others :
    (offsets.motor.targetPosition = output + 2 ∧ offsets.motor.targetVelocity = output + 6 ∧
      offsets.motor.targetTorque = output + 10 ∧ offsets.motor.operationMode = output + 12 ∧
        offsets.paddingRx = output + 13) ∨
    (offsets.motor.operationMode = output + 2 ∧ offsets.paddingRx = output + 3 ∧
      offsets.motor.targetPosition = output + 4 ∧ offsets.motor.targetVelocity = output + 8 ∧
        offsets.motor.targetTorque = output + 12)

namespace SlaveOffsets

/-- The stores of a motion cycle that sends the record. -/
def recordStores (record : RxPdo) (offsets : SlaveOffsets) : List Store :=
  [writeU16 record.controlWord offsets.motor.controlWord,
    writeS8 record.operationMode offsets.motor.operationMode,
    writeU8 0 offsets.paddingRx,
    writeS32 record.targetPosition offsets.motor.targetPosition,
    writeS32 record.targetVelocity offsets.motor.targetVelocity,
    writeS16 record.targetTorque offsets.motor.targetTorque]

/-- The stores of a safe cycle, which leave the padding. -/
def safeRecordStores (record : RxPdo) (offsets : SlaveOffsets) : List Store :=
  [writeU16 record.controlWord offsets.motor.controlWord,
    writeS32 record.targetPosition offsets.motor.targetPosition,
    writeS32 record.targetVelocity offsets.motor.targetVelocity,
    writeS16 record.targetTorque offsets.motor.targetTorque,
    writeS8 record.operationMode offsets.motor.operationMode]

end SlaveOffsets

@[simp]
theorem stop_writeU8 (value : UInt8) (offset : Nat) : (writeU8 value offset).stop = offset + 1 := rfl

@[simp]
theorem stop_writeU16 (value : UInt16) (offset : Nat) : (writeU16 value offset).stop = offset + 2 := rfl

@[simp]
theorem stop_writeU32 (value : UInt32) (offset : Nat) : (writeU32 value offset).stop = offset + 4 := rfl

@[simp]
theorem stop_writeS8 (value : Int8) (offset : Nat) : (writeS8 value offset).stop = offset + 1 := rfl

@[simp]
theorem stop_writeS16 (value : Int16) (offset : Nat) : (writeS16 value offset).stop = offset + 2 := rfl

@[simp]
theorem stop_writeS32 (value : Int32) (offset : Nat) : (writeS32 value offset).stop = offset + 4 := rfl

@[simp]
theorem stop_clearBytes (count offset : Nat) : (clearBytes count offset).stop = offset + count := by
  rw [Store.stop, clearBytes, List.length_replicate]

@[simp]
theorem address_writeU8 (value : UInt8) (offset : Nat) : (writeU8 value offset).address = offset := rfl

@[simp]
theorem address_writeU16 (value : UInt16) (offset : Nat) :
    (writeU16 value offset).address = offset := rfl

@[simp]
theorem address_writeU32 (value : UInt32) (offset : Nat) :
    (writeU32 value offset).address = offset := rfl

@[simp]
theorem address_writeS8 (value : Int8) (offset : Nat) : (writeS8 value offset).address = offset := rfl

@[simp]
theorem address_writeS16 (value : Int16) (offset : Nat) :
    (writeS16 value offset).address = offset := rfl

@[simp]
theorem address_writeS32 (value : Int32) (offset : Nat) :
    (writeS32 value offset).address = offset := rfl

@[simp]
theorem address_clearBytes (count offset : Nat) : (clearBytes count offset).address = offset := rfl

namespace OutputsAt

variable {offsets : SlaveOffsets} {output : Nat}

theorem pairwise_recordStores (hat : OutputsAt offsets output) (record : RxPdo) :
    (offsets.recordStores record).Pairwise Store.Apart := by
  have hcontrol := hat.controlWord
  have hothers := hat.others
  simp [SlaveOffsets.recordStores, Store.Apart]
  omega

theorem pairwise_safeRecordStores (hat : OutputsAt offsets output) (record : RxPdo) :
    (offsets.safeRecordStores record).Pairwise Store.Apart := by
  have hcontrol := hat.controlWord
  have hothers := hat.others
  simp [SlaveOffsets.safeRecordStores, Store.Apart]
  omega

theorem within_recordStores (hat : OutputsAt offsets output) (record : RxPdo) :
    ∀ store ∈ offsets.recordStores record, store.Within output (output + 14) := by
  have hcontrol := hat.controlWord
  have hothers := hat.others
  simp [SlaveOffsets.recordStores, Store.Within]
  omega

theorem within_safeRecordStores (hat : OutputsAt offsets output) (record : RxPdo) :
    ∀ store ∈ offsets.safeRecordStores record, store.Within output (output + 14) := by
  have hcontrol := hat.controlWord
  have hothers := hat.others
  simp [SlaveOffsets.safeRecordStores, Store.Within]
  omega

theorem readOutputs_recordStores (hat : OutputsAt offsets output) (record : RxPdo) (image : Memory) :
    offsets.motor.readOutputs (applyAll (offsets.recordStores record) image) = record := by
  have hapart := hat.pairwise_recordStores record
  rw [PdoOffsets.readOutputs,
    readU16_of_mem hapart (by simp [SlaveOffsets.recordStores] : writeU16 record.controlWord _ ∈ _),
    readS32_of_mem hapart (by simp [SlaveOffsets.recordStores] :
      writeS32 record.targetPosition offsets.motor.targetPosition ∈ _),
    readS32_of_mem hapart (by simp [SlaveOffsets.recordStores] :
      writeS32 record.targetVelocity offsets.motor.targetVelocity ∈ _),
    readS16_of_mem hapart (by simp [SlaveOffsets.recordStores] : writeS16 record.targetTorque _ ∈ _),
    readS8_of_mem hapart (by simp [SlaveOffsets.recordStores] : writeS8 record.operationMode _ ∈ _)]

theorem readOutputs_safeRecordStores (hat : OutputsAt offsets output) (record : RxPdo)
    (image : Memory) :
    offsets.motor.readOutputs (applyAll (offsets.safeRecordStores record) image) = record := by
  have hapart := hat.pairwise_safeRecordStores record
  rw [PdoOffsets.readOutputs,
    readU16_of_mem hapart (by simp [SlaveOffsets.safeRecordStores] :
      writeU16 record.controlWord _ ∈ _),
    readS32_of_mem hapart (by simp [SlaveOffsets.safeRecordStores] :
      writeS32 record.targetPosition offsets.motor.targetPosition ∈ _),
    readS32_of_mem hapart (by simp [SlaveOffsets.safeRecordStores] :
      writeS32 record.targetVelocity offsets.motor.targetVelocity ∈ _),
    readS16_of_mem hapart (by simp [SlaveOffsets.safeRecordStores] :
      writeS16 record.targetTorque _ ∈ _),
    readS8_of_mem hapart (by simp [SlaveOffsets.safeRecordStores] :
      writeS8 record.operationMode _ ∈ _)]

end OutputsAt

namespace Laid

variable {domain : Domain} {slave : Nat} {config : MotorConfig} {useFloat : Bool}
  {offsets : SlaveOffsets}

theorem outputsAt (hlaid : Laid domain slave config useFloat offsets)
    (hmotion : config.isNonMotionSlave = false) :
    OutputsAt offsets (domain.base slave 2) ∧ domain.size slave 2 = 14 := by
  cases hlaid with
  | joint hgateway hlayout hsyncs =>
      exact ⟨⟨rfl, rfl, .inl ⟨rfl, rfl, rfl, rfl, rfl⟩⟩, (jointSyncs_size _ hsyncs).1⟩
  | jmdt hgateway hlayout hsyncs =>
      exact ⟨⟨rfl, rfl, .inr ⟨rfl, rfl, rfl, rfl, rfl⟩⟩, (jmdtSyncs_size hsyncs).1⟩
  | gateway hgateway hsyncs => simp [MotorConfig.isNonMotionSlave, hgateway] at hmotion
  | sri hgateway hlayout hsyncs =>
      simp [MotorConfig.isNonMotionSlave, MotorConfig.isSriM8126, hlayout] at hmotion

end Laid

namespace Axis

/-- What a motion cycle sends after reading the status word. -/
def sentRecord (activated wcOk : Bool) (statusWord : UInt16) (axis : Axis) : RxPdo :=
  let setpoints := axis.setpoints.mergePending.applyIdle activated
  { controlWord := (axis.fsm.sendDataCommon
      { activated := activated, wcOk := wcOk, statusWord := statusWord,
        faultResetCw := axis.faultResetCw }).2
    targetPosition := setpoints.targetPosition
    targetVelocity := setpoints.targetVelocity
    targetTorque := setpoints.targetTorque
    operationMode := axis.mode.value }

/-- The axis after a safe cycle. -/
def safeAxis (entering : Bool) (actualPosition : Int32) (safeControlWord : UInt16) (axis : Axis) :
    Axis :=
  { axis.applySafe entering actualPosition safeControlWord with output := axis.output }

/-- What a safe cycle sends. -/
def safeRecord (safeControlWord : UInt16) (axis : Axis) : RxPdo where
  controlWord := safeControlWord
  targetPosition := axis.setpoints.targetPosition
  targetVelocity := axis.setpoints.targetVelocity
  targetTorque := axis.setpoints.targetTorque
  operationMode := axis.mode.value

section Stores

variable {axis : Axis} {offsets : SlaveOffsets} {output : Nat} (hat : OutputsAt offsets output)
  (hoffsets : axis.offsets = offsets.motor)

include hat hoffsets

theorem sentStores_eq (activated wcOk : Bool) (statusWord : UInt16) :
    axis.sentStores activated wcOk offsets statusWord =
      offsets.recordStores (axis.sentRecord activated wcOk statusWord) := by
  have hothers := hat.others
  have hmode : offsets.motor.operationMode ≠ 0 := by omega
  have hpadding : offsets.paddingRx ≠ 0 := by omega
  have hvelocity : offsets.motor.targetVelocity ≠ 0 := by omega
  have htorque : offsets.motor.targetTorque ≠ 0 := by omega
  simp [sentStores, whenMapped, hoffsets, hmode, hpadding, hvelocity, htorque, hat.digitalOutputs,
    SlaveOffsets.recordStores, sentRecord]

theorem applySafeImage_eq (hset : output + 4 < pdoOffsetUnset) (entering : Bool)
    (actualPosition : Int32) (safeControlWord : UInt16) (image : Memory) :
    axis.applySafeImage entering actualPosition safeControlWord image =
      (axis.safeAxis entering actualPosition safeControlWord,
        applyAll (offsets.safeRecordStores
          ((axis.safeAxis entering actualPosition safeControlWord).safeRecord safeControlWord))
            image) := by
  have hcontrol := hat.controlWord
  have hothers := hat.others
  have hcontrolSet : offsets.motor.controlWord ≠ pdoOffsetUnset := by omega
  have hpositionSet : offsets.motor.targetPosition ≠ pdoOffsetUnset := by omega
  have hmode : offsets.motor.operationMode ≠ 0 := by omega
  have hvelocity : offsets.motor.targetVelocity ≠ 0 := by omega
  have htorque : offsets.motor.targetTorque ≠ 0 := by omega
  have hforced : (axis.safeAxis entering actualPosition safeControlWord).offsets = offsets.motor :=
    hoffsets
  have hstores : (axis.safeAxis entering actualPosition safeControlWord).safeStores safeControlWord =
      offsets.safeRecordStores
        ((axis.safeAxis entering actualPosition safeControlWord).safeRecord safeControlWord) := by
    simp [safeStores, whenMapped, whenSet, hforced, hcontrolSet, hpositionSet, hmode, hvelocity,
      htorque, SlaveOffsets.safeRecordStores, safeRecord]
  rw [← hstores]
  rfl

/-- With records for its process data, the axis sends the same. -/
theorem sendData_withProcessData (hmotion : axis.isMotion = true) (activated wcOk : Bool)
    (inputs : TxPdo) (outputs : RxPdo) :
    (axis.withProcessData inputs outputs).sendData activated wcOk =
      (axis.sentAxis activated wcOk inputs.statusWord).withProcessData inputs
        (axis.sentRecord activated wcOk inputs.statusWord) := by
  have hothers := hat.others
  have hmode : offsets.motor.operationMode ≠ 0 := by omega
  have hvelocity : offsets.motor.targetVelocity ≠ 0 := by omega
  have htorque : offsets.motor.targetTorque ≠ 0 := by omega
  have hsent : (axis.sentAxis activated wcOk inputs.statusWord).isMotion = true := hmotion
  rw [withProcessData, withProcessData, if_pos hmotion, if_pos hsent]
  simp [sendData, sendDataCommon, sendTargets, operationModeOutput, txContext, sentAxis, sentRecord,
    hoffsets, hmode, hvelocity, htorque]

theorem applySafe_withProcessData (hset : output + 4 < pdoOffsetUnset)
    (hmotion : axis.isMotion = true) (entering : Bool) (actualPosition : Int32)
    (safeControlWord : UInt16) (inputs : TxPdo) (outputs : RxPdo) :
    (axis.withProcessData inputs outputs).applySafe entering actualPosition safeControlWord =
      (axis.safeAxis entering actualPosition safeControlWord).withProcessData inputs
        ((axis.safeAxis entering actualPosition safeControlWord).safeRecord safeControlWord) := by
  have hcontrol := hat.controlWord
  have hothers := hat.others
  have hcontrolSet : offsets.motor.controlWord ≠ pdoOffsetUnset := by omega
  have hpositionSet : offsets.motor.targetPosition ≠ pdoOffsetUnset := by omega
  have hmode : offsets.motor.operationMode ≠ 0 := by omega
  have hvelocity : offsets.motor.targetVelocity ≠ 0 := by omega
  have htorque : offsets.motor.targetTorque ≠ 0 := by omega
  have hforced : (axis.safeAxis entering actualPosition safeControlWord).isMotion = true := hmotion
  rw [withProcessData, withProcessData, if_pos hmotion, if_pos hforced]
  simp [safeAxis, applySafe, operationModeOutput, safeRecord, Setpoints.forceSafe, hoffsets, hcontrolSet,
    hpositionSet, hmode, hvelocity, htorque]

end Stores

end Axis

/-! ### Every slave keeps to its own bytes -/

@[simp]
theorem mem_whenMapped {offset : Nat} {write : Nat → Store} {store : Store} :
    store ∈ whenMapped offset write ↔ offset ≠ 0 ∧ store = write offset := by
  unfold whenMapped
  split <;> simp_all

@[simp]
theorem mem_whenSet {offset : Nat} {write : Nat → Store} {store : Store} :
    store ∈ whenSet offset write ↔ offset ≠ pdoOffsetUnset ∧ store = write offset := by
  unfold whenSet
  split <;> simp_all

/-- The entries that are read for a drive lie between the addresses. -/
structure PdoOffsets.InputsWithin (offsets : PdoOffsets) (first stop : Nat) : Prop where
  statusWord : first ≤ offsets.statusWord ∧ offsets.statusWord + 2 ≤ stop
  operationModeDisplay :
    first ≤ offsets.operationModeDisplay ∧ offsets.operationModeDisplay + 1 ≤ stop
  actualPosition : first ≤ offsets.actualPosition ∧ offsets.actualPosition + 4 ≤ stop
  actualVelocity : first ≤ offsets.actualVelocity ∧ offsets.actualVelocity + 4 ≤ stop
  actualTorque : first ≤ offsets.actualTorque ∧ offsets.actualTorque + 2 ≤ stop
  errorCode : offsets.errorCode ≠ 0 → first ≤ offsets.errorCode ∧ offsets.errorCode + 2 ≤ stop
  sensorForce2020 : offsets.sensorForce2020 ≠ 0 →
    first ≤ offsets.sensorForce2020 ∧ offsets.sensorForce2020 + 4 ≤ stop
  motorEncoder2021 : offsets.motorEncoder2021 ≠ 0 →
    first ≤ offsets.motorEncoder2021 ∧ offsets.motorEncoder2021 + 4 ≤ stop

theorem PdoOffsets.InputsWithin.readInputs_congr {offsets : PdoOffsets} {first stop : Nat}
    (hwithin : offsets.InputsWithin first stop) {image image' : Memory}
    (hsame : ∀ address, first ≤ address → address < stop → image address = image' address) :
    offsets.readInputs image = offsets.readInputs image' := by
  have hread {offset count : Nat} (hin : first ≤ offset ∧ offset + count ≤ stop) :
      ∀ index < count, image (offset + index) = image' (offset + index) :=
    fun index hindex => hsame _ (by omega) (by omega)
  have hmode : readS8 image offsets.operationModeDisplay =
      readS8 image' offsets.operationModeDisplay :=
    congrArg UInt8.toInt8 (hread hwithin.operationModeDisplay 0 Nat.zero_lt_one)
  rw [PdoOffsets.readInputs, PdoOffsets.readInputs, hmode, readU16_congr (hread hwithin.statusWord),
    readS32_congr (hread hwithin.actualPosition), readS32_congr (hread hwithin.actualVelocity),
    readS16_congr (hread hwithin.actualTorque)]
  congr 1
  · split
    · rename_i hmapped
      exact readU16_congr (hread (hwithin.errorCode (by simpa using hmapped)))
    · rfl
  · split
    · rename_i hmapped
      exact readS32_congr (hread (hwithin.sensorForce2020 (by simpa using hmapped)))
    · rfl
  · split
    · rename_i hmapped
      exact readS32_congr (hread (hwithin.motorEncoder2021 (by simpa using hmapped)))
    · rfl

namespace Laid

variable {domain : Domain} {slave : Nat} {config : MotorConfig} {useFloat : Bool}
  {offsets : SlaveOffsets}

theorem covers_area {store : Store} {sync : Nat}
    (hwithin : store.Within (domain.base slave sync) (domain.base slave sync + domain.size slave sync))
    {address : Nat} (hcovers : store.Covers address) : address ∈ domain.area slave sync :=
  hwithin.covers hcovers

/-- The inputs of a drive are mapped within the bytes of its inputs. -/
theorem inputsWithin (hlaid : Laid domain slave config useFloat offsets)
    (hmotion : config.isNonMotionSlave = false) :
    offsets.motor.InputsWithin (domain.base slave 3) (domain.base slave 3 + domain.size slave 3) := by
  cases hlaid with
  | joint hgateway hlayout hsyncs =>
      have hsize := (jointSyncs_size _ hsyncs).2
      cases hsjd : BusSetup.isSjd17 config <;> rw [hsjd] at hsize <;>
        constructor <;> simp [SlaveOffsets.joint, hsize, Nat.add_assoc]
  | jmdt hgateway hlayout hsyncs =>
      have hsize := (jmdtSyncs_size hsyncs).2
      constructor <;> simp [SlaveOffsets.jmdt, hsize, Nat.add_assoc]
  | gateway hgateway hsyncs => simp [MotorConfig.isNonMotionSlave, hgateway] at hmotion
  | sri hgateway hlayout hsyncs =>
      simp [MotorConfig.isNonMotionSlave, MotorConfig.isSriM8126, hlayout] at hmotion

end Laid

namespace Laid

variable {domain : Domain} {slave : Nat} {config : MotorConfig} {useFloat : Bool}
  {offsets : SlaveOffsets}

theorem within_clear_gateway (hsyncs : domain.syncs slave = gatewaySyncs) :
    ∀ store ∈ (SlaveOffsets.ofGateway (domain.base slave 2) (domain.base slave 3)).gateway.clear,
      store.Within (domain.base slave 2) (domain.base slave 2 + domain.size slave 2) := by
  have hsize := (gatewaySyncs_size hsyncs).1
  intro store hmem
  simp only [GatewayOffsets.clear, SlaveOffsets.ofGateway, List.mem_append, mem_whenMapped] at hmem
  rw [hsize, Store.Within]
  rcases hmem with (((((⟨-, rfl⟩ | ⟨-, rfl⟩) | ⟨-, rfl⟩) | ⟨-, rfl⟩) | ⟨-, rfl⟩) | ⟨-, rfl⟩) | ⟨-, rfl⟩ <;>
    simp [Nat.add_assoc]

theorem within_clear_sri (hsyncs : domain.syncs slave = sriSyncs useFloat) :
    ∀ store ∈ (SlaveOffsets.ofSri (domain.base slave 2) (domain.base slave 3)).sri.clear,
      store.Within (domain.base slave 2) (domain.base slave 2 + domain.size slave 2) := by
  have hsize := (sriSyncs_size useFloat hsyncs).1
  intro store hmem
  simp only [SriOffsets.clear, SlaveOffsets.ofSri, List.mem_append, mem_whenSet] at hmem
  rw [hsize, Store.Within]
  rcases hmem with (⟨-, rfl⟩ | ⟨-, rfl⟩) | ⟨-, rfl⟩ <;> simp [Nat.add_assoc]

/-- The kinds of slave, as the cyclic functions tell them apart. -/
theorem kinds (hlaid : Laid domain slave config useFloat offsets) :
    (config.isNonMotionSlave = false ∧ config.isGateway = false ∧ config.isSriM8126 = false) ∨
      (config.isGateway = true ∧ domain.syncs slave = gatewaySyncs ∧
        offsets = .ofGateway (domain.base slave 2) (domain.base slave 3)) ∨
      (config.isGateway = false ∧ config.isSriM8126 = true ∧
        domain.syncs slave = sriSyncs useFloat ∧
          offsets = .ofSri (domain.base slave 2) (domain.base slave 3)) := by
  cases hlaid with
  | joint hgateway hlayout hsyncs =>
      simp [MotorConfig.isNonMotionSlave, hgateway, MotorConfig.isSriM8126, hlayout]
  | jmdt hgateway hlayout hsyncs =>
      simp [MotorConfig.isNonMotionSlave, hgateway, MotorConfig.isSriM8126, hlayout]
  | gateway hgateway hsyncs => exact .inr (.inl ⟨hgateway, hsyncs, rfl⟩)
  | sri hgateway hlayout hsyncs =>
      exact .inr (.inr ⟨hgateway, by simp [MotorConfig.isSriM8126, hlayout], hsyncs, rfl⟩)

theorem readU16_statusWord_congr (hlaid : Laid domain slave config useFloat offsets)
    (hmotion : config.isNonMotionSlave = false) {image image' : Memory}
    (hsame : Set.EqOn image image' (domain.bytes slave)) :
    readU16 image offsets.motor.statusWord = readU16 image' offsets.motor.statusWord := by
  obtain ⟨hfirst, hstop⟩ := (hlaid.inputsWithin hmotion).statusWord
  exact readU16_congr fun index hindex => hsame (Or.inr ⟨by omega, by omega⟩)

variable {axis : Axis} {data : SlaveData}

theorem sendSlave_eq (hlaid : Laid domain slave axis.config data.sriUseFloat data.offsets)
    (hoffsets : axis.offsets = data.offsets.motor) (hmotion : axis.config.isNonMotionSlave = false)
    (activated wcOk : Bool) :
    ImageBackend.sendSlave activated wcOk (axis, data) = fun image =>
      (axis.sentAxis activated wcOk (readU16 image data.offsets.motor.statusWord),
        applyAll (data.offsets.recordStores
          (axis.sentRecord activated wcOk (readU16 image data.offsets.motor.statusWord))) image) := by
  obtain ⟨hat, -⟩ := hlaid.outputsAt hmotion
  simp only [MotorConfig.isNonMotionSlave, Bool.or_eq_false_iff] at hmotion
  funext image
  rw [ImageBackend.sendSlave, if_neg (by simp [hmotion.1]), if_neg (by simp [hmotion.2]),
    Axis.sendImage_eq, Axis.sentStores_eq hat hoffsets, hoffsets]

theorem safeSlave_eq (hlaid : Laid domain slave axis.config data.sriUseFloat data.offsets)
    (hoffsets : axis.offsets = data.offsets.motor) (hmotion : axis.config.isNonMotionSlave = false)
    (hset : domain.base slave 2 + 4 < pdoOffsetUnset) (servo : Servo) (index : Nat) :
    ImageBackend.safeSlave servo (axis, index) = fun image =>
      (axis.safeAxis (!servo.safeOutputActive) (servo.getPosition (index % 256))
          (servo.safeControlWord index axis),
        applyAll (data.offsets.safeRecordStores
          ((axis.safeAxis (!servo.safeOutputActive) (servo.getPosition (index % 256))
            (servo.safeControlWord index axis)).safeRecord (servo.safeControlWord index axis)))
              image) := by
  obtain ⟨hat, -⟩ := hlaid.outputsAt hmotion
  funext image
  rw [ImageBackend.safeSlave, if_pos (by simp [Axis.isMotion, hmotion]),
    Axis.applySafeImage_eq hat hoffsets hset]

/-- A slave in the loop of `sendData` stores within the bytes of its outputs and reads its own. -/
theorem isLocal_sendSlave (hlaid : Laid domain slave axis.config data.sriUseFloat data.offsets)
    (hoffsets : axis.offsets = data.offsets.motor) (activated wcOk : Bool) :
    IsLocal (domain.bytes slave) (ImageBackend.sendSlave activated wcOk (axis, data)) := by
  rcases hlaid.kinds with ⟨hmotion, hgateway, hsri⟩ | ⟨hgateway, hsyncs, hdata⟩ |
      ⟨hgateway, hsri, hsyncs, hdata⟩
  · obtain ⟨hat, hsize⟩ := hlaid.outputsAt hmotion
    rw [hlaid.sendSlave_eq hoffsets hmotion]
    refine isLocal_applyAll (fun image store hmem address hcovers => ?_) fun image image' hsame => ?_
    · have hwithin := hat.within_recordStores _ store hmem
      exact Or.inl (covers_area (hsize ▸ hwithin) hcovers)
    · rw [hlaid.readU16_statusWord_congr hmotion hsame]
      exact ⟨rfl, rfl⟩
  · have hstep : ImageBackend.sendSlave activated wcOk (axis, data) = fun image =>
        (axis, applyAll data.offsets.gateway.clear image) := by
      funext image
      rw [ImageBackend.sendSlave, if_pos hgateway]
    rw [hstep]
    refine isLocal_applyAll (fun image store hmem address hcovers => ?_) fun _ _ _ => ⟨rfl, rfl⟩
    rw [hdata] at hmem
    exact Or.inl (covers_area (within_clear_gateway hsyncs store hmem) hcovers)
  · have hstep : ImageBackend.sendSlave activated wcOk (axis, data) = fun image =>
        (axis, applyAll data.offsets.sri.clear image) := by
      funext image
      rw [ImageBackend.sendSlave, if_neg (by simp [hgateway]), if_pos hsri]
    rw [hstep]
    refine isLocal_applyAll (fun image store hmem address hcovers => ?_) fun _ _ _ => ⟨rfl, rfl⟩
    rw [hdata] at hmem
    exact Or.inl (covers_area (within_clear_sri hsyncs store hmem) hcovers)

theorem isLocal_safeSlave (hlaid : Laid domain slave axis.config data.sriUseFloat data.offsets)
    (hoffsets : axis.offsets = data.offsets.motor)
    (hset : domain.base slave 2 + 4 < pdoOffsetUnset) (servo : Servo) (index : Nat) :
    IsLocal (domain.bytes slave) (ImageBackend.safeSlave servo (axis, index)) := by
  cases hmotion : axis.config.isNonMotionSlave with
  | true =>
      have hstep : ImageBackend.safeSlave servo (axis, index) = fun image =>
          (axis, applyAll [] image) := by
        funext image
        rw [ImageBackend.safeSlave, if_neg (by simp [Axis.isMotion, hmotion])]
        rfl
      rw [hstep]
      exact isLocal_applyAll (fun _ store hmem => absurd hmem List.not_mem_nil)
        fun _ _ _ => ⟨rfl, rfl⟩
  | false =>
      obtain ⟨hat, hsize⟩ := hlaid.outputsAt hmotion
      rw [hlaid.safeSlave_eq hoffsets hmotion hset]
      refine isLocal_applyAll (fun image store hmem address hcovers => ?_) fun _ _ _ => ⟨rfl, rfl⟩
      have hwithin := hat.within_safeRecordStores _ store hmem
      exact Or.inl (covers_area (hsize ▸ hwithin) hcovers)

end Laid

end IghMaster
