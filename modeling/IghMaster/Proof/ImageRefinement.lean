import IghMaster.Lib.Refinement
import IghMaster.Proof.DriveSteps
import IghMaster.Proof.ProcessImage
import IghMaster.Proof.ProcessRecords

/-!
# The image refines the records

A backend that works on the bytes of its process image does what the backend with records does, where
the records are what the mapped objects hold. Every slave keeps to its own bytes, so that the loops over
the slaves treat each as if it were alone.
-/

namespace IghMaster

open ByteMemory Footprint

/-! ### What the axes are wired to -/

namespace Axis

/-- What the initialization gives to an axis. -/
def wiring (axis : Axis) : MotorConfig × PdoOffsets := (axis.config, axis.offsets)

@[simp]
theorem wiring_withProcessData (inputs : TxPdo) (outputs : RxPdo) (axis : Axis) :
    (axis.withProcessData inputs outputs).wiring = axis.wiring :=
  field_withProcessData wiring (fun _ _ _ => rfl) inputs outputs axis

end Axis

namespace Backend

theorem wiring_inputAxis (backend : Backend) (index : Nat) (input : JobInput) (axis : Axis) :
    (backend.inputAxis index input axis).wiring = axis.wiring := by
  unfold inputAxis Axis.tripStale
  dsimp only
  split_ifs <;> rfl

theorem wiring_performAxis (flags : RuntimeFlags) (servo : Servo) (index : Nat) (call : ServoCall)
    (axis : Axis) : (servo.performAxis flags index call axis).wiring = axis.wiring := by
  cases call <;> simp only [Servo.performAxis]
  case setOperationMode motorId mode =>
    unfold Axis.applyMode
    split_ifs <;> rfl
  case applyCommandContentionFallback =>
    unfold Axis.contentionFallback
    split_ifs <;> rfl
  all_goals split <;> rfl

theorem wiring_axisNext (backend : Backend) (index : Nat) (action : BackendAction) (axis : Axis) :
    (backend.axisNext index action axis).wiring = axis.wiring := by
  cases action with
  | bringUp input =>
      obtain ⟨positioned, hpositioned, hnext⟩ := backend.bringUpAxis_cases index input axis
      have hsame : positioned.wiring = axis.wiring := by
        rcases hpositioned with rfl | rfl
        · rfl
        · unfold Servo.setInitialPosition
          split <;> rfl
      rcases hnext with hnext | ⟨-, hnext⟩
      · exact (congrArg Axis.wiring hnext).trans hsame
      · exact (congrArg Axis.wiring hnext).trans hsame
  | call call => exact wiring_performAxis _ _ _ call axis
  | job input =>
      have hinput := wiring_inputAxis backend index input axis
      simp only [axisNext, jobAxis]
      split_ifs
      · exact hinput
      · exact hinput
      · rfl
  | clearCommFault => rfl
  | initializeServo bus config motors => rfl
  | setOperational => rfl
  | deactivate => rfl
  | requestFaultReset motorId allowWithoutFault slavesInOp => rfl
  | requestSafeOutput => rfl
  | releaseSafeOutput => rfl

end Backend

/-! ### The records of one slave -/

namespace Laid

variable {domain : Domain} {slave : Nat} {config : MotorConfig} {useFloat : Bool}
  {offsets : SlaveOffsets}

theorem outputs_congr (hlaid : Laid domain slave config useFloat offsets)
    (hmotion : config.isNonMotionSlave = false) {image image' : Memory}
    (hsame : Set.EqOn image image' (domain.area slave 2)) :
    domain.outputs image slave = domain.outputs image' slave := by
  obtain ⟨hat, hsize⟩ := hlaid.outputsAt hmotion
  have hcontrol := hat.controlWord
  have hothers := hat.others
  have hread {offset count : Nat} (hin : domain.base slave 2 ≤ offset ∧
      offset + count ≤ domain.base slave 2 + 14) :
      ∀ index < count, image (offset + index) = image' (offset + index) :=
    fun index hindex => hsame ⟨by omega, by omega⟩
  have hmode : readS8 image offsets.motor.operationMode = readS8 image' offsets.motor.operationMode :=
    congrArg UInt8.toInt8
      (hread (by omega : _ ∧ offsets.motor.operationMode + 1 ≤ _) 0 Nat.zero_lt_one)
  rw [hlaid.outputs_eq hmotion, hlaid.outputs_eq hmotion, PdoOffsets.readOutputs,
    PdoOffsets.readOutputs, hmode,
    readU16_congr (hread (by omega : _ ∧ offsets.motor.controlWord + 2 ≤ _)),
    readS32_congr (hread (by omega : _ ∧ offsets.motor.targetPosition + 4 ≤ _)),
    readS32_congr (hread (by omega : _ ∧ offsets.motor.targetVelocity + 4 ≤ _)),
    readS16_congr (hread (by omega : _ ∧ offsets.motor.targetTorque + 2 ≤ _))]

theorem inputs_congr (hlaid : Laid domain slave config useFloat offsets)
    (hmotion : config.isNonMotionSlave = false) {image image' : Memory}
    (hsame : Set.EqOn image image' (domain.area slave 3)) :
    domain.inputs image slave = domain.inputs image' slave := by
  rw [hlaid.inputs_eq hmotion, hlaid.inputs_eq hmotion]
  exact (hlaid.inputsWithin hmotion).readInputs_congr fun address hfirst hstop =>
    hsame ⟨hfirst, hstop⟩

/-- An axis that reads the image caches what its records are, an entry that is not mapped as 0. -/
theorem withRecords_receiveImage {axis : Axis}
    (hlaid : Laid domain slave axis.config useFloat offsets) (hoffsets : axis.offsets = offsets.motor)
    {image image' : Memory} (hkept : Set.EqOn image' image (domain.area slave 2)) :
    (axis.receiveImage image').withProcessData (domain.inputs image' slave)
        (domain.outputs image' slave) =
      if axis.isMotion then
        (axis.withProcessData (domain.inputs image slave) (domain.outputs image slave)).receiveData
          (domain.inputs image' slave)
      else
        axis.withProcessData (domain.inputs image slave) (domain.outputs image slave) := by
  cases hmotion : axis.config.isNonMotionSlave with
  | true =>
      have haxis : axis.isMotion = false := by simp [Axis.isMotion, hmotion]
      simp [Axis.receiveImage, Axis.withProcessData, haxis]
  | false =>
      have haxis : axis.isMotion = true := by simp [Axis.isMotion, hmotion]
      have houtputs := hlaid.outputs_congr hmotion hkept
      have hinputs := hlaid.inputs_eq hmotion image'
      have hread : (axis.receiveImage image').isMotion = true := by
        rw [Axis.receiveImage, if_pos haxis]
        exact haxis
      rw [houtputs, Axis.withProcessData, if_pos hread, Axis.receiveImage, if_pos haxis, if_pos haxis,
        Axis.withProcessData, if_pos haxis, Axis.receiveData, hinputs, hoffsets]
      simp only [PdoOffsets.readInputs, Axis.mk.injEq, TxPdo.mk.injEq, true_and, and_true]
      refine ⟨?_, ?_, ?_⟩ <;> split <;> rfl

/-- The one sync manager of a slave that is an input and has entries. -/
theorem mem_area_of_input (hlaid : Laid domain slave config useFloat offsets) {sync : SyncManager}
    (hsync : sync ∈ domain.syncs slave) (hdirection : sync.direction = .input) {address : Nat}
    (hfirst : domain.base slave sync.index ≤ address)
    (hstop : address < domain.base slave sync.index + sync.size) :
    address ∈ domain.area slave 3 := by
  have harea {syncs : List SyncManager} (hsyncs : domain.syncs slave = syncs)
      (hthird : sync.index = 3) (hfind : (syncs.find? fun sync => sync.index = 3) = some sync) :
      address ∈ domain.area slave 3 := by
    have hsize : domain.size slave 3 = sync.size := by
      rw [Domain.size_eq hsyncs, hfind]
      rfl
    rw [hthird] at hfirst hstop
    exact ⟨hfirst, hsize ▸ hstop⟩
  cases hlaid with
  | joint hgateway hlayout hsyncs =>
      rw [hsyncs, jointSyncs, List.mem_pair] at hsync
      rcases hsync with rfl | rfl
      · exact absurd hdirection (by decide)
      · exact harea hsyncs rfl rfl
  | jmdt hgateway hlayout hsyncs =>
      rw [hsyncs, jmdtSyncs, List.mem_pair] at hsync
      rcases hsync with rfl | rfl
      · exact absurd hdirection (by decide)
      · exact harea hsyncs rfl rfl
  | gateway hgateway hsyncs =>
      simp only [hsyncs, gatewaySyncs, List.mem_cons, List.not_mem_nil, or_false] at hsync
      rcases hsync with rfl | rfl | rfl | rfl
      · exact absurd hdirection (by decide)
      · have hempty : (⟨1, .input, [], false⟩ : SyncManager).size = 0 := rfl
        rw [hempty] at hstop
        omega
      · exact absurd hdirection (by decide)
      · exact harea hsyncs rfl rfl
  | sri hgateway hlayout hsyncs =>
      rw [hsyncs, sriSyncs, List.mem_pair] at hsync
      rcases hsync with rfl | rfl
      · exact absurd hdirection (by decide)
      · exact harea hsyncs rfl rfl

/-- After stores among its outputs, a drive's records are its inputs as before and what was stored. -/
theorem records_after (hlaid : Laid domain slave config useFloat offsets)
    (hmotion : config.isNonMotionSlave = false)
    (hapart : Disjoint (domain.area slave 2) (domain.area slave 3)) {stores : List Store}
    (hwithin : ∀ store ∈ stores,
      store.Within (domain.base slave 2) (domain.base slave 2 + 14))
    {record : RxPdo} {image image' : Memory}
    (hrecord : offsets.motor.readOutputs (applyAll stores image) = record)
    (hsame : Set.EqOn image' (applyAll stores image) (domain.bytes slave)) :
    domain.inputs image' slave = domain.inputs image slave ∧
      domain.outputs image' slave = record := by
  have hsize := (hlaid.outputsAt hmotion).2
  have hkept : Set.EqOn (applyAll stores image) image (domain.area slave 3) := by
    intro address haddress
    refine applyAll_of_not_covers (fun store hmem hcovers => ?_) image
    have houtput := covers_area (hsize ▸ hwithin store hmem) hcovers
    exact Set.disjoint_left.mp hapart houtput haddress
  constructor
  · refine hlaid.inputs_congr hmotion fun address haddress => ?_
    exact (hsame (Or.inr haddress)).trans (hkept haddress)
  · rw [hlaid.outputs_congr hmotion fun address haddress => hsame (Or.inl haddress),
      hlaid.outputs_eq hmotion, hrecord]

variable {axis : Axis} {data : SlaveData}

/-- In the loop of `sendData` a slave does what its axis with records does. -/
theorem withRecords_sendSlave (hlaid : Laid domain slave axis.config data.sriUseFloat data.offsets)
    (hoffsets : axis.offsets = data.offsets.motor)
    (hapart : Disjoint (domain.area slave 2) (domain.area slave 3)) (activated wcOk : Bool)
    {image image' : Memory}
    (hsame : Set.EqOn image' (ImageBackend.sendSlave activated wcOk (axis, data) image).2
      (domain.bytes slave)) :
    (ImageBackend.sendSlave activated wcOk (axis, data) image).1.withProcessData
        (domain.inputs image' slave) (domain.outputs image' slave) =
      if axis.isMotion then
        (axis.withProcessData (domain.inputs image slave)
          (domain.outputs image slave)).sendData activated wcOk
      else
        axis.withProcessData (domain.inputs image slave) (domain.outputs image slave) := by
  cases hmotion : axis.config.isNonMotionSlave with
  | true =>
      have haxis : axis.isMotion = false := by simp [Axis.isMotion, hmotion]
      have hkept : (ImageBackend.sendSlave activated wcOk (axis, data) image).1 = axis := by
        unfold ImageBackend.sendSlave
        split_ifs with hgateway hsri
        · rfl
        · rfl
        · simp [MotorConfig.isNonMotionSlave, hgateway, hsri] at hmotion
      rw [hkept, haxis]
      simp [Axis.withProcessData, haxis]
  | false =>
      have haxis : axis.isMotion = true := by simp [Axis.isMotion, hmotion]
      obtain ⟨hat, hsize⟩ := hlaid.outputsAt hmotion
      rw [hlaid.sendSlave_eq hoffsets hmotion] at hsame ⊢
      dsimp only at hsame ⊢
      obtain ⟨hinputs, houtputs⟩ := hlaid.records_after hmotion hapart (hat.within_recordStores _)
        (hat.readOutputs_recordStores _ image) hsame
      have hstatus : readU16 image data.offsets.motor.statusWord =
          (domain.inputs image slave).statusWord := by
        rw [hlaid.inputs_eq hmotion]
        rfl
      rw [haxis, if_pos rfl, Axis.sendData_withProcessData hat hoffsets haxis, hinputs, houtputs,
        hstatus]

/-- In the loop of `applySafeProcessImageOutputs` as well. -/
theorem withRecords_safeSlave (hlaid : Laid domain slave axis.config data.sriUseFloat data.offsets)
    (hoffsets : axis.offsets = data.offsets.motor)
    (hset : domain.base slave 2 + 4 < pdoOffsetUnset)
    (hapart : Disjoint (domain.area slave 2) (domain.area slave 3)) (servo : Servo) (index : Nat)
    {image image' : Memory}
    (hsame : Set.EqOn image' (ImageBackend.safeSlave servo (axis, index) image).2
      (domain.bytes slave)) :
    (ImageBackend.safeSlave servo (axis, index) image).1.withProcessData
        (domain.inputs image' slave) (domain.outputs image' slave) =
      if axis.isMotion then
        (axis.withProcessData (domain.inputs image slave) (domain.outputs image slave)).applySafe
          (!servo.safeOutputActive) (servo.getPosition (index % 256))
            (servo.safeControlWord index axis)
      else
        axis.withProcessData (domain.inputs image slave) (domain.outputs image slave) := by
  cases hmotion : axis.config.isNonMotionSlave with
  | true =>
      have haxis : axis.isMotion = false := by simp [Axis.isMotion, hmotion]
      have hkept : (ImageBackend.safeSlave servo (axis, index) image).1 = axis := by
        rw [ImageBackend.safeSlave, haxis, if_neg (by simp)]
      rw [hkept, haxis]
      simp [Axis.withProcessData, haxis]
  | false =>
      have haxis : axis.isMotion = true := by simp [Axis.isMotion, hmotion]
      obtain ⟨hat, hsize⟩ := hlaid.outputsAt hmotion
      rw [hlaid.safeSlave_eq hoffsets hmotion hset] at hsame ⊢
      dsimp only at hsame ⊢
      obtain ⟨hinputs, houtputs⟩ := hlaid.records_after hmotion hapart
        (hat.within_safeRecordStores _) (hat.readOutputs_safeRecordStores _ image) hsame
      rw [haxis, if_pos rfl, Axis.applySafe_withProcessData hat hoffsets hset haxis, hinputs, houtputs]

end Laid

namespace ImageBackend

/-! ### The loops over the slaves -/

/-- Every slave registered what was mapped for it, and no two of them share a byte. -/
structure Wired (state : ImageBackend) : Prop where
  formed : state.backend.Formed
  length_eq : state.slaves.length = state.servo.axes.length
  laid : ∀ {slave : Nat} {axis : Axis} {data : SlaveData}, state.servo.axes[slave]? = some axis →
    state.slaves[slave]? = some data →
      Laid state.domain slave axis.config data.sriUseFloat data.offsets ∧
        axis.offsets = data.offsets.motor
  set : ∀ slave < state.servo.axes.length,
    state.domain.base slave 2 + 4 < pdoOffsetUnset ∧ state.domain.base slave 3 + 2 < pdoOffsetUnset
  apart : ∀ {slave sync slave' sync' : Nat}, slave < state.servo.axes.length →
    slave' < state.servo.axes.length → (slave, sync) ≠ (slave', sync') →
      Disjoint (state.domain.area slave sync) (state.domain.area slave' sync')

namespace Wired

variable {state : ImageBackend}

theorem exists_data (hwired : state.Wired) {slave : Nat} {axis : Axis}
    (haxis : state.servo.axes[slave]? = some axis) : ∃ data, state.slaves[slave]? = some data := by
  have hlt : slave < state.slaves.length := by
    rw [hwired.length_eq]
    exact (List.getElem?_eq_some_iff.mp haxis).1
  exact ⟨_, List.getElem?_eq_getElem hlt⟩

theorem lt_of_axis {slave : Nat} {axis : Axis} (haxis : state.servo.axes[slave]? = some axis) :
    slave < state.servo.axes.length :=
  (List.getElem?_eq_some_iff.mp haxis).1

theorem bytes_apart (hwired : state.Wired) {slave slave' : Nat}
    (hslave : slave < state.servo.axes.length) (hslave' : slave' < state.servo.axes.length)
    (hne : slave ≠ slave') : Disjoint (state.domain.bytes slave) (state.domain.bytes slave') := by
  have hpart {sync sync' : Nat} :
      Disjoint (state.domain.area slave sync) (state.domain.area slave' sync') :=
    hwired.apart hslave hslave' fun h => hne (congrArg Prod.fst h)
  exact Set.disjoint_union_left.mpr ⟨Set.disjoint_union_right.mpr ⟨hpart, hpart⟩,
    Set.disjoint_union_right.mpr ⟨hpart, hpart⟩⟩

theorem outputs_inputs_apart (hwired : state.Wired) {slave : Nat}
    (hslave : slave < state.servo.axes.length) :
    Disjoint (state.domain.area slave 2) (state.domain.area slave 3) :=
  hwired.apart hslave hslave (by simp)

theorem getElem?_entries {slave : Nat} {axis : Axis} {data : SlaveData} :
    (state.servo.axes.zip state.slaves)[slave]? = some (axis, data) ↔
      state.servo.axes[slave]? = some axis ∧ state.slaves[slave]? = some data := by
  rw [List.getElem?_zip_eq_some]

theorem length_entries (hwired : state.Wired) :
    (state.servo.axes.zip state.slaves).length = state.servo.axes.length := by
  rw [List.length_zip, hwired.length_eq, Nat.min_self]

/-- In the loop of `sendData` each slave does what it does alone. -/
theorem sendSlaves (hwired : state.Wired) (activated wcOk : Bool) {slave : Nat} {axis : Axis}
    {data : SlaveData} (haxis : state.servo.axes[slave]? = some axis)
    (hdata : state.slaves[slave]? = some data) :
    (runEach (sendSlave activated wcOk) (state.servo.axes.zip state.slaves) state.image).1[slave]? =
        some (sendSlave activated wcOk (axis, data) state.image).1 ∧
      Set.EqOn (runEach (sendSlave activated wcOk) (state.servo.axes.zip state.slaves) state.image).2
        (sendSlave activated wcOk (axis, data) state.image).2 (state.domain.bytes slave) := by
  refine runEach_getElem? (fun position entry hentry => ?_) (fun first second hfirst hsecond hne => ?_)
    state.image (getElem?_entries.mpr ⟨haxis, hdata⟩)
  · obtain ⟨hentryAxis, hentryData⟩ := getElem?_entries.mp hentry
    obtain ⟨hlaid, hoffsets⟩ := hwired.laid hentryAxis hentryData
    exact hlaid.isLocal_sendSlave hoffsets activated wcOk
  · rw [hwired.length_entries] at hfirst hsecond
    exact hwired.bytes_apart hfirst hsecond hne

theorem safeSlaves (hwired : state.Wired) (servo : Servo) {slave : Nat} {axis : Axis}
    (haxis : state.servo.axes[slave]? = some axis) :
    (runEach (safeSlave servo) state.servo.axes.zipIdx state.image).1[slave]? =
        some (safeSlave servo (axis, slave) state.image).1 ∧
      Set.EqOn (runEach (safeSlave servo) state.servo.axes.zipIdx state.image).2
        (safeSlave servo (axis, slave) state.image).2 (state.domain.bytes slave) := by
  refine runEach_getElem? (fun position entry hentry => ?_) (fun first second hfirst hsecond hne => ?_)
    state.image (by rw [List.getElem?_zipIdx, haxis, Option.map_some, Nat.zero_add])
  · rw [List.getElem?_zipIdx, Option.map_eq_some_iff] at hentry
    obtain ⟨entryAxis, hentryAxis, rfl⟩ := hentry
    obtain ⟨entryData, hentryData⟩ := hwired.exists_data hentryAxis
    obtain ⟨hlaid, hoffsets⟩ := hwired.laid hentryAxis hentryData
    have hset := (hwired.set position (lt_of_axis hentryAxis)).1
    exact hlaid.isLocal_safeSlave hoffsets hset servo _
  · rw [List.length_zipIdx] at hfirst hsecond
    exact hwired.bytes_apart hfirst hsecond hne

end Wired

section Layout

variable (state : ImageBackend)

@[simp]
theorem layout_sendData (domainState : DomainState) :
    (state.sendData domainState).domain = state.domain ∧
      (state.sendData domainState).slaves = state.slaves := by
  unfold sendData
  split
  · exact ⟨rfl, rfl⟩
  · exact ⟨rfl, rfl⟩

@[simp]
theorem layout_applySafe :
    state.applySafeProcessImageOutputs.domain = state.domain ∧
      state.applySafeProcessImageOutputs.slaves = state.slaves := by
  unfold applySafeProcessImageOutputs
  split
  · exact ⟨rfl, rfl⟩
  · exact ⟨rfl, rfl⟩

end Layout

section Ready

variable {state : ImageBackend} (hready : state.servo.ready = true) (domainState : DomainState)

include hready

theorem activated_of_ready : state.servo.activated = true := by
  rw [Servo.ready, Bool.and_eq_true] at hready
  exact hready.2

/-- The loop of `sendData` from the axes and the image of the state. -/
theorem sendData_of_ready :
    (state.sendData domainState).servo.bare = state.servo.bare ∧
      (state.sendData domainState).backend.runtime = state.backend.runtime ∧
        ((state.sendData domainState).servo.axes, (state.sendData domainState).image) =
          runEach (sendSlave true (domainState.wcState == .complete))
            (state.servo.axes.zip state.slaves) state.image := by
  rw [sendData, if_pos hready, activated_of_ready hready]
  exact ⟨rfl, rfl, rfl⟩

theorem applySafe_of_ready :
    state.applySafeProcessImageOutputs.servo.bare =
        { state.servo.bare with
          safeOutputActive := true
          explicitFaultResetCycles := state.servo.explicitFaultResetCycles - 1
          explicitFaultResetAxis :=
            if state.servo.explicitFaultResetCycles = 1 then 0xFFFF
            else state.servo.explicitFaultResetAxis } ∧
      state.applySafeProcessImageOutputs.backend.runtime = state.backend.runtime ∧
        (state.applySafeProcessImageOutputs.servo.axes, state.applySafeProcessImageOutputs.image) =
          runEach (safeSlave state.servo) state.servo.axes.zipIdx state.image := by
  rw [applySafeProcessImageOutputs, if_pos hready]
  exact ⟨rfl, rfl, rfl⟩

end Ready

theorem getElem?_view (state : ImageBackend) (slave : Nat) :
    state.view.servo.axes[slave]? =
      state.servo.axes[slave]?.map
        (Axis.withProcessData (state.domain.inputs state.image slave) (state.domain.outputs state.image slave)) :=
  Servo.getElem?_withRecords _ _ state.servo slave

namespace Wired

variable {state : ImageBackend}

theorem getElem?_view_sendData (hwired : state.Wired) (hready : state.servo.ready = true)
    (domainState : DomainState) (slave : Nat) :
    ((state.sendData domainState).view).servo.axes[slave]? =
      (state.view.servo.sendData domainState).axes[slave]? := by
  have hready' : state.view.servo.ready = true := hready
  obtain ⟨-, -, hloop⟩ := sendData_of_ready hready domainState
  have haxes := congrArg Prod.fst hloop
  have himage := congrArg Prod.snd hloop
  dsimp only at haxes himage
  rw [Servo.getElem?_sendData, hready', getElem?_view, getElem?_view, Option.map_map, haxes, himage,
    (layout_sendData state domainState).1]
  cases haxis : state.servo.axes[slave]? with
  | none =>
      have hlength := List.getElem?_eq_none_iff.mp haxis
      have hnone : (runEach (sendSlave true (domainState.wcState == .complete))
          (state.servo.axes.zip state.slaves) state.image).1[slave]? = none := by
        rw [List.getElem?_eq_none_iff, length_runEach, hwired.length_entries]
        exact hlength
      rw [hnone]
      rfl
  | some axis =>
      obtain ⟨data, hdata⟩ := hwired.exists_data haxis
      obtain ⟨hlaid, hoffsets⟩ := hwired.laid haxis hdata
      obtain ⟨hresult, hsame⟩ := hwired.sendSlaves true (domainState.wcState == .complete) haxis hdata
      have hapart := hwired.outputs_inputs_apart (lt_of_axis haxis)
      have hslave := hlaid.withRecords_sendSlave hoffsets hapart true
        (domainState.wcState == .complete) hsame
      rw [hresult, Option.map_some, hslave, Option.map_some, Function.comp_apply,
        Axis.isMotion_withProcessData, Bool.true_and]

theorem getElem?_view_applySafe (hwired : state.Wired) (hready : state.servo.ready = true)
    (slave : Nat) :
    (state.applySafeProcessImageOutputs.view).servo.axes[slave]? =
      state.view.servo.applySafeProcessImageOutputs.axes[slave]? := by
  have hready' : state.view.servo.ready = true := hready
  obtain ⟨-, -, hloop⟩ := applySafe_of_ready hready
  have haxes := congrArg Prod.fst hloop
  have himage := congrArg Prod.snd hloop
  dsimp only at haxes himage
  rw [Servo.getElem?_applySafe, hready', getElem?_view, getElem?_view, Option.map_map, haxes, himage,
    (layout_applySafe state).1]
  cases haxis : state.servo.axes[slave]? with
  | none =>
      have hlength := List.getElem?_eq_none_iff.mp haxis
      have hnone : (runEach (safeSlave state.servo) state.servo.axes.zipIdx
          state.image).1[slave]? = none := by
        rw [List.getElem?_eq_none_iff, length_runEach, List.length_zipIdx]
        exact hlength
      rw [hnone]
      rfl
  | some axis =>
      obtain ⟨data, hdata⟩ := hwired.exists_data haxis
      obtain ⟨hlaid, hoffsets⟩ := hwired.laid haxis hdata
      obtain ⟨hresult, hsame⟩ := hwired.safeSlaves state.servo haxis
      have hapart := hwired.outputs_inputs_apart (lt_of_axis haxis)
      have hset := (hwired.set slave (lt_of_axis haxis)).1
      have hslave := hlaid.withRecords_safeSlave hoffsets hset hapart state.servo slave hsame
      have hposition : state.view.servo.getPosition (slave % 256) =
          state.servo.getPosition (slave % 256) :=
        Servo.getPosition_withRecords _ _ state.servo _
      have hword : state.view.servo.safeControlWord slave
          (axis.withProcessData (state.domain.inputs state.image slave) (state.domain.outputs state.image slave)) =
            state.servo.safeControlWord slave axis :=
        Servo.safeControlWord_withRecords _ _ state.servo slave axis _ _
      rw [hresult, Option.map_some, hslave, Option.map_some, Function.comp_apply,
        Axis.isMotion_withProcessData, Bool.true_and, hposition, hword]
      rfl

/-- The records after `sendData` are those that the servo with records sends. -/
theorem view_sendData (hwired : state.Wired) (domainState : DomainState) :
    (state.sendData domainState).view =
      { state.view with servo := state.view.servo.sendData domainState } := by
  cases hready : state.servo.ready with
  | false =>
      have hready' : state.view.servo.ready = false := hready
      rw [ImageBackend.sendData, hready, if_neg (by simp), Servo.sendData, hready', if_neg (by simp)]
  | true =>
      obtain ⟨hbare, hruntime, -⟩ := sendData_of_ready hready domainState
      refine Backend.eq_of_parts (Servo.eq_of_bare_of_axes ?_ ?_) hruntime
      · exact hbare.trans (Servo.bare_sendData domainState state.view.servo).symm
      · exact hwired.getElem?_view_sendData hready domainState

theorem view_applySafe (hwired : state.Wired) :
    state.applySafeProcessImageOutputs.view =
      { state.view with
        servo := state.view.servo.applySafeProcessImageOutputs } := by
  cases hready : state.servo.ready with
  | false =>
      have hready' : state.view.servo.ready = false := hready
      rw [ImageBackend.applySafeProcessImageOutputs, hready, if_neg (by simp),
        Servo.applySafeProcessImageOutputs, hready', if_neg (by simp)]
  | true =>
      have hready' : state.view.servo.ready = true := hready
      obtain ⟨hbare, hruntime, -⟩ := applySafe_of_ready hready
      refine Backend.eq_of_parts (Servo.eq_of_bare_of_axes ?_ ?_) hruntime
      · refine hbare.trans ?_
        rw [Servo.applySafeProcessImageOutputs, if_pos hready']
        rfl
      · exact hwired.getElem?_view_applySafe hready

/-! ### What the bus changes -/

theorem mem_area_of_isInput (hwired : state.Wired) {address : Nat}
    (hinput : state.domain.isInput state.servo.motorCount address = true) :
    ∃ slave < state.servo.axes.length, address ∈ state.domain.area slave 3 := by
  simp only [Domain.isInput, List.any_eq_true, List.mem_range, Bool.and_eq_true, beq_iff_eq,
    decide_eq_true_eq] at hinput
  obtain ⟨slave, hslave, sync, hsync, ⟨hdirection, hfirst⟩, hstop⟩ := hinput
  obtain ⟨data, hdata⟩ := hwired.exists_data (List.getElem?_eq_getElem hslave)
  obtain ⟨hlaid, -⟩ := hwired.laid (List.getElem?_eq_getElem hslave) hdata
  exact ⟨slave, hslave, hlaid.mem_area_of_input hsync hdirection hfirst hstop⟩

/-- What keeps the outputs of the slaves does so for each of them. -/
theorem eqOn_outputs (hwired : state.Wired) {received : Memory}
    (hkeeps : state.domain.KeepsOutputs state.servo.motorCount state.image received) {slave : Nat}
    (hslave : slave < state.servo.axes.length) :
    Set.EqOn received state.image (state.domain.area slave 2) := by
  intro address haddress
  refine hkeeps address ?_
  rw [← Bool.not_eq_true]
  intro hinput
  obtain ⟨slave', hslave', hin⟩ := hwired.mem_area_of_isInput hinput
  have hapart : Disjoint (state.domain.area slave 2) (state.domain.area slave' 3) :=
    hwired.apart hslave hslave' (by simp)
  exact Set.disjoint_left.mp hapart haddress hin

theorem receiveData_of_ready (hready : state.servo.ready = true) (received : Memory) :
    state.receiveData received =
      { state.withServo
          { state.servo with axes := state.servo.axes.map (Axis.receiveImage received) } with
        slaves := List.zipWith (SlaveData.receive received) state.servo.axes state.slaves
        image := received } := by
  rw [ImageBackend.receiveData, if_pos hready]

/-- The inputs of an axis are what its objects hold in the image that the bus hands over. -/
theorem view_receiveData (hwired : state.Wired) {received : Memory}
    (hkeeps : state.domain.KeepsOutputs state.servo.motorCount state.image received) :
    (state.receiveData received).view =
      { state.view with servo := state.view.servo.receiveData (state.domain.inputs received) } := by
  cases hready : state.servo.ready with
  | false =>
      have hready' : state.view.servo.ready = false := hready
      rw [ImageBackend.receiveData, hready, if_neg (by simp), Servo.receiveData, hready',
        if_neg (by simp)]
  | true =>
      have hready' : state.view.servo.ready = true := hready
      refine Backend.eq_of_parts (Servo.eq_of_bare_of_axes ?_ fun slave => ?_) ?_
      · have hbare : (state.receiveData received).servo.bare = state.servo.bare := by
          rw [receiveData_of_ready hready]
          rfl
        exact hbare.trans (Servo.bare_receiveData _ state.view.servo).symm
      · have hview := getElem?_view (state.receiveData received) slave
        rw [receiveData_of_ready hready] at hview ⊢
        refine hview.trans ?_
        change ((state.servo.axes.map _)[slave]?).map _ = _
        rw [Servo.getElem?_receiveData, hready', getElem?_view, List.getElem?_map, Option.map_map,
          Option.map_map]
        cases haxis : state.servo.axes[slave]? with
        | none => rfl
        | some axis =>
            obtain ⟨data, hdata⟩ := hwired.exists_data haxis
            obtain ⟨hlaid, hoffsets⟩ := hwired.laid haxis hdata
            have hkept := hwired.eqOn_outputs hkeeps (lt_of_axis haxis)
            simp only [Option.map_some, Function.comp_apply, Axis.isMotion_withProcessData,
              Bool.true_and]
            exact congrArg some (hlaid.withRecords_receiveImage hoffsets hkept)
      · rw [receiveData_of_ready hready]
        rfl

end Wired

end ImageBackend

end IghMaster
