import IghMaster.Proof.ImageRefinement

/-!
# Runs over the image

Every action of a backend with its image is one of the backend with records. An initialization wires the
slaves to what was mapped for them, and nothing changes that afterwards.
-/

namespace IghMaster

open ByteMemory Transition

namespace Domain

theorem value_zero (domain : Domain) (slave : Nat) (index : UInt16) (count : Nat) :
    domain.value (fun _ => 0) slave index count = 0 := by
  unfold value
  split
  · exact ofBytes_load_zero _ count
  · rfl

theorem inputs_zero (domain : Domain) : domain.inputs (fun _ => 0) = fun _ => {} := by
  funext slave
  simp only [inputs, valueU16, valueS8, valueS16, valueS32, value_zero]
  rfl

theorem outputs_zero (domain : Domain) : domain.outputs (fun _ => 0) = fun _ => {} := by
  funext slave
  simp only [outputs, valueU16, valueS8, valueS16, valueS32, value_zero]
  rfl

end Domain

namespace SlaveData

/-- What the initialization gives to a slave besides its axis. -/
def wiring (data : SlaveData) : SlaveOffsets × Bool := (data.offsets, data.sriUseFloat)

theorem wiring_receive (image : Memory) (axis : Axis) (data : SlaveData) :
    (data.receive image axis).wiring = data.wiring := by
  unfold receive
  split_ifs <;> rfl

end SlaveData

namespace Servo

/-- An operation that maps each axis leaves the wiring if it does so for each. -/
theorem wirings_of_map {servo servo' : Servo} {update : Nat → Axis → Axis}
    (hmap : ∀ slave : Nat, servo'.axes[slave]? = servo.axes[slave]?.map (update slave))
    (hwiring : ∀ slave axis, (update slave axis).wiring = axis.wiring) :
    servo'.axes.map Axis.wiring = servo.axes.map Axis.wiring := by
  refine List.ext_getElem? fun slave => ?_
  rw [List.getElem?_map, List.getElem?_map, hmap, Option.map_map]
  congr 1
  funext axis
  exact hwiring slave axis

theorem wirings_sendData (domain : DomainState) (servo : Servo) :
    (servo.sendData domain).axes.map Axis.wiring = servo.axes.map Axis.wiring := by
  refine wirings_of_map (fun slave => getElem?_sendData domain servo slave) fun slave axis => ?_
  split <;> rfl

theorem wirings_applySafe (servo : Servo) :
    servo.applySafeProcessImageOutputs.axes.map Axis.wiring = servo.axes.map Axis.wiring := by
  refine wirings_of_map (fun slave => getElem?_applySafe servo slave) fun slave axis => ?_
  split <;> rfl

end Servo

namespace Backend

theorem wirings_next {backend : Backend} (hformed : backend.Formed) {action : BackendAction}
    (hother : ∀ bus config motors, action ≠ .initializeServo bus config motors) :
    (next backend action).servo.axes.map Axis.wiring = backend.servo.axes.map Axis.wiring :=
  Servo.wirings_of_map (fun slave => getElem?_next hformed slave hother)
    fun slave axis => wiring_axisNext backend slave action axis

end Backend

namespace ImageBackend

theorem wirings_view (state : ImageBackend) :
    state.view.servo.axes.map Axis.wiring = state.servo.axes.map Axis.wiring :=
  Servo.wirings_of_map (fun slave => getElem?_view state slave)
    fun _ axis => Axis.wiring_withProcessData _ _ axis

theorem axes_view_eq_nil {state : ImageBackend} :
    state.view.servo.axes = [] ↔ state.servo.axes = [] := by
  rw [← List.map_eq_nil_iff (f := Axis.wiring), wirings_view, List.map_eq_nil_iff]

theorem formed_view {state : ImageBackend} : state.view.Formed ↔ state.backend.Formed := by
  constructor
  · intro hformed
    exact hformed.of_bare rfl axes_view_eq_nil.mp rfl
  · intro hformed
    exact hformed.of_bare rfl axes_view_eq_nil.mpr rfl

/-! ### The wiring is kept -/

namespace Wired

variable {state : ImageBackend}

/-- The wiring is that of the axes and of what is kept besides them. -/
theorem of_wirings (hwired : state.Wired) {state' : ImageBackend} (hformed : state'.backend.Formed)
    (hdomain : state'.domain = state.domain)
    (haxes : state'.servo.axes.map Axis.wiring = state.servo.axes.map Axis.wiring)
    (hslaves : state'.slaves.map SlaveData.wiring = state.slaves.map SlaveData.wiring) :
    state'.Wired := by
  have hcount : state'.servo.axes.length = state.servo.axes.length := by
    simpa using congrArg List.length haxes
  have hslaveCount : state'.slaves.length = state.slaves.length := by
    simpa using congrArg List.length hslaves
  refine ⟨hformed, ?_, fun {slave axis data} haxis hdata => ?_, ?_, ?_⟩
  · rw [hcount, hslaveCount]
    exact hwired.length_eq
  · have haxisBefore : state.servo.axes[slave]?.map Axis.wiring = some axis.wiring := by
      rw [← List.getElem?_map, ← haxes, List.getElem?_map, haxis]
      rfl
    have hdataBefore : state.slaves[slave]?.map SlaveData.wiring = some data.wiring := by
      rw [← List.getElem?_map, ← hslaves, List.getElem?_map, hdata]
      rfl
    obtain ⟨axisBefore, hget, hsame⟩ := Option.map_eq_some_iff.mp haxisBefore
    obtain ⟨dataBefore, hgetData, hsameData⟩ := Option.map_eq_some_iff.mp hdataBefore
    obtain ⟨hlaid, hoffsets⟩ := hwired.laid hget hgetData
    obtain ⟨hconfig, hmotor⟩ := Prod.mk.inj hsame
    obtain ⟨hslaveOffsets, hfloat⟩ := Prod.mk.inj hsameData
    rw [hdomain, ← hconfig, ← hslaveOffsets, ← hfloat, ← hmotor]
    exact ⟨hlaid, hoffsets⟩
  · rw [hcount, hdomain]
    exact hwired.set
  · rw [hcount, hdomain]
    exact hwired.apart

/-- What the records show of the wiring decides, as they have the same axes. -/
theorem of_view (hwired : state.Wired) {state' : ImageBackend} (hformed : state'.view.Formed)
    (hdomain : state'.domain = state.domain)
    (haxes : state'.view.servo.axes.map Axis.wiring = state.view.servo.axes.map Axis.wiring)
    (hslaves : state'.slaves.map SlaveData.wiring = state.slaves.map SlaveData.wiring) :
    state'.Wired := by
  rw [wirings_view, wirings_view] at haxes
  exact hwired.of_wirings (formed_view.mp hformed) hdomain haxes hslaves

/-- An action of the backend with records leaves the wiring. -/
theorem of_view_next (hwired : state.Wired) {state' : ImageBackend} {action : BackendAction}
    (hother : ∀ bus config motors, action ≠ .initializeServo bus config motors)
    (hview : state'.view = Backend.next state.view action) (hdomain : state'.domain = state.domain)
    (hslaves : state'.slaves.map SlaveData.wiring = state.slaves.map SlaveData.wiring) :
    state'.Wired := by
  have hformed := formed_view.mpr hwired.formed
  refine hwired.of_view ?_ hdomain ?_ hslaves
  · rw [hview]
    exact Backend.formed_next hformed action
  · rw [hview]
    exact Backend.wirings_next hformed hother

theorem wirings_receive (hwired : state.Wired) (image : Memory) :
    (List.zipWith (SlaveData.receive image) state.servo.axes state.slaves).map SlaveData.wiring =
      state.slaves.map SlaveData.wiring := by
  refine List.ext_getElem? fun slave => ?_
  rw [List.getElem?_map, List.getElem?_map, List.getElem?_zipWith]
  cases haxis : state.servo.axes[slave]? with
  | none =>
      have hnone : state.slaves[slave]? = none := by
        rw [List.getElem?_eq_none_iff, hwired.length_eq]
        exact List.getElem?_eq_none_iff.mp haxis
      rw [hnone]
  | some axis =>
      obtain ⟨data, hdata⟩ := hwired.exists_data haxis
      rw [hdata]
      exact congrArg some (SlaveData.wiring_receive image axis data)

theorem wirings_receiveData (hwired : state.Wired) (received : Memory) :
    (state.receiveData received).domain = state.domain ∧
      (state.receiveData received).slaves.map SlaveData.wiring =
        state.slaves.map SlaveData.wiring := by
  unfold receiveData
  split
  · exact ⟨rfl, hwired.wirings_receive _⟩
  · exact ⟨rfl, rfl⟩

end Wired

/-! ### The actions that leave the image -/

/-- An action of the backend alone, on records that it ignores. -/
theorem view_withBackend (state : ImageBackend) {action : BackendAction}
    (hquiet : Backend.isQuiet action = true) :
    ({ state with backend := state.backend.next action } : ImageBackend).view =
      Backend.next state.view action :=
  (Backend.next_withRecords _ _ hquiet state.backend).symm

/-! ### A Job cycle -/

theorem wiring_receiveImage (image : Memory) (axis : Axis) :
    (axis.receiveImage image).wiring = axis.wiring := by
  unfold Axis.receiveImage
  split <;> rfl

theorem wirings_receiveImage (image : Memory) (axes : List Axis) :
    (axes.map (Axis.receiveImage image)).map Axis.wiring = axes.map Axis.wiring := by
  rw [List.map_map]
  exact List.map_congr_left fun axis _ => wiring_receiveImage image axis

/-- The state in which a Job cycle reads its inputs. -/
def checked (nowNs : Nat) (state : ImageBackend) : ImageBackend :=
  let consumed : Backend :=
    { state.backend with runtime := state.backend.runtime.consumePendingDwellFault }
  { state with backend := consumed.checkFreshness nowNs }

theorem view_checked (nowNs : Nat) (state : ImageBackend) :
    (state.checked nowNs).view =
      Backend.checkFreshness nowNs
        { state.view with runtime := state.view.runtime.consumePendingDwellFault } := by
  have hservo := Servo.checkFreshness_withRecords (state.domain.inputs state.image)
    (state.domain.outputs state.image)
    state.backend.runtime.consumePendingDwellFault.safeOutputRequired nowNs state.servo
  have hview : state.view.servo = state.servo.withRecords (state.domain.inputs state.image)
    (state.domain.outputs state.image) := rfl
  have hruntime : state.view.runtime = state.backend.runtime := rfl
  unfold Backend.checkFreshness
  rw [hview, hruntime, hservo]
  rfl

theorem wirings_checked (nowNs : Nat) (state : ImageBackend) :
    (state.checked nowNs).servo.axes.map Axis.wiring = state.servo.axes.map Axis.wiring := by
  let consumed : Backend :=
    { state.backend with runtime := state.backend.runtime.consumePendingDwellFault }
  refine Servo.wirings_of_map
    (fun slave => Backend.getElem?_checkExternalCommandFreshness consumed nowNs slave)
    fun slave axis => ?_
  simp only [Axis.tripStale]
  split_ifs <;> rfl

theorem jobRunning_checked (nowNs : Nat) (state : ImageBackend) :
    (state.checked nowNs).backend.runtime.jobRunning = state.backend.runtime.jobRunning := by
  let consumed : Backend :=
    { state.backend with runtime := state.backend.runtime.consumePendingDwellFault }
  have hlatched := (IghMasterRuntime.monitored_latchIf
    (consumed.servo.checkExternalCommandFreshness consumed.runtime.safeOutputRequired nowNs).2
    consumed.runtime).jobRunning_eq
  exact hlatched.trans (IghMasterRuntime.jobRunning_consumePendingDwellFault _)

namespace Wired

variable {state : ImageBackend}

theorem wirings_sendData (hwired : state.Wired) (domainState : DomainState) :
    (state.sendData domainState).servo.axes.map Axis.wiring = state.servo.axes.map Axis.wiring := by
  have hview := congrArg (fun backend : Backend => backend.servo.axes.map Axis.wiring)
    (hwired.view_sendData domainState)
  calc
    (state.sendData domainState).servo.axes.map Axis.wiring =
        (state.sendData domainState).view.servo.axes.map Axis.wiring := (wirings_view _).symm
    _ = state.view.servo.axes.map Axis.wiring :=
        hview.trans (Servo.wirings_sendData domainState state.view.servo)
    _ = state.servo.axes.map Axis.wiring := wirings_view state

theorem wirings_applySafe (hwired : state.Wired) :
    state.applySafeProcessImageOutputs.servo.axes.map Axis.wiring =
      state.servo.axes.map Axis.wiring := by
  have hview := congrArg (fun backend : Backend => backend.servo.axes.map Axis.wiring)
    hwired.view_applySafe
  calc
    state.applySafeProcessImageOutputs.servo.axes.map Axis.wiring =
        state.applySafeProcessImageOutputs.view.servo.axes.map Axis.wiring := (wirings_view _).symm
    _ = state.view.servo.axes.map Axis.wiring :=
        hview.trans (Servo.wirings_applySafe state.view.servo)
    _ = state.servo.axes.map Axis.wiring := wirings_view state

/-- A motion cycle starts by leaving the safe outputs. -/
theorem released (hwired : state.Wired) :
    (state.withServo { state.servo with safeOutputActive := false }).Wired := by
  have hformed : ({ state.backend with
      servo := { state.servo with safeOutputActive := false } } : Backend).Formed :=
    ⟨hwired.formed.running_eq, hwired.formed.initialized_of_activated, hwired.formed.axes_eq_nil⟩
  exact hwired.of_wirings hformed rfl rfl rfl

theorem checked (hwired : state.Wired) (nowNs : Nat) : (state.checked nowNs).Wired := by
  have haxes := wirings_checked nowNs state
  refine hwired.of_wirings
    (hwired.formed.of_bare ?_ (fun hnil => ?_) (jobRunning_checked nowNs state)) rfl haxes rfl
  · exact Servo.bare_checkExternalCommandFreshness _ _ _
  · have hempty : (state.checked nowNs).servo.axes.map Axis.wiring = [] := by
      rw [haxes]
      exact List.map_eq_nil_iff.mpr hnil
    exact List.map_eq_nil_iff.mp hempty

theorem receiveData_wired (hwired : state.Wired) (received : Memory) :
    (state.receiveData received).Wired := by
  cases hready : state.servo.ready with
  | false =>
      rw [ImageBackend.receiveData, hready, if_neg (by simp)]
      exact hwired
  | true =>
      rw [receiveData_of_ready hready]
      have haxes := wirings_receiveImage received state.servo.axes
      refine hwired.of_wirings (hwired.formed.of_bare rfl (fun hnil => ?_) rfl) rfl haxes
        (hwired.wirings_receive _)
      exact List.map_eq_nil_iff.mpr hnil

theorem view_exchangeOutputs (hwired : state.Wired) (domainState : DomainState) :
    (state.exchangeOutputs domainState).view = state.view.exchangeOutputs domainState := by
  have hlatch : state.view.runtime.safeOutputRequired = state.backend.runtime.safeOutputRequired := rfl
  unfold ImageBackend.exchangeOutputs Backend.exchangeOutputs
  rw [hlatch]
  split
  · exact hwired.view_applySafe
  · exact hwired.released.view_sendData domainState

theorem keepsOutputs_checked (hwired : state.Wired) (nowNs : Nat) {received : Memory}
    (hkeeps : state.domain.KeepsOutputs state.servo.motorCount state.image received) :
    (state.checked nowNs).domain.KeepsOutputs (state.checked nowNs).servo.motorCount
      (state.checked nowNs).image received := by
  have hcount : (state.checked nowNs).servo.motorCount = state.servo.motorCount :=
    ((hwired.checked nowNs).length_eq).symm.trans hwired.length_eq
  rw [hcount]
  exact hkeeps

/-- A Job cycle that runs goes through all its steps. -/
theorem jobCycle_of_running (hwired : state.Wired) (hrunning : state.backend.runtime.jobRunning = true)
    (input : ImageJobInput) :
    state.jobCycle input =
      let exchanged :=
        ((state.checked input.freshnessNowNs).receiveData input.received).exchangeOutputs input.domain
      { exchanged with
        backend := exchanged.backend.finishJobCycle input.timing input.domain.rxOk } := by
  have hready : state.servo.ready = true := hwired.formed.ready_eq.trans hrunning
  rw [Servo.ready, Bool.and_eq_true] at hready
  rw [ImageBackend.jobCycle, hrunning, hready.1]
  rfl

/-- The Job cycle over the bytes is the Job cycle over the records. -/
theorem view_jobCycle (hwired : state.Wired) {input : ImageJobInput}
    (hkeeps : state.backend.runtime.jobRunning = true →
      state.domain.KeepsOutputs state.servo.motorCount state.image input.received) :
    (state.jobCycle input).view =
      state.view.jobCycle
        { freshnessNowNs := input.freshnessNowNs
          inputs := state.domain.inputs input.received
          domain := input.domain
          timing := input.timing } := by
  have hrunning : state.view.runtime.jobRunning = state.backend.runtime.jobRunning := rfl
  have hinitialized : state.view.servo.initialized = state.servo.initialized := rfl
  unfold ImageBackend.jobCycle Backend.jobCycle
  rw [hrunning, hinitialized]
  split
  · rfl
  rename_i hjob
  split
  · rfl
  have hchecked := hwired.checked input.freshnessNowNs
  have hreceived := hchecked.receiveData_wired input.received
  have hkept := hwired.keepsOutputs_checked input.freshnessNowNs (hkeeps (by simpa using hjob))
  have hview : ((state.checked input.freshnessNowNs).receiveData input.received).view =
      state.view.beforeOutputs
        { freshnessNowNs := input.freshnessNowNs
          inputs := state.domain.inputs input.received
          domain := input.domain
          timing := input.timing } := by
    rw [hchecked.view_receiveData hkept, view_checked]
    rfl
  have hexchanged := hreceived.view_exchangeOutputs input.domain
  rw [hview] at hexchanged
  exact congrArg (Backend.finishJobCycle input.timing input.domain.rxOk) hexchanged

theorem slaves_exchangeOutputs (domainState : DomainState) :
    (state.exchangeOutputs domainState).domain = state.domain ∧
      (state.exchangeOutputs domainState).slaves = state.slaves := by
  unfold ImageBackend.exchangeOutputs
  split
  · exact layout_applySafe state
  · exact layout_sendData (state.withServo { state.servo with safeOutputActive := false }) domainState

theorem wirings_jobCycle (hwired : state.Wired) (input : ImageJobInput) :
    (state.jobCycle input).domain = state.domain ∧
      (state.jobCycle input).slaves.map SlaveData.wiring = state.slaves.map SlaveData.wiring := by
  unfold ImageBackend.jobCycle
  dsimp only
  split
  · exact ⟨rfl, rfl⟩
  split
  · exact ⟨rfl, rfl⟩
  have hreceived := (hwired.checked input.freshnessNowNs).wirings_receiveData input.received
  have hexchanged := @slaves_exchangeOutputs
    ((state.checked input.freshnessNowNs).receiveData input.received) input.domain
  exact ⟨hexchanged.1.trans hreceived.1,
    (congrArg (List.map SlaveData.wiring) hexchanged.2).trans hreceived.2⟩

end Wired

/-! ### A start -/

/-- Where an activation finds the process data zero, the records are so too. -/
theorem view_bringUp (input : BringUpInput) {firstImage : Memory} {state : ImageBackend}
    (hzero : state.activates input = true → firstImage = fun _ => 0) :
    (state.bringUp input firstImage).view = (state.view.bringUp input).1 := by
  have hrecords := Backend.bringUp_withRecords (state.domain.inputs state.image)
    (state.domain.outputs state.image) input state.backend
  refine Eq.trans ?_ hrecords.symm
  have hactivates : state.activates input = state.servo.activatesNow input.activation := rfl
  have hservo : state.backend.servo = state.servo := rfl
  rw [hactivates] at hzero
  rw [ImageBackend.bringUp, view, hactivates, hservo]
  cases hnow : state.servo.activatesNow input.activation with
  | true =>
      rw [if_pos rfl, if_pos rfl, if_pos rfl, hzero hnow, Domain.inputs_zero, Domain.outputs_zero]
  | false => rfl

end ImageBackend

/-! ### The initialization -/

namespace Servo

/-- Axes that are new have no process data. -/
theorem withRecords_fresh {bus : BusSetup} {busCycleUs : UInt32} {configs : List MotorConfig}
    {axes : List Axis} (hinitial : initialAxes bus busCycleUs configs = some axes) (servo : Servo) :
    ({ servo with axes := axes } : Servo).withRecords (fun _ => {}) (fun _ => {}) =
      { servo with axes := axes } := by
  refine eq_of_bare_of_axes rfl fun slave => ?_
  rw [getElem?_withRecords]
  cases haxis : axes[slave]? with
  | none => rfl
  | some axis =>
      obtain ⟨motor, offsets, -, -, rfl⟩ := getElem?_initialAxes hinitial haxis
      rw [Option.map_some, Axis.withProcessData]
      split <;> rfl

end Servo

/-! ### An initialization wires the slaves -/

namespace BusSetup

variable {bus : BusSetup} {domain : Domain} {slave : Nat}

theorem Serves.base_lt (hserves : bus.Serves domain) {syncs : List SyncManager}
    (hsyncs : domain.syncs slave = syncs) {index : UInt16} {subindex : UInt8} {sync : Nat}
    (hlocate : locate syncs index subindex = some (sync, 0)) : domain.base slave sync < 2147483648 := by
  subst hsyncs
  have hret := hserves.found hlocate (Nat.zero_mod 8)
  have hlt := Int32.toInt_lt (bus.regPdoEntry slave index subindex)
  rw [hret] at hlt
  omega

theorem Serves.base_lt_of_laid (hserves : bus.Serves domain) {config : MotorConfig} {useFloat : Bool}
    {offsets : SlaveOffsets} (hlaid : Laid domain slave config useFloat offsets) :
    domain.base slave 2 < 2147483648 ∧ domain.base slave 3 < 2147483648 := by
  cases hlaid with
  | joint hgateway hlayout hsyncs =>
      obtain ⟨hcontrol, -, -, -, -, hstatus, -⟩ := locate_joint (isSjd17 config)
      exact ⟨hserves.base_lt hsyncs hcontrol, hserves.base_lt hsyncs hstatus⟩
  | jmdt hgateway hlayout hsyncs =>
      obtain ⟨hcontrol, -, -, -, -, hstatus, -⟩ := locate_jmdt
      exact ⟨hserves.base_lt hsyncs hcontrol, hserves.base_lt hsyncs hstatus⟩
  | gateway hgateway hsyncs =>
      have hsent : locate gatewaySyncs 0x2000 0x01 = some (2, 0) := by decide +kernel
      have hreceived : locate gatewaySyncs 0x2001 0x01 = some (3, 0) := by decide +kernel
      exact ⟨hserves.base_lt hsyncs hsent, hserves.base_lt hsyncs hreceived⟩
  | sri hgateway hlayout hsyncs =>
      have hpara : locate (sriSyncs useFloat) 0x7010 0x01 = some (2, 0) := by
        cases useFloat <;> decide
      have hdata : locate (sriSyncs useFloat) (if useFloat then 0x6030 else 0x6020) 0x01 =
          some (3, 0) := by
        cases useFloat <;> decide
      exact ⟨hserves.base_lt hsyncs hpara, hserves.base_lt hsyncs hdata⟩

end BusSetup

namespace ImageBackend

/-- What is relied on besides the program: an initialization finds a bus that serves its domain, where each
slave has what is mapped for it, an activation finds the process data zero, and a cycle on the bus changes
the inputs of the slaves only. -/
def IsServed (state : ImageBackend) : ImageAction → Prop
  | .initializeServo bus domain _ motors =>
      bus.Serves domain ∧ ∀ (slave : Nat) (motor : MotorConfig), motors[slave]? = some motor →
        ∀ syncs, configurePdoMapping (bus.correctIdentity motor) = some syncs →
          domain.syncs slave = syncs
  | .bringUp input firstImage => state.activates input = true → firstImage = fun _ => 0
  | .job input =>
      state.backend.runtime.jobRunning = true →
        state.domain.KeepsOutputs state.servo.motorCount state.image input.received
  | _ => True

/-- The actions of a run are all served. -/
def IsServedRun (actions : List ImageAction) : Prop :=
  machine.Meets (fun config action => config.state.IsServed action) (.start {}) actions

section Initialization

variable {bus : BusSetup} {domain : Domain} {motors : List MotorConfig} {busCycleUs : UInt32}
  {axes : List Axis}

theorem isSome_configurePdoMapping
    (hinitial : Servo.initialAxes (mappingBus bus) busCycleUs motors = some axes)
    {motor : MotorConfig} (hmotor : motor ∈ motors) :
    (configurePdoMapping (bus.correctIdentity motor)).isSome = true := by
  obtain ⟨hmapping, -⟩ := Servo.initialAxes_eq_some hinitial
  change (bus.configurePdoMapping (motors.map bus.correctIdentity) &&
    (motors.map bus.correctIdentity).all fun config => (configurePdoMapping config).isSome) = true
    at hmapping
  rw [Bool.and_eq_true, List.all_eq_true] at hmapping
  exact hmapping.2 _ (List.mem_map_of_mem hmotor)

/-- The slaves of a servo that was initialized are those whose registration gave it its axes. -/
theorem initialSlaves_of_initialAxes
    (hinitial : Servo.initialAxes (mappingBus bus) busCycleUs motors = some axes) :
    ∃ registered, bus.initialSlaves motors = some registered ∧
      axes = List.zipWith Servo.freshAxis (motors.map bus.correctIdentity) registered := by
  obtain ⟨-, registered, hregistered, haxes⟩ := Servo.initialAxes_eq_some hinitial
  -- what is registered does not depend on the mapping
  exact ⟨registered, hregistered, haxes⟩

theorem length_newSlaves
    (hinitial : Servo.initialAxes (mappingBus bus) busCycleUs motors = some axes) :
    (newSlaves bus motors).length = axes.length := by
  obtain ⟨registered, hregistered, haxes⟩ := initialSlaves_of_initialAxes hinitial
  rw [newSlaves, hregistered, haxes, Option.getD_some, List.length_zipWith, List.length_zipWith,
    List.length_map]

theorem getElem?_newSlaves
    (hinitial : Servo.initialAxes (mappingBus bus) busCycleUs motors = some axes) {slave : Nat}
    {axis : Axis} {data : SlaveData} (haxis : axes[slave]? = some axis)
    (hdata : (newSlaves bus motors)[slave]? = some data) :
    ∃ motor, motors[slave]? = some motor ∧
      bus.registerSlave slave (BusSetup.isSriM8126F32 motor) (bus.correctIdentity motor) =
          some data.offsets ∧
        data.sriUseFloat = BusSetup.isSriM8126F32 motor ∧
          axis = Servo.freshAxis (bus.correctIdentity motor) data.offsets := by
  obtain ⟨registered, hregistered, rfl⟩ := initialSlaves_of_initialAxes hinitial
  rw [newSlaves, hregistered, Option.getD_some, List.getElem?_zipWith_eq_some] at hdata
  obtain ⟨motor, offsets, hmotor, hoffsets, rfl⟩ := hdata
  obtain ⟨motor', hmotor', hslave⟩ := BusSetup.getElem?_initialSlaves hregistered hoffsets
  obtain rfl : motor = motor' := Option.some.inj (hmotor.symm.trans hmotor')
  rw [List.getElem?_zipWith, List.getElem?_map, hmotor, hoffsets] at haxis
  exact ⟨motor, hmotor, hslave, rfl, (Option.some.inj haxis).symm⟩

/-- Where the bus serves what is mapped, the slaves of a new servo are wired to it. -/
theorem wired_of_initialAxes (hserves : bus.Serves domain)
    (hsyncs : ∀ (slave : Nat) (motor : MotorConfig), motors[slave]? = some motor →
      ∀ syncs, configurePdoMapping (bus.correctIdentity motor) = some syncs →
        domain.syncs slave = syncs)
    (hinitial : Servo.initialAxes (mappingBus bus) busCycleUs motors = some axes)
    {backend : Backend} (hformed : backend.Formed) (haxes : backend.servo.axes = axes) :
    ({ backend := backend, domain := domain, slaves := newSlaves bus motors } :
      ImageBackend).Wired := by
  have hcount := length_newSlaves hinitial
  have hlaid {slave : Nat} {axis : Axis} {data : SlaveData} (haxis : axes[slave]? = some axis)
      (hdata : (newSlaves bus motors)[slave]? = some data) :
      Laid domain slave axis.config data.sriUseFloat data.offsets ∧
        axis.offsets = data.offsets.motor := by
    obtain ⟨motor, hmotor, hslave, hfloat, rfl⟩ := getElem?_newSlaves hinitial haxis hdata
    obtain ⟨syncs, hconfigured⟩ := Option.isSome_iff_exists.mp
      (isSome_configurePdoMapping hinitial (List.mem_of_getElem? hmotor))
    have hdomain := hsyncs slave motor hmotor syncs hconfigured
    rw [hfloat]
    exact ⟨laid_of_registerSlave hserves (hdomain ▸ hconfigured) hslave, rfl⟩
  refine ⟨hformed, ?_, fun haxis hdata => ?_, fun slave hslave => ?_, fun _ _ hne => ?_⟩
  · exact hcount.trans (congrArg List.length haxes).symm
  · exact hlaid (haxes ▸ haxis) hdata
  · change slave < backend.servo.axes.length at hslave
    rw [haxes] at hslave
    obtain ⟨hslaveLaid, -⟩ := hlaid (List.getElem?_eq_getElem hslave)
      (List.getElem?_eq_getElem (hcount ▸ hslave))
    obtain ⟨houtput, hinput⟩ := hserves.base_lt_of_laid hslaveLaid
    change domain.base slave 2 + 4 < pdoOffsetUnset ∧ domain.base slave 3 + 2 < pdoOffsetUnset
    rw [pdoOffsetUnset]
    omega
  · exact hserves.apart hne

end Initialization

/-- An initialization that fails keeps the axes, and one that succeeds starts from no process data. -/
theorem initializeServo_cases (bus : BusSetup) (domain : Domain) (config : IghMasterConfig)
    (motors : List MotorConfig) (state : ImageBackend) :
    (∃ servo, servo.axes = state.servo.axes ∧
        state.initializeServo bus domain config motors = state.withServo servo ∧
          state.backend.initializeServo (mappingBus bus) config motors =
            ({ state.backend with servo := servo }, false)) ∨
      ∃ axes, Servo.initialAxes (mappingBus bus) config.busCycleUs motors = some axes ∧
        state.servo.initialized = false ∧ ∃ backend, backend.servo.axes = axes ∧
          state.initializeServo bus domain config motors =
              { backend := backend, domain := domain, slaves := newSlaves bus motors } ∧
            state.backend.initializeServo (mappingBus bus) config motors = (backend, true) := by
  rcases state.backend.servo.initializeServo_cases (mappingBus bus) config.busCycleUs
    config.cmdWatchdogMs config.csvCmdWatchdog motors with
    hrefused | ⟨hfresh, hfailed | ⟨axes, haxes, hdone⟩⟩
  · refine .inl ⟨state.servo, rfl, ?_⟩
    have hbackend : state.backend.initializeServo (mappingBus bus) config motors =
        (state.backend, false) := by
      rw [Backend.initializeServo, hrefused]
    rw [initializeServo, hbackend]
    exact ⟨rfl, rfl⟩
  · refine .inl ⟨state.servo.configured config.busCycleUs config.cmdWatchdogMs config.csvCmdWatchdog,
      rfl, ?_⟩
    rw [initializeServo, Backend.initializeServo, hfailed]
    exact ⟨rfl, rfl⟩
  · have hbackend : ∃ servo, servo.axes = axes ∧
        state.backend.initializeServo (mappingBus bus) config motors =
          ({ state.backend with servo := servo }, true) := by
      rw [Backend.initializeServo, hdone]
      exact ⟨_, rfl, rfl⟩
    obtain ⟨servo, hservo, hprepared⟩ := hbackend
    refine .inr ⟨axes, haxes, hfresh, { state.backend with servo := servo }, hservo, ?_, hprepared⟩
    rw [initializeServo, hprepared, if_pos rfl]

theorem view_initializeServo (bus : BusSetup) (domain : Domain) (config : IghMasterConfig)
    (motors : List MotorConfig) (state : ImageBackend) :
    (state.initializeServo bus domain config motors).view =
      (state.view.initializeServo (mappingBus bus) config motors).1 := by
  have hservo := Servo.initializeServo_withRecords (state.domain.inputs state.image)
    (state.domain.outputs state.image) (mappingBus bus) config.busCycleUs config.cmdWatchdogMs
    config.csvCmdWatchdog motors state.backend.servo
  have hrecords : (state.view.initializeServo (mappingBus bus) config motors).1 =
      if (state.backend.initializeServo (mappingBus bus) config motors).2 then
        (state.backend.initializeServo (mappingBus bus) config motors).1
      else
        (state.backend.initializeServo (mappingBus bus) config motors).1.withRecords
          (state.domain.inputs state.image) (state.domain.outputs state.image) := by
    refine Eq.trans (congrArg (fun result : Servo × Bool =>
      { state.backend with servo := result.1 }) hservo) ?_
    unfold Backend.initializeServo
    dsimp only
    split <;> rfl
  rw [hrecords]
  rcases initializeServo_cases bus domain config motors state with
    ⟨servo, -, hfailed, hbackend⟩ | ⟨axes, hinitial, -, backend, haxes, hdone, hbackend⟩
  · rw [hfailed, hbackend, if_neg (by simp)]
    rfl
  · rw [hdone, hbackend, if_pos rfl]
    subst haxes
    have hfresh := Servo.withRecords_fresh hinitial backend.servo
    rw [view, Domain.inputs_zero, Domain.outputs_zero]
    exact congrArg (fun servo => { backend with servo := servo }) hfresh

theorem Wired.initializeServo {state : ImageBackend} (hwired : state.Wired) {bus : BusSetup}
    {domain : Domain} {config : IghMasterConfig} {motors : List MotorConfig}
    (hserved : state.IsServed (.initializeServo bus domain config motors)) :
    (state.initializeServo bus domain config motors).Wired := by
  obtain ⟨hserves, hsyncs⟩ := hserved
  have hformed := Backend.formed_initializeServo hwired.formed (mappingBus bus) config motors
  rcases initializeServo_cases bus domain config motors state with
    ⟨servo, haxes, hfailed, hbackend⟩ | ⟨axes, hinitial, -, backend, haxes, hdone, hbackend⟩
  · rw [hbackend] at hformed
    rw [hfailed]
    exact hwired.of_wirings hformed rfl (congrArg (List.map Axis.wiring) haxes) rfl
  · rw [hbackend] at hformed
    rw [hdone]
    exact wired_of_initialAxes hserves hsyncs hinitial hformed haxes

/-! ### The refinement -/

theorem wired_default : ({} : ImageBackend).Wired where
  formed := Backend.formed_default
  length_eq := rfl
  laid := fun haxis => absurd haxis.symm (Option.some_ne_none _)
  set := fun _ hslave => absurd hslave (Nat.not_lt_zero _)
  apart := fun hslave => absurd hslave (Nat.not_lt_zero _)

theorem view_next {state : ImageBackend} (hwired : state.Wired) {action : ImageAction}
    (hserved : state.IsServed action) :
    (state.next action).view = Backend.next state.view (state.abstractAction action) := by
  cases action with
  | initializeServo bus domain config motors =>
      exact view_initializeServo bus domain config motors state
  | bringUp input firstImage => exact view_bringUp input hserved
  | job input => exact hwired.view_jobCycle hserved
  | setOperational => exact view_withBackend state rfl
  | deactivate =>
      exact view_withBackend state (rfl : Backend.isQuiet .deactivate = true)
  | call call => exact view_withBackend state rfl
  | requestFaultReset motorId allowWithoutFault slavesInOp => exact view_withBackend state rfl
  | clearCommFault =>
      exact view_withBackend state (rfl : Backend.isQuiet .clearCommFault = true)
  | requestSafeOutput =>
      exact view_withBackend state (rfl : Backend.isQuiet .requestSafeOutput = true)
  | releaseSafeOutput =>
      exact view_withBackend state (rfl : Backend.isQuiet .releaseSafeOutput = true)

theorem Wired.next {state : ImageBackend} (hwired : state.Wired) {action : ImageAction}
    (hserved : state.IsServed action) : (state.next action).Wired := by
  have hview := view_next hwired hserved
  cases action with
  | initializeServo bus domain config motors => exact hwired.initializeServo hserved
  | job input =>
      obtain ⟨hdomain, hslaves⟩ := hwired.wirings_jobCycle input
      exact hwired.of_view_next (fun _ _ _ => BackendAction.noConfusion) hview hdomain hslaves
  | _ => exact hwired.of_view_next (fun _ _ _ => BackendAction.noConfusion) hview rfl rfl

theorem Wired.wirings_next {state : ImageBackend} (hwired : state.Wired) {action : ImageAction}
    (hserved : state.IsServed action)
    (hother : ∀ bus domain config motors, action ≠ .initializeServo bus domain config motors) :
    (state.next action).servo.axes.map Axis.wiring = state.servo.axes.map Axis.wiring := by
  have hformed := formed_view.mpr hwired.formed
  have habstract : ∀ bus config motors,
      state.abstractAction action ≠ .initializeServo bus config motors := by
    intro bus config motors
    cases action with
    | initializeServo bus domain config motors => exact absurd rfl (hother bus domain config motors)
    | _ => exact BackendAction.noConfusion
  rw [← wirings_view, view_next hwired hserved, Backend.wirings_next hformed habstract, wirings_view]

/-- The backend that works on the bytes of its image does what the backend with records does. -/
theorem refines : Refines machine Backend.machine view abstractAction Wired IsServed where
  keeps := fun hwired hserved => hwired.next hserved
  commutes := fun hwired hserved => view_next hwired hserved

/-! ### Runs -/

/-- Whatever the run, past and present: what the image stands for is what a backend with records would
have done in its place. -/
theorem exec_translated {actions : List ImageAction} (hserved : IsServedRun actions) :
    (machine.exec (Config.start {}) actions).translated view abstractAction =
      Backend.machine.exec (Config.start {})
        (machine.translateAll abstractAction {} actions) :=
  (refines.exec wired_default hserved).2

/-- As many slaves as a motor id can name are served, whatever they are. -/
theorem isServed_ofMotors (config : IghMasterConfig) {motors : List MotorConfig}
    (hfew : motors.length ≤ 256) (state : ImageBackend) :
    state.IsServed (.initializeServo (Domain.ofMotors motors).setup (Domain.ofMotors motors) config
      motors) := by
  refine ⟨Domain.serves_ofMotors hfew, fun slave motor hmotor syncs hsyncs => ?_⟩
  have hmapped : configurePdoMapping motor = some syncs := hsyncs
  rw [Domain.syncs_ofMotors hmotor, hmapped, Option.getD_some]

/-- The servo of some slaves comes up. -/
def startRun (motors : List MotorConfig) : List ImageAction := [
  .initializeServo (Domain.ofMotors motors).setup (Domain.ofMotors motors) {} motors,
  .bringUp
    { initialReads := fun _ => []
      activation := { interpolationPeriodGate := true, masterActivate := true, domainData := true }
      requireEvidence := false
      runtime := { config := {}, memoryLocked := true, threadRealtime := true } } fun _ => 0]

/-- The slaves of a servo that came up hand over inputs for the first time. -/
def firstJob (motors : List MotorConfig) : ImageJobInput where
  freshnessNowNs := 1000000
  received address :=
    if (Domain.ofMotors motors).isInput motors.length address then address.toUInt8 else 0
  domain := { workingCounter := 12, wcState := .complete }
  timing :=
    { scheduledNs := 1000000, actualWakeupNs := 1000100, cycleEndNs := 1200000
      dcStatusValid := false, dcDiffNs := 0 }

/-- The axes of slaves that are registered where they are mapped. -/
def packedAxes (motors : List MotorConfig) : List Axis :=
  List.zipWith Servo.freshAxis motors (motors.zipIdx.map fun entry =>
    .mapped entry.1 ((Domain.ofMotors motors).base entry.2 2) ((Domain.ofMotors motors).base entry.2 3))

/-- Slaves that are registered as what they are mapped for come up. -/
theorem initializeServo_ofMotors {motors : List MotorConfig} (hne : motors.isEmpty = false)
    (hfew : motors.length ≤ 256)
    (hcycles : (motors.all fun motor => motor.dcSync0MatchesBus 2000000) = true)
    (hmapped : ∀ motor ∈ motors, (configurePdoMapping motor).isSome = true)
    (hagree : (motors.zipIdx.all fun entry =>
      entry.1.registersAsMapped (BusSetup.isSriM8126F32 entry.1)) = true)
    (hevidence : (packedAxes motors).all Axis.verifyPdoEvidence = true) :
    (({} : Backend).initializeServo (mappingBus (Domain.ofMotors motors).setup) {} motors).2 = true := by
  have hregistered := (initialSlaves_eq_map (Domain.serves_ofMotors hfew)
    (Domain.mapped_ofMotors hmapped)).trans (if_pos hagree)
  have hcorrected : motors.map (mappingBus (Domain.ofMotors motors).setup).correctIdentity = motors :=
    List.map_id'' (fun _ => rfl) motors
  have hmapping : (mappingBus (Domain.ofMotors motors).setup).configurePdoMapping motors = true :=
    List.all_eq_true.mpr hmapped
  have haxes : Servo.initialAxes (mappingBus (Domain.ofMotors motors).setup) 2000 motors =
      some (packedAxes motors) := by
    unfold Servo.initialAxes
    dsimp only
    rw [hcorrected, hmapping, if_pos]
    · change ((Domain.ofMotors motors).setup.initialSlaves motors).bind _ = _
      rw [hregistered]
      exact if_pos hevidence
    · rw [Bool.and_true, Bool.and_eq_true]
      exact ⟨List.all_eq_true.mpr fun _ _ => rfl, hcycles⟩
  change (Servo.initializeServo (mappingBus (Domain.ofMotors motors).setup) 2000 _ _ motors {}).2 = true
  rw [Servo.initializeServo, haxes, hne]
  rfl

theorem isServedRun_startRun {motors : List MotorConfig} (hfew : motors.length ≤ 256) :
    IsServedRun (startRun motors) :=
  ⟨isServed_ofMotors {} hfew _, fun _ => rfl, trivial⟩

theorem image_startRun (motors : List MotorConfig) :
    (machine.run {} (startRun motors)).image = fun _ => 0 := by
  have hinitialized (bus : BusSetup) (domain : Domain) (config : IghMasterConfig) :
      (({} : ImageBackend).initializeServo bus domain config motors).image = fun _ => 0 := by
    unfold ImageBackend.initializeServo
    dsimp only
    split <;> rfl
  change (ImageBackend.bringUp _ _ (ImageBackend.initializeServo _ _ _ motors {})).image = _
  rw [ImageBackend.bringUp]
  dsimp only
  split
  · rfl
  · exact hinitialized ..

theorem domain_startRun {motors : List MotorConfig}
    (hprepared : (({} : Backend).initializeServo (mappingBus (Domain.ofMotors motors).setup) {}
      motors).2 = true) :
    (machine.run {} (startRun motors)).domain = Domain.ofMotors motors := by
  change (ImageBackend.initializeServo _ _ _ motors {}).domain = _
  unfold ImageBackend.initializeServo
  dsimp only
  rw [if_pos hprepared]

theorem motorCount_bringUp {state : ImageBackend} (hwired : state.Wired) (input : BringUpInput) :
    (state.bringUp input fun _ => 0).servo.motorCount = state.servo.motorCount := by
  have hkept : (state.next (.bringUp input fun _ => 0)).servo.axes.map Axis.wiring =
      state.servo.axes.map Axis.wiring :=
    hwired.wirings_next (fun _ => rfl) fun _ _ _ _ => ImageAction.noConfusion
  have hcount := congrArg List.length hkept
  rw [List.length_map, List.length_map] at hcount
  exact hcount

theorem motorCount_startRun {motors : List MotorConfig} (hfew : motors.length ≤ 256)
    (hprepared : (({} : Backend).initializeServo (mappingBus (Domain.ofMotors motors).setup) {}
      motors).2 = true) :
    (machine.run {} (startRun motors)).servo.motorCount = motors.length := by
  have hserved := isServed_ofMotors {} hfew {}
  refine (motorCount_bringUp (wired_default.next hserved) _).trans ?_
  rcases initializeServo_cases (Domain.ofMotors motors).setup (Domain.ofMotors motors) {} motors {} with
    ⟨servo, -, -, hfailed⟩ | ⟨axes, hinitial, -, backend, haxes, hdone, -⟩
  · rw [hfailed] at hprepared
    cases hprepared
  · change (ImageBackend.initializeServo _ _ _ motors {}).servo.axes.length = motors.length
    rw [hdone]
    exact (congrArg List.length haxes).trans (Servo.length_initialAxes hinitial)

/-- The first inputs are served to a servo that came up with all its slaves. -/
theorem isServed_firstJob {motors : List MotorConfig} {state : ImageBackend}
    (hdomain : state.domain = Domain.ofMotors motors)
    (hcount : state.servo.motorCount = motors.length) (himage : state.image = fun _ => 0) :
    state.IsServed (.job (firstJob motors)) := by
  intro _ address hother
  rw [hdomain, hcount] at hother
  rw [himage]
  exact if_neg (by rw [hother]; exact Bool.false_ne_true)

theorem servo_releaseSafeOutput (state : ImageBackend) :
    (state.next .releaseSafeOutput).servo = state.servo := by
  change state.backend.releaseSafeOutput.1.servo = state.backend.servo
  unfold Backend.releaseSafeOutput
  split <;> rfl

/-- A servo comes up, is released and exchanges data with the bus once. -/
def exchangeRun (motors : List MotorConfig) : List ImageAction :=
  startRun motors ++ [.releaseSafeOutput, .job (firstJob motors)]

theorem isServedRun_exchangeRun {motors : List MotorConfig} (hfew : motors.length ≤ 256)
    (hprepared : (({} : Backend).initializeServo (mappingBus (Domain.ofMotors motors).setup) {}
      motors).2 = true) :
    IsServedRun (exchangeRun motors) := by
  refine machine.meets_append.mpr ⟨isServedRun_startRun hfew, trivial, ?_, trivial⟩
  dsimp only
  rw [Machine.advance_state, machine.state_exec]
  refine isServed_firstJob (domain_startRun hprepared) ?_ (image_startRun motors)
  exact (congrArg Servo.motorCount (servo_releaseSafeOutput _)).trans (motorCount_startRun hfew hprepared)

theorem isServedRun_firstJob {motors : List MotorConfig} (hfew : motors.length ≤ 256)
    (hprepared : (({} : Backend).initializeServo (mappingBus (Domain.ofMotors motors).setup) {}
      motors).2 = true) :
    IsServedRun (startRun motors ++ [.job (firstJob motors)]) := by
  refine machine.meets_append.mpr ⟨isServedRun_startRun hfew, ?_, trivial⟩
  dsimp only
  rw [machine.state_exec]
  exact isServed_firstJob (domain_startRun hprepared) (motorCount_startRun hfew hprepared)
    (image_startRun motors)

/-- A slave of each kind comes up. -/
theorem initializeServo_fourSlaves :
    (({} : Backend).initializeServo (mappingBus (Domain.ofMotors fourSlaves).setup) {}
      fourSlaves).2 = true :=
  initializeServo_ofMotors (by decide) (by decide) (by decide) (by decide) (by decide)
    (by decide +kernel)

theorem exec_translated_fourSlaves :
    (machine.exec (Config.start {}) (exchangeRun fourSlaves)).translated view abstractAction =
      Backend.machine.exec (Config.start {})
        (machine.translateAll abstractAction {} (exchangeRun fourSlaves)) :=
  exec_translated (isServedRun_exchangeRun (by decide) initializeServo_fourSlaves)

end ImageBackend

end IghMaster
