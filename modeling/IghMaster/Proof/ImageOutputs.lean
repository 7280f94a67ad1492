import IghMaster.Proof.BackendLatches
import IghMaster.Proof.ImageContents

/-!
# What a drive is told

After a Job cycle the objects of a drive hold what its axis was given, and what was received for it. In a
safe cycle they hold it in place.
-/

namespace IghMaster

open ByteMemory Footprint Transition

namespace ImageBackend

variable {state : ImageBackend}

/-- What the outputs of a cycle come to for a drive. -/
inductive Exchanged (state : ImageBackend) (domainState : DomainState) (slave : Nat) (before : Axis) :
    Axis → RxPdo → Prop
  | safe (hlatch : state.backend.runtime.safeOutputRequired = true) (actual : Int32) :
      Exchanged state domainState slave before
        (before.safeAxis (!state.servo.safeOutputActive) actual
          (state.servo.safeControlWord slave before))
        ((before.safeAxis (!state.servo.safeOutputActive) actual
          (state.servo.safeControlWord slave before)).safeRecord
            (state.servo.safeControlWord slave before))
  | motion (hlatch : state.backend.runtime.safeOutputRequired = false) (statusWord : UInt16) :
      Exchanged state domainState slave before
        (before.sentAxis true (domainState.wcState == .complete) statusWord)
        (before.sentRecord true (domainState.wcState == .complete) statusWord)

namespace Wired

theorem safe_of_ready (hwired : state.Wired) (hready : state.servo.ready = true) {slave : Nat}
    {axis : Axis} (haxis : state.servo.axes[slave]? = some axis) (hmotion : axis.isMotion = true) :
    let word := state.servo.safeControlWord slave axis
    let forced :=
      axis.safeAxis (!state.servo.safeOutputActive) (state.servo.getPosition (slave % 256)) word
    state.applySafeProcessImageOutputs.servo.axes[slave]? = some forced ∧
      state.domain.inputs state.applySafeProcessImageOutputs.image slave =
          state.domain.inputs state.image slave ∧
        state.domain.outputs state.applySafeProcessImageOutputs.image slave =
          forced.safeRecord word := by
  intro word forced
  obtain ⟨data, hdata⟩ := hwired.exists_data haxis
  obtain ⟨hlaid, hoffsets⟩ := hwired.laid haxis hdata
  have hdrive : axis.config.isNonMotionSlave = false := by simpa [Axis.isMotion] using hmotion
  obtain ⟨hat, -⟩ := hlaid.outputsAt hdrive
  have hset := (hwired.set slave (lt_of_axis haxis)).1
  obtain ⟨hresult, hsame⟩ := hwired.safeSlaves state.servo haxis
  obtain ⟨-, -, hloop⟩ := applySafe_of_ready hready
  rw [← congrArg Prod.fst hloop, hlaid.safeSlave_eq hoffsets hdrive hset] at hresult
  rw [← congrArg Prod.snd hloop, hlaid.safeSlave_eq hoffsets hdrive hset] at hsame
  exact ⟨hresult, hlaid.records_after hdrive (hwired.outputs_inputs_apart (lt_of_axis haxis))
    (hat.within_safeRecordStores _) (hat.readOutputs_safeRecordStores _ state.image) hsame⟩

theorem send_of_ready (hwired : state.Wired) (hready : state.servo.ready = true)
    (domainState : DomainState) {slave : Nat} {axis : Axis}
    (haxis : state.servo.axes[slave]? = some axis) (hmotion : axis.isMotion = true) :
    let wcOk := domainState.wcState == .complete
    ∃ statusWord, (state.sendData domainState).servo.axes[slave]? =
        some (axis.sentAxis true wcOk statusWord) ∧
      state.domain.inputs (state.sendData domainState).image slave =
          state.domain.inputs state.image slave ∧
        state.domain.outputs (state.sendData domainState).image slave =
          axis.sentRecord true wcOk statusWord := by
  intro wcOk
  obtain ⟨data, hdata⟩ := hwired.exists_data haxis
  obtain ⟨hlaid, hoffsets⟩ := hwired.laid haxis hdata
  have hdrive : axis.config.isNonMotionSlave = false := by simpa [Axis.isMotion] using hmotion
  obtain ⟨hat, -⟩ := hlaid.outputsAt hdrive
  obtain ⟨hresult, hsame⟩ := hwired.sendSlaves true wcOk haxis hdata
  obtain ⟨-, -, hloop⟩ := sendData_of_ready hready domainState
  rw [← congrArg Prod.fst hloop, hlaid.sendSlave_eq hoffsets hdrive] at hresult
  rw [← congrArg Prod.snd hloop, hlaid.sendSlave_eq hoffsets hdrive] at hsame
  exact ⟨_, hresult, hlaid.records_after hdrive (hwired.outputs_inputs_apart (lt_of_axis haxis))
    (hat.within_recordStores _) (hat.readOutputs_recordStores _ state.image) hsame⟩

/-- Either way the inputs stay, and the outputs are those of the axis. -/
theorem exchanged (hwired : state.Wired) (hready : state.servo.ready = true)
    (domainState : DomainState) {slave : Nat} {axis : Axis}
    (haxis : state.servo.axes[slave]? = some axis) (hmotion : axis.isMotion = true) :
    ∃ after, (state.exchangeOutputs domainState).servo.axes[slave]? = some after ∧
      state.domain.inputs (state.exchangeOutputs domainState).image slave =
          state.domain.inputs state.image slave ∧
        Exchanged state domainState slave axis after
          (state.domain.outputs (state.exchangeOutputs domainState).image slave) := by
  cases hlatch : state.backend.runtime.safeOutputRequired with
  | true =>
      have hcycle : state.exchangeOutputs domainState = state.applySafeProcessImageOutputs := by
        rw [ImageBackend.exchangeOutputs, hlatch, if_pos rfl]
      obtain ⟨hafter, hinputs, houtputs⟩ := hwired.safe_of_ready hready haxis hmotion
      rw [hcycle, houtputs]
      exact ⟨_, hafter, hinputs, .safe hlatch _⟩
  | false =>
      have hcycle : state.exchangeOutputs domainState =
          (state.withServo { state.servo with safeOutputActive := false }).sendData domainState := by
        rw [ImageBackend.exchangeOutputs, hlatch, if_neg Bool.false_ne_true]
      obtain ⟨statusWord, hafter, hinputs, houtputs⟩ :=
        hwired.released.send_of_ready hready domainState haxis hmotion
      refine ⟨_, hcycle ▸ hafter, ?_, ?_⟩
      · rw [hcycle]
        exact hinputs
      · rw [hcycle]
        exact houtputs ▸ .motion hlatch statusWord

end Wired

namespace Exchanged

variable {domainState : DomainState} {slave : Nat} {before after : Axis} {sent : RxPdo}

/-- The outputs are the setpoints and the mode that the axis ends with. -/
theorem mirrors (hexchanged : Exchanged state domainState slave before after sent) :
    after.last = before.last ∧ sent.targetPosition = after.setpoints.targetPosition ∧
      sent.targetVelocity = after.setpoints.targetVelocity ∧
        sent.targetTorque = after.setpoints.targetTorque ∧ sent.operationMode = after.mode.value := by
  cases hexchanged with
  | safe hlatch actual => exact ⟨rfl, rfl, rfl, rfl, rfl⟩
  | motion hlatch statusWord => exact ⟨rfl, rfl, rfl, rfl, rfl⟩

/-- A safe cycle holds the drive in place and does not enable it. -/
theorem holds (hexchanged : Exchanged state domainState slave before after sent)
    (hlatch : state.backend.runtime.safeOutputRequired = true) :
    (sent.controlWord = controlWordSwitchOn ∨ sent.controlWord = after.faultResetCw.value) ∧
      sent.targetPosition = after.safeLatchedPosition ∧ sent.targetVelocity = 0 ∧
        sent.targetTorque = 0 := by
  cases hexchanged with
  | safe _ actual =>
      refine ⟨?_, rfl, rfl, rfl⟩
      change state.servo.safeControlWord slave before = _ ∨
        state.servo.safeControlWord slave before = before.faultResetCw.value
      unfold Servo.safeControlWord Axis.selectSafeControlWord
      split
      · exact .inr rfl
      · exact .inl rfl
  | motion hmotion statusWord => exact absurd (hlatch.symm.trans hmotion) (by simp)

end Exchanged

theorem safeOutputActive_exchangeOutputs (hready : state.servo.ready = true)
    (domainState : DomainState) :
    (state.exchangeOutputs domainState).servo.safeOutputActive =
      state.backend.runtime.safeOutputRequired := by
  cases hlatch : state.backend.runtime.safeOutputRequired with
  | true =>
      obtain ⟨hbare, -, -⟩ := applySafe_of_ready hready
      rw [ImageBackend.exchangeOutputs, hlatch, if_pos rfl]
      exact congrArg Servo.safeOutputActive hbare
  | false =>
      have hreleased :
          (state.withServo { state.servo with safeOutputActive := false }).servo.ready = true := hready
      obtain ⟨hbare, -, -⟩ := sendData_of_ready hreleased domainState
      rw [ImageBackend.exchangeOutputs, hlatch, if_neg Bool.false_ne_true]
      exact congrArg Servo.safeOutputActive hbare

namespace Wired

theorem wirings_exchangeOutputs (hwired : state.Wired) (domainState : DomainState) :
    (state.exchangeOutputs domainState).servo.axes.map Axis.wiring =
      state.servo.axes.map Axis.wiring := by
  unfold ImageBackend.exchangeOutputs
  split
  · exact hwired.wirings_applySafe
  · exact hwired.released.wirings_sendData domainState

/-- A drive's axis after the outputs was its axis before, and is told what it says. -/
theorem exists_exchanged (hwired : state.Wired) (hready : state.servo.ready = true)
    (domainState : DomainState) {slave : Nat} {after : Axis}
    (hafter : (state.exchangeOutputs domainState).servo.axes[slave]? = some after)
    (hmotion : after.isMotion = true) :
    ∃ before, state.servo.axes[slave]? = some before ∧ before.isMotion = true ∧
      state.domain.inputs (state.exchangeOutputs domainState).image slave =
          state.domain.inputs state.image slave ∧
        Exchanged state domainState slave before after
          (state.domain.outputs (state.exchangeOutputs domainState).image slave) := by
  have hwiring : state.servo.axes[slave]?.map Axis.wiring = some after.wiring := by
    rw [← List.getElem?_map, ← hwired.wirings_exchangeOutputs domainState, List.getElem?_map, hafter]
    rfl
  obtain ⟨before, hbefore, hsame⟩ := Option.map_eq_some_iff.mp hwiring
  have hdrive : before.isMotion = true := by
    rw [← hmotion]
    exact congrArg (fun wiring : MotorConfig × PdoOffsets => !wiring.1.isNonMotionSlave) hsame
  obtain ⟨after', hafter', hinputs, hexchanged⟩ :=
    hwired.exchanged hready domainState hbefore hdrive
  obtain rfl : after = after' := Option.some.inj (hafter.symm.trans hafter')
  exact ⟨before, hbefore, hdrive, hinputs, hexchanged⟩

/-- A drive's axis that has received holds what its objects held. -/
theorem last_receiveData (hwired : state.Wired) (hready : state.servo.ready = true)
    (received : Memory) {slave : Nat} {axis : Axis}
    (haxis : (state.receiveData received).servo.axes[slave]? = some axis)
    (hmotion : axis.isMotion = true) :
    axis.last = state.domain.inputs received slave := by
  rw [receiveData_of_ready hready] at haxis
  change (state.servo.axes.map _)[slave]? = some axis at haxis
  rw [List.getElem?_map, Option.map_eq_some_iff] at haxis
  obtain ⟨before, hbefore, rfl⟩ := haxis
  obtain ⟨data, hdata⟩ := hwired.exists_data hbefore
  obtain ⟨hlaid, hoffsets⟩ := hwired.laid hbefore hdata
  have hwiring := wiring_receiveImage received before
  have hdrive : before.isMotion = true := by
    rw [← hmotion]
    exact (congrArg (fun wiring : MotorConfig × PdoOffsets => !wiring.1.isNonMotionSlave)
      hwiring).symm
  rw [hlaid.inputs_eq (by simpa [Axis.isMotion] using hdrive), Axis.receiveImage, if_pos hdrive,
    hoffsets]

end Wired

/-- The state in which a running Job cycle chooses its outputs. -/
structure Receives (input : ImageJobInput) (before received : ImageBackend) : Prop where
  wired : received.Wired
  ready : received.servo.ready = true
  domain_eq : received.domain = before.domain
  image_eq : received.image = input.received
  required : before.backend.runtime.safeOutputRequired = true →
    received.backend.runtime.safeOutputRequired = true
  last_eq : ∀ {slave : Nat} {axis : Axis}, received.servo.axes[slave]? = some axis →
    axis.isMotion = true →
      axis.last = before.domain.inputs input.received slave

theorem receives (hwired : state.Wired) (hrunning : state.backend.runtime.jobRunning = true)
    (input : ImageJobInput) :
    Receives input state ((state.checked input.freshnessNowNs).receiveData input.received) := by
  have hchecked := hwired.checked input.freshnessNowNs
  have hready : (state.checked input.freshnessNowNs).servo.ready = true :=
    hchecked.formed.ready_eq.trans ((jobRunning_checked _ state).trans hrunning)
  have hstep := Wired.receiveData_of_ready hready input.received
  have hruntime : ((state.checked input.freshnessNowNs).receiveData
      input.received).backend.runtime = (state.checked input.freshnessNowNs).backend.runtime := by
    rw [hstep]
    rfl
  refine ⟨hchecked.receiveData_wired input.received, ?_, ?_, ?_, fun hrequired => ?_,
    fun haxis hmotion => ?_⟩
  · rw [hstep]
    exact hready
  · rw [hstep]
    rfl
  · rw [hstep]
  · rw [hruntime]
    exact Backend.cycleIsSafe_of_required
      { freshnessNowNs := input.freshnessNowNs, inputs := fun _ => {}, domain := input.domain
        timing := input.timing } hrequired
  · exact hchecked.last_receiveData hready input.received haxis hmotion

/-- In whatever state a running Job cycle begins, each drive's objects afterwards hold what its axis was
given and what the bus handed over for it. In a safe cycle, and so in any that begins with safe-output
required, they hold the drive in place and do not enable it. -/
theorem exec_job_outputs {actions : List ImageAction} {input : ImageJobInput}
    (hserved : IsServedRun (actions ++ [.job input])) :
    let before := (machine.exec (Config.start {}) actions).state
    let after := before.jobCycle input
    before.backend.runtime.jobRunning = true →
      (before.backend.runtime.safeOutputRequired = true → after.servo.safeOutputActive = true) ∧
        ∀ (slave : Nat) (axis : Axis), after.servo.axes[slave]? = some axis → axis.isMotion = true →
          let sent := after.domain.outputs after.image slave
          axis.last = before.domain.inputs input.received slave ∧
            after.domain.inputs after.image slave = axis.last ∧
            sent.targetPosition = axis.setpoints.targetPosition ∧
            sent.targetVelocity = axis.setpoints.targetVelocity ∧
            sent.targetTorque = axis.setpoints.targetTorque ∧
            sent.operationMode = axis.mode.value ∧
            (after.servo.safeOutputActive = true →
              (sent.controlWord = controlWordSwitchOn ∨
                  sent.controlWord = axis.faultResetCw.value) ∧
                sent.targetPosition = axis.safeLatchedPosition ∧ sent.targetVelocity = 0 ∧
                  sent.targetTorque = 0) := by
  intro before after hrunning
  have hwired : before.Wired := wired_exec (machine.meets_append.mp hserved).1
  have hreceives := receives hwired hrunning input
  have hcycle : after = _ := hwired.jobCycle_of_running hrunning input
  generalize (before.checked input.freshnessNowNs).receiveData input.received = received at hreceives hcycle
  have hactive : after.servo.safeOutputActive = received.backend.runtime.safeOutputRequired := by
    rw [hcycle]
    exact safeOutputActive_exchangeOutputs hreceives.ready input.domain
  have hservo : after.servo = (received.exchangeOutputs input.domain).servo := by
    rw [hcycle]
    rfl
  have himage : after.image = (received.exchangeOutputs input.domain).image := by rw [hcycle]
  have hdomain : after.domain = received.domain := by
    rw [hcycle]
    exact (@Wired.slaves_exchangeOutputs received input.domain).1
  refine ⟨fun hrequired => hactive.trans (hreceives.required hrequired),
    fun slave axis haxis hmotion => ?_⟩
  rw [hservo] at haxis
  obtain ⟨axis', haxis', hmotion', hinputs, hexchanged⟩ :=
    hreceives.wired.exists_exchanged hreceives.ready input.domain haxis hmotion
  obtain ⟨hlast, hposition, hvelocity, htorque, hmode⟩ := hexchanged.mirrors
  have hreceived := hreceives.last_eq haxis' hmotion'
  intro sent
  have hsent : sent =
      received.domain.outputs (received.exchangeOutputs input.domain).image slave := by
    change after.domain.outputs after.image slave = _
    rw [hdomain, himage]
  rw [hsent, hactive]
  refine ⟨hlast.trans hreceived, ?_, hposition, hvelocity, htorque, hmode,
    fun hlatch => hexchanged.holds hlatch⟩
  rw [hdomain, himage, hinputs, hreceives.image_eq, hreceives.domain_eq, hlast, hreceived]

theorem exec_job_outputs_drives :
    let before := (machine.exec (Config.start {}) (startRun (fourSlaves.take 2))).state
    let after := before.jobCycle (firstJob (fourSlaves.take 2))
    before.backend.runtime.jobRunning = true ∧
      (before.backend.runtime.safeOutputRequired = true → after.servo.safeOutputActive = true) ∧
        ∀ (slave : Nat) (axis : Axis), after.servo.axes[slave]? = some axis → axis.isMotion = true →
          let sent := after.domain.outputs after.image slave
          axis.last = before.domain.inputs (firstJob (fourSlaves.take 2)).received slave ∧
            after.domain.inputs after.image slave = axis.last ∧
            sent.targetPosition = axis.setpoints.targetPosition ∧
            sent.targetVelocity = axis.setpoints.targetVelocity ∧
            sent.targetTorque = axis.setpoints.targetTorque ∧
            sent.operationMode = axis.mode.value ∧
            (after.servo.safeOutputActive = true →
              (sent.controlWord = controlWordSwitchOn ∨
                  sent.controlWord = axis.faultResetCw.value) ∧
                sent.targetPosition = axis.safeLatchedPosition ∧ sent.targetVelocity = 0 ∧
                  sent.targetTorque = 0) := by
  have hrunning : (machine.exec (Config.start {})
      (startRun (fourSlaves.take 2))).state.backend.runtime.jobRunning = true := by decide +kernel
  have hprepared := @initializeServo_ofMotors (fourSlaves.take 2) (by decide) (by decide) (by decide)
    (by decide) (by decide) (by decide +kernel)
  exact ⟨hrunning, exec_job_outputs (isServedRun_firstJob (by decide) hprepared) hrunning⟩

end ImageBackend

end IghMaster
