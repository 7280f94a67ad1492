import IghMaster.Backend
import IghMaster.Proof.RuntimeLatches
import IghMaster.Proof.ServoAxes

/-!
# Backend actions, axis by axis

`axisNext` says what an action of the backend does to the axis at an index, and `MotionAt.next`
carries a property of that axis along. What the properties need to know of the backend itself is
`Formed`: the Job runs exactly while the servo is activated.
-/

namespace IghMaster

namespace Servo

def bare (servo : Servo) : Servo := { servo with axes := [] }

theorem field_of_bare {α : Type} {servo servo' : Servo} (field : Servo → α)
    (hfield : ∀ servo : Servo, field servo = field servo.bare)
    (hbare : servo'.bare = servo.bare) : field servo' = field servo := by
  rw [hfield servo', hfield servo, hbare]

theorem axes_eq_nil_of_map {servo servo' : Servo} {update : Nat → Axis → Axis}
    (hmap : ∀ index, servo'.axes[index]? = servo.axes[index]?.map (update index))
    (hnil : servo.axes = []) : servo'.axes = [] := by
  have hnone : servo'.axes[0]? = none := by
    rw [hmap, hnil]
    rfl
  have hlength := List.getElem?_eq_none_iff.mp hnone
  exact List.length_eq_zero_iff.mp (Nat.le_zero.mp hlength)

theorem bare_perform (flags : RuntimeFlags) (servo : Servo) (call : ServoCall) :
    (servo.perform flags call).bare = servo.bare := by
  cases call <;> simp only [perform]
  case setEnable motorId enable =>
    unfold setEnable
    split_ifs <;> try rfl
    split
    · rfl
    · split_ifs <;> rfl
  case setOperationMode motorId mode =>
    unfold setOperationMode
    split_ifs <;> rfl
  case applyCommandContentionFallback =>
    unfold applyCommandContentionFallback
    split_ifs <;> rfl
  all_goals rfl

theorem bare_receiveData (inputs : Nat → TxPdo) (servo : Servo) :
    (servo.receiveData inputs).bare = servo.bare := by
  unfold receiveData
  split <;> rfl

theorem bare_sendData (domain : DomainState) (servo : Servo) :
    (servo.sendData domain).bare = servo.bare := by
  unfold sendData
  split <;> rfl

theorem bare_checkExternalCommandFreshness (safeOutputRequired : Bool) (nowNs : Nat)
    (servo : Servo) :
    (servo.checkExternalCommandFreshness safeOutputRequired nowNs).1.bare = servo.bare := by
  unfold checkExternalCommandFreshness
  split <;> rfl

theorem bare_initializePositionsFromSdo (reads : Nat → List Int32) (servo : Servo) :
    (servo.initializePositionsFromSdo reads).1.bare = servo.bare := by
  unfold initializePositionsFromSdo
  split <;> rfl

def performAxis (flags : RuntimeFlags) (servo : Servo) (index : Nat) :
    ServoCall → Axis → Axis
  | .setEnable motorId enable, axis =>
      if servo.startsEnable flags motorId enable index && axis.isMotion then
        axis.startEnable enable
      else axis
  | .setOperationMode motorId mode, axis =>
      if covers motorId index then axis.applyMode mode else axis
  | .setTargetPosition motorId position overrideFilter, axis =>
      if motorId.toNat = index then
        { axis with setpoints := axis.setpoints.setTargetPosition position overrideFilter }
      else axis
  | .setIdleInputPosition motorId position, axis =>
      if motorId.toNat = index then
        { axis with setpoints := axis.setpoints.setIdleInputPosition position }
      else axis
  | .setTargetVelocity motorId velocity overrideIdle source nowNs, axis =>
      if motorId.toNat = index then
        axis.setTargetVelocity velocity overrideIdle source servo.csvCmdWatchdog nowNs
          servo.externalCmdWatchdogNs
      else axis
  | .setIdleInputVelocity motorId velocity, axis =>
      if motorId.toNat = index then
        { axis with setpoints := axis.setpoints.setIdleInputVelocity velocity }
      else axis
  | .setTargetTorque motorId torque source nowNs, axis =>
      if motorId.toNat = index then
        axis.setTargetTorque torque source nowNs servo.externalCmdWatchdogNs
      else axis
  | .applyCommandContentionFallback, axis =>
      if servo.initialized && axis.isMotion then axis.contentionFallback servo.csvCmdWatchdog
      else axis

theorem getElem?_perform (flags : RuntimeFlags) (servo : Servo) (index : Nat) (call : ServoCall) :
    (servo.perform flags call).axes[index]? =
      servo.axes[index]?.map (servo.performAxis flags index call) := by
  cases call with
  | setEnable motorId enable => exact getElem?_setEnable flags motorId enable servo index
  | setOperationMode motorId mode => exact getElem?_setOperationMode motorId mode servo index
  | setTargetPosition motorId position overrideFilter =>
      exact getElem?_updateAxis servo motorId _ index
  | setIdleInputPosition motorId position => exact getElem?_updateAxis servo motorId _ index
  | setTargetVelocity motorId velocity overrideIdle source nowNs =>
      exact getElem?_updateAxis servo motorId _ index
  | setIdleInputVelocity motorId velocity => exact getElem?_updateAxis servo motorId _ index
  | setTargetTorque motorId torque source nowNs =>
      exact getElem?_updateAxis servo motorId _ index
  | applyCommandContentionFallback =>
      change servo.applyCommandContentionFallback.axes[index]? = _
      unfold applyCommandContentionFallback performAxis
      by_cases hinitialized : servo.initialized = true
      · simp [hinitialized]
      · simp [hinitialized]

theorem isMotion_performAxis (flags : RuntimeFlags) (servo : Servo) (index : Nat)
    (call : ServoCall) (axis : Axis) :
    (servo.performAxis flags index call axis).isMotion = axis.isMotion := by
  cases call <;> simp only [performAxis]
  case setOperationMode motorId mode =>
    split
    · exact Axis.isMotion_applyMode mode axis
    · rfl
  case applyCommandContentionFallback =>
    unfold Axis.contentionFallback
    split_ifs <;> rfl
  all_goals split <;> rfl

end Servo

namespace Backend

/-! ### The shape of a backend -/

structure Formed (backend : Backend) : Prop where
  running_eq : backend.runtime.jobRunning = backend.servo.activated
  initialized_of_activated : backend.servo.activated = true → backend.servo.initialized = true
  axes_eq_nil : backend.servo.initialized = false → backend.servo.axes = []

theorem Formed.ready_eq {backend : Backend} (hformed : backend.Formed) :
    backend.servo.ready = backend.runtime.jobRunning := by
  rw [Servo.ready, hformed.running_eq]
  cases hactivated : backend.servo.activated with
  | false => simp
  | true => simp [hformed.initialized_of_activated hactivated]

theorem formed_default : ({} : Backend).Formed :=
  ⟨rfl, fun h => absurd h (by decide), fun _ => rfl⟩

/-- An action that leaves everything but the axes of the servo alone, and the Job running or not. -/
theorem Formed.of_bare {backend backend' : Backend} (hformed : backend.Formed)
    (hbare : backend'.servo.bare = backend.servo.bare)
    (hnil : backend.servo.axes = [] → backend'.servo.axes = [])
    (hrunning : backend'.runtime.jobRunning = backend.runtime.jobRunning) : backend'.Formed := by
  have hactivated := Servo.field_of_bare Servo.activated (fun _ => rfl) hbare
  have hinitialized := Servo.field_of_bare Servo.initialized (fun _ => rfl) hbare
  refine ⟨?_, fun h => ?_, fun h => ?_⟩
  · rw [hrunning, hactivated, hformed.running_eq]
  · rw [hinitialized]
    exact hformed.initialized_of_activated (hactivated ▸ h)
  · exact hnil (hformed.axes_eq_nil (hinitialized ▸ h))

/-! ### One action at one axis -/

def bringUpAxis (backend : Backend) (index : Nat) (input : BringUpInput) (axis : Axis) : Axis :=
  let positioned :=
    if (backend.servo.initialized && !backend.servo.activated) && axis.isMotion then
      Servo.setInitialPosition (input.initialReads index) axis
    else axis
  if (backend.servo.initialized && !backend.servo.activated) &&
      (input.activation.masterActivate && input.activation.domainData) then
    Servo.activateAxis positioned
  else positioned

/-- All a bring up does to an axis: it sets its starting position, activates it, or both. -/
theorem bringUpAxis_cases (backend : Backend) (index : Nat) (input : BringUpInput) (axis : Axis) :
    ∃ positioned,
      (positioned = axis ∨
        positioned = Servo.setInitialPosition (input.initialReads index) axis) ∧
      (backend.bringUpAxis index input axis = positioned ∨
        (backend.servo.activated = false ∧
          backend.bringUpAxis index input axis = Servo.activateAxis positioned)) := by
  have hpositioned := ite_eq_or_eq
    (((backend.servo.initialized && !backend.servo.activated) && axis.isMotion) = true)
    (Servo.setInitialPosition (input.initialReads index) axis) axis
  refine ⟨_, hpositioned.symm, ?_⟩
  unfold bringUpAxis
  dsimp only
  split
  · rename_i hactivates
    simp only [Bool.and_eq_true, Bool.not_eq_true'] at hactivates
    exact Or.inr ⟨hactivates.1.2, rfl⟩
  · exact Or.inl rfl

def checksFreshness (backend : Backend) : Bool :=
  backend.servo.initialized && backend.servo.externalCmdWatchdogNs != 0 &&
    !backend.runtime.safeOutputRequired

/-- What a running Job cycle has done to a motion axis when it comes to the outputs. -/
def inputAxis (backend : Backend) (index : Nat) (input : JobInput) (axis : Axis) : Axis :=
  let checked :=
    if backend.checksFreshness then
      axis.tripStale backend.servo.csvCmdWatchdog input.freshnessNowNs
    else axis
  checked.receiveData (input.inputs index)

def safePosition (backend : Backend) (index : Nat) (input : JobInput) : Int32 :=
  (backend.beforeOutputs input).servo.getPosition (index % 256)

/-- What a running Job cycle does to a motion axis. -/
def jobAxis (backend : Backend) (index : Nat) (input : JobInput) (axis : Axis) : Axis :=
  if backend.cycleIsSafe input then
    (backend.inputAxis index input axis).applySafe (!backend.servo.safeOutputActive)
      (backend.safePosition index input) (backend.servo.safeControlWord index axis)
  else
    (backend.inputAxis index input axis).sendData true (input.domain.wcState == .complete)

/-- What an action does to the axis at the index. A servo that gets its axes has none before. -/
def axisNext (backend : Backend) (index : Nat) : BackendAction → Axis → Axis
  | .bringUp input, axis => backend.bringUpAxis index input axis
  | .call call, axis => backend.servo.performAxis backend.flags index call axis
  | .clearCommFault, axis => axis.disarmCommandFreshness
  | .job input, axis =>
      if backend.runtime.jobRunning && axis.isMotion then backend.jobAxis index input axis
      else axis
  | _, axis => axis

theorem bare_beforeOutputs (input : JobInput) (backend : Backend) :
    (backend.beforeOutputs input).servo.bare = backend.servo.bare := by
  change (Servo.receiveData input.inputs _).bare = _
  rw [Servo.bare_receiveData]
  exact Servo.bare_checkExternalCommandFreshness _ _ _

theorem jobRunning_beforeOutputs (input : JobInput) (backend : Backend) :
    (backend.beforeOutputs input).runtime.jobRunning = backend.runtime.jobRunning := by
  change (IghMasterRuntime.latchIf _ backend.runtime.consumePendingDwellFault).jobRunning = _
  have hlatched := (IghMasterRuntime.monitored_latchIf
    (backend.servo.checkExternalCommandFreshness
      backend.runtime.consumePendingDwellFault.safeOutputRequired input.freshnessNowNs).2
    backend.runtime.consumePendingDwellFault).jobRunning_eq
  exact hlatched.trans (IghMasterRuntime.jobRunning_consumePendingDwellFault _)

theorem getElem?_checkExternalCommandFreshness (backend : Backend) (nowNs index : Nat) :
    (backend.servo.checkExternalCommandFreshness backend.runtime.safeOutputRequired nowNs).1.axes[
        index]? =
      backend.servo.axes[index]?.map fun axis =>
        if backend.checksFreshness && axis.isMotion then
          axis.tripStale backend.servo.csvCmdWatchdog nowNs
        else axis := by
  unfold Servo.checkExternalCommandFreshness
  by_cases hchecks : backend.checksFreshness = true
  · have hguard : (!backend.servo.initialized || decide (backend.servo.externalCmdWatchdogNs = 0) ||
        backend.runtime.safeOutputRequired) = false := by
      simpa [checksFreshness, and_assoc] using hchecks
    rw [hguard, if_neg (by simp), Servo.getElem?_updateMotion]
    simp [hchecks]
  · have hguard : (!backend.servo.initialized || decide (backend.servo.externalCmdWatchdogNs = 0) ||
        backend.runtime.safeOutputRequired) = true := by
      rw [← Bool.not_eq_false]
      intro hfalse
      apply hchecks
      simpa [checksFreshness, and_assoc] using hfalse
    rw [hguard, if_pos rfl]
    simp [hchecks]

theorem isMotion_tripStale (csvCmdWatchdog : Bool) (nowNs : Nat) (axis : Axis) :
    (axis.tripStale csvCmdWatchdog nowNs).isMotion = axis.isMotion := by
  unfold Axis.tripStale
  split_ifs <;> rfl

theorem getElem?_beforeOutputs {backend : Backend} (hready : backend.servo.ready = true)
    (input : JobInput) (index : Nat) :
    (backend.beforeOutputs input).servo.axes[index]? =
      backend.servo.axes[index]?.map fun axis =>
        if axis.isMotion then backend.inputAxis index input axis else axis := by
  let consumed : Backend := { backend with runtime := backend.runtime.consumePendingDwellFault }
  have hsafe : consumed.runtime.safeOutputRequired = backend.runtime.safeOutputRequired :=
    IghMasterRuntime.safeOutputRequired_consumePendingDwellFault _
  have hchecks : consumed.checksFreshness = backend.checksFreshness := by
    unfold checksFreshness
    rw [hsafe]
  have hchecked := getElem?_checkExternalCommandFreshness consumed input.freshnessNowNs index
  have hready' : (consumed.servo.checkExternalCommandFreshness
      consumed.runtime.safeOutputRequired input.freshnessNowNs).1.ready = true := by
    rw [Servo.field_of_bare Servo.ready (fun _ => rfl)
      (Servo.bare_checkExternalCommandFreshness _ _ _)]
    exact hready
  change (Servo.receiveData input.inputs (consumed.servo.checkExternalCommandFreshness
    consumed.runtime.safeOutputRequired input.freshnessNowNs).1).axes[index]? = _
  rw [Servo.getElem?_receiveData, hchecked, hready', Option.map_map, hchecks]
  congr 1
  funext axis
  unfold inputAxis
  by_cases hmotion : axis.isMotion = true
  · by_cases hcheck : backend.checksFreshness = true
    · simp [hmotion, hcheck, consumed, isMotion_tripStale]
    · simp [hmotion, hcheck]
  · simp [hmotion]

theorem isMotion_inputAxis (backend : Backend) (index : Nat) (input : JobInput) (axis : Axis) :
    (backend.inputAxis index input axis).isMotion = axis.isMotion := by
  unfold inputAxis
  dsimp only
  split
  · exact isMotion_tripStale _ _ axis
  · rfl

theorem faultResetCw_inputAxis (backend : Backend) (index : Nat) (input : JobInput)
    (axis : Axis) : (backend.inputAxis index input axis).faultResetCw = axis.faultResetCw := by
  unfold inputAxis Axis.tripStale
  dsimp only
  split_ifs <;> rfl

theorem isMotion_jobAxis (backend : Backend) (index : Nat) (input : JobInput) (axis : Axis) :
    (backend.jobAxis index input axis).isMotion = axis.isMotion := by
  unfold jobAxis
  split <;> exact isMotion_inputAxis backend index input axis

/-- The safe word of a Job cycle only looks at the reset window that was there before. -/
theorem safeControlWord_beforeOutputs (backend : Backend) (input : JobInput) (index : Nat)
    (axis : Axis) :
    (backend.beforeOutputs input).servo.safeControlWord index
        (backend.inputAxis index input axis) =
      backend.servo.safeControlWord index axis := by
  have hbare := bare_beforeOutputs input backend
  have hcycles := Servo.field_of_bare Servo.explicitFaultResetCycles (fun _ => rfl) hbare
  have haxis := Servo.field_of_bare Servo.explicitFaultResetAxis (fun _ => rfl) hbare
  unfold Servo.safeControlWord
  rw [hcycles, haxis, faultResetCw_inputAxis]

theorem getElem?_exchangeOutputs {backend : Backend} (hready : backend.servo.ready = true)
    (input : JobInput) (index : Nat) :
    ((backend.beforeOutputs input).exchangeOutputs input.domain).servo.axes[index]? =
      backend.servo.axes[index]?.map fun axis =>
        if axis.isMotion then backend.jobAxis index input axis else axis := by
  have hbare := bare_beforeOutputs input backend
  have hready' : (backend.beforeOutputs input).servo.ready = true := by
    rw [Servo.field_of_bare Servo.ready (fun _ => rfl) hbare]
    exact hready
  have hentering : (backend.beforeOutputs input).servo.safeOutputActive =
      backend.servo.safeOutputActive := Servo.field_of_bare _ (fun _ => rfl) hbare
  have hbefore := getElem?_beforeOutputs hready input index
  unfold exchangeOutputs
  by_cases hsafe : backend.cycleIsSafe input = true
  · rw [if_pos (by exact hsafe)]
    change (backend.beforeOutputs input).servo.applySafeProcessImageOutputs.axes[index]? = _
    rw [Servo.getElem?_applySafe, hbefore, Option.map_map, hready', hentering]
    congr 1
    funext axis
    simp only [Function.comp_apply, Bool.true_and, jobAxis, if_pos hsafe]
    by_cases hmotion : axis.isMotion = true
    · rw [if_pos hmotion, isMotion_inputAxis, if_pos hmotion, if_pos hmotion,
        safeControlWord_beforeOutputs]
      rfl
    · rw [if_neg hmotion, if_neg hmotion, if_neg hmotion]
  · rw [if_neg (by exact hsafe)]
    change (Servo.sendData input.domain { (backend.beforeOutputs input).servo with
      safeOutputActive := false }).axes[index]? = _
    rw [Servo.getElem?_sendData]
    have hreadyReleased : ({ (backend.beforeOutputs input).servo with
        safeOutputActive := false } : Servo).ready = true := hready'
    rw [hreadyReleased]
    change Option.map _ ((backend.beforeOutputs input).servo.axes[index]?) = _
    rw [hbefore, Option.map_map]
    congr 1
    funext axis
    simp only [Function.comp_apply, Bool.true_and, jobAxis, if_neg hsafe]
    by_cases hmotion : axis.isMotion = true
    · rw [if_pos hmotion, isMotion_inputAxis, if_pos hmotion, if_pos hmotion]
    · rw [if_neg hmotion, if_neg hmotion, if_neg hmotion]

theorem getElem?_jobCycle {backend : Backend} (hformed : backend.Formed) (input : JobInput)
    (index : Nat) :
    (backend.jobCycle input).servo.axes[index]? =
      backend.servo.axes[index]?.map fun axis =>
        if backend.runtime.jobRunning && axis.isMotion then backend.jobAxis index input axis
        else axis := by
  unfold jobCycle
  by_cases hrunning : backend.runtime.jobRunning = true
  · have hready : backend.servo.ready = true := hformed.ready_eq.trans hrunning
    have hinitialized : backend.servo.initialized = true := by
      rw [Servo.ready, Bool.and_eq_true] at hready
      exact hready.1
    rw [hrunning, hinitialized, if_neg (by simp), if_neg (by simp)]
    change ((backend.beforeOutputs input).exchangeOutputs input.domain).servo.axes[index]? = _
    rw [getElem?_exchangeOutputs hready]
    rfl
  · simp [hrunning]

/-- A motion axis after a running Job cycle, in terms of the axis before it. -/
theorem exists_of_getElem?_jobCycle {backend : Backend} (hformed : backend.Formed) {input : JobInput}
    (hrunning : backend.runtime.jobRunning = true) {index : Nat} {after : Axis}
    (hafter : (backend.jobCycle input).servo.axes[index]? = some after)
    (hmotion : after.isMotion = true) :
    ∃ axis, backend.servo.axes[index]? = some axis ∧ axis.isMotion = true ∧
      after = backend.jobAxis index input axis := by
  rw [getElem?_jobCycle hformed input index, Option.map_eq_some_iff] at hafter
  obtain ⟨axis, haxis, rfl⟩ := hafter
  by_cases hdrive : axis.isMotion = true
  · refine ⟨axis, haxis, hdrive, ?_⟩
    rw [hrunning, hdrive]
    rfl
  · rw [if_neg (by simp [hdrive])] at hmotion
    exact absurd hmotion hdrive

theorem jobAxis_of_motionCycle {backend : Backend} {input : JobInput}
    (hsafe : backend.cycleIsSafe input = false) (index : Nat) (axis : Axis) :
    backend.jobAxis index input axis =
      (backend.inputAxis index input axis).sendData true (input.domain.wcState == .complete) := by
  rw [jobAxis, hsafe, if_neg Bool.false_ne_true]

theorem getElem?_initializePositionsFromSdo (reads : Nat → List Int32) (servo : Servo)
    (index : Nat) :
    (servo.initializePositionsFromSdo reads).1.axes[index]? =
      servo.axes[index]?.map fun axis =>
        if (servo.initialized && !servo.activated) && axis.isMotion then
          Servo.setInitialPosition (reads index) axis
        else axis := by
  unfold Servo.initializePositionsFromSdo
  by_cases hidle : (servo.initialized && !servo.activated) = true
  · have hguard : (!servo.initialized || servo.activated) = false := by
      simpa using hidle
    rw [hguard, if_neg (by simp)]
    simp [hidle]
  · have hguard : (!servo.initialized || servo.activated) = true := by
      rw [← Bool.not_eq_false]
      intro hfalse
      apply hidle
      simpa using hfalse
    rw [hguard, if_pos rfl]
    simp [hidle]

theorem getElem?_activate (input : Servo.ActivateInput) (servo : Servo) (index : Nat) :
    (servo.activate input).1.axes[index]? =
      servo.axes[index]?.map fun axis =>
        if (servo.initialized && !servo.activated) && (input.masterActivate && input.domainData) then
          Servo.activateAxis axis
        else axis := by
  unfold Servo.activate
  by_cases hinitialized : servo.initialized = true
  swap
  · simp [hinitialized]
  by_cases hactivated : servo.activated = true
  · simp [hinitialized, hactivated]
  by_cases hbus : (input.masterActivate && input.domainData) = true
  · have hguard : (!input.masterActivate || !input.domainData) = false := by simpa using hbus
    simp [hinitialized, hactivated, hbus, hguard]
  · have hguard : (!input.masterActivate || !input.domainData) = true := by
      rw [← Bool.not_and, Bool.not_eq_true_eq_eq_false, ← Bool.not_eq_true]
      exact hbus
    simp [hinitialized, hactivated, hbus, hguard]

theorem axes_bringUp (backend : Backend) (input : BringUpInput) :
    (backend.bringUp input).1.servo.axes =
      ((backend.servo.initializePositionsFromSdo input.initialReads).1.activate
        input.activation).1.axes := by
  unfold bringUp
  dsimp only
  split
  · rfl
  · split
    · rfl
    · split <;> rfl

theorem getElem?_bringUp (backend : Backend) (input : BringUpInput) (index : Nat) :
    (backend.bringUp input).1.servo.axes[index]? =
      backend.servo.axes[index]?.map (backend.bringUpAxis index input) := by
  have hbare := Servo.bare_initializePositionsFromSdo input.initialReads backend.servo
  have hinitialized := Servo.field_of_bare Servo.initialized (fun _ => rfl) hbare
  have hactivated := Servo.field_of_bare Servo.activated (fun _ => rfl) hbare
  rw [axes_bringUp, getElem?_activate, getElem?_initializePositionsFromSdo, Option.map_map,
    hinitialized, hactivated]
  rfl

theorem isMotion_setInitialPosition (reads : List Int32) (axis : Axis) :
    (Servo.setInitialPosition reads axis).isMotion = axis.isMotion := by
  unfold Servo.setInitialPosition
  split <;> rfl

theorem isMotion_axisNext (backend : Backend) (index : Nat) (action : BackendAction)
    (axis : Axis) : (backend.axisNext index action axis).isMotion = axis.isMotion := by
  cases action <;> simp only [axisNext]
  case bringUp input =>
    obtain ⟨positioned, hpositioned, hnext⟩ := backend.bringUpAxis_cases index input axis
    have hsame : positioned.isMotion = axis.isMotion := by
      rcases hpositioned with rfl | rfl
      · rfl
      · exact isMotion_setInitialPosition _ axis
    rcases hnext with hnext | ⟨-, hnext⟩
    · rw [hnext, hsame]
    · rw [hnext]
      exact hsame
  case call call => exact Servo.isMotion_performAxis _ _ _ call axis
  case clearCommFault => rfl
  case job input =>
    split
    · exact isMotion_jobAxis backend index input axis
    · rfl

/-- Every action but the initialisation maps the axis at the index. -/
theorem getElem?_next {backend : Backend} (hformed : backend.Formed) (index : Nat)
    {action : BackendAction}
    (hother : ∀ bus config motors, action ≠ .initializeServo bus config motors) :
    (next backend action).servo.axes[index]? =
      backend.servo.axes[index]?.map (backend.axisNext index action) := by
  have hsame : backend.servo.axes[index]? = backend.servo.axes[index]?.map fun axis => axis := by
    simp
  cases action with
  | initializeServo bus config motors => exact absurd rfl (hother bus config motors)
  | bringUp input => exact getElem?_bringUp backend input index
  | setOperational => exact hsame
  | deactivate => exact hsame
  | call call => exact Servo.getElem?_perform backend.flags backend.servo index call
  | requestFaultReset motorId allowWithoutFault slavesInOp =>
      change (backend.servo.requestFaultReset backend.flags slavesInOp motorId
        allowWithoutFault).1.axes[index]? = _
      unfold Servo.requestFaultReset
      dsimp only
      split_ifs <;> exact hsame
  | clearCommFault => exact List.getElem?_map
  | requestSafeOutput => exact hsame
  | releaseSafeOutput =>
      change backend.releaseSafeOutput.1.servo.axes[index]? = _
      unfold releaseSafeOutput
      split <;> exact hsame
  | job input => exact getElem?_jobCycle hformed input index

/-! ### The shape is kept -/

theorem formed_initializeServo {backend : Backend} (hformed : backend.Formed) (bus : BusSetup)
    (config : IghMasterConfig) (motors : List MotorConfig) :
    (backend.initializeServo bus config motors).1.Formed := by
  unfold initializeServo
  rcases backend.servo.initializeServo_cases bus config.busCycleUs config.cmdWatchdogMs
    config.csvCmdWatchdog motors with hrefused | ⟨-, hfailed | ⟨axes, -, hdone⟩⟩
  · rw [hrefused]
    exact hformed
  · rw [hfailed]
    exact ⟨hformed.running_eq, hformed.initialized_of_activated, hformed.axes_eq_nil⟩
  · rw [hdone]
    exact ⟨hformed.running_eq, fun _ => rfl, fun h => absurd h (by simp)⟩

theorem Formed.deactivate {backend : Backend} (hformed : backend.Formed) :
    backend.deactivate.Formed :=
  ⟨rfl, fun h => absurd h (by simp [Backend.deactivate, Servo.deactivate]), hformed.axes_eq_nil⟩

theorem activated_of_activate {input : Servo.ActivateInput} {servo : Servo}
    (hactivate : (servo.activate input).2 = true) :
    (servo.activate input).1.activated = true ∧ (servo.activate input).1.initialized = true := by
  unfold Servo.activate at hactivate ⊢
  by_cases hinitialized : servo.initialized = true
  swap
  · simp [hinitialized] at hactivate
  by_cases hactivated : servo.activated = true
  · simp [hinitialized, hactivated]
  · by_cases hbus : (!input.masterActivate || !input.domainData) = true
    · simp [hinitialized, hactivated, hbus] at hactivate
    · simp [hinitialized, hactivated, hbus]

theorem activate_of_failed {input : Servo.ActivateInput} {servo : Servo}
    (hactivate : (servo.activate input).2 = false) : (servo.activate input).1 = servo := by
  unfold Servo.activate at hactivate ⊢
  split_ifs at hactivate ⊢ <;> rfl

@[simp]
theorem jobRunning_requestSafeOutput (runtime : IghMasterRuntime) :
    runtime.requestSafeOutput.jobRunning = runtime.jobRunning := by
  unfold IghMasterRuntime.requestSafeOutput
  split <;> rfl

/-- The servo that the start of the Job leaves behind, unless it takes it down again. -/
def activatedServo (backend : Backend) (input : BringUpInput) : Servo × Bool :=
  (backend.servo.initializePositionsFromSdo input.initialReads).1.activate input.activation

/-- What a start can come to: it fails before the servo is activated, it takes the servo down again,
or it leaves a running Job under a runtime that was asked for safe-output. -/
inductive BroughtUp (backend : Backend) (input : BringUpInput) : Backend × BringUpResult → Prop
  | notActivated (hfailed : (backend.activatedServo input).2 = false) :
      BroughtUp backend input
        ({ backend with servo := (backend.activatedServo input).1 }, .activateFailed)
  | evidenceFailed (hactivated : (backend.activatedServo input).2 = true)
      (hmissing : (input.requireEvidence &&
        !(backend.activatedServo input).1.startupEvidencePassed) = true) :
      BroughtUp backend input
        (({ servo := (backend.activatedServo input).1
            runtime := backend.runtime.requestSafeOutput } : Backend).deactivate, .evidenceFailed)
  | jobFailed (hactivated : (backend.activatedServo input).2 = true)
      (hfailed : (backend.runtime.requestSafeOutput.start input.runtime).2 = false) :
      BroughtUp backend input
        (({ servo := (backend.activatedServo input).1
            runtime := (backend.runtime.requestSafeOutput.start input.runtime).1 } :
          Backend).deactivate, .jobFailed)
  | running (hactivated : (backend.activatedServo input).2 = true)
      (hstarted : (backend.runtime.requestSafeOutput.start input.runtime).2 = true) :
      BroughtUp backend input
        ({ servo := (backend.activatedServo input).1
           runtime := (backend.runtime.requestSafeOutput.start input.runtime).1 }, .running)

theorem broughtUp (backend : Backend) (input : BringUpInput) :
    BroughtUp backend input (backend.bringUp input) := by
  unfold bringUp
  dsimp only
  by_cases hactivated : (backend.activatedServo input).2 = true
  swap
  · rw [Bool.not_eq_true] at hactivated
    rw [if_pos (by simpa [activatedServo] using hactivated)]
    exact .notActivated hactivated
  rw [if_neg (by simpa [activatedServo] using hactivated)]
  split
  · rename_i hevidence
    exact .evidenceFailed hactivated hevidence
  · split
    · rename_i hstarted
      exact .running hactivated hstarted
    · rename_i hfailed
      rw [Bool.not_eq_true] at hfailed
      exact .jobFailed hactivated hfailed

theorem bringUp_of_not_activated {backend : Backend} {input : BringUpInput}
    (hfailed : (backend.activatedServo input).2 = false) :
    backend.bringUp input =
      ({ backend with servo := (backend.activatedServo input).1 }, .activateFailed) := by
  unfold activatedServo at hfailed
  unfold bringUp
  dsimp only
  rw [hfailed, if_pos (by rfl)]
  rfl

theorem activatedServo_of_activated {backend : Backend} (hformed : backend.Formed)
    (input : BringUpInput) (hactivated : backend.servo.activated = true) :
    backend.activatedServo input = (backend.servo, true) := by
  have hinitialized := hformed.initialized_of_activated hactivated
  have hpositioned : backend.servo.initializePositionsFromSdo input.initialReads =
      (backend.servo, false) := by
    simp [Servo.initializePositionsFromSdo, hactivated]
  unfold activatedServo
  rw [hpositioned]
  simp [Servo.activate, hinitialized, hactivated]

theorem formed_takenDown {backend : Backend} {input : BringUpInput} (runtime : IghMasterRuntime)
    (hactivated : (backend.activatedServo input).2 = true) :
    ({ servo := (backend.activatedServo input).1, runtime := runtime } :
      Backend).deactivate.Formed := by
  refine ⟨rfl, fun h => absurd h (by simp [deactivate, Servo.deactivate]), fun h => ?_⟩
  have hinitialized := (activated_of_activate hactivated).2
  exact absurd (hinitialized.symm.trans h) (by simp)

theorem formed_bringUp {backend : Backend} (hformed : backend.Formed) (input : BringUpInput) :
    (backend.bringUp input).1.Formed := by
  have hmap := getElem?_bringUp backend input
  have hbrought := broughtUp backend input
  revert hmap hbrought
  generalize backend.bringUp input = result
  intro hmap hbrought
  cases hbrought with
  | notActivated hfailed =>
      refine hformed.of_bare ?_ (Servo.axes_eq_nil_of_map hmap) rfl
      change (backend.activatedServo input).1.bare = _
      unfold activatedServo
      rw [activate_of_failed hfailed, Servo.bare_initializePositionsFromSdo]
  | evidenceFailed hactivated hmissing => exact formed_takenDown _ hactivated
  | jobFailed hactivated hfailed => exact formed_takenDown _ hactivated
  | running hactivated hstarted =>
      obtain ⟨hactive, hinitialized⟩ := activated_of_activate hactivated
      refine ⟨?_, fun _ => hinitialized, fun h => absurd (hinitialized.symm.trans h) (by simp)⟩
      change (backend.runtime.requestSafeOutput.start input.runtime).1.jobRunning = _
      rw [show (backend.activatedServo input).1.activated = true from hactive]
      rcases IghMasterRuntime.start_cases input.runtime backend.runtime.requestSafeOutput with
        ⟨hrunning, hstart⟩ | ⟨-, -, hstart⟩ | ⟨-, hfailed⟩
      · rw [hstart]
        exact hrunning
      · rw [hstart]
        rfl
      · exact absurd (hfailed.symm.trans hstarted) (by simp)

/-- What a Job cycle does to the servo besides its axes. -/
def cycleServo (backend : Backend) (input : JobInput) : Servo :=
  if backend.cycleIsSafe input then
    { backend.servo with
      safeOutputActive := true
      explicitFaultResetCycles := backend.servo.explicitFaultResetCycles - 1
      explicitFaultResetAxis :=
        if backend.servo.explicitFaultResetCycles = 1 then 0xFFFF
        else backend.servo.explicitFaultResetAxis }
  else
    { backend.servo with safeOutputActive := false }

theorem bare_jobCycle {backend : Backend} (hformed : backend.Formed) (input : JobInput)
    (hrunning : backend.runtime.jobRunning = true) :
    (backend.jobCycle input).servo.bare = (backend.cycleServo input).bare := by
  have hready : backend.servo.ready = true := hformed.ready_eq.trans hrunning
  have hinitialized : backend.servo.initialized = true := by
    rw [Servo.ready, Bool.and_eq_true] at hready
    exact hready.1
  have hbare := bare_beforeOutputs input backend
  have hready' : (backend.beforeOutputs input).servo.ready = true := by
    rw [Servo.field_of_bare Servo.ready (fun _ => rfl) hbare]
    exact hready
  unfold jobCycle
  rw [hrunning, hinitialized, if_neg (by simp), if_neg (by simp)]
  change ((backend.beforeOutputs input).exchangeOutputs input.domain).servo.bare = _
  unfold exchangeOutputs cycleServo
  by_cases hsafe : backend.cycleIsSafe input = true
  · rw [if_pos (by exact hsafe), if_pos hsafe]
    change (backend.beforeOutputs input).servo.applySafeProcessImageOutputs.bare = _
    unfold Servo.applySafeProcessImageOutputs
    rw [if_pos hready']
    have hcycles := Servo.field_of_bare Servo.explicitFaultResetCycles (fun _ => rfl) hbare
    have haxis := Servo.field_of_bare Servo.explicitFaultResetAxis (fun _ => rfl) hbare
    change { (backend.beforeOutputs input).servo.bare with
      safeOutputActive := true
      explicitFaultResetCycles :=
        (backend.beforeOutputs input).servo.explicitFaultResetCycles - 1
      explicitFaultResetAxis :=
        if (backend.beforeOutputs input).servo.explicitFaultResetCycles = 1 then 0xFFFF
        else (backend.beforeOutputs input).servo.explicitFaultResetAxis } = _
    rw [hbare, hcycles, haxis]
    rfl
  · rw [if_neg (by exact hsafe), if_neg hsafe]
    change (Servo.sendData input.domain { (backend.beforeOutputs input).servo with
      safeOutputActive := false }).bare = _
    rw [Servo.bare_sendData]
    change { (backend.beforeOutputs input).servo.bare with safeOutputActive := false } = _
    rw [hbare]
    rfl

theorem jobRunning_jobCycle (backend : Backend) (input : JobInput) :
    (backend.jobCycle input).runtime.jobRunning = backend.runtime.jobRunning := by
  unfold jobCycle
  split
  · rfl
  · split
    · change (IghMasterRuntime.finishJobCycle input.timing false _).jobRunning = _
      rw [IghMasterRuntime.jobRunning_finishJobCycle]
      exact IghMasterRuntime.jobRunning_consumePendingDwellFault _
    · change (IghMasterRuntime.finishJobCycle input.timing _ _).jobRunning = _
      rw [IghMasterRuntime.jobRunning_finishJobCycle, ← jobRunning_beforeOutputs input backend]
      unfold exchangeOutputs
      split <;> rfl

theorem formed_jobCycle {backend : Backend} (hformed : backend.Formed) (input : JobInput) :
    (backend.jobCycle input).Formed := by
  by_cases hrunning : backend.runtime.jobRunning = true
  · have hbare := bare_jobCycle hformed input hrunning
    have hactivated : (backend.jobCycle input).servo.activated = backend.servo.activated := by
      rw [Servo.field_of_bare Servo.activated (fun _ => rfl) hbare, cycleServo]
      split <;> rfl
    have hinitialized : (backend.jobCycle input).servo.initialized = backend.servo.initialized := by
      rw [Servo.field_of_bare Servo.initialized (fun _ => rfl) hbare, cycleServo]
      split <;> rfl
    refine ⟨?_, fun h => ?_, fun h => ?_⟩
    · rw [jobRunning_jobCycle, hactivated]
      exact hformed.running_eq
    · rw [hinitialized]
      exact hformed.initialized_of_activated (hactivated ▸ h)
    · exact Servo.axes_eq_nil_of_map (getElem?_jobCycle hformed input)
        (hformed.axes_eq_nil (hinitialized ▸ h))
  · rw [jobCycle, if_pos (by simpa using hrunning)]
    exact hformed

theorem formed_next {backend : Backend} (hformed : backend.Formed) (action : BackendAction) :
    (next backend action).Formed := by
  cases action with
  | initializeServo bus config motors => exact formed_initializeServo hformed bus config motors
  | bringUp input => exact formed_bringUp hformed input
  | setOperational =>
      exact ⟨hformed.running_eq, hformed.initialized_of_activated, hformed.axes_eq_nil⟩
  | deactivate => exact hformed.deactivate
  | call call =>
      have hmap := fun index => Servo.getElem?_perform backend.flags backend.servo index call
      exact hformed.of_bare (Servo.bare_perform backend.flags backend.servo call)
        (Servo.axes_eq_nil_of_map hmap) rfl
  | requestFaultReset motorId allowWithoutFault slavesInOp =>
      change Formed { backend with servo := (backend.servo.requestFaultReset backend.flags
        slavesInOp motorId allowWithoutFault).1 }
      unfold Servo.requestFaultReset
      dsimp only
      split_ifs <;>
        exact ⟨hformed.running_eq, hformed.initialized_of_activated, hformed.axes_eq_nil⟩
  | clearCommFault =>
      refine ⟨hformed.running_eq, hformed.initialized_of_activated, fun h => ?_⟩
      change backend.servo.axes.map _ = []
      rw [hformed.axes_eq_nil h]
      rfl
  | requestSafeOutput =>
      refine hformed.of_bare rfl id ?_
      exact jobRunning_requestSafeOutput backend.runtime
  | releaseSafeOutput =>
      change backend.releaseSafeOutput.1.Formed
      unfold releaseSafeOutput IghMasterRuntime.releaseSafeOutput
      split
      · split <;>
          exact ⟨hformed.running_eq, hformed.initialized_of_activated, hformed.axes_eq_nil⟩
      · exact hformed
  | job input => exact formed_jobCycle hformed input

theorem motionAt_next_of_mapped {backend : Backend} (hformed : backend.Formed) {index : Nat}
    {property property' : Axis → Prop} {action : BackendAction}
    (hmapped : ∀ bus config motors, action ≠ .initializeServo bus config motors)
    (hproperty : backend.servo.MotionAt index property)
    (hupdate : ∀ axis, backend.servo.axes[index]? = some axis → axis.isMotion = true →
      property axis → property' (backend.axisNext index action axis)) :
    (next backend action).servo.MotionAt index property' :=
  hproperty.of_map (getElem?_next hformed index hmapped) (isMotion_axisNext backend index action)
    hupdate

/-- A property of the axis at the index is carried along by what the action does to that axis. -/
theorem motionAt_next {backend : Backend} (hformed : backend.Formed) {index : Nat}
    {property property' : Axis → Prop} {action : BackendAction}
    (hproperty : backend.servo.MotionAt index property)
    (hnew : ∀ bus slave config offsets, BusSetup.Registers bus slave config offsets →
      property' { config := config, offsets := offsets,
                  faultResetCw := config.faultResetControlWord })
    (hupdate : ∀ axis, backend.servo.axes[index]? = some axis → axis.isMotion = true →
      property axis → property' (backend.axisNext index action axis)) :
    (next backend action).servo.MotionAt index property' := by
  by_cases hother : ∃ bus config motors, action = .initializeServo bus config motors
  · obtain ⟨bus, config, motors, rfl⟩ := hother
    have hkept : backend.servo.MotionAt index property' :=
      fun axis haxis hmotion => hupdate axis haxis hmotion (hproperty axis haxis hmotion)
    exact hkept.initializeServo (hnew bus)
  · have hmapped : ∀ bus config motors, action ≠ .initializeServo bus config motors :=
      fun bus config motors h => hother ⟨bus, config, motors, h⟩
    exact motionAt_next_of_mapped hformed hmapped hproperty hupdate

theorem motionAt_next_of_initialized {backend : Backend} (hformed : backend.Formed)
    (hinitialized : backend.servo.initialized = true) {index : Nat}
    {property property' : Axis → Prop} {action : BackendAction}
    (hproperty : backend.servo.MotionAt index property)
    (hupdate : ∀ axis, backend.servo.axes[index]? = some axis → axis.isMotion = true →
      property axis → property' (backend.axisNext index action axis)) :
    (next backend action).servo.MotionAt index property' := by
  by_cases hother : ∃ bus config motors, action = .initializeServo bus config motors
  · obtain ⟨bus, config, motors, rfl⟩ := hother
    change (backend.servo.initializeServo _ _ _ _ motors).1.MotionAt index property'
    rw [Servo.initializeServo_of_initialized _ _ _ _ _ hinitialized]
    exact fun axis haxis hmotion => hupdate axis haxis hmotion (hproperty axis haxis hmotion)
  · have hmapped : ∀ bus config motors, action ≠ .initializeServo bus config motors :=
      fun bus config motors h => hother ⟨bus, config, motors, h⟩
    exact motionAt_next_of_mapped hformed hmapped hproperty hupdate

end Backend

end IghMaster
