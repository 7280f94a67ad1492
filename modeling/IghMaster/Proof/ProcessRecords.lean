import IghMaster.Proof.BackendAxes
import IghMaster.ProcessImage

/-!
# Actions that leave the process data alone

Only a Job cycle reads the records of the process data or changes them, apart from an activation, which
starts them from zero. Any other action does the same whatever they are.
-/

namespace IghMaster

namespace Axis

@[simp]
theorem isMotion_withProcessData (inputs : TxPdo) (outputs : RxPdo) (axis : Axis) :
    (axis.withProcessData inputs outputs).isMotion = axis.isMotion := by
  unfold withProcessData
  split <;> rfl

@[simp]
theorem withProcessData_withProcessData (inputs inputs' : TxPdo) (outputs outputs' : RxPdo)
    (axis : Axis) :
    (axis.withProcessData inputs outputs).withProcessData inputs' outputs' =
      axis.withProcessData inputs' outputs' := by
  by_cases hmotion : axis.isMotion = true
  · rw [withProcessData, isMotion_withProcessData, if_pos hmotion, withProcessData, if_pos hmotion,
      withProcessData, if_pos hmotion]
  · rw [withProcessData, isMotion_withProcessData, if_neg hmotion, withProcessData, if_neg hmotion,
      withProcessData, if_neg hmotion]

/-- What does not read the process data of an axis. -/
theorem field_withProcessData {α : Type} (field : Axis → α)
    (hfield : ∀ inputs outputs axis,
      field { axis with input := inputs, output := outputs } = field axis)
    (inputs : TxPdo) (outputs : RxPdo) (axis : Axis) :
    field (axis.withProcessData inputs outputs) = field axis := by
  unfold withProcessData
  split
  · exact hfield inputs outputs axis
  · rfl

/-- The update neither reads the process data of an axis nor changes them. -/
def Ignores (update : Axis → Axis) : Prop :=
  ∀ inputs outputs axis,
    update (axis.withProcessData inputs outputs) = (update axis).withProcessData inputs outputs

theorem ignores_of {update : Axis → Axis} (hmotion : ∀ axis, (update axis).isMotion = axis.isMotion)
    (hupdate : ∀ inputs outputs axis,
      update { axis with input := inputs, output := outputs } =
        { update axis with input := inputs, output := outputs }) : Ignores update := by
  intro inputs outputs axis
  unfold withProcessData
  rw [hmotion]
  split
  · exact hupdate inputs outputs axis
  · rfl

theorem ignores_setpoints (change : Setpoints → Setpoints) :
    Ignores fun axis => { axis with setpoints := change axis.setpoints } :=
  ignores_of (fun _ => rfl) fun _ _ _ => rfl

theorem ignores_startEnable (enable : Bool) : Ignores (startEnable enable) :=
  ignores_of (fun _ => rfl) fun _ _ _ => rfl

theorem ignores_applyMode (mode : OperationMode) : Ignores (applyMode mode) := by
  refine ignores_of (fun axis => isMotion_applyMode mode axis) fun inputs outputs axis => ?_
  unfold applyMode
  split_ifs
  · rfl
  · rename_i hbefore hafter
    exact absurd hbefore hafter
  · rename_i hbefore hafter
    exact absurd hafter hbefore
  · rfl

theorem ignores_contentionFallback (csvCmdWatchdog : Bool) :
    Ignores (contentionFallback csvCmdWatchdog) := by
  refine ignores_of (fun axis => ?_) fun inputs outputs axis => ?_
  · unfold contentionFallback
    split_ifs <;> rfl
  · unfold contentionFallback
    split_ifs <;> rfl

theorem ignores_tripStale (csvCmdWatchdog : Bool) (nowNs : Nat) :
    Ignores (tripStale csvCmdWatchdog nowNs) := by
  refine ignores_of (fun axis => Backend.isMotion_tripStale csvCmdWatchdog nowNs axis)
    fun inputs outputs axis => ?_
  have htorque : ({ axis with input := inputs, output := outputs } : Axis).isTorqueStale nowNs =
      axis.isTorqueStale nowNs := rfl
  have hvelocity : ({ axis with input := inputs, output := outputs } : Axis).isVelocityStale
      csvCmdWatchdog nowNs = axis.isVelocityStale csvCmdWatchdog nowNs := rfl
  unfold tripStale
  rw [htorque, hvelocity]
  split_ifs <;> rfl

theorem ignores_setInitialPosition (reads : List Int32) : Ignores (Servo.setInitialPosition reads) := by
  refine ignores_of (fun axis => Backend.isMotion_setInitialPosition reads axis)
    fun inputs outputs axis => ?_
  unfold Servo.setInitialPosition
  cases Servo.chooseInitialPosition reads <;> rfl

theorem ignores_disarmCommandFreshness : Ignores disarmCommandFreshness :=
  ignores_of (fun _ => rfl) fun _ _ _ => rfl

theorem ignores_ite {update : Axis → Axis} (hupdate : Ignores update) (condition : Prop)
    [Decidable condition] : Ignores fun axis => if condition then update axis else axis := by
  intro inputs outputs axis
  dsimp only
  split
  · exact hupdate inputs outputs axis
  · rfl

end Axis

namespace Servo

variable (inputs : Nat → TxPdo) (outputs : Nat → RxPdo)

@[simp]
theorem getElem?_withRecords (servo : Servo) (index : Nat) :
    (servo.withRecords inputs outputs).axes[index]? =
      servo.axes[index]?.map (Axis.withProcessData (inputs index) (outputs index)) := by
  simp [withRecords]

@[simp]
theorem bare_withRecords (servo : Servo) : (servo.withRecords inputs outputs).bare = servo.bare := rfl

theorem eq_of_bare_of_axes {servo servo' : Servo} (hbare : servo.bare = servo'.bare)
    (haxes : ∀ index : Nat, servo.axes[index]? = servo'.axes[index]?) : servo = servo' := by
  have hlists : servo.axes = servo'.axes := List.ext_getElem? haxes
  calc
    servo = { servo.bare with axes := servo.axes } := rfl
    _ = { servo'.bare with axes := servo'.axes } := by rw [hbare, hlists]
    _ = servo' := rfl

theorem any_withRecords (servo : Servo) (test : Axis → Bool)
    (htest : ∀ inputs outputs axis,
      test { axis with input := inputs, output := outputs } = test axis) :
    (servo.withRecords inputs outputs).axes.any test = servo.axes.any test := by
  unfold withRecords
  rw [Bool.eq_iff_iff, List.any_eq_true, List.any_eq_true]
  constructor
  · rintro ⟨axis, hmem, haxis⟩
    obtain ⟨index, hlt, rfl⟩ := List.mem_mapIdx.mp hmem
    rw [Axis.field_withProcessData test htest] at haxis
    exact ⟨_, List.getElem_mem hlt, haxis⟩
  · rintro ⟨axis, hmem, haxis⟩
    obtain ⟨index, hlt, rfl⟩ := List.getElem_of_mem hmem
    refine ⟨_, List.mem_mapIdx.mpr ⟨index, hlt, rfl⟩, ?_⟩
    rw [Axis.field_withProcessData test htest]
    exact haxis

theorem startsEnable_withRecords (flags : RuntimeFlags) (motorId : UInt8) (enable : Bool)
    (servo : Servo) (index : Nat) :
    (servo.withRecords inputs outputs).startsEnable flags motorId enable index =
      servo.startsEnable flags motorId enable index := by
  have hany := servo.any_withRecords inputs outputs
    (fun axis => axis.isMotion && axis.fsm.desiredEnable != enable) fun _ _ _ => rfl
  have hone : ((servo.withRecords inputs outputs).axes[index]?.any fun axis =>
      axis.fsm.desiredEnable != enable) =
        servo.axes[index]?.any fun axis => axis.fsm.desiredEnable != enable := by
    rw [getElem?_withRecords]
    cases servo.axes[index]? with
    | none => rfl
    | some axis =>
        exact Axis.field_withProcessData (fun axis => axis.fsm.desiredEnable != enable)
          (fun _ _ _ => rfl) (inputs index) (outputs index) axis
  unfold startsEnable
  rw [hany, hone]
  rfl

theorem performAxis_withRecords (flags : RuntimeFlags) (servo : Servo) (index : Nat)
    (call : ServoCall) (axis : Axis) :
    (servo.withRecords inputs outputs).performAxis flags index call
        (axis.withProcessData (inputs index) (outputs index)) =
      (servo.performAxis flags index call axis).withProcessData (inputs index) (outputs index) := by
  cases call with
  | setEnable motorId enable =>
      simp only [performAxis, startsEnable_withRecords, Axis.isMotion_withProcessData]
      exact Axis.ignores_ite (Axis.ignores_startEnable enable) _ _ _ axis
  | setOperationMode motorId mode =>
      exact Axis.ignores_ite (Axis.ignores_applyMode mode) _ _ _ axis
  | setTargetPosition motorId position overrideFilter =>
      exact Axis.ignores_ite
        (Axis.ignores_setpoints (Setpoints.setTargetPosition position overrideFilter)) _ _ _ axis
  | setIdleInputPosition motorId position =>
      exact Axis.ignores_ite (Axis.ignores_setpoints (Setpoints.setIdleInputPosition position)) _ _ _
        axis
  | setTargetVelocity motorId velocity overrideIdle source nowNs =>
      have hupdate : Axis.Ignores (Axis.setTargetVelocity velocity overrideIdle source
          servo.csvCmdWatchdog nowNs servo.externalCmdWatchdogNs) :=
        Axis.ignores_of (fun _ => rfl) fun _ _ _ => rfl
      exact Axis.ignores_ite hupdate _ _ _ axis
  | setIdleInputVelocity motorId velocity =>
      exact Axis.ignores_ite (Axis.ignores_setpoints (Setpoints.setIdleInputVelocity velocity)) _ _ _
        axis
  | setTargetTorque motorId torque source nowNs =>
      have hupdate : Axis.Ignores (Axis.setTargetTorque torque source nowNs
          servo.externalCmdWatchdogNs) :=
        Axis.ignores_of (fun _ => rfl) fun _ _ _ => rfl
      exact Axis.ignores_ite hupdate _ _ _ axis
  | applyCommandContentionFallback =>
      simp only [performAxis, Axis.isMotion_withProcessData]
      exact Axis.ignores_ite (Axis.ignores_contentionFallback servo.csvCmdWatchdog) _ _ _ axis

theorem perform_withRecords (flags : RuntimeFlags) (servo : Servo) (call : ServoCall) :
    (servo.withRecords inputs outputs).perform flags call =
      (servo.perform flags call).withRecords inputs outputs := by
  refine eq_of_bare_of_axes ?_ fun index => ?_
  · rw [bare_perform, bare_withRecords, bare_withRecords, bare_perform]
  · rw [getElem?_perform, getElem?_withRecords, getElem?_withRecords, getElem?_perform,
      Option.map_map, Option.map_map]
    congr 1
    funext axis
    exact performAxis_withRecords inputs outputs flags servo index call axis

theorem any_resetSelected (motorId : UInt8) (servo : Servo) (test : Axis → Bool)
    (htest : ∀ inputs outputs axis,
      test { axis with input := inputs, output := outputs } = test axis) :
    (resetSelected motorId (servo.withRecords inputs outputs)).any test =
      (resetSelected motorId servo).any test := by
  have hselected (servo : Servo) :
      (resetSelected motorId servo).any test = true ↔
        ∃ (index : Nat) (axis : Axis), servo.axes[index]? = some axis ∧
        axis.isMotion = true ∧ (motorId = 0xFF ∨ motorId = index.toUInt8) ∧ test axis = true := by
    unfold resetSelected
    simp only [List.any_map, List.any_filter, List.any_eq_true, Prod.exists,
      List.mem_zipIdx_iff_getElem?, Bool.and_eq_true, Bool.or_eq_true, beq_iff_eq,
      Function.comp_apply, and_assoc]
    exact exists_comm
  rw [Bool.eq_iff_iff, hselected, hselected]
  refine exists_congr fun index => ?_
  rw [getElem?_withRecords]
  cases servo.axes[index]? with
  | none => simp
  | some axis =>
      have hsame := Axis.field_withProcessData test htest (inputs index) (outputs index) axis
      simp [hsame]

theorem requestFaultReset_withRecords (flags : RuntimeFlags) (slavesInOp : Bool) (motorId : UInt8)
    (allowWithoutFault : Bool) (servo : Servo) :
    (servo.withRecords inputs outputs).requestFaultReset flags slavesInOp motorId allowWithoutFault =
      (((servo.requestFaultReset flags slavesInOp motorId allowWithoutFault).1.withRecords inputs
          outputs), (servo.requestFaultReset flags slavesInOp motorId allowWithoutFault).2) := by
  have hcount : (servo.withRecords inputs outputs).motorCount = servo.motorCount := by
    simp [motorCount, withRecords]
  have hinitialized : (servo.withRecords inputs outputs).initialized = servo.initialized := rfl
  have hactivated : (servo.withRecords inputs outputs).activated = servo.activated := rfl
  have henabled := any_resetSelected inputs outputs motorId servo
    (fun axis => isCiA402OperationEnabled axis.last.statusWord) fun _ _ _ => rfl
  have hfault := any_resetSelected inputs outputs motorId servo
    (fun axis => isCiA402Fault axis.last.statusWord || axis.last.errorCode != 0) fun _ _ _ => rfl
  unfold requestFaultReset
  dsimp only
  rw [hcount, hinitialized, hactivated, henabled, hfault]
  split_ifs <;> rfl

theorem getPosition_withRecords (servo : Servo) (index : Nat) :
    (servo.withRecords inputs outputs).getPosition index = servo.getPosition index := by
  unfold getPosition
  rw [getElem?_withRecords]
  cases servo.axes[index]? with
  | none => rfl
  | some axis =>
      exact Axis.field_withProcessData (fun axis => axis.last.actualPosition) (fun _ _ _ => rfl) _ _
        axis

theorem safeControlWord_withRecords (servo : Servo) (index : Nat) (axis : Axis) (input : TxPdo)
    (output : RxPdo) :
    (servo.withRecords inputs outputs).safeControlWord index (axis.withProcessData input output) =
      servo.safeControlWord index axis :=
  Axis.field_withProcessData (servo.safeControlWord index) (fun _ _ _ => rfl) input output axis

theorem clearCommFault_withRecords (servo : Servo) :
    (servo.withRecords inputs outputs).clearCommFault =
      servo.clearCommFault.withRecords inputs outputs := by
  refine eq_of_bare_of_axes rfl fun index => ?_
  have hleft : (servo.withRecords inputs outputs).clearCommFault.axes[index]? =
      (servo.withRecords inputs outputs).axes[index]?.map Axis.disarmCommandFreshness :=
    List.getElem?_map
  have hright : servo.clearCommFault.axes[index]? =
      servo.axes[index]?.map Axis.disarmCommandFreshness :=
    List.getElem?_map
  rw [hleft, getElem?_withRecords, getElem?_withRecords, hright, Option.map_map, Option.map_map]
  congr 1
  funext axis
  exact Axis.ignores_disarmCommandFreshness (inputs index) (outputs index) axis

theorem updateMotion_withRecords {update : Axis → Axis} (hupdate : Axis.Ignores update)
    (servo : Servo) :
    (servo.withRecords inputs outputs).updateMotion update =
      (servo.updateMotion update).withRecords inputs outputs := by
  refine eq_of_bare_of_axes rfl fun index => ?_
  rw [getElem?_updateMotion, getElem?_withRecords, getElem?_withRecords, getElem?_updateMotion,
    Option.map_map, Option.map_map]
  congr 1
  funext axis
  simp only [Function.comp_apply, Axis.isMotion_withProcessData]
  exact Axis.ignores_ite hupdate _ _ _ axis

theorem checkFreshness_withRecords (safeOutputRequired : Bool) (nowNs : Nat) (servo : Servo) :
    (servo.withRecords inputs outputs).checkExternalCommandFreshness safeOutputRequired nowNs =
      ((servo.checkExternalCommandFreshness safeOutputRequired nowNs).1.withRecords inputs outputs,
        (servo.checkExternalCommandFreshness safeOutputRequired nowNs).2) := by
  have htrip := updateMotion_withRecords inputs outputs
    (Axis.ignores_tripStale servo.csvCmdWatchdog nowNs) servo
  have hstale := any_withRecords inputs outputs servo
    (fun axis => axis.isMotion &&
      (axis.isTorqueStale nowNs || axis.isVelocityStale servo.csvCmdWatchdog nowNs))
    fun _ _ _ => rfl
  have hinitialized : (servo.withRecords inputs outputs).initialized = servo.initialized := rfl
  have htimeout : (servo.withRecords inputs outputs).externalCmdWatchdogNs =
    servo.externalCmdWatchdogNs := rfl
  have hcsv : (servo.withRecords inputs outputs).csvCmdWatchdog = servo.csvCmdWatchdog := rfl
  unfold checkExternalCommandFreshness
  rw [hinitialized, htimeout, hcsv, htrip, hstale]
  split <;> rfl

theorem initializePositions_withRecords (reads : Nat → List Int32) (servo : Servo) :
    ((servo.withRecords inputs outputs).initializePositionsFromSdo reads).1 =
      (servo.initializePositionsFromSdo reads).1.withRecords inputs outputs := by
  refine eq_of_bare_of_axes ?_ fun index => ?_
  · rw [bare_initializePositionsFromSdo, bare_withRecords, bare_withRecords,
      bare_initializePositionsFromSdo]
  · rw [Backend.getElem?_initializePositionsFromSdo, getElem?_withRecords, getElem?_withRecords,
      Backend.getElem?_initializePositionsFromSdo, Option.map_map, Option.map_map]
    congr 1
    funext axis
    simp only [Function.comp_apply, Axis.isMotion_withProcessData]
    exact Axis.ignores_ite (Axis.ignores_setInitialPosition (reads index)) _ _ _ axis

/-- An initialization that succeeds replaces the axes, records included. -/
theorem initializeServo_withRecords (bus : BusSetup) (busCycleUs cmdWatchdogMs : UInt32)
    (csvCmdWatchdog : Bool) (configs : List MotorConfig) (servo : Servo) :
    (servo.withRecords inputs outputs).initializeServo bus busCycleUs cmdWatchdogMs csvCmdWatchdog
        configs =
      if (servo.initializeServo bus busCycleUs cmdWatchdogMs csvCmdWatchdog configs).2 then
        servo.initializeServo bus busCycleUs cmdWatchdogMs csvCmdWatchdog configs
      else
        ((servo.initializeServo bus busCycleUs cmdWatchdogMs csvCmdWatchdog configs).1.withRecords
          inputs outputs, false) := by
  have hinitialized : (servo.withRecords inputs outputs).initialized = servo.initialized := rfl
  unfold initializeServo
  rw [hinitialized]
  split
  · rfl
  · dsimp only
    split
    · rfl
    · cases initialAxes bus busCycleUs configs <;> rfl

/-- The call maps the process data. -/
def activatesNow (input : ActivateInput) (servo : Servo) : Bool :=
  servo.initialized && !servo.activated && input.masterActivate && input.domainData

theorem activate_of_activatesNow {input : ActivateInput} {servo : Servo}
    (hnow : servo.activatesNow input = true) :
    servo.activate input =
      ({ servo with
          axes := servo.axes.map activateAxis
          activated := true
          startupEvidencePassed :=
            input.interpolationPeriodGate && servo.axes.all Axis.verifyPdoEvidence }, true) := by
  simp only [activatesNow, Bool.and_eq_true, Bool.not_eq_true'] at hnow
  obtain ⟨⟨⟨hinitialized, hactivated⟩, hmaster⟩, hdata⟩ := hnow
  simp [activate, hinitialized, hactivated, hmaster, hdata]

theorem activate_of_not_activatesNow {input : ActivateInput} {servo : Servo}
    (hnow : servo.activatesNow input = false) :
    servo.activate input = (servo, servo.initialized && servo.activated) := by
  unfold activatesNow at hnow
  unfold activate
  cases hinitialized : servo.initialized with
  | false => rfl
  | true =>
      cases hactivated : servo.activated with
      | true => rfl
      | false =>
          have hfailed : (!input.masterActivate || !input.domainData) = true := by
            cases hmaster : input.masterActivate <;> simp_all
          simp [hfailed]

theorem withProcessData_activateAxis (axis : Axis) :
    (activateAxis axis).withProcessData {} {} = activateAxis axis := by
  unfold Axis.withProcessData
  split <;> rfl

theorem activateAxis_withProcessData (inputs : TxPdo) (outputs : RxPdo) (axis : Axis) :
    activateAxis (axis.withProcessData inputs outputs) = activateAxis axis := by
  unfold Axis.withProcessData
  split <;> rfl

/-- An activation that maps the process data starts them from zero, whatever they were. -/
theorem activate_withRecords (input : ActivateInput) (servo : Servo) :
    (servo.withRecords inputs outputs).activate input =
      ((servo.activate input).1.withRecords
          (if servo.activatesNow input then fun _ => {} else inputs)
          (if servo.activatesNow input then fun _ => {} else outputs),
        (servo.activate input).2) := by
  have hsame : (servo.withRecords inputs outputs).activatesNow input = servo.activatesNow input := rfl
  cases hnow : servo.activatesNow input with
  | true =>
      have hevidence : (servo.withRecords inputs outputs).axes.all Axis.verifyPdoEvidence =
          servo.axes.all Axis.verifyPdoEvidence := by
        have hany := servo.any_withRecords inputs outputs (fun axis => !axis.verifyPdoEvidence)
          fun _ _ _ => rfl
        rw [List.all_eq_not_any_not, List.all_eq_not_any_not, hany]
      have hlists : (servo.withRecords inputs outputs).axes.map activateAxis =
          (servo.axes.map activateAxis).mapIdx fun _ axis => axis.withProcessData {} {} := by
        refine List.ext_getElem? fun index => ?_
        rw [List.getElem?_map, getElem?_withRecords, List.getElem?_mapIdx, List.getElem?_map,
          Option.map_map, Option.map_map]
        congr 1
        funext axis
        rw [Function.comp_apply, Function.comp_apply, activateAxis_withProcessData,
          withProcessData_activateAxis]
      rw [activate_of_activatesNow (hsame.trans hnow), activate_of_activatesNow hnow, hevidence, hlists]
      rfl
  | false =>
      rw [activate_of_not_activatesNow (hsame.trans hnow), activate_of_not_activatesNow hnow]
      rfl

end Servo

namespace Backend

theorem eq_of_parts {backend backend' : Backend} (hservo : backend.servo = backend'.servo)
    (hruntime : backend.runtime = backend'.runtime) : backend = backend' := by
  cases backend
  cases backend'
  exact congr (congrArg Backend.mk hservo) hruntime

variable (inputs : Nat → TxPdo) (outputs : Nat → RxPdo)

theorem bringUp_withRecords (input : BringUpInput) (backend : Backend) :
    ((backend.withRecords inputs outputs).bringUp input).1 =
      (backend.bringUp input).1.withRecords
        (if backend.servo.activatesNow input.activation then fun _ => {} else inputs)
        (if backend.servo.activatesNow input.activation then fun _ => {} else outputs) := by
  have hnow : (backend.servo.initializePositionsFromSdo input.initialReads).1.activatesNow
      input.activation = backend.servo.activatesNow input.activation :=
    Servo.field_of_bare (Servo.activatesNow input.activation) (fun _ => rfl)
      (Servo.bare_initializePositionsFromSdo input.initialReads backend.servo)
  have hactivate := Servo.activate_withRecords inputs outputs input.activation
    (backend.servo.initializePositionsFromSdo input.initialReads).1
  rw [hnow, ← Servo.initializePositions_withRecords] at hactivate
  have hservo : (backend.withRecords inputs outputs).servo =
      backend.servo.withRecords inputs outputs := rfl
  have hruntime : (backend.withRecords inputs outputs).runtime = backend.runtime := rfl
  generalize (if backend.servo.activatesNow input.activation = true then fun _ => {} else inputs) =
    inputs', (if backend.servo.activatesNow input.activation = true then fun _ => {} else outputs) =
    outputs' at hactivate ⊢
  have hevidence (servo : Servo) :
      (servo.withRecords inputs' outputs').startupEvidencePassed = servo.startupEvidencePassed := rfl
  unfold bringUp
  dsimp only
  rw [hservo, hactivate, hruntime, hevidence]
  split_ifs <;> rfl

/-- Neither a Job cycle nor a start, and no initialization. -/
def isQuiet : BackendAction → Bool
  | .initializeServo _ _ _ | .bringUp _ | .job _ => false
  | _ => true

theorem next_withRecords {action : BackendAction} (hquiet : isQuiet action = true)
    (backend : Backend) :
    (backend.withRecords inputs outputs).next action =
      (backend.next action).withRecords inputs outputs := by
  cases action with
  | initializeServo bus config motors => exact absurd hquiet Bool.false_ne_true
  | bringUp input => exact absurd hquiet Bool.false_ne_true
  | job input => exact absurd hquiet Bool.false_ne_true
  | setOperational => rfl
  | deactivate => rfl
  | call call =>
      have hflags : (backend.withRecords inputs outputs).flags = backend.flags := rfl
      have hservo := Servo.perform_withRecords inputs outputs backend.flags backend.servo call
      rw [next, hflags]
      exact congrArg (fun servo => { backend with servo := servo }) hservo
  | requestFaultReset motorId allowWithoutFault slavesInOp =>
      have hservo := Servo.requestFaultReset_withRecords inputs outputs backend.flags slavesInOp
        motorId allowWithoutFault backend.servo
      exact congrArg (fun result : Servo × Bool => { backend with servo := result.1 }) hservo
  | clearCommFault =>
      have hservo := Servo.clearCommFault_withRecords inputs outputs backend.servo
      exact congrArg (fun servo => ({ servo := servo, runtime := backend.runtime.clearCommFault } :
        Backend)) hservo
  | requestSafeOutput => rfl
  | releaseSafeOutput =>
      change (backend.withRecords inputs outputs).releaseSafeOutput.1 = _
      have hevidence : (backend.withRecords inputs outputs).servo.startupEvidencePassed =
        backend.servo.startupEvidencePassed := rfl
      unfold releaseSafeOutput next
      rw [hevidence]
      unfold releaseSafeOutput
      split <;> rfl

end Backend

end IghMaster
