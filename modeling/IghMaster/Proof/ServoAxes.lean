import Mathlib.Tactic.Common
import IghMaster.Servo

/-!
# Servo operations, axis by axis

Each operation of the servo acts on the axis at an index by a function of that axis alone. These
lemmas read the operations off at one index, so that an invariant of an axis is carried through the
operations without looking at the other axes.
-/

namespace IghMaster.Servo

theorem getElem?_of_mapM {α β : Type} {f : α → Option β} {inputs : List α} {outputs : List β}
    (hmap : inputs.mapM f = some outputs) {index : Nat} {output : β}
    (houtput : outputs[index]? = some output) :
    ∃ input, inputs[index]? = some input ∧ f input = some output := by
  induction inputs generalizing outputs index with
  | nil =>
      simp only [List.mapM_nil, Option.pure_def, Option.some.injEq] at hmap
      rw [← hmap, List.getElem?_nil] at houtput
      exact absurd houtput.symm (Option.some_ne_none output)
  | cons head tail ih =>
      simp only [List.mapM_cons, Option.pure_def, Option.bind_eq_bind, Option.bind_eq_some_iff,
        Option.some.injEq] at hmap
      obtain ⟨first, hfirst, rest, hrest, rfl⟩ := hmap
      cases index with
      | zero =>
          rw [List.getElem?_cons_zero] at houtput
          exact ⟨head, rfl, hfirst.trans houtput⟩
      | succ index =>
          rw [List.getElem?_cons_succ] at houtput
          exact ih hrest houtput

theorem length_of_mapM {α β : Type} {f : α → Option β} {inputs : List α} {outputs : List β}
    (hmap : inputs.mapM f = some outputs) : outputs.length = inputs.length := by
  induction inputs generalizing outputs with
  | nil =>
      simp only [List.mapM_nil, Option.pure_def, Option.some.injEq] at hmap
      subst hmap
      rfl
  | cons head tail ih =>
      simp only [List.mapM_cons, Option.pure_def, Option.bind_eq_bind, Option.bind_eq_some_iff,
        Option.some.injEq] at hmap
      obtain ⟨first, -, rest, hrest, rfl⟩ := hmap
      rw [List.length_cons, List.length_cons, ih hrest]

end Servo

namespace Axis

@[simp]
theorem isMotion_receiveData (input : TxPdo) (axis : Axis) :
    (axis.receiveData input).isMotion = axis.isMotion := rfl

@[simp]
theorem isMotion_applyMode (mode : OperationMode) (axis : Axis) :
    (axis.applyMode mode).isMotion = axis.isMotion := by
  unfold applyMode
  split <;> rfl

@[simp]
theorem desiredEnable_applyMode (mode : OperationMode) (axis : Axis) :
    (axis.applyMode mode).fsm.desiredEnable = axis.fsm.desiredEnable := by
  unfold applyMode
  split
  · rfl
  · show axis.fsm.shutdownForModeChange.desiredEnable = axis.fsm.desiredEnable
    unfold EnableFsm.shutdownForModeChange
    split <;> rfl

end Axis

namespace BusSetup

theorem length_initialSlaves {bus : BusSetup} {configs : List MotorConfig}
    {registered : List SlaveOffsets} (hregistered : bus.initialSlaves configs = some registered) :
    registered.length = configs.length := by
  rw [initialSlaves] at hregistered
  rw [Servo.length_of_mapM hregistered, List.length_zipIdx]

theorem getElem?_initialSlaves {bus : BusSetup} {configs : List MotorConfig}
    {registered : List SlaveOffsets} (hregistered : bus.initialSlaves configs = some registered)
    {slave : Nat} {offsets : SlaveOffsets} (hoffsets : registered[slave]? = some offsets) :
    ∃ motor, configs[slave]? = some motor ∧
      bus.registerSlave slave (isSriM8126F32 motor) (bus.correctIdentity motor) =
        some offsets := by
  obtain ⟨entry, hentry, hslave⟩ := Servo.getElem?_of_mapM hregistered hoffsets
  rw [List.getElem?_zipIdx, Nat.zero_add, Option.map_eq_some_iff] at hentry
  obtain ⟨motor, hmotor, rfl⟩ := hentry
  exact ⟨motor, hmotor, hslave⟩

/-- An axis can get the offsets from the registration of the slave. -/
def Registers (bus : BusSetup) (slave : Nat) (config : MotorConfig) (offsets : PdoOffsets) : Prop :=
  ∃ useFloat registered,
    bus.registerSlave slave useFloat config = some registered ∧ registered.motor = offsets

end BusSetup

namespace Servo

/-- The axes of a new servo are its registered slaves, each with the identity that was read. -/
theorem initialAxes_eq_some {bus : BusSetup} {busCycleUs : UInt32} {configs : List MotorConfig}
    {axes : List Axis} (hinitial : initialAxes bus busCycleUs configs = some axes) :
    bus.configurePdoMapping (configs.map bus.correctIdentity) = true ∧
      ∃ registered, bus.initialSlaves configs = some registered ∧
        axes = List.zipWith freshAxis (configs.map bus.correctIdentity) registered := by
  unfold initialAxes at hinitial
  dsimp only at hinitial
  rw [Option.ite_none_right_eq_some, Bool.and_eq_true] at hinitial
  obtain ⟨⟨-, hmapping⟩, haxes⟩ := hinitial
  simp only [Option.bind_eq_bind, Option.bind_eq_some_iff, Option.ite_none_right_eq_some,
    Option.some.injEq] at haxes
  obtain ⟨registered, hregistered, -, rfl⟩ := haxes
  exact ⟨hmapping, registered, hregistered, rfl⟩

theorem length_initialAxes {bus : BusSetup} {busCycleUs : UInt32} {configs : List MotorConfig}
    {axes : List Axis} (hinitial : initialAxes bus busCycleUs configs = some axes) :
    axes.length = configs.length := by
  obtain ⟨-, registered, hregistered, rfl⟩ := initialAxes_eq_some hinitial
  rw [List.length_zipWith, List.length_map, BusSetup.length_initialSlaves hregistered, Nat.min_self]

theorem getElem?_initialAxes {bus : BusSetup} {busCycleUs : UInt32} {configs : List MotorConfig}
    {axes : List Axis} (hinitial : initialAxes bus busCycleUs configs = some axes) {slave : Nat}
    {axis : Axis} (haxis : axes[slave]? = some axis) :
    ∃ motor offsets, configs[slave]? = some motor ∧
      bus.registerSlave slave (BusSetup.isSriM8126F32 motor) (bus.correctIdentity motor) =
          some offsets ∧
        axis = freshAxis (bus.correctIdentity motor) offsets := by
  obtain ⟨-, registered, hregistered, rfl⟩ := initialAxes_eq_some hinitial
  rw [List.getElem?_zipWith_eq_some] at haxis
  obtain ⟨corrected, offsets, hcorrected, hoffsets, rfl⟩ := haxis
  obtain ⟨motor, hmotor, hslave⟩ := BusSetup.getElem?_initialSlaves hregistered hoffsets
  rw [List.getElem?_map, hmotor, Option.map_some, Option.some.injEq] at hcorrected
  exact ⟨motor, offsets, hmotor, hslave, by rw [hcorrected]⟩

/-- What an initialisation has stored when it comes to the bus. -/
def configured (busCycleUs cmdWatchdogMs : UInt32) (csvCmdWatchdog : Bool) (servo : Servo) : Servo :=
  { servo with
    cachedBusCycleUs := busCycleUs
    externalCmdWatchdogNs := cmdWatchdogMs.toNat * 1000000
    csvCmdWatchdog := csvCmdWatchdog }

theorem initializeServo_of_initialized (bus : BusSetup) (busCycleUs cmdWatchdogMs : UInt32)
    (csvCmdWatchdog : Bool) (configs : List MotorConfig) {servo : Servo}
    (hinitialized : servo.initialized = true) :
    servo.initializeServo bus busCycleUs cmdWatchdogMs csvCmdWatchdog configs = (servo, false) := by
  rw [initializeServo, hinitialized, Bool.true_or, if_pos rfl]

/-- All an initialisation does: it is refused, or fails at the bus, or gives a fresh servo its axes. -/
theorem initializeServo_cases (bus : BusSetup) (busCycleUs cmdWatchdogMs : UInt32)
    (csvCmdWatchdog : Bool) (configs : List MotorConfig) (servo : Servo) :
    servo.initializeServo bus busCycleUs cmdWatchdogMs csvCmdWatchdog configs = (servo, false) ∨
      (servo.initialized = false ∧
        (servo.initializeServo bus busCycleUs cmdWatchdogMs csvCmdWatchdog configs =
            (servo.configured busCycleUs cmdWatchdogMs csvCmdWatchdog, false) ∨
          ∃ axes, initialAxes bus busCycleUs configs = some axes ∧
            servo.initializeServo bus busCycleUs cmdWatchdogMs csvCmdWatchdog configs =
              ({ servo.configured busCycleUs cmdWatchdogMs csvCmdWatchdog with
                  initialized := true, axes := axes }, true))) := by
  unfold initializeServo
  split
  · exact Or.inl rfl
  · rename_i hguard
    have hfresh : servo.initialized = false := by
      rw [Bool.or_eq_true, not_or, Bool.not_eq_true] at hguard
      exact hguard.1
    refine Or.inr ⟨hfresh, ?_⟩
    dsimp only
    split
    · exact Or.inl rfl
    · split
      · rename_i axes haxes
        exact Or.inr ⟨axes, haxes, rfl⟩
      · exact Or.inl rfl

theorem initializeServo_axes (bus : BusSetup) (busCycleUs cmdWatchdogMs : UInt32)
    (csvCmdWatchdog : Bool) (configs : List MotorConfig) (servo : Servo) :
    (servo.initializeServo bus busCycleUs cmdWatchdogMs csvCmdWatchdog configs).1.axes =
        servo.axes ∨
      (servo.initialized = false ∧ initialAxes bus busCycleUs configs =
        some (servo.initializeServo bus busCycleUs cmdWatchdogMs csvCmdWatchdog configs).1.axes) := by
  rcases servo.initializeServo_cases bus busCycleUs cmdWatchdogMs csvCmdWatchdog configs with
    hrefused | ⟨hfresh, hfailed | ⟨axes, haxes, hdone⟩⟩
  · exact Or.inl (by rw [hrefused])
  · exact Or.inl (by rw [hfailed]; rfl)
  · exact Or.inr ⟨hfresh, by rw [hdone]; exact haxes⟩

/-- The motion axis at the index, if there is one, has the property. -/
def MotionAt (index : Nat) (property : Axis → Prop) (servo : Servo) : Prop :=
  ∀ axis, servo.axes[index]? = some axis → axis.isMotion = true → property axis

/-- An operation that maps the axis at the index carries a property along that the map carries. -/
theorem MotionAt.of_map {index : Nat} {property property' : Axis → Prop} {servo servo' : Servo}
    {update : Axis → Axis} (hproperty : servo.MotionAt index property)
    (hmap : servo'.axes[index]? = servo.axes[index]?.map update)
    (hmotion : ∀ axis, (update axis).isMotion = axis.isMotion)
    (hupdate : ∀ axis, servo.axes[index]? = some axis → axis.isMotion = true →
      property axis → property' (update axis)) :
    servo'.MotionAt index property' := by
  intro after hafter hafterMotion
  rw [hmap] at hafter
  obtain ⟨before, hbefore, rfl⟩ := Option.map_eq_some_iff.mp hafter
  rw [hmotion before] at hafterMotion
  exact hupdate before hbefore hafterMotion (hproperty before hbefore hafterMotion)

theorem MotionAt.imp {index : Nat} {property property' : Axis → Prop} {servo : Servo}
    (hproperty : servo.MotionAt index property) (himp : ∀ axis, property axis → property' axis) :
    servo.MotionAt index property' :=
  fun axis haxis hmotion => himp axis (hproperty axis haxis hmotion)

theorem MotionAt.and {index : Nat} {property property' : Axis → Prop} {servo : Servo}
    (hproperty : servo.MotionAt index property) (hproperty' : servo.MotionAt index property') :
    servo.MotionAt index fun axis => property axis ∧ property' axis :=
  fun axis haxis hmotion => ⟨hproperty axis haxis hmotion, hproperty' axis haxis hmotion⟩

@[simp]
theorem getElem?_updateMotion (servo : Servo) (update : Axis → Axis) (index : Nat) :
    (servo.updateMotion update).axes[index]? =
      servo.axes[index]?.map fun axis => if axis.isMotion then update axis else axis := by
  simp [updateMotion]

@[simp]
theorem getElem?_updateCovered (servo : Servo) (motorId : UInt8) (update : Axis → Axis)
    (index : Nat) :
    (servo.updateCovered motorId update).axes[index]? =
      servo.axes[index]?.map fun axis => if covers motorId index then update axis else axis := by
  simp [updateCovered]

@[simp]
theorem getElem?_updateAxis (servo : Servo) (motorId : UInt8) (update : Axis → Axis)
    (index : Nat) :
    (servo.updateAxis motorId update).axes[index]? =
      servo.axes[index]?.map fun axis => if motorId.toNat = index then update axis else axis := by
  rw [updateAxis, List.getElem?_modify]
  rfl

def startsEnable (flags : RuntimeFlags) (motorId : UInt8) (enable : Bool) (servo : Servo)
    (index : Nat) : Bool :=
  servo.activated &&
    !(enable && (flags.commFault || flags.safeOutputRequired || !flags.motionReenableAllowed)) &&
    !(enable && !servo.startupEvidencePassed) &&
    (if motorId == 0xFF then
      servo.axes.any fun axis => axis.isMotion && axis.fsm.desiredEnable != enable
    else
      motorId.toNat == index &&
        servo.axes[index]?.any fun axis => axis.fsm.desiredEnable != enable)

theorem getElem?_setEnable (flags : RuntimeFlags) (motorId : UInt8) (enable : Bool)
    (servo : Servo) (index : Nat) :
    (servo.setEnable flags motorId enable).1.axes[index]? =
      servo.axes[index]?.map fun axis =>
        if servo.startsEnable flags motorId enable index && axis.isMotion then
          axis.startEnable enable
        else axis := by
  unfold setEnable startsEnable
  by_cases hactivated : servo.activated = true
  swap
  · simp [hactivated]
  rw [hactivated]
  simp only [Bool.not_true, Bool.false_eq_true, if_false, Bool.true_and]
  by_cases hgates : (enable && (flags.commFault || flags.safeOutputRequired ||
      !flags.motionReenableAllowed)) = true
  · simp [hgates]
  rw [Bool.not_eq_true] at hgates
  simp only [hgates, Bool.false_eq_true, if_false, Bool.not_false, Bool.true_and]
  by_cases hevidence : (enable && !servo.startupEvidencePassed) = true
  · simp [hevidence]
  rw [Bool.not_eq_true] at hevidence
  simp only [hevidence, Bool.false_eq_true, if_false, Bool.not_false, Bool.true_and]
  by_cases hbroadcast : (motorId == 0xFF) = true
  · simp only [hbroadcast, if_true]
    by_cases hany : (servo.axes.any fun axis =>
        axis.isMotion && axis.fsm.desiredEnable != enable) = true
    · rw [if_pos hany, getElem?_updateMotion]
      simp [hany]
    · rw [if_neg hany]
      simp [hany]
  · rw [if_neg hbroadcast, if_neg hbroadcast]
    cases haddressed : servo.axes[motorId.toNat]? with
    | none =>
        by_cases hindex : motorId.toNat = index
        · subst hindex
          simp [haddressed]
        · simp [hindex]
    | some axis =>
        dsimp only
        by_cases hskip : (!axis.isMotion) = true ∨ axis.fsm.desiredEnable = enable
        · have hcond : (!axis.isMotion || decide (axis.fsm.desiredEnable = enable)) = true := by
            simpa using hskip
          rw [if_pos hcond]
          by_cases hindex : motorId.toNat = index
          · subst hindex
            rcases hskip with hmotion | hsame
            · simp_all
            · simp [haddressed, hsame]
          · simp [hindex]
        · have hcond : ¬ (!axis.isMotion || decide (axis.fsm.desiredEnable = enable)) = true := by
            simpa using hskip
          rw [if_neg hcond, getElem?_updateAxis]
          by_cases hindex : motorId.toNat = index
          · subst hindex
            simp only [not_or, Bool.not_eq_true, Bool.not_eq_false'] at hskip
            simp [haddressed, hskip]
          · simp [hindex]

theorem setEnable_of_refused (flags : RuntimeFlags) (motorId : UInt8) (enable : Bool)
    {servo : Servo} (hrefused : (servo.setEnable flags motorId enable).2 = false) :
    (servo.setEnable flags motorId enable).1 = servo := by
  unfold setEnable at hrefused ⊢
  revert hrefused
  split
  · exact fun _ => rfl
  · split
    · exact fun _ => rfl
    · split
      · exact fun _ => rfl
      · split
        · split <;> exact fun h => absurd h (by simp)
        · split
          · exact fun _ => rfl
          · split <;> exact fun h => absurd h (by simp)

theorem activated_of_setEnable {flags : RuntimeFlags} {motorId : UInt8} {enable : Bool}
    {servo : Servo} (haccepted : (servo.setEnable flags motorId enable).2 = true) :
    servo.activated = true := by
  unfold setEnable at haccepted
  split at haccepted
  · exact absurd haccepted (by simp)
  · simp_all

theorem covers_iff {motorId : UInt8} {index : Nat} :
    covers motorId index = true ↔ motorId = 0xFF ∨ motorId.toNat = index := by
  simp [covers]

theorem desiredEnable_of_accepted_disable {flags : RuntimeFlags} {motorId : UInt8} {index : Nat}
    {servo : Servo} {before after : Axis}
    (haccepted : (servo.setEnable flags motorId false).2 = true)
    (hcovers : covers motorId index = true) (hbefore : servo.axes[index]? = some before)
    (hafter : (servo.setEnable flags motorId false).1.axes[index]? = some after)
    (hmotion : before.isMotion = true) : after.fsm.desiredEnable = false := by
  rw [getElem?_setEnable, hbefore, Option.map_some, Option.some.injEq] at hafter
  subst hafter
  by_cases hstarts : servo.startsEnable flags motorId false index = true
  · simp [hstarts, hmotion, Axis.startEnable, EnableFsm.startEnable]
  · rw [Bool.not_eq_true] at hstarts
    simp only [hstarts, Bool.false_and, Bool.false_eq_true, if_false]
    -- a call that stores nothing for a covered axis found nothing to change
    have hactivated := activated_of_setEnable haccepted
    simp only [startsEnable, hactivated, Bool.false_and, Bool.not_false, Bool.true_and] at hstarts
    by_cases hbroadcast : (motorId == 0xFF) = true
    · rw [if_pos hbroadcast] at hstarts
      have hnone := List.any_eq_false.mp hstarts before (List.mem_of_getElem? hbefore)
      simpa [hmotion] using hnone
    · rw [if_neg hbroadcast] at hstarts
      have hindex : motorId.toNat = index := by
        rcases covers_iff.mp hcovers with hall | hindex
        · exact absurd (by simp [hall]) hbroadcast
        · exact hindex
      simpa [hindex, hbefore] using hstarts

theorem getElem?_setOperationMode (motorId : UInt8) (mode : OperationMode) (servo : Servo)
    (index : Nat) :
    (servo.setOperationMode motorId mode).1.axes[index]? =
      servo.axes[index]?.map fun axis =>
        if covers motorId index then axis.applyMode mode else axis := by
  -- where the call returns early, the axes it covers are already in the mode
  have hsame : ∀ axis : Axis, servo.axes[index]? = some axis → servo.inMode motorId mode = true →
      covers motorId index = true → axis.applyMode mode = axis := by
    intro axis haxis hmode hcovers
    suffices h : (!axis.isMotion || axis.mode = mode) = true by simp [Axis.applyMode, h]
    rcases covers_iff.mp hcovers with hall | hindex
    · subst hall
      have hmem := List.mem_of_getElem? haxis
      simp only [inMode, beq_self_eq_true, if_true, List.all_eq_true] at hmode
      simpa using hmode axis hmem
    · by_cases hbroadcast : (motorId == 0xFF) = true
      · have hmem := List.mem_of_getElem? haxis
        simp only [inMode, hbroadcast, if_true, List.all_eq_true] at hmode
        simpa using hmode axis hmem
      · rw [inMode, if_neg hbroadcast, hindex, haxis] at hmode
        simp only [decide_eq_true_eq] at hmode
        simp [hmode]
  unfold setOperationMode
  by_cases hmode : servo.inMode motorId mode = true
  · rw [if_pos hmode]
    cases haxis : servo.axes[index]? with
    | none => rfl
    | some axis =>
        by_cases hcovers : covers motorId index = true
        · simp [hcovers, hsame axis haxis hmode hcovers]
        · simp [hcovers]
  · rw [if_neg hmode]
    split
    · exact getElem?_updateCovered servo motorId _ index
    · rename_i hbound
      cases haxis : servo.axes[index]? with
      | none => simp
      | some axis =>
          have hlt := (List.getElem?_eq_some_iff.mp haxis).1
          have hcovers : covers motorId index = false := by
            rw [← Bool.not_eq_true, covers_iff]
            rintro (rfl | rfl)
            · simp at hbound
            · simp [motorCount, hlt] at hbound
          simp [hcovers]

theorem getElem?_receiveData (inputs : Nat → TxPdo) (servo : Servo) (index : Nat) :
    (servo.receiveData inputs).axes[index]? =
      servo.axes[index]?.map fun axis =>
        if servo.ready && axis.isMotion then
          axis.receiveData (inputs index)
        else axis := by
  unfold receiveData
  split
  · rename_i h
    simp [h]
  · rename_i h
    simp [h]

theorem getElem?_sendData (domain : DomainState) (servo : Servo) (index : Nat) :
    (servo.sendData domain).axes[index]? =
      servo.axes[index]?.map fun axis =>
        if servo.ready && axis.isMotion then
          axis.sendData true (domain.wcState == .complete)
        else axis := by
  unfold sendData
  split
  · rename_i h
    have hactivated : servo.activated = true := by
      rw [ready, Bool.and_eq_true] at h
      exact h.2
    rw [getElem?_updateMotion, hactivated]
    simp [h]
  · rename_i h
    simp [h]

theorem getElem?_applySafe (servo : Servo) (index : Nat) :
    servo.applySafeProcessImageOutputs.axes[index]? =
      servo.axes[index]?.map fun axis =>
        if servo.ready && axis.isMotion then
          axis.applySafe (!servo.safeOutputActive) (servo.getPosition (index % 256))
            (servo.safeControlWord index axis)
        else axis := by
  unfold applySafeProcessImageOutputs
  split
  · rename_i h
    simp [h]
  · rename_i h
    simp [h]

@[simp]
theorem initialized_receiveData (inputs : Nat → TxPdo) (servo : Servo) :
    (servo.receiveData inputs).initialized = servo.initialized := by
  unfold receiveData
  split <;> rfl

@[simp]
theorem activated_receiveData (inputs : Nat → TxPdo) (servo : Servo) :
    (servo.receiveData inputs).activated = servo.activated := by
  unfold receiveData
  split <;> rfl

@[simp]
theorem ready_receiveData (inputs : Nat → TxPdo) (servo : Servo) :
    (servo.receiveData inputs).ready = servo.ready := by
  simp [ready]

theorem getElem?_sendCycle (inputs : Nat → TxPdo) (domain : DomainState) (servo : Servo)
    (index : Nat) :
    ((servo.receiveData inputs).sendData domain).axes[index]? =
      servo.axes[index]?.map fun axis =>
        if servo.ready && axis.isMotion then
          (axis.receiveData (inputs index)).sendData true (domain.wcState == .complete)
        else axis := by
  rw [getElem?_sendData, getElem?_receiveData, Option.map_map, ready_receiveData]
  congr 1
  funext axis
  simp only [Function.comp_apply]
  by_cases hready : (servo.ready && axis.isMotion) = true
  · rw [if_pos hready, Axis.isMotion_receiveData, if_pos hready, if_pos hready]
  · rw [if_neg hready, if_neg hready, if_neg hready]

/-! ### Carrying a property of the axis at an index -/

variable {index : Nat} {property : Axis → Prop} {servo : Servo}

theorem MotionAt.setEnable {flags : RuntimeFlags} {motorId : UInt8} {enable : Bool}
    (hproperty : servo.MotionAt index property)
    (hstart : ∀ axis, servo.axes[index]? = some axis → axis.isMotion = true →
      servo.startsEnable flags motorId enable index = true → property axis →
      property (axis.startEnable enable)) :
    (servo.setEnable flags motorId enable).1.MotionAt index property := by
  refine hproperty.of_map (getElem?_setEnable flags motorId enable servo index)
    (fun axis => by split <;> rfl) fun axis haxis hmotion haxisProperty => ?_
  split
  · rename_i hstarts
    rw [Bool.and_eq_true] at hstarts
    exact hstart axis haxis hmotion hstarts.1 haxisProperty
  · exact haxisProperty

theorem MotionAt.setOperationMode {motorId : UInt8} {mode : OperationMode}
    (hproperty : servo.MotionAt index property)
    (hmode : ∀ axis, servo.axes[index]? = some axis → axis.isMotion = true →
      covers motorId index = true → property axis → property (axis.applyMode mode)) :
    (servo.setOperationMode motorId mode).1.MotionAt index property := by
  refine hproperty.of_map (getElem?_setOperationMode motorId mode servo index)
    (fun axis => by split <;> simp) fun axis haxis hmotion haxisProperty => ?_
  split
  · rename_i hcovers
    exact hmode axis haxis hmotion hcovers haxisProperty
  · exact haxisProperty

theorem MotionAt.receiveData (inputs : Nat → TxPdo) (hproperty : servo.MotionAt index property)
    (hreceive : ∀ axis, property axis → property (axis.receiveData (inputs index))) :
    (servo.receiveData inputs).MotionAt index property := by
  refine hproperty.of_map (getElem?_receiveData inputs servo index)
    (fun axis => by split <;> rfl) fun axis _ _ haxisProperty => ?_
  split
  · exact hreceive axis haxisProperty
  · exact haxisProperty

theorem MotionAt.sendData {domain : DomainState} (hproperty : servo.MotionAt index property)
    (hsend : ∀ axis, axis.isMotion = true → property axis →
      property (axis.sendData true (domain.wcState == .complete))) :
    (servo.sendData domain).MotionAt index property := by
  refine hproperty.of_map (getElem?_sendData domain servo index)
    (fun axis => by split <;> rfl) fun axis _ hmotion haxisProperty => ?_
  split
  · exact hsend axis hmotion haxisProperty
  · exact haxisProperty

theorem MotionAt.applySafe (hproperty : servo.MotionAt index property)
    (hsafe : ∀ axis, servo.axes[index]? = some axis → axis.isMotion = true → property axis →
      property (axis.applySafe (!servo.safeOutputActive) (servo.getPosition (index % 256))
        (servo.safeControlWord index axis))) :
    servo.applySafeProcessImageOutputs.MotionAt index property := by
  refine hproperty.of_map (getElem?_applySafe servo index)
    (fun axis => by split <;> rfl) fun axis haxis hmotion haxisProperty => ?_
  split
  · exact hsafe axis haxis hmotion haxisProperty
  · exact haxisProperty

theorem MotionAt.activate {input : ActivateInput} (hproperty : servo.MotionAt index property)
    (hactivate : ∀ axis, property axis → property (activateAxis axis)) :
    (servo.activate input).1.MotionAt index property := by
  unfold Servo.activate
  split
  · exact hproperty
  · split
    · exact hproperty
    · split
      · exact hproperty
      · refine hproperty.of_map (List.getElem?_map) (fun _ => rfl) fun axis _ _ haxisProperty =>
          hactivate axis haxisProperty

/-- A property of every axis that is newly made holds after an initialisation of a servo whose
axes all have it. -/
theorem MotionAt.initializeServo {bus : BusSetup} {busCycleUs cmdWatchdogMs : UInt32}
    {csvCmdWatchdog : Bool} {configs : List MotorConfig} (hproperty : servo.MotionAt index property)
    (hnew : ∀ slave config offsets, bus.Registers slave config offsets →
      property { config := config, offsets := offsets,
                 faultResetCw := config.faultResetControlWord }) :
    (servo.initializeServo bus busCycleUs cmdWatchdogMs csvCmdWatchdog configs).1.MotionAt index
      property := by
  intro axis haxis hmotion
  rcases initializeServo_axes bus busCycleUs cmdWatchdogMs csvCmdWatchdog configs servo with
    hsame | ⟨-, hinitial⟩
  · rw [hsame] at haxis
    exact hproperty axis haxis hmotion
  · obtain ⟨motor, offsets, -, hslave, rfl⟩ := getElem?_initialAxes hinitial haxis
    exact hnew index (bus.correctIdentity motor) offsets.motor ⟨_, offsets, hslave, rfl⟩

/-- The output words of a safe cycle are Shutdown and the fault reset word of the axis. -/
theorem safeControlWord_cases (servo : Servo) (index : Nat) (axis : Axis) :
    servo.safeControlWord index axis = controlWordSwitchOn ∨
      (0 < servo.explicitFaultResetCycles ∧
        resetAxisSelected servo.explicitFaultResetAxis index = true ∧
        servo.safeControlWord index axis = axis.faultResetCw.value) := by
  unfold safeControlWord Axis.selectSafeControlWord
  split
  · rename_i hselected
    rw [Bool.and_eq_true, decide_eq_true_eq] at hselected
    exact Or.inr ⟨hselected.1, hselected.2, rfl⟩
  · exact Or.inl rfl

theorem driveLevel_safeControlWord (servo : Servo) (index : Nat) (axis : Axis) :
    driveLevel (servo.safeControlWord index axis) = 0 := by
  rcases servo.safeControlWord_cases index axis with hword | ⟨-, -, hword⟩
  · rw [hword]
    rfl
  · rw [hword]
    exact axis.faultResetCw.driveLevel_value

end IghMaster.Servo
