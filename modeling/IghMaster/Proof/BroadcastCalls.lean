import IghMaster.BackendHistory
import IghMaster.Proof.BackendAxes

/-!
# A call to all axes and the calls to each

`setEnable` compares the demand of an axis with its own argument when the call names one axis, and
once for all axes when it names all of them. Where some axis is demanded otherwise, the call to all of
them also starts the sequence anew of those that were demanded so before; `setOperationMode` skips
these one by one in either case.
-/

namespace IghMaster

open Transition

namespace Servo

/-- `setEnable` for every axis in order. -/
def setEnableEach (flags : RuntimeFlags) (enable : Bool) (servo : Servo) : Servo :=
  (List.range servo.motorCount).foldl
    (fun servo index => (servo.setEnable flags index.toUInt8 enable).1) servo

def isMotionAt (servo : Servo) (index : Nat) : Bool := servo.axes[index]?.any Axis.isMotion

/-- `setOperationMode` for every motion axis in order. -/
def setOperationModeEach (mode : OperationMode) (servo : Servo) : Servo :=
  ((List.range servo.motorCount).filter servo.isMotionAt).foldl
    (fun servo index => (servo.setOperationMode index.toUInt8 mode).1) servo

/-- The calls to all axes leave the servo as the calls to each do. -/
def BroadcastAgrees (flags : RuntimeFlags) (enable : Bool) (servo : Servo) : Prop :=
  (servo.setEnable flags 0xFF enable).1 = servo.setEnableEach flags enable ∧
    ∀ mode, (servo.setOperationMode 0xFF mode).1 = servo.setOperationModeEach mode

def enableGate (flags : RuntimeFlags) (enable : Bool) (servo : Servo) : Bool :=
  servo.activated &&
    !(enable && (flags.commFault || flags.safeOutputRequired || !flags.motionReenableAllowed)) &&
    !(enable && !servo.startupEvidencePassed)

end Servo

namespace EnableFsm

/-- The sequence was just started, so that starting it anew changes nothing. -/
def justStarted (fsm : EnableFsm) : Bool := fsm.active && fsm.step == 0 && fsm.wait == 0

theorem startEnable_eq_self_iff {fsm : EnableFsm} {enable : Bool}
    (hdesired : fsm.desiredEnable = enable) :
    fsm.startEnable enable = fsm ↔ fsm.justStarted = true := by
  simp only [startEnable, justStarted, Bool.and_eq_true, beq_iff_eq]
  constructor
  · intro hsame
    have hactive := congrArg active hsame
    have hstep := congrArg step hsame
    have hwait := congrArg wait hsame
    exact ⟨⟨hactive.symm, hstep.symm⟩, hwait.symm⟩
  · rintro ⟨⟨hactive, hstep⟩, hwait⟩
    cases fsm
    dsimp only at hdesired hactive hstep hwait
    rw [hdesired, hactive, hstep, hwait]

end EnableFsm

namespace Axis

/-- The axis is a motion axis whose demand the call would change. -/
def changesDemand (enable : Bool) (axis : Axis) : Bool :=
  axis.isMotion && axis.fsm.desiredEnable != enable

/-- What a `setEnable` for one axis does to it. -/
def demandEnable (gate enable : Bool) (axis : Axis) : Axis :=
  if gate && axis.changesDemand enable then axis.startEnable enable else axis

/-- Starting the sequence of the axis anew changes it only if its demand changes. -/
def startsNoneAnew (enable : Bool) (axis : Axis) : Bool :=
  !axis.isMotion || axis.fsm.desiredEnable != enable || axis.fsm.justStarted

end Axis

namespace Servo

/-- A call to all axes that passes its gates and changes the demand of some axis meets no other axis
whose sequence has begun. -/
def broadcastStartsNoneAnew (flags : RuntimeFlags) (enable : Bool) (servo : Servo) : Bool :=
  !servo.enableGate flags enable || !servo.axes.any (Axis.changesDemand enable) ||
    servo.axes.all (Axis.startsNoneAnew enable)

theorem eq_of_bare {servo servo' : Servo} (hbare : servo.bare = servo'.bare)
    (haxes : ∀ index : Nat, servo.axes[index]? = servo'.axes[index]?) : servo = servo' := by
  have hlist : servo.axes = servo'.axes := List.ext_getElem? haxes
  calc servo = { servo.bare with axes := servo.axes } := rfl
    _ = { servo'.bare with axes := servo'.axes } := by rw [hbare, hlist]
    _ = servo' := rfl

/-- Calls that act on one axis each, one after the other, act on all the axes named. -/
theorem getElem?_foldl {call : Servo → Nat → Servo} {update : Axis → Axis} {base : Servo}
    (hbare : ∀ (servo : Servo) index, servo.bare = base → (call servo index).bare = base)
    (hcall : ∀ (servo : Servo) index, servo.bare = base → index < 255 → ∀ other,
      (call servo index).axes[other]? =
        servo.axes[other]?.map fun axis => if index = other then update axis else axis)
    {indices : List Nat} (hnodup : indices.Nodup) (hlt : ∀ index ∈ indices, index < 255)
    {servo : Servo} (hservo : servo.bare = base) :
    (indices.foldl call servo).bare = base ∧
      ∀ other, (indices.foldl call servo).axes[other]? =
        servo.axes[other]?.map fun axis => if other ∈ indices then update axis else axis := by
  induction indices generalizing servo with
  | nil => exact ⟨hservo, fun other => by simp⟩
  | cons index indices ih =>
      obtain ⟨hfresh, hrest⟩ := List.nodup_cons.mp hnodup
      have hfirst := hcall servo index hservo (hlt index (by simp))
      obtain ⟨hafter, haxes⟩ := ih hrest (fun other hmem => hlt other (by simp [hmem]))
        (hbare servo index hservo)
      refine ⟨hafter, fun other => ?_⟩
      rw [List.foldl_cons, haxes, hfirst, Option.map_map]
      congr 1
      funext axis
      by_cases hindex : index = other
      · subst hindex
        simp [hfresh]
      · have hne : other ≠ index := fun h => hindex h.symm
        simp [hindex, hne]

/-! ### Enabling -/

theorem toNat_toUInt8_of_lt {index : Nat} (hlt : index < 255) : index.toUInt8.toNat = index := by
  simp only [Nat.toUInt8, UInt8.toNat_ofNat']
  omega

theorem toUInt8_ne_broadcast {index : Nat} (hlt : index < 255) : index.toUInt8 ≠ 0xFF := by
  intro h
  have hnat := congrArg UInt8.toNat h
  rw [toNat_toUInt8_of_lt hlt] at hnat
  exact absurd hnat (Nat.ne_of_lt hlt)

theorem enableGate_of_bare {flags : RuntimeFlags} {enable : Bool} {servo servo' : Servo}
    (hbare : servo'.bare = servo.bare) :
    servo'.enableGate flags enable = servo.enableGate flags enable :=
  field_of_bare (enableGate flags enable) (fun _ => rfl) hbare

theorem startsEnable_one (flags : RuntimeFlags) (enable : Bool) (servo : Servo) {index : Nat}
    (hlt : index < 255) (other : Nat) :
    servo.startsEnable flags index.toUInt8 enable other =
      (servo.enableGate flags enable &&
        (index == other && servo.axes[other]?.any fun axis =>
          axis.fsm.desiredEnable != enable)) := by
  have hone : (index.toUInt8 == 0xFF) = false := by
    rw [beq_eq_false_iff_ne]
    exact toUInt8_ne_broadcast hlt
  unfold startsEnable
  rw [hone, toNat_toUInt8_of_lt hlt]
  rfl

theorem getElem?_setEnable_one (flags : RuntimeFlags) (enable : Bool) (servo : Servo) {index : Nat}
    (hlt : index < 255) (other : Nat) :
    (servo.setEnable flags index.toUInt8 enable).1.axes[other]? =
      servo.axes[other]?.map fun axis =>
        if index = other then axis.demandEnable (servo.enableGate flags enable) enable
        else axis := by
  rw [getElem?_setEnable, startsEnable_one flags enable servo hlt]
  cases haxis : servo.axes[other]? with
  | none => rfl
  | some axis =>
      rw [Option.map_some, Option.map_some, Option.any_some]
      by_cases hindex : index = other
      · simp only [hindex, beq_self_eq_true, Bool.true_and, if_true, Axis.demandEnable,
          Axis.changesDemand]
        congr 2
        rw [Bool.and_assoc, Bool.and_comm (axis.fsm.desiredEnable != enable)]
      · simp [hindex]

theorem bare_setEnable (flags : RuntimeFlags) (motorId : UInt8) (enable : Bool) (servo : Servo) :
    (servo.setEnable flags motorId enable).1.bare = servo.bare :=
  bare_perform flags servo (.setEnable motorId enable)

theorem bare_setOperationMode (motorId : UInt8) (mode : OperationMode) (servo : Servo) :
    (servo.setOperationMode motorId mode).1.bare = servo.bare :=
  bare_perform
    { jobThreadRunning := false, commFault := false, safeOutputRequired := false
      motionReenableAllowed := false } servo (.setOperationMode motorId mode)

theorem setEnableEach_spec (flags : RuntimeFlags) (enable : Bool) {servo : Servo}
    (hcount : servo.motorCount < 255) :
    (servo.setEnableEach flags enable).bare = servo.bare ∧
      ∀ index : Nat, (servo.setEnableEach flags enable).axes[index]? =
        servo.axes[index]?.map (Axis.demandEnable (servo.enableGate flags enable) enable) := by
  have hcall : ∀ (before : Servo) index, before.bare = servo.bare → index < 255 → ∀ other,
      (before.setEnable flags index.toUInt8 enable).1.axes[other]? =
        before.axes[other]?.map fun axis =>
          if index = other then axis.demandEnable (servo.enableGate flags enable) enable
          else axis := by
    intro before index hbefore hlt other
    rw [getElem?_setEnable_one flags enable before hlt, enableGate_of_bare hbefore]
  have hbare : ∀ (before : Servo) (index : Nat), before.bare = servo.bare →
      (before.setEnable flags index.toUInt8 enable).1.bare = servo.bare :=
    fun before index hbefore => (bare_setEnable flags _ enable before).trans hbefore
  have hlt : ∀ index ∈ List.range servo.motorCount, index < 255 :=
    fun index hmem => Nat.lt_trans (List.mem_range.mp hmem) hcount
  obtain ⟨hafter, haxes⟩ := getElem?_foldl hbare hcall List.nodup_range hlt rfl
  refine ⟨hafter, fun index => ?_⟩
  rw [setEnableEach, haxes]
  cases haxis : servo.axes[index]? with
  | none => rfl
  | some axis =>
      have hindex : index < servo.motorCount := (List.getElem?_eq_some_iff.mp haxis).1
      rw [Option.map_some, Option.map_some, if_pos (List.mem_range.mpr hindex)]

theorem getElem?_setEnable_broadcast (flags : RuntimeFlags) (enable : Bool) (servo : Servo)
    (index : Nat) :
    (servo.setEnable flags 0xFF enable).1.axes[index]? =
      servo.axes[index]?.map fun axis =>
        if (servo.enableGate flags enable && servo.axes.any (Axis.changesDemand enable)) &&
            axis.isMotion then axis.startEnable enable
        else axis := by
  rw [getElem?_setEnable]
  rfl

/-- What a call to all axes does beyond the calls to each: it starts anew. -/
theorem broadcastAxis_eq_iff {enable : Bool} {axis : Axis} :
    (if axis.isMotion then axis.startEnable enable else axis) = axis.demandEnable true enable ↔
      axis.startsNoneAnew enable = true := by
  unfold Axis.demandEnable Axis.changesDemand Axis.startsNoneAnew
  by_cases hmotion : axis.isMotion = true
  swap
  · simp [hmotion]
  by_cases hdesired : axis.fsm.desiredEnable = enable
  swap
  · simp [hmotion, hdesired]
  have hfsm : axis.startEnable enable = axis ↔ axis.fsm.startEnable enable = axis.fsm := by
    constructor
    · exact fun h => congrArg Axis.fsm h
    · intro h
      calc axis.startEnable enable = { axis with fsm := axis.fsm.startEnable enable } := rfl
        _ = axis := by rw [h]
  simp only [hmotion, hdesired, bne_self_eq_false, Bool.and_false, Bool.false_eq_true, if_true,
    if_false, Bool.not_true, Bool.false_or]
  rw [hfsm, EnableFsm.startEnable_eq_self_iff hdesired]

theorem setEnable_broadcast_eq_each_iff (flags : RuntimeFlags) (enable : Bool) {servo : Servo}
    (hcount : servo.motorCount < 255) :
    (servo.setEnable flags 0xFF enable).1 = servo.setEnableEach flags enable ↔
      servo.broadcastStartsNoneAnew flags enable = true := by
  obtain ⟨hbare, haxes⟩ := setEnableEach_spec flags enable hcount
  have hbareBroadcast := bare_setEnable flags 0xFF enable servo
  have hall : (servo.setEnable flags 0xFF enable).1 = servo.setEnableEach flags enable ↔
      ∀ axis ∈ servo.axes,
        (if (servo.enableGate flags enable && servo.axes.any (Axis.changesDemand enable)) &&
            axis.isMotion then axis.startEnable enable
          else axis) = axis.demandEnable (servo.enableGate flags enable) enable := by
    constructor
    · intro hsame axis hmem
      obtain ⟨index, hindex⟩ := List.mem_iff_getElem?.mp hmem
      have hat : (servo.setEnable flags 0xFF enable).1.axes[index]? =
          (servo.setEnableEach flags enable).axes[index]? := by rw [hsame]
      rw [getElem?_setEnable_broadcast, haxes, hindex] at hat
      exact Option.some.inj hat
    · intro hsame
      refine eq_of_bare (hbareBroadcast.trans hbare.symm) fun index => ?_
      rw [getElem?_setEnable_broadcast, haxes]
      cases haxis : servo.axes[index]? with
      | none => rfl
      | some axis =>
          rw [Option.map_some, Option.map_some, hsame axis (List.mem_of_getElem? haxis)]
  rw [hall]
  unfold broadcastStartsNoneAnew
  by_cases hgate : servo.enableGate flags enable = true
  swap
  · simp [hgate, Axis.demandEnable]
  by_cases hany : servo.axes.any (Axis.changesDemand enable) = true
  · simp only [hgate, hany, Bool.true_and, Bool.not_true, Bool.false_or, List.all_eq_true]
    exact forall₂_congr fun axis _ => broadcastAxis_eq_iff
  · have hnone : ∀ axis ∈ servo.axes, axis.changesDemand enable = false := by
      simpa using hany
    simp only [hany, Bool.and_false, Bool.false_and, Bool.not_false, Bool.or_true, Bool.true_or,
      iff_true, Bool.false_eq_true, if_false] at hany ⊢
    intro axis hmem
    rw [Axis.demandEnable, hnone axis hmem, Bool.and_false, if_neg Bool.false_ne_true]

/-! ### Changing the mode -/

theorem getElem?_setOperationMode_one (mode : OperationMode) (servo : Servo) {index : Nat}
    (hlt : index < 255) (other : Nat) :
    (servo.setOperationMode index.toUInt8 mode).1.axes[other]? =
      servo.axes[other]?.map fun axis => if index = other then axis.applyMode mode else axis := by
  have hcovers : covers index.toUInt8 other = (index == other) := by
    have hone : (index.toUInt8 == 0xFF) = false := by
      rw [beq_eq_false_iff_ne]
      exact toUInt8_ne_broadcast hlt
    rw [covers, hone, toNat_toUInt8_of_lt hlt, Bool.false_or]
  rw [getElem?_setOperationMode, hcovers]
  simp only [beq_iff_eq]

theorem setOperationMode_broadcast_eq_each (mode : OperationMode) {servo : Servo}
    (hcount : servo.motorCount < 255) :
    (servo.setOperationMode 0xFF mode).1 = servo.setOperationModeEach mode := by
  have hcall : ∀ (before : Servo) index, before.bare = servo.bare → index < 255 → ∀ other,
      (before.setOperationMode index.toUInt8 mode).1.axes[other]? =
        before.axes[other]?.map fun axis =>
          if index = other then axis.applyMode mode else axis :=
    fun before index _ hlt => getElem?_setOperationMode_one mode before hlt
  have hbare : ∀ (before : Servo) (index : Nat), before.bare = servo.bare →
      (before.setOperationMode index.toUInt8 mode).1.bare = servo.bare :=
    fun before index hbefore => (bare_setOperationMode _ mode before).trans hbefore
  have hlt : ∀ index ∈ (List.range servo.motorCount).filter servo.isMotionAt, index < 255 :=
    fun index hmem => Nat.lt_trans (List.mem_range.mp (List.mem_filter.mp hmem).1) hcount
  obtain ⟨hafter, haxes⟩ := getElem?_foldl hbare hcall (List.nodup_range.filter _) hlt rfl
  refine eq_of_bare ((bare_setOperationMode 0xFF mode servo).trans hafter.symm) fun index => ?_
  rw [getElem?_setOperationMode, setOperationModeEach, haxes]
  cases haxis : servo.axes[index]? with
  | none => rfl
  | some axis =>
      have hindex : index < servo.motorCount := (List.getElem?_eq_some_iff.mp haxis).1
      rw [Option.map_some, Option.map_some, if_pos (by rfl)]
      by_cases hmotion : axis.isMotion = true
      · have hmem : index ∈ (List.range servo.motorCount).filter servo.isMotionAt := by
          simp [hindex, isMotionAt, haxis, hmotion]
        rw [if_pos hmem]
      · have hnotMem : index ∉ (List.range servo.motorCount).filter servo.isMotionAt := by
          simp [isMotionAt, haxis, hmotion]
        rw [if_neg hnotMem, Axis.applyMode, if_pos (by simp [hmotion])]

/-- The calls to all axes leave every servo with fewer than 255 motors as the calls to each do, just
where none of its sequences is started anew. -/
theorem broadcastAgrees_iff (flags : RuntimeFlags) (enable : Bool) (servo : Servo)
    (hcount : servo.motorCount < 255) :
    servo.BroadcastAgrees flags enable ↔ servo.broadcastStartsNoneAnew flags enable = true := by
  rw [← setEnable_broadcast_eq_each_iff flags enable hcount]
  exact ⟨fun hagrees => hagrees.1, fun hsame =>
    ⟨hsame, fun mode => setOperationMode_broadcast_eq_each mode hcount⟩⟩

end Servo

namespace Backend

def twoReleased : List BackendAction :=
  [.initializeServo singleAxisBus {} [nh17Config, { nh17Config with position := 1 }],
    .bringUp singleAxisBringUp, .clearCommFault, healthyJob 0, .releaseSafeOutput]

/-- Both drives are enabled at once. -/
theorem broadcastAgrees_twoReleased :
    let backend := (machine.exec (Config.start {}) twoReleased).state
    backend.servo.motorCount < 255 ∧ backend.servo.BroadcastAgrees backend.flags true := by
  intro backend
  have hcount : backend.servo.motorCount < 255 := by decide +kernel
  exact ⟨hcount, (backend.servo.broadcastAgrees_iff backend.flags true hcount).mpr
    (by decide +kernel)⟩

def firstOfTwoEnabled : List BackendAction :=
  twoReleased ++ [.call (.setEnable 0 true), healthyJob 0]

/-- Enabling all drives takes the first one back to the beginning of its sequence. -/
theorem not_broadcastAgrees :
    let backend := (machine.exec (Config.start {}) firstOfTwoEnabled).state
    backend.servo.motorCount < 255 ∧ ¬ backend.servo.BroadcastAgrees backend.flags true := by
  refine ⟨by decide +kernel, fun hagrees => ?_⟩
  exact absurd hagrees.1 (by decide +kernel)

end Backend

end IghMaster
