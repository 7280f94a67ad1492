import IghMaster.JointCommands
import IghMaster.Proof.DwellRuns
import IghMaster.Proof.UnitConversion

/-!
# Commands that fit

Where every conversion of a call has a value, the call is one with raw values. That is a matter of how far
the commands reach: positions and velocities are not limited before they are converted.
-/

namespace IghMaster

open Rounding

namespace MotorKinematicsParams

/-- Parameters with which the factors of a conversion are positive. -/
structure Convertible (params : MotorKinematicsParams) : Prop where
  encoderFactor : 0 < params.encoderFactor
  velocityEncoderFactor : 0 < params.velocityEncoderFactor
  jointDirection : params.jointDirection ≠ 0

variable {params : MotorKinematicsParams}

theorem Geared.convertible (hgeared : params.Geared) : params.Convertible where
  encoderFactor := hgeared.encoderFactor_pos
  velocityEncoderFactor := hgeared.velocityEncoderFactor_pos
  jointDirection := hgeared.jointDirection

end MotorKinematicsParams

/-- A range of values that a conversion can have, down to a negative one. -/
theorem exists_toInt32_ge_iff (number : Rat) {low : Int} (hrange : -2 ^ 31 ≤ low) (hlow : low ≤ 0) :
    (∃ pulse, toInt32 number = some pulse ∧ low ≤ pulse.toInt) ↔
      (low : Rat) - 1 < number ∧ number < 2 ^ 31 := by
  have hvalues : (∃ pulse, toInt32 number = some pulse ∧ low ≤ pulse.toInt) ↔
      low ≤ truncate number ∧ truncate number < 2 ^ 31 := by
    constructor
    · rintro ⟨pulse, hpulse, hge⟩
      rw [toInt32_eq_some_iff.mp hpulse]
      exact ⟨hge, pulse.toInt_lt⟩
    · rintro ⟨hge, hlt⟩
      have hpulse := Int32.toInt_ofInt_of_le (hrange.trans hge) hlt
      refine ⟨Int32.ofInt (truncate number), toInt32_eq_some_iff.mpr hpulse.symm, ?_⟩
      rw [hpulse]
      exact hge
  rw [hvalues, le_truncate_iff hlow, truncate_lt_iff (by decide)]
  push_cast
  exact Iff.rfl

theorem exists_toInt32_eq_some_iff (number : Rat) :
    (∃ pulse, toInt32 number = some pulse) ↔
      |number| < if number < 0 then 2 ^ 31 + 1 else 2 ^ 31 := by
  have hrange := exists_toInt32_ge_iff number (le_refl (-2 ^ 31)) (by decide)
  have hall : (∃ pulse, toInt32 number = some pulse) ↔
      ∃ pulse, toInt32 number = some pulse ∧ -2 ^ 31 ≤ pulse.toInt :=
    exists_congr fun pulse => (and_iff_left pulse.le_toInt).symm
  rw [hall, hrange]
  push_cast
  split
  · rename_i hneg
    rw [abs_of_neg hneg]
    constructor
    · exact fun h => by linarith [h.1]
    · exact fun h => ⟨by linarith, by linarith⟩
  · rename_i hnonneg
    rw [abs_of_nonneg (not_lt.mp hnonneg)]
    constructor
    · exact fun h => h.2
    · exact fun h => ⟨by linarith [not_lt.mp hnonneg], h⟩

theorem exists_toInt32_ne_minValue_iff (number : Rat) :
    (∃ pulse, toInt32 number = some pulse ∧ pulse ≠ Int32.minValue) ↔ |number| < 2 ^ 31 := by
  have hrange := exists_toInt32_ge_iff number (by decide : -2 ^ 31 ≤ (-2 ^ 31 + 1 : Int)) (by decide)
  have habove : (∃ pulse, toInt32 number = some pulse ∧ pulse ≠ Int32.minValue) ↔
      ∃ pulse, toInt32 number = some pulse ∧ -2 ^ 31 + 1 ≤ pulse.toInt := by
    refine exists_congr fun pulse => and_congr_right fun _ => ?_
    have hmin : pulse = Int32.minValue ↔ pulse.toInt = -2 ^ 31 := Int32.toInt_inj.symm
    have hlow := pulse.le_toInt
    rw [Ne, hmin]
    omega
  rw [habove, hrange, abs_lt]
  push_cast
  constructor
  · exact fun h => ⟨by linarith [h.1], h.2⟩
  · exact fun h => ⟨by linarith [h.1], h.2⟩

/-- The smallest `int32_t` is the only one without an absolute value. -/
theorem isSome_positionUnusual_iff (position : Int32) :
    (positionUnusual position).isSome = true ↔ position ≠ Int32.minValue := by
  have hlow := position.le_toInt
  have hhigh := position.toInt_lt
  have hmin : position = Int32.minValue ↔ position.toInt = -2 ^ 31 := Int32.toInt_inj.symm
  unfold positionUnusual CheckedInt.checked
  rw [Option.isSome_map]
  split
  · rename_i hfits
    rw [CheckedInt.fits_eq_true_iff] at hfits
    refine iff_of_true rfl fun heq => ?_
    rw [hmin.mp heq] at hfits
    exact absurd hfits (by decide)
  · rename_i hnot
    refine iff_of_false Bool.false_ne_true fun hne => hnot ?_
    rw [Ne, hmin] at hne
    rw [CheckedInt.fits_eq_true_iff]
    have habs : |position.toInt| < 2 ^ 31 := abs_lt.mpr ⟨by omega, by omega⟩
    exact ⟨by linarith [abs_nonneg position.toInt], habs⟩

namespace JointCommand

variable {params : MotorKinematicsParams} {command : JointCommand}

/-- Everything that `cycle` converts for an axis fits 32 bits after truncation, and the position has an
absolute value. -/
def PulsesFit (params : MotorKinematicsParams) (command : JointCommand) : Prop :=
  (∀ position, command.position = some position →
      ∃ pulse, params.degreeToPulse (position * radToDeg) = some pulse ∧ pulse ≠ Int32.minValue) ∧
    ∀ velocity, command.velocity = some velocity →
      ∃ pulsePerSec, params.degreePerSecToPulsePerSec (velocity * radToDeg) = some pulsePerSec

/-- The reach of the command of an axis: less than 2 ^ 31 pulses, and where these are negative pulses per
second, less than one more. -/
def WithinPulses (params : MotorKinematicsParams) (command : JointCommand) : Prop :=
  (∀ position, command.position = some position →
      |position * radToDeg - params.positionOffsetDeg| * params.encoderFactor <
        2 ^ 31 * (degreesPerRevolution * |params.jointDirection|)) ∧
    ∀ velocity, command.velocity = some velocity →
      |velocity * radToDeg| * params.velocityEncoderFactor <
        (if velocity * params.jointDirection < 0 then 2 ^ 31 + 1 else 2 ^ 31) *
          (degreesPerRevolution * |params.jointDirection|)

/-! ### The reach of a command -/

theorem radToDeg_pos : 0 < radToDeg := by
  unfold radToDeg
  norm_num

/-- So many degrees are fewer pulses than `limit` just if they are fewer than its degrees. -/
theorem abs_pulses_lt_iff {factor direction : Rat} (hfactor : 0 < factor) (hdirection : direction ≠ 0)
    (degree limit : Rat) :
    |degree / direction / degreesPerRevolution * factor| < limit ↔
      |degree| * factor < limit * (degreesPerRevolution * |direction|) := by
  have hrevolution := degreesPerRevolution_pos
  rw [abs_mul, abs_div, abs_div, abs_of_pos hrevolution, abs_of_pos hfactor, div_div,
    div_mul_eq_mul_div, div_lt_iff₀ (mul_pos (abs_pos.mpr hdirection) hrevolution),
    mul_comm |direction|]

theorem mul_neg_iff_of_pos {number positive : Rat} (hpositive : 0 < positive) :
    number * positive < 0 ↔ number < 0 := by
  have hscaled := mul_lt_mul_iff_left₀ hpositive (b := number) (c := 0)
  rw [zero_mul] at hscaled
  exact hscaled

theorem pulses_neg_iff {factor direction : Rat} (hfactor : 0 < factor) (hdirection : direction ≠ 0)
    (degree : Rat) :
    degree / direction / degreesPerRevolution * factor < 0 ↔ degree * direction < 0 := by
  have hrevolution := degreesPerRevolution_pos
  have hsquare : 0 < direction * direction := mul_self_pos.mpr hdirection
  have hscaled : degree / direction / degreesPerRevolution * factor * (direction * direction) =
      degree * direction * (factor / degreesPerRevolution) := by
    field_simp
  rw [← mul_neg_iff_of_pos hsquare, hscaled, mul_neg_iff_of_pos (div_pos hfactor hrevolution)]

theorem pulsesFit_iff_withinPulses (hconvertible : params.Convertible) :
    PulsesFit params command ↔ WithinPulses params command := by
  have hdirection := hconvertible.jointDirection
  unfold PulsesFit WithinPulses
  refine and_congr (forall₂_congr fun position _ => ?_) (forall₂_congr fun velocity _ => ?_)
  · unfold MotorKinematicsParams.degreeToPulse
    dsimp only
    rw [exists_toInt32_ne_minValue_iff, abs_pulses_lt_iff hconvertible.encoderFactor hdirection]
  · have hsign : velocity * radToDeg * params.jointDirection < 0 ↔
        velocity * params.jointDirection < 0 := by
      rw [mul_right_comm, mul_neg_iff_of_pos radToDeg_pos]
    unfold MotorKinematicsParams.degreePerSecToPulsePerSec
    rw [exists_toInt32_eq_some_iff,
      abs_pulses_lt_iff hconvertible.velocityEncoderFactor hdirection]
    simp only [pulses_neg_iff hconvertible.velocityEncoderFactor hdirection, hsign]

/-! ### Calls with raw values -/

theorem exists_convertPosition_iff (position : Rat) :
    (∃ pulse, convertPosition params position = some pulse) ↔
      ∃ pulse, params.degreeToPulse (position * radToDeg) = some pulse ∧ pulse ≠ Int32.minValue := by
  unfold convertPosition
  cases hpulse : params.degreeToPulse (position * radToDeg) with
  | none => simp
  | some pulse =>
      have hunusual := isSome_positionUnusual_iff pulse
      cases hcheck : positionUnusual pulse with
      | none =>
          rw [hcheck] at hunusual
          simpa [hcheck] using hunusual
      | some unusual =>
          rw [hcheck] at hunusual
          simpa [hcheck] using hunusual

theorem isSome_convertSome_iff (convert : Rat → Option Int32) (value : Option Rat) :
    (convertSome convert value).isSome = true ↔
      ∀ number, value = some number → ∃ converted, convert number = some converted := by
  cases value with
  | none => simp [convertSome]
  | some number => simp [convertSome, Option.isSome_iff_exists]

theorem isSome_toRaw_iff : (command.toRaw params).isSome = true ↔ PulsesFit params command := by
  have hposition := isSome_convertSome_iff (convertPosition params) command.position
  have hvelocity := isSome_convertSome_iff (convertVelocity params) command.velocity
  simp only [exists_convertPosition_iff] at hposition
  unfold PulsesFit
  change _ ↔ _ ∧ ∀ velocity, command.velocity = some velocity →
    ∃ converted, convertVelocity params velocity = some converted
  rw [← hposition, ← hvelocity]
  unfold toRaw
  cases convertSome (convertPosition params) command.position with
  | none => simp
  | some position =>
      cases convertSome (convertVelocity params) command.velocity with
      | none => simp
      | some velocity => simp

theorem isSome_toRawFrom_iff (stored : List MotorKinematicsParams) (index : Nat)
    (commands : List JointCommand) :
    (toRawFrom stored index commands).isSome = true ↔
      ∀ entry ∈ commands.zipIdx index, PulsesFit (MotorKinematics.get entry.2 stored) entry.1 := by
  induction commands generalizing index with
  | nil => simp [toRawFrom]
  | cons command rest ih =>
      rw [List.zipIdx_cons, List.forall_mem_cons, ← ih (index + 1), ← isSome_toRaw_iff, toRawFrom]
      cases command.toRaw (MotorKinematics.get index stored) with
      | none => simp
      | some raw =>
          cases toRawFrom stored (index + 1) rest with
          | none => simp
          | some others => simp

end JointCommand

namespace Master

open JointCommand

/-- A call has a result just if everything that it converts fits. -/
theorem isSome_cycleJoints_iff (stored : List MotorKinematicsParams)
    (commands : Option (List JointCommand)) (stateCount : Option Nat) (master : Master) :
    (master.cycleJoints stored commands stateCount).isSome = true ↔
      ∀ entry ∈ master.commanded commands stateCount,
        PulsesFit (MotorKinematics.get entry.2 stored) entry.1 := by
  cases hrunning : master.running with
  | false => cases commands <;> simp [cycleJoints, commanded, hrunning]
  | true =>
      cases commands with
      | none => simp [cycleJoints, commanded, hrunning]
      | some commands =>
          unfold cycleJoints commanded
          dsimp only
          rw [hrunning, Bool.not_true, if_neg Bool.false_ne_true, Bool.true_and]
          by_cases hlength : commands.length < master.axisCount
          · simp [hlength]
          · cases hstates : stateCount.all (· < master.axisCount) with
            | true => simp [hlength]
            | false =>
                cases hfault : master.backend.runtime.commFault with
                | true => simp [hlength]
                | false =>
                    cases hauthorized : master.motionCommandsAuthorized &&
                        !master.backend.runtime.safeOutputRequired with
                    | false =>
                        rw [Bool.and_assoc, hauthorized]
                        simp [hlength]
                    | true =>
                        have hfits := isSome_toRawFrom_iff stored 0 (commands.take master.axisCount)
                        rw [Bool.and_assoc, hauthorized]
                        cases hraw : toRawFrom stored 0 (commands.take master.axisCount) with
                        | none =>
                            rw [hraw] at hfits
                            simpa [hlength] using hfits
                        | some raw =>
                            rw [hraw] at hfits
                            simpa [hlength] using hfits

theorem toRawFrom_cons_eq_some {stored : List MotorKinematicsParams} {index : Nat}
    {command : JointCommand} {rest : List JointCommand} {raw : List AxisCommand}
    (hraw : toRawFrom stored index (command :: rest) = some raw) :
    ∃ first others, command.toRaw (MotorKinematics.get index stored) = some first ∧
      toRawFrom stored (index + 1) rest = some others ∧ raw = first :: others := by
  rw [toRawFrom] at hraw
  obtain ⟨first, hfirst, hrest⟩ := Option.bind_eq_some_iff.mp hraw
  obtain ⟨others, hothers, hcons⟩ := Option.bind_eq_some_iff.mp hrest
  exact ⟨first, others, hfirst, hothers, (Option.some.inj hcons).symm⟩

theorem length_toRawFrom {stored : List MotorKinematicsParams} {index : Nat}
    {commands : List JointCommand} {raw : List AxisCommand}
    (hraw : toRawFrom stored index commands = some raw) : raw.length = commands.length := by
  induction commands generalizing index raw with
  | nil =>
      rw [toRawFrom] at hraw
      rw [← Option.some.inj hraw]
      rfl
  | cons command rest ih =>
      obtain ⟨first, others, -, hothers, hcons⟩ := toRawFrom_cons_eq_some hraw
      rw [hcons, List.length_cons, List.length_cons, ih hothers]

theorem toRawFrom_take {stored : List MotorKinematicsParams} {index : Nat}
    {commands : List JointCommand} {raw : List AxisCommand} (count : Nat)
    (hraw : toRawFrom stored index commands = some raw) :
    toRawFrom stored index (commands.take count) = some (raw.take count) := by
  induction commands generalizing index raw count with
  | nil =>
      rw [toRawFrom] at hraw
      rw [← Option.some.inj hraw, List.take_nil, List.take_nil, toRawFrom]
  | cons command rest ih =>
      obtain ⟨first, others, hfirst, hothers, hcons⟩ := toRawFrom_cons_eq_some hraw
      rw [hcons]
      cases count with
      | zero => rw [List.take_zero, List.take_zero, toRawFrom]
      | succ count =>
          rw [List.take_succ_cons, List.take_succ_cons, toRawFrom, hfirst, Option.bind_eq_bind,
            Option.bind_some, ih count hothers, Option.bind_eq_bind, Option.bind_some]
          rfl

/-- Where the commands have raw values, the call is the one with these. -/
theorem cycleJoints_of_toRaw {stored : List MotorKinematicsParams} {commands : List JointCommand}
    {raw : List AxisCommand} (hraw : toRawFrom stored 0 commands = some raw)
    (stateCount : Option Nat) (master : Master) :
    master.cycleJoints stored (some commands) stateCount =
      some (master.cycle (some raw) stateCount) := by
  unfold cycleJoints cycle
  dsimp only
  rw [length_toRawFrom hraw, toRawFrom_take master.axisCount hraw]
  split
  · rfl
  · split
    · rfl
    · split
      · rfl
      · split
        · rfl
        · split <;> rfl

/-- `cycle` commands pulses that fit just if no command that it carries out reaches 2 ^ 31 pulses. -/
theorem pulsesFit_iff {stored : List MotorKinematicsParams}
    (hstored : ∀ params ∈ stored, params.Convertible) (commands : Option (List JointCommand))
    (stateCount : Option Nat) (master : Master) :
    (∀ entry ∈ master.commanded commands stateCount,
        PulsesFit (MotorKinematics.get entry.2 stored) entry.1) ↔
      ∀ entry ∈ master.commanded commands stateCount,
        WithinPulses (MotorKinematics.get entry.2 stored) entry.1 :=
  forall₂_congr fun entry _ =>
    pulsesFit_iff_withinPulses
      (MotorKinematicsParams.get_of_forall hstored MotorKinematicsParams.geared_default.convertible
        entry.2)

/-- One axis, commanded to a position in radians and a velocity of so many radians per second. -/
def moveTo (position velocity : Rat) : JointCommand :=
  { position := some position, velocity := some velocity }

/-- A master that takes commands. -/
def releasedMaster : Master :=
  machine.run { policy := .supervisedMotion }
    (startedMaster ++ [job 0 completeDomain, .call .releaseSafeOutput])

theorem convertible_nh17 : ∀ params ∈ [MotorKinematicsParams.nh17], params.Convertible := by
  intro params hmem
  rw [List.mem_singleton.mp hmem]
  exact
    { encoderFactor := by decide +kernel
      velocityEncoderFactor := by decide +kernel
      jointDirection := by decide +kernel }

theorem pulsesFit_released : PulsesFit .nh17 (moveTo 2000 (-2038)) := by
  have hcommanded : releasedMaster.commanded (some [moveTo 2000 (-2038)]) (some 1) =
      [(moveTo 2000 (-2038), 0)] := by decide +kernel
  have hfits := (pulsesFit_iff convertible_nh17 (some [moveTo 2000 (-2038)]) (some 1)
    releasedMaster).mpr (by
      rw [hcommanded, List.forall_mem_singleton]
      constructor
      · intro position hposition
        rw [← Option.some.inj hposition]
        decide +kernel
      · intro velocity hvelocity
        rw [← Option.some.inj hvelocity]
        decide +kernel)
  rw [hcommanded, List.forall_mem_singleton] at hfits
  exact hfits

/-- 2048 radians are more than 2 ^ 31 pulses of the motor encoder. -/
theorem not_pulsesFit :
    ¬ ∀ (stored : List MotorKinematicsParams), (∀ params ∈ stored, params.Convertible) →
      ∀ (commands : Option (List JointCommand)) (stateCount : Option Nat) (master : Master),
        ∀ entry ∈ master.commanded commands stateCount,
          PulsesFit (MotorKinematics.get entry.2 stored) entry.1 := by
  intro hclaim
  have hcommanded : releasedMaster.commanded (some [moveTo 2048 0]) (some 1) =
      [(moveTo 2048 0, 0)] := by decide +kernel
  have hfits := hclaim [.nh17] convertible_nh17 (some [moveTo 2048 0]) (some 1) releasedMaster
  rw [hcommanded, List.forall_mem_singleton] at hfits
  obtain ⟨pulse, hpulse, -⟩ := hfits.1 2048 rfl
  have hnone : (MotorKinematics.get 0 [.nh17]).degreeToPulse (2048 * radToDeg) = none := by
    decide +kernel
  rw [hnone] at hpulse
  exact absurd hpulse (by simp)

end Master

end IghMaster
