import Mathlib.Tactic.FieldSimp
import Mathlib.Tactic.Linarith
import Mathlib.Tactic.Positivity
import IghMaster.UnitConversion

/-!
# Conversions there and back

Feedback and commands go through the same factor, offset and direction, so that a raw value survives the
way out and back. A current does so with the current-based formula; the rated one takes the efficiency of
the gear into account on the way back only.
-/

namespace IghMaster

open Rounding

theorem degreesPerRevolution_pos : 0 < degreesPerRevolution := by
  unfold degreesPerRevolution
  norm_num

/-! ### The ends of a conversion -/

theorem toInt32_eq_some_iff {number : Rat} {pulse : Int32} :
    toInt32 number = some pulse ↔ truncate number = pulse.toInt := by
  unfold toInt32
  rw [Option.map_eq_some_iff]
  constructor
  · rintro ⟨value, hchecked, hpulse⟩
    obtain ⟨hfits, hvalue⟩ := CheckedInt.checked_eq_some_iff.mp hchecked
    rw [CheckedInt.fits_eq_true_iff] at hfits
    rw [← hpulse, hvalue, Int32.toInt_ofInt_of_le (by omega) (by omega)]
  · intro hvalue
    have hlow := pulse.le_toInt
    have hhigh := pulse.toInt_lt
    refine ⟨pulse.toInt, CheckedInt.checked_eq_some_iff.mpr ⟨?_, hvalue.symm⟩, Int32.ofInt_toInt pulse⟩
    rw [hvalue, CheckedInt.fits_eq_true_iff]
    exact ⟨by omega, by omega⟩

theorem toInt32_intCast (pulse : Int32) : toInt32 (pulse.toInt : Rat) = some pulse :=
  toInt32_eq_some_iff.mpr (truncate_intCast pulse.toInt)

theorem toInt_permilleToRaw (permille : Rat) :
    (permilleToRaw permille).toInt = nearest (clamp (-32768) 32767 permille) := by
  have hlow : -32768 ≤ nearest (clamp ((-32768 : Int) : Rat) (32767 : Int) permille) :=
    le_nearest_clamp (by decide)
  have hhigh : nearest (clamp ((-32768 : Int) : Rat) (32767 : Int) permille) ≤ 32767 :=
    nearest_clamp_le (by decide)
  push_cast at hlow hhigh
  unfold permilleToRaw
  exact Int16.toInt_ofInt_of_le (by omega) (by omega)

theorem permilleToRaw_intCast (raw : Int16) : permilleToRaw (raw.toInt : Rat) = raw := by
  have hlow := raw.le_toInt
  have hhigh := raw.toInt_lt
  have hlowCast : (-32768 : Rat) ≤ raw.toInt := by exact_mod_cast (by omega : -32768 ≤ raw.toInt)
  have hhighCast : (raw.toInt : Rat) ≤ 32767 := by exact_mod_cast (by omega : raw.toInt ≤ 32767)
  apply Int16.toInt_inj.mp
  rw [toInt_permilleToRaw, clamp_of_mem hlowCast hhighCast, nearest_intCast]

namespace MotorKinematicsParams

variable {params : MotorKinematicsParams}

/-- Parameters by which a position and a velocity can be converted. -/
structure Geared (params : MotorKinematicsParams) : Prop where
  gearRatio : 0 < params.gearRatio
  encoderResolution : 0 < params.encoderResolution
  jointDirection : params.jointDirection ≠ 0

theorem Geared.encoderFactor_pos (hgeared : params.Geared) : 0 < params.encoderFactor := by
  unfold encoderFactor
  split
  · exact hgeared.encoderResolution
  · exact mul_pos hgeared.gearRatio hgeared.encoderResolution

theorem Geared.velocityEncoderFactor_pos (hgeared : params.Geared) :
    0 < params.velocityEncoderFactor := by
  unfold velocityEncoderFactor
  split
  · apply mul_pos hgeared.gearRatio
    split
    · assumption
    · norm_num
  · exact hgeared.encoderFactor_pos

/-! ### The parameters in use -/

theorem geared_default : Geared {} where
  gearRatio := by decide
  encoderResolution := by decide
  jointDirection := by decide

theorem geared_kinematics (profile : MotorProfile) : profile.kinematics.Geared := by
  unfold MotorProfile.kinematics
  split <;> exact { gearRatio := by decide, encoderResolution := by decide, jointDirection := by decide }

/-- What holds of the stored parameters and of the defaults holds of the parameters of every motor. -/
theorem get_of_forall {Holds : MotorKinematicsParams → Prop} {stored : List MotorKinematicsParams}
    (hstored : ∀ params ∈ stored, Holds params) (hdefault : Holds {}) (motorId : Nat) :
    Holds (MotorKinematics.get motorId stored) := by
  unfold MotorKinematics.get
  rw [List.getD_eq_getElem?_getD]
  cases hparams : stored[motorId]? with
  | none => exact hdefault
  | some params => exact hstored params (List.mem_of_getElem? hparams)

theorem Geared.withGearRatio (hgeared : params.Geared) (gearRaw : Option UInt32) :
    (params.withGearRatio gearRaw).1.Geared := by
  unfold MotorKinematicsParams.withGearRatio
  split
  · rename_i raw
    split
    · rename_i hpos
      have hraw : 0 < raw.toNat := UInt32.lt_iff_toNat_lt.mp hpos
      have hratio : (0 : Rat) < raw.toNat := by exact_mod_cast hraw
      exact { hgeared with gearRatio := hratio }
    · exact hgeared
  · exact hgeared

theorem Geared.withPositionMode (hgeared : params.Geared) (modeRaw : Option UInt32) :
    (params.withPositionMode modeRaw).1.Geared := by
  unfold MotorKinematicsParams.withPositionMode
  split
  · have houter : (0 : Rat) < 262144 := by decide
    exact { hgeared with encoderResolution := houter }
  · split
    · have hinner : (0 : Rat) < 65536 := by decide
      exact { hgeared with encoderResolution := hinner }
    · exact hgeared

theorem Geared.withMaxCurrent (hgeared : params.Geared) (currentRaw : Option UInt32) :
    (params.withMaxCurrent currentRaw).1.Geared := by
  unfold MotorKinematicsParams.withMaxCurrent
  split
  · split
    · exact { hgeared with }
    · exact hgeared
  · exact hgeared

/-- Whatever a drive answers, its motor keeps parameters that can be converted by. -/
theorem Geared.load (hgeared : params.Geared) (sdo : KinematicsSdo) (config : MotorConfig) :
    (params.load sdo config).1.Geared := by
  unfold MotorKinematicsParams.load
  split
  · exact hgeared
  · split
    · split
      · rename_i profile _
        have hprofile := geared_kinematics profile
        exact
          { gearRatio := hprofile.gearRatio
            encoderResolution := hprofile.encoderResolution
            jointDirection := hgeared.jointDirection }
      · exact hgeared
    · exact ((hgeared.withGearRatio _).withPositionMode _).withMaxCurrent _

theorem geared_setParams {params stored : List MotorKinematicsParams}
    (hparams : ∀ each ∈ params, each.Geared) (hstored : ∀ each ∈ stored, each.Geared) :
    ∀ each ∈ MotorKinematics.setParams params stored, each.Geared := by
  unfold MotorKinematics.setParams
  split
  · exact hstored
  · exact hparams

theorem geared_profileKinematics {stored : List MotorKinematicsParams}
    (hstored : ∀ params ∈ stored, params.Geared) (servo : Servo) :
    ∀ params ∈ servo.profileKinematics stored, params.Geared := by
  intro params hmem
  obtain ⟨index, hindex, hparams⟩ := List.mem_mapIdx.mp hmem
  rw [← hparams]
  split
  · exact geared_kinematics _
  · exact get_of_forall hstored geared_default index

theorem geared_tryLoadKinematicsFromSdo {stored : List MotorKinematicsParams}
    (hstored : ∀ params ∈ stored, params.Geared) (sdo : Nat → KinematicsSdo) (servo : Servo) :
    ∀ params ∈ servo.tryLoadKinematicsFromSdo sdo stored, params.Geared := by
  unfold Servo.tryLoadKinematicsFromSdo
  split
  · exact hstored
  · dsimp only
    split
    · refine geared_setParams (fun params hmem => ?_) hstored
      obtain ⟨loaded, hloaded, hparams⟩ := List.mem_map.mp hmem
      obtain ⟨index, hindex, hentry⟩ := List.mem_mapIdx.mp hloaded
      rw [← hparams, ← hentry]
      exact (get_of_forall hstored geared_default index).load _ _
    · exact hstored

/-! ### Positions, velocities and torques -/

theorem degreeToPulse_pulseToDegree (hfactor : 0 < params.encoderFactor)
    (hdirection : params.jointDirection ≠ 0) (pulse : Int32) :
    params.degreeToPulse (params.pulseToDegree pulse) = some pulse := by
  have hrevolution := degreesPerRevolution_pos.ne'
  have hfactor := hfactor.ne'
  have hpulses : (params.pulseToDegree pulse - params.positionOffsetDeg) / params.jointDirection /
      degreesPerRevolution * params.encoderFactor = pulse.toInt := by
    unfold pulseToDegree
    field_simp
    ring
  unfold degreeToPulse
  dsimp only
  rw [hpulses]
  exact toInt32_intCast pulse

theorem degreePerSecToPulsePerSec_pulsePerSecToDegreePerSec
    (hfactor : 0 < params.velocityEncoderFactor) (hdirection : params.jointDirection ≠ 0)
    (pulsePerSec : Int32) :
    params.degreePerSecToPulsePerSec (params.pulsePerSecToDegreePerSec pulsePerSec) =
      some pulsePerSec := by
  have hrevolution := degreesPerRevolution_pos.ne'
  have hfactor := hfactor.ne'
  have hpulses : params.pulsePerSecToDegreePerSec pulsePerSec / params.jointDirection /
      degreesPerRevolution * params.velocityEncoderFactor = pulsePerSec.toInt := by
    unfold pulsePerSecToDegreePerSec
    field_simp
  unfold degreePerSecToPulsePerSec
  rw [hpulses]
  exact toInt32_intCast pulsePerSec

theorem outputTorqueToRaw_rawTorqueToOutputTorque (hscale : 0 < params.outputTorqueScale)
    (hdirection : params.jointDirection ≠ 0) (raw : Int16) :
    params.outputTorqueToRaw (params.rawTorqueToOutputTorque raw) = raw := by
  have hpermille : params.rawTorqueToOutputTorque raw / params.jointDirection /
      params.outputTorqueScale * 1000 = raw.toInt := by
    have hscale := hscale.ne'
    unfold rawTorqueToOutputTorque
    field_simp
  unfold outputTorqueToRaw
  rw [if_neg (by rintro (hle | hzero); exacts [absurd hle (not_le.mpr hscale), hdirection hzero]),
    hpermille]
  exact permilleToRaw_intCast raw

/-- The way there loses less than one pulse, in degrees. -/
theorem abs_pulseToDegree_sub_lt (hfactor : 0 < params.encoderFactor)
    (hdirection : params.jointDirection ≠ 0) {degree : Rat} {pulse : Int32}
    (hpulse : params.degreeToPulse degree = some pulse) :
    |params.pulseToDegree pulse - degree| <
      degreesPerRevolution * |params.jointDirection| / params.encoderFactor := by
  obtain ⟨pulses, hpulses⟩ : ∃ pulses, pulses = (degree - params.positionOffsetDeg) /
    params.jointDirection / degreesPerRevolution * params.encoderFactor := ⟨_, rfl⟩
  have hclose := abs_truncate_sub_lt pulses
  have htruncated : truncate pulses = pulse.toInt := by
    rw [hpulses]
    exact toInt32_eq_some_iff.mp hpulse
  have hstep : 0 < degreesPerRevolution * |params.jointDirection| / params.encoderFactor :=
    div_pos (mul_pos degreesPerRevolution_pos (abs_pos.mpr hdirection)) hfactor
  have hsplit : params.pulseToDegree pulse - degree =
      (pulse.toInt - pulses) * (degreesPerRevolution * params.jointDirection / params.encoderFactor) := by
    have hrevolution := degreesPerRevolution_pos.ne'
    have hfactor := hfactor.ne'
    rw [hpulses]
    unfold pulseToDegree
    field_simp
    ring
  calc |params.pulseToDegree pulse - degree|
      = |(truncate pulses : Rat) - pulses| *
          (degreesPerRevolution * |params.jointDirection| / params.encoderFactor) := by
        rw [hsplit, abs_mul, abs_div, abs_mul, abs_of_pos degreesPerRevolution_pos,
          abs_of_pos hfactor, htruncated]
    _ < 1 * (degreesPerRevolution * |params.jointDirection| / params.encoderFactor) :=
        mul_lt_mul_of_pos_right hclose hstep
    _ = degreesPerRevolution * |params.jointDirection| / params.encoderFactor := one_mul _

/-- Raw values survive the way out and back, and a degree moves by less than one pulse. -/
theorem roundTrips (hgeared : params.Geared) (hscale : 0 < params.outputTorqueScale) :
    (∀ pulse : Int32, params.degreeToPulse (params.pulseToDegree pulse) = some pulse) ∧
      (∀ pulsePerSec : Int32,
        params.degreePerSecToPulsePerSec (params.pulsePerSecToDegreePerSec pulsePerSec) =
          some pulsePerSec) ∧
      (∀ raw : Int16, params.outputTorqueToRaw (params.rawTorqueToOutputTorque raw) = raw) ∧
      ∀ (degree : Rat) (pulse : Int32), params.degreeToPulse degree = some pulse →
        |params.pulseToDegree pulse - degree| <
          degreesPerRevolution * |params.jointDirection| / params.encoderFactor := by
  have hdirection := hgeared.jointDirection
  refine ⟨?positions, ?velocities, ?torques, ?degrees⟩
  case positions => exact degreeToPulse_pulseToDegree hgeared.encoderFactor_pos hdirection
  case velocities =>
    exact degreePerSecToPulsePerSec_pulsePerSecToDegreePerSec hgeared.velocityEncoderFactor_pos
      hdirection
  case torques => exact outputTorqueToRaw_rawTorqueToOutputTorque hscale hdirection
  case degrees =>
    intro degree pulse hpulse
    exact abs_pulseToDegree_sub_lt hgeared.encoderFactor_pos hdirection hpulse

/-- A joint that turns the other way, with an offset and the two encoders of the NH17. -/
def reversed : MotorKinematicsParams :=
  { nh17 with
    encoderResolution := 262144
    outputSideEncoder := true
    positionOffsetDeg := 45 / 2
    jointDirection := -1 }

theorem roundTrips_reversed :
    (∀ pulse : Int32, reversed.degreeToPulse (reversed.pulseToDegree pulse) = some pulse) ∧
      ∀ raw : Int16, reversed.outputTorqueToRaw (reversed.rawTorqueToOutputTorque raw) = raw := by
  have hgeared : reversed.Geared :=
    { gearRatio := by decide, encoderResolution := by decide, jointDirection := by decide }
  obtain ⟨hpositions, -, htorques, -⟩ := roundTrips hgeared (by decide +kernel)
  exact ⟨hpositions, htorques⟩

/-! ### Currents -/

/-- With the rated formula the efficiency of the gear moves the raw value by less than the rounding
makes up for; at an end of the range it may move it further out. -/
def KeepsCurrent (raw : Int16) (params : MotorKinematicsParams) : Prop :=
  0 < params.maxCurrentMa ∨
    |(raw.toInt : Rat)| * (1 - params.gearEfficiency) ≤ 1 / 2 ∧
      (|(raw.toInt : Rat)| * (params.gearEfficiency - 1) < 1 / 2 ∨ raw = 32767 ∨ raw = -32768)

theorem abs_toInt_le (raw : Int16) : |(raw.toInt : Rat)| ≤ 32768 := by
  have hlow := raw.le_toInt
  have hhigh := raw.toInt_lt
  rw [abs_le]
  exact ⟨by exact_mod_cast (by omega : -32768 ≤ raw.toInt),
    by exact_mod_cast (by omega : raw.toInt ≤ 32768)⟩

theorem abs_toInt_le_of_ne {raw : Int16} (hne : raw ≠ -32768) : |(raw.toInt : Rat)| ≤ 32767 := by
  have hlow := raw.le_toInt
  have hhigh := raw.toInt_lt
  have hbottom : raw.toInt ≠ -32768 := fun heq => hne (Int16.toInt_inj.mp heq)
  rw [abs_le]
  exact ⟨by exact_mod_cast (by omega : -32767 ≤ raw.toInt),
    by exact_mod_cast (by omega : raw.toInt ≤ 32767)⟩

/-- A motor keeps every raw value just if its efficiency is 1, up to half a permille of the largest. -/
theorem forall_keepsCurrent_iff (params : MotorKinematicsParams) :
    (∀ raw, KeepsCurrent raw params) ↔
      0 < params.maxCurrentMa ∨
        1 - 1 / 65536 ≤ params.gearEfficiency ∧ params.gearEfficiency < 1 + 1 / 65534 := by
  constructor
  · intro hkeeps
    -- the smallest value bounds the efficiency from below, the one above it from above
    have hbottom : |((-32768 : Int16).toInt : Rat)| = 32768 := by decide +kernel
    have hnext : |((-32767 : Int16).toInt : Rat)| = 32767 := by decide +kernel
    rcases hkeeps (-32768) with hcurrent | ⟨hlow, -⟩
    · exact Or.inl hcurrent
    · rcases hkeeps (-32767) with hcurrent | ⟨-, hhigh | htop | hend⟩
      · exact Or.inl hcurrent
      · rw [hbottom] at hlow
        rw [hnext] at hhigh
        exact Or.inr ⟨by linarith, by linarith⟩
      · exact absurd htop (by decide)
      · exact absurd hend (by decide)
  · rintro (hcurrent | ⟨hlow, hhigh⟩) raw
    · exact Or.inl hcurrent
    · refine Or.inr ⟨?_, ?_⟩
      · calc |(raw.toInt : Rat)| * (1 - params.gearEfficiency)
            ≤ |(raw.toInt : Rat)| * (1 / 65536) :=
              mul_le_mul_of_nonneg_left (by linarith) (abs_nonneg _)
          _ ≤ 1 / 2 := by linarith [abs_toInt_le raw]
      · by_cases hend : raw = -32768
        · exact Or.inr (Or.inr hend)
        · left
          have hle := abs_toInt_le_of_ne hend
          rcases eq_or_lt_of_le (abs_nonneg (raw.toInt : Rat)) with hzero | hpos
          · rw [← hzero, zero_mul]
            norm_num
          · calc |(raw.toInt : Rat)| * (params.gearEfficiency - 1)
                < |(raw.toInt : Rat)| * (1 / 65534) :=
                  mul_lt_mul_of_pos_left (by linarith) hpos
              _ ≤ 1 / 2 := by linarith

theorem currentAmpereToRaw_of_currentBased (hbased : params.useCurrentBasedTorqueFormula = true)
    (raw : Int16) : params.currentAmpereToRaw (params.rawToCurrentAmpere raw) = raw := by
  obtain ⟨hcurrent, -⟩ : 0 < params.maxCurrentMa ∧ 0 < params.torqueConstantKt := by
    unfold useCurrentBasedTorqueFormula at hbased
    rw [Bool.and_eq_true, decide_eq_true_eq, decide_eq_true_eq] at hbased
    exact hbased
  have himax : 0 < params.maxCurrentMa / 1000 := by positivity
  have hpermille : params.rawToCurrentAmpere raw / (params.maxCurrentMa / 1000) * 1000 =
      raw.toInt := by
    have hcurrent := hcurrent.ne'
    unfold rawToCurrentAmpere
    rw [if_pos hbased]
    field_simp
  unfold currentAmpereToRaw
  dsimp only
  rw [if_pos hbased, if_neg (not_le.mpr himax), hpermille]
  exact permilleToRaw_intCast raw

/-- With the rated formula the raw value comes back times the efficiency. -/
theorem currentAmpereToRaw_of_rated (hrated : ¬ params.useCurrentBasedTorqueFormula = true)
    (hkt : 0 < params.torqueConstantKt) (hgear : 0 < params.torqueGearRatio)
    (hscale : 0 < params.outputTorqueScale) (raw : Int16) :
    params.currentAmpereToRaw (params.rawToCurrentAmpere raw) =
      permilleToRaw (raw.toInt * params.gearEfficiency) := by
  have hscaleEq : params.outputTorqueScale = params.ratedTorqueMotor * params.torqueGearRatio := by
    unfold outputTorqueScale
    rw [if_neg hrated]
  have hpermille : params.rawToCurrentAmpere raw * params.torqueConstantKt * params.torqueGearRatio *
      params.gearEfficiency / params.outputTorqueScale * 1000 =
        raw.toInt * params.gearEfficiency := by
    have htorque : params.ratedTorqueMotor ≠ 0 := by
      rintro hzero
      rw [hscaleEq, hzero, zero_mul] at hscale
      exact absurd hscale (lt_irrefl 0)
    have hgear := hgear.ne'
    have hktNe := hkt.ne'
    rw [hscaleEq]
    unfold rawToCurrentAmpere rawTorqueToMotorTorque
    rw [if_neg hrated, if_neg (not_le.mpr hkt), if_neg hrated]
    field_simp
  unfold currentAmpereToRaw
  dsimp only
  rw [if_neg hrated, if_neg (not_le.mpr hscale), hpermille]

theorem permilleToRaw_mul_eq_iff (raw : Int16) (efficiency : Rat) :
    permilleToRaw (raw.toInt * efficiency) = raw ↔
      |(raw.toInt : Rat)| * (1 - efficiency) ≤ 1 / 2 ∧
        (|(raw.toInt : Rat)| * (efficiency - 1) < 1 / 2 ∨ raw = 32767 ∨ raw = -32768) := by
  have hlow := raw.le_toInt
  have hhigh := raw.toInt_lt
  have htop : raw = 32767 ↔ raw.toInt = 32767 := Int16.toInt_inj.symm
  have hbottom : raw = -32768 ↔ raw.toInt = -32768 := Int16.toInt_inj.symm
  have hmoved : permilleToRaw (raw.toInt * efficiency) = raw ↔
      nearest (clamp ((-32768 : Int) : Rat) (32767 : Int) (raw.toInt * efficiency)) = raw.toInt := by
    rw [← Int16.toInt_inj, toInt_permilleToRaw]
    push_cast
    exact Iff.rfl
  rw [hmoved, htop, hbottom]
  rcases Int.lt_trichotomy raw.toInt 0 with hneg | hzero | hpos
  · have hcast : (raw.toInt : Rat) < 0 := by exact_mod_cast hneg
    rw [nearest_clamp_eq_iff_of_neg (by decide) hneg (by omega), abs_of_neg hcast]
    constructor
    · exact fun h => ⟨by linarith [h.1], h.2.imp (fun hlt => by linarith) Or.inr⟩
    · rintro ⟨hle, hlt | htop | hbottom⟩
      · exact ⟨by linarith, Or.inl (by linarith)⟩
      · omega
      · exact ⟨by linarith, Or.inr hbottom⟩
  · rw [hzero, Int.cast_zero, zero_mul, abs_zero, zero_mul, zero_mul]
    refine iff_of_true ?_ ⟨by norm_num, Or.inl (by norm_num)⟩
    rw [clamp_of_mem (by norm_num) (by norm_num)]
    exact nearest_eq_zero_iff.mpr ⟨by norm_num, by norm_num⟩
  · have hcast : 0 < (raw.toInt : Rat) := by exact_mod_cast hpos
    rw [nearest_clamp_eq_iff_of_pos (by decide) hpos (by omega), abs_of_pos hcast]
    constructor
    · exact fun h => ⟨by linarith [h.1], h.2.imp (fun hlt => by linarith) Or.inl⟩
    · rintro ⟨hle, hlt | htop | hbottom⟩
      · exact ⟨by linarith, Or.inl (by linarith)⟩
      · exact ⟨by linarith, Or.inr htop⟩
      · omega

/-- A raw value survives the way to a current and back just if the formula is the current-based one or
the efficiency moves it by no more than the rounding. -/
theorem current_roundTrip_iff (hkt : 0 < params.torqueConstantKt)
    (hgear : 0 < params.torqueGearRatio) (hscale : 0 < params.outputTorqueScale) (raw : Int16) :
    params.currentAmpereToRaw (params.rawToCurrentAmpere raw) = raw ↔ KeepsCurrent raw params := by
  unfold KeepsCurrent
  by_cases hcurrent : 0 < params.maxCurrentMa
  · have hbased : params.useCurrentBasedTorqueFormula = true := by
      unfold useCurrentBasedTorqueFormula
      rw [decide_eq_true hcurrent, decide_eq_true hkt]
      rfl
    exact iff_of_true (currentAmpereToRaw_of_currentBased hbased raw) (Or.inl hcurrent)
  · have hrated : ¬ params.useCurrentBasedTorqueFormula = true := by
      unfold useCurrentBasedTorqueFormula
      rw [decide_eq_false hcurrent]
      exact Bool.false_ne_true
    rw [currentAmpereToRaw_of_rated hrated hkt hgear hscale raw, permilleToRaw_mul_eq_iff,
      or_iff_right hcurrent]

/-- The SJD-17 with a gear that is not perfect. -/
def lossy (gearEfficiency : Rat) : MotorKinematicsParams := { sjd17 with gearEfficiency }

theorem current_roundTrip_lossy :
    (lossy (9 / 10)).currentAmpereToRaw ((lossy (9 / 10)).rawToCurrentAmpere (-5)) = -5 := by
  refine (current_roundTrip_iff (by decide +kernel) (by decide +kernel) (by decide +kernel) (-5)).mpr ?_
  exact Or.inr ⟨by decide +kernel, Or.inl (by decide +kernel)⟩

theorem not_current_roundTrip :
    ¬ ∀ params : MotorKinematicsParams,
      0 < params.torqueConstantKt → 0 < params.torqueGearRatio → 0 < params.gearEfficiency →
        0 < params.outputTorqueScale → 0 < params.maxCurrentMa ∨ params.maxCurrentMa = 0 →
          ∀ raw : Int16, params.currentAmpereToRaw (params.rawToCurrentAmpere raw) = raw := by
  intro hclaim
  have hkept := hclaim (lossy (6 / 10)) (by decide +kernel) (by decide +kernel) (by decide +kernel)
    (by decide +kernel) (Or.inr rfl) 1000
  exact absurd hkept (by decide +kernel)

end MotorKinematicsParams

end IghMaster
