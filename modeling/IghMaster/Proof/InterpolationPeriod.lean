import IghMaster.InterpolationPeriod
import Mathlib.Tactic.Common

/-!
# Interpolation periods and their gate

The encoder tries the exponents from the largest down, with the unit that belongs to each, so that what
it finds has the largest exponent; the decoder accepts nothing else. An axis passes the gate when the
bytes that are compared denote the period of the bus, and these are the objects of the drive wherever the
drive answers with a byte.
-/

namespace IghMaster

/-! ### The code -/

theorem unitAfter_eq : ∀ steps, steps ≤ 9 → unitAfter steps = 10 ^ (9 - steps) := by decide

theorem decode_of_range {code : CspInterpolationPeriod} (hvalue : code.value ≠ 0)
    (hlow : -9 ≤ code.exponent.toInt) (hhigh : code.exponent.toInt ≤ 0) :
    decodeCspInterpolationPeriodNs code =
      code.value.toNat * 10 ^ (code.exponent.toInt + 9).toNat := by
  have hrange : ¬ (code.value = 0 ∨ code.exponent.toInt < -9 ∨ 0 < code.exponent.toInt) := by
    rintro (hzero | hbelow | habove)
    · exact hvalue hzero
    · omega
    · omega
  have hsteps : 9 - (-code.exponent.toInt).toNat = (code.exponent.toInt + 9).toNat := by omega
  rw [decodeCspInterpolationPeriodNs, if_neg hrange, unitAfter_eq _ (by omega), hsteps]

theorem decode_of_represents {code : CspInterpolationPeriod} {periodNs : UInt64}
    (hrepresents : Represents code.value.toNat code.exponent.toInt periodNs) :
    decodeCspInterpolationPeriodNs code = periodNs.toNat := by
  have hvalue : code.value ≠ 0 := by
    intro hzero
    have hone := hrepresents.one_le_value
    rw [hzero] at hone
    exact absurd hone (by decide)
  rw [decode_of_range hvalue hrepresents.le_exponent hrepresents.exponent_le, hrepresents.denotes]

theorem Represents.period_pos {value : Nat} {exponent : Int} {periodNs : UInt64}
    (hrepresents : Represents value exponent periodNs) : 1 ≤ periodNs.toNat := by
  rw [← hrepresents.denotes]
  exact Nat.mul_pos hrepresents.one_le_value (Nat.pow_pos (by decide))

theorem matchesBus_iff (value : UInt8) (exponent : Int8) (periodNs : UInt64) :
    interpolationPeriodMatchesBus value exponent periodNs = true ↔
      Represents value.toNat exponent.toInt periodNs := by
  rw [interpolationPeriodMatchesBus, Bool.and_eq_true, bne_iff_ne, beq_iff_eq]
  constructor
  · rintro ⟨hdecoded, hperiod⟩
    have hvalid : ¬ (value = 0 ∨ exponent.toInt < -9 ∨ 0 < exponent.toInt) := by
      intro hout
      rw [decodeCspInterpolationPeriodNs, if_pos hout] at hdecoded
      exact hdecoded rfl
    rw [not_or, not_or, not_lt, not_lt] at hvalid
    obtain ⟨hvalue, hlow, hhigh⟩ := hvalid
    have hpos : value.toNat ≠ 0 := fun hzero => hvalue (UInt8.toNat_inj.mp hzero)
    have hbyte := value.toNat_lt
    have hdecode : decodeCspInterpolationPeriodNs { value := value, exponent := exponent } =
        value.toNat * 10 ^ (exponent.toInt + 9).toNat := decode_of_range hvalue hlow hhigh
    rw [hdecode] at hperiod
    exact ⟨by omega, by omega, hlow, hhigh, hperiod⟩
  · intro hrepresents
    have hdecoded : decodeCspInterpolationPeriodNs { value := value, exponent := exponent } =
        periodNs.toNat := decode_of_represents hrepresents
    have hpos := hrepresents.period_pos
    rw [hdecoded]
    exact ⟨by omega, rfl⟩

/-! ### The encoder -/

/-- The value that the loop tests at an exponent is the only one that can represent the period there. -/
theorem quotient_iff {period unit : Nat} (hunit : 0 < unit) :
    period % unit = 0 ∧ 1 ≤ period / unit ∧ period / unit ≤ 255 ↔
      ∃ value, 1 ≤ value ∧ value ≤ 255 ∧ value * unit = period := by
  constructor
  · rintro ⟨hdivides, hlow, hhigh⟩
    exact ⟨period / unit, hlow, hhigh, Nat.div_mul_cancel (Nat.dvd_of_mod_eq_zero hdivides)⟩
  · rintro ⟨value, hlow, hhigh, rfl⟩
    rw [Nat.mul_mod_left, Nat.mul_div_cancel value hunit]
    exact ⟨rfl, hlow, hhigh⟩

theorem nextUnit_eq {left unitNs : Nat} (hunit : unitNs = 10 ^ left) (hleft : 0 < left) :
    unitNs / 10 = 10 ^ (left - 1) := by
  obtain ⟨lower, rfl⟩ := Nat.exists_eq_add_of_le' hleft
  rw [hunit, Nat.pow_succ, Nat.mul_div_cancel _ (by decide), Nat.add_sub_cancel]

theorem toInt_exponent : ∀ left, left < 10 → (Int8.ofInt ((left : Nat) - 9)).toInt = left - 9 := by
  decide

variable {periodNs : UInt64}

/-- What is left of the loop finds nothing just if no exponent that is left represents the period. -/
theorem encodeFrom_eq_none_iff {left unitNs : Nat} (hunit : 0 < left → unitNs = 10 ^ (left - 1)) :
    encodeFrom periodNs left unitNs = none ↔
      ∀ place value, place < left → 1 ≤ value → value ≤ 255 → value * 10 ^ place ≠ periodNs.toNat := by
  induction left generalizing unitNs with
  | zero => exact iff_of_true rfl fun place value hplace => absurd hplace (Nat.not_lt_zero place)
  | succ left ih =>
      have hpower : unitNs = 10 ^ left := hunit (Nat.succ_pos left)
      have hpos : 0 < unitNs := by rw [hpower]; exact Nat.pow_pos (by decide)
      have hnext := nextUnit_eq hpower
      rw [encodeFrom]
      split
      · rename_i hfound
        obtain ⟨value, hlow, hhigh, hvalue⟩ := (quotient_iff hpos).mp hfound
        rw [hpower] at hvalue
        refine iff_of_false (by simp) fun hnone => ?_
        exact hnone left value (Nat.lt_succ_self left) hlow hhigh hvalue
      · rename_i hnot
        rw [quotient_iff hpos] at hnot
        rw [ih hnext]
        constructor
        · intro hrest place value hplace hlow hhigh hvalue
          rcases Nat.lt_succ_iff_lt_or_eq.mp hplace with hlower | hhere
          · exact hrest place value hlower hlow hhigh hvalue
          · rw [hhere, ← hpower] at hvalue
            exact hnot ⟨value, hlow, hhigh, hvalue⟩
        · intro hall place value hplace
          exact hall place value (Nat.lt_succ_of_lt hplace)

/-- What the loop finds represents the period, with the largest exponent that is left. -/
theorem encodeFrom_eq_some {left unitNs : Nat} (hleft : left ≤ 10)
    (hunit : 0 < left → unitNs = 10 ^ (left - 1)) {code : CspInterpolationPeriod}
    (hcode : encodeFrom periodNs left unitNs = some code) :
    Represents code.value.toNat code.exponent.toInt periodNs ∧
      ∀ place value, place < left → 1 ≤ value → value ≤ 255 → value * 10 ^ place = periodNs.toNat →
        (place : Int) ≤ code.exponent.toInt + 9 := by
  induction left generalizing unitNs with
  | zero => exact absurd hcode (by simp [encodeFrom])
  | succ left ih =>
      have hpower : unitNs = 10 ^ left := hunit (Nat.succ_pos left)
      have hpos : 0 < unitNs := by rw [hpower]; exact Nat.pow_pos (by decide)
      have hnext := nextUnit_eq hpower
      rw [encodeFrom] at hcode
      split at hcode
      · rename_i hfound
        obtain ⟨hdivides, hlow, hhigh⟩ := hfound
        have hexponent := toInt_exponent left (by omega)
        have hvalue : (UInt8.ofNat (periodNs.toNat / unitNs)).toNat = periodNs.toNat / unitNs :=
          UInt8.toNat_ofNat_of_lt' (by change _ < 256; omega)
        rw [← Option.some.inj hcode]
        dsimp only
        rw [hvalue, hexponent]
        constructor
        · refine ⟨hlow, hhigh, by omega, by omega, ?_⟩
          have hplace : ((left : Int) - 9 + 9).toNat = left := by omega
          rw [hplace, ← hpower]
          exact Nat.div_mul_cancel (Nat.dvd_of_mod_eq_zero hdivides)
        · intro place value hplace _ _ _
          omega
      · rename_i hnot
        rw [quotient_iff hpos] at hnot
        obtain ⟨hrepresents, hlargest⟩ := ih (by omega) hnext hcode
        refine ⟨hrepresents, fun place value hplace hlow hhigh hvalue => ?_⟩
        rcases Nat.lt_succ_iff_lt_or_eq.mp hplace with hlower | hhere
        · exact hlargest place value hlower hlow hhigh hvalue
        · rw [hhere, ← hpower] at hvalue
          exact absurd ⟨value, hlow, hhigh, hvalue⟩ hnot

theorem represents_iff {value : Nat} {exponent : Int} :
    Represents value exponent periodNs ↔ ∃ place : Nat, place < 10 ∧ exponent = (place : Int) - 9 ∧
      1 ≤ value ∧ value ≤ 255 ∧ value * 10 ^ place = periodNs.toNat := by
  constructor
  · rintro ⟨hlow, hhigh, hbelow, habove, hdenotes⟩
    exact ⟨(exponent + 9).toNat, by omega, by omega, hlow, hhigh, hdenotes⟩
  · rintro ⟨place, hplace, rfl, hlow, hhigh, hdenotes⟩
    refine ⟨hlow, hhigh, by omega, by omega, ?_⟩
    have hsame : ((place : Int) - 9 + 9).toNat = place := by omega
    rw [hsame]
    exact hdenotes

theorem encode_eq_none_iff (periodNs : UInt64) :
    encodeCspInterpolationPeriod periodNs = none ↔
      ∀ value exponent, ¬ Represents value exponent periodNs := by
  unfold encodeCspInterpolationPeriod
  split
  · rename_i hzero
    refine iff_of_true rfl fun value exponent hrepresents => ?_
    have hpos := hrepresents.period_pos
    rw [hzero] at hpos
    exact absurd hpos (by decide)
  · have hunit : 0 < 10 → 1000000000 = 10 ^ (10 - 1) := fun _ => rfl
    rw [encodeFrom_eq_none_iff hunit]
    constructor
    · intro hnone value exponent hrepresents
      obtain ⟨place, hplace, -, hlow, hhigh, hdenotes⟩ := represents_iff.mp hrepresents
      exact hnone place value hplace hlow hhigh hdenotes
    · intro hnone place value hplace hlow hhigh hdenotes
      exact hnone value ((place : Int) - 9)
        (represents_iff.mpr ⟨place, hplace, rfl, hlow, hhigh, hdenotes⟩)

theorem encode_eq_some {code : CspInterpolationPeriod}
    (hcode : encodeCspInterpolationPeriod periodNs = some code) :
    Represents code.value.toNat code.exponent.toInt periodNs ∧
      ∀ value exponent, Represents value exponent periodNs → exponent ≤ code.exponent.toInt := by
  unfold encodeCspInterpolationPeriod at hcode
  split at hcode
  · exact absurd hcode (by simp)
  · obtain ⟨hrepresents, hlargest⟩ := encodeFrom_eq_some (Nat.le_refl 10) (fun _ => rfl) hcode
    refine ⟨hrepresents, fun value exponent hother => ?_⟩
    obtain ⟨place, hplace, hexponent, hlow, hhigh, hdenotes⟩ := represents_iff.mp hother
    have hle := hlargest place value hplace hlow hhigh hdenotes
    omega

/-- The encoder is exact and takes the largest exponent, and the comparison accepts just the
representations of the period. -/
theorem encode_exact_and_canonical (periodNs : UInt64) :
    (encodeCspInterpolationPeriod periodNs = none ↔
        ∀ value exponent, ¬ Represents value exponent periodNs) ∧
      (∀ code, encodeCspInterpolationPeriod periodNs = some code →
        decodeCspInterpolationPeriodNs code = periodNs.toNat ∧
          Represents code.value.toNat code.exponent.toInt periodNs ∧
            ∀ value exponent, Represents value exponent periodNs → exponent ≤ code.exponent.toInt) ∧
        ∀ value exponent, interpolationPeriodMatchesBus value exponent periodNs = true ↔
          Represents value.toNat exponent.toInt periodNs := by
  refine ⟨encode_eq_none_iff periodNs, fun code hcode => ?_, fun value exponent => ?_⟩
  · obtain ⟨hrepresents, hlargest⟩ := encode_eq_some hcode
    exact ⟨decode_of_represents hrepresents, hrepresents, hlargest⟩
  · exact matchesBus_iff value exponent periodNs

/-! ### The bytes of the full objects -/

theorem toNat_lowByte (word : UInt32) : (word &&& 0xFF).toUInt8.toNat = word.toNat % 256 := by
  have hmask : word.toNat &&& 255 = word.toNat % 2 ^ 8 := Nat.and_two_pow_sub_one_eq_mod word.toNat 8
  rw [UInt32.toNat_toUInt8, UInt32.toNat_and]
  change (word.toNat &&& 255) % 256 = word.toNat % 256
  omega

/-- A signed word and its signed lowest byte differ by a multiple of 256. -/
theorem toInt_lowByte (word : UInt32) :
    ∃ above : Int, word.toInt32.toInt = (word &&& 0xFF).toUInt8.toInt8.toInt + 256 * above := by
  have hword : word.toInt32.toInt = (word.toNat : Int).bmod (2 ^ 32) := BitVec.toInt_eq_toNat_bmod _
  have hbyte : (word &&& 0xFF).toUInt8.toInt8.toInt =
      ((word &&& 0xFF).toUInt8.toNat : Int).bmod (2 ^ 8) := BitVec.toInt_eq_toNat_bmod _
  refine ⟨(word.toInt32.toInt - (word &&& 0xFF).toUInt8.toInt8.toInt) / 256, ?_⟩
  rw [hword, hbyte, toNat_lowByte, Int.bmod_def, Int.bmod_def]
  split <;> split <;> omega

/-- No power of ten makes up for the bytes that are cut off. -/
theorem denotesNs_iff_bytes {value exponent : UInt32}
    (hbytes : Represents (value &&& 0xFF).toUInt8.toNat (exponent &&& 0xFF).toUInt8.toInt8.toInt
      periodNs) :
    DenotesNs value.toNat exponent.toInt32.toInt periodNs ↔
      value.toNat ≤ 255 ∧ exponent.toInt32.toInt = (exponent &&& 0xFF).toUInt8.toInt8.toInt := by
  obtain ⟨above, habove⟩ := toInt_lowByte exponent
  obtain ⟨hone, -, hlow, hhigh, hdenotes⟩ := hbytes
  have hpositive : 1 ≤ periodNs.toNat := by
    rw [← hdenotes]
    exact Nat.mul_pos hone (Nat.pow_pos (by decide))
  have hperiod := periodNs.toNat_lt
  have hword := value.toNat_lt
  rw [toNat_lowByte] at hone hdenotes
  unfold DenotesNs
  rcases lt_trichotomy above 0 with hbelow | hzero | hpos
  · refine iff_of_false (fun hequal => ?_) fun h => by omega
    have hnone : (exponent.toInt32.toInt + 9).toNat = 0 := by omega
    rw [hnone, Nat.pow_zero, Nat.mul_one] at hequal
    have hlarge : 10 ^ 10 ≤ value.toNat := by
      calc 10 ^ 10 ≤ 10 ^ (-(exponent.toInt32.toInt + 9)).toNat :=
            Nat.pow_le_pow_right (by decide) (by omega)
        _ ≤ periodNs.toNat * 10 ^ (-(exponent.toInt32.toInt + 9)).toNat :=
            Nat.le_mul_of_pos_left _ hpositive
        _ = value.toNat := hequal.symm
    omega
  · have hsame : exponent.toInt32.toInt = (exponent &&& 0xFF).toUInt8.toInt8.toInt := by omega
    have hnone : (-((exponent &&& 0xFF).toUInt8.toInt8.toInt + 9)).toNat = 0 := by omega
    rw [hsame, hnone, Nat.pow_zero, Nat.mul_one, ← hdenotes,
      Nat.mul_left_inj (Nat.pow_pos (by decide : 0 < 10)).ne']
    constructor
    · exact fun hvalue => ⟨by omega, rfl⟩
    · exact fun hbyte => by omega
  · refine iff_of_false (fun hequal => ?_) fun h => by omega
    have hnone : (-(exponent.toInt32.toInt + 9)).toNat = 0 := by omega
    rw [hnone, Nat.pow_zero, Nat.mul_one] at hequal
    have hlarge : 10 ^ 20 ≤ periodNs.toNat := by
      calc 10 ^ 20 ≤ 10 ^ (exponent.toInt32.toInt + 9).toNat :=
            Nat.pow_le_pow_right (by decide) (by omega)
        _ ≤ value.toNat * 10 ^ (exponent.toInt32.toInt + 9).toNat :=
            Nat.le_mul_of_pos_left _ (by omega)
        _ = periodNs.toNat := hequal
    omega

/-- A byte that represents the period denotes it. -/
theorem Represents.denotesNs {value : Nat} {exponent : Int}
    (hrepresents : Represents value exponent periodNs) : DenotesNs value exponent periodNs := by
  have hlow := hrepresents.le_exponent
  have hnone : (-(exponent + 9)).toNat = 0 := by omega
  rw [DenotesNs, hnone, Nat.pow_zero, Nat.mul_one]
  exact hrepresents.denotes

/-! ### One axis -/

theorem lastReports_append (reports : List SdoReport) (value exponent : SdoWord) :
    lastReport .value (reports ++ [⟨.value, value⟩] ++ [⟨.exponent, exponent⟩]) = some value ∧
      lastReport .exponent (reports ++ [⟨.value, value⟩] ++ [⟨.exponent, exponent⟩]) =
        some exponent := by
  unfold lastReport
  rw [List.reverse_append, List.reverse_append]
  exact ⟨rfl, rfl⟩

theorem denotesPeriod_append_iff (reports : List SdoReport) (value exponent : SdoWord) :
    DenotesPeriod periodNs (reports ++ [⟨.value, value⟩] ++ [⟨.exponent, exponent⟩]) ↔
      DenotesNs value.unsigned exponent.signed periodNs := by
  obtain ⟨hvalue, hexponent⟩ := lastReports_append reports value exponent
  unfold DenotesPeriod
  rw [hvalue, hexponent]
  constructor
  · rintro ⟨other, otherExponent, hother, hotherExponent, hdenotes⟩
    rw [Option.some.inj hother, Option.some.inj hotherExponent]
    exact hdenotes
  · exact fun hdenotes => ⟨value, exponent, rfl, rfl, hdenotes⟩

namespace AxisGate

variable {expected : CspInterpolationPeriod} {answers : DriveAnswers}

/-- An axis passes on what was read first, or on the confirmation of the download. -/
theorem compare_cases {actualValue actualExp : UInt8} {reports : List SdoReport}
    (hpassed : (compare periodNs expected answers actualValue actualExp reports).passed = true) :
    (interpolationPeriodMatchesBus actualValue actualExp.toInt8 periodNs = true ∧
        (compare periodNs expected answers actualValue actualExp reports).reports = reports) ∨
      (interpolationPeriodMatchesBus actualValue actualExp.toInt8 periodNs = false ∧
        ∃ value exponent, value = expected.value ∧ exponent.toInt8 = expected.exponent ∧
          (compare periodNs expected answers actualValue actualExp reports).reports =
            reports ++ [⟨.value, .u8 value⟩] ++ [⟨.exponent, .u8 exponent⟩]) := by
  unfold compare at hpassed ⊢
  cases hmatch : interpolationPeriodMatchesBus actualValue actualExp.toInt8 periodNs with
  | true => exact Or.inl ⟨rfl, rfl⟩
  | false =>
      rw [hmatch, if_neg Bool.false_ne_true] at hpassed
      right
      rw [if_neg Bool.false_ne_true]
      split at hpassed
      · exact absurd hpassed Bool.false_ne_true
      · rename_i hdownloads
        rw [if_neg hdownloads]
        cases hvalue : answers.rereadValue with
        | none =>
            rw [hvalue] at hpassed
            exact absurd hpassed Bool.false_ne_true
        | some value =>
            cases hexponent : answers.rereadExponent with
            | none =>
                rw [hvalue, hexponent] at hpassed
                exact absurd hpassed Bool.false_ne_true
            | some exponent =>
                rw [hvalue, hexponent] at hpassed
                dsimp only at hpassed
                rw [Bool.and_eq_true, beq_iff_eq, beq_iff_eq] at hpassed
                exact ⟨rfl, value, exponent, hpassed.1, hpassed.2, rfl⟩

/-- Bytes that pass denote the period, whichever of them were reported last. -/
theorem denotes_of_bytes (hexpected : encodeCspInterpolationPeriod periodNs = some expected)
    {value exponent : UInt8} {reports : List SdoReport}
    (hpassed : (compare periodNs expected answers value exponent
      (reports ++ [⟨.value, .u8 value⟩] ++ [⟨.exponent, .u8 exponent⟩])).passed = true) :
    DenotesPeriod periodNs (compare periodNs expected answers value exponent
      (reports ++ [⟨.value, .u8 value⟩] ++ [⟨.exponent, .u8 exponent⟩])).reports := by
  rcases compare_cases hpassed with ⟨hmatch, hreports⟩ | ⟨-, rvalue, rexponent, hvalue, hexp, hreports⟩
  · rw [hreports, denotesPeriod_append_iff]
    exact ((matchesBus_iff value exponent.toInt8 periodNs).mp hmatch).denotesNs
  · rw [hreports, denotesPeriod_append_iff]
    have hrepresents := (encode_eq_some hexpected).1
    rw [← hvalue, ← hexp] at hrepresents
    exact hrepresents.denotesNs

theorem verify_of_full {value exponent : UInt32} (hvalue : answers.value32 = some value)
    (hexponent : answers.exponent32 = some exponent) :
    verify periodNs expected answers =
      compare periodNs expected answers (value &&& 0xFF).toUInt8 (exponent &&& 0xFF).toUInt8
        ([] ++ [⟨.value, .u32 value⟩] ++ [⟨.exponent, .u32 exponent⟩]) := by
  rw [verify, hvalue, hexponent]
  rfl

theorem verify_of_bytes (hfails : answers.value32 = none ∨ answers.exponent32 = none)
    {value exponent : UInt8} (hvalue : answers.value8 = some value)
    (hexponent : answers.exponent8 = some exponent) :
    verify periodNs expected answers =
      compare periodNs expected answers value exponent
        (reportU32 .value answers.value32 ++ reportU32 .exponent answers.exponent32 ++
          [⟨.value, .u8 value⟩] ++ [⟨.exponent, .u8 exponent⟩]) := by
  obtain ⟨value32, exponent32, value8, exponent8, _, _, _, _⟩ := answers
  dsimp only at hfails hvalue hexponent
  subst hvalue hexponent
  cases value32 with
  | none => rfl
  | some word =>
      cases exponent32 with
      | none => rfl
      | some exponentWord => exact absurd hfails (by simp)

theorem passed_of_unread (hfails : answers.value32 = none ∨ answers.exponent32 = none)
    (hunread : answers.value8 = none ∨ answers.exponent8 = none) :
    (verify periodNs expected answers).passed = false := by
  obtain ⟨value32, exponent32, value8, exponent8, _, _, _, _⟩ := answers
  dsimp only at hfails hunread
  rcases hfails with rfl | rfl
  · rcases hunread with rfl | rfl
    · rfl
    · cases value8 <;> rfl
  · rcases hunread with rfl | rfl
    · cases value32 <;> rfl
    · cases value32 <;> cases value8 <;> rfl

/-- Where one of the 32-bit reads fails, the axis passes on two bytes. -/
theorem verify_of_retry (hfails : answers.value32 = none ∨ answers.exponent32 = none)
    (hpassed : (verify periodNs expected answers).passed = true) :
    ∃ value exponent reports, verify periodNs expected answers =
      compare periodNs expected answers value exponent
        (reports ++ [⟨.value, .u8 value⟩] ++ [⟨.exponent, .u8 exponent⟩]) := by
  cases hvalue : answers.value8 with
  | none =>
      rw [passed_of_unread hfails (Or.inl hvalue)] at hpassed
      exact absurd hpassed Bool.false_ne_true
  | some value =>
      cases hexponent : answers.exponent8 with
      | none =>
          rw [passed_of_unread hfails (Or.inr hexponent)] at hpassed
          exact absurd hpassed Bool.false_ne_true
      | some exponent => exact ⟨value, exponent, _, verify_of_bytes hfails hvalue hexponent⟩

theorem readsBytes_of_failed (hfails : answers.value32 = none ∨ answers.exponent32 = none) :
    ReadsBytes periodNs answers := by
  intro value exponent hvalue hexponent
  rcases hfails with hnone | hnone
  · exact absurd (hvalue.symm.trans hnone) (by simp)
  · exact absurd (hexponent.symm.trans hnone) (by simp)

theorem readsBytes_iff {value exponent : UInt32} (hvalue : answers.value32 = some value)
    (hexponent : answers.exponent32 = some exponent) :
    ReadsBytes periodNs answers ↔
      (interpolationPeriodMatchesBus (value &&& 0xFF).toUInt8
          (exponent &&& 0xFF).toUInt8.toInt8 periodNs = true →
        value.toNat ≤ 255 ∧
          exponent.toInt32.toInt = (exponent &&& 0xFF).toUInt8.toInt8.toInt) := by
  constructor
  · exact fun hreads => hreads value exponent hvalue hexponent
  · intro hbytes word exponentWord hword hexponentWord
    rw [hvalue] at hword
    rw [hexponent] at hexponentWord
    rw [← Option.some.inj hword, ← Option.some.inj hexponentWord]
    exact hbytes

theorem denotesPeriod_verify_iff (hexpected : encodeCspInterpolationPeriod periodNs = some expected)
    (hpassed : (verify periodNs expected answers).passed = true) :
    DenotesPeriod periodNs (verify periodNs expected answers).reports ↔
      ReadsBytes periodNs answers := by
  by_cases hfails : answers.value32 = none ∨ answers.exponent32 = none
  · obtain ⟨value, exponent, reports, hverify⟩ := verify_of_retry hfails hpassed
    rw [hverify] at hpassed ⊢
    exact iff_of_true (denotes_of_bytes hexpected hpassed) (readsBytes_of_failed hfails)
  · rw [not_or] at hfails
    obtain ⟨value, hvalue⟩ := Option.ne_none_iff_exists'.mp hfails.1
    obtain ⟨exponent, hexponent⟩ := Option.ne_none_iff_exists'.mp hfails.2
    rw [verify_of_full hvalue hexponent] at hpassed ⊢
    rw [readsBytes_iff hvalue hexponent]
    rcases compare_cases hpassed with
      ⟨hmatch, hreports⟩ | ⟨hmatch, rvalue, rexponent, hreread, hrereadExp, hreports⟩
    · rw [hreports, denotesPeriod_append_iff]
      have hbytes := (matchesBus_iff _ _ periodNs).mp hmatch
      exact (denotesNs_iff_bytes hbytes).trans ⟨fun h _ => h, fun h => h hmatch⟩
    · rw [hreports, denotesPeriod_append_iff]
      have hrepresents := (encode_eq_some hexpected).1
      rw [← hreread, ← hrereadExp] at hrepresents
      refine iff_of_true hrepresents.denotesNs fun h => ?_
      rw [hmatch] at h
      exact absurd h Bool.false_ne_true

end AxisGate

/-! ### All axes -/

/-- Every axis that needs the gate passes it. -/
theorem passed_of_verifyAxes {axes : List (MotorConfig × DriveAnswers)}
    (hgate : verifyAxes periodNs axes = true) {axis : MotorConfig × DriveAnswers}
    (hmem : axis ∈ axes) (hgated : axis.1.isGated = true) :
    ∃ expected, encodeCspInterpolationPeriod periodNs = some expected ∧
      (AxisGate.verify periodNs expected axis.2).passed = true := by
  induction axes with
  | nil => exact absurd hmem List.not_mem_nil
  | cons first rest ih =>
      obtain ⟨config, answers⟩ := first
      rw [verifyAxes] at hgate
      rw [MotorConfig.isGated, Bool.and_eq_true, Bool.not_eq_true'] at hgated
      rcases List.mem_cons.mp hmem with hfirst | hrest
      · rw [hfirst] at hgated ⊢
        rw [hgated.1, hgated.2, if_neg Bool.false_ne_true, Bool.not_true,
          if_neg Bool.false_ne_true] at hgate
        cases hexpected : encodeCspInterpolationPeriod periodNs with
        | none =>
            rw [hexpected] at hgate
            exact absurd hgate Bool.false_ne_true
        | some expected =>
            rw [hexpected] at hgate
            dsimp only at hgate
            split at hgate
            · rename_i hpassed
              exact ⟨expected, rfl, hpassed⟩
            · exact absurd hgate Bool.false_ne_true
      · split at hgate
        · exact ih hgate hrest
        · split at hgate
          · exact ih hgate hrest
          · split at hgate
            · exact absurd hgate Bool.false_ne_true
            · split at hgate
              · exact ih hgate hrest
              · exact absurd hgate Bool.false_ne_true

/-- Where the gate passes, the drives' last reports denote the period of the bus just if no 32-bit read
that was compared was more than the bytes that were compared. -/
theorem gate_sound_iff {cachedBusCycleUs runtimeBusCycleUs : UInt32}
    {axes : List (MotorConfig × DriveAnswers)}
    (hgate : verifyInterpolationPeriodGate cachedBusCycleUs runtimeBusCycleUs axes = true) :
    (∀ axis ∈ axes, axis.1.isGated = true →
        DenotesPeriod (gateBusCycleNs cachedBusCycleUs runtimeBusCycleUs)
          (gateReports (gateBusCycleNs cachedBusCycleUs runtimeBusCycleUs) axis.2)) ↔
      ∀ axis ∈ axes, axis.1.isGated = true →
        ReadsBytes (gateBusCycleNs cachedBusCycleUs runtimeBusCycleUs) axis.2 := by
  have haxis : ∀ axis ∈ axes, axis.1.isGated = true →
      (DenotesPeriod (gateBusCycleNs cachedBusCycleUs runtimeBusCycleUs)
          (gateReports (gateBusCycleNs cachedBusCycleUs runtimeBusCycleUs) axis.2) ↔
        ReadsBytes (gateBusCycleNs cachedBusCycleUs runtimeBusCycleUs) axis.2) := by
    intro axis hmem hgated
    obtain ⟨expected, hexpected, hpassed⟩ := passed_of_verifyAxes hgate hmem hgated
    unfold gateReports
    rw [hexpected]
    exact AxisGate.denotesPeriod_verify_iff hexpected hpassed
  constructor
  · exact fun hdenotes axis hmem hgated => (haxis axis hmem hgated).mp (hdenotes axis hmem hgated)
  · exact fun hreads axis hmem hgated => (haxis axis hmem hgated).mpr (hreads axis hmem hgated)

/-- A drive that answers with bytes, and one that answers with words. -/
def byteAnswers : DriveAnswers where
  value32 := none
  exponent32 := none
  value8 := some 2
  exponent8 := some 0xFD
  downloadValue := false
  downloadExponent := false
  rereadValue := none
  rereadExponent := none

def wordAnswers (value exponent : UInt32) : DriveAnswers :=
  { byteAnswers with value32 := some value, exponent32 := some exponent }

def nh17ByIdentity : MotorConfig := { vendorId := 0x00522227, productCode := 0x00009253 }

theorem gate_sound_nh17 :
    DenotesPeriod (gateBusCycleNs 2000 1000) (gateReports (gateBusCycleNs 2000 1000) byteAnswers) ∧
      DenotesPeriod (gateBusCycleNs 2000 1000)
        (gateReports (gateBusCycleNs 2000 1000) (wordAnswers 2 0xFFFFFFFD)) := by
  have hgate : verifyInterpolationPeriodGate 2000 1000
      [(nh17ByIdentity, byteAnswers), (nh17ByIdentity, wordAnswers 2 0xFFFFFFFD)] = true := by
    decide +kernel
  have hgated : nh17ByIdentity.isGated = true := by decide +kernel
  have hdenotes := (gate_sound_iff hgate).mpr (by
    rw [List.forall_mem_cons, List.forall_mem_cons]
    refine ⟨fun _ value exponent hvalue => ?_, fun _ value exponent hvalue hexponent _ => ?_,
      fun axis hmem => absurd hmem List.not_mem_nil⟩
    · exact absurd hvalue (by simp [byteAnswers])
    · rw [← Option.some.inj hvalue, ← Option.some.inj hexponent]
      decide)
  rw [List.forall_mem_cons, List.forall_mem_cons] at hdenotes
  exact ⟨hdenotes.1 hgated, hdenotes.2.1 hgated⟩

theorem not_gate_sound :
    ¬ ∀ (cachedBusCycleUs runtimeBusCycleUs : UInt32) (axes : List (MotorConfig × DriveAnswers)),
      verifyInterpolationPeriodGate cachedBusCycleUs runtimeBusCycleUs axes = true →
        ∀ axis ∈ axes, axis.1.isGated = true →
          DenotesPeriod (gateBusCycleNs cachedBusCycleUs runtimeBusCycleUs)
            (gateReports (gateBusCycleNs cachedBusCycleUs runtimeBusCycleUs) axis.2) := by
  intro hclaim
  have hgate : verifyInterpolationPeriodGate 2000 1000
      [(nh17ByIdentity, wordAnswers 0x102 0xFFFFFFFD)] = true := by decide +kernel
  have hgated : nh17ByIdentity.isGated = true := by decide +kernel
  obtain ⟨value, exponent, hvalue, hexponent, hdenotes⟩ :=
    hclaim 2000 1000 _ hgate (nh17ByIdentity, wordAnswers 0x102 0xFFFFFFFD) List.mem_cons_self hgated
  have hreported : lastReport .value (gateReports (gateBusCycleNs 2000 1000)
      (wordAnswers 0x102 0xFFFFFFFD)) = some (.u32 0x102) := by decide +kernel
  have hreportedExp : lastReport .exponent (gateReports (gateBusCycleNs 2000 1000)
      (wordAnswers 0x102 0xFFFFFFFD)) = some (.u32 0xFFFFFFFD) := by decide +kernel
  rw [hreported] at hvalue
  rw [hreportedExp] at hexponent
  rw [← Option.some.inj hvalue, ← Option.some.inj hexponent] at hdenotes
  unfold DenotesNs at hdenotes
  exact absurd hdenotes (by decide +kernel)

end IghMaster
