import IghMaster.Environment
import Mathlib.Data.List.TakeWhile

/-!
# The configurations of all environments

A configuration is one that some environment asks for exactly if its numbers are positive and fit an `int`,
the watchdog's being possibly zero.
-/

namespace IghMaster

open TextTable

/-! ### Numbers that are read -/

theorem fitsInt_toUInt32 {value : Int32} (hvalue : 0 ≤ value) : FitsInt value.toUInt32 := by
  rw [FitsInt, Int32.toNat_toUInt32_of_le hvalue]
  exact value.toNatClampNeg_lt

theorem toNat_toUInt32_pos {value : Int32} (hvalue : 0 < value) : 0 < value.toUInt32.toNat := by
  have hpos : 0 < value.toInt := by
    rw [Int32.lt_iff_toInt_lt] at hvalue
    exact hvalue
  rw [Int32.toNat_toUInt32_of_le (Int32.le_of_lt hvalue), Int32.toNatClampNeg]
  omega

theorem atoi_toDigits {number : Nat} (hnumber : number < 2147483648) :
    atoi (Nat.toDigits 10 number) = Int32.ofInt number := by
  have hread := readNat_toDigits (show 1 < 10 by decide) (show 10 ≤ 16 by decide) number
  have hdigits : ∀ char ∈ Nat.toDigits 10 number, char.isDigit = true :=
    fun char hchar => Nat.isDigit_of_mem_toDigits (by decide) (by decide) hchar
  have hall : (Nat.toDigits 10 number).takeWhile Char.isDigit = Nat.toDigits 10 number :=
    List.takeWhile_eq_self_iff.mpr hdigits
  cases htext : Nat.toDigits 10 number with
  | nil => exact absurd htext Nat.toDigits_ne_nil
  | cons first rest =>
      rw [htext] at hread hall hdigits
      have hfirst : first.isDigit = true := hdigits first List.mem_cons_self
      have hspace : isSpace first = false := by
        have hrange : 48 ≤ first.toNat ∧ first.toNat ≤ 57 := by
          rw [Char.isDigit, Bool.and_eq_true, decide_eq_true_eq, decide_eq_true_eq] at hfirst
          exact ⟨UInt32.le_iff_toNat_le.mp hfirst.1, UInt32.le_iff_toNat_le.mp hfirst.2⟩
        rw [isSpace, Bool.or_eq_false_iff]
        constructor
        · rw [beq_eq_false_iff_ne]
          rintro rfl
          exact absurd hfirst (by decide)
        · simp
          omega
      have hsign : first ≠ '-' ∧ first ≠ '+' := by
        constructor
        · rintro rfl
          exact absurd hfirst (by decide)
        · rintro rfl
          exact absurd hfirst (by decide)
      have htrimmed : (first :: rest).dropWhile isSpace = first :: rest :=
        List.dropWhile_cons_of_neg (by rw [hspace]; exact Bool.false_ne_true)
      have hhead : ¬ ((first :: rest).head? = some '-' ∨ (first :: rest).head? = some '+') := by
        simpa using hsign
      rw [not_or] at hhead
      unfold atoi
      dsimp only
      rw [htrimmed, if_neg (not_or.mpr hhead), if_neg hhead.1, hall, hread, if_neg (by omega),
        if_neg (by omega)]

theorem envOr_of_some {α : Type} {read : List Char → α} {name : String} {defaultValue : α}
    {environment : Environment} {text : List Char} (hset : environment name = some text)
    (htext : text ≠ []) : envOr read name defaultValue environment = read text := by
  rw [envOr, hset]
  cases text with
  | nil => exact absurd rfl htext
  | cons first rest => rfl

theorem envOr_cases {α : Type} (read : List Char → α) (name : String) (defaultValue : α)
    (environment : Environment) :
    envOr read name defaultValue environment = defaultValue ∨
      ∃ text, envOr read name defaultValue environment = read text := by
  unfold envOr
  split
  · rename_i first rest _
    exact Or.inr ⟨first :: rest, rfl⟩
  · exact Or.inl rfl

section Numbers

variable {name : String} {value : UInt32} {environment : Environment}

theorem toUInt32_atoi (hfits : FitsInt value) :
    atoi (Nat.toDigits 10 value.toNat) = Int32.ofInt value.toNat ∧
      (Int32.ofInt value.toNat).toInt = value.toNat ∧
      (Int32.ofInt value.toNat).toUInt32 = value := by
  have hbound : value.toNat < 2147483648 := hfits
  have hint : (Int32.ofInt value.toNat).toInt = value.toNat := Int32.toInt_ofInt_of_le (by omega) (by omega)
  refine ⟨atoi_toDigits hfits, hint, ?_⟩
  have hnonneg : (0 : Int32) ≤ Int32.ofInt value.toNat := by
    rw [Int32.le_iff_toInt_le, hint]
    exact Int.natCast_nonneg _
  apply UInt32.toNat_inj.mp
  rw [Int32.toNat_toUInt32_of_le hnonneg, Int32.toNatClampNeg, hint]
  rfl

theorem envU32Or_of_set (defaultValue : UInt32)
    (hset : environment name = some (Nat.toDigits 10 value.toNat))
    (hvalue : 0 < value.toNat ∧ FitsInt value) : envU32Or name defaultValue environment = value := by
  obtain ⟨hatoi, hint, hback⟩ := toUInt32_atoi hvalue.2
  have hpos : (0 : Int32) < Int32.ofInt value.toNat := by
    rw [Int32.lt_iff_toInt_lt, hint]
    exact Int.natCast_pos.mpr hvalue.1
  rw [envU32Or, envOr_of_some hset Nat.toDigits_ne_nil, hatoi, if_pos hpos, hback]

theorem envU32AllowZeroOr_of_set (defaultValue : UInt32)
    (hset : environment name = some (Nat.toDigits 10 value.toNat)) (hfits : FitsInt value) :
    envU32AllowZeroOr name defaultValue environment = value := by
  obtain ⟨hatoi, hint, hback⟩ := toUInt32_atoi hfits
  have hnonneg : (0 : Int32) ≤ Int32.ofInt value.toNat := by
    rw [Int32.le_iff_toInt_le, hint]
    exact Int.natCast_nonneg _
  rw [envU32AllowZeroOr, envOr_of_some hset Nat.toDigits_ne_nil, hatoi, if_pos hnonneg, hback]

theorem envU32Or_settable {defaultValue : UInt32}
    (hdefault : 0 < defaultValue.toNat ∧ FitsInt defaultValue) (name : String)
    (environment : Environment) :
    0 < (envU32Or name defaultValue environment).toNat ∧
      FitsInt (envU32Or name defaultValue environment) := by
  unfold envU32Or
  rcases envOr_cases (fun text => if 0 < atoi text then (atoi text).toUInt32 else defaultValue) name
    defaultValue environment with hsame | ⟨text, hread⟩
  · rw [hsame]
    exact hdefault
  · rw [hread]
    split_ifs with hpos
    · exact ⟨toNat_toUInt32_pos hpos, fitsInt_toUInt32 (Int32.le_of_lt hpos)⟩
    · exact hdefault

theorem envU32AllowZeroOr_fitsInt {defaultValue : UInt32} (hdefault : FitsInt defaultValue)
    (name : String) (environment : Environment) :
    FitsInt (envU32AllowZeroOr name defaultValue environment) := by
  unfold envU32AllowZeroOr
  rcases envOr_cases (fun text => if 0 ≤ atoi text then (atoi text).toUInt32 else defaultValue) name
    defaultValue environment with hsame | ⟨text, hread⟩
  · rw [hsame]
    exact hdefault
  · rw [hread]
    split_ifs with hnonneg
    · exact fitsInt_toUInt32 hnonneg
    · exact hdefault

theorem envFlagOr_of_set {flag : Bool} (defaultValue : Bool)
    (hset : environment name = some [if flag then '1' else '0']) :
    envFlagOr name defaultValue environment = flag := by
  rw [envFlagOr, envOr_of_some hset (List.cons_ne_nil _ _)]
  cases flag <;> rfl

end Numbers

/-! ### Configurations -/

namespace AnomalyPolicy

theorem settable_policyFrom {fallback : AnomalyPolicy} (hfallback : fallback.Settable)
    (consecutive window windowStop : String) (environment : Environment) :
    (IghMasterConfig.policyFrom consecutive window windowStop fallback environment).Settable where
  consecutiveStop := envU32Or_settable hfallback.consecutiveStop consecutive environment
  windowSize := envU32Or_settable hfallback.windowSize window environment
  windowStop := envU32Or_settable hfallback.windowStop windowStop environment

theorem policyFrom_of_set {policy : AnomalyPolicy} (hsettable : policy.Settable)
    {consecutive window windowStop : String} {environment : Environment} (fallback : AnomalyPolicy)
    (hconsecutive : environment consecutive = some (Nat.toDigits 10 policy.consecutiveStop.toNat))
    (hwindow : environment window = some (Nat.toDigits 10 policy.windowSize.toNat))
    (hwindowStop : environment windowStop = some (Nat.toDigits 10 policy.windowStop.toNat)) :
    IghMasterConfig.policyFrom consecutive window windowStop fallback environment = policy := by
  rw [IghMasterConfig.policyFrom, envU32Or_of_set _ hconsecutive hsettable.consecutiveStop,
    envU32Or_of_set _ hwindow hsettable.windowSize, envU32Or_of_set _ hwindowStop hsettable.windowStop]

end AnomalyPolicy

namespace IghMasterConfig

theorem settable_default : ({} : IghMasterConfig).Settable where
  busCycleUs := by decide
  wkcAnomalyPolicy := ⟨by decide, by decide, by decide⟩
  deadlineAnomalyPolicy := ⟨by decide, by decide, by decide⟩
  dcAnomalyPolicy := ⟨by decide, by decide, by decide⟩
  dcMonitorWarmupCycles := by decide
  dcSyncThresholdNs := by decide
  healthyDwellCycles := by decide
  cmdWatchdogMs := by decide

theorem settable_fromEnvironment (environment : Environment) : (fromEnvironment environment).Settable where
  busCycleUs := envU32Or_settable settable_default.busCycleUs _ environment
  wkcAnomalyPolicy := AnomalyPolicy.settable_policyFrom settable_default.wkcAnomalyPolicy _ _ _ environment
  deadlineAnomalyPolicy :=
    AnomalyPolicy.settable_policyFrom settable_default.deadlineAnomalyPolicy _ _ _ environment
  dcAnomalyPolicy := AnomalyPolicy.settable_policyFrom settable_default.dcAnomalyPolicy _ _ _ environment
  dcMonitorWarmupCycles := envU32Or_settable settable_default.dcMonitorWarmupCycles _ environment
  dcSyncThresholdNs := envU32Or_settable settable_default.dcSyncThresholdNs _ environment
  healthyDwellCycles := envU32Or_settable settable_default.healthyDwellCycles _ environment
  cmdWatchdogMs := envU32AllowZeroOr_fitsInt settable_default.cmdWatchdogMs _ environment

/-- The environment that asks for the configuration. -/
def environmentOf (config : IghMasterConfig) : Environment :=
  let number := fun (value : UInt32) => Nat.toDigits 10 value.toNat
  let flag := fun (value : Bool) => [if value then '1' else '0']
  fun name =>
    [("IGH_BUS_CYCLE_US", number config.busCycleUs),
      ("IGH_LOCK_MEMORY", flag config.lockMemory),
      ("IGH_REQUIRE_REALTIME", flag config.requireRealtime),
      ("IGH_ANOMALY_WKC_CONSEC", number config.wkcAnomalyPolicy.consecutiveStop),
      ("IGH_ANOMALY_WKC_WINDOW", number config.wkcAnomalyPolicy.windowSize),
      ("IGH_ANOMALY_WKC_WINDOW_STOP", number config.wkcAnomalyPolicy.windowStop),
      ("IGH_ANOMALY_DEADLINE_CONSEC", number config.deadlineAnomalyPolicy.consecutiveStop),
      ("IGH_ANOMALY_DEADLINE_WINDOW", number config.deadlineAnomalyPolicy.windowSize),
      ("IGH_ANOMALY_DEADLINE_WINDOW_STOP", number config.deadlineAnomalyPolicy.windowStop),
      ("IGH_ANOMALY_DC_CONSEC", number config.dcAnomalyPolicy.consecutiveStop),
      ("IGH_ANOMALY_DC_WINDOW", number config.dcAnomalyPolicy.windowSize),
      ("IGH_ANOMALY_DC_WINDOW_STOP", number config.dcAnomalyPolicy.windowStop),
      ("IGH_DC_MONITOR_WARMUP", number config.dcMonitorWarmupCycles),
      ("IGH_DC_SYNC_THRESHOLD_NS", number config.dcSyncThresholdNs),
      ("IGH_HEALTHY_DWELL_CYCLES", number config.healthyDwellCycles),
      ("IGH_CMD_WATCHDOG_MS", number config.cmdWatchdogMs),
      ("IGH_CSV_CMD_WATCHDOG", flag config.csvCmdWatchdog)].lookup name

theorem fromEnvironment_environmentOf {config : IghMasterConfig} (hsettable : config.Settable) :
    fromEnvironment (environmentOf config) = config := by
  have hlock : envFlagOr "IGH_LOCK_MEMORY" true (environmentOf config) = config.lockMemory :=
    envFlagOr_of_set true rfl
  have hrealtime : envFlagOr "IGH_REQUIRE_REALTIME" true (environmentOf config) = config.requireRealtime :=
    envFlagOr_of_set true rfl
  have hcsv : envFlagOr "IGH_CSV_CMD_WATCHDOG" false (environmentOf config) = config.csvCmdWatchdog :=
    envFlagOr_of_set false rfl
  rw [fromEnvironment]
  dsimp only
  rw [envU32Or_of_set _ rfl hsettable.busCycleUs, hlock, hrealtime,
    AnomalyPolicy.policyFrom_of_set hsettable.wkcAnomalyPolicy _ rfl rfl rfl,
    AnomalyPolicy.policyFrom_of_set hsettable.deadlineAnomalyPolicy _ rfl rfl rfl,
    AnomalyPolicy.policyFrom_of_set hsettable.dcAnomalyPolicy _ rfl rfl rfl,
    envU32Or_of_set _ rfl hsettable.dcMonitorWarmupCycles,
    envU32Or_of_set _ rfl hsettable.dcSyncThresholdNs,
    envU32Or_of_set _ rfl hsettable.healthyDwellCycles,
    envU32AllowZeroOr_of_set _ rfl hsettable.cmdWatchdogMs, hcsv]

/-- A configuration can be asked for just if it is settable. -/
theorem exists_fromEnvironment_iff (config : IghMasterConfig) :
    (∃ environment, fromEnvironment environment = config) ↔ config.Settable := by
  constructor
  · rintro ⟨environment, rfl⟩
    exact settable_fromEnvironment environment
  · exact fun hsettable => ⟨environmentOf config, fromEnvironment_environmentOf hsettable⟩

end IghMasterConfig

end IghMaster
