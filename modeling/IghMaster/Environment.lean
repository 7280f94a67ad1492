import IghMaster.Lib.TextTable
import IghMaster.Runtime

/-!
# The configuration of the environment

`fromEnvironment` and what it reads: the text of a variable where it is set and not empty.
-/

namespace IghMaster

open TextTable

abbrev Environment := String → Option (List Char)

/-- What a variable that is set and not empty says, and else the default. -/
def envOr {α : Type} (read : List Char → α) (name : String) (defaultValue : α)
    (environment : Environment) : α :=
  match environment name with
  | some (first :: rest) => read (first :: rest)
  | _ => defaultValue

def isSpace (char : Char) : Bool := char == ' ' || (9 ≤ char.toNat && char.toNat ≤ 13)

/-- `atoi` of the C library: `strtol`, which stops at the limits of a `long`, as an `int`. -/
def atoi (text : List Char) : Int32 :=
  let trimmed := text.dropWhile isSpace
  let signed := trimmed.head? = some '-' ∨ trimmed.head? = some '+'
  let digits := (if signed then trimmed.tail else trimmed).takeWhile Char.isDigit
  let value : Int := if trimmed.head? = some '-' then -(readNat 10 digits) else readNat 10 digits
  Int32.ofInt
    (if 9223372036854775807 < value then 9223372036854775807
    else if value < -9223372036854775808 then -9223372036854775808
    else value)

def envFlagOr (name : String) (defaultValue : Bool) (environment : Environment) : Bool :=
  envOr (fun text => text.head? != some '0') name defaultValue environment

def envU32Or (name : String) (defaultValue : UInt32) (environment : Environment) : UInt32 :=
  envOr (fun text => if 0 < atoi text then (atoi text).toUInt32 else defaultValue) name defaultValue
    environment

/-- This one lets a zero through. -/
def envU32AllowZeroOr (name : String) (defaultValue : UInt32) (environment : Environment) : UInt32 :=
  envOr (fun text => if 0 ≤ atoi text then (atoi text).toUInt32 else defaultValue) name defaultValue
    environment

namespace IghMasterConfig

/-- The three variables of a policy. -/
def policyFrom (consecutive window windowStop : String) (fallback : AnomalyPolicy)
    (environment : Environment) : AnomalyPolicy where
  consecutiveStop := envU32Or consecutive fallback.consecutiveStop environment
  windowSize := envU32Or window fallback.windowSize environment
  windowStop := envU32Or windowStop fallback.windowStop environment

def fromEnvironment (environment : Environment) : IghMasterConfig :=
  let config : IghMasterConfig := {}
  { busCycleUs := envU32Or "IGH_BUS_CYCLE_US" config.busCycleUs environment
    lockMemory := envFlagOr "IGH_LOCK_MEMORY" true environment
    requireRealtime := envFlagOr "IGH_REQUIRE_REALTIME" true environment
    wkcAnomalyPolicy := policyFrom "IGH_ANOMALY_WKC_CONSEC" "IGH_ANOMALY_WKC_WINDOW"
      "IGH_ANOMALY_WKC_WINDOW_STOP" config.wkcAnomalyPolicy environment
    deadlineAnomalyPolicy := policyFrom "IGH_ANOMALY_DEADLINE_CONSEC" "IGH_ANOMALY_DEADLINE_WINDOW"
      "IGH_ANOMALY_DEADLINE_WINDOW_STOP" config.deadlineAnomalyPolicy environment
    dcAnomalyPolicy := policyFrom "IGH_ANOMALY_DC_CONSEC" "IGH_ANOMALY_DC_WINDOW"
      "IGH_ANOMALY_DC_WINDOW_STOP" config.dcAnomalyPolicy environment
    dcMonitorWarmupCycles := envU32Or "IGH_DC_MONITOR_WARMUP" config.dcMonitorWarmupCycles environment
    dcSyncThresholdNs := envU32Or "IGH_DC_SYNC_THRESHOLD_NS" config.dcSyncThresholdNs environment
    healthyDwellCycles := envU32Or "IGH_HEALTHY_DWELL_CYCLES" config.healthyDwellCycles environment
    cmdWatchdogMs := envU32AllowZeroOr "IGH_CMD_WATCHDOG_MS" config.cmdWatchdogMs environment
    csvCmdWatchdog := envFlagOr "IGH_CSV_CMD_WATCHDOG" false environment }

end IghMasterConfig

/-! ### What can be asked for -/

/-- The number fits an `int`. -/
def FitsInt (value : UInt32) : Prop := value.toNat < 2147483648

instance (value : UInt32) : Decidable (FitsInt value) := inferInstanceAs (Decidable (_ < _))

structure AnomalyPolicy.Settable (policy : AnomalyPolicy) : Prop where
  consecutiveStop : 0 < policy.consecutiveStop.toNat ∧ FitsInt policy.consecutiveStop
  windowSize : 0 < policy.windowSize.toNat ∧ FitsInt policy.windowSize
  windowStop : 0 < policy.windowStop.toNat ∧ FitsInt policy.windowStop

/-- Every number is positive and fits an `int`; only the watchdog can be switched off. -/
structure IghMasterConfig.Settable (config : IghMasterConfig) : Prop where
  busCycleUs : 0 < config.busCycleUs.toNat ∧ FitsInt config.busCycleUs
  wkcAnomalyPolicy : config.wkcAnomalyPolicy.Settable
  deadlineAnomalyPolicy : config.deadlineAnomalyPolicy.Settable
  dcAnomalyPolicy : config.dcAnomalyPolicy.Settable
  dcMonitorWarmupCycles : 0 < config.dcMonitorWarmupCycles.toNat ∧ FitsInt config.dcMonitorWarmupCycles
  dcSyncThresholdNs : 0 < config.dcSyncThresholdNs.toNat ∧ FitsInt config.dcSyncThresholdNs
  healthyDwellCycles : 0 < config.healthyDwellCycles.toNat ∧ FitsInt config.healthyDwellCycles
  cmdWatchdogMs : FitsInt config.cmdWatchdogMs

end IghMaster
