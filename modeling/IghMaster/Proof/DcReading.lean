import Mathlib.Data.BitVec
import IghMaster.Proof.DcDeviation

/-!
# Reading the reference clock

After the warm-up a call reads the reference clock unless it backs off, and it backs off for fewer than
25000 calls at a time: the interval changes only in a call that reads. So the clock is never given up,
and a clock that answers is read in every call from the next attempt on. The counters of successes and
of failures are not kept from growing, and leave `int` in runs that are long enough.
-/

namespace IghMaster

open Transition

def intMax : Nat := 2147483647

namespace EtherCATSync

def attempts : RefRead → Bool
  | .failed => true
  | .read _ => true
  | _ => false

def attemptsRead (visit : DcVisit) : Bool := attempts (visit.before.refRead visit.action)

/-- The calls that back off before the next one reads the clock. -/
def waitingCalls (sync : EtherCATSync) : Nat :=
  if sync.refClockBackoff then
    sync.backoffInterval - 1 - sync.refClockProcessCycle % sync.backoffInterval
  else 0

theorem backoffInterval_pos (sync : EtherCATSync) : 0 < sync.backoffInterval := by
  unfold backoffInterval
  split
  · decide
  · split <;> decide

theorem backoffInterval_le (sync : EtherCATSync) : sync.backoffInterval ≤ refClockBackoffMaxCycles := by
  unfold backoffInterval
  split
  · exact Nat.le_refl _
  · split <;> decide

theorem waitingCalls_lt (sync : EtherCATSync) : sync.waitingCalls < refClockBackoffMaxCycles := by
  have hpos := sync.backoffInterval_pos
  have hle := sync.backoffInterval_le
  unfold waitingCalls
  split
  · omega
  · omega

/-- The next multiple of the interval is as far as the remainder leaves. -/
theorem succ_mod_eq_zero_iff {interval : Nat} (hpos : 0 < interval) (cycle : Nat) :
    (cycle + 1) % interval = 0 ↔ interval - 1 - cycle % interval = 0 := by
  have hlt := Nat.mod_lt cycle hpos
  have hsucc : (cycle + 1) % interval = (cycle % interval + 1) % interval := by
    rw [Nat.mod_add_mod]
  rw [hsucc]
  rcases Nat.lt_or_ge (cycle % interval + 1) interval with hinside | hlast
  · rw [Nat.mod_eq_of_lt hinside]
    omega
  · have hfull : cycle % interval + 1 = interval := by omega
    rw [hfull, Nat.mod_self]
    omega

theorem succ_mod_of_ne_zero {interval cycle : Nat} (hpos : 0 < interval)
    (hne : (cycle + 1) % interval ≠ 0) : (cycle + 1) % interval = cycle % interval + 1 := by
  have hlt := Nat.mod_lt cycle hpos
  have hinside : cycle % interval + 1 < interval := by
    rw [Ne, succ_mod_eq_zero_iff hpos] at hne
    omega
  rw [← Nat.mod_add_mod, Nat.mod_eq_of_lt hinside]

/-! ### What a call does to the counters -/

/-- What decides which calls read the clock. -/
structure ReadState where
  consecutiveRefSuccesses : Nat
  refClockProcessCycle : Nat
  refClockFailStreak : Nat
  refClockBackoff : Bool

def readState (sync : EtherCATSync) : ReadState where
  consecutiveRefSuccesses := sync.consecutiveRefSuccesses
  refClockProcessCycle := sync.refClockProcessCycle
  refClockFailStreak := sync.refClockFailStreak
  refClockBackoff := sync.refClockBackoff

theorem readState_updatePll (sync : EtherCATSync) : sync.updatePll.readState = sync.readState := by
  unfold updatePll adjustFilter
  dsimp only
  split
  · split
    · rfl
    · rfl
  · rfl

variable {sync : EtherCATSync} {input : DcInput}

theorem readState_next (input : DcInput) (hmaster : sync.hasMaster = true) :
    (machine.next sync input).readState =
      ((sync.enter input.appTimeNs).applyRead (sync.refRead input)).readState := by
  rw [next_eq input hmaster]
  split
  · exact readState_updatePll _
  · rfl

theorem refClockFailStreak_next (input : DcInput) (hmaster : sync.hasMaster = true) :
    (machine.next sync input).refClockFailStreak =
      match sync.refRead input with
      | .failed => sync.refClockFailStreak + 1
      | .read _ => 0
      | _ => sync.refClockFailStreak := by
  have hafter : (machine.next sync input).refClockFailStreak =
      ((sync.enter input.appTimeNs).applyRead (sync.refRead input)).refClockFailStreak :=
    congrArg ReadState.refClockFailStreak (readState_next input hmaster)
  rw [hafter]
  cases sync.refRead input <;> rfl

theorem refClockBackoff_next (input : DcInput) (hmaster : sync.hasMaster = true) :
    (machine.next sync input).refClockBackoff =
      match sync.refRead input with
      | .failed =>
          sync.refClockBackoff || sync.refClockFailStreak + 1 == refClockFailEnterBackoff
      | .read _ => false
      | _ => sync.refClockBackoff := by
  have hafter : (machine.next sync input).refClockBackoff =
      ((sync.enter input.appTimeNs).applyRead (sync.refRead input)).refClockBackoff :=
    congrArg ReadState.refClockBackoff (readState_next input hmaster)
  rw [hafter]
  cases sync.refRead input <;> rfl

/-- Backing off follows the count of failures in a row. -/
theorem backoff_iff_next (input : DcInput) (hmaster : sync.hasMaster = true)
    (hbackoff : sync.refClockBackoff = true ↔ refClockFailEnterBackoff ≤ sync.refClockFailStreak) :
    (machine.next sync input).refClockBackoff = true ↔
      refClockFailEnterBackoff ≤ (machine.next sync input).refClockFailStreak := by
  rw [refClockBackoff_next input hmaster, refClockFailStreak_next input hmaster]
  cases sync.refRead input with
  | failed =>
      rw [Bool.or_eq_true, hbackoff, beq_iff_eq]
      change _ ↔ refClockFailEnterBackoff ≤ sync.refClockFailStreak + 1
      omega
  | read timeLow =>
      have hfew : ¬ refClockFailEnterBackoff ≤ 0 := by decide
      exact iff_of_false Bool.false_ne_true hfew
  | _ => exact hbackoff

/-- What holds of the object from its initialisation on. -/
structure Initialised (sync : EtherCATSync) : Prop where
  hasMaster : sync.hasMaster = true
  enabled : sync.refClockReadDisabled = false
  successes : sync.refClockBackoff = true → sync.consecutiveRefSuccesses = 0

/-- The next call is not one of the warm-up. -/
structure Warm (sync : EtherCATSync) : Prop extends Initialised sync where
  warm : sync.warmupCyclesRemaining - 1 = 0

theorem initialised_initializeSync (cycleTimeNs : UInt32) (nowNs : UInt64) (sync : EtherCATSync) :
    (sync.initializeSync cycleTimeNs nowNs).Initialised where
  hasMaster := rfl
  enabled := rfl
  successes := fun hbackoff => absurd hbackoff Bool.false_ne_true

theorem memory_next (input : DcInput) (hmaster : sync.hasMaster = true) :
    (machine.next sync input).hasMaster = sync.hasMaster ∧
      (machine.next sync input).refClockReadDisabled = sync.refClockReadDisabled ∧
      (machine.next sync input).warmupCyclesRemaining = sync.warmupCyclesRemaining - 1 := by
  have hmemory : (machine.next sync input).memory.hasMaster = sync.memory.hasMaster ∧
      (machine.next sync input).memory.refClockReadDisabled = sync.memory.refClockReadDisabled ∧
      (machine.next sync input).memory.warmupCyclesRemaining =
        sync.memory.warmupCyclesRemaining - 1 := by
    rw [next_eq input hmaster]
    split
    · rw [(updatePll_kept _).1, memory_applyRead]
      exact ⟨rfl, rfl, rfl⟩
    · rw [memory_applyRead]
      exact ⟨rfl, rfl, rfl⟩
  exact hmemory

theorem Initialised.next (hsync : sync.Initialised) (input : DcInput) :
    (machine.next sync input).Initialised := by
  obtain ⟨hmaster, henabled, -⟩ := memory_next input hsync.hasMaster
  have hafter := readState_next input hsync.hasMaster
  refine ⟨hmaster.trans hsync.hasMaster, henabled.trans hsync.enabled, ?_⟩
  have hsuccesses : (machine.next sync input).readState.refClockBackoff = true →
      (machine.next sync input).readState.consecutiveRefSuccesses = 0 := by
    rw [hafter]
    cases sync.refRead input with
    | failed => exact fun _ => rfl
    | read timeLow => exact fun hbackoff => absurd hbackoff Bool.false_ne_true
    | _ => exact hsync.successes
  exact hsuccesses

theorem Initialised.run (hsync : sync.Initialised) (inputs : List DcInput) :
    (machine.run sync inputs).Initialised := by
  induction inputs generalizing sync with
  | nil => exact hsync
  | cons input inputs ih => exact ih (hsync.next input)

theorem Warm.next (hwarm : sync.Warm) (input : DcInput) : (machine.next sync input).Warm := by
  refine ⟨hwarm.toInitialised.next input, ?_⟩
  rw [(memory_next _ hwarm.hasMaster).2.2, hwarm.warm]

/-- A call after the warm-up either backs off, or reads the clock, with one of two outcomes. -/
inductive ReadStep (sync : EtherCATSync) (input : DcInput) (after : EtherCATSync) : Prop where
  | backoff (houtcome : sync.refRead input = .backoff) (hbackoff : sync.refClockBackoff = true)
      (hwaiting : after.waitingCalls + 1 = sync.waitingCalls)
      (hafter : after.readState =
        { sync.readState with refClockProcessCycle := sync.refClockProcessCycle + 1 })
  | failed (houtcome : sync.refRead input = .failed) (hwaiting : sync.waitingCalls = 0)
      (hclock : input.referenceClock = none)
      (hafter : after.readState =
        { consecutiveRefSuccesses := 0
          refClockProcessCycle := sync.refClockProcessCycle + 1
          refClockFailStreak := sync.refClockFailStreak + 1
          refClockBackoff :=
            sync.refClockBackoff || sync.refClockFailStreak + 1 == refClockFailEnterBackoff })
  | read (timeLow : UInt32) (houtcome : sync.refRead input = .read timeLow)
      (hwaiting : sync.waitingCalls = 0) (hclock : input.referenceClock = some timeLow)
      (hafter : after.readState =
        { consecutiveRefSuccesses := sync.consecutiveRefSuccesses + 1
          refClockProcessCycle := sync.refClockProcessCycle + 1
          refClockFailStreak := 0
          refClockBackoff := false })

theorem waitingCalls_congr {first second : EtherCATSync} (hsame : first.readState = second.readState) :
    first.waitingCalls = second.waitingCalls := by
  obtain ⟨-, hcycle, hstreak, hbackoff⟩ := ReadState.mk.inj hsame
  unfold waitingCalls backoffInterval
  rw [hcycle, hstreak, hbackoff]

theorem Warm.readStep (hwarm : sync.Warm) (input : DcInput) :
    ReadStep sync input (machine.next sync input) := by
  have houtcome := refRead_of_enabled input hwarm.enabled
  have hafter := readState_next input hwarm.hasMaster
  have hpos := sync.backoffInterval_pos
  rw [if_neg (not_not.mpr hwarm.warm)] at houtcome
  by_cases hskip : (sync.refClockBackoff &&
      (sync.refClockProcessCycle + 1) % sync.backoffInterval != 0) = true
  · rw [if_pos hskip] at houtcome
    rw [houtcome] at hafter
    obtain ⟨hbackoff, hne⟩ := Bool.and_eq_true_iff.mp hskip
    have hmod := succ_mod_of_ne_zero hpos (bne_iff_ne.mp hne)
    have hlt := Nat.mod_lt (sync.refClockProcessCycle + 1) hpos
    refine .backoff houtcome hbackoff ?_ hafter
    have hheld : (sync.enter input.appTimeNs).holdLastGood.waitingCalls =
        sync.backoffInterval - 1 - (sync.refClockProcessCycle + 1) % sync.backoffInterval :=
      if_pos hbackoff
    rw [waitingCalls_congr hafter]
    change (sync.enter input.appTimeNs).holdLastGood.waitingCalls + 1 = _
    rw [hheld, waitingCalls, if_pos hbackoff]
    omega
  · rw [if_neg hskip] at houtcome
    have hwaiting : sync.waitingCalls = 0 := by
      unfold waitingCalls
      split
      · rename_i hbackoff
        rw [hbackoff, Bool.true_and, bne_iff_ne, not_not] at hskip
        exact (succ_mod_eq_zero_iff hpos _).mp hskip
      · rfl
    cases hclock : input.referenceClock with
    | none =>
        rw [hclock] at houtcome
        rw [houtcome] at hafter
        exact .failed houtcome hwaiting hclock hafter
    | some timeLow =>
        rw [hclock] at houtcome
        rw [houtcome] at hafter
        exact .read timeLow houtcome hwaiting hclock hafter

/-! ### The warm-up -/

theorem run_warmup {warmup : List DcInput} (hsync : sync.Initialised)
    (hremaining : sync.warmupCyclesRemaining = warmup.length + 1) :
    (machine.run sync warmup).Warm ∧ (machine.run sync warmup).readState = sync.readState := by
  induction warmup generalizing sync with
  | nil =>
      rw [List.length_nil, Nat.zero_add] at hremaining
      refine ⟨⟨hsync, ?_⟩, rfl⟩
      change sync.warmupCyclesRemaining - 1 = 0
      rw [hremaining]
  | cons input warmup ih =>
      rw [List.length_cons] at hremaining
      have hcold : sync.warmupCyclesRemaining - 1 ≠ 0 := by omega
      have houtcome := (refRead_eq_warmup_iff input hsync.enabled).mpr hcold
      have hafter := readState_next input hsync.hasMaster
      rw [houtcome] at hafter
      have hnext : (machine.next sync input).warmupCyclesRemaining = warmup.length + 1 := by
        rw [(memory_next _ hsync.hasMaster).2.2]
        omega
      obtain ⟨hwarm, hsame⟩ := ih (hsync.next input) hnext
      exact ⟨hwarm, hsame.trans hafter⟩

/-! ### The clock is never given up -/

/-- Failures in a row are counted in an `int`, backing off follows the count, a call that need not back
off reads the clock, and so does one of any 25000 calls in a row. -/
structure KeepsReading (config : DcConfig) : Prop where
  inRange : config.state.refClockFailStreak ≤ intMax
  backoff_iff : config.state.refClockBackoff = true ↔
    refClockFailEnterBackoff ≤ config.state.refClockFailStreak
  reads : ∀ visit ∈ config.history, visit.before.refClockBackoff = false → attemptsRead visit = true
  recent : 25000 ≤ config.history.length →
    ∃ visit ∈ config.history.take 25000, attemptsRead visit = true

/-- What holds of the readings since the warm-up, in runs of any length. -/
structure ReadsOn (config : DcConfig) : Prop where
  warm : config.state.Warm
  backoff_iff : config.state.refClockBackoff = true ↔
    refClockFailEnterBackoff ≤ config.state.refClockFailStreak
  reads : ∀ visit ∈ config.history, visit.before.refClockBackoff = false → attemptsRead visit = true
  quiet : ∀ count ≤ config.history.length,
    (∀ visit ∈ config.history.take count, attemptsRead visit = false) →
      count + config.state.waitingCalls < refClockBackoffMaxCycles

section Reads

variable {config : DcConfig}

theorem ReadsOn.of_attempt (hreads : ReadsOn config)
    (hattempt : attempts (config.state.refRead input) = true) :
    ReadsOn (machine.advance config input) where
  warm := hreads.warm.next input
  backoff_iff := backoff_iff_next input hreads.warm.hasMaster hreads.backoff_iff
  reads := by
    intro visit hmem hnot
    rcases List.mem_cons.mp hmem with rfl | hmem
    · exact hattempt
    · exact hreads.reads visit hmem hnot
  quiet := by
    intro count hle hquiet
    cases count with
    | zero =>
        rw [Nat.zero_add]
        exact waitingCalls_lt _
    | succ count =>
        have hnew := hquiet (machine.visit config.state input) (by simp)
        exact absurd (hattempt.symm.trans hnew) Bool.noConfusion

theorem ReadsOn.advance (hreads : ReadsOn config) (input : DcInput) :
    ReadsOn (machine.advance config input) := by
  have hwarm := hreads.warm.next input
  have hiff := backoff_iff_next input hreads.warm.hasMaster hreads.backoff_iff
  rcases hreads.warm.readStep input with
    ⟨-, hbackoff, hwaiting, -⟩ | ⟨houtcome, -, -, -⟩ | ⟨timeLow, houtcome, -, -, -⟩
  · refine ⟨hwarm, hiff, fun visit hmem hnot => ?_, fun count hle hquiet => ?_⟩
    · rcases List.mem_cons.mp hmem with rfl | hmem
      · exact absurd (hbackoff.symm.trans hnot) Bool.noConfusion
      · exact hreads.reads visit hmem hnot
    · cases count with
      | zero =>
          rw [Nat.zero_add]
          exact waitingCalls_lt _
      | succ count =>
          have hearlier := hreads.quiet count (by simpa using hle) fun visit hmem =>
            hquiet visit (by simp [hmem])
          rw [Machine.advance_state]
          omega
  · exact hreads.of_attempt (by rw [houtcome]; rfl)
  · exact hreads.of_attempt (by rw [houtcome]; rfl)

theorem ReadsOn.keepsReading_iff (hreads : ReadsOn config) :
    KeepsReading config ↔ config.state.refClockFailStreak ≤ intMax := by
  refine ⟨KeepsReading.inRange, fun hrange => ⟨hrange, hreads.backoff_iff, hreads.reads, ?_⟩⟩
  intro hlong
  by_contra hnone
  have hquiet : ∀ visit ∈ config.history.take 25000, attemptsRead visit = false := by
    intro visit hmem
    by_contra hread
    exact hnone ⟨visit, hmem, Bool.not_eq_false _ ▸ hread⟩
  have hfew := hreads.quiet 25000 hlong hquiet
  change 25000 + config.state.waitingCalls < 25000 at hfew
  omega

/-- A failed reading is counted. -/
def CountsFailure (config : DcConfig) (input : DcInput) : Prop :=
  config.state.refRead input = .failed → config.state.refClockFailStreak < intMax

instance (config : DcConfig) (input : DcInput) : Decidable (CountsFailure config input) :=
  inferInstanceAs (Decidable (_ → _))

theorem ReadsOn.keepsReading_advance_iff (hreads : ReadsOn config) (hkeeps : KeepsReading config)
    (input : DcInput) :
    KeepsReading (machine.advance config input) ↔ CountsFailure config input := by
  have hrange := hkeeps.inRange
  rw [(hreads.advance input).keepsReading_iff, Machine.advance_state, CountsFailure,
    refClockFailStreak_next input hreads.warm.hasMaster]
  cases config.state.refRead input with
  | failed =>
      constructor
      · intro hcounted _
        exact hcounted
      · exact fun hcounts => hcounts rfl
  | read timeLow => exact iff_of_true (Nat.zero_le _) RefRead.noConfusion
  | _ => exact iff_of_true hrange RefRead.noConfusion

theorem readsOn_start (hwarm : sync.Warm)
    (hbackoff : sync.refClockBackoff = true ↔ refClockFailEnterBackoff ≤ sync.refClockFailStreak) :
    ReadsOn (.start sync) where
  warm := hwarm
  backoff_iff := hbackoff
  reads := fun visit hmem => absurd hmem List.not_mem_nil
  quiet := by
    intro count hle hquiet
    have hzero : count = 0 := Nat.le_zero.mp hle
    rw [hzero, Nat.zero_add]
    exact waitingCalls_lt _

theorem ReadsOn.always_iff (hreads : ReadsOn config) (hkeeps : KeepsReading config)
    (calls : List DcInput) :
    machine.Always KeepsReading config calls ↔ machine.Meets CountsFailure config calls :=
  machine.always_iff_meets_of_holds
    (fun _ call hreads hkeeps => ⟨hreads.advance call, hreads.keepsReading_advance_iff hkeeps call⟩)
    hreads hkeeps

/-- A clock that never answers fails at least one reading in 25000 calls. -/
theorem length_le_of_fails (hwarm : sync.Warm) (hbackoff : sync.refClockBackoff = false)
    {calls : List DcInput} (hfails : ∀ call ∈ calls, call.referenceClock = none) :
    calls.length ≤ refClockBackoffMaxCycles *
      (machine.exec (.start sync) calls).state.refClockFailStreak := by
  have hstep : ∀ (config : DcConfig) (call : DcInput),
      config.state.Warm ∧ config.history.length + config.state.waitingCalls ≤
        refClockBackoffMaxCycles * config.state.refClockFailStreak →
      call.referenceClock = none →
      (machine.advance config call).state.Warm ∧
        (machine.advance config call).history.length +
            (machine.advance config call).state.waitingCalls ≤
          refClockBackoffMaxCycles * (machine.advance config call).state.refClockFailStreak := by
    rintro config call ⟨hwarm, hbound⟩ hnone
    refine ⟨hwarm.next call, ?_⟩
    rw [Machine.advance_history, List.length_cons, Machine.advance_state,
      refClockFailStreak_next call hwarm.hasMaster]
    rcases hwarm.readStep call with
      ⟨houtcome, -, hwaiting, -⟩ | ⟨houtcome, hwaiting, -, -⟩ | ⟨timeLow, -, -, hclock, -⟩
    · rw [houtcome]
      dsimp only
      omega
    · have hlt := waitingCalls_lt (machine.next config.state call)
      rw [houtcome]
      dsimp only
      rw [Nat.mul_add_one]
      omega
    · exact absurd (hnone.symm.trans hclock) (by simp)
  have hwaiting : sync.waitingCalls = 0 := by
    rw [waitingCalls, hbackoff, if_neg Bool.false_ne_true]
  have hmeets : machine.Meets (fun _ call => call.referenceClock = none) (.start sync) calls :=
    machine.meets_of_forall_mem hfails
  have hstart : (Config.start sync : DcConfig).state.Warm ∧
      (Config.start sync : DcConfig).history.length + sync.waitingCalls ≤
        refClockBackoffMaxCycles * sync.refClockFailStreak := ⟨hwarm, by simp [hwaiting]⟩
  have hend := machine.exec_invariant_of_meets hstep hstart hmeets
  have hlength := machine.length_history_exec (.start sync) calls
  rw [Config.history_start, List.length_nil, Nat.zero_add] at hlength
  calc calls.length
      = (machine.exec (.start sync) calls).history.length := hlength.symm
    _ ≤ _ := Nat.le_trans (Nat.le_add_right _ _) hend.2

end Reads

section AfterWarmup

variable (sync) (cycleTimeNs : UInt32) (nowNs : UInt64) {warmup : List DcInput}
  (hwarmup : warmup.length + 1 = refClockWarmupCycles)
include hwarmup

theorem readsOn_warmup :
    ReadsOn (.start (machine.run (sync.initializeSync cycleTimeNs nowNs) warmup)) ∧
      (machine.run (sync.initializeSync cycleTimeNs nowNs) warmup).refClockBackoff = false ∧
      (machine.run (sync.initializeSync cycleTimeNs nowNs) warmup).refClockFailStreak = 0 := by
  obtain ⟨hwarm, hsame⟩ :=
    run_warmup (initialised_initializeSync cycleTimeNs nowNs sync) hwarmup.symm
  have hbackoff : (machine.run (sync.initializeSync cycleTimeNs nowNs) warmup).refClockBackoff =
      false := congrArg ReadState.refClockBackoff hsame
  have hstreak : (machine.run (sync.initializeSync cycleTimeNs nowNs) warmup).refClockFailStreak =
      0 := congrArg ReadState.refClockFailStreak hsame
  refine ⟨readsOn_start hwarm ?_, hbackoff, hstreak⟩
  rw [hbackoff, hstreak]
  decide

theorem keepsReading_warmup :
    KeepsReading (.start (machine.run (sync.initializeSync cycleTimeNs nowNs) warmup)) := by
  obtain ⟨hreads, -, hstreak⟩ := readsOn_warmup sync cycleTimeNs nowNs hwarmup
  rw [hreads.keepsReading_iff, Config.state_start, hstreak]
  exact Nat.zero_le _

/-- The clock is kept being read just as long as the failures in a row can be counted. -/
theorem alwaysKeepsReading_iff (calls : List DcInput) :
    machine.Always KeepsReading
        (.start (machine.run (sync.initializeSync cycleTimeNs nowNs) warmup)) calls ↔
      machine.Meets CountsFailure
        (.start (machine.run (sync.initializeSync cycleTimeNs nowNs) warmup)) calls :=
  (readsOn_warmup sync cycleTimeNs nowNs hwarmup).1.always_iff
    (keepsReading_warmup sync cycleTimeNs nowNs hwarmup) calls

end AfterWarmup

def silentClock : DcInput := { appTimeNs := 0, referenceClock := none }

theorem alwaysKeepsReading_silentClock :
    machine.Always KeepsReading (.start (machine.run
        (({} : EtherCATSync).initializeSync twoMs 0) (List.replicate 99 silentClock)))
      (List.replicate 13 silentClock) :=
  (alwaysKeepsReading_iff {} twoMs 0 (by rw [List.length_replicate]; rfl) _).mpr
    (by decide +kernel)

/-- A clock that never answers: after 2^31 failed readings the count has left `int`. -/
theorem not_alwaysKeepsReading :
    ¬ ∀ (cycleTimeNs : UInt32) (nowNs : UInt64) (sync : EtherCATSync) (warmup : List DcInput),
      warmup.length + 1 = refClockWarmupCycles → ∀ calls : List DcInput, calls.length < 2 ^ 64 →
        machine.Always KeepsReading
          (.start (machine.run (sync.initializeSync cycleTimeNs nowNs) warmup)) calls := by
  intro hall
  have hwarmup : (List.replicate 99 silentClock).length + 1 = refClockWarmupCycles := by
    rw [List.length_replicate]
    rfl
  obtain ⟨hreads, hbackoff, -⟩ := readsOn_warmup {} twoMs 0 hwarmup
  obtain ⟨calls, hlength, hfails⟩ : ∃ calls : List DcInput,
      calls.length = refClockBackoffMaxCycles * (intMax + 1) ∧
        ∀ call ∈ calls, call.referenceClock = none :=
    ⟨List.replicate _ silentClock, List.length_replicate, fun call hmem => by
      rw [List.eq_of_mem_replicate hmem]; rfl⟩
  have halways := hall twoMs 0 {} _ hwarmup calls (by rw [hlength]; decide +kernel)
  have hrange := halways.exec.inRange
  have hlong := length_le_of_fails hreads.warm hbackoff hfails
  rw [hlength, Config.state_start] at hlong
  have hle := Nat.le_of_mul_le_mul_left hlong (by decide : 0 < refClockBackoffMaxCycles)
  exact absurd (Nat.le_trans hle hrange) (Nat.not_succ_le_self intMax)

/-! ### The PLL stays active -/

/-- The successes in a row are counted in an `int`, and a call after two of them updates the PLL. -/
structure StaysActive (config : DcConfig) : Prop where
  inRange : config.state.consecutiveRefSuccesses ≤ intMax
  updates : ∀ visit earlier, config.history = visit :: earlier → 2 ≤ earlier.countP readsClock →
    updatesPll visit = true

/-- What holds after the warm-up while the clock answers. -/
structure Answered (config : DcConfig) : Prop where
  warm : config.state.Warm
  successes : 0 < config.history.countP readsClock → config.state.refClockBackoff = false ∧
    config.history.countP readsClock ≤ config.state.consecutiveRefSuccesses
  updates : ∀ visit earlier, config.history = visit :: earlier → 2 ≤ earlier.countP readsClock →
    updatesPll visit = true

section Answers

variable {config : DcConfig} {timeLow : UInt32}

theorem waitingCalls_of_not_backoff (hbackoff : sync.refClockBackoff = false) :
    sync.waitingCalls = 0 := by
  rw [waitingCalls, hbackoff, if_neg Bool.false_ne_true]

theorem Answered.unread_of_backoff (hanswered : Answered config)
    (hbackoff : config.state.refClockBackoff = true) : config.history.countP readsClock = 0 := by
  by_contra hsome
  have hnot := (hanswered.successes (Nat.pos_of_ne_zero hsome)).1
  exact absurd (hbackoff.symm.trans hnot) Bool.noConfusion

theorem Answered.countP_le (hanswered : Answered config) :
    config.history.countP readsClock ≤ config.state.consecutiveRefSuccesses := by
  rcases Nat.eq_zero_or_pos (config.history.countP readsClock) with hnone | hsome
  · rw [hnone]
    exact Nat.zero_le _
  · exact (hanswered.successes hsome).2

/-- A call that the clock answers reads it, or waits for the next attempt. -/
theorem Answered.advance (hanswered : Answered config)
    (hclock : input.referenceClock = some timeLow) :
    Answered (machine.advance config input) ∧
      (0 < config.state.waitingCalls ∧ config.state.consecutiveRefSuccesses = 0 ∧
          (machine.advance config input).state.consecutiveRefSuccesses = 0 ∧
          (machine.advance config input).state.waitingCalls + 1 = config.state.waitingCalls ∨
        config.state.waitingCalls = 0 ∧
          (machine.advance config input).state.consecutiveRefSuccesses =
            config.state.consecutiveRefSuccesses + 1 ∧
          (machine.advance config input).state.waitingCalls = 0) := by
  have hwarm := hanswered.warm.next input
  rcases hanswered.warm.readStep input with
    ⟨houtcome, hbackoff, hwaiting, hafter⟩ | ⟨-, -, hnone, -⟩ |
    ⟨other, houtcome, hwaiting, -, hafter⟩
  · have hsuccesses := hanswered.warm.successes hbackoff
    have hstill : (machine.next config.state input).consecutiveRefSuccesses =
        config.state.consecutiveRefSuccesses := congrArg ReadState.consecutiveRefSuccesses hafter
    have hunread : readsClock (machine.visit config.state input) = false := by
      change isRead (config.state.refRead input) = false
      rw [houtcome]
      rfl
    have hnever := hanswered.unread_of_backoff hbackoff
    refine ⟨⟨hwarm, ?_, ?_⟩, Or.inl ⟨by omega, hsuccesses, hstill.trans hsuccesses, hwaiting⟩⟩
    · rw [Machine.advance_history, List.countP_cons_of_neg (by rw [hunread]; simp), hnever]
      exact fun hpos => absurd hpos (Nat.lt_irrefl 0)
    · intro visit earlier hhistory hmany
      obtain ⟨-, rfl⟩ := List.cons.inj hhistory
      omega
  · exact absurd (hnone.symm.trans hclock) (by simp)
  · have hsuccesses : (machine.next config.state input).consecutiveRefSuccesses =
        config.state.consecutiveRefSuccesses + 1 :=
      congrArg ReadState.consecutiveRefSuccesses hafter
    have hnot : (machine.next config.state input).refClockBackoff = false :=
      congrArg ReadState.refClockBackoff hafter
    have hread : readsClock (machine.visit config.state input) = true := by
      change isRead (config.state.refRead input) = true
      rw [houtcome]
      rfl
    have hcount := hanswered.countP_le
    refine ⟨⟨hwarm, fun _ => ⟨hnot, ?_⟩, ?_⟩,
      Or.inr ⟨hwaiting, hsuccesses, waitingCalls_of_not_backoff hnot⟩⟩
    · rw [Machine.advance_history, List.countP_cons_of_pos hread, Machine.advance_state, hsuccesses]
      omega
    · intro visit earlier hhistory hmany
      obtain ⟨rfl, rfl⟩ := List.cons.inj hhistory
      rw [updatesPll, hread, Bool.true_and, decide_eq_true_eq]
      change 3 ≤ config.state.consecutiveRefSuccesses + 1
      omega

theorem Answered.staysActive_iff (hanswered : Answered config) :
    StaysActive config ↔ config.state.consecutiveRefSuccesses ≤ intMax :=
  ⟨StaysActive.inRange, fun hrange => ⟨hrange, hanswered.updates⟩⟩

theorem Answered.always_iff (hanswered : Answered config) {calls : List DcInput}
    (hclock : ∀ call ∈ calls, call.referenceClock.isSome = true) :
    machine.Always StaysActive config calls ↔
      config.state.consecutiveRefSuccesses + (calls.length - config.state.waitingCalls) ≤
        intMax := by
  induction calls generalizing config with
  | nil =>
      rw [List.length_nil, Nat.zero_sub, Nat.add_zero]
      exact hanswered.staysActive_iff
  | cons call calls ih =>
      obtain ⟨timeLow, htime⟩ := Option.isSome_iff_exists.mp (hclock call (by simp))
      obtain ⟨hafter, hcounts⟩ := hanswered.advance htime
      have hrest := ih hafter fun other hmem => hclock other (by simp [hmem])
      rw [Machine.Always, hanswered.staysActive_iff, hrest, List.length_cons]
      omega

end Answers

theorem Initialised.answered_start (hsync : sync.Initialised)
    (hwarm : sync.warmupCyclesRemaining ≤ 1) : Answered (.start sync) where
  warm := ⟨hsync, Nat.sub_eq_zero_of_le hwarm⟩
  successes := fun hpos => absurd hpos (Nat.lt_irrefl 0)
  updates := fun visit earlier hhistory => absurd hhistory.symm (List.cons_ne_nil visit earlier)

/-- While the clock answers, the PLL stays active just as long as the successes can be counted. The
first of them may have to wait for the next attempt. -/
theorem pllStaysActive_iff (cycleTimeNs : UInt32) (nowNs : UInt64) (sync : EtherCATSync)
    (earlier : List DcInput)
    (hwarm : (machine.run (sync.initializeSync cycleTimeNs nowNs) earlier).warmupCyclesRemaining ≤ 1)
    {calls : List DcInput} (hclock : ∀ call ∈ calls, call.referenceClock.isSome = true) :
    machine.Always StaysActive
        (.start (machine.run (sync.initializeSync cycleTimeNs nowNs) earlier)) calls ↔
      (machine.run (sync.initializeSync cycleTimeNs nowNs) earlier).consecutiveRefSuccesses +
          (calls.length -
            (machine.run (sync.initializeSync cycleTimeNs nowNs) earlier).waitingCalls) ≤
        intMax :=
  (((initialised_initializeSync cycleTimeNs nowNs sync).run earlier).answered_start
    hwarm).always_iff hclock

def steadyClock : DcInput := { appTimeNs := 0, referenceClock := some 0 }

theorem pllStaysActive_steadyClock :
    machine.Always StaysActive (.start (machine.run
        (({} : EtherCATSync).initializeSync twoMs 0) (List.replicate 99 silentClock)))
      (List.replicate 5 steadyClock) :=
  (pllStaysActive_iff twoMs 0 {} _ (by decide +kernel) (by decide +kernel)).mpr (by decide +kernel)

/-- The 2^31st success in a row has no `int` to be counted in. -/
theorem not_alwaysPllStaysActive :
    ¬ ∀ (cycleTimeNs : UInt32) (nowNs : UInt64) (sync : EtherCATSync) (earlier : List DcInput),
      (machine.run (sync.initializeSync cycleTimeNs nowNs) earlier).warmupCyclesRemaining ≤ 1 →
        ∀ (count : Nat) (calls : List DcInput), calls.length = count →
          (∀ call ∈ calls, call.referenceClock.isSome = true) →
            machine.Always StaysActive
              (.start (machine.run (sync.initializeSync cycleTimeNs nowNs) earlier)) calls := by
  intro hall
  obtain ⟨calls, hlength, hclock⟩ : ∃ calls : List DcInput, calls.length = intMax + 1 ∧
      ∀ call ∈ calls, call.referenceClock.isSome = true :=
    ⟨List.replicate _ steadyClock, List.length_replicate, fun call hmem => by
      rw [List.eq_of_mem_replicate hmem]; rfl⟩
  obtain ⟨start, hstart⟩ : ∃ start, start = machine.run
      (({} : EtherCATSync).initializeSync twoMs 0) (List.replicate 99 silentClock) := ⟨_, rfl⟩
  have hwarm : start.warmupCyclesRemaining ≤ 1 := by rw [hstart]; decide +kernel
  have hwaiting : start.waitingCalls = 0 := by rw [hstart]; decide +kernel
  have hsync : start.Initialised :=
    hstart ▸ (initialised_initializeSync twoMs 0 {}).run (List.replicate 99 silentClock)
  have halways := hall twoMs 0 {} (List.replicate 99 silentClock) (hstart ▸ hwarm) _ calls hlength
    hclock
  rw [← hstart, (hsync.answered_start hwarm).always_iff hclock, Config.state_start, hlength,
    hwaiting] at halways
  omega

end EtherCATSync

end IghMaster
