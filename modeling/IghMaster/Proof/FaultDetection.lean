import IghMaster.Backend
import IghMaster.Proof.TrackerHistories
import IghMaster.Proof.RuntimeLatches
import IghMaster.RuntimeMachine

/-!
# Exact fault detection

Three trackers are fed one after the other in a Job cycle, each only where the ones before
called for no stop, and a reset clears all of them. What they hold at any time is determined by the
history of the run, and so is the cycle in which one of them calls for a stop.
-/

namespace IghMaster

open Transition

namespace AnomalyTracker

variable {tracker : AnomalyTracker} {observed : List Bool}

theorem Tracks.stopRequired_observe (htracks : tracker.Tracks observed) {policy : AnomalyPolicy}
    (hpolicy : tracker.policy = policy.sanitize) (anomaly : Bool) :
    (tracker.observe anomaly).2.stopRequired =
      IghMasterRuntime.stopsOn policy (anomaly :: observed) := by
  have hafter := htracks.observe anomaly
  have hkept : (tracker.observe anomaly).1.policy = policy.sanitize :=
    (policy_observe tracker anomaly).trans hpolicy
  have hbound : policy.sanitize.consecutiveStop ≤ 2 ^ 32 - 1 := by
    have hword := policy.consecutiveStop.toNat_lt
    change max 1 policy.consecutiveStop.toNat ≤ 2 ^ 32 - 1
    omega
  change (decide ((tracker.observe anomaly).1.policy.consecutiveStop ≤
      (tracker.observe anomaly).1.consecutive) ||
    decide ((tracker.observe anomaly).1.policy.windowStop ≤
      (tracker.observe anomaly).1.windowCount)) = _
  rw [hafter.consecutive_eq, hafter.windowCount_eq, hkept, IghMasterRuntime.stopsOn]
  congr 1
  rw [decide_eq_decide]
  omega

end AnomalyTracker

/-! ### The monitors of a cycle -/

/-- The part of the runtime that the monitors read and write. -/
structure RuntimeMonitors where
  config : IghMasterConfig
  operational : Bool
  commFault : Bool
  wkcTracker : AnomalyTracker
  deadlineTracker : AnomalyTracker
  dcTracker : AnomalyTracker
  dcWarmupRemaining : Nat

namespace RuntimeMonitors

def trip (tripped : Bool) (monitors : RuntimeMonitors) : RuntimeMonitors :=
  { monitors with commFault := monitors.commFault || tripped }

theorem trip_of_not_faulted {monitors : RuntimeMonitors} (hfault : monitors.commFault = false)
    (tripped : Bool) : monitors.trip tripped = { monitors with commFault := tripped } := by
  rw [trip, hfault, Bool.false_or]

def observeWkc (anomaly : Bool) (monitors : RuntimeMonitors) : RuntimeMonitors :=
  if monitors.operational && !monitors.commFault then
    { monitors with
      wkcTracker := (monitors.wkcTracker.observe anomaly).1
      commFault := (monitors.wkcTracker.observe anomaly).2.stopRequired }
  else
    monitors

def observeDeadline (anomaly : Bool) (monitors : RuntimeMonitors) : RuntimeMonitors :=
  if monitors.operational && !monitors.commFault && monitors.config.requireRealtime then
    { monitors with
      deadlineTracker := (monitors.deadlineTracker.observe anomaly).1
      commFault := (monitors.deadlineTracker.observe anomaly).2.stopRequired }
  else
    monitors

def sampleDc (anomaly : Bool) (monitors : RuntimeMonitors) : RuntimeMonitors :=
  if !monitors.operational then monitors
  else if 0 < monitors.dcWarmupRemaining then
    { monitors with dcWarmupRemaining := monitors.dcWarmupRemaining - 1 }
  else if monitors.commFault then monitors
  else
    { monitors with
      dcTracker := (monitors.dcTracker.observe anomaly).1
      commFault := (monitors.dcTracker.observe anomaly).2.stopRequired }

theorem config_observeWkc (anomaly : Bool) (monitors : RuntimeMonitors) :
    (monitors.observeWkc anomaly).config = monitors.config := by
  unfold observeWkc
  split <;> rfl

theorem config_observeDeadline (anomaly : Bool) (monitors : RuntimeMonitors) :
    (monitors.observeDeadline anomaly).config = monitors.config := by
  unfold observeDeadline
  split <;> rfl

theorem cycle_of_not_watched {monitors : RuntimeMonitors}
    (hwatched : (monitors.operational && !monitors.commFault) = false)
    (rxFailed missed outOfSync : Bool) :
    ((monitors.observeWkc rxFailed).observeDeadline missed).sampleDc outOfSync =
      { monitors with
        dcWarmupRemaining :=
          if monitors.operational then monitors.dcWarmupRemaining - 1
          else monitors.dcWarmupRemaining } := by
  have hwkc : monitors.observeWkc rxFailed = monitors := by
    rw [observeWkc, hwatched, if_neg Bool.false_ne_true]
  have hdeadline : monitors.observeDeadline missed = monitors := by
    rw [observeDeadline, hwatched, Bool.false_and, if_neg Bool.false_ne_true]
  rw [hwkc, hdeadline, sampleDc]
  cases hoperational : monitors.operational with
  | false =>
      rw [Bool.not_false, if_pos rfl, if_neg Bool.false_ne_true]
      cases monitors
      simp_all
  | true =>
      have hfault : monitors.commFault = true := by simpa [hoperational] using hwatched
      rw [Bool.not_true, if_neg Bool.false_ne_true, hfault, if_pos rfl, if_pos rfl]
      split
      · cases monitors
        simp_all
      · have hzero : monitors.dcWarmupRemaining = 0 := by omega
        cases monitors
        simp_all

/-- A cycle that is watched: each monitor looks only where the ones before called for no stop. -/
theorem cycle_of_watched (monitors : RuntimeMonitors)
    (hoperational : monitors.operational = true) (hfault : monitors.commFault = false)
    (rxFailed missed outOfSync : Bool) {wkcStop deadlineWatched deadlineStop dcWatched dcStop : Bool}
    (hwkcStop : wkcStop = (monitors.wkcTracker.observe rxFailed).2.stopRequired)
    (hdeadlineWatched : deadlineWatched = (monitors.config.requireRealtime && !wkcStop))
    (hdeadlineStop : deadlineStop =
      (deadlineWatched && (monitors.deadlineTracker.observe missed).2.stopRequired))
    (hdcWatched : dcWatched =
      (!wkcStop && !deadlineStop && decide (monitors.dcWarmupRemaining = 0)))
    (hdcStop : dcStop = (dcWatched && (monitors.dcTracker.observe outOfSync).2.stopRequired)) :
    ((monitors.observeWkc rxFailed).observeDeadline missed).sampleDc outOfSync =
      { monitors with
        wkcTracker := (monitors.wkcTracker.observe rxFailed).1
        deadlineTracker :=
          if deadlineWatched then (monitors.deadlineTracker.observe missed).1
          else monitors.deadlineTracker
        dcTracker :=
          if dcWatched then (monitors.dcTracker.observe outOfSync).1 else monitors.dcTracker
        commFault := wkcStop || deadlineStop || dcStop
        dcWarmupRemaining := monitors.dcWarmupRemaining - 1 } := by
  have hwkc : monitors.observeWkc rxFailed =
      { monitors with
        wkcTracker := (monitors.wkcTracker.observe rxFailed).1, commFault := wkcStop } := by
    rw [observeWkc, hoperational, hfault, Bool.not_false, Bool.and_self, if_pos rfl, hwkcStop]
  have hdeadline : (monitors.observeWkc rxFailed).observeDeadline missed =
      { monitors with
        wkcTracker := (monitors.wkcTracker.observe rxFailed).1
        deadlineTracker :=
          if deadlineWatched then (monitors.deadlineTracker.observe missed).1
          else monitors.deadlineTracker
        commFault := wkcStop || deadlineStop } := by
    rw [hwkc, observeDeadline]
    dsimp only
    rw [hoperational, Bool.true_and, Bool.and_comm (!wkcStop), ← hdeadlineWatched]
    cases hwatched : deadlineWatched with
    | true =>
        have hquiet : wkcStop = false := by
          rw [hwatched] at hdeadlineWatched
          simpa using (Bool.and_eq_true_iff.mp hdeadlineWatched.symm).2
        rw [hwatched, Bool.true_and] at hdeadlineStop
        rw [if_pos rfl, if_pos rfl, hquiet, Bool.false_or, hdeadlineStop]
    | false =>
        rw [hwatched, Bool.false_and] at hdeadlineStop
        rw [if_neg Bool.false_ne_true, if_neg Bool.false_ne_true, hdeadlineStop, Bool.or_false]
  rw [hdeadline, sampleDc]
  dsimp only
  rw [hoperational, Bool.not_true, if_neg Bool.false_ne_true]
  by_cases hwarmup : 0 < monitors.dcWarmupRemaining
  · have hunwatched : dcWatched = false := by
      rw [hdcWatched, decide_eq_false (Nat.ne_of_gt hwarmup), Bool.and_false]
    rw [hunwatched, Bool.false_and] at hdcStop
    rw [if_pos hwarmup, hunwatched, hdcStop, Bool.or_false, if_neg Bool.false_ne_true]
  · have hzero : monitors.dcWarmupRemaining = 0 := Nat.eq_zero_of_not_pos hwarmup
    rw [decide_eq_true hzero, Bool.and_true, ← Bool.not_or] at hdcWatched
    rw [if_neg hwarmup]
    cases hearlier : (wkcStop || deadlineStop) with
    | true =>
        rw [hearlier, Bool.not_true] at hdcWatched
        rw [hdcWatched, Bool.false_and] at hdcStop
        rw [if_pos rfl, hdcWatched, hdcStop, Bool.or_false, if_neg Bool.false_ne_true]
        cases monitors
        simp_all
    | false =>
        rw [hearlier, Bool.not_false] at hdcWatched
        rw [hdcWatched, Bool.true_and] at hdcStop
        rw [if_neg Bool.false_ne_true, hdcWatched, if_pos rfl, Bool.false_or, hdcStop]
        cases monitors
        simp_all

end RuntimeMonitors

namespace IghMasterRuntime

def monitors (runtime : IghMasterRuntime) : RuntimeMonitors where
  config := runtime.config
  operational := runtime.operational
  commFault := runtime.commFault
  wkcTracker := runtime.wkcTracker
  deadlineTracker := runtime.deadlineTracker
  dcTracker := runtime.dcTracker
  dcWarmupRemaining := runtime.dcWarmupRemaining

theorem monitors_latchIf (stop : Bool) (runtime : IghMasterRuntime) :
    (runtime.latchIf stop).monitors = runtime.monitors.trip stop := by
  unfold latchIf RuntimeMonitors.trip
  cases stop with
  | true =>
      change { runtime.monitors with commFault := true } = _
      rw [Bool.or_true]
  | false =>
      change { runtime.monitors with commFault := runtime.monitors.commFault } = _
      rw [Bool.or_false]

theorem monitors_consumePendingDwellFault (runtime : IghMasterRuntime) :
    runtime.consumePendingDwellFault.monitors = runtime.monitors := by
  unfold consumePendingDwellFault
  split <;> rfl

theorem monitors_observeWkc (rxOk : Bool) (runtime : IghMasterRuntime) :
    (runtime.observeWkc rxOk).monitors = runtime.monitors.observeWkc (!rxOk) := by
  unfold observeWkc RuntimeMonitors.observeWkc
  by_cases hwatched : (runtime.operational && !runtime.commFault) = true
  · rw [if_pos hwatched, if_pos (by exact hwatched), monitors_latchIf]
    rw [Bool.and_eq_true, Bool.not_eq_true'] at hwatched
    rw [RuntimeMonitors.trip_of_not_faulted (by exact hwatched.2)]
    rfl
  · rw [if_neg hwatched, if_neg (by exact hwatched)]

theorem monitors_observeDeadline (runtime : IghMasterRuntime) :
    runtime.observeDeadline.monitors =
      runtime.monitors.observeDeadline (!runtime.timingStats.deadlineMet) := by
  unfold observeDeadline RuntimeMonitors.observeDeadline
  by_cases hwatched : (runtime.operational && !runtime.commFault &&
      runtime.config.requireRealtime) = true
  · rw [if_pos hwatched, if_pos (by exact hwatched), monitors_latchIf]
    simp only [Bool.and_eq_true, Bool.not_eq_true'] at hwatched
    rw [RuntimeMonitors.trip_of_not_faulted (by exact hwatched.1.2)]
    rfl
  · rw [if_neg hwatched, if_neg (by exact hwatched)]

theorem monitors_sampleDcMonitor (timing : JobTiming) (runtime : IghMasterRuntime) :
    (runtime.sampleDcMonitor timing).monitors =
      runtime.monitors.sampleDc (dcOutOfSyncAnomaly (runtime.dcSample timing)) := by
  unfold sampleDcMonitor RuntimeMonitors.sampleDc
  dsimp only
  by_cases hidle : (!runtime.operational) = true
  · rw [if_pos hidle, if_pos (by exact hidle)]
    rfl
  rw [if_neg hidle, if_neg (show ¬ (!runtime.monitors.operational) = true from hidle)]
  by_cases hwarmup : 0 < runtime.dcWarmupRemaining
  · rw [if_pos hwarmup, if_pos (by exact hwarmup)]
    rfl
  rw [if_neg hwarmup, if_neg (show ¬ 0 < runtime.monitors.dcWarmupRemaining from hwarmup)]
  by_cases hfault : runtime.commFault = true
  · rw [if_pos hfault, if_pos (by exact hfault)]
    rfl
  rw [if_neg hfault, if_neg (show ¬ runtime.monitors.commFault = true from hfault),
    monitors_latchIf, RuntimeMonitors.trip_of_not_faulted (by simpa [monitors] using hfault)]
  rfl

theorem monitors_finishJobCycle (timing : JobTiming) (rxOk : Bool) (runtime : IghMasterRuntime) :
    (runtime.finishJobCycle timing rxOk).monitors = (runtime.monitorCycle timing rxOk).monitors := by
  rw [finishJobCycle]
  generalize runtime.monitorCycle timing rxOk = monitored
  rfl

theorem monitors_jobCycle {runtime : IghMasterRuntime} (hrunning : runtime.jobRunning = true)
    (input : RuntimeJobInput) :
    (runtime.jobCycle input).monitors =
      (((runtime.monitors.trip input.tripped).observeWkc (!input.rxOk)).observeDeadline
        (missedDeadline (machine.visit runtime (.job input)))).sampleDc
          (dcOutOfSync (machine.visit runtime (.job input))) := by
  let entered := runtime.consumePendingDwellFault.latchIf input.tripped
  let exchanged := { entered with lastRxOk := input.rxOk }.observeWkc input.rxOk
  let timed := exchanged.observeTiming input.timing
  have hentered : entered.monitors = runtime.monitors.trip input.tripped := by
    rw [monitors_latchIf, monitors_consumePendingDwellFault]
  have hexchanged : exchanged.monitors =
      (runtime.monitors.trip input.tripped).observeWkc (!input.rxOk) := by
    rw [← hentered]
    exact monitors_observeWkc input.rxOk { entered with lastRxOk := input.rxOk }
  have hconfig : timed.config = runtime.config := by
    change exchanged.monitors.config = _
    rw [hexchanged, RuntimeMonitors.config_observeWkc]
    rfl
  have hmet : timed.timingStats.deadlineMet =
      (runtime.cycleNs != 0 &&
        decide (input.timing.cycleEndNs ≤ cycleDeadline input.timing.scheduledNs runtime.cycleNs)) := by
    have hcycleNs : exchanged.cycleNs = runtime.cycleNs := by
      unfold cycleNs
      rw [show exchanged.config = runtime.config from hconfig]
    rw [← hcycleNs]
    rfl
  have hmissed : (!timed.timingStats.deadlineMet) =
      missedDeadline (machine.visit runtime (.job input)) := by
    rw [hmet]
    change _ = !(decide (0 < runtime.cycleNs) && _)
    congr 2
    rw [Bool.eq_iff_iff, bne_iff_ne, decide_eq_true_eq]
    exact Nat.pos_iff_ne_zero.symm
  have hchecked : timed.observeDeadline.monitors =
      ((runtime.monitors.trip input.tripped).observeWkc (!input.rxOk)).observeDeadline
        (missedDeadline (machine.visit runtime (.job input))) := by
    rw [monitors_observeDeadline, hmissed, ← hexchanged]
    rfl
  have hsample : timed.observeDeadline.dcSample input.timing = runtime.dcSample input.timing := by
    have hkept : timed.observeDeadline.config = runtime.config := by
      change timed.observeDeadline.monitors.config = _
      rw [monitors_observeDeadline, RuntimeMonitors.config_observeDeadline]
      exact hconfig
    rw [dcSample, dcSample, hkept]
  calc
    (runtime.jobCycle input).monitors = (entered.finishJobCycle input.timing input.rxOk).monitors := by
      rw [jobCycle, if_pos hrunning]
    _ = (timed.observeDeadline.sampleDcMonitor input.timing).monitors :=
      monitors_finishJobCycle input.timing input.rxOk entered
    _ = _ := by
      rw [monitors_sampleDcMonitor, hchecked, hsample]
      rfl

theorem monitors_requestSafeOutput (runtime : IghMasterRuntime) :
    runtime.requestSafeOutput.monitors =
        { runtime.monitors with operational := runtime.requestSafeOutput.operational } ∧
      (runtime.requestSafeOutput.jobRunning = true ↔ runtime.jobRunning = true) := by
  unfold requestSafeOutput
  split
  · exact ⟨rfl, Iff.rfl⟩
  · exact ⟨rfl, Iff.rfl⟩

theorem monitors_releaseSafeOutput (runtime : IghMasterRuntime) :
    runtime.releaseSafeOutput.1.monitors =
        { runtime.monitors with operational := runtime.releaseSafeOutput.1.operational } ∧
      (runtime.releaseSafeOutput.1.jobRunning = true ↔ runtime.jobRunning = true) := by
  unfold releaseSafeOutput
  split
  · exact ⟨rfl, Iff.rfl⟩
  · exact ⟨rfl, Iff.rfl⟩

/-! ### What the trackers hold -/

/-- The trackers hold what was observed since the observations began. Their policies and the warm-up
are those of the configuration that a running Job was started with. -/
structure Detects (config : RuntimeConfig) : Prop where
  wkc : config.state.wkcTracker.Tracks (wkcObserved config.history)
  deadline : config.state.deadlineTracker.Tracks (deadlineObserved config.history)
  dc : config.state.dcTracker.Tracks (dcObserved config.history)
  wkcPolicy : config.state.jobRunning = true →
    config.state.wkcTracker.policy = config.state.config.wkcAnomalyPolicy.sanitize
  deadlinePolicy : config.state.jobRunning = true →
    config.state.deadlineTracker.policy = config.state.config.deadlineAnomalyPolicy.sanitize
  dcPolicy : config.state.jobRunning = true →
    config.state.dcTracker.policy = config.state.config.dcAnomalyPolicy.sanitize
  warmup : config.state.jobRunning = true →
    config.state.dcWarmupRemaining =
      config.state.config.dcMonitorWarmupCycles.toNat - operationalCycles config.history

variable {config : RuntimeConfig} {visit : RuntimeVisit} {earlier : List RuntimeVisit}

theorem isJobCycle_of_isWatched (hwatched : isWatched visit = true) : isJobCycle visit = true := by
  unfold isWatched isUntripped at hwatched
  unfold isJobCycle
  split at hwatched
  · simp only [Bool.and_eq_true] at hwatched
    exact hwatched.1.1.1
  · exact absurd hwatched (by simp)

theorem observed_of_not_watched (earlier : List RuntimeVisit) (hforgets : forgets visit = false)
    (hwatched : isWatched visit = false) :
    wkcObserved (visit :: earlier) = wkcObserved earlier ∧
      deadlineObserved (visit :: earlier) = deadlineObserved earlier ∧
      dcObserved (visit :: earlier) = dcObserved earlier := by
  have hdeadline : watchesDeadline (visit :: earlier) = false := by
    rw [watchesDeadline, hwatched, Bool.false_and, Bool.false_and]
  have hdc : watchesDc (visit :: earlier) = false := by
    rw [watchesDc, hwatched, Bool.false_and, Bool.false_and, Bool.false_and]
  refine ⟨?_, ?_, ?_⟩
  · rw [wkcObserved, hforgets, hwatched, if_neg Bool.false_ne_true, if_neg Bool.false_ne_true]
  · rw [deadlineObserved, hforgets, hdeadline, if_neg Bool.false_ne_true,
      if_neg Bool.false_ne_true]
  · rw [dcObserved, hforgets, hdc, if_neg Bool.false_ne_true, if_neg Bool.false_ne_true]

theorem stops_of_not_watched (earlier : List RuntimeVisit) (hwatched : isWatched visit = false) :
    stopsForWkc (visit :: earlier) = false ∧ stopsForDeadline (visit :: earlier) = false ∧
      stopsForDc (visit :: earlier) = false := by
  refine ⟨?_, ?_, ?_⟩
  · rw [stopsForWkc, hwatched, Bool.false_and]
  · rw [stopsForDeadline, watchesDeadline, hwatched, Bool.false_and, Bool.false_and,
      Bool.false_and]
  · rw [stopsForDc, watchesDc, hwatched, Bool.false_and, Bool.false_and, Bool.false_and,
      Bool.false_and]

/-- What the monitors hold is all there is to detecting. -/
theorem detects_of_monitors {monitors : RuntimeMonitors} (hmonitors : config.state.monitors = monitors)
    (hwkc : monitors.wkcTracker.Tracks (wkcObserved config.history))
    (hdeadline : monitors.deadlineTracker.Tracks (deadlineObserved config.history))
    (hdc : monitors.dcTracker.Tracks (dcObserved config.history))
    (hconfigured : config.state.jobRunning = true →
      monitors.wkcTracker.policy = monitors.config.wkcAnomalyPolicy.sanitize ∧
        monitors.deadlineTracker.policy = monitors.config.deadlineAnomalyPolicy.sanitize ∧
        monitors.dcTracker.policy = monitors.config.dcAnomalyPolicy.sanitize ∧
        monitors.dcWarmupRemaining =
          monitors.config.dcMonitorWarmupCycles.toNat - operationalCycles config.history) :
    Detects config := by
  subst hmonitors
  exact ⟨hwkc, hdeadline, hdc, fun hrunning => (hconfigured hrunning).1,
    fun hrunning => (hconfigured hrunning).2.1, fun hrunning => (hconfigured hrunning).2.2.1,
    fun hrunning => (hconfigured hrunning).2.2.2⟩

/-- What an action that is no Job cycle, or a cycle of a stopped Job, leaves of the observations. -/
theorem Detects.of_kept {config config' : RuntimeConfig} (hdetects : Detects config)
    (hhistory : config'.history = visit :: config.history) (hforgets : forgets visit = false)
    (hjob : isJobCycle visit = false)
    (hmonitors : config'.state.monitors =
      { config.state.monitors with operational := config'.state.operational })
    (hrunning : config'.state.jobRunning = true → config.state.jobRunning = true) :
    Detects config' := by
  have hwatched : isWatched visit = false := by
    rw [← Bool.not_eq_true]
    intro hwatched
    exact Bool.false_ne_true (hjob.symm.trans (isJobCycle_of_isWatched hwatched))
  obtain ⟨hwkc, hdeadline, hdc⟩ := observed_of_not_watched config.history hforgets hwatched
  have hcycles : operationalCycles (visit :: config.history) = operationalCycles config.history := by
    rw [operationalCycles, hforgets, hjob, Bool.false_and, if_neg Bool.false_ne_true,
      if_neg Bool.false_ne_true]
  refine detects_of_monitors hmonitors ?_ ?_ ?_ fun hafter => ?_
  · rw [hhistory, hwkc]
    exact hdetects.wkc
  · rw [hhistory, hdeadline]
    exact hdetects.deadline
  · rw [hhistory, hdc]
    exact hdetects.dc
  · have hbefore := hrunning hafter
    rw [hhistory, hcycles]
    exact ⟨hdetects.wkcPolicy hbefore, hdetects.deadlinePolicy hbefore, hdetects.dcPolicy hbefore,
      hdetects.warmup hbefore⟩

theorem detects_of_forgets {config : RuntimeConfig} (hhistory : config.history = visit :: earlier)
    (hforgets : forgets visit = true)
    (hwkc : config.state.wkcTracker = { policy := config.state.wkcTracker.policy })
    (hdeadline : config.state.deadlineTracker = { policy := config.state.deadlineTracker.policy })
    (hdc : config.state.dcTracker = { policy := config.state.dcTracker.policy })
    (hpolicies : config.state.jobRunning = true →
      config.state.wkcTracker.policy = config.state.config.wkcAnomalyPolicy.sanitize ∧
        config.state.deadlineTracker.policy = config.state.config.deadlineAnomalyPolicy.sanitize ∧
        config.state.dcTracker.policy = config.state.config.dcAnomalyPolicy.sanitize)
    (hwarmup : config.state.dcWarmupRemaining = config.state.config.dcMonitorWarmupCycles.toNat) :
    Detects config := by
  constructor
  · rw [hwkc, hhistory, wkcObserved, if_pos hforgets]
    exact AnomalyTracker.tracks_empty _
  · rw [hdeadline, hhistory, deadlineObserved, if_pos hforgets]
    exact AnomalyTracker.tracks_empty _
  · rw [hdc, hhistory, dcObserved, if_pos hforgets]
    exact AnomalyTracker.tracks_empty _
  · exact fun hrunning => (hpolicies hrunning).1
  · exact fun hrunning => (hpolicies hrunning).2.1
  · exact fun hrunning => (hpolicies hrunning).2.2
  · intro _
    rw [hwarmup, hhistory, operationalCycles, if_pos hforgets, Nat.sub_zero]

/-! ### One action -/

theorem start_of_stopped (input : RuntimeStartInput) {runtime : IghMasterRuntime}
    (hstopped : runtime.jobRunning = false) :
    let started := (runtime.start input).1
    started.config = input.config ∧ started.wkcTracker = .new input.config.wkcAnomalyPolicy ∧
      started.deadlineTracker = .new input.config.deadlineAnomalyPolicy ∧
      started.dcTracker = .new input.config.dcAnomalyPolicy ∧
      started.dcWarmupRemaining = input.config.dcMonitorWarmupCycles.toNat := by
  have hconfigured : (runtime.configure input).1.config = input.config ∧
      (runtime.configure input).1.wkcTracker = .new input.config.wkcAnomalyPolicy ∧
      (runtime.configure input).1.deadlineTracker = .new input.config.deadlineAnomalyPolicy ∧
      (runtime.configure input).1.dcTracker = .new input.config.dcAnomalyPolicy ∧
      (runtime.configure input).1.dcWarmupRemaining =
        input.config.dcMonitorWarmupCycles.toNat := by
    rw [configure, hstopped, if_neg Bool.false_ne_true]
    exact ⟨rfl, rfl, rfl, rfl, rfl⟩
  unfold start
  rw [hstopped, if_neg Bool.false_ne_true]
  dsimp only
  split
  · exact hconfigured
  · split
    · exact hconfigured
    · exact hconfigured

theorem Detects.start (hdetects : Detects config) (input : RuntimeStartInput) :
    Detects (machine.advance config (.start input)) := by
  cases hrunning : config.state.jobRunning with
  | true =>
      have hkept : (config.state.start input).1 = config.state := by
        rw [IghMasterRuntime.start, if_pos hrunning]
      refine hdetects.of_kept rfl ?_ rfl ?_ (fun _ => hrunning)
      · change (false || !config.state.jobRunning) = false
        rw [hrunning]
        rfl
      · change (config.state.start input).1.monitors =
          { config.state.monitors with operational := (config.state.start input).1.operational }
        rw [hkept]
        rfl
  | false =>
      obtain ⟨hconfig, hwkc, hdeadline, hdc, hwarmup⟩ := start_of_stopped input hrunning
      refine detects_of_forgets rfl ?_ ?_ ?_ ?_ (fun _ => ?_) ?_
      · change (false || !config.state.jobRunning) = true
        rw [hrunning]
        rfl
      · change (config.state.start input).1.wkcTracker =
          { policy := (config.state.start input).1.wkcTracker.policy }
        rw [hwkc]
        rfl
      · change (config.state.start input).1.deadlineTracker =
          { policy := (config.state.start input).1.deadlineTracker.policy }
        rw [hdeadline]
        rfl
      · change (config.state.start input).1.dcTracker =
          { policy := (config.state.start input).1.dcTracker.policy }
        rw [hdc]
        rfl
      · change (config.state.start input).1.wkcTracker.policy = _ ∧
          (config.state.start input).1.deadlineTracker.policy = _ ∧
          (config.state.start input).1.dcTracker.policy = _
        rw [hwkc, hdeadline, hdc]
        change _ = (config.state.start input).1.config.wkcAnomalyPolicy.sanitize ∧
          _ = (config.state.start input).1.config.deadlineAnomalyPolicy.sanitize ∧
          _ = (config.state.start input).1.config.dcAnomalyPolicy.sanitize
        rw [hconfig]
        exact ⟨rfl, rfl, rfl⟩
      · change (config.state.start input).1.dcWarmupRemaining =
          (config.state.start input).1.config.dcMonitorWarmupCycles.toNat
        rw [hwarmup, hconfig]

theorem Detects.clearCommFault (hdetects : Detects config) :
    Detects (machine.advance config .clearCommFault) :=
  detects_of_forgets rfl rfl rfl rfl rfl
    (fun hrunning => ⟨hdetects.wkcPolicy hrunning, hdetects.deadlinePolicy hrunning,
      hdetects.dcPolicy hrunning⟩) rfl

/-- The operational cycles are counted whether or not a monitor looks at them. -/
theorem operationalCycles_jobCycle {runtime : IghMasterRuntime}
    (hrunning : runtime.jobRunning = true) (input : RuntimeJobInput)
    (earlier : List RuntimeVisit) :
    operationalCycles (machine.visit runtime (.job input) :: earlier) =
      if runtime.operational then operationalCycles earlier + 1 else operationalCycles earlier := by
  have hforgets : forgets (machine.visit runtime (.job input)) = false := rfl
  have hjob : isJobCycle (machine.visit runtime (.job input)) = true := hrunning
  rw [operationalCycles, hforgets, hjob, Bool.true_and, if_neg Bool.false_ne_true]
  rfl

theorem isWatched_jobCycle {runtime : IghMasterRuntime} (hrunning : runtime.jobRunning = true)
    (input : RuntimeJobInput) :
    isWatched (machine.visit runtime (.job input)) =
      (!input.tripped && (runtime.operational && !runtime.commFault)) := by
  change ((runtime.jobRunning && !input.tripped) && runtime.operational && !runtime.commFault) = _
  rw [hrunning, Bool.true_and, Bool.and_assoc]

/-- A cycle that no monitor looks at: the observations are kept, and only the freshness check can
latch a fault. -/
theorem Detects.jobCycle_of_not_watched (hdetects : Detects config)
    (hrunning : config.state.jobRunning = true) (input : RuntimeJobInput)
    (hwatched : isWatched (machine.visit config.state (.job input)) = false) :
    Detects (machine.advance config (.job input)) ∧
      DetectsExactly (machine.advance config (.job input)) := by
  have hforgets : forgets (machine.visit config.state (.job input)) = false := rfl
  have hcycles := operationalCycles_jobCycle hrunning input config.history
  have hafter := monitors_jobCycle hrunning input
  rw [RuntimeMonitors.cycle_of_not_watched] at hafter
  swap
  · change (config.state.operational && !(config.state.commFault || input.tripped)) = false
    rw [Bool.not_or, ← Bool.and_assoc, Bool.and_comm _ (!input.tripped),
      ← isWatched_jobCycle hrunning input]
    exact hwatched
  obtain ⟨hwkc, hdeadline, hdc⟩ := observed_of_not_watched config.history hforgets hwatched
  constructor
  · refine detects_of_monitors hafter ?_ ?_ ?_ fun _ => ⟨hdetects.wkcPolicy hrunning,
      hdetects.deadlinePolicy hrunning, hdetects.dcPolicy hrunning, ?_⟩
    · rw [Machine.advance_history, hwkc]
      exact hdetects.wkc
    · rw [Machine.advance_history, hdeadline]
      exact hdetects.deadline
    · rw [Machine.advance_history, hdc]
      exact hdetects.dc
    · change (if config.state.operational then config.state.dcWarmupRemaining - 1
        else config.state.dcWarmupRemaining) = config.state.config.dcMonitorWarmupCycles.toNat - _
      rw [Machine.advance_history, hcycles, hdetects.warmup hrunning]
      split <;> omega
  · intro newest past hhistory huntripped hclear
    obtain ⟨rfl, rfl⟩ := List.cons.inj hhistory
    obtain ⟨hnoWkc, hnoDeadline, hnoDc⟩ := stops_of_not_watched config.history hwatched
    have htripped : input.tripped = false := by
      have hboth : (config.state.jobRunning && !input.tripped) = true := huntripped
      simpa [hrunning] using hboth
    have hquiet : (config.state.jobCycle input).commFault = false := by
      have hfault : (config.state.jobCycle input).commFault =
          (config.state.commFault || input.tripped) := congrArg RuntimeMonitors.commFault hafter
      rw [hfault, htripped, Bool.or_false]
      exact hclear
    change (config.state.jobCycle input).commFault = true ↔ _
    rw [Machine.advance_history, hquiet, hnoWkc, hnoDeadline, hnoDc]
    simp

/-- What the monitors look at in a cycle that is watched, and what each of them calls for, in terms of
the trackers. -/
theorem Detects.stops_of_watched (hdetects : Detects config)
    (hrunning : config.state.jobRunning = true) (input : RuntimeJobInput)
    (hwatched : isWatched (machine.visit config.state (.job input)) = true) :
    let visit := machine.visit config.state (.job input)
    let history := visit :: config.history
    stopsForWkc history = (config.state.wkcTracker.observe (rxFailed visit)).2.stopRequired ∧
      watchesDeadline history = (config.state.config.requireRealtime && !stopsForWkc history) ∧
      stopsForDeadline history = (watchesDeadline history &&
        (config.state.deadlineTracker.observe (missedDeadline visit)).2.stopRequired) ∧
      watchesDc history = (!stopsForWkc history && !stopsForDeadline history &&
        decide (config.state.dcWarmupRemaining = 0)) ∧
      stopsForDc history = (watchesDc history &&
        (config.state.dcTracker.observe (dcOutOfSync visit)).2.stopRequired) := by
  intro visit history
  have hforgets : forgets visit = false := rfl
  refine ⟨?_, ?_, ?_, ?_, ?_⟩
  · rw [stopsForWkc, hwatched, Bool.true_and, wkcObserved, hforgets, hwatched,
      if_neg Bool.false_ne_true, if_pos rfl]
    exact (hdetects.wkc.stopRequired_observe (hdetects.wkcPolicy hrunning) _).symm
  · rw [watchesDeadline, hwatched, Bool.true_and]
    rfl
  · rw [stopsForDeadline, deadlineObserved, hforgets, if_neg Bool.false_ne_true]
    cases hlooks : watchesDeadline (visit :: config.history) with
    | false => rw [Bool.false_and, Bool.false_and]
    | true =>
        rw [Bool.true_and, Bool.true_and, if_pos rfl]
        exact (hdetects.deadline.stopRequired_observe (hdetects.deadlinePolicy hrunning) _).symm
  · have hover : config.state.config.dcMonitorWarmupCycles.toNat ≤
        operationalCycles config.history ↔ config.state.dcWarmupRemaining = 0 := by
      rw [hdetects.warmup hrunning, Nat.sub_eq_zero_iff_le]
    rw [watchesDc, hwatched, Bool.true_and]
    congr 1
    rw [decide_eq_decide]
    exact hover
  · rw [stopsForDc, dcObserved, hforgets, if_neg Bool.false_ne_true]
    cases hlooks : watchesDc (visit :: config.history) with
    | false => rw [Bool.false_and, Bool.false_and]
    | true =>
        rw [Bool.true_and, Bool.true_and, if_pos rfl]
        exact (hdetects.dc.stopRequired_observe (hdetects.dcPolicy hrunning) _).symm

/-- A cycle that is watched: the trackers that look at it observe it, and one of them calls for a stop
just if a fault is latched. -/
theorem Detects.jobCycle_of_watched (hdetects : Detects config)
    (hrunning : config.state.jobRunning = true) (input : RuntimeJobInput)
    (hwatched : isWatched (machine.visit config.state (.job input)) = true) :
    Detects (machine.advance config (.job input)) ∧
      DetectsExactly (machine.advance config (.job input)) := by
  have hforgets : forgets (machine.visit config.state (.job input)) = false := rfl
  have hall : input.tripped = false ∧ config.state.operational = true ∧
      config.state.commFault = false := by
    simpa using (isWatched_jobCycle hrunning input).symm.trans hwatched
  obtain ⟨htripped, hoperational, hclear⟩ := hall
  have hentered : config.state.monitors.trip input.tripped = config.state.monitors := by
    rw [RuntimeMonitors.trip_of_not_faulted hclear, htripped, ← hclear]
    rfl
  have hcycles := operationalCycles_jobCycle hrunning input config.history
  obtain ⟨hwkcStop, hdeadlineWatched, hdeadlineStop, hdcWatched, hdcStop⟩ :=
    hdetects.stops_of_watched hrunning input hwatched
  have hcycle := config.state.monitors.cycle_of_watched hoperational hclear _ _ _ hwkcStop
    hdeadlineWatched hdeadlineStop hdcWatched hdcStop
  have hafter := monitors_jobCycle hrunning input
  rw [hentered] at hafter
  replace hafter := hafter.trans hcycle
  constructor
  · refine detects_of_monitors hafter ?_ ?_ ?_ fun _ => ⟨?_, ?_, ?_, ?_⟩
    · rw [Machine.advance_history, wkcObserved, hforgets, hwatched, if_neg Bool.false_ne_true,
        if_pos rfl]
      exact hdetects.wkc.observe _
    · rw [Machine.advance_history, deadlineObserved, hforgets, if_neg Bool.false_ne_true]
      dsimp only
      split
      · exact hdetects.deadline.observe _
      · exact hdetects.deadline
    · rw [Machine.advance_history, dcObserved, hforgets, if_neg Bool.false_ne_true]
      dsimp only
      split
      · exact hdetects.dc.observe _
      · exact hdetects.dc
    · rw [AnomalyTracker.policy_observe]
      exact hdetects.wkcPolicy hrunning
    · rw [apply_ite AnomalyTracker.policy, AnomalyTracker.policy_observe, ite_self]
      exact hdetects.deadlinePolicy hrunning
    · rw [apply_ite AnomalyTracker.policy, AnomalyTracker.policy_observe, ite_self]
      exact hdetects.dcPolicy hrunning
    · change config.state.dcWarmupRemaining - 1 = config.state.config.dcMonitorWarmupCycles.toNat - _
      rw [Machine.advance_history, hcycles, if_pos hoperational, hdetects.warmup hrunning,
        Nat.sub_sub]
  · intro newest past hhistory _ _
    obtain ⟨rfl, rfl⟩ := List.cons.inj hhistory
    have hfault : (config.state.jobCycle input).commFault = _ :=
      congrArg RuntimeMonitors.commFault hafter
    change (config.state.jobCycle input).commFault = true ↔ _
    rw [Machine.advance_history, hfault, Bool.or_eq_true, Bool.or_eq_true, or_assoc]

/-- A cycle of a running Job observes, and detects exactly. -/
theorem Detects.jobCycle (hdetects : Detects config) (hrunning : config.state.jobRunning = true)
    (input : RuntimeJobInput) :
    Detects (machine.advance config (.job input)) ∧
      DetectsExactly (machine.advance config (.job input)) := by
  cases hwatched : isWatched (machine.visit config.state (.job input)) with
  | false => exact hdetects.jobCycle_of_not_watched hrunning input hwatched
  | true => exact hdetects.jobCycle_of_watched hrunning input hwatched

theorem detectsExactly_of_not_jobCycle {config : RuntimeConfig}
    (hhistory : config.history = visit :: earlier) (hjob : isJobCycle visit = false) :
    DetectsExactly config := by
  intro newest past hnewest huntripped _
  obtain ⟨rfl, rfl⟩ := List.cons.inj (hhistory.symm.trans hnewest)
  exfalso
  revert huntripped hjob
  unfold isUntripped isJobCycle
  split
  · intro hrunning hjob
    rw [hrunning, Bool.false_and] at hjob
    exact Bool.false_ne_true hjob
  · exact fun _ => Bool.false_ne_true

/-! ### Every run -/

theorem Detects.advance (hdetects : Detects config) (action : RuntimeAction) :
    Detects (machine.advance config action) ∧ DetectsExactly (machine.advance config action) := by
  cases action with
  | start input => exact ⟨hdetects.start input, detectsExactly_of_not_jobCycle rfl rfl⟩
  | stop =>
      have hstopped : (machine.advance config .stop).state.jobRunning = true →
          config.state.jobRunning = true := fun hrunning => absurd hrunning Bool.false_ne_true
      exact ⟨hdetects.of_kept rfl rfl rfl rfl hstopped, detectsExactly_of_not_jobCycle rfl rfl⟩
  | setOperational operational =>
      exact ⟨hdetects.of_kept rfl rfl rfl rfl id, detectsExactly_of_not_jobCycle rfl rfl⟩
  | clearCommFault => exact ⟨hdetects.clearCommFault, detectsExactly_of_not_jobCycle rfl rfl⟩
  | requestSafeOutput =>
      obtain ⟨hmonitors, hrunning⟩ := monitors_requestSafeOutput config.state
      exact ⟨hdetects.of_kept rfl rfl rfl hmonitors hrunning.mp,
        detectsExactly_of_not_jobCycle rfl rfl⟩
  | releaseSafeOutput =>
      obtain ⟨hmonitors, hrunning⟩ := monitors_releaseSafeOutput config.state
      exact ⟨hdetects.of_kept rfl rfl rfl hmonitors hrunning.mp,
        detectsExactly_of_not_jobCycle rfl rfl⟩
  | job input =>
      cases hrunning : config.state.jobRunning with
      | true => exact hdetects.jobCycle hrunning input
      | false =>
          have hkept : config.state.jobCycle input = config.state := by
            rw [IghMasterRuntime.jobCycle, hrunning, if_neg Bool.false_ne_true]
          refine ⟨hdetects.of_kept rfl rfl hrunning ?_ ?_,
            detectsExactly_of_not_jobCycle rfl hrunning⟩
          · change (config.state.jobCycle input).monitors =
              { config.state.monitors with operational := (config.state.jobCycle input).operational }
            rw [hkept]
            rfl
          · change (config.state.jobCycle input).jobRunning = true → _
            rw [hkept]
            exact id

theorem detects_start : Detects (.start {}) where
  wkc := AnomalyTracker.tracks_empty _
  deadline := AnomalyTracker.tracks_empty _
  dc := AnomalyTracker.tracks_empty _
  wkcPolicy := fun hrunning => absurd hrunning Bool.false_ne_true
  deadlinePolicy := fun hrunning => absurd hrunning Bool.false_ne_true
  dcPolicy := fun hrunning => absurd hrunning Bool.false_ne_true
  warmup := fun hrunning => absurd hrunning Bool.false_ne_true

/-- In every run of a runtime the Job latches a fault exactly where the observations since the last
clear, or since the start of the Job, call for it. -/
theorem detectsExactly_exec (actions : List RuntimeAction) :
    DetectsExactly (machine.exec (.start {}) actions) := by
  have hstep : ∀ (config : RuntimeConfig) (action : RuntimeAction),
      Detects config ∧ DetectsExactly config →
        Detects (machine.advance config action) ∧ DetectsExactly (machine.advance config action) :=
    fun _ action hboth => hboth.1.advance action
  have hnone : DetectsExactly (.start {}) :=
    fun _ _ hhistory => absurd hhistory (List.cons_ne_nil _ _).symm
  exact (machine.exec_invariant hstep actions ⟨detects_start, hnone⟩).2

end IghMasterRuntime

/-! ### The runtime of a backend -/

namespace Backend

/-- What a Job cycle of the backend tells its runtime. -/
def runtimeInput (input : JobInput) (backend : Backend) : RuntimeJobInput where
  tripped := backend.servo.initialized &&
    (backend.servo.checkExternalCommandFreshness backend.runtime.safeOutputRequired
      input.freshnessNowNs).2
  timing := input.timing
  rxOk := backend.servo.initialized && input.domain.rxOk

theorem jobCycle_runtime (input : JobInput) (backend : Backend) :
    (backend.jobCycle input).runtime = backend.runtime.jobCycle (backend.runtimeInput input) := by
  unfold jobCycle IghMasterRuntime.jobCycle
  cases hrunning : backend.runtime.jobRunning with
  | false => rw [Bool.not_false, if_pos rfl, if_neg Bool.false_ne_true]
  | true =>
      rw [Bool.not_true, if_neg Bool.false_ne_true, if_pos rfl]
      unfold runtimeInput
      cases hinitialized : backend.servo.initialized with
      | false => rfl
      | true =>
          rw [Bool.not_true, if_neg Bool.false_ne_true, Bool.true_and, Bool.true_and,
            ← IghMasterRuntime.safeOutputRequired_consumePendingDwellFault]
          have hexchanged (entered : Backend) : (entered.exchangeOutputs input.domain).runtime =
              entered.runtime := by
            unfold exchangeOutputs
            split <;> rfl
          unfold finishJobCycle
          dsimp only
          rw [hexchanged]
          rfl

/-- The runtime came from the other one by calls and Job cycles. -/
abbrev RuntimeLeads (before after : IghMasterRuntime) : Prop :=
  IghMasterRuntime.machine.Leads (fun _ => True) before after

theorem RuntimeLeads.call {before after : IghMasterRuntime} (hleads : RuntimeLeads before after)
    (call : RuntimeAction) : RuntimeLeads before (after.next call) :=
  Machine.Leads.next hleads trivial

theorem runtimeLeads_bringUp (input : BringUpInput) (backend : Backend) :
    RuntimeLeads backend.runtime (backend.bringUp input).1.runtime := by
  have hnone : RuntimeLeads backend.runtime backend.runtime := Machine.Leads.refl _
  have harmed := hnone.call .requestSafeOutput
  have hstarted := harmed.call (.start input.runtime)
  unfold bringUp
  dsimp only
  split
  · exact hnone
  · split
    · exact harmed.call .stop
    · split
      · exact hstarted
      · exact hstarted.call .stop

/-- Every action of a backend is, to its runtime, some calls and Job cycles. -/
theorem runtimeLeads_next (backend : Backend) (action : BackendAction) :
    RuntimeLeads backend.runtime (backend.next action).runtime := by
  have hnone : RuntimeLeads backend.runtime backend.runtime := Machine.Leads.refl _
  have hone := hnone.call
  cases action with
  | initializeServo bus config motors => exact hnone
  | bringUp input => exact runtimeLeads_bringUp input backend
  | setOperational => exact hone (.setOperational true)
  | deactivate => exact hone .stop
  | call call => exact hnone
  | requestFaultReset motorId allowWithoutFault slavesInOp => exact hnone
  | clearCommFault => exact hone .clearCommFault
  | requestSafeOutput => exact hone .requestSafeOutput
  | releaseSafeOutput =>
      change RuntimeLeads _ backend.releaseSafeOutput.1.runtime
      unfold releaseSafeOutput
      split
      · exact hone .releaseSafeOutput
      · exact hnone
  | job input =>
      rw [show (backend.next (.job input)).runtime = _ from jobCycle_runtime input backend]
      exact hone (.job (backend.runtimeInput input))

/-- The runtime in a run of a backend is one that a run of the runtime leads to, and so detects its
faults exactly. -/
theorem runtime_exec (actions : List BackendAction) :
    ∃ calls, (machine.exec (.start {}) actions).state.runtime =
        (IghMasterRuntime.machine.exec (.start {}) calls).state ∧
      IghMasterRuntime.DetectsExactly (IghMasterRuntime.machine.exec (.start {}) calls) := by
  have hstep : ∀ (config : BackendConfig) (action : BackendAction),
      RuntimeLeads {} config.state.runtime →
        RuntimeLeads {} (machine.advance config action).state.runtime :=
    fun config action hleads => hleads.trans (runtimeLeads_next config.state action)
  have hnone : RuntimeLeads {} (Config.start {} : BackendConfig).state.runtime :=
    Machine.Leads.refl _
  obtain ⟨calls, -, hcalls⟩ := machine.exec_invariant hstep actions hnone
  refine ⟨calls, ?_, IghMasterRuntime.detectsExactly_exec calls⟩
  rw [← hcalls, Machine.state_exec]
  rfl

end Backend

end IghMaster
