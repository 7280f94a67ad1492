import IghMaster.Health
import IghMaster.Proof.DwellRuns
import IghMaster.Proof.FaultDetection

/-!
# The counters of the health snapshots

A Job cycle carries on from the statistics and the tracker of the cycle before it. A safety reset
takes the tracker back to zero, and a start that finds the Job stopped takes back the statistics and
what was stored of the deviation: the next snapshots show less than the ones before. Without a Job
cycle after such a reset, and without such a start, the counters only grow.
-/

namespace IghMaster

open Transition

/-- What the counters of a snapshot are made of. -/
structure RuntimeCounters where
  timingStats : CycleTimingStats
  diag : CycleTimingStats
  skippedSlots : Nat
  dcTracker : AnomalyTracker
  maxDcDeviationNs : Nat
  dcOutOfSyncCount : Nat

structure RuntimeCounters.CountOn (earlier later : RuntimeCounters) : Prop where
  maxLatenessNs : earlier.diag.maxLatenessNs ≤ later.diag.maxLatenessNs
  maxExecutionNs : earlier.diag.maxExecutionNs ≤ later.diag.maxExecutionNs
  deadlineMissCount : earlier.diag.deadlineMissCount ≤ later.diag.deadlineMissCount
  skippedSlots : earlier.skippedSlots ≤ later.skippedSlots
  maxDcDeviationNs : earlier.maxDcDeviationNs ≤ later.maxDcDeviationNs
  dcOutOfSyncCount : earlier.dcOutOfSyncCount ≤ later.dcOutOfSyncCount

theorem RuntimeCounters.CountOn.refl (counters : RuntimeCounters) : counters.CountOn counters where
  maxLatenessNs := Nat.le_refl _
  maxExecutionNs := Nat.le_refl _
  deadlineMissCount := Nat.le_refl _
  skippedSlots := Nat.le_refl _
  maxDcDeviationNs := Nat.le_refl _
  dcOutOfSyncCount := Nat.le_refl _

theorem MasterHealth.CountsOn.trans {first second third : MasterHealth}
    (hfirst : first.CountsOn second) (hsecond : second.CountsOn third) : first.CountsOn third where
  maxLatenessNs := hfirst.maxLatenessNs.trans hsecond.maxLatenessNs
  maxExecutionNs := hfirst.maxExecutionNs.trans hsecond.maxExecutionNs
  deadlineMissCount := hfirst.deadlineMissCount.trans hsecond.deadlineMissCount
  skippedSlots := hfirst.skippedSlots.trans hsecond.skippedSlots
  maxDcDeviationNs := hfirst.maxDcDeviationNs.trans hsecond.maxDcDeviationNs
  dcOutOfSyncCount := hfirst.dcOutOfSyncCount.trans hsecond.dcOutOfSyncCount

theorem RuntimeCounters.CountOn.trans {first second third : RuntimeCounters}
    (hfirst : first.CountOn second) (hsecond : second.CountOn third) : first.CountOn third where
  maxLatenessNs := hfirst.maxLatenessNs.trans hsecond.maxLatenessNs
  maxExecutionNs := hfirst.maxExecutionNs.trans hsecond.maxExecutionNs
  deadlineMissCount := hfirst.deadlineMissCount.trans hsecond.deadlineMissCount
  skippedSlots := hfirst.skippedSlots.trans hsecond.skippedSlots
  maxDcDeviationNs := hfirst.maxDcDeviationNs.trans hsecond.maxDcDeviationNs
  dcOutOfSyncCount := hfirst.dcOutOfSyncCount.trans hsecond.dcOutOfSyncCount

namespace IghMasterRuntime

def counters (runtime : IghMasterRuntime) : RuntimeCounters where
  timingStats := runtime.timingStats
  diag := runtime.diag
  skippedSlots := runtime.skippedSlots
  dcTracker := runtime.dcTracker
  maxDcDeviationNs := runtime.maxDcDeviationNs
  dcOutOfSyncCount := runtime.dcOutOfSyncCount

/-! ### One Job cycle -/

theorem observesDc_latchIf {trip : Bool} {runtime : IghMasterRuntime}
    (hobserves : Master.observesDc (runtime.latchIf trip) = true) :
    Master.observesDc runtime = true := by
  unfold latchIf at hobserves
  split at hobserves
  · exact absurd hobserves (by simp [Master.observesDc, latchCommFault])
  · exact hobserves

theorem observesDc_observeWkc {rxOk : Bool} {runtime : IghMasterRuntime}
    (hobserves : Master.observesDc (runtime.observeWkc rxOk) = true) :
    Master.observesDc runtime = true := by
  unfold observeWkc at hobserves
  split at hobserves
  · have hbefore := observesDc_latchIf hobserves
    exact hbefore
  · exact hobserves

theorem observesDc_observeDeadline {runtime : IghMasterRuntime}
    (hobserves : Master.observesDc runtime.observeDeadline = true) :
    Master.observesDc runtime = true := by
  unfold observeDeadline at hobserves
  split at hobserves
  · have hbefore := observesDc_latchIf hobserves
    exact hbefore
  · exact hobserves

theorem observesDc_consumePendingDwellFault (runtime : IghMasterRuntime) :
    Master.observesDc runtime.consumePendingDwellFault = Master.observesDc runtime := by
  unfold consumePendingDwellFault
  split <;> rfl

theorem counters_latchIf (trip : Bool) (runtime : IghMasterRuntime) :
    (runtime.latchIf trip).counters = runtime.counters := by
  unfold latchIf
  split <;> rfl

theorem counters_consumePendingDwellFault (runtime : IghMasterRuntime) :
    runtime.consumePendingDwellFault.counters = runtime.counters := by
  unfold consumePendingDwellFault
  split <;> rfl

theorem counters_observeWkc (rxOk : Bool) (runtime : IghMasterRuntime) :
    (runtime.observeWkc rxOk).counters = runtime.counters := by
  unfold observeWkc
  split
  · exact counters_latchIf _ _
  · rfl

theorem counters_observeDeadline (runtime : IghMasterRuntime) :
    runtime.observeDeadline.counters = runtime.counters := by
  unfold observeDeadline
  split
  · exact counters_latchIf _ _
  · rfl

theorem le_saturatingSucc {limit count : Nat} :
    count ≤ AnomalyTracker.saturatingSucc limit count := by
  unfold AnomalyTracker.saturatingSucc
  split
  · exact Nat.le_refl _
  · exact Nat.le_succ _

theorem total_le_observe (tracker : AnomalyTracker) (anomaly : Bool) :
    tracker.total ≤ (tracker.observe anomaly).2.total := by
  cases anomaly with
  | true => exact le_saturatingSucc
  | false => exact Nat.le_refl _

/-- The sample of a cycle stores the largest deviation so far, and the count of the tracker. -/
theorem countOn_sampleDcMonitor {timing : JobTiming} {runtime : IghMasterRuntime}
    (htotal : Master.observesDc runtime = true →
      runtime.dcOutOfSyncCount ≤ runtime.dcTracker.total) :
    runtime.counters.CountOn (runtime.sampleDcMonitor timing).counters := by
  have hmax : runtime.maxDcDeviationNs ≤
      max runtime.maxDcDeviationNs (absDeviationNs (runtime.dcSample timing).deviationNs) :=
    Nat.le_max_left _ _
  have hsame {after : RuntimeCounters} (hafter : after = { runtime.counters with
      maxDcDeviationNs := max runtime.maxDcDeviationNs
        (absDeviationNs (runtime.dcSample timing).deviationNs) }) :
      runtime.counters.CountOn after := by
    rw [hafter]
    exact { RuntimeCounters.CountOn.refl runtime.counters with maxDcDeviationNs := hmax }
  unfold sampleDcMonitor
  dsimp only
  split
  · exact hsame rfl
  · rename_i hoperational
    split
    · exact hsame rfl
    · rename_i hwarm
      split
      · exact hsame rfl
      · rename_i hclear
        have hobserves : Master.observesDc runtime = true := by
          rw [Master.observesDc, Bool.and_eq_true, Bool.and_eq_true, beq_iff_eq,
            Bool.not_eq_true']
          exact ⟨⟨by simpa using hoperational, by omega⟩, by simpa using hclear⟩
        rw [counters_latchIf]
        exact { RuntimeCounters.CountOn.refl runtime.counters with
          maxDcDeviationNs := hmax
          dcOutOfSyncCount := (htotal hobserves).trans (total_le_observe _ _) }

theorem countOn_observeTiming {timing : JobTiming} {runtime : IghMasterRuntime}
    (hlateness : runtime.diag.maxLatenessNs ≤ runtime.timingStats.maxLatenessNs)
    (hexecution : runtime.diag.maxExecutionNs ≤ runtime.timingStats.maxExecutionNs)
    (hmisses : runtime.diag.deadlineMissCount ≤ runtime.timingStats.deadlineMissCount) :
    runtime.counters.CountOn (runtime.observeTiming timing).counters := by
  have hcounted (missed : Bool) (count : Nat) :
      count ≤ if missed && count != uint64Max then count + 1 else count := by
    split
    · exact Nat.le_succ count
    · exact Nat.le_refl count
  exact { RuntimeCounters.CountOn.refl runtime.counters with
    maxLatenessNs := hlateness.trans (Nat.le_max_left _ _)
    maxExecutionNs := hexecution.trans (Nat.le_max_left _ _)
    deadlineMissCount := hmisses.trans (hcounted _ _) }

/-- The monitors of a cycle, where the counters that it continues reach as far as the reported ones. -/
theorem countOn_monitorCycle {timing : JobTiming} {rxOk : Bool} {runtime : IghMasterRuntime}
    (hcontinues : Master.continuesCounters runtime = true) :
    runtime.counters.CountOn (runtime.monitorCycle timing rxOk).counters := by
  simp only [Master.continuesCounters, Bool.and_eq_true, Bool.or_eq_true, Bool.not_eq_true',
    decide_eq_true_eq] at hcontinues
  obtain ⟨⟨⟨hlateness, hexecution⟩, hmisses⟩, htotal⟩ := hcontinues
  unfold monitorCycle
  have hsame := counters_observeWkc rxOk { runtime with lastRxOk := rxOk }
  have hobserved : Master.observesDc (observeWkc rxOk { runtime with lastRxOk := rxOk }) = true →
      Master.observesDc { runtime with lastRxOk := rxOk } = true := observesDc_observeWkc
  generalize observeWkc rxOk { runtime with lastRxOk := rxOk } = watched at hsame hobserved
  change watched.counters = runtime.counters at hsame
  have htimed : watched.counters.CountOn (watched.observeTiming timing).counters := by
    obtain ⟨hstats, hdiag, -, -, -, -⟩ := RuntimeCounters.mk.inj hsame
    exact countOn_observeTiming (by rw [hdiag, hstats]; exact hlateness)
      (by rw [hdiag, hstats]; exact hexecution) (by rw [hdiag, hstats]; exact hmisses)
  have hdeadline := counters_observeDeadline (watched.observeTiming timing)
  have hjudgedObserves :
      Master.observesDc (watched.observeTiming timing).observeDeadline = true →
        Master.observesDc (watched.observeTiming timing) = true := observesDc_observeDeadline
  generalize (watched.observeTiming timing).observeDeadline = judged at hdeadline hjudgedObserves
  have hjudged : judged.dcTracker = runtime.dcTracker ∧
      judged.dcOutOfSyncCount = runtime.dcOutOfSyncCount := by
    obtain ⟨-, -, -, htracker, -, hcount⟩ := RuntimeCounters.mk.inj hsame
    obtain ⟨-, -, -, htimedTracker, -, htimedCount⟩ := RuntimeCounters.mk.inj hdeadline
    exact ⟨htimedTracker.trans htracker, htimedCount.trans hcount⟩
  have hsampled : judged.counters.CountOn (judged.sampleDcMonitor timing).counters := by
    refine countOn_sampleDcMonitor fun hobserves => ?_
    have hbefore : Master.observesDc runtime = true := hobserved (hjudgedObserves hobserves)
    rw [hjudged.1, hjudged.2]
    exact htotal.resolve_left (by simp [hbefore])
  rw [← hdeadline, hsame] at htimed
  exact htimed.trans hsampled

/-- The dwell and the flag of the motion API come after the counters. -/
theorem counters_finishJobCycle (timing : JobTiming) (rxOk : Bool) (runtime : IghMasterRuntime) :
    (runtime.finishJobCycle timing rxOk).counters = (runtime.monitorCycle timing rxOk).counters := by
  unfold finishJobCycle
  generalize runtime.monitorCycle timing rxOk = monitored
  rfl

theorem continuesCounters_congr {first second : IghMasterRuntime}
    (hsame : first.counters = second.counters)
    (hobserves : Master.observesDc first = true → Master.observesDc second = true)
    (hcontinues : Master.continuesCounters second = true) :
    Master.continuesCounters first = true := by
  obtain ⟨hstats, hdiag, -, htracker, -, hcount⟩ := RuntimeCounters.mk.inj hsame
  simp only [Master.continuesCounters, Bool.and_eq_true, Bool.or_eq_true,
    Bool.not_eq_true'] at hcontinues ⊢
  rw [hdiag, hstats, hcount, htracker]
  refine ⟨hcontinues.1, ?_⟩
  cases hfirst : Master.observesDc first with
  | false => exact Or.inl rfl
  | true => exact Or.inr (hcontinues.2.resolve_left (by simp [hobserves hfirst]))

/-- A Job cycle that continues the counters reported counts on from them. -/
theorem countOn_jobCycle {input : RuntimeJobInput} {runtime : IghMasterRuntime}
    (hcontinues : runtime.jobRunning = true → Master.continuesCounters runtime = true) :
    runtime.counters.CountOn (runtime.jobCycle input).counters := by
  unfold jobCycle
  cases hrunning : runtime.jobRunning with
  | false =>
      rw [if_neg Bool.false_ne_true]
      exact RuntimeCounters.CountOn.refl _
  | true =>
      have hentered : (runtime.consumePendingDwellFault.latchIf input.tripped).counters =
          runtime.counters :=
        (counters_latchIf _ _).trans (counters_consumePendingDwellFault runtime)
      have hcontinued := continuesCounters_congr hentered
        (fun hobserves =>
          (observesDc_consumePendingDwellFault runtime).symm.trans (observesDc_latchIf hobserves))
        (hcontinues hrunning)
      rw [if_pos rfl, ← hentered, counters_finishJobCycle]
      exact countOn_monitorCycle hcontinued

/-! ### The calls -/

theorem counters_requestSafeOutput (runtime : IghMasterRuntime) :
    runtime.requestSafeOutput.counters = runtime.counters := by
  unfold requestSafeOutput
  split <;> rfl

theorem countOn_clearCommFault (runtime : IghMasterRuntime) :
    runtime.counters.CountOn runtime.clearCommFault.counters :=
  { RuntimeCounters.CountOn.refl runtime.counters with }

/-- A start that finds the Job stopped stores zeros. -/
theorem countOn_start {input : RuntimeStartInput} {runtime : IghMasterRuntime}
    (hnothing : runtime.jobRunning = false → Master.countsNothing runtime = true) :
    runtime.counters.CountOn (runtime.start input).1.counters := by
  unfold start
  cases hrunning : runtime.jobRunning with
  | true =>
      rw [if_pos rfl]
      exact RuntimeCounters.CountOn.refl _
  | false =>
      have hzero := hnothing hrunning
      simp only [Master.countsNothing, Bool.and_eq_true, beq_iff_eq] at hzero
      obtain ⟨⟨hskipped, hmax⟩, hcount⟩ := hzero
      have hconfigured : (runtime.configure input).1.counters =
          { runtime.counters with
            dcTracker := (runtime.configure input).1.dcTracker
            maxDcDeviationNs := 0
            dcOutOfSyncCount := 0 } := by
        rw [configure, hrunning]
        rfl
      have hlower : runtime.counters.CountOn (runtime.configure input).1.counters := by
        rw [hconfigured]
        exact { RuntimeCounters.CountOn.refl runtime.counters with
          maxDcDeviationNs := Nat.le_of_eq hmax
          dcOutOfSyncCount := Nat.le_of_eq hcount }
      have hlaunched : runtime.counters.CountOn (runtime.configure input).1.launch.counters :=
        { hlower with skippedSlots := Nat.le_of_eq hskipped }
      rw [if_neg Bool.false_ne_true]
      dsimp only
      split
      · exact hlower
      · split
        · exact hlaunched
        · exact hlaunched

end IghMasterRuntime

namespace Backend

theorem counters_next_of_isQuiet (backend : Backend) {action : BackendAction}
    (hquiet : action.isQuiet = true) :
    (backend.next action).runtime.counters = backend.runtime.counters := by
  cases action with
  | bringUp input => exact absurd hquiet Bool.false_ne_true
  | clearCommFault => exact absurd hquiet Bool.false_ne_true
  | requestSafeOutput => exact absurd hquiet Bool.false_ne_true
  | releaseSafeOutput => exact absurd hquiet Bool.false_ne_true
  | job input => exact absurd hquiet Bool.false_ne_true
  | _ => rfl

theorem Quietly.counters {backend after : Backend} (hquiet : backend.Quietly after) :
    after.runtime.counters = backend.runtime.counters :=
  Machine.Leads.invariant
    (fun reached _ hallowed hsame => (counters_next_of_isQuiet reached hallowed).trans hsame)
    hquiet rfl

theorem counters_releaseSafeOutput (backend : Backend) :
    backend.releaseSafeOutput.1.runtime.counters = backend.runtime.counters := by
  unfold releaseSafeOutput IghMasterRuntime.releaseSafeOutput
  split
  · dsimp only
    split <;> rfl
  · rfl

end Backend

namespace Master

open IghMasterRuntime

theorem countsOn_health {before after : Master}
    (hcounts : before.backend.runtime.counters.CountOn after.backend.runtime.counters)
    (slavesInOp slavesStillInOp : Bool) :
    (before.health slavesInOp).CountsOn (after.health slavesStillInOp) where
  maxLatenessNs := hcounts.maxLatenessNs
  maxExecutionNs := hcounts.maxExecutionNs
  deadlineMissCount := hcounts.deadlineMissCount
  skippedSlots := hcounts.skippedSlots
  maxDcDeviationNs := hcounts.maxDcDeviationNs
  dcOutOfSyncCount := hcounts.dcOutOfSyncCount

theorem countOn_bringUp {master : Master} (hidle : master.starting = none)
    (hmapped : master.mapped = true) (input : StartInput)
    (hkeeps : configuresRuntime (machine.visit master (.call (.start input))) = true →
      countsNothing master.backend.runtime = true) :
    master.backend.runtime.counters.CountOn
      (master.backend.bringUp (input.bringUpInput master.policy)).1.runtime.counters := by
  rw [configuresRuntime_start hidle hmapped input] at hkeeps
  have hrequested := counters_requestSafeOutput master.backend.runtime
  have hnothing : countsNothing master.backend.runtime.requestSafeOutput =
      countsNothing master.backend.runtime := by
    obtain ⟨-, -, hskipped, -, hmax, hcount⟩ := RuntimeCounters.mk.inj hrequested
    rw [countsNothing, hskipped, hmax, hcount]
    rfl
  have hstart (runtimeInput : RuntimeStartInput)
      (hfresh : master.backend.runtime.jobRunning = false →
        countsNothing master.backend.runtime = true) :
      master.backend.runtime.counters.CountOn
        (master.backend.runtime.requestSafeOutput.start runtimeInput).1.counters := by
    rw [← Backend.jobRunning_requestSafeOutput, ← hnothing] at hfresh
    have hcounted : master.backend.runtime.requestSafeOutput.counters.CountOn
        (master.backend.runtime.requestSafeOutput.start runtimeInput).1.counters :=
      countOn_start hfresh
    rw [hrequested] at hcounted
    exact hcounted
  have hbrought := Backend.broughtUp master.backend (input.bringUpInput master.policy)
  revert hkeeps hbrought
  generalize master.backend.bringUp (input.bringUpInput master.policy) = result
  intro hkeeps hbrought
  cases hbrought with
  | notActivated hfailed => exact RuntimeCounters.CountOn.refl _
  | evidenceFailed hactivated hmissing =>
      change master.backend.runtime.counters.CountOn
        master.backend.runtime.requestSafeOutput.counters
      rw [hrequested]
      exact RuntimeCounters.CountOn.refl _
  | jobFailed hactivated hfailed =>
      exact hstart _ fun hrunning => hkeeps (by simp [hrunning])
  | running hactivated hstarted =>
      exact hstart _ fun hrunning => hkeeps (by simp [hrunning])

theorem countOn_next {master : Master} {action : MasterAction}
    (hkeeps : keepsCounters master action = true) :
    master.backend.runtime.counters.CountOn (master.next action).backend.runtime.counters := by
  have heffect := effect_next master action
  simp only [keepsCounters, Bool.and_eq_true, Bool.or_eq_true, Bool.not_eq_true'] at hkeeps
  obtain ⟨hjob, hstart⟩ := hkeeps
  have hconfigures : configuresRuntime (machine.visit master action) = true →
      countsNothing master.backend.runtime = true :=
    fun hconfigured => hstart.resolve_left (by simp [hconfigured])
  generalize (master.next action).backend = after at heffect ⊢
  cases heffect with
  | quiet hquiet heventless =>
      rw [hquiet.counters]
      exact RuntimeCounters.CountOn.refl _
  | started input haction hidle hmapped =>
      rw [haction] at hconfigures
      exact countOn_bringUp hidle hmapped input hconfigures
  | safetyReset hquiet hreset =>
      rw [← hquiet.counters]
      exact countOn_clearCommFault _
  | safeOutputRequested haction hidle =>
      change master.backend.runtime.counters.CountOn
        master.backend.runtime.requestSafeOutput.counters
      rw [counters_requestSafeOutput]
      exact RuntimeCounters.CountOn.refl _
  | released haction hidle hauthorized =>
      rw [Backend.counters_releaseSafeOutput]
      exact RuntimeCounters.CountOn.refl _
  | cycled input haction =>
      rw [Backend.jobCycle_runtime]
      refine countOn_jobCycle fun hrunning => hjob.resolve_left ?_
      rw [haction]
      change ¬ master.backend.runtime.jobRunning = false
      rw [hrunning]
      simp

theorem HealthMonotone.advance {config : MasterConfig} (hmonotone : HealthMonotone config)
    {action : MasterAction} (hkeeps : keepsCounters config.state action = true) :
    HealthMonotone (machine.advance config action) := by
  have hcounts := countOn_next hkeeps
  intro visit hmem slavesInOp slavesStillInOp
  rcases List.mem_cons.mp hmem with rfl | hmem
  · exact countsOn_health hcounts slavesInOp slavesStillInOp
  · exact (hmonotone visit hmem slavesInOp true).trans (countsOn_health hcounts true slavesStillInOp)

/-- In a run that takes back nothing that was counted, the snapshots only grow. -/
theorem alwaysHealthMonotone_of_keepsCounters (master : Master) {actions : List MasterAction}
    (hkeeps : machine.Meets (fun config action => keepsCounters config.state action = true)
      (.start master) actions) :
    machine.Always HealthMonotone (.start master) actions := by
  have hstart : HealthMonotone (.start master) := fun _ hmem => absurd hmem List.not_mem_nil
  exact machine.always_of_meets (fun _ _ hmonotone hkeeps => hmonotone.advance hkeeps) hstart hkeeps

/-- A Job cycle that finds the DC so far out of sync, with the clocks valid. -/
def dcJob (dcDiffNs : Int32) : MasterAction :=
  .job
    { freshnessNowNs := 0
      inputs := fun _ => {}
      domain := completeDomain
      timing :=
        { scheduledNs := 0, actualWakeupNs := 0, cycleEndNs := 0, dcStatusValid := true
          dcDiffNs := dcDiffNs } }

/-- A start whose DC monitor warms up for one cycle, the least that can be configured. -/
def dcStart : List MasterAction :=
  [.call .init, .call (.mapJoints singleAxisBus {} [nh17Axis] []),
    .call (.start { singleAxisStart with
      runtime :=
        { config := { lockMemory := false, requireRealtime := false, dcMonitorWarmupCycles := 1 }
          memoryLocked := true
          threadRealtime := true } })] ++
    List.replicate 7 (.continueStart operationalBus)

def dcStarted : Master := machine.run { policy := .supervisedMotion } dcStart

theorem alwaysHealthMonotone_dcStarted :
    machine.Always HealthMonotone (.start dcStarted)
      [dcJob 0, dcJob 0, .call .requestSafetyReset, dcJob 0, dcJob 600000, .call .requestSafeOutput,
        dcJob 0] :=
  alwaysHealthMonotone_of_keepsCounters dcStarted (by decide +kernel)

/-- After the warm-up two cycles are counted as out of sync. -/
def dcCounted : List MasterAction := [dcJob 0, dcJob 600000, dcJob (-600000)]

/-- A safety reset, whose second cycle counts again from zero: the count goes from 2 to 0. -/
theorem not_alwaysHealthMonotone :
    ¬ ∀ (policy : MotionPolicy) (before : List MasterAction),
      (machine.exec (.start { policy := policy }) before).history.head?.any isStarted = true →
        ∀ actions : List MasterAction, (∀ action ∈ actions, action ≠ .call .shutdown) →
          machine.Always HealthMonotone
            (.start (machine.exec (.start { policy := policy }) before).state) actions := by
  intro hall
  have halways := hall .supervisedMotion dcStart (by decide +kernel)
    (dcCounted ++ [.call .requestSafetyReset, dcJob 0, dcJob 0]) (by simp [dcCounted, dcJob])
  rw [machine.state_exec, Config.state_start] at halways
  have hcounts := halways.exec
    (machine.visit (machine.run dcStarted dcCounted) (.call .requestSafetyReset))
    (.tail _ (.tail _ (.head _))) true true
  have hbelow : ¬ ((machine.run dcStarted dcCounted).health true).dcOutOfSyncCount ≤
      ((machine.run dcStarted
        (dcCounted ++ [.call .requestSafetyReset, dcJob 0, dcJob 0])).health true).dcOutOfSyncCount := by
    decide +kernel
  exact hbelow hcounts.dcOutOfSyncCount

end Master

end IghMaster
