import IghMaster.JobLoop
import IghMaster.Proof.HealthCounters

/-!
# The application time of the Job thread

An iteration in time adds one cycle to the application time. One that has fallen behind takes the clock
less the time base, which is more than a cycle after the slot it had missed, so that the application time
goes forward either way, and leaves the grid of the cycles in the second case.
-/

namespace IghMaster

open Transition Transition.Machine

theorem toUint64_of_range {value : Int} (hnonneg : 0 ≤ value) (hlt : value < 2 ^ 64) :
    (toUint64 value : Int) = value := by
  unfold toUint64
  omega

theorem timespecToNs_nsToTimespec {ns : Nat} (hlt : ns < 2 ^ 64) :
    timespecToNs (nsToTimespec ns) = ns := by
  unfold timespecToNs nsToTimespec nsecPerSec
  dsimp only
  rw [Nat.div_add_mod', Nat.mod_eq_of_lt hlt]

namespace JobLoop

variable {syncHandler : Option EtherCATSync} {cycleNs appTimeNs : Nat} {iteration : JobIteration}

/-- The time a thread sleeps until is the application time shifted by the time base. -/
theorem sleepSpec_eq {time : Nat} (hnonneg : 0 ≤ time + timeBase syncHandler)
    (hlt : time + timeBase syncHandler < 2 ^ 64) :
    (timespecToNs (getDcSleepSpec syncHandler time) : Int) = time + timeBase syncHandler := by
  cases syncHandler with
  | none =>
      change (time : Int) + 0 < 2 ^ 64 at hlt
      change (timespecToNs (nsToTimespec time) : Int) = time + 0
      rw [timespecToNs_nsToTimespec (by omega), add_zero]
  | some sync =>
      have hsum := toUint64_of_range hnonneg hlt
      change (timespecToNs (nsToTimespec (toUint64 (time + timeBase (some sync)))) : Int) = _
      rw [timespecToNs_nsToTimespec (by omega), hsum]

theorem applicationTime_eq {monotonicTime : Nat}
    (hnonneg : 0 ≤ (monotonicTime : Int) - timeBase syncHandler)
    (hlt : (monotonicTime : Int) - timeBase syncHandler < 2 ^ 64) :
    (getDcApplicationTime syncHandler monotonicTime : Int) = monotonicTime - timeBase syncHandler := by
  cases syncHandler with
  | none => exact (sub_zero (monotonicTime : Int)).symm
  | some sync => exact toUint64_of_range hnonneg hlt

/-- The wake-up time of the next slot, as the iteration computes it. -/
theorem scheduled_eq (hrange : InRange cycleNs appTimeNs iteration) :
    (timespecToNs (getDcSleepSpec iteration.syncHandler ((appTimeNs + cycleNs) % 2 ^ 64)) : Int) =
      (appTimeNs + cycleNs : Nat) + timeBase iteration.syncHandler := by
  have hlt := hrange.scheduled_lt
  rw [Nat.mod_eq_of_lt hrange.appTime_lt]
  exact sleepSpec_eq hrange.scheduled_nonneg (by omega)

theorem fallsBehind_iff (hrange : InRange cycleNs appTimeNs iteration) :
    fallsBehind cycleNs appTimeNs iteration = true ↔
      (appTimeNs + cycleNs : Nat) + timeBase iteration.syncHandler + cycleNs < iteration.now0Ns := by
  have hscheduled := scheduled_eq hrange
  have hlt := hrange.scheduled_lt
  unfold fallsBehind
  dsimp only
  rw [decide_eq_true_iff, Nat.mod_eq_of_lt (by omega)]
  omega

/-! ### One iteration -/

theorem advanceTime_of_in_time (hrange : InRange cycleNs appTimeNs iteration)
    (htime : fallsBehind cycleNs appTimeNs iteration = false) :
    advanceTime cycleNs appTimeNs iteration = appTimeNs + cycleNs := by
  unfold advanceTime
  rw [htime, if_neg Bool.false_ne_true, Nat.mod_eq_of_lt hrange.appTime_lt]

theorem advanceTime_of_behind (hrange : InRange cycleNs appTimeNs iteration)
    (hbehind : fallsBehind cycleNs appTimeNs iteration = true) :
    (advanceTime cycleNs appTimeNs iteration : Int) = iteration.realignNs - timeBase iteration.syncHandler := by
  unfold advanceTime
  rw [if_pos hbehind]
  exact applicationTime_eq (hrange.realigned_nonneg hbehind) (hrange.realigned_lt hbehind)

/-- An iteration that has fallen behind leaves the slot it missed, and more than a cycle after it, behind. -/
theorem lt_advanceTime_of_behind (hclock : iteration.now0Ns ≤ iteration.realignNs)
    (hrange : InRange cycleNs appTimeNs iteration)
    (hbehind : fallsBehind cycleNs appTimeNs iteration = true) :
    appTimeNs + cycleNs < advanceTime cycleNs appTimeNs iteration := by
  have hlate := (fallsBehind_iff hrange).mp hbehind
  have htime := advanceTime_of_behind hrange hbehind
  omega

theorem le_advanceTime (hclock : iteration.now0Ns ≤ iteration.realignNs)
    (hrange : InRange cycleNs appTimeNs iteration) :
    appTimeNs + cycleNs ≤ advanceTime cycleNs appTimeNs iteration := by
  cases hbehind : fallsBehind cycleNs appTimeNs iteration with
  | false => exact (advanceTime_of_in_time hrange hbehind).ge
  | true => exact (lt_advanceTime_of_behind hclock hrange hbehind).le

/-- The thread sleeps until a time that was at most one cycle ago. -/
theorem now0_le_wake (hclock : iteration.now0Ns ≤ iteration.realignNs)
    (hrange : InRange cycleNs appTimeNs iteration) :
    iteration.now0Ns ≤ timespecToNs (getDcSleepSpec iteration.syncHandler
      (advanceTime cycleNs appTimeNs iteration)) + cycleNs := by
  cases hbehind : fallsBehind cycleNs appTimeNs iteration with
  | false =>
      have hscheduled := scheduled_eq hrange
      have hlate : ¬ ((appTimeNs + cycleNs : Nat) + timeBase iteration.syncHandler + cycleNs <
          iteration.now0Ns) := by
        rw [← fallsBehind_iff hrange, hbehind]
        exact Bool.false_ne_true
      rw [advanceTime_of_in_time hrange hbehind, ← Nat.mod_eq_of_lt hrange.appTime_lt]
      omega
  | true =>
      have htime := advanceTime_of_behind hrange hbehind
      have hrealign := hrange.realign_lt
      have hnonneg : 0 ≤ (advanceTime cycleNs appTimeNs iteration : Int) +
          timeBase iteration.syncHandler := by omega
      have hwake := sleepSpec_eq hnonneg (by omega)
      omega

/-- The application time goes forward by a cycle at least in every iteration, realigned or not, and no
iteration sleeps until a time more than a cycle ago. -/
theorem advances_run (cycleNs : Nat) (loop : JobLoop) (actions : List JobLoopAction)
    (hclocked : (machine cycleNs).Meets (Clocked cycleNs) (.start loop) actions) :
    ∀ visit ∈ ((machine cycleNs).exec (.start loop) actions).history, Advances cycleNs visit := by
  have hvisit : ∀ (config : JobLoopConfig) (action : JobLoopAction),
      Clocked cycleNs config action → Advances cycleNs ((machine cycleNs).visit config.state action) := by
    intro config action hnow iteration haction
    rw [visit_action] at haction
    obtain ⟨hclock, hrange⟩ := hnow iteration haction
    rw [haction]
    exact ⟨le_advanceTime hclock hrange, now0_le_wake hclock hrange⟩
  exact (machine cycleNs).forall_history_of_meets hvisit
    (fun visit hmem => absurd hmem List.not_mem_nil) hclocked

theorem clocked_iterate {config : JobLoopConfig} (hclock : iteration.now0Ns ≤ iteration.realignNs)
    (hrange : InRange cycleNs config.state.appTimeNs iteration) :
    Clocked cycleNs config (.iterate iteration) := by
  intro other hother
  rw [← JobLoopAction.iterate.inj hother]
  exact ⟨hclock, hrange⟩

/-- An iteration at cycles of two milliseconds, with the clock at its top. -/
def iterationAt (nowNs : Nat) (sysTimeBase : Int) : JobIteration where
  syncHandler := some { sysTimeBase := sysTimeBase }
  now0Ns := nowNs
  realignNs := nowNs + 100
  tripped := false
  actualWakeupNs := nowNs
  cycleEndNs := nowNs
  dcStatusValid := false
  dcDiffNs := 0
  rxOk := true

def heldUpStart : JobLoopConfig :=
  (machine 2000000).exec (.start (begin none 1000000000 {})) [.iterate (iterationAt 1000500000 250)]

/-- After an iteration in time, one that comes when the thread was held up for sixteen milliseconds. -/
theorem advances_heldUp :
    Advances 2000000
      ((machine 2000000).visit heldUpStart.state (.iterate (iterationAt 1020000000 (-300)))) :=
  advances_run 2000000 (begin none 1000000000 {})
    [.iterate (iterationAt 1000500000 250), .iterate (iterationAt 1020000000 (-300))]
    ⟨clocked_iterate (by decide) (by constructor <;> decide),
      clocked_iterate (by decide) (by constructor <;> decide), trivial⟩ _ List.mem_cons_self

/-! ### The counter of skipped slots -/

theorem skippedSlots_sampleDcMonitor (timing : JobTiming) (runtime : IghMasterRuntime) :
    (runtime.sampleDcMonitor timing).skippedSlots = runtime.skippedSlots := by
  unfold IghMasterRuntime.sampleDcMonitor
  dsimp only
  split
  · rfl
  · split
    · rfl
    · split
      · rfl
      · exact congrArg RuntimeCounters.skippedSlots (IghMasterRuntime.counters_latchIf _ _)

/-- The loop of the Job thread never writes the counter. -/
theorem skippedSlots_finishJobCycle (timing : JobTiming) (rxOk : Bool) (runtime : IghMasterRuntime) :
    (runtime.finishJobCycle timing rxOk).skippedSlots = runtime.skippedSlots := by
  let received : IghMasterRuntime := { runtime with lastRxOk := rxOk }
  have hwkc : (received.observeWkc rxOk).skippedSlots = runtime.skippedSlots :=
    congrArg RuntimeCounters.skippedSlots (IghMasterRuntime.counters_observeWkc rxOk received)
  have hdeadline : ((received.observeWkc rxOk).observeTiming timing).observeDeadline.skippedSlots =
      (received.observeWkc rxOk).skippedSlots :=
    congrArg RuntimeCounters.skippedSlots (IghMasterRuntime.counters_observeDeadline _)
  calc (runtime.finishJobCycle timing rxOk).skippedSlots
      = (runtime.monitorCycle timing rxOk).skippedSlots :=
        congrArg RuntimeCounters.skippedSlots
          (IghMasterRuntime.counters_finishJobCycle timing rxOk runtime)
    _ = ((((received.observeWkc rxOk).observeTiming timing).observeDeadline).sampleDcMonitor
          timing).skippedSlots := by
        unfold IghMasterRuntime.monitorCycle
        rfl
    _ = ((received.observeWkc rxOk).observeTiming timing).observeDeadline.skippedSlots :=
        skippedSlots_sampleDcMonitor timing _
    _ = (received.observeWkc rxOk).skippedSlots := hdeadline
    _ = runtime.skippedSlots := hwkc

theorem skippedSlots_next (cycleNs : Nat) (loop : JobLoop) (action : JobLoopAction) :
    (loop.next cycleNs action).runtime.skippedSlots = loop.runtime.skippedSlots := by
  cases action with
  | iterate iteration =>
      change (IghMasterRuntime.finishJobCycle _ _ _).skippedSlots = _
      rw [skippedSlots_finishJobCycle]
      have hlatch := IghMasterRuntime.counters_latchIf iteration.tripped
        loop.runtime.consumePendingDwellFault
      rw [IghMasterRuntime.counters_consumePendingDwellFault] at hlatch
      exact congrArg RuntimeCounters.skippedSlots hlatch
  | setOperational operational => rfl
  | clearCommFault => rfl
  | requestSafeOutput =>
      change loop.runtime.requestSafeOutput.skippedSlots = _
      unfold IghMasterRuntime.requestSafeOutput
      split <;> rfl
  | releaseSafeOutput =>
      change loop.runtime.releaseSafeOutput.1.skippedSlots = _
      unfold IghMasterRuntime.releaseSafeOutput
      split <;> rfl

theorem skippedSlots_start {input : RuntimeStartInput} {runtime : IghMasterRuntime}
    (hidle : runtime.jobRunning = false) (hstarted : (runtime.start input).2 = true) :
    (runtime.start input).1.skippedSlots = 0 := by
  unfold IghMasterRuntime.start at hstarted ⊢
  rw [hidle, if_neg Bool.false_ne_true] at hstarted ⊢
  dsimp only at hstarted ⊢
  split
  · rename_i hconfigured
    rw [if_pos hconfigured] at hstarted
    exact absurd hstarted Bool.false_ne_true
  · split <;> rfl

/-! ### The grid -/

/-- How the time and the counter stand after the executed cycles. -/
structure Counts (cycleNs initialNs : Nat) (config : JobLoopConfig) : Prop where
  skipped_eq : config.state.runtime.skippedSlots = 0
  le_appTime : initialNs + executedCycles config.history * cycleNs ≤ config.state.appTimeNs
  appTime_eq_iff : config.state.appTimeNs = initialNs + executedCycles config.history * cycleNs ↔
    ∀ visit ∈ config.history, realigns cycleNs visit = false

variable {initialNs : Nat} {config : JobLoopConfig}

theorem Counts.iterate (hcounts : Counts cycleNs initialNs config)
    (hclocked : Clocked cycleNs config (.iterate iteration)) :
    Counts cycleNs initialNs ((machine cycleNs).advance config (.iterate iteration)) := by
  obtain ⟨hclock, hrange⟩ := hclocked iteration rfl
  have hexecuted : executedCycles ((machine cycleNs).advance config (.iterate iteration)).history =
      executedCycles config.history + 1 := List.countP_cons_of_pos rfl
  have htime : ((machine cycleNs).advance config (.iterate iteration)).state.appTimeNs =
      advanceTime cycleNs config.state.appTimeNs iteration := rfl
  have hsum : (executedCycles config.history + 1) * cycleNs =
      executedCycles config.history * cycleNs + cycleNs := Nat.succ_mul _ _
  have hle := hcounts.le_appTime
  refine ⟨(skippedSlots_next cycleNs config.state (.iterate iteration)).trans hcounts.skipped_eq,
    ?_, ?_⟩
  · rw [hexecuted, htime, hsum]
    have hforward := le_advanceTime hclock hrange
    omega
  · rw [hexecuted, htime, hsum, advance_history, List.forall_mem_cons]
    change _ ↔ fallsBehind cycleNs config.state.appTimeNs iteration = false ∧ _
    cases hbehind : fallsBehind cycleNs config.state.appTimeNs iteration with
    | false =>
        rw [advanceTime_of_in_time hrange hbehind, ← hcounts.appTime_eq_iff, eq_self, true_and]
        omega
    | true =>
        have hforward := lt_advanceTime_of_behind hclock hrange hbehind
        refine iff_of_false (by omega) fun hnone => Bool.true_eq_false.mp hnone.1

theorem realigns_of_not_isIteration {visit : JobLoopVisit} (hcall : isIteration visit = false) :
    realigns cycleNs visit = false := by
  unfold isIteration at hcall
  unfold realigns
  cases haction : visit.action with
  | iterate iteration =>
      rw [haction] at hcall
      exact absurd hcall Bool.true_eq_false.mp
  | setOperational operational => rfl
  | clearCommFault => rfl
  | requestSafeOutput => rfl
  | releaseSafeOutput => rfl

/-- A call leaves the time alone, and is no executed cycle. -/
theorem Counts.call (hcounts : Counts cycleNs initialNs config) {action : JobLoopAction}
    (hcall : isIteration ((machine cycleNs).visit config.state action) = false)
    (htime : (config.state.next cycleNs action).appTimeNs = config.state.appTimeNs) :
    Counts cycleNs initialNs ((machine cycleNs).advance config action) := by
  have hexecuted : executedCycles ((machine cycleNs).advance config action).history =
      executedCycles config.history := List.countP_cons_of_neg (by rw [hcall]; exact Bool.false_ne_true)
  have hsame : ((machine cycleNs).advance config action).state.appTimeNs =
      config.state.appTimeNs := htime
  refine ⟨(skippedSlots_next cycleNs config.state action).trans hcounts.skipped_eq, ?_, ?_⟩
  · rw [hexecuted, hsame]
    exact hcounts.le_appTime
  · rw [hexecuted, hsame, advance_history, List.forall_mem_cons, hcounts.appTime_eq_iff]
    exact (and_iff_right (realigns_of_not_isIteration hcall)).symm

theorem Counts.advance (hcounts : Counts cycleNs initialNs config) {action : JobLoopAction}
    (hclocked : Clocked cycleNs config action) :
    Counts cycleNs initialNs ((machine cycleNs).advance config action) := by
  cases action with
  | iterate iteration => exact hcounts.iterate hclocked
  | setOperational operational => exact hcounts.call rfl rfl
  | clearCommFault => exact hcounts.call rfl rfl
  | requestSafeOutput => exact hcounts.call rfl rfl
  | releaseSafeOutput => exact hcounts.call rfl rfl

/-- The application time of a launched Job thread is on the grid, with the slots it counted as skipped,
just if no iteration has realigned it. -/
theorem onGrid_iff (cycleNs : Nat) (syncHandler : Option EtherCATSync) (monotonicTime : Nat)
    {input : RuntimeStartInput} {runtime : IghMasterRuntime} (hidle : runtime.jobRunning = false)
    (hstarted : (runtime.start input).2 = true) (actions : List JobLoopAction)
    (hclocked : (machine cycleNs).Meets (Clocked cycleNs)
      (.start (begin syncHandler monotonicTime (runtime.start input).1)) actions) :
    let after := (machine cycleNs).exec
      (.start (begin syncHandler monotonicTime (runtime.start input).1)) actions
    OnGrid cycleNs (getDcApplicationTime syncHandler monotonicTime) after ↔
      ∀ visit ∈ after.history, realigns cycleNs visit = false := by
  have hstart : Counts cycleNs (getDcApplicationTime syncHandler monotonicTime)
      (.start (begin syncHandler monotonicTime (runtime.start input).1)) :=
    { skipped_eq := skippedSlots_start hidle hstarted
      le_appTime := by
        change getDcApplicationTime syncHandler monotonicTime + 0 * cycleNs ≤
          getDcApplicationTime syncHandler monotonicTime
        omega
      appTime_eq_iff := by
        refine iff_of_true ?_ fun visit hmem => absurd hmem List.not_mem_nil
        change getDcApplicationTime syncHandler monotonicTime =
          getDcApplicationTime syncHandler monotonicTime + 0 * cycleNs
        omega }
  have hstep : ∀ (config : JobLoopConfig) (action : JobLoopAction),
      Counts cycleNs (getDcApplicationTime syncHandler monotonicTime) config →
        Clocked cycleNs config action →
          Counts cycleNs (getDcApplicationTime syncHandler monotonicTime)
            ((machine cycleNs).advance config action) :=
    fun config action hcounts hnow => hcounts.advance hnow
  have hcounts := (machine cycleNs).exec_invariant_of_meets hstep hstart hclocked
  dsimp only
  rw [← hcounts.appTime_eq_iff, OnGrid]
  change _ = _ + (_ + IghMasterRuntime.skippedSlots _) * _ ↔ _
  rw [hcounts.skipped_eq, Nat.add_zero]

def launchInput : RuntimeStartInput where
  config := {}
  memoryLocked := true
  threadRealtime := true

theorem onGrid_inTime :
    OnGrid 2000000 1000000000 ((machine 2000000).exec
      (.start (begin none 1000000000 (({} : IghMasterRuntime).start launchInput).1))
        [.iterate (iterationAt 1000500000 250)]) := by
  have hclocked : (machine 2000000).Meets (Clocked 2000000)
      (.start (begin none 1000000000 (({} : IghMasterRuntime).start launchInput).1))
      [.iterate (iterationAt 1000500000 250)] :=
    ⟨clocked_iterate (by decide) (by constructor <;> decide), trivial⟩
  have hgrid := onGrid_iff 2000000 none 1000000000 (by decide) (by decide) _ hclocked
  exact hgrid.mpr (by decide)

theorem not_onGrid :
    ¬ ∀ (cycleNs : Nat) (syncHandler : Option EtherCATSync) (monotonicTime : Nat)
        (input : RuntimeStartInput) (runtime : IghMasterRuntime) (actions : List JobLoopAction),
      runtime.jobRunning = false → (runtime.start input).2 = true →
        (machine cycleNs).Meets (Clocked cycleNs)
          (.start (begin syncHandler monotonicTime (runtime.start input).1)) actions →
        OnGrid cycleNs (getDcApplicationTime syncHandler monotonicTime)
          ((machine cycleNs).exec
            (.start (begin syncHandler monotonicTime (runtime.start input).1)) actions) := by
  intro hclaim
  have hgrid := hclaim 2000000 none 1000000000 launchInput {} [.iterate (iterationAt 1020000000 0)]
    (by decide) (by decide) ⟨clocked_iterate (by decide) (by constructor <;> decide), trivial⟩
  unfold OnGrid at hgrid
  exact absurd hgrid (by decide)

end JobLoop

end IghMaster
