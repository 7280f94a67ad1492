import IghMaster.Proof.DwellRuns
import IghMaster.Proof.FaultDetection

/-!
# Starting under safe-output

A start under safe-output withholds the permission to move, but the dwell it resets allows motion, and
the first Job cycle publishes what the dwell allows. Where the dwell is not asked before a clear
re-arms it, the permission stays withheld until the healthy cycles that the clear asks for: the dwell
counts them, and counts no more than there were.
-/

namespace IghMaster

open Transition

namespace IghMasterRuntime

variable {config : RuntimeConfig} {visit : RuntimeVisit} {earlier : List RuntimeVisit}

/-! ### The dwell of a history -/

theorem dwelled_cons (visit : RuntimeVisit) (hdwelled : dwelled earlier = true) :
    dwelled (visit :: earlier) = true := by
  rw [dwelled, hdwelled, Bool.or_true]

theorem dwelled_of_count {count : Nat} (hcount : healthySinceClear (visit :: earlier) = some count)
    (henough : dwellCycles visit.after ≤ count) : dwelled (visit :: earlier) = true := by
  rw [dwelled, hcount, Option.any_some, decide_eq_true henough, Bool.true_or]

/-- The dwell of the runtime counts no more than the healthy cycles since the clear. -/
def Counts (dwell : HealthyDwell) (history : List RuntimeVisit) : Prop :=
  dwell.armed = true → ∃ count, healthySinceClear history = some count ∧ dwell.consecutiveOk ≤ count

theorem Counts.idle {dwell : HealthyDwell} (hcounts : Counts dwell earlier)
    (hclear : isClearCommFault visit = false) (hjob : isJobCycle visit = false) :
    Counts dwell (visit :: earlier) := by
  have hhealthy : isHealthyCycle visit = false := by
    rw [isHealthyCycle, hjob, Bool.false_and]
  intro harmed
  rw [healthySinceClear, hclear, hhealthy, hjob, if_neg Bool.false_ne_true,
    if_neg Bool.false_ne_true, if_neg Bool.false_ne_true]
  exact hcounts harmed

/-- A Job cycle that the dwell observes: it goes on counting, or allows motion after enough. -/
theorem Counts.observe {dwell : HealthyDwell} (hcounts : Counts dwell earlier)
    (hjob : isJobCycle visit = true) (hclear : isClearCommFault visit = false)
    (hallow : dwell.allowEnable = false) (hrequired : dwell.required = dwellCycles visit.after) :
    Counts (dwell.observe (isHealthyCycle visit)) (visit :: earlier) ∧
      ((dwell.observe (isHealthyCycle visit)).allowEnable = true →
        dwelled (visit :: earlier) = true) := by
  by_cases harmed : dwell.armed = true
  · obtain ⟨count, hcount, hle⟩ := hcounts harmed
    unfold HealthyDwell.observe
    rw [if_pos harmed]
    cases hhealthy : isHealthyCycle visit with
    | false =>
        have hnow : healthySinceClear (visit :: earlier) = some 0 := by
          rw [healthySinceClear, hclear, hhealthy, hjob, hcount, if_neg Bool.false_ne_true,
            if_neg Bool.false_ne_true, if_pos rfl, Option.map_some]
        rw [if_neg Bool.false_ne_true]
        exact ⟨fun _ => ⟨0, hnow, Nat.le_refl 0⟩, fun h => absurd h Bool.false_ne_true⟩
    | true =>
        have hnow : healthySinceClear (visit :: earlier) = some (count + 1) := by
          rw [healthySinceClear, hclear, hhealthy, hcount, if_neg Bool.false_ne_true, if_pos rfl,
            Option.map_some]
        have hmore : AnomalyTracker.saturatingSucc (2 ^ 32 - 1) dwell.consecutiveOk ≤ count + 1 :=
          (Master.saturatingSucc_le _ _).trans (Nat.succ_le_succ hle)
        rw [if_pos rfl]
        dsimp only
        split
        · rename_i hfull
          refine ⟨fun h => absurd h Bool.false_ne_true, fun _ => ?_⟩
          exact dwelled_of_count hnow (hrequired ▸ hfull.trans hmore)
        · exact ⟨fun _ => ⟨count + 1, hnow, hmore⟩,
            fun h => absurd (hallow.symm.trans h) Bool.false_ne_true⟩
  · have hkept : dwell.observe (isHealthyCycle visit) = dwell :=
      HealthyDwell.observe_of_not_armed _ (by simpa using harmed)
    rw [hkept]
    exact ⟨fun h => absurd h harmed, fun h => absurd (hallow.symm.trans h) Bool.false_ne_true⟩

/-- What a cycle of a running Job makes of the dwell: it hears of a fault, or it is as it was where
none is pending, and then it observes the cycle and is published. -/
theorem exists_dwell_jobCycle {runtime : IghMasterRuntime} (hrunning : runtime.jobRunning = true)
    (input : RuntimeJobInput) :
    ∃ dwell, (dwell = runtime.healthyDwell ∧ runtime.pendingDwellFault = false ∨
        dwell = runtime.healthyDwell.onFault) ∧
      (runtime.jobCycle input).healthyDwell =
        dwell.observe (isHealthyCycle (machine.visit runtime (.job input))) ∧
      (runtime.jobCycle input).motionReenableAllowed =
        (runtime.jobCycle input).healthyDwell.allowEnable := by
  let entered := runtime.consumePendingDwellFault.latchIf input.tripped
  have hcycle : runtime.jobCycle input = entered.finishJobCycle input.timing input.rxOk := by
    rw [jobCycle, if_pos hrunning]
  have hmonitored : RuntimeLatches.Monitored runtime.latches.consume
      (entered.monitorCycle input.timing input.rxOk).latches := by
    rw [← latches_consumePendingDwellFault]
    exact (monitored_latchIf _ _).trans (monitored_monitorCycle _ _ _)
  have hhealthy : isHealthyCycle (machine.visit runtime (.job input)) =
      (entered.monitorCycle input.timing input.rxOk).healthy input.rxOk := by
    have hrxOk : (entered.monitorCycle input.timing input.rxOk).lastRxOk = input.rxOk :=
      congrArg (fun kept => kept.2.2) (unmonitored_monitorCycle input.timing input.rxOk entered)
    change (runtime.jobRunning &&
      (runtime.jobCycle input).healthy (runtime.jobCycle input).lastRxOk) = _
    rw [hrunning, Bool.true_and, hcycle]
    change (entered.monitorCycle input.timing input.rxOk).healthy
      (entered.monitorCycle input.timing input.rxOk).lastRxOk = _
    rw [hrxOk]
  refine ⟨(entered.monitorCycle input.timing input.rxOk).healthyDwell, ?_, ?_, ?_⟩
  · have hconsumed : runtime.latches.consume.healthyDwell = runtime.healthyDwell ∧
          runtime.pendingDwellFault = false ∨
        runtime.latches.consume.healthyDwell = runtime.healthyDwell.onFault := by
      unfold RuntimeLatches.consume
      by_cases hpending : runtime.pendingDwellFault = true
      · rw [if_pos (by exact hpending)]
        exact Or.inr rfl
      · rw [if_neg (by exact hpending)]
        exact Or.inl ⟨rfl, by simpa using hpending⟩
    rcases hmonitored with hkept | hfault
    · rw [show (entered.monitorCycle input.timing input.rxOk).healthyDwell =
        runtime.latches.consume.healthyDwell from congrArg RuntimeLatches.healthyDwell hkept]
      exact hconsumed
    · refine Or.inr ?_
      rw [show (entered.monitorCycle input.timing input.rxOk).healthyDwell =
        runtime.latches.consume.healthyDwell.onFault from
          congrArg RuntimeLatches.healthyDwell hfault]
      rcases hconsumed with ⟨hdwell, -⟩ | hdwell
      · rw [hdwell]
      · rw [hdwell, HealthyDwell.onFault_onFault]
  · rw [hhealthy, hcycle]
    rfl
  · rw [hcycle]
    rfl

/-! ### Every run -/

/-- The dwell asks for the cycles of the configuration, and as long as no dwell followed a clear the
permission is withheld and the dwell counts honestly. -/
structure Withheld (config : RuntimeConfig) : Prop where
  agrees : config.state.Agrees
  withheld : dwelled config.history = true ∨
    config.state.motionReenableAllowed = false ∧ Counts config.state.healthyDwell config.history

theorem agrees_jobCycle {runtime : IghMasterRuntime} (hagrees : runtime.Agrees)
    (input : RuntimeJobInput) : (runtime.jobCycle input).Agrees := by
  unfold jobCycle
  split
  · exact (hagrees.consumePendingDwellFault.latchIf input.tripped).finishJobCycle _ _
  · exact hagrees

theorem agrees_next {runtime : IghMasterRuntime} (hagrees : runtime.Agrees)
    (action : RuntimeAction) : (runtime.next action).Agrees := by
  cases action with
  | start input => exact agrees_start input fun _ => hagrees
  | stop => exact hagrees
  | setOperational operational => exact hagrees
  | clearCommFault => exact hagrees
  | requestSafeOutput => exact hagrees.requestSafeOutput
  | releaseSafeOutput =>
      change runtime.releaseSafeOutput.1.Agrees
      unfold releaseSafeOutput
      split <;> exact hagrees
  | job input => exact agrees_jobCycle hagrees input

/-- An action that leaves the dwell alone, or takes it back, and gives no permission. -/
theorem Withheld.idle {action : RuntimeAction} (hwithheld : Withheld config)
    (hclear : isClearCommFault (machine.visit config.state action) = false)
    (hjob : isJobCycle (machine.visit config.state action) = false)
    (hallowed : (config.state.next action).motionReenableAllowed = true →
      config.state.motionReenableAllowed = true)
    (hdwell : (config.state.next action).healthyDwell.armed = true →
      (config.state.next action).healthyDwell = config.state.healthyDwell) :
    Withheld (machine.advance config action) := by
  refine ⟨agrees_next hwithheld.agrees action, ?_⟩
  rcases hwithheld.withheld with hdwelled | ⟨hkept, hcounts⟩
  · exact Or.inl (dwelled_cons _ hdwelled)
  · refine Or.inr ⟨?_, fun harmed => ?_⟩
    · cases hafter : (config.state.next action).motionReenableAllowed with
      | false => exact hafter
      | true => exact absurd (hkept.symm.trans (hallowed hafter)) Bool.false_ne_true
    · change (config.state.next action).healthyDwell.armed = true at harmed
      change ∃ count, _ ∧ (config.state.next action).healthyDwell.consecutiveOk ≤ count
      have hsame := hdwell harmed
      rw [hsame] at harmed ⊢
      exact hcounts.idle hclear hjob harmed

theorem Withheld.jobCycle (hwithheld : Withheld config) (input : RuntimeJobInput)
    (hmeets : withholdsDwell config (.job input) = true) :
    Withheld (machine.advance config (.job input)) := by
  cases hrunning : config.state.jobRunning with
  | false =>
      have hkept : config.state.next (.job input) = config.state := by
        change config.state.jobCycle input = _
        rw [IghMasterRuntime.jobCycle, hrunning, if_neg Bool.false_ne_true]
      refine hwithheld.idle rfl hrunning ?_ ?_
      · rw [hkept]
        exact id
      · rw [hkept]
        exact fun _ => rfl
  | true =>
      refine ⟨agrees_next hwithheld.agrees _, ?_⟩
      rcases hwithheld.withheld with hdwelled | ⟨hkept, hcounts⟩
      · exact Or.inl (dwelled_cons _ hdwelled)
      by_cases hdwelled : dwelled config.history = true
      · exact Or.inl (dwelled_cons _ hdwelled)
      obtain ⟨dwell, hentered, hobserved, hpublished⟩ := exists_dwell_jobCycle hrunning input
      have hallow : dwell.allowEnable = false := by
        rcases hentered with ⟨rfl, hpending⟩ | rfl
        · simpa [withholdsDwell, hrunning, hpending, hdwelled] using hmeets
        · rfl
      have hcounted : Counts dwell config.history := by
        rcases hentered with ⟨rfl, -⟩ | rfl
        · exact hcounts
        · exact fun harmed => absurd harmed Bool.false_ne_true
      have hrequired : dwell.required =
          dwellCycles (machine.visit config.state (.job input)).after := by
        have hagrees := agrees_jobCycle hwithheld.agrees input
        unfold Agrees at hagrees
        rw [hobserved, required_observe] at hagrees
        exact hagrees
      have hcycle : isJobCycle (machine.visit config.state (.job input)) = true := hrunning
      obtain ⟨hcountedAfter, hallowedAfter⟩ := hcounted.observe hcycle rfl hallow hrequired
      rw [← hobserved] at hcountedAfter hallowedAfter
      cases hafter : (config.state.jobCycle input).healthyDwell.allowEnable with
      | true => exact Or.inl (hallowedAfter hafter)
      | false => exact Or.inr ⟨hpublished.trans hafter, hcountedAfter⟩

theorem Withheld.advance (hwithheld : Withheld config) {action : RuntimeAction}
    (hmeets : withholdsDwell config action = true) : Withheld (machine.advance config action) := by
  cases action with
  | start input =>
      cases hrunning : config.state.jobRunning with
      | true =>
          have hkept : config.state.next (.start input) = config.state := by
            change (config.state.start input).1 = _
            rw [IghMasterRuntime.start, if_pos hrunning]
          refine hwithheld.idle rfl rfl ?_ ?_
          · rw [hkept]
            exact id
          · rw [hkept]
            exact fun _ => rfl
      | false =>
          have hdwelled : dwelled config.history = true := by
            simpa [withholdsDwell, hrunning] using hmeets
          exact ⟨agrees_next hwithheld.agrees _, Or.inl (dwelled_cons _ hdwelled)⟩
  | stop => exact hwithheld.idle rfl rfl id fun _ => rfl
  | setOperational operational => exact hwithheld.idle rfl rfl id fun _ => rfl
  | clearCommFault =>
      refine ⟨hwithheld.agrees, Or.inr ⟨rfl, fun _ => ⟨0, rfl, Nat.le_refl 0⟩⟩⟩
  | requestSafeOutput =>
      have hrequested : config.state.requestSafeOutput = config.state ∨
          config.state.requestSafeOutput.motionReenableAllowed = false ∧
            config.state.requestSafeOutput.healthyDwell.armed = false := by
        unfold IghMasterRuntime.requestSafeOutput
        split
        · exact Or.inl rfl
        · exact Or.inr ⟨rfl, rfl⟩
      refine hwithheld.idle rfl rfl (fun hallowed => ?_) fun harmed => ?_
      · rcases hrequested with hkept | ⟨hwithdrawn, -⟩
        · exact (congrArg motionReenableAllowed hkept).symm.trans hallowed
        · exact absurd (hwithdrawn.symm.trans hallowed) Bool.false_ne_true
      · rcases hrequested with hkept | ⟨-, hidle⟩
        · exact congrArg healthyDwell hkept
        · exact absurd (hidle.symm.trans harmed) Bool.false_ne_true
  | releaseSafeOutput =>
      have hreleased : config.state.releaseSafeOutput.1.motionReenableAllowed =
            config.state.motionReenableAllowed ∧
          config.state.releaseSafeOutput.1.healthyDwell = config.state.healthyDwell := by
        unfold IghMasterRuntime.releaseSafeOutput
        split <;> exact ⟨rfl, rfl⟩
      exact hwithheld.idle rfl rfl hreleased.1.symm.trans fun _ => hreleased.2
  | job input => exact hwithheld.jobCycle input hmeets

theorem withheld_start {runtime : IghMasterRuntime} {input : RuntimeStartInput}
    (hsafe : runtime.safeOutputRequired = true) (hlaunches : runtime.launches input = true) :
    Withheld (machine.advance (.start runtime) (.start input)) := by
  rw [launches, Bool.and_eq_true, Bool.not_eq_true'] at hlaunches
  obtain ⟨hstopped, hlocked⟩ := hlaunches
  have hstillSafe : (runtime.configure input).1.safeOutputRequired = true :=
    (safeOutputRequired_configure input runtime).trans hsafe
  have hlaunched : (runtime.configure input).1.launch.motionReenableAllowed = false ∧
      (runtime.configure input).1.launch.healthyDwell.armed = false := by
    unfold launch
    dsimp only
    rw [hstillSafe, if_pos rfl]
    exact ⟨rfl, rfl⟩
  have hflags : (runtime.start input).1.motionReenableAllowed = false ∧
      (runtime.start input).1.healthyDwell.armed = false := by
    unfold IghMasterRuntime.start
    rw [hstopped, if_neg Bool.false_ne_true]
    dsimp only
    rw [hlocked, Bool.not_true, if_neg Bool.false_ne_true]
    split
    · exact hlaunched
    · exact hlaunched
  refine ⟨agrees_start input fun hrunning => ?_, Or.inr ⟨hflags.1, fun harmed => ?_⟩⟩
  · exact absurd (hstopped.symm.trans hrunning) Bool.false_ne_true
  · exact absurd (hflags.2.symm.trans harmed) Bool.false_ne_true

theorem Withheld.dwelled_of_allowed (hwithheld : Withheld config)
    (hallowed : config.state.motionReenableAllowed = true) : dwelled config.history = true := by
  rcases hwithheld.withheld with hdwelled | ⟨hkept, -⟩
  · exact hdwelled
  · exact absurd (hkept.symm.trans hallowed) Bool.false_ne_true

theorem eq_after_of_mem_passed {passing : IghMasterRuntime}
    (hpassing : passing ∈ passed (visit :: earlier)) :
    passing = visit.after ∨ configures visit = true ∧ earlier ≠ [] := by
  rw [passed] at hpassing
  unfold configures
  split at hpassing
  · split at hpassing
    · exact Or.inl (List.mem_singleton.mp hpassing)
    · rename_i hlater
      rw [Bool.or_eq_true, not_or, List.isEmpty_iff] at hlater
      exact Or.inr ⟨by simpa using hlater.1, hlater.2⟩
  · exact Or.inl (List.mem_singleton.mp hpassing)

/-- In every run from a start under safe-output, in which nothing asks or resets the dwell before a
clear has re-armed it, motion is not allowed before the healthy cycles that follow the clear. -/
theorem withheldUntilDwelled_of_withholdsDwell {runtime : IghMasterRuntime}
    {input : RuntimeStartInput} (hsafe : runtime.safeOutputRequired = true)
    (hlaunches : runtime.launches input = true) {actions : List RuntimeAction}
    (hmeets : machine.Meets (fun config action => withholdsDwell config action = true)
      (machine.advance (.start runtime) (.start input)) actions) :
    WithheldUntilDwelled (machine.exec (machine.advance (.start runtime) (.start input)) actions) := by
  have hstart := withheld_start hsafe hlaunches
  have hfirst : WithheldUntilDwelled (machine.advance (.start runtime) (.start input)) := by
    intro passing hpassing hallowed
    rcases eq_after_of_mem_passed hpassing with rfl | ⟨-, hlater⟩
    · exact hstart.dwelled_of_allowed hallowed
    · exact absurd rfl hlater
  have hstep : ∀ (config : RuntimeConfig) (action : RuntimeAction),
      Withheld config ∧ WithheldUntilDwelled config → withholdsDwell config action = true →
        Withheld (machine.advance config action) ∧
          WithheldUntilDwelled (machine.advance config action) := by
    intro config action hboth hwithholds
    have hafter := hboth.1.advance hwithholds
    refine ⟨hafter, fun passing hpassing hallowed => ?_⟩
    rcases eq_after_of_mem_passed hpassing with rfl | ⟨hconfigures, -⟩
    · exact hafter.dwelled_of_allowed hallowed
    · cases action with
      | start input =>
          have hstopped : config.state.jobRunning = false := by
            have hopposite : (!config.state.jobRunning) = true := hconfigures
            simpa using hopposite
          have hdwelled : dwelled config.history = true := by
            simpa [withholdsDwell, hstopped] using hwithholds
          exact dwelled_cons _ hdwelled
      | _ => exact absurd hconfigures Bool.false_ne_true
  exact (machine.exec_invariant_of_meets hstep ⟨hstart, hfirst⟩ hmeets).2

def healthyJobInput : RuntimeJobInput where
  tripped := false
  timing :=
    { scheduledNs := 0, actualWakeupNs := 0, cycleEndNs := 0, dcStatusValid := true, dcDiffNs := 0 }
  rxOk := true

def shortDwellStart : RuntimeStartInput where
  config := { healthyDwellCycles := 1 }
  memoryLocked := true
  threadRealtime := true

/-- A clear before the first Job cycle, one healthy cycle, and the release. -/
theorem withheldUntilDwelled_after_clear :
    WithheldUntilDwelled (machine.exec
      (machine.advance (.start ({} : IghMasterRuntime).requestSafeOutput) (.start shortDwellStart))
      [.clearCommFault, .job healthyJobInput, .releaseSafeOutput, .job healthyJobInput]) :=
  withheldUntilDwelled_of_withholdsDwell rfl (by decide +kernel) (by decide +kernel)

/-- The first Job cycle after a start under safe-output, with no clear, allows motion. -/
theorem not_withheldUntilDwelled :
    ¬ ∀ (runtime : IghMasterRuntime) (input : RuntimeStartInput) (actions : List RuntimeAction),
      runtime.safeOutputRequired = true → runtime.launches input = true →
        WithheldUntilDwelled
          (machine.exec (machine.advance (.start runtime) (.start input)) actions) := by
  intro hall
  have hwithheld := hall ({} : IghMasterRuntime).requestSafeOutput
    { config := {}, memoryLocked := true, threadRealtime := true } [.job healthyJobInput] rfl
    (by decide +kernel)
  have hdwelled := hwithheld _ (List.mem_singleton.mpr rfl) (by decide +kernel)
  exact absurd hdwelled (by decide +kernel)

end IghMasterRuntime

end IghMaster
