import IghMaster.Proof.MasterSteps

/-!
# Releases only after a dwell

The dwell counts the healthy cycles since a safety reset, and what it says of them is true of the run
as long as the runtime is not configured afresh: a new configuration lets the dwell start out as
fulfilled. In the runs below no release comes between a configuration and the reset after it.
-/

namespace IghMaster

open Transition

namespace Master

/-! ### Healthy cycles of a history -/

/-- The last visit that disturbed the dwell was a safety reset, and at least so many of the newest
Job cycles after it were healthy. -/
def Counted (count : Nat) (history : List MasterVisit) : Prop :=
  ∃ later reset earlier, history = later ++ reset :: earlier ∧ isSafetyReset reset = true ∧
    (∀ visit ∈ later, disturbsDwell visit = false) ∧
      ∃ block older, later.filter isJobCycle = block ++ older ∧ count ≤ block.length ∧
        ∀ visit ∈ block, isHealthyCycle visit = true

variable {count : Nat} {history : List MasterVisit} {visit : MasterVisit}

theorem isJobCycle_of_isHealthyCycle (hhealthy : isHealthyCycle visit = true) :
    isJobCycle visit = true := by
  rw [isHealthyCycle, Bool.and_eq_true] at hhealthy
  exact hhealthy.1

theorem counted_reset (history : List MasterVisit) (hreset : isSafetyReset visit = true) :
    Counted 0 (visit :: history) :=
  ⟨[], visit, history, rfl, hreset, by simp, [], [], rfl, Nat.le_refl 0, by simp⟩

theorem Counted.calm (hcounted : Counted count history) (hdisturbs : disturbsDwell visit = false)
    (hjob : isJobCycle visit = false) : Counted count (visit :: history) := by
  obtain ⟨later, reset, earlier, rfl, hreset, hlater, block, older, hsplit, hcount, hblock⟩ :=
    hcounted
  refine ⟨visit :: later, reset, earlier, rfl, hreset, ?_, block, older, ?_, hcount, hblock⟩
  · simpa [hdisturbs] using hlater
  · rw [List.filter_cons_of_neg (by simp [hjob])]
    exact hsplit

theorem Counted.healthy (hcounted : Counted count history)
    (hdisturbs : disturbsDwell visit = false) (hhealthy : isHealthyCycle visit = true) :
    Counted (count + 1) (visit :: history) := by
  obtain ⟨later, reset, earlier, rfl, hreset, hlater, block, older, hsplit, hcount, hblock⟩ :=
    hcounted
  refine ⟨visit :: later, reset, earlier, rfl, hreset, ?_, visit :: block, older, ?_, ?_, ?_⟩
  · simpa [hdisturbs] using hlater
  · rw [List.filter_cons_of_pos (isJobCycle_of_isHealthyCycle hhealthy), hsplit,
      List.cons_append]
  · rw [List.length_cons]
    omega
  · simpa [hhealthy] using hblock

theorem Counted.unhealthy (hcounted : Counted count history)
    (hdisturbs : disturbsDwell visit = false) : Counted 0 (visit :: history) := by
  obtain ⟨later, reset, earlier, rfl, hreset, hlater, -⟩ := hcounted
  refine ⟨visit :: later, reset, earlier, rfl, hreset, ?_, [], _, rfl, Nat.le_refl 0, by simp⟩
  simpa [hdisturbs] using hlater

theorem Counted.mono {fewer : Nat} (hcounted : Counted count history) (hle : fewer ≤ count) :
    Counted fewer history := by
  obtain ⟨later, reset, earlier, hhistory, hreset, hlater, block, older, hsplit, hcount, hblock⟩ :=
    hcounted
  exact ⟨later, reset, earlier, hhistory, hreset, hlater, block, older, hsplit, hle.trans hcount,
    hblock⟩

theorem Counted.dwelled (hcounted : Counted count history) : Dwelled count history := by
  obtain ⟨later, reset, earlier, hhistory, hreset, hlater, block, older, hsplit, hcount, hblock⟩ :=
    hcounted
  refine ⟨later, reset, earlier, hhistory, hreset, hlater, [], block.take count,
    block.drop count ++ older, ?_, ?_, ?_⟩
  · rw [hsplit, List.nil_append, ← List.append_assoc, List.take_append_drop]
  · rw [List.length_take]
    exact Nat.min_eq_left hcount
  · exact fun past hmem => hblock past (List.mem_of_mem_take hmem)

theorem Dwelled.cons (hdwelled : Dwelled count history) (hdisturbs : disturbsDwell visit = false) :
    Dwelled count (visit :: history) := by
  obtain ⟨later, reset, earlier, rfl, hreset, hlater, newer, block, older, hsplit, hrow⟩ := hdwelled
  refine ⟨visit :: later, reset, earlier, rfl, hreset, ?_, ?_⟩
  · simpa [hdisturbs] using hlater
  · cases hjob : isJobCycle visit with
    | true =>
        refine ⟨visit :: newer, block, older, ?_, hrow⟩
        rw [List.filter_cons_of_pos hjob, hsplit]
        rfl
    | false =>
        refine ⟨newer, block, older, ?_, hrow⟩
        rw [List.filter_cons_of_neg (by simp [hjob])]
        exact hsplit

theorem Dwelled.exists_healthy (hdwelled : Dwelled count history) (hcount : 0 < count) :
    ∃ visit ∈ history, isHealthyCycle visit = true := by
  obtain ⟨later, reset, earlier, rfl, -, -, newer, block, older, hsplit, hlength, hblock⟩ := hdwelled
  obtain ⟨visit, hvisit⟩ := List.exists_mem_of_length_pos (hlength ▸ hcount)
  have hcycle : visit ∈ later.filter isJobCycle := by
    rw [hsplit]
    simp [hvisit]
  exact ⟨visit, by simp [List.mem_of_mem_filter hcycle], hblock visit hvisit⟩

/-! ### What the dwell says of a history -/

structure DwellTracks (dwell : HealthyDwell) (history : List MasterVisit) : Prop where
  allowed : dwell.allowEnable = true → Dwelled dwell.required history
  counting : dwell.armed = true → Counted dwell.consecutiveOk history

variable {dwell : HealthyDwell}

theorem dwellTracks_onFault (dwell : HealthyDwell) (history : List MasterVisit) :
    DwellTracks dwell.onFault history :=
  ⟨fun h => absurd h (by simp [HealthyDwell.onFault]),
    fun h => absurd h (by simp [HealthyDwell.onFault])⟩

theorem dwellTracks_requestReset (dwell : HealthyDwell) (history : List MasterVisit)
    (hreset : isSafetyReset visit = true) :
    DwellTracks dwell.requestReset (visit :: history) :=
  ⟨fun h => absurd h (by simp [HealthyDwell.requestReset]), fun _ => counted_reset history hreset⟩

theorem DwellTracks.calm (htracks : DwellTracks dwell history)
    (hdisturbs : disturbsDwell visit = false) (hjob : isJobCycle visit = false) :
    DwellTracks dwell (visit :: history) :=
  ⟨fun hallow => (htracks.allowed hallow).cons hdisturbs,
    fun harmed => (htracks.counting harmed).calm hdisturbs hjob⟩

/-- A count that stops at the largest value of its type is no more than the healthy cycles. -/
theorem saturatingSucc_le (limit count : Nat) :
    AnomalyTracker.saturatingSucc limit count ≤ count + 1 := by
  unfold AnomalyTracker.saturatingSucc
  split <;> omega

theorem DwellTracks.observe (htracks : DwellTracks dwell history) {healthy : Bool}
    (hdisturbs : disturbsDwell visit = false)
    (hhealthy : healthy = true → isHealthyCycle visit = true) :
    DwellTracks (dwell.observe healthy) (visit :: history) := by
  unfold HealthyDwell.observe
  by_cases harmed : dwell.armed = true
  · have hcounted := htracks.counting harmed
    rw [if_pos harmed]
    cases healthy with
    | false =>
        exact ⟨fun h => absurd h (by simp), fun _ => hcounted.unhealthy hdisturbs⟩
    | true =>
        have hmore := (hcounted.healthy hdisturbs (hhealthy rfl)).mono
          (saturatingSucc_le (2 ^ 32 - 1) dwell.consecutiveOk)
        rw [if_pos rfl]
        dsimp only
        split
        · rename_i hfull
          exact ⟨fun _ => (hmore.mono hfull).dwelled, fun h => absurd h (by simp)⟩
        · exact ⟨fun hallow => (htracks.allowed hallow).cons hdisturbs, fun _ => hmore⟩
  · rw [if_neg harmed]
    exact ⟨fun hallow => (htracks.allowed hallow).cons hdisturbs, fun h => absurd h harmed⟩

/-- The dwell tracks the history, and a latched fault took it back. -/
structure FaultTracks (latches : RuntimeLatches) (history : List MasterVisit) : Prop where
  dwell : DwellTracks latches.healthyDwell history
  faulted : latches.commFault = true →
    latches.healthyDwell.armed = false ∧ latches.healthyDwell.allowEnable = false

/-- Between two actions, moreover, no more is published than the dwell allows. -/
structure LatchesTrack (latches : RuntimeLatches) (history : List MasterVisit) : Prop
    extends FaultTracks latches history where
  published : latches.motionReenableAllowed = true → latches.healthyDwell.allowEnable = true

variable {latches : RuntimeLatches}

theorem LatchesTrack.congr {after : RuntimeLatches} (htrack : LatchesTrack latches history)
    (hdwell : after.healthyDwell = latches.healthyDwell)
    (hallowed : after.motionReenableAllowed = latches.motionReenableAllowed)
    (hfault : after.commFault = latches.commFault) : LatchesTrack after history where
  dwell := hdwell ▸ htrack.dwell
  published := by
    rw [hdwell, hallowed]
    exact htrack.published
  faulted := by
    rw [hdwell, hfault]
    exact htrack.faulted

theorem LatchesTrack.calm (htrack : LatchesTrack latches history)
    (hdisturbs : disturbsDwell visit = false) (hjob : isJobCycle visit = false) :
    LatchesTrack latches (visit :: history) :=
  ⟨⟨htrack.dwell.calm hdisturbs hjob, htrack.faulted⟩, htrack.published⟩

theorem latchesTrack_of_onFault {after : RuntimeLatches} (dwell : HealthyDwell)
    (hdwell : after.healthyDwell = dwell.onFault) (hallowed : after.motionReenableAllowed = false)
    (history : List MasterVisit) : LatchesTrack after history where
  dwell := hdwell ▸ dwellTracks_onFault dwell history
  published := fun h => absurd (hallowed.symm.trans h) (by simp)
  faulted := by
    rw [hdwell]
    exact fun _ => ⟨rfl, rfl⟩

end Master

namespace Backend

open Master

theorem latchesTrack_of_quiet {backend : Backend} {action : BackendAction}
    {history : List MasterVisit} (hquiet : action.isQuiet = true)
    (htrack : LatchesTrack backend.runtime.latches history) :
    LatchesTrack (next backend action).runtime.latches history := by
  cases action with
  | initializeServo bus config motors => exact htrack
  | setOperational => exact htrack
  | deactivate => exact htrack.congr rfl rfl rfl
  | call call => exact htrack
  | requestFaultReset motorId allowWithoutFault slavesInOp => exact htrack
  | _ => exact absurd hquiet (by simp [BackendAction.isQuiet])

theorem Quietly.latchesTrack {backend after : Backend} {history : List MasterVisit}
    (hquiet : backend.Quietly after) (htrack : LatchesTrack backend.runtime.latches history) :
    LatchesTrack after.runtime.latches history := by
  have hstep : ∀ (first : Backend) (action : BackendAction), action.isQuiet = true →
      LatchesTrack first.runtime.latches history →
        LatchesTrack (machine.next first action).runtime.latches history :=
    fun _ _ hallowed h => latchesTrack_of_quiet hallowed h
  exact hquiet.invariant hstep htrack

end Backend

namespace IghMasterRuntime

open Master

/-- A request for safe-output takes the dwell back, or finds it required and changes nothing. -/
theorem latchesTrack_requestSafeOutput {runtime : IghMasterRuntime} {history : List MasterVisit}
    {visit : MasterVisit} (htrack : LatchesTrack runtime.latches history)
    (hcalm : runtime.safeOutputRequired = true → disturbsDwell visit = false)
    (hjob : Master.isJobCycle visit = false) :
    LatchesTrack runtime.requestSafeOutput.latches (visit :: history) := by
  unfold requestSafeOutput
  by_cases hsafe : runtime.safeOutputRequired = true
  · rw [if_pos hsafe]
    exact htrack.calm (hcalm hsafe) hjob
  · rw [if_neg hsafe]
    exact latchesTrack_of_onFault runtime.healthyDwell rfl rfl _

/-! ### What the monitors of a cycle leave alone -/

/-- The configuration, the length of a dwell and the outcome of the exchange. -/
def unmonitored (runtime : IghMasterRuntime) : IghMasterConfig × Nat × Bool :=
  (runtime.config, runtime.healthyDwell.required, runtime.lastRxOk)

theorem unmonitored_latchIf (trip : Bool) (runtime : IghMasterRuntime) :
    (runtime.latchIf trip).unmonitored = runtime.unmonitored := by
  unfold latchIf
  split <;> rfl

theorem unmonitored_observeWkc (rxOk : Bool) (runtime : IghMasterRuntime) :
    (runtime.observeWkc rxOk).unmonitored = runtime.unmonitored := by
  unfold observeWkc
  split
  · exact unmonitored_latchIf _ _
  · rfl

theorem unmonitored_observeDeadline (runtime : IghMasterRuntime) :
    runtime.observeDeadline.unmonitored = runtime.unmonitored := by
  unfold observeDeadline
  split
  · exact unmonitored_latchIf _ _
  · rfl

theorem unmonitored_sampleDcMonitor (timing : JobTiming) (runtime : IghMasterRuntime) :
    (runtime.sampleDcMonitor timing).unmonitored = runtime.unmonitored := by
  unfold sampleDcMonitor
  dsimp only
  split
  · rfl
  · split
    · rfl
    · split
      · rfl
      · exact unmonitored_latchIf _ _

theorem unmonitored_monitorCycle (timing : JobTiming) (rxOk : Bool) (runtime : IghMasterRuntime) :
    (runtime.monitorCycle timing rxOk).unmonitored =
      (runtime.config, runtime.healthyDwell.required, rxOk) := by
  unfold monitorCycle
  rw [unmonitored_sampleDcMonitor, unmonitored_observeDeadline]
  change (({ runtime with lastRxOk := rxOk } : IghMasterRuntime).observeWkc rxOk).unmonitored = _
  rw [unmonitored_observeWkc]
  rfl

end IghMasterRuntime

theorem HealthyDwell.observe_of_not_armed {dwell : HealthyDwell} (healthy : Bool)
    (harmed : dwell.armed = false) : dwell.observe healthy = dwell := by
  rw [HealthyDwell.observe, if_neg (by simp [harmed])]

namespace RuntimeLatches

open Master

variable {latches : RuntimeLatches} {history : List MasterVisit} {visit : MasterVisit}

theorem faultTracks_consume (htrack : FaultTracks latches history) :
    FaultTracks latches.consume history := by
  unfold consume
  split
  · exact ⟨dwellTracks_onFault latches.healthyDwell history, fun _ => ⟨rfl, rfl⟩⟩
  · exact htrack

/-- The end of a Job cycle: where no fault is latched, the cycle is undisturbed and the dwell
observes it. -/
theorem latchesTrack_dwell {before : RuntimeLatches} {healthy : Bool}
    (htrack : FaultTracks before history) (hmonitored : Monitored before latches)
    (hcalm : latches.commFault = false → disturbsDwell visit = false)
    (hhealthy : healthy = true → isHealthyCycle visit = true) :
    LatchesTrack (latches.dwell healthy) (visit :: history) := by
  rcases hmonitored with rfl | rfl
  · by_cases hfault : latches.commFault = true
    · obtain ⟨harmed, hallow⟩ := htrack.faulted hfault
      have hkept : (latches.dwell healthy).healthyDwell = latches.healthyDwell :=
        HealthyDwell.observe_of_not_armed healthy harmed
      refine ⟨⟨?_, ?_⟩, id⟩
      · rw [hkept]
        exact ⟨fun h => absurd (hallow.symm.trans h) (by simp),
          fun h => absurd (harmed.symm.trans h) (by simp)⟩
      · rw [hkept]
        exact fun _ => ⟨harmed, hallow⟩
    · have hclear : latches.commFault = false := by simpa using hfault
      exact ⟨⟨htrack.dwell.observe (hcalm hclear) hhealthy,
        fun h => absurd (hclear.symm.trans h) (by simp)⟩, id⟩
  · have hkept : before.healthyDwell.onFault.observe healthy = before.healthyDwell.onFault :=
      HealthyDwell.observe_of_not_armed healthy rfl
    have hallowed : (before.fault.dwell healthy).motionReenableAllowed = false :=
      congrArg HealthyDwell.allowEnable hkept
    exact latchesTrack_of_onFault before.healthyDwell hkept hallowed _

end RuntimeLatches

namespace Backend

open Master

theorem latchesTrack_jobCycle {backend : Backend} (hformed : backend.Formed) {input : JobInput}
    (hrunning : backend.runtime.jobRunning = true) {history : List MasterVisit}
    {visit : MasterVisit} (htrack : LatchesTrack backend.runtime.latches history)
    (hcalm : (backend.jobCycle input).runtime.commFault = false → disturbsDwell visit = false)
    (hhealthy : (backend.jobCycle input).runtime.healthy
      (backend.jobCycle input).runtime.lastRxOk = true → isHealthyCycle visit = true) :
    LatchesTrack (backend.jobCycle input).runtime.latches (visit :: history) := by
  have hruntime := runtime_jobCycle hformed input hrunning
  rw [hruntime] at hcalm hhealthy ⊢
  have hconsumed : FaultTracks backend.runtime.consumePendingDwellFault.latches history := by
    rw [IghMasterRuntime.latches_consumePendingDwellFault]
    exact RuntimeLatches.faultTracks_consume htrack.toFaultTracks
  have hchecked := IghMasterRuntime.monitored_latchIf
    (backend.servo.checkExternalCommandFreshness
      backend.runtime.consumePendingDwellFault.safeOutputRequired input.freshnessNowNs).2
    backend.runtime.consumePendingDwellFault
  have hmonitored := hchecked.trans (IghMasterRuntime.monitored_monitorCycle input.timing
    input.domain.rxOk (backend.beforeOutputs input).runtime)
  rw [IghMasterRuntime.latches_finishJobCycle]
  refine RuntimeLatches.latchesTrack_dwell hconsumed hmonitored hcalm fun h => hhealthy ?_
  have hrxOk : ((backend.beforeOutputs input).runtime.finishJobCycle input.timing
      input.domain.rxOk).lastRxOk = input.domain.rxOk :=
    congrArg (fun kept => kept.2.2) (IghMasterRuntime.unmonitored_monitorCycle input.timing
      input.domain.rxOk (backend.beforeOutputs input).runtime)
  rw [hrxOk]
  exact h

end Backend

/-! ### The length of a dwell -/

namespace IghMasterRuntime

/-- The dwell asks for the healthy cycles of the configuration. -/
def Agrees (runtime : IghMasterRuntime) : Prop :=
  runtime.healthyDwell.required = max 1 runtime.config.healthyDwellCycles.toNat

variable {runtime : IghMasterRuntime}

theorem Agrees.of_eq {after : IghMasterRuntime} (hagrees : runtime.Agrees)
    (hconfig : after.config = runtime.config)
    (hrequired : after.healthyDwell.required = runtime.healthyDwell.required) : after.Agrees := by
  unfold Agrees at hagrees ⊢
  rw [hconfig, hrequired]
  exact hagrees

theorem Agrees.requestSafeOutput (hagrees : runtime.Agrees) : runtime.requestSafeOutput.Agrees := by
  unfold IghMasterRuntime.requestSafeOutput
  split <;> exact hagrees

theorem Agrees.consumePendingDwellFault (hagrees : runtime.Agrees) :
    runtime.consumePendingDwellFault.Agrees := by
  unfold IghMasterRuntime.consumePendingDwellFault
  split <;> exact hagrees

theorem Agrees.latchIf (hagrees : runtime.Agrees) (trip : Bool) : (runtime.latchIf trip).Agrees := by
  unfold IghMasterRuntime.latchIf
  split <;> exact hagrees

theorem required_observe (dwell : HealthyDwell) (healthy : Bool) :
    (dwell.observe healthy).required = dwell.required := by
  unfold HealthyDwell.observe
  dsimp only
  split_ifs <;> rfl

theorem Agrees.finishJobCycle (hagrees : runtime.Agrees) (timing : JobTiming) (rxOk : Bool) :
    (runtime.finishJobCycle timing rxOk).Agrees := by
  have hkept := unmonitored_monitorCycle timing rxOk runtime
  have hmonitored : (runtime.monitorCycle timing rxOk).Agrees :=
    hagrees.of_eq (congrArg Prod.fst hkept) (congrArg (fun kept => kept.2.1) hkept)
  exact hmonitored.of_eq rfl (required_observe _ _)

theorem agrees_start (input : RuntimeStartInput)
    (hagrees : runtime.jobRunning = true → runtime.Agrees) : (runtime.start input).1.Agrees := by
  by_cases hrunning : runtime.jobRunning = true
  · rw [start, if_pos hrunning]
    exact hagrees hrunning
  · have hconfigured : (runtime.configure input).1.Agrees := by
      rw [configure, if_neg hrunning]
      rfl
    have hlaunched : (runtime.configure input).1.launch.Agrees := by
      unfold Agrees launch
      dsimp only
      split <;> rfl
    unfold start
    rw [if_neg hrunning]
    dsimp only
    split
    · exact hconfigured
    · split
      · exact hlaunched
      · exact hlaunched

end IghMasterRuntime

namespace Backend

theorem agrees_next {backend : Backend} (hformed : backend.Formed)
    (hagrees : backend.runtime.Agrees) (action : BackendAction) :
    (next backend action).runtime.Agrees := by
  cases action with
  | bringUp input =>
      have hrequested := hagrees.requestSafeOutput
      change (backend.bringUp input).1.runtime.Agrees
      have hbrought := broughtUp backend input
      revert hbrought
      generalize backend.bringUp input = result
      intro hbrought
      cases hbrought with
      | notActivated hfailed => exact hagrees
      | evidenceFailed hactivated hmissing => exact hrequested
      | jobFailed hactivated hfailed =>
          exact IghMasterRuntime.agrees_start input.runtime fun _ => hrequested
      | running hactivated hstarted =>
          exact IghMasterRuntime.agrees_start input.runtime fun _ => hrequested
  | requestSafeOutput => exact hagrees.requestSafeOutput
  | releaseSafeOutput =>
      rw [next_releaseSafeOutput]
      split <;> exact hagrees
  | job input =>
      change (backend.jobCycle input).runtime.Agrees
      by_cases hrunning : backend.runtime.jobRunning = true
      · rw [runtime_jobCycle hformed input hrunning]
        exact (hagrees.consumePendingDwellFault.latchIf _).finishJobCycle _ _
      · rw [jobCycle_of_not_running input (by simpa using hrunning)]
        exact hagrees
  | _ => exact hagrees

theorem agrees_of_running_next {backend : Backend} (hformed : backend.Formed)
    (hagrees : backend.runtime.jobRunning = true → backend.runtime.Agrees)
    (action : BackendAction) (hafter : (next backend action).runtime.jobRunning = true) :
    (next backend action).runtime.Agrees := by
  by_cases hrunning : backend.runtime.jobRunning = true
  · exact agrees_next hformed (hagrees hrunning) action
  · cases action with
    | bringUp input =>
        change (backend.bringUp input).1.runtime.Agrees
        change (backend.bringUp input).1.runtime.jobRunning = true at hafter
        have hbrought := broughtUp backend input
        revert hafter hbrought
        generalize backend.bringUp input = result
        intro hafter hbrought
        cases hbrought with
        | notActivated hfailed => exact absurd hafter hrunning
        | evidenceFailed hactivated hmissing =>
            exact absurd hafter (by simp [deactivate, IghMasterRuntime.stop])
        | jobFailed hactivated hfailed =>
            exact absurd hafter (by simp [deactivate, IghMasterRuntime.stop])
        | running hactivated hstarted =>
            refine IghMasterRuntime.agrees_start input.runtime fun h => ?_
            rw [jobRunning_requestSafeOutput] at h
            exact absurd h hrunning
    | deactivate => exact absurd hafter (by simp [next, deactivate, IghMasterRuntime.stop])
    | requestSafeOutput =>
        change backend.runtime.requestSafeOutput.jobRunning = true at hafter
        rw [jobRunning_requestSafeOutput] at hafter
        exact absurd hafter hrunning
    | releaseSafeOutput =>
        rw [next_releaseSafeOutput] at hafter
        split at hafter <;> exact absurd hafter hrunning
    | job input =>
        change (backend.jobCycle input).runtime.jobRunning = true at hafter
        rw [jobRunning_jobCycle] at hafter
        exact absurd hafter hrunning
    | _ => exact absurd hafter hrunning

end Backend

namespace Master

variable {master : Master} {action : MasterAction}

/-- A master that may be released was configured by the start that authorized it. -/
structure Agreed (master : Master) : Prop where
  running : master.backend.runtime.jobRunning = true → master.backend.runtime.Agrees
  authorized : master.motionCommandsAuthorized = true → master.backend.runtime.Agrees

theorem Agreed.start (hagreed : master.Agreed) (input : StartInput) (hmapped : master.mapped = true)
    (hauthorized : (master.start input).1.motionCommandsAuthorized = true) :
    (master.backend.bringUp (input.bringUpInput master.policy)).1.runtime.Agrees := by
  have hlaunched : (master.backend.runtime.requestSafeOutput.start input.runtime).1.Agrees := by
    refine IghMasterRuntime.agrees_start input.runtime fun hrunning => ?_
    rw [Backend.jobRunning_requestSafeOutput] at hrunning
    exact (hagreed.running hrunning).requestSafeOutput
  unfold Master.start at hauthorized
  rw [hmapped, if_neg (by simp)] at hauthorized
  dsimp only at hauthorized
  have hbrought := Backend.broughtUp master.backend (input.bringUpInput master.policy)
  revert hauthorized hbrought
  generalize master.backend.bringUp (input.bringUpInput master.policy) = result
  intro hauthorized hbrought
  cases hbrought with
  | notActivated hfailed => exact hagreed.authorized hauthorized
  | evidenceFailed hactivated hmissing =>
      rw [Bool.and_eq_true, Bool.not_eq_true'] at hmissing
      change motionPolicyAuthorizesCommands master.policy (master.backend.activatedServo
        (input.bringUpInput master.policy)).1.startupEvidencePassed = true at hauthorized
      rw [hmissing.2, motionPolicyAuthorizesCommands, Bool.and_false] at hauthorized
      exact absurd hauthorized (by simp)
  | jobFailed hactivated hfailed => exact hlaunched
  | running hactivated hstarted => exact hlaunched

theorem Agreed.next {master : Master} (hagreed : master.Agreed) (hsound : master.Sound)
    (action : MasterAction) : (master.next action).Agreed := by
  have heffect := effect_next master action
  constructor
  · have hstep : ∀ backend inner, BackendAction.isBounded inner = true →
        (backend.Formed ∧ (backend.runtime.jobRunning = true → backend.runtime.Agrees)) →
          (Backend.next backend inner).Formed ∧
            ((Backend.next backend inner).runtime.jobRunning = true →
              (Backend.next backend inner).runtime.Agrees) := fun backend inner _ h =>
      ⟨Backend.formed_next h.1 inner, Backend.agrees_of_running_next h.1 h.2 inner⟩
    exact (heffect.invariant hstep ⟨hsound.backend.formed, hagreed.running⟩).2
  · intro hauthorized
    by_cases hstart : ∃ input, action = .call (.start input)
    · obtain ⟨input, rfl⟩ := hstart
      cases hstarting : master.starting with
      | some phase =>
          rw [next_call_of_starting hstarting] at hauthorized ⊢
          exact hagreed.authorized hauthorized
      | none =>
          rw [next_call hstarting] at hauthorized ⊢
          change (master.start input).1.motionCommandsAuthorized = true at hauthorized
          change (master.start input).1.backend.runtime.Agrees
          cases hmapped : master.mapped with
          | true =>
              rw [backend_start_of_mapped input hmapped]
              exact hagreed.start input hmapped hauthorized
          | false =>
              rw [start_of_not_mapped input hmapped] at hauthorized ⊢
              exact hagreed.authorized hauthorized
    · have hkept := authority_next_of_not_start master fun input h => hstart ⟨input, h⟩
      have hsame : (master.next action).motionCommandsAuthorized =
          master.motionCommandsAuthorized := congrArg (fun authority => authority.2.2) hkept
      have hbefore : master.motionCommandsAuthorized = true := hsame.symm.trans hauthorized
      have hstep : ∀ backend inner, BackendAction.isBounded inner = true →
          (backend.Formed ∧ backend.runtime.Agrees) →
            (Backend.next backend inner).Formed ∧ (Backend.next backend inner).runtime.Agrees :=
        fun backend inner _ h =>
          ⟨Backend.formed_next h.1 inner, Backend.agrees_next h.1 h.2 inner⟩
      exact (heffect.invariant hstep ⟨hsound.backend.formed, hagreed.authorized hbefore⟩).2

/-! ### One step -/

theorem disturbsDwell_of_eventless {visit : MasterVisit} (heventless : isEventless visit = true) :
    disturbsDwell visit = false ∧ isJobCycle visit = false := by
  simp only [isEventless, Bool.and_eq_true, Bool.not_eq_true'] at heventless
  obtain ⟨⟨⟨hjob, hreset⟩, hrequest⟩, hstart⟩ := heventless
  have harms : armsSafeOutput visit = false := by
    unfold armsSafeOutput
    split
    · rw [hstart]
      rfl
    · rfl
  refine ⟨?_, hjob⟩
  rw [disturbsDwell, latchesFault, entersSafeOutput, hjob, hreset, hrequest, harms]
  rfl

theorem result_start_of_mapped (input : StartInput) (hmapped : master.mapped = true) :
    (master.start input).2 =
      match (master.backend.bringUp (input.bringUpInput master.policy)).2 with
      | .activateFailed => .failed .activateFailed
      | .evidenceFailed => .failed .evidenceFailed
      | .jobFailed => .failed .jobFailed
      | .running => .pending := by
  unfold start
  rw [hmapped, if_neg (by simp)]
  dsimp only
  split <;> simp_all

theorem armsSafeOutput_start (hidle : master.starting = none) (hmapped : master.mapped = true)
    (input : StartInput) :
    armsSafeOutput (machine.visit master (.call (.start input))) =
      ((master.backend.bringUp (input.bringUpInput master.policy)).2 != .activateFailed) := by
  have hresult := result_start_of_mapped input hmapped
  have htaken := taken_call hidle (.start input)
  simp only [armsSafeOutput, isMappedStart, htaken, Machine.visit_before, hmapped, hresult]
  generalize (master.backend.bringUp (input.bringUpInput master.policy)).2 = result
  cases result <;> rfl

theorem configuresRuntime_start (hidle : master.starting = none) (hmapped : master.mapped = true)
    (input : StartInput) :
    configuresRuntime (machine.visit master (.call (.start input))) =
      ((master.backend.bringUp (input.bringUpInput master.policy)).2 != .activateFailed &&
        (master.backend.bringUp (input.bringUpInput master.policy)).2 != .evidenceFailed &&
        !master.backend.runtime.jobRunning) := by
  have hresult := result_start_of_mapped input hmapped
  have htaken := taken_call hidle (.start input)
  simp only [configuresRuntime, htaken, armsSafeOutput_start hidle hmapped input,
    Machine.visit_before, hresult]
  generalize (master.backend.bringUp (input.bringUpInput master.policy)).2 = result
  cases result <;> rfl

/-- A start that does not configure the runtime leaves the latches alone, or asks for safe-output. -/
theorem latchesTrack_start {history : List MasterVisit} (hidle : master.starting = none)
    (hmapped : master.mapped = true) (input : StartInput)
    (htrack : LatchesTrack master.backend.runtime.latches history)
    (hkeeps : configuresRuntime (machine.visit master (.call (.start input))) = false) :
    LatchesTrack (master.backend.bringUp (input.bringUpInput master.policy)).1.runtime.latches
      (machine.visit master (.call (.start input)) :: history) := by
  have htaken := taken_call hidle (.start input)
  have harms := armsSafeOutput_start hidle hmapped input
  rw [configuresRuntime_start hidle hmapped input] at hkeeps
  have hdisturbs : ((master.backend.bringUp (input.bringUpInput master.policy)).2 =
        .activateFailed ∨ master.backend.runtime.safeOutputRequired = true) →
      disturbsDwell (machine.visit master (.call (.start input))) = false := by
    intro hcalm
    have henters : entersSafeOutput (machine.visit master (.call (.start input))) = false := by
      rw [entersSafeOutput, harms, isSafeOutputRequest, htaken]
      rcases hcalm with hfailed | hsafe
      · rw [hfailed]
        rfl
      · simp [hsafe]
    rw [disturbsDwell, henters]
    simp [latchesFault, isJobCycle, isSafetyReset, htaken]
  have hrequested : LatchesTrack master.backend.runtime.requestSafeOutput.latches
      (machine.visit master (.call (.start input)) :: history) :=
    IghMasterRuntime.latchesTrack_requestSafeOutput htrack (fun h => hdisturbs (Or.inr h)) rfl
  have hstart : master.backend.runtime.jobRunning = true →
      master.backend.runtime.requestSafeOutput.start input.runtime =
        (master.backend.runtime.requestSafeOutput, true) := fun hrunning => by
    have hrequestedRunning := (Backend.jobRunning_requestSafeOutput _).trans hrunning
    rw [IghMasterRuntime.start, if_pos hrequestedRunning]
  have hbrought := Backend.broughtUp master.backend (input.bringUpInput master.policy)
  revert hkeeps hdisturbs hbrought
  generalize master.backend.bringUp (input.bringUpInput master.policy) = result
  intro hkeeps hdisturbs hbrought
  cases hbrought with
  | notActivated hfailed => exact htrack.calm (hdisturbs (Or.inl rfl)) rfl
  | evidenceFailed hactivated hmissing => exact hrequested.congr rfl rfl rfl
  | jobFailed hactivated hfailed =>
      have hrunning : master.backend.runtime.jobRunning = true := by simpa using hkeeps
      rw [show (input.bringUpInput master.policy).runtime = input.runtime from rfl,
        hstart hrunning] at hfailed
      exact absurd hfailed (by simp)
  | running hactivated hstarted =>
      have hrunning : master.backend.runtime.jobRunning = true := by simpa using hkeeps
      rw [show (input.bringUpInput master.policy).runtime = input.runtime from rfl,
        hstart hrunning]
      exact hrequested

theorem latchesTrack_reset {backend : Backend} {visit : MasterVisit} (history : List MasterVisit)
    (hreset : isSafetyReset visit = true) :
    LatchesTrack backend.clearCommFault.runtime.latches (visit :: history) where
  dwell := dwellTracks_requestReset backend.runtime.healthyDwell history hreset
  faulted := fun h => absurd h (by simp [Backend.clearCommFault, IghMasterRuntime.clearCommFault,
    IghMasterRuntime.latches])
  published := fun h => absurd h (by simp [Backend.clearCommFault,
    IghMasterRuntime.clearCommFault, IghMasterRuntime.latches])

theorem latchesTrack_job {history : List MasterVisit} (hsound : master.Sound)
    (htrack : LatchesTrack master.backend.runtime.latches history) (input : JobInput) :
    LatchesTrack (master.backend.jobCycle input).runtime.latches
      (machine.visit master (.job input) :: history) := by
  cases hrunning : master.backend.runtime.jobRunning with
  | false =>
      rw [Backend.jobCycle_of_not_running input hrunning]
      have hjob : isJobCycle (machine.visit master (.job input)) = false := hrunning
      refine htrack.calm ?_ hjob
      rw [disturbsDwell, latchesFault, hjob]
      rfl
  | true =>
      have hjob : isJobCycle (machine.visit master (.job input)) = true := hrunning
      refine Backend.latchesTrack_jobCycle hsound.backend.formed hrunning htrack ?_ ?_
      · intro hclear
        have hlatches : latchesFault (machine.visit master (.job input)) = false := by
          rw [latchesFault, hjob]
          exact hclear
        rw [disturbsDwell, hlatches]
        rfl
      · intro hhealthy
        rw [isHealthyCycle, hjob]
        exact hhealthy

/-- A safety reset makes the latches track the history, and every action keeps that up that does not
configure the runtime. -/
theorem latchesTrack_next {history : List MasterVisit} (hsound : master.Sound)
    (htrack : isSafetyReset (machine.visit master action) = true ∨
      configuresRuntime (machine.visit master action) = false ∧
        LatchesTrack master.backend.runtime.latches history) :
    LatchesTrack (master.next action).backend.runtime.latches
      (machine.visit master action :: history) := by
  have heffect := effect_next master action
  revert heffect
  generalize (master.next action).backend = after
  intro heffect
  cases heffect with
  | quiet hquiet heventless =>
      obtain ⟨hdisturbs, hjob⟩ := disturbsDwell_of_eventless heventless
      rcases htrack with hreset | ⟨-, htrack⟩
      · rw [disturbsDwell, hreset] at hdisturbs
        exact absurd hdisturbs (by simp)
      · exact (hquiet.latchesTrack htrack).calm hdisturbs hjob
  | started input haction hidle hmapped =>
      subst haction
      have hnone : isSafetyReset (machine.visit master (.call (.start input))) = false := by
        simp [isSafetyReset, taken_call hidle]
      rcases htrack with hreset | ⟨hkeeps, htrack⟩
      · exact absurd (hnone.symm.trans hreset) (by simp)
      · exact latchesTrack_start hidle hmapped input htrack hkeeps
  | safetyReset hquiet hreset => exact latchesTrack_reset history hreset
  | safeOutputRequested haction hidle =>
      subst haction
      have htaken := taken_call hidle .requestSafeOutput
      have hnone : isSafetyReset (machine.visit master (.call .requestSafeOutput)) = false := by
        simp [isSafetyReset, htaken]
      rcases htrack with hreset | ⟨-, htrack⟩
      · exact absurd (hnone.symm.trans hreset) (by simp)
      · refine IghMasterRuntime.latchesTrack_requestSafeOutput htrack (fun hsafe => ?_) rfl
        simp [disturbsDwell, latchesFault, isJobCycle, entersSafeOutput, hsafe, hnone]
  | released haction hidle hauthorized =>
      subst haction
      have htaken := taken_call hidle .releaseSafeOutput
      have hnone : isSafetyReset (machine.visit master (.call .releaseSafeOutput)) = false := by
        simp [isSafetyReset, htaken]
      have hdisturbs : disturbsDwell (machine.visit master (.call .releaseSafeOutput)) = false := by
        simp [disturbsDwell, latchesFault, isJobCycle, entersSafeOutput, isSafeOutputRequest,
          armsSafeOutput, htaken, hnone]
      rcases htrack with hreset | ⟨-, htrack⟩
      · exact absurd (hnone.symm.trans hreset) (by simp)
      · have hreleased := Backend.next_releaseSafeOutput master.backend
        rw [show master.backend.releaseSafeOutput.1 = _ from hreleased]
        split
        · exact (htrack.calm hdisturbs rfl).congr rfl rfl rfl
        · exact htrack.calm hdisturbs rfl
  | cycled input haction =>
      subst haction
      rcases htrack with hreset | ⟨-, htrack⟩
      · exact absurd hreset (by simp [isSafetyReset, taken])
      · exact latchesTrack_job hsound htrack input

/-! ### Whole runs -/

structure DwellRun (config : MasterConfig) : Prop where
  sound : config.state.Sound
  agreed : config.state.Agreed
  tracks : Since (fun visit => configuresRuntime visit = false)
      (fun visit => isSafetyReset visit = true) config.history →
    LatchesTrack config.state.backend.runtime.latches config.history
  dwelled : ReleasesDwelled config

theorem dwellRun_start (policy : MotionPolicy) :
    DwellRun (Config.start { policy := policy }) where
  sound := sound_start policy
  agreed := ⟨fun h => absurd h (by simp), fun h => absurd h (by simp)⟩
  tracks := fun h => absurd h (by simp)
  dwelled := fun _ _ h => absurd h (by simp)

theorem motionReenableAllowed_of_isRelease {visit : MasterVisit}
    (hrelease : isRelease visit = true) :
    visit.action = .call .releaseSafeOutput ∧ visit.before.starting = none ∧
      visit.before.motionReenableAllowed = true := by
  unfold isRelease at hrelease
  split at hrelease
  · rename_i htaken
    obtain ⟨haction, hidle⟩ : visit.action = .call .releaseSafeOutput ∧
        visit.before.starting = none := by
      unfold taken at htaken
      split at htaken
      · rename_i call hcall
        split at htaken
        · exact absurd htaken (by simp)
        · rename_i hidle
          rw [Option.some.injEq] at htaken
          exact ⟨htaken ▸ hcall, by simpa using hidle⟩
      · exact absurd htaken (by simp)
    refine ⟨haction, hidle, ?_⟩
    rw [beq_iff_eq] at hrelease
    unfold releaseSafeOutput at hrelease
    unfold motionReenableAllowed
    cases hauthorized : visit.before.motionCommandsAuthorized with
    | false => simp [hauthorized] at hrelease
    | true =>
        rw [hauthorized, if_neg (by simp)] at hrelease
        dsimp only at hrelease
        rw [Backend.snd_releaseSafeOutput] at hrelease
        have hcan : visit.before.backend.canRelease = true := by
          by_contra hrefused
          rw [if_neg hrefused] at hrelease
          exact absurd hrelease (by simp)
        simp only [Backend.canRelease, IghMasterRuntime.releaseAllowed, Bool.and_eq_true] at hcan
        rw [hcan.2.2]
        rfl
  · exact absurd hrelease (by simp)

theorem DwellRun.advance {config : MasterConfig} (hrun : DwellRun config) {action : MasterAction}
    (hreset : releasesAfterReset config action = true) :
    DwellRun (machine.advance config action) where
  sound := hrun.sound.next action
  agreed := hrun.agreed.next hrun.sound action
  tracks := by
    intro hsince
    rw [Machine.advance_history, since_cons] at hsince
    refine latchesTrack_next hrun.sound (hsince.imp id fun hkept => ?_)
    exact ⟨hkept.1, hrun.tracks hkept.2⟩
  dwelled := by
    intro visit earlier hhistory hrelease _
    obtain ⟨rfl, rfl⟩ := List.cons.inj hhistory
    obtain ⟨haction, hidle, hallowed⟩ := motionReenableAllowed_of_isRelease hrelease
    rw [Machine.visit_action] at haction
    rw [Machine.visit_before] at hidle hallowed
    subst haction
    have hsince : Since (fun visit => configuresRuntime visit = false)
        (fun visit => isSafetyReset visit = true) config.history := by
      simpa [releasesAfterReset, hidle, hallowed] using hreset
    rw [motionReenableAllowed, Bool.and_eq_true] at hallowed
    have htrack := hrun.tracks hsince
    have hdwelled := htrack.dwell.allowed (htrack.published hallowed.2)
    have hagrees := hrun.agreed.authorized hallowed.1
    rw [Machine.visit_before, dwellCycles, ← hagrees]
    exact hdwelled

/-- In a run in which no release comes between a configuration of the runtime and the safety reset
after it, every release that returns true has a full dwell behind it. -/
theorem releasesDwelled_of_releasesAfterReset (policy : MotionPolicy) (actions : List MasterAction)
    (hreset : machine.Meets (fun config action => releasesAfterReset config action = true)
      (Config.start { policy := policy }) actions) :
    ReleasesDwelled (machine.exec (Config.start { policy := policy }) actions) := by
  have hstep : ∀ config action, DwellRun config → releasesAfterReset config action = true →
      DwellRun (machine.advance config action) := fun _ _ hrun hmeets => hrun.advance hmeets
  exact (machine.exec_invariant_of_meets hstep (dwellRun_start policy) hreset).dwelled

/-- A start, one healthy cycle and the release. -/
theorem releasesDwelled_after_start :
    ReleasesDwelled (machine.exec (Config.start { policy := .supervisedMotion })
      (startedMaster ++ [job 0 completeDomain, .call .releaseSafeOutput])) :=
  releasesDwelled_of_releasesAfterReset .supervisedMotion _ (by decide +kernel)

def silentBus : StartObservation := { operationalBus with slavesInOp := false }

/-- Two more starts do not reach the bus; the second of them launches the Job anew, and one of its
cycles, with incomplete data, is enough for a release. -/
def releaseAfterFailedStart : List MasterAction :=
  startedMaster ++ [.call (.start singleAxisStart), .continueStart silentBus,
    .call (.start singleAxisStart), job 0 { completeDomain with wcState := .incomplete },
    .continueStart silentBus, .call .releaseSafeOutput]

theorem not_releasesDwelled :
    ¬ ∀ policy actions, ReleasesDwelled
      (machine.exec (Config.start { policy := policy }) actions) := by
  intro hall
  have hdwelled := hall .supervisedMotion releaseAfterFailedStart _ _ rfl (by decide +kernel)
    (by decide +kernel)
  have hhealthy := hdwelled.exists_healthy (by decide +kernel)
  exact absurd hhealthy (by decide +kernel)

end Master

end IghMaster
