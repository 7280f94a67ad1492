import IghMaster.Proof.HeldPositions

/-!
# One position for each episode

An episode lasts from where safe-output becomes required to the release that ends it. The latch edge
follows a flag of its own, `safe_output_active_`: in the runs below nothing takes that flag back in the
middle of an episode, and every episode begins without it. Then the edge comes once in each episode, in
its first safe cycle.
-/

namespace IghMaster.Backend

open Transition

def positionRead (index : Nat) (visit : BackendVisit) : Option Int32 :=
  match visit.action with
  | .job input => some (input.inputs index).actualPosition
  | _ => none

/-- The position read in the first safe cycle of the episode that the newest visit leaves on. -/
def firstRead (index : Nat) : List BackendVisit → Option Int32
  | [] => none
  | visit :: earlier =>
      if visit.after.runtime.safeOutputRequired then
        (if visit.before.runtime.safeOutputRequired then firstRead index earlier else none).or
          (if isSafeCycle visit then positionRead index visit else none)
      else none

/-- A safe cycle writes the position read in the first safe cycle of its episode. -/
def HoldsFirstRead (index : Nat) (config : BackendConfig) : Prop :=
  ∀ visit earlier axis, config.history = visit :: earlier → isSafeCycle visit = true →
    visit.after.servo.axes[index]? = some axis → axis.isMotion = true →
      firstRead index config.history = some axis.output.targetPosition

/-- The latch flag is not taken back in an episode, and no episode begins under it. -/
def keepsLatch (backend : Backend) : BackendAction → Bool
  | .clearCommFault | .deactivate =>
      !(backend.servo.safeOutputActive && backend.runtime.safeOutputRequired)
  | .bringUp input =>
      !backend.servo.safeOutputActive ||
        (backend.runtime.safeOutputRequired &&
          (!input.requireEvidence || backend.servo.startupEvidencePassed))
  | .requestSafeOutput => !backend.servo.safeOutputActive || backend.runtime.safeOutputRequired
  | .job input =>
      !backend.servo.safeOutputActive || backend.runtime.safeOutputRequired ||
        !backend.cycleIsSafe input
  | _ => true

/-- In an episode the latch holds the first position read, or no safe cycle ran yet. -/
structure HeldRun (index : Nat) (config : BackendConfig) : Prop where
  sound : config.state.Sound
  active : config.state.servo.safeOutputActive = true → config.state.servo.activated = true
  held : Holds
    (fun other position => other = index → config.state.runtime.safeOutputRequired = true →
      firstRead index config.history = some position) config.state
  unread : config.state.runtime.safeOutputRequired = true →
    config.state.servo.safeOutputActive = false → firstRead index config.history = none
  holdsFirstRead : HoldsFirstRead index config

variable {index : Nat} {config : BackendConfig} {action : BackendAction}

/-! ### Actions between the Job cycles -/

/-- Without a safe cycle the first position read is that of the episode so far, if there is one. -/
theorem firstRead_cons_of_not_safe {visit : BackendVisit} {earlier : List BackendVisit}
    (hsafe : isSafeCycle visit = false) (hafter : visit.after.runtime.safeOutputRequired = true) :
    firstRead index (visit :: earlier) =
      if visit.before.runtime.safeOutputRequired then firstRead index earlier else none := by
  rw [firstRead, if_pos hafter, hsafe, if_neg Bool.false_ne_true, Option.or_none]

theorem isSafeCycle_of_not_job {backend : Backend} (hother : ∀ input, action ≠ .job input) :
    isSafeCycle (machine.visit backend action) = false := by
  cases action with
  | job input => exact absurd rfl (hother input)
  | _ => rfl

theorem safeOutputActive_bringUp_of_evidence {backend : Backend} (hformed : backend.Formed)
    {input : BringUpInput} (hactivated : backend.servo.activated = true)
    (hevidence : (!input.requireEvidence || backend.servo.startupEvidencePassed) = true) :
    (backend.bringUp input).1.servo.safeOutputActive = backend.servo.safeOutputActive := by
  have hservo := activatedServo_of_activated hformed input hactivated
  have hbrought := broughtUp backend input
  generalize backend.bringUp input = result at hbrought ⊢
  cases hbrought with
  | notActivated hfailed => rw [hservo]
  | evidenceFailed _ hmissing =>
      rw [hservo, ← Bool.not_not (input.requireEvidence && _), Bool.not_and, Bool.not_not,
        hevidence] at hmissing
      exact absurd hmissing (by simp)
  | jobFailed _ hfailed =>
      have hstarts := start_of_activated hformed hactivated input.runtime
      exact absurd (hstarts.symm.trans hfailed) (by simp)
  | running _ hstarted => rw [hservo]

theorem safeOutputActive_of_keepsLatch {backend : Backend} (hformed : backend.Formed)
    (hactivated : backend.servo.activated = true) (hother : ∀ input, action ≠ .job input)
    (hkeeps : backend.keepsLatch action = true)
    (hrequired : backend.runtime.safeOutputRequired = true)
    (hactive : backend.servo.safeOutputActive = true) :
    (next backend action).servo.safeOutputActive = true := by
  cases action with
  | initializeServo bus config motors =>
      change (backend.servo.initializeServo _ _ _ _ motors).1.safeOutputActive = true
      rw [Servo.initializeServo_of_initialized _ _ _ _ _
        (hformed.initialized_of_activated hactivated)]
      exact hactive
  | bringUp input =>
      simp only [keepsLatch, hactive, hrequired, Bool.not_true, Bool.false_or,
        Bool.true_and] at hkeeps
      exact (safeOutputActive_bringUp_of_evidence hformed hactivated hkeeps).trans hactive
  | deactivate => simp [keepsLatch, hactive, hrequired] at hkeeps
  | clearCommFault => simp [keepsLatch, hactive, hrequired] at hkeeps
  | call call =>
      have hbare := Servo.bare_perform backend.flags backend.servo call
      exact (Servo.field_of_bare Servo.safeOutputActive (fun _ => rfl) hbare).trans hactive
  | requestFaultReset motorId allowWithoutFault slavesInOp =>
      exact (servo_requestFaultReset Servo.safeOutputActive (fun _ _ _ => rfl) backend motorId
        allowWithoutFault slavesInOp).trans hactive
  | releaseSafeOutput =>
      rw [next_releaseSafeOutput]
      split <;> exact hactive
  | job input => exact absurd rfl (hother input)
  | setOperational => exact hactive
  | requestSafeOutput => exact hactive

theorem safeOutputActive_of_begins {backend : Backend} (hother : ∀ input, action ≠ .job input)
    (hkeeps : backend.keepsLatch action = true)
    (hbefore : backend.runtime.safeOutputRequired = false)
    (hafter : (next backend action).runtime.safeOutputRequired = true) :
    (next backend action).servo.safeOutputActive = false := by
  rw [← Bool.not_eq_true]
  intro hactive
  have hflag := safeOutputActive_next hother hactive
  have hsame : ∀ {runtime : IghMasterRuntime}, runtime.safeOutputRequired = false →
      runtime.safeOutputRequired = true → False :=
    fun hfalse htrue => Bool.false_ne_true (hfalse.symm.trans htrue)
  cases action with
  | bringUp input => simp [keepsLatch, hflag, hbefore] at hkeeps
  | requestSafeOutput => simp [keepsLatch, hflag, hbefore] at hkeeps
  | clearCommFault => exact absurd hactive (by simp [next, clearCommFault, Servo.clearCommFault])
  | releaseSafeOutput =>
      rw [next_releaseSafeOutput] at hafter
      split at hafter
      · exact absurd hafter Bool.false_ne_true
      · exact hsame hbefore hafter
  | job input => exact absurd rfl (hother input)
  | initializeServo bus config motors => exact hsame hbefore hafter
  | setOperational => exact hsame hbefore hafter
  | deactivate => exact hsame hbefore hafter
  | call call => exact hsame hbefore hafter
  | requestFaultReset motorId allowWithoutFault slavesInOp => exact hsame hbefore hafter

theorem activated_of_safeOutputActive {backend : Backend} (hformed : backend.Formed)
    (hflag : backend.servo.safeOutputActive = true → backend.servo.activated = true)
    (hother : ∀ input, action ≠ .job input)
    (hactive : (next backend action).servo.safeOutputActive = true) :
    (next backend action).servo.activated = true := by
  have hactivated := hflag (safeOutputActive_next hother hactive)
  cases action with
  | initializeServo bus config motors =>
      change (backend.servo.initializeServo _ _ _ _ motors).1.activated = true
      rw [Servo.initializeServo_of_initialized _ _ _ _ _
        (hformed.initialized_of_activated hactivated)]
      exact hactivated
  | bringUp input =>
      change (backend.bringUp input).1.servo.safeOutputActive = true at hactive
      change (backend.bringUp input).1.servo.activated = true
      have hservo := activatedServo_of_activated hformed input hactivated
      have hbrought := broughtUp backend input
      revert hactive hbrought
      generalize backend.bringUp input = result
      intro hactive hbrought
      cases hbrought with
      | notActivated hfailed =>
          rw [hservo]
          exact hactivated
      | evidenceFailed _ hmissing =>
          exact absurd hactive (by simp [deactivate, Servo.deactivate])
      | jobFailed _ hfailed =>
          exact absurd hactive (by simp [deactivate, Servo.deactivate])
      | running _ hstarted =>
          rw [hservo]
          exact hactivated
  | deactivate => exact absurd hactive (by simp [next, deactivate, Servo.deactivate])
  | call call =>
      have hbare := Servo.bare_perform backend.flags backend.servo call
      exact (Servo.field_of_bare Servo.activated (fun _ => rfl) hbare).trans hactivated
  | requestFaultReset motorId allowWithoutFault slavesInOp =>
      exact (servo_requestFaultReset Servo.activated (fun _ _ _ => rfl) backend motorId
        allowWithoutFault slavesInOp).trans hactivated
  | releaseSafeOutput =>
      rw [next_releaseSafeOutput]
      split <;> exact hactivated
  | job input => exact absurd rfl (hother input)
  | clearCommFault => exact hactivated
  | setOperational => exact hactivated
  | requestSafeOutput => exact hactivated

theorem HeldRun.advance_of_not_job (hrun : HeldRun index config)
    (hother : ∀ input, action ≠ .job input) (hkeeps : config.state.keepsLatch action = true) :
    HeldRun index (machine.advance config action) := by
  have hsafe : isSafeCycle (machine.visit config.state action) = false :=
    isSafeCycle_of_not_job hother
  have hfirst : (machine.visit config.state action).after.runtime.safeOutputRequired = true →
      firstRead index (machine.visit config.state action :: config.history) =
        if (machine.visit config.state action).before.runtime.safeOutputRequired then
          firstRead index config.history
        else none :=
    fun hafter => firstRead_cons_of_not_safe hsafe hafter
  have hformed := hrun.sound.formed
  refine ⟨hrun.sound.next action, activated_of_safeOutputActive hformed hrun.active hother, ?_, ?_,
    ?_⟩
  · have hnext := hrun.held.next hformed hother
    refine ⟨hnext.initialized, fun hactive other => ?_⟩
    refine (hnext.latched hactive other).imp fun axis hposition hindex hafter => ?_
    have hbefore : config.state.runtime.safeOutputRequired = true := by
      rw [← Bool.not_eq_false]
      intro hfalse
      exact Bool.false_ne_true
        ((safeOutputActive_of_begins hother hkeeps hfalse hafter).symm.trans hactive)
    rw [Machine.advance_history, hfirst hafter, Machine.visit_before, if_pos hbefore]
    exact hposition hindex hbefore
  · intro hafter hinactive
    rw [Machine.advance_history, hfirst hafter, Machine.visit_before]
    split
    · rename_i hbefore
      refine hrun.unread hbefore ?_
      rw [← Bool.not_eq_true]
      intro hactive
      exact Bool.false_ne_true (hinactive.symm.trans (safeOutputActive_of_keepsLatch hformed
        (hrun.active hactive) hother hkeeps hbefore hactive))
    · rfl
  · intro visit earlier axis hhistory hcycle
    rw [Machine.advance_history] at hhistory
    obtain ⟨rfl, rfl⟩ := List.cons.inj hhistory
    exact absurd (hsafe.symm.trans hcycle) Bool.false_ne_true

/-! ### Job cycles -/

theorem HeldRun.advance_of_not_running (hrun : HeldRun index config) {input : JobInput}
    (hrunning : config.state.runtime.jobRunning = false) :
    HeldRun index (machine.advance config (.job input)) := by
  have hstate : next config.state (.job input) = config.state :=
    jobCycle_of_not_running input hrunning
  have hsafe : isSafeCycle (machine.visit config.state (.job input)) = false := by
    rw [isSafeCycle_job, hrunning, Bool.false_and]
  have hfirst : config.state.runtime.safeOutputRequired = true →
      firstRead index (machine.advance config (.job input)).history =
        firstRead index config.history := by
    intro hrequired
    rw [Machine.advance_history, firstRead_cons_of_not_safe hsafe, Machine.visit_before,
      if_pos hrequired]
    rw [Machine.visit_after]
    exact (congrArg (fun backend => backend.runtime.safeOutputRequired) hstate).trans hrequired
  refine ⟨hrun.sound.next (.job input), ?_, ?_, ?_, ?_⟩
  · rw [Machine.advance_state, show machine.next = next from rfl, hstate]
    exact hrun.active
  · rw [Machine.advance_state, show machine.next = next from rfl, hstate]
    refine hrun.held.mono fun other position hposition hindex hrequired => ?_
    rw [hfirst hrequired]
    exact hposition hindex hrequired
  · rw [Machine.advance_state, show machine.next = next from rfl, hstate]
    intro hrequired hinactive
    rw [hfirst hrequired]
    exact hrun.unread hrequired hinactive
  · intro visit earlier axis hhistory hcycle
    rw [Machine.advance_history] at hhistory
    obtain ⟨rfl, rfl⟩ := List.cons.inj hhistory
    exact absurd (hsafe.symm.trans hcycle) Bool.false_ne_true

/-- A motion cycle ends an episode that a release left, and begins another at most without a safe
cycle. -/
theorem HeldRun.advance_of_motionCycle (hrun : HeldRun index config) {input : JobInput}
    (hrunning : config.state.runtime.jobRunning = true)
    (hmoves : config.state.cycleIsSafe input = false) :
    HeldRun index (machine.advance config (.job input)) := by
  have hbare := bare_jobCycle hrun.sound.formed input hrunning
  have hinactive : (next config.state (.job input)).servo.safeOutputActive = false := by
    refine (Servo.field_of_bare Servo.safeOutputActive (fun _ => rfl) hbare).trans ?_
    rw [cycleServo, hmoves, if_neg Bool.false_ne_true]
  have hsafe : isSafeCycle (machine.visit config.state (.job input)) = false := by
    rw [isSafeCycle_job, hmoves, Bool.and_false]
  refine ⟨hrun.sound.next (.job input), fun hactive => ?_, ⟨fun hactive => ?_, fun hactive => ?_⟩, ?_, ?_⟩
  · exact absurd (hinactive.symm.trans hactive) Bool.false_ne_true
  · exact absurd (hinactive.symm.trans hactive) Bool.false_ne_true
  · exact absurd (hinactive.symm.trans hactive) Bool.false_ne_true
  · intro hafter _
    rw [Machine.advance_history, firstRead_cons_of_not_safe hsafe hafter, Machine.visit_before,
      not_required_of_motionCycle hmoves, if_neg Bool.false_ne_true]
  · intro visit earlier axis hhistory hcycle
    rw [Machine.advance_history] at hhistory
    obtain ⟨rfl, rfl⟩ := List.cons.inj hhistory
    exact absurd (hsafe.symm.trans hcycle) Bool.false_ne_true

/-- A safe cycle holds the first position read, which it may be the one to read. -/
theorem HeldRun.latched_of_safeCycle (hrun : HeldRun index config) (hindex : index < 256)
    {input : JobInput} (hkeeps : config.state.keepsLatch (.job input) = true)
    (hrunning : config.state.runtime.jobRunning = true)
    (hsafe : config.state.cycleIsSafe input = true) {axis : Axis}
    (haxis : config.state.servo.axes[index]? = some axis) (hmotion : axis.isMotion = true) :
    firstRead index (machine.advance config (.job input)).history =
      some (config.state.jobAxis index input axis).safeLatchedPosition := by
  have hready : config.state.servo.ready = true := hrun.sound.formed.ready_eq.trans hrunning
  have hcycle : isSafeCycle (machine.visit config.state (.job input)) = true := by
    rw [isSafeCycle_job, hrunning, hsafe]
    rfl
  have hafter : (next config.state (.job input)).runtime.safeOutputRequired = true :=
    safeOutputRequired_of_cycleIsSafe hrun.sound.formed hrunning hsafe
  have hlatched : (config.state.jobAxis index input axis).safeLatchedPosition =
      if config.state.servo.safeOutputActive then axis.safeLatchedPosition
      else (input.inputs index).actualPosition := by
    rw [jobAxis, if_pos hsafe, safePosition_eq hready input hindex haxis hmotion]
    change Axis.latchSafePosition _
      (config.state.inputAxis index input axis).safeLatchedPosition _ = _
    rw [(uncommanded_inputAxis config.state index input axis).2]
    cases config.state.servo.safeOutputActive <;> rfl
  rw [Machine.advance_history, firstRead, Machine.visit_after, Machine.visit_before,
    if_pos (by exact hafter), hcycle, if_pos rfl, hlatched]
  cases hactive : config.state.servo.safeOutputActive with
  | true =>
      have hbefore : config.state.runtime.safeOutputRequired = true := by
        simpa [keepsLatch, hactive, hsafe] using hkeeps
      rw [if_pos hbefore, hrun.held.latched hactive index axis haxis hmotion rfl hbefore]
      rfl
  | false =>
      have hnone : (if config.state.runtime.safeOutputRequired = true then
          firstRead index config.history else none) = none := by
        split
        · rename_i hbefore
          exact hrun.unread hbefore hactive
        · rfl
      rw [hnone]
      rfl

theorem HeldRun.advance_of_safeCycle (hrun : HeldRun index config) (hindex : index < 256)
    {input : JobInput} (hkeeps : config.state.keepsLatch (.job input) = true)
    (hrunning : config.state.runtime.jobRunning = true)
    (hsafe : config.state.cycleIsSafe input = true) :
    HeldRun index (machine.advance config (.job input)) := by
  have hformed := hrun.sound.formed
  have hbare := bare_jobCycle hformed input hrunning
  have hready : config.state.servo.ready = true := hformed.ready_eq.trans hrunning
  rw [Servo.ready, Bool.and_eq_true] at hready
  have hactivated : (next config.state (.job input)).servo.activated = true := by
    refine (Servo.field_of_bare Servo.activated (fun _ => rfl) hbare).trans ?_
    rw [cycleServo, if_pos hsafe]
    exact hready.2
  have hinitialized : (next config.state (.job input)).servo.initialized = true := by
    refine (Servo.field_of_bare Servo.initialized (fun _ => rfl) hbare).trans ?_
    rw [cycleServo, if_pos hsafe]
    exact hready.1
  have hactive : (next config.state (.job input)).servo.safeOutputActive = true := by
    refine (Servo.field_of_bare Servo.safeOutputActive (fun _ => rfl) hbare).trans ?_
    rw [cycleServo, if_pos hsafe]
  refine ⟨hrun.sound.next (.job input), fun _ => hactivated, ⟨fun _ => hinitialized, ?_⟩, ?_, ?_⟩
  · rintro - other after hafter hmotion rfl -
    obtain ⟨axis, haxis, hdrive, rfl⟩ := exists_of_getElem?_jobCycle hformed hrunning hafter hmotion
    exact hrun.latched_of_safeCycle hindex hkeeps hrunning hsafe haxis hdrive
  · intro _ hinactive
    exact absurd (hinactive.symm.trans hactive) Bool.false_ne_true
  · intro visit earlier after hhistory _ hafter hmotion
    obtain ⟨rfl, rfl⟩ := List.cons.inj hhistory
    obtain ⟨axis, haxis, hdrive, rfl⟩ := exists_of_getElem?_jobCycle hformed hrunning hafter hmotion
    rw [(output_jobAxis (hrun.sound.axes index axis haxis hdrive) config.state index hsafe).2.2.2]
    exact hrun.latched_of_safeCycle hindex hkeeps hrunning hsafe haxis hdrive

theorem HeldRun.advance (hrun : HeldRun index config) (hindex : index < 256)
    (hkeeps : config.state.keepsLatch action = true) :
    HeldRun index (machine.advance config action) := by
  by_cases hjob : ∃ input, action = .job input
  · obtain ⟨input, rfl⟩ := hjob
    by_cases hrunning : config.state.runtime.jobRunning = true
    · by_cases hsafe : config.state.cycleIsSafe input = true
      · exact hrun.advance_of_safeCycle hindex hkeeps hrunning hsafe
      · exact hrun.advance_of_motionCycle hrunning (by simpa using hsafe)
    · exact hrun.advance_of_not_running (by simpa using hrunning)
  · exact hrun.advance_of_not_job (fun input h => hjob ⟨input, h⟩) hkeeps

/-- In every run whose actions keep the latch, every safe cycle writes to each motion axis the position
read in the first safe cycle of its episode. -/
theorem holdsFirstRead_of_keepsLatch (index : Nat) (hindex : index < 256)
    (actions : List BackendAction)
    (hmeets : machine.Meets (fun config action => config.state.keepsLatch action = true)
      (Config.start {}) actions) :
    HoldsFirstRead index (machine.exec (Config.start {}) actions) := by
  have hstart : HeldRun index (Config.start {}) := by
    refine ⟨sound_default, fun h => ?_, ⟨fun h => ?_, fun h => ?_⟩, fun _ _ => rfl, ?_⟩
    · exact absurd h Bool.false_ne_true
    · exact absurd h Bool.false_ne_true
    · exact absurd h Bool.false_ne_true
    · intro visit earlier axis hhistory
      exact absurd hhistory (by simp)
  have hstep : ∀ (config : BackendConfig) (action : BackendAction), HeldRun index config →
      config.state.keepsLatch action = true → HeldRun index (machine.advance config action) :=
    fun config action hrun hkeeps => hrun.advance hindex hkeeps
  exact (machine.exec_invariant_of_meets hstep hstart hmeets).holdsFirstRead

def jobAtPosition (position : Int32) : BackendAction :=
  .job
    { freshnessNowNs := 0
      inputs := fun _ => { actualPosition := position }
      domain := completeDomain
      timing :=
        { scheduledNs := 0, actualWakeupNs := 0, cycleEndNs := 0, dcStatusValid := false
          dcDiffNs := 0 } }

/-- The drive drifts over a safety reset. -/
def driftingReset : List BackendAction :=
  [.initializeServo singleAxisBus {} [nh17Config], .bringUp singleAxisBringUp, jobAtPosition 100,
    .clearCommFault, jobAtPosition 200]

theorem not_holdsFirstRead :
    ¬ ∀ actions index, HoldsFirstRead index (machine.exec (Config.start {}) actions) := by
  intro hall
  have hholds := hall driftingReset 0 _ _ _ rfl (by decide +kernel) rfl (by decide +kernel)
  exact absurd hholds (by decide +kernel)

/-- The drive drifts in an episode whose reset came before its first cycle. -/
theorem holdsFirstRead_after_reset :
    HoldsFirstRead 0 (machine.exec (Config.start {})
      [.initializeServo singleAxisBus {} [nh17Config], .bringUp singleAxisBringUp,
        .clearCommFault, jobAtPosition 100, .requestFaultReset 0 true true,
        .call (.setOperationMode 0 .cyclicSyncVelocity), jobAtPosition 200]) :=
  holdsFirstRead_of_keepsLatch 0 (by decide) _ (by decide +kernel)

end IghMaster.Backend
