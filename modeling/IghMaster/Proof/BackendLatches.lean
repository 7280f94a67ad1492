import IghMaster.BackendHistory
import IghMaster.Proof.DriveSteps

/-!
# The safe-output latch over the actions of a backend

Safe-output, once required, stays required until a release returns true, and a Job cycle writes
motion outputs only where it was not required before the cycle.
-/

namespace IghMaster

namespace IghMasterRuntime

@[simp]
theorem safeOutputRequired_requestSafeOutput (runtime : IghMasterRuntime) :
    runtime.requestSafeOutput.safeOutputRequired = true := by
  unfold requestSafeOutput
  split
  · assumption
  · rfl

@[simp]
theorem safeOutputRequired_configure (input : RuntimeStartInput) (runtime : IghMasterRuntime) :
    (runtime.configure input).1.safeOutputRequired = runtime.safeOutputRequired := by
  unfold configure
  split <;> rfl

@[simp]
theorem safeOutputRequired_start (input : RuntimeStartInput) (runtime : IghMasterRuntime) :
    (runtime.start input).1.safeOutputRequired = runtime.safeOutputRequired := by
  have hconfigured := safeOutputRequired_configure input runtime
  unfold start
  split
  · rfl
  · dsimp only
    split
    · exact hconfigured
    · split
      · exact hconfigured
      · exact hconfigured

end IghMasterRuntime

namespace Backend

/-- A start that reaches the activation asks for safe-output first. -/
theorem safeOutputRequired_bringUp {backend : Backend} {input : BringUpInput}
    (hsafe : (backend.activatedServo input).2 = true ∨
      backend.runtime.safeOutputRequired = true) :
    (backend.bringUp input).1.runtime.safeOutputRequired = true := by
  have hbrought := broughtUp backend input
  generalize backend.bringUp input = result at hbrought ⊢
  cases hbrought with
  | notActivated hfailed =>
      rcases hsafe with hactivated | hrequired
      · exact absurd (hfailed.symm.trans hactivated) (by simp)
      · exact hrequired
  | evidenceFailed hactivated hmissing =>
      exact IghMasterRuntime.safeOutputRequired_requestSafeOutput backend.runtime
  | jobFailed hactivated hfailed =>
      exact (IghMasterRuntime.safeOutputRequired_start _ _).trans
        (IghMasterRuntime.safeOutputRequired_requestSafeOutput _)
  | running hactivated hstarted =>
      exact (IghMasterRuntime.safeOutputRequired_start _ _).trans
        (IghMasterRuntime.safeOutputRequired_requestSafeOutput _)

/-- The Job of an activated servo runs already, so its start does not fail. -/
theorem start_of_activated {backend : Backend} (hformed : backend.Formed)
    (hactivated : backend.servo.activated = true) (input : RuntimeStartInput) :
    (backend.runtime.requestSafeOutput.start input).2 = true := by
  have hrunning : backend.runtime.requestSafeOutput.jobRunning = true := by
    rw [jobRunning_requestSafeOutput, hformed.running_eq, hactivated]
  rw [IghMasterRuntime.start, if_pos hrunning]

theorem activated_bringUp {backend : Backend} (hformed : backend.Formed) {input : BringUpInput}
    (hactivated : backend.servo.activated = true)
    (hevidence : (input.requireEvidence && !backend.servo.startupEvidencePassed) = false) :
    (backend.bringUp input).1.servo.activated = true := by
  have hservo := activatedServo_of_activated hformed input hactivated
  have hbrought := broughtUp backend input
  generalize backend.bringUp input = result at hbrought ⊢
  cases hbrought with
  | notActivated hfailed =>
      rw [hservo] at hfailed
      exact absurd hfailed (by simp)
  | evidenceFailed _ hmissing =>
      rw [hservo, hevidence] at hmissing
      exact absurd hmissing (by simp)
  | jobFailed _ hfailed =>
      have hstarts := start_of_activated hformed hactivated input.runtime
      exact absurd (hstarts.symm.trans hfailed) (by simp)
  | running _ hstarted =>
      change (backend.activatedServo input).1.activated = true
      rw [hservo]
      exact hactivated

/-- The part of a servo that neither a start nor the operation of its axes changes. -/
def settings (servo : Servo) : Servo :=
  { servo with
    axes := [], activated := false, startupEvidencePassed := false, safeOutputActive := false }

theorem settings_of_bare {servo servo' : Servo} (hbare : servo'.bare = servo.bare) :
    settings servo' = settings servo :=
  Servo.field_of_bare settings (fun _ => rfl) hbare

theorem settings_bringUp (backend : Backend) (input : BringUpInput) :
    settings (backend.bringUp input).1.servo = settings backend.servo := by
  have hpositioned := settings_of_bare
    (Servo.bare_initializePositionsFromSdo input.initialReads backend.servo)
  have hservo : settings (backend.activatedServo input).1 = settings backend.servo := by
    rw [← hpositioned]
    unfold activatedServo Servo.activate
    split_ifs <;> rfl
  have hbrought := broughtUp backend input
  generalize backend.bringUp input = result at hbrought ⊢
  cases hbrought with
  | notActivated hfailed => exact hservo
  | evidenceFailed hactivated hmissing => exact hservo
  | jobFailed hactivated hfailed => exact hservo
  | running hactivated hstarted => exact hservo

theorem explicitFaultReset_bringUp (backend : Backend) (input : BringUpInput) :
    (backend.bringUp input).1.servo.explicitFaultResetCycles =
        backend.servo.explicitFaultResetCycles ∧
      (backend.bringUp input).1.servo.explicitFaultResetAxis =
        backend.servo.explicitFaultResetAxis := by
  have hsettings := settings_bringUp backend input
  have hcycles := congrArg Servo.explicitFaultResetCycles hsettings
  have haxis := congrArg Servo.explicitFaultResetAxis hsettings
  exact ⟨hcycles, haxis⟩

theorem runtime_exchangeOutputs (domain : DomainState) (backend : Backend) :
    (backend.exchangeOutputs domain).runtime = backend.runtime := by
  unfold exchangeOutputs
  split <;> rfl

theorem cycleIsSafe_of_required {backend : Backend} (input : JobInput)
    (hsafe : backend.runtime.safeOutputRequired = true) : backend.cycleIsSafe input = true := by
  have hconsumed : backend.runtime.consumePendingDwellFault.safeOutputRequired = true :=
    (IghMasterRuntime.safeOutputRequired_consumePendingDwellFault _).trans hsafe
  exact (IghMasterRuntime.monitored_latchIf _ _).safeOutputRequired hconsumed

theorem runtime_jobCycle {backend : Backend} (hformed : backend.Formed) (input : JobInput)
    (hrunning : backend.runtime.jobRunning = true) :
    (backend.jobCycle input).runtime =
      (backend.beforeOutputs input).runtime.finishJobCycle input.timing input.domain.rxOk := by
  have hready : backend.servo.ready = true := hformed.ready_eq.trans hrunning
  have hinitialized : backend.servo.initialized = true := by
    rw [Servo.ready, Bool.and_eq_true] at hready
    exact hready.1
  unfold jobCycle
  rw [hrunning, hinitialized, if_neg (by simp), if_neg (by simp)]
  change IghMasterRuntime.finishJobCycle input.timing input.domain.rxOk _ = _
  rw [runtime_exchangeOutputs]

theorem jobCycle_of_not_running {backend : Backend} (input : JobInput)
    (hrunning : backend.runtime.jobRunning = false) : backend.jobCycle input = backend := by
  rw [jobCycle, hrunning, if_pos (by rfl)]

theorem safeOutputRequired_of_cycleIsSafe {backend : Backend} (hformed : backend.Formed)
    {input : JobInput} (hrunning : backend.runtime.jobRunning = true)
    (hsafe : backend.cycleIsSafe input = true) :
    (backend.jobCycle input).runtime.safeOutputRequired = true := by
  rw [runtime_jobCycle hformed input hrunning]
  exact IghMasterRuntime.safeOutputRequired_finishJobCycle hsafe

theorem not_required_of_motionCycle {backend : Backend} {input : JobInput}
    (hsafe : backend.cycleIsSafe input = false) :
    backend.runtime.safeOutputRequired = false := by
  rw [← Bool.not_eq_true]
  intro hrequired
  exact absurd ((cycleIsSafe_of_required input hrequired).symm.trans hsafe) (by simp)

theorem next_releaseSafeOutput (backend : Backend) :
    next backend .releaseSafeOutput =
      if backend.canRelease then
        { backend with runtime := { backend.runtime with safeOutputRequired := false } }
      else backend := by
  change backend.releaseSafeOutput.1 = _
  unfold releaseSafeOutput canRelease IghMasterRuntime.releaseSafeOutput
  cases backend.servo.startupEvidencePassed <;> cases backend.runtime.releaseAllowed <;> rfl

/-- A request that is accepted opens the window it asks for; a refused one changes nothing. -/
theorem requestFaultReset_cases (backend : Backend) (motorId : UInt8)
    (allowWithoutFault slavesInOp : Bool) :
    (backend.requestFaultReset motorId allowWithoutFault slavesInOp = (backend, false)) ∨
      (inEpisode backend = true ∧
        backend.requestFaultReset motorId allowWithoutFault slavesInOp =
          ({ backend with servo := { backend.servo with
              explicitFaultResetAxis :=
                if motorId == 0xFF then 0x00FF else motorId.toUInt16
              explicitFaultResetCycles := 20 } }, true)) := by
  unfold requestFaultReset Servo.requestFaultReset
  dsimp only
  split
  · exact Or.inl rfl
  · rename_i hguard
    split
    · exact Or.inl rfl
    · split
      · exact Or.inl rfl
      · refine Or.inr ⟨?_, rfl⟩
        simp only [Bool.or_eq_true, not_or, Bool.not_eq_true', Bool.not_eq_false] at hguard
        unfold inEpisode
        rw [Bool.and_eq_true]
        have hactivated : backend.servo.activated = true := by simpa using hguard.1.1.1.1.1.2
        have hrequired : backend.flags.safeOutputRequired = true := by simpa using hguard.1.1.1.2
        exact ⟨hrequired, hactivated⟩

/-- What the initialisation of a servo sets, and nothing after it. -/
def configuration (servo : Servo) : Servo :=
  { settings servo with explicitFaultResetAxis := 0xFFFF, explicitFaultResetCycles := 0 }

theorem configuration_of_settings {servo servo' : Servo}
    (hsettings : settings servo' = settings servo) : configuration servo' = configuration servo := by
  unfold configuration
  rw [hsettings]

/-- Only `initializeServo` changes the configuration, and not that of an initialised servo. -/
theorem configuration_next {backend : Backend} (hformed : backend.Formed) {action : BackendAction}
    (hinitialized : ∀ bus config motors, action = .initializeServo bus config motors →
      backend.servo.initialized = true) :
    configuration (next backend action).servo = configuration backend.servo := by
  cases action with
  | initializeServo bus config motors =>
      change configuration (backend.servo.initializeServo bus config.busCycleUs config.cmdWatchdogMs
        config.csvCmdWatchdog motors).1 = _
      rw [Servo.initializeServo_of_initialized _ _ _ _ _ (hinitialized bus config motors rfl)]
  | bringUp input => exact configuration_of_settings (settings_bringUp backend input)
  | setOperational => rfl
  | deactivate => rfl
  | call call =>
      have hbare := Servo.bare_perform backend.flags backend.servo call
      exact configuration_of_settings (settings_of_bare hbare)
  | requestFaultReset motorId allowWithoutFault slavesInOp =>
      change configuration (backend.requestFaultReset motorId allowWithoutFault
        slavesInOp).1.servo = _
      rcases requestFaultReset_cases backend motorId allowWithoutFault slavesInOp with
        hrefused | ⟨-, haccepted⟩
      · rw [hrefused]
      · rw [haccepted]
        rfl
  | clearCommFault => rfl
  | requestSafeOutput => rfl
  | releaseSafeOutput =>
      rw [next_releaseSafeOutput]
      split <;> rfl
  | job input =>
      by_cases hrunning : backend.runtime.jobRunning = true
      · have hbare := bare_jobCycle hformed input hrunning
        refine (configuration_of_settings (settings_of_bare hbare)).trans ?_
        unfold cycleServo
        split <;> rfl
      · have hsame : next backend (.job input) = backend :=
          jobCycle_of_not_running input (by simpa using hrunning)
        rw [hsame]

/-- Safe-output stays required except over a release that returns true. -/
theorem safeOutputRequired_next {backend : Backend} (hformed : backend.Formed)
    {action : BackendAction} (hsafe : backend.runtime.safeOutputRequired = true)
    (hrelease : action = .releaseSafeOutput → backend.canRelease = false) :
    (next backend action).runtime.safeOutputRequired = true := by
  cases action with
  | initializeServo bus config motors => exact hsafe
  | bringUp input => exact safeOutputRequired_bringUp (Or.inr hsafe)
  | setOperational => exact hsafe
  | deactivate => exact hsafe
  | call call => exact hsafe
  | requestFaultReset motorId allowWithoutFault slavesInOp => exact hsafe
  | clearCommFault => rfl
  | requestSafeOutput => exact IghMasterRuntime.safeOutputRequired_requestSafeOutput _
  | releaseSafeOutput =>
      rw [next_releaseSafeOutput, hrelease rfl, if_neg (by simp)]
      exact hsafe
  | job input =>
      change (backend.jobCycle input).runtime.safeOutputRequired = true
      by_cases hrunning : backend.runtime.jobRunning = true
      · exact safeOutputRequired_of_cycleIsSafe hformed hrunning
          (cycleIsSafe_of_required input hsafe)
      · rw [jobCycle_of_not_running input (by simpa using hrunning)]
        exact hsafe

/-- The action that ends safe-output is a release that returns true. -/
theorem release_of_released {backend : Backend} (hformed : backend.Formed) {action : BackendAction}
    (hsafe : backend.runtime.safeOutputRequired = true)
    (hreleased : (next backend action).runtime.safeOutputRequired = false) :
    action = .releaseSafeOutput ∧ backend.canRelease = true := by
  by_contra hother
  have hstill : (next backend action).runtime.safeOutputRequired = true := by
    apply safeOutputRequired_next hformed hsafe
    intro haction
    rw [← Bool.not_eq_true]
    exact fun hcan => hother ⟨haction, hcan⟩
  exact Bool.false_ne_true (hreleased.symm.trans hstill)

end Backend

end IghMaster
