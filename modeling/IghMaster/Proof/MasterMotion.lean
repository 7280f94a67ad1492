import IghMaster.Proof.HeldPositions
import IghMaster.Proof.MasterSteps

/-!
# Motion only after a release

Motion data are written where the Job runs and safe-output is not required. Nothing but a release
brings a master there, and everything that revokes the permission leaves safe-output required. The
other Job cycles hold each axis at a position that a Job cycle read from it: the one it latched when
the safe cycles began.
-/

namespace IghMaster

open Transition

namespace Backend

/-- A Job cycle would write motion data. -/
def canMove (backend : Backend) : Bool :=
  backend.runtime.jobRunning && !backend.runtime.safeOutputRequired

theorem canMove_of_safeOutputRequired {backend : Backend}
    (hsafe : backend.runtime.safeOutputRequired = true) : backend.canMove = false := by
  rw [canMove, hsafe]
  simp

theorem canMove_of_quiet {backend : Backend} {action : BackendAction}
    (hquiet : action.isQuiet = true) (hstill : backend.canMove = false) :
    (next backend action).canMove = false := by
  cases action with
  | initializeServo bus config motors => exact hstill
  | setOperational => exact hstill
  | deactivate => rfl
  | call call => exact hstill
  | requestFaultReset motorId allowWithoutFault slavesInOp => exact hstill
  | _ => exact absurd hquiet (by simp [BackendAction.isQuiet])

theorem Quietly.canMove {backend after : Backend} (hquiet : backend.Quietly after)
    (hmove : after.canMove = true) : backend.canMove = true := by
  rw [← Bool.not_eq_false]
  intro hstill
  have hstep : ∀ (first : Backend) (action : BackendAction), action.isQuiet = true →
      first.canMove = false → (machine.next first action).canMove = false :=
    fun _ _ hallowed h => canMove_of_quiet hallowed h
  exact absurd ((hquiet.invariant hstep hstill).symm.trans hmove) (by simp)

/-- A start ends under safe-output, or fails to activate the servo, and then no Job runs. -/
theorem canMove_bringUp {backend : Backend} (hformed : backend.Formed) (input : BringUpInput) :
    (backend.bringUp input).1.canMove = false := by
  cases hactivated : (backend.activatedServo input).2 with
  | true => exact canMove_of_safeOutputRequired (safeOutputRequired_bringUp (Or.inl hactivated))
  | false =>
      have hidle : backend.servo.activated = false := by
        rw [← Bool.not_eq_true]
        intro hactive
        rw [activatedServo_of_activated hformed input hactive] at hactivated
        exact absurd hactivated (by simp)
      have hstill : backend.runtime.jobRunning = false := hformed.running_eq.trans hidle
      rw [bringUp_of_not_activated hactivated, canMove, hstill]
      rfl

theorem canMove_jobCycle {backend : Backend} (hformed : backend.Formed) {input : JobInput}
    (hmove : (backend.jobCycle input).canMove = true) : backend.canMove = true := by
  rw [canMove, Bool.and_eq_true, jobRunning_jobCycle] at hmove
  rw [canMove, hmove.1, Bool.true_and, Bool.not_eq_true', ← Bool.not_eq_true]
  intro hsafe
  have hkept : (next backend (.job input)).runtime.safeOutputRequired = true :=
    safeOutputRequired_next hformed hsafe (by simp)
  rw [show (backend.jobCycle input).runtime.safeOutputRequired = true from hkept] at hmove
  exact absurd hmove.2 (by simp)

end Backend

namespace Master

variable {master : Master} {action : MasterAction}

theorem revokes_of_eventless {visit : MasterVisit} (heventless : isEventless visit = true) :
    revokes isMappedStart visit = false := by
  simp only [isEventless, Bool.and_eq_true, Bool.not_eq_true'] at heventless
  obtain ⟨⟨⟨hjob, hreset⟩, hrequest⟩, hstart⟩ := heventless
  rw [revokes, latchesFault, hjob, hreset, hrequest, hstart]
  rfl

/-- A release that returns true is one under policy SupervisedMotion and passed evidence. -/
theorem isAuthorizedRelease_of_canRelease (hsound : master.Sound) (hidle : master.starting = none)
    (hauthorized : master.motionCommandsAuthorized = true)
    (hrelease : master.backend.canRelease = true) :
    isAuthorizedRelease (machine.visit master (.call .releaseSafeOutput)) = true := by
  obtain ⟨hpolicy, hevidence⟩ := hsound.authorized hauthorized
  have hservo : master.backend.servo.startupEvidencePassed = true := by
    rw [Backend.canRelease, Bool.and_eq_true] at hrelease
    exact hrelease.1
  have hreleased : master.releaseSafeOutput.2 = none := by
    rw [releaseSafeOutput, hauthorized, if_neg (by simp)]
    change (if master.backend.releaseSafeOutput.2 then none
      else some MasterError.releaseRefused) = none
    rw [Backend.snd_releaseSafeOutput, hrelease]
    rfl
  have htaken := taken_call hidle .releaseSafeOutput
  simp [isAuthorizedRelease, isRelease, htaken, hreleased, hpolicy, hevidence, hservo]

/-- What may move after an action could move before it or was released by it, and the action did not
take the permission away. -/
theorem canMove_next (hsound : master.Sound)
    (hmove : (master.next action).backend.canMove = true) :
    revokes isMappedStart (machine.visit master action) = false ∧
      (master.backend.canMove = true ∨
        isAuthorizedRelease (machine.visit master action) = true) := by
  have hfault : latchesFault (machine.visit master action) = false := by
    rw [latchesFault, Bool.and_eq_false_iff]
    refine Or.inr ?_
    rw [← Bool.not_eq_true]
    intro hlatched
    have hsafe := (hsound.next action).faultSafe hlatched
    exact absurd ((Backend.canMove_of_safeOutputRequired hsafe).symm.trans hmove) (by simp)
  have heffect := effect_next master action
  revert hmove heffect
  generalize (master.next action).backend = after
  intro hmove heffect
  cases heffect with
  | quiet hquiet heventless =>
      exact ⟨revokes_of_eventless heventless, Or.inl (hquiet.canMove hmove)⟩
  | started input haction hidle hmapped =>
      have hstill := Backend.canMove_bringUp hsound.backend.formed
        (input.bringUpInput master.policy)
      exact absurd (hstill.symm.trans hmove) (by simp)
  | safetyReset hquiet hreset =>
      exact absurd hmove (by simp [Backend.canMove, Backend.clearCommFault,
        IghMasterRuntime.clearCommFault])
  | safeOutputRequested haction hidle =>
      exact absurd hmove (by simp [Backend.canMove, Backend.requestSafeOutput])
  | released haction hidle hauthorized =>
      subst haction
      have htaken := taken_call hidle .releaseSafeOutput
      refine ⟨?_, ?_⟩
      · rw [revokes, hfault]
        simp [isMappedStart, isSafeOutputRequest, isSafetyReset, htaken]
      · by_cases hrelease : master.backend.canRelease = true
        · exact Or.inr (isAuthorizedRelease_of_canRelease hsound hidle hauthorized hrelease)
        · refine Or.inl ?_
          have hkept := Backend.next_releaseSafeOutput master.backend
          rw [if_neg hrelease] at hkept
          rwa [show master.backend.releaseSafeOutput.1 = master.backend from hkept] at hmove
  | cycled input haction =>
      subst haction
      refine ⟨?_, Or.inl (Backend.canMove_jobCycle hsound.backend.formed hmove)⟩
      rw [revokes, hfault]
      rfl

end Master

namespace Master

variable {master : Master} {action : MasterAction}

theorem ReadPosition.cons {index : Nat} {history : List MasterVisit} {position : Int32}
    (hread : ReadPosition index history position) (visit : MasterVisit) :
    ReadPosition index (visit :: history) position := by
  obtain ⟨past, hmem, hpast⟩ := hread
  exact ⟨past, List.mem_cons_of_mem visit hmem, hpast⟩

theorem holds_next {positions : Nat → Int32 → Prop} (hsound : master.Sound)
    (hholds : Backend.Holds positions master.backend)
    (hread : ∀ input, action = .job input → master.backend.runtime.jobRunning = true →
      ∀ index, positions index (input.inputs index).actualPosition) :
    Backend.Holds positions (master.next action).backend := by
  have hformed := hsound.backend.formed
  have hstep : ∀ (backend : Backend) (inner : BackendAction), inner.isQuiet = true →
      (backend.Formed ∧ Backend.Holds positions backend) →
        (Backend.machine.next backend inner).Formed ∧
          Backend.Holds positions (Backend.machine.next backend inner) := by
    rintro backend inner hallowed ⟨hinner, hkept⟩
    refine ⟨Backend.formed_next hinner inner, hkept.next hinner fun input hjob => ?_⟩
    rw [hjob] at hallowed
    exact absurd hallowed (by simp [BackendAction.isQuiet])
  have hquietly : ∀ {called}, master.backend.Quietly called →
      called.Formed ∧ Backend.Holds positions called :=
    fun hquiet => hquiet.invariant hstep ⟨hformed, hholds⟩
  have heffect := effect_next master action
  revert heffect
  generalize (master.next action).backend = after
  intro heffect
  cases heffect with
  | quiet hquiet heventless => exact (hquietly hquiet).2
  | started input haction hidle hmapped =>
      have hother : ∀ cycle, BackendAction.bringUp (input.bringUpInput master.policy) ≠
          .job cycle := by simp
      exact hholds.next hformed hother
  | safetyReset hquiet hreset =>
      have hother : ∀ cycle, BackendAction.clearCommFault ≠ .job cycle := by simp
      exact (hquietly hquiet).2.next (hquietly hquiet).1 hother
  | safeOutputRequested haction hidle =>
      have hother : ∀ cycle, BackendAction.requestSafeOutput ≠ .job cycle := by simp
      exact hholds.next hformed hother
  | released haction hidle hauthorized =>
      have hother : ∀ cycle, BackendAction.releaseSafeOutput ≠ .job cycle := by simp
      exact hholds.next hformed hother
  | cycled input haction =>
      exact hholds.jobCycle hsound.backend hsound.length_axes_le (hread input haction)

structure MotionRun (config : MasterConfig) : Prop where
  sound : config.state.Sound
  holds : Backend.Holds (fun index => ReadPosition index config.history) config.state.backend
  permitted : config.state.backend.canMove = true →
    Since (fun visit => revokes isMappedStart visit = false)
      (fun visit => isAuthorizedRelease visit = true) config.history
  released : MotionReleased isMappedStart config
  images : ImagesSafe config

theorem motionRun_start (policy : MotionPolicy) :
    MotionRun (Config.start { policy := policy }) where
  sound := sound_start policy
  holds := ⟨fun h => absurd h (by simp), fun h => absurd h (by simp)⟩
  permitted := fun h => absurd h (by simp [Backend.canMove])
  released := fun _ _ h => absurd h (by simp)
  images := fun _ _ h => absurd h (by simp)

theorem canMove_of_isMotionCycle {visit : MasterVisit} (hmotion : isMotionCycle visit = true) :
    visit.before.backend.canMove = true := by
  unfold isMotionCycle at hmotion
  split at hmotion
  · rename_i input haction
    rw [Bool.and_eq_true] at hmotion
    have hrunning : visit.before.backend.runtime.jobRunning = true := by
      simpa [isJobCycle, haction] using hmotion.1
    have hsafe : visit.before.backend.cycleIsSafe input = false := by simpa using hmotion.2
    rw [Backend.canMove, hrunning, Backend.not_required_of_motionCycle hsafe]
    rfl
  · exact absurd hmotion (by simp)

theorem readPosition_visit {input : JobInput} (history : List MasterVisit)
    (hrunning : master.backend.runtime.jobRunning = true) (index : Nat) :
    ReadPosition index (machine.visit master (.job input) :: history)
      (input.inputs index).actualPosition :=
  ⟨machine.visit master (.job input), by simp, hrunning, input, rfl, rfl⟩

theorem imagesSafe_advance {config : MasterConfig} (hrun : MotionRun config)
    (action : MasterAction) : ImagesSafe (machine.advance config action) := by
  intro visit earlier hhistory hsafe index after hafter hmotion
  obtain ⟨rfl, rfl⟩ := List.cons.inj hhistory
  cases action with
  | job input =>
      rw [isSafeCycle, Machine.visit_action] at hsafe
      simp only [Machine.visit_before, Bool.and_eq_true] at hsafe
      obtain ⟨hrunning, hsafe⟩ := hsafe
      obtain ⟨axis, haxis, hdrive, rfl⟩ := Backend.exists_of_getElem?_jobCycle
        hrun.sound.backend.formed hrunning hafter hmotion
      have hsound := hrun.sound.backend.axes index axis haxis hdrive
      obtain ⟨hvelocity, htorque, hword, hposition⟩ :=
        Backend.output_jobAxis hsound config.state.backend index hsafe
      have hholds := hrun.holds.mono fun index position hread =>
        hread.cons (machine.visit config.state (.job input))
      refine ⟨hvelocity, htorque, ?_, ?_⟩
      · rw [hword, Backend.faultResetCw_jobAxis]
        rcases config.state.backend.servo.safeControlWord_cases index axis with
          hshutdown | ⟨-, -, hreset⟩
        · exact Or.inl hshutdown
        · exact Or.inr hreset
      · rw [hposition]
        exact hholds.safeLatchedPosition hrun.sound.backend hrunning hrun.sound.length_axes_le
          (readPosition_visit config.history hrunning) hsafe haxis hdrive
  | call call => exact absurd hsafe (by simp [isSafeCycle])
  | continueStart observed => exact absurd hsafe (by simp [isSafeCycle])

theorem MotionRun.advance {config : MasterConfig} (hrun : MotionRun config)
    (action : MasterAction) : MotionRun (machine.advance config action) where
  sound := hrun.sound.next action
  holds := by
    refine holds_next hrun.sound (hrun.holds.mono fun _ _ hread => hread.cons _) ?_
    rintro input rfl hrunning index
    exact readPosition_visit config.history hrunning index
  permitted := by
    intro hmove
    obtain ⟨hrevokes, hmoved | hreleased⟩ := canMove_next hrun.sound hmove
    · exact Or.inr ⟨hrevokes, hrun.permitted hmoved⟩
    · exact Or.inl hreleased
  released := by
    intro visit earlier hhistory hmotion
    obtain ⟨rfl, rfl⟩ := List.cons.inj hhistory
    exact hrun.permitted (canMove_of_isMotionCycle hmotion)
  images := imagesSafe_advance hrun action

/-- In every run, a Job cycle writes motion data only under a release that nothing revoked since,
and every other one a safe process image. -/
theorem motion_released_images_safe (policy : MotionPolicy) (actions : List MasterAction) :
    MotionReleased isMappedStart
        (machine.exec (Config.start { policy := policy }) actions) ∧
      ImagesSafe (machine.exec (Config.start { policy := policy }) actions) := by
  have hrun : MotionRun (machine.exec (Config.start { policy := policy }) actions) :=
    machine.exec_invariant (fun _ action hrun => hrun.advance action) actions
      (motionRun_start policy)
  exact ⟨hrun.released, hrun.images⟩

/-- A second map is refused and leaves the running master unmapped, so that the start after it is
refused as well. -/
def refusedStart : List MasterAction :=
  startedMaster ++ [job 0 completeDomain, .call .releaseSafeOutput,
    .call (.mapJoints singleAxisBus {} [nh17Axis] []), .call (.start singleAxisStart),
    job 0 completeDomain]

theorem not_motionReleased_isStart :
    ¬ ∀ policy actions, MotionReleased isStart
      (machine.exec (Config.start { policy := policy }) actions) := by
  intro hall
  have hreleased := hall .supervisedMotion refusedStart _ _ rfl (by decide +kernel)
  exact absurd hreleased (by decide +kernel)

end Master

end IghMaster
