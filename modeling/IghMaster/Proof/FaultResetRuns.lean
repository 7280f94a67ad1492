import IghMaster.Proof.BackendLatches

/-!
# Fault reset words and the requests for them

The reset window is a counter that only safe cycles count down, and the control word of an axis
outlives the window. Over the runs in which neither is left over when an episode of safe-output
ends, a fault reset word is written only for a request of the same episode, in at most twenty safe
cycles.
-/

namespace IghMaster

open Transition

def isFaultResetWord (word : UInt16) : Bool :=
  word == controlWordFaultResetBit.value || word == controlWordFaultReset.value

theorem not_isFaultResetWord_disableSequence (step : Nat) :
    isFaultResetWord (cia402DisableSequence step) = false := by
  unfold cia402DisableSequence
  split <;> rfl

namespace Backend

def resetWindowOpen (index : Nat) (servo : Servo) : Bool :=
  0 < servo.explicitFaultResetCycles &&
    Servo.resetAxisSelected servo.explicitFaultResetAxis index

/-- A request covering the axis was accepted in the present episode, nothing cleared it since and
the given number of safe cycles ran since. -/
def ResetRequested (index count : Nat) (history : List BackendVisit) : Prop :=
  ∃ later request earlier, history = later ++ request :: earlier ∧
    acceptsReset index request = true ∧
    (∀ visit ∈ later, inEpisode visit.after = true ∧ isClearCommFault visit = false) ∧
    later.countP isSafeCycle = count

/-- What the drive of the axis is written in the last step: a safe cycle writes Shutdown or the
fault reset word of a live request, and without demand a motion cycle writes no fault reset word. -/
def NoImplicitFaultReset (index : Nat) (config : BackendConfig) : Prop :=
  ∀ visit earlier axis, config.history = visit :: earlier →
    visit.after.servo.axes[index]? = some axis → axis.isMotion = true →
      (isSafeCycle visit = true → axis.output.controlWord = controlWordSwitchOn ∨
        ∃ count, count < 20 ∧ ResetRequested index count earlier) ∧
      (isMotionCycle visit = true → axis.fsm.desiredEnable = false →
        isFaultResetWord axis.output.controlWord = false)

/-- A step at which an episode ends leaves no part of a reset behind. -/
def leavesNoReset (index : Nat) (config : BackendConfig) : BackendAction → Bool
  | .releaseSafeOutput =>
      !(config.state.canRelease && config.state.runtime.safeOutputRequired) ||
        (!resetWindowOpen index config.state.servo &&
          config.state.servo.axes[index]?.all fun axis =>
            !axis.isMotion || axis.fsm.desiredEnable ||
              !isFaultResetWord axis.fsm.controlWordState)
  | .deactivate => !resetWindowOpen index config.state.servo
  | .bringUp input =>
      !(input.requireEvidence && !config.state.servo.startupEvidencePassed) ||
        !resetWindowOpen index config.state.servo
  | _ => true

/-- Without demand, the word in place is no fault reset word, or a disable sequence is about to
replace it. -/
def ResetFree (axis : Axis) : Prop :=
  axis.fsm.desiredEnable = false → isFaultResetWord axis.fsm.controlWordState = false ∨
    (axis.fsm.active = true ∧ axis.fsm.step = 0 ∧ axis.fsm.wait = 0)

/-- An open window belongs to a request of the present episode, and the safe cycles since are those
it has counted down. -/
def WindowHolds (index : Nat) (config : BackendConfig) : Prop :=
  resetWindowOpen index config.state.servo = true →
    inEpisode config.state = true ∧ ∃ count,
      count + config.state.servo.explicitFaultResetCycles = 20 ∧
        ResetRequested index count config.history

structure ResetRun (index : Nat) (config : BackendConfig) : Prop where
  sound : config.state.Sound
  window : WindowHolds index config
  free : config.state.runtime.safeOutputRequired = false →
    config.state.servo.MotionAt index ResetFree
  written : NoImplicitFaultReset index config

/-! ### The words -/

theorem ResetFree.of_sameDrive {axis after : Axis} (hfree : ResetFree axis)
    (hsame : axis.SameDrive after) : ResetFree after := by
  unfold ResetFree
  rw [hsame.fsm_eq]
  exact hfree

theorem ResetFree.applyMode {axis : Axis} (hfree : ResetFree axis) (mode : OperationMode) :
    ResetFree (axis.applyMode mode) := by
  unfold Axis.applyMode
  split
  · exact hfree
  · intro hdesired
    have hbefore : axis.fsm.desiredEnable = false :=
      axis.fsm.desiredEnable_shutdownForModeChange.symm.trans hdesired
    unfold EnableFsm.shutdownForModeChange
    dsimp only
    split
    · exact hfree hbefore
    · exact Or.inl rfl

/-- Without demand, the machine of a reset-free axis writes no fault reset word. -/
theorem ResetFree.sendData {axis : Axis} (hfree : ResetFree axis) (hsound : axis.Sound)
    (wcOk : Bool) :
    ResetFree (axis.sendData true wcOk) ∧
      ((axis.sendData true wcOk).fsm.desiredEnable = false →
        isFaultResetWord (axis.sendData true wcOk).output.controlWord = false) := by
  have hsent := EnableFsm.sendDataCommon_of_plain (axis.txContext true wcOk) hsound.plain rfl
  have hfsm : (axis.sendData true wcOk).fsm = _ := congrArg Prod.fst hsent
  have hword : (axis.sendData true wcOk).output.controlWord = _ := congrArg Prod.snd hsent
  have hclean : (axis.sendData true wcOk).fsm.desiredEnable = false →
      isFaultResetWord (axis.fsm.stepFsm (axis.txContext true wcOk)).controlWordState = false := by
    intro hdesired
    rw [hfsm] at hdesired
    have hbefore : axis.fsm.desiredEnable = false :=
      (EnableFsm.desiredEnable_stepFsm hsound.plain).symm.trans hdesired
    obtain ⟨persist, loss, hprepared⟩ :=
      (EnableFsm.prepare_cases (axis.txContext true wcOk) hsound.plain).eq_of_not_desired hbefore
    rw [EnableFsm.stepFsm_eq_advance_prepare, hprepared]
    have hrestart := hfree hbefore
    by_cases hrunning : axis.fsm.running = true
    swap
    · rw [Bool.not_eq_true] at hrunning
      rw [EnableFsm.advance_of_not_running (by exact hrunning)]
      rcases hrestart with hkept | ⟨hactive, -, -⟩
      · exact hkept
      · simp [EnableFsm.running, hactive] at hrunning
    by_cases hwait : 0 < axis.fsm.wait
    · rw [EnableFsm.advance_of_wait_pos (by exact hrunning) (by exact hwait)]
      rcases hrestart with hkept | ⟨-, -, hzero⟩
      · exact hkept
      · omega
    · have hzero : axis.fsm.wait = 0 := by omega
      rw [EnableFsm.advance_of_disable (by exact hrunning) (by exact hzero) (by exact hbefore)]
      unfold EnableFsm.disableStep
      by_cases hstep : axis.fsm.step < 4
      · rw [if_pos (by exact hstep)]
        exact not_isFaultResetWord_disableSequence axis.fsm.step
      · rw [if_neg (by exact hstep)]
        rcases hrestart with hkept | ⟨-, hfirst, -⟩
        · exact hkept
        · omega
  constructor
  · intro hdesired
    have hstate := hclean hdesired
    rw [hfsm]
    exact Or.inl hstate
  · intro hdesired
    rw [hword]
    exact hclean hdesired

theorem resetFree_driveStep {backend : Backend} {index : Nat} {action : BackendAction}
    {axis after : Axis} (hsound : axis.Sound) (hfree : ResetFree axis)
    (hstep : DriveStep backend index action axis after)
    (hmotion : ∀ input, action = .job input → backend.runtime.jobRunning = true →
      backend.cycleIsSafe input = false) : ResetFree after := by
  cases hstep with
  | kept after hsame hidle => exact hfree.of_sameDrive hsame
  | enabled motorId enable haction hstarts => exact fun _ => Or.inr ⟨rfl, rfl, rfl⟩
  | modeChanged motorId mode haction hcovers => exact hfree.applyMode mode
  | activated input positioned haction hinactive hsame => exact fun _ => Or.inl rfl
  | safe input received haction hrunning hsafe hreceived =>
      exact absurd ((hmotion input haction hrunning).symm.trans hsafe) (by simp)
  | sent input received haction hrunning hsafe hreceived =>
      subst hreceived
      have hsame := sameDrive_inputAxis backend index input axis
      exact ((hfree.of_sameDrive hsame).sendData (hsound.of_sameDrive hsame) _).1

/-! ### The window -/

theorem ResetRequested.cons {index count : Nat} {history : List BackendVisit}
    (hrequested : ResetRequested index count history) (visit : BackendVisit)
    (hepisode : inEpisode visit.after = true) (hclear : isClearCommFault visit = false) :
    ResetRequested index (if isSafeCycle visit then count + 1 else count) (visit :: history) := by
  obtain ⟨later, request, earlier, rfl, haccepted, hlater, hcount⟩ := hrequested
  refine ⟨visit :: later, request, earlier, rfl, haccepted, ?_, ?_⟩
  · intro other hother
    rcases List.mem_cons.mp hother with rfl | hmem
    · exact ⟨hepisode, hclear⟩
    · exact hlater other hmem
  · rw [List.countP_cons, hcount]
    split <;> rfl

theorem windowHolds_of_closed {index : Nat} {config : BackendConfig}
    (hclosed : resetWindowOpen index config.state.servo = false) : WindowHolds index config :=
  fun hopen => absurd (hclosed.symm.trans hopen) (by simp)

theorem windowHolds_of_kept {index : Nat} {config : BackendConfig} {action : BackendAction}
    (hwindow : WindowHolds index config)
    (hcycles : (next config.state action).servo.explicitFaultResetCycles =
      config.state.servo.explicitFaultResetCycles)
    (haxis : (next config.state action).servo.explicitFaultResetAxis =
      config.state.servo.explicitFaultResetAxis)
    (hepisode : resetWindowOpen index config.state.servo = true →
      inEpisode config.state = true → inEpisode (next config.state action) = true)
    (hclear : isClearCommFault (machine.visit config.state action) = false)
    (hsafe : isSafeCycle (machine.visit config.state action) = false) :
    WindowHolds index (machine.advance config action) := by
  intro hopen
  have hbefore : resetWindowOpen index config.state.servo = true := by
    have hafter : resetWindowOpen index (next config.state action).servo = true := hopen
    unfold resetWindowOpen at hafter ⊢
    rw [hcycles, haxis] at hafter
    exact hafter
  obtain ⟨hin, count, hcount, hrequested⟩ := hwindow hbefore
  have hafter := hepisode hbefore hin
  have hlonger := hrequested.cons (machine.visit config.state action) hafter hclear
  rw [hsafe, if_neg (by simp)] at hlonger
  refine ⟨hafter, count, ?_, hlonger⟩
  change count + (next config.state action).servo.explicitFaultResetCycles = 20
  rw [hcycles]
  exact hcount

theorem resetAxisSelected_of_request (motorId : UInt8) (index : Nat) :
    Servo.resetAxisSelected (if motorId == 0xFF then 0x00FF else motorId.toUInt16) index =
      resetCovers motorId index := by
  unfold Servo.resetAxisSelected resetCovers
  by_cases hbroadcast : motorId = 0xFF
  · simp [hbroadcast]
  · have hsingle : (motorId == 0xFF) = false := by simpa using hbroadcast
    have hne : motorId.toUInt16 ≠ 0x00FF := by
      intro hequal
      apply hbroadcast
      have hnat := congrArg UInt16.toNat hequal
      rw [UInt8.toNat_toUInt16] at hnat
      exact UInt8.toNat_inj.mp hnat
    rw [hsingle, if_neg (by simp)]
    simp [hne]

theorem windowHolds_of_same {index : Nat} {config : BackendConfig} {action : BackendAction}
    (hwindow : WindowHolds index config) (hsame : next config.state action = config.state)
    (hclear : isClearCommFault (machine.visit config.state action) = false)
    (hsafe : isSafeCycle (machine.visit config.state action) = false) :
    WindowHolds index (machine.advance config action) := by
  apply windowHolds_of_kept hwindow
  · rw [hsame]
  · rw [hsame]
  · rw [hsame]
    exact fun _ hin => hin
  · exact hclear
  · exact hsafe

theorem windowHolds_requestFaultReset {index : Nat} {config : BackendConfig}
    (hwindow : WindowHolds index config) (motorId : UInt8) (allowWithoutFault slavesInOp : Bool) :
    WindowHolds index (machine.advance config
      (.requestFaultReset motorId allowWithoutFault slavesInOp)) := by
  rcases requestFaultReset_cases config.state motorId allowWithoutFault slavesInOp with
    hrefused | ⟨hepisode, haccepted⟩
  · have hsame : next config.state (.requestFaultReset motorId allowWithoutFault slavesInOp) =
        config.state := congrArg Prod.fst hrefused
    exact windowHolds_of_same hwindow hsame rfl rfl
  · have hnext : next config.state (.requestFaultReset motorId allowWithoutFault slavesInOp) =
        _ := congrArg Prod.fst haccepted
    intro hopen
    have hafter : resetWindowOpen index (next config.state
        (.requestFaultReset motorId allowWithoutFault slavesInOp)).servo = true := hopen
    rw [hnext] at hafter
    unfold resetWindowOpen at hafter
    rw [Bool.and_eq_true] at hafter
    have hcovers : resetCovers motorId index = true :=
      (resetAxisSelected_of_request motorId index).symm.trans hafter.2
    refine ⟨?_, 0, ?_, [], _, config.history, rfl, ?_, by simp, rfl⟩
    · change inEpisode (next config.state
        (.requestFaultReset motorId allowWithoutFault slavesInOp)) = true
      rw [hnext]
      exact hepisode
    · change 0 + (next config.state
        (.requestFaultReset motorId allowWithoutFault slavesInOp)).servo.explicitFaultResetCycles
          = 20
      rw [hnext]
      rfl
    · change ((config.state.requestFaultReset motorId allowWithoutFault slavesInOp).2 &&
        resetCovers motorId index) = true
      rw [haccepted, hcovers]
      rfl

/-- A window that is open after a safe cycle was open before it, with one cycle more to go. -/
theorem resetWindowOpen_of_countdown {index : Nat} {before after : Servo}
    (hcycles : after.explicitFaultResetCycles = before.explicitFaultResetCycles - 1)
    (haxis : after.explicitFaultResetAxis =
      if before.explicitFaultResetCycles = 1 then 0xFFFF else before.explicitFaultResetAxis)
    (hopen : resetWindowOpen index after = true) :
    resetWindowOpen index before = true ∧
      after.explicitFaultResetCycles + 1 = before.explicitFaultResetCycles := by
  unfold resetWindowOpen at hopen ⊢
  rw [Bool.and_eq_true, decide_eq_true_eq] at hopen ⊢
  obtain ⟨hpos, hselected⟩ := hopen
  have hne : before.explicitFaultResetCycles ≠ 1 := by omega
  rw [haxis, if_neg hne] at hselected
  exact ⟨⟨by omega, hselected⟩, by omega⟩

theorem windowHolds_jobCycle {index : Nat} {config : BackendConfig}
    (hsound : config.state.Sound) (hwindow : WindowHolds index config) (input : JobInput) :
    WindowHolds index (machine.advance config (.job input)) := by
  by_cases hrunning : config.state.runtime.jobRunning = true
  swap
  · rw [Bool.not_eq_true] at hrunning
    have hsame : next config.state (.job input) = config.state :=
      jobCycle_of_not_running input hrunning
    apply windowHolds_of_same hwindow hsame rfl
    rw [isSafeCycle_job, hrunning]
    rfl
  have hbare : (next config.state (.job input)).servo.bare = (config.state.cycleServo input).bare :=
    bare_jobCycle hsound.formed input hrunning
  have hcycles := Servo.field_of_bare Servo.explicitFaultResetCycles (fun _ => rfl) hbare
  have haxis := Servo.field_of_bare Servo.explicitFaultResetAxis (fun _ => rfl) hbare
  have hactivated := Servo.field_of_bare Servo.activated (fun _ => rfl) hbare
  unfold cycleServo at hcycles haxis hactivated
  by_cases hsafe : config.state.cycleIsSafe input = true
  · rw [if_pos hsafe] at hcycles haxis hactivated
    intro hopen
    obtain ⟨hbefore, hcounted⟩ := resetWindowOpen_of_countdown hcycles haxis hopen
    obtain ⟨hin, count, hcount, hrequested⟩ := hwindow hbefore
    have hrequired := safeOutputRequired_of_cycleIsSafe hsound.formed hrunning hsafe
    have hepisode : inEpisode (next config.state (.job input)) = true := by
      unfold inEpisode at hin ⊢
      rw [Bool.and_eq_true] at hin ⊢
      exact ⟨hrequired, hactivated.trans hin.2⟩
    have hlonger := hrequested.cons (machine.visit config.state (.job input)) hepisode rfl
    have hcycle : isSafeCycle (machine.visit config.state (.job input)) = true := by
      rw [isSafeCycle_job, hrunning, hsafe]
      rfl
    rw [if_pos hcycle] at hlonger
    refine ⟨hepisode, count + 1, ?_, hlonger⟩
    rw [Machine.advance_state]
    have hafter : (machine.next config.state (.job input)).servo.explicitFaultResetCycles + 1 =
        config.state.servo.explicitFaultResetCycles := hcounted
    omega
  · -- no window is open outside an episode
    rw [Bool.not_eq_true] at hsafe
    rw [hsafe, if_neg (by simp)] at hcycles haxis hactivated
    apply windowHolds_of_kept hwindow hcycles haxis
    · intro _ hin
      have hrequired := not_required_of_motionCycle hsafe
      unfold inEpisode at hin
      rw [hrequired] at hin
      exact absurd hin (by simp)
    · rfl
    · rw [isSafeCycle_job, hsafe, Bool.and_false]

theorem windowHolds_bringUp {index : Nat} {config : BackendConfig}
    (hsound : config.state.Sound) (hwindow : WindowHolds index config) (input : BringUpInput)
    (hleaves : leavesNoReset index config (.bringUp input) = true) :
    WindowHolds index (machine.advance config (.bringUp input)) := by
  obtain ⟨hcycles, haxis⟩ := explicitFaultReset_bringUp config.state input
  refine windowHolds_of_kept hwindow hcycles haxis ?_ rfl rfl
  intro hopen hin
  unfold inEpisode at hin ⊢
  rw [Bool.and_eq_true] at hin ⊢
  have hevidence : (input.requireEvidence && !config.state.servo.startupEvidencePassed) = false := by
    simp only [leavesNoReset, hopen, Bool.not_true, Bool.or_false, Bool.not_eq_true'] at hleaves
    exact hleaves
  exact ⟨safeOutputRequired_bringUp (Or.inr hin.1),
    activated_bringUp hsound.formed hin.2 hevidence⟩

theorem windowHolds_release {index : Nat} {config : BackendConfig}
    (hwindow : WindowHolds index config)
    (hleaves : leavesNoReset index config .releaseSafeOutput = true) :
    WindowHolds index (machine.advance config .releaseSafeOutput) := by
  by_cases hcan : config.state.canRelease = true
  · apply windowHolds_of_closed
    change resetWindowOpen index (next config.state .releaseSafeOutput).servo = false
    rw [next_releaseSafeOutput, if_pos hcan]
    change resetWindowOpen index config.state.servo = false
    rw [← Bool.not_eq_true]
    intro hopen
    have hin := (hwindow hopen).1
    unfold inEpisode at hin
    rw [Bool.and_eq_true] at hin
    simp [leavesNoReset, hcan, hin.1, hopen] at hleaves
  · have hsame : next config.state .releaseSafeOutput = config.state := by
      rw [next_releaseSafeOutput, if_neg hcan]
    exact windowHolds_of_same hwindow hsame rfl rfl

theorem inEpisode_of_fields {backend backend' : Backend}
    (hactivated : backend'.servo.activated = backend.servo.activated)
    (hrequired : backend.runtime.safeOutputRequired = true →
      backend'.runtime.safeOutputRequired = true)
    (hin : inEpisode backend = true) : inEpisode backend' = true := by
  unfold inEpisode at hin ⊢
  rw [Bool.and_eq_true] at hin ⊢
  exact ⟨hrequired hin.1, hactivated.trans hin.2⟩

theorem explicitFaultReset_initializeServo (bus : BusSetup) (config : IghMasterConfig)
    (motors : List MotorConfig) (backend : Backend) :
    (backend.initializeServo bus config motors).1.servo.explicitFaultResetCycles =
        backend.servo.explicitFaultResetCycles ∧
      (backend.initializeServo bus config motors).1.servo.explicitFaultResetAxis =
        backend.servo.explicitFaultResetAxis ∧
      (backend.initializeServo bus config motors).1.servo.activated = backend.servo.activated := by
  unfold initializeServo
  rcases backend.servo.initializeServo_cases bus config.busCycleUs config.cmdWatchdogMs
    config.csvCmdWatchdog motors with hrefused | ⟨-, hfailed | ⟨axes, -, hdone⟩⟩
  · rw [hrefused]
    exact ⟨rfl, rfl, rfl⟩
  · rw [hfailed]
    exact ⟨rfl, rfl, rfl⟩
  · rw [hdone]
    exact ⟨rfl, rfl, rfl⟩

theorem windowHolds_next {index : Nat} {config : BackendConfig} {action : BackendAction}
    (hsound : config.state.Sound) (hwindow : WindowHolds index config)
    (hleaves : leavesNoReset index config action = true) :
    WindowHolds index (machine.advance config action) := by
  cases action with
  | initializeServo bus master motors =>
      obtain ⟨hcycles, haxis, hactivated⟩ :=
        explicitFaultReset_initializeServo bus master motors config.state
      exact windowHolds_of_kept hwindow hcycles haxis
        (fun _ hin => inEpisode_of_fields hactivated id hin) rfl rfl
  | bringUp input => exact windowHolds_bringUp hsound hwindow input hleaves
  | setOperational => exact windowHolds_of_kept hwindow rfl rfl (fun _ hin => hin) rfl rfl
  | deactivate =>
      apply windowHolds_of_closed
      change resetWindowOpen index config.state.servo = false
      simpa [leavesNoReset] using hleaves
  | call call =>
      have hbare := Servo.bare_perform config.state.flags config.state.servo call
      have hcycles := Servo.field_of_bare Servo.explicitFaultResetCycles (fun _ => rfl) hbare
      have haxis := Servo.field_of_bare Servo.explicitFaultResetAxis (fun _ => rfl) hbare
      have hactivated := Servo.field_of_bare Servo.activated (fun _ => rfl) hbare
      exact windowHolds_of_kept hwindow hcycles haxis
        (fun _ hin => inEpisode_of_fields hactivated id hin) rfl rfl
  | requestFaultReset motorId allowWithoutFault slavesInOp =>
      exact windowHolds_requestFaultReset hwindow motorId allowWithoutFault slavesInOp
  | clearCommFault => exact windowHolds_of_closed rfl
  | requestSafeOutput =>
      refine windowHolds_of_kept hwindow rfl rfl (fun _ hin => ?_) rfl rfl
      have hsame : (next config.state .requestSafeOutput).servo.activated =
        config.state.servo.activated := rfl
      exact inEpisode_of_fields hsame
        (fun _ => IghMasterRuntime.safeOutputRequired_requestSafeOutput _) hin
  | releaseSafeOutput => exact windowHolds_release hwindow hleaves
  | job input => exact windowHolds_jobCycle hsound hwindow input

/-! ### Runs -/

theorem ResetRun.free_next {index : Nat} {config : BackendConfig} {action : BackendAction}
    (hrun : ResetRun index config) (hleaves : leavesNoReset index config action = true)
    (hmotion : (next config.state action).runtime.safeOutputRequired = false) :
    (next config.state action).servo.MotionAt index ResetFree := by
  have hsound := hrun.sound.axes index
  by_cases hrequired : config.state.runtime.safeOutputRequired = true
  · -- only a release ends an episode, and it leaves no reset word behind
    obtain ⟨rfl, hcan⟩ := release_of_released hrun.sound.formed hrequired hmotion
    rw [next_releaseSafeOutput, if_pos hcan]
    intro axis haxis hmotionAxis hdesired
    have haxis : config.state.servo.axes[index]? = some axis := haxis
    simp only [leavesNoReset, hcan, hrequired, Bool.and_self, Bool.not_true, Bool.false_or,
      Bool.and_eq_true, haxis, Option.all_some, hmotionAxis, hdesired, Bool.not_eq_true'] at hleaves
    exact Or.inl hleaves.2
  · rw [Bool.not_eq_true] at hrequired
    refine motionAt_next hrun.sound.formed (hsound.and (hrun.free hrequired)) ?_ ?_
    · exact fun _ _ _ _ _ _ => Or.inl rfl
    · intro axis haxis hmotionAxis haxisBoth
      have hstep := driveStep_axisNext config.state index action hmotionAxis
      refine resetFree_driveStep haxisBoth.1 haxisBoth.2 hstep fun input haction hrunning => ?_
      rw [← Bool.not_eq_true]
      intro hsafe
      subst haction
      have hafter := safeOutputRequired_of_cycleIsSafe hrun.sound.formed hrunning hsafe
      exact absurd (hmotion.symm.trans hafter) (by simp)

theorem ResetRun.written_next {index : Nat} {config : BackendConfig} {action : BackendAction}
    (hrun : ResetRun index config) : NoImplicitFaultReset index (machine.advance config action) := by
  intro visit earlier after hhistory hafter hmotion
  obtain ⟨rfl, rfl⟩ := List.cons.inj hhistory
  cases action with
  | job input =>
      constructor
      · intro hcycle
        rw [isSafeCycle_job, Bool.and_eq_true] at hcycle
        obtain ⟨axis, haxis, hmotionAxis, rfl⟩ :=
          exists_of_getElem?_jobCycle hrun.sound.formed hcycle.1 hafter hmotion
        have hinput := (hrun.sound.axes index axis haxis hmotionAxis).of_sameDrive
          (sameDrive_inputAxis config.state index input axis)
        have hword : (config.state.jobAxis index input axis).output.controlWord =
            config.state.servo.safeControlWord index axis := by
          simp [jobAxis, hcycle.2, Axis.applySafe, hinput.mapped.controlWord]
        rw [hword]
        rcases config.state.servo.safeControlWord_cases index axis with
          hshutdown | ⟨hpos, hselected, -⟩
        · exact Or.inl hshutdown
        · have hopen : resetWindowOpen index config.state.servo = true := by
            unfold resetWindowOpen
            rw [hselected, Bool.and_true, decide_eq_true_eq]
            exact hpos
          obtain ⟨-, count, hcount, hrequested⟩ := hrun.window hopen
          exact Or.inr ⟨count, by omega, hrequested⟩
      · intro hcycle hdesired
        rw [isMotionCycle_job, Bool.and_eq_true, Bool.not_eq_true'] at hcycle
        obtain ⟨axis, haxis, hmotionAxis, rfl⟩ :=
          exists_of_getElem?_jobCycle hrun.sound.formed hcycle.1 hafter hmotion
        have hsame := sameDrive_inputAxis config.state index input axis
        have hinput := (hrun.sound.axes index axis haxis hmotionAxis).of_sameDrive hsame
        have hfree := hrun.free (not_required_of_motionCycle hcycle.2) axis haxis hmotionAxis
        have hsent := ((hfree.of_sameDrive hsame).sendData hinput
          (input.domain.wcState == .complete)).2
        rw [jobAxis_of_motionCycle hcycle.2] at hdesired ⊢
        exact hsent hdesired
  | _ => exact ⟨fun h => absurd h (by simp [isSafeCycle, machine]),
      fun h => absurd h (by simp [isMotionCycle, machine])⟩

theorem ResetRun.advance {index : Nat} {config : BackendConfig} {action : BackendAction}
    (hrun : ResetRun index config) (hleaves : leavesNoReset index config action = true) :
    ResetRun index (machine.advance config action) where
  sound := hrun.sound.next action
  window := windowHolds_next hrun.sound hrun.window hleaves
  free := hrun.free_next hleaves
  written := hrun.written_next

/-- In every run whose episodes leave no part of a reset behind, no fault reset word is written
without a live request. -/
theorem noImplicitFaultReset_of_leavesNoReset (index : Nat) (actions : List BackendAction)
    (hleaves : machine.Meets (fun config action => leavesNoReset index config action = true)
      (Config.start {}) actions) :
    NoImplicitFaultReset index (machine.exec (Config.start {}) actions) := by
  have hstart : ResetRun index (Config.start {}) := by
    refine ⟨sound_default, windowHolds_of_closed rfl, fun _ _ haxis => absurd haxis (by simp), ?_⟩
    exact fun _ _ _ hhistory => absurd hhistory (by simp)
  have hrun := machine.exec_invariant_of_meets
    (fun config action hrun hkept => ResetRun.advance hrun hkept) hstart hleaves
  exact hrun.written

/-- A fault reset is requested, one safe cycle of its window runs and safe-output is released: the
next cycle writes the reset word to an axis that is not to be enabled. -/
def releaseInsideWindow : List BackendAction :=
  dwelledStart ++ [.requestFaultReset 0 true true, healthyJob 0, .releaseSafeOutput, healthyJob 0]

theorem not_noImplicitFaultReset :
    ¬ ∀ actions index, NoImplicitFaultReset index (machine.exec (Config.start {}) actions) := by
  intro hall
  have hwritten := hall releaseInsideWindow 0 _ _ _ rfl rfl (by decide +kernel)
  have hclean := hwritten.2 (by decide +kernel) (by decide +kernel)
  exact absurd hclean (by decide +kernel)

/-- The same request with its whole window and one more safe cycle before the release. -/
theorem noImplicitFaultReset_after_window :
    NoImplicitFaultReset 0 (machine.exec (Config.start {})
      (dwelledStart ++ (.requestFaultReset 0 true true :: List.replicate 21 (healthyJob 0)) ++
        [.releaseSafeOutput, healthyJob 0, .requestSafeOutput, healthyJob 0])) :=
  noImplicitFaultReset_of_leavesNoReset 0 _ (by decide +kernel)

end Backend

end IghMaster
