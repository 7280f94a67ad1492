import IghMaster.MasterHistory
import IghMaster.Proof.BackendLatches

/-!
# What a master does to its backend

`MasterEffect` lists what an action of the master does to the servo and the runtime under it: some
quiet actions, which leave the latches alone, and at most one that does not. What every backend
action preserves is carried along from there, and the authority to move is read off a start.
-/

namespace IghMaster

open Transition

/-- The action leaves the latches of the runtime alone, except that it may stop the Job. -/
def BackendAction.isQuiet : BackendAction → Bool
  | .call _ => true
  | .setOperational => true
  | .deactivate => true
  | .requestFaultReset _ _ _ => true
  | .initializeServo _ _ motors => motors.length ≤ 8
  | _ => false

/-- A map hands at most eight slaves over. -/
def BackendAction.isBounded : BackendAction → Bool
  | .initializeServo _ _ motors => motors.length ≤ 8
  | _ => true

theorem BackendAction.isBounded_of_isQuiet {action : BackendAction}
    (hquiet : action.isQuiet = true) : action.isBounded = true := by
  cases action with
  | initializeServo bus config motors => exact hquiet
  | _ => rfl

namespace Backend

/-- Some quiet actions lead from the one backend to the other. -/
def Quietly (backend after : Backend) : Prop :=
  machine.Leads (fun action => action.isQuiet = true) backend after

theorem Quietly.refl (backend : Backend) : backend.Quietly backend := Machine.Leads.refl backend

theorem Quietly.next {backend after : Backend} (hquiet : backend.Quietly after)
    {action : BackendAction} (hallowed : action.isQuiet = true) :
    backend.Quietly (next after action) :=
  Machine.Leads.next hquiet hallowed

theorem Quietly.perform {backend after : Backend} (hquiet : backend.Quietly after)
    (call : ServoCall) : backend.Quietly (after.perform call) :=
  have hallowed : (BackendAction.call call).isQuiet = true := rfl
  hquiet.next hallowed

theorem Quietly.deactivate {backend after : Backend} (hquiet : backend.Quietly after) :
    backend.Quietly after.deactivate :=
  have hallowed : BackendAction.deactivate.isQuiet = true := rfl
  hquiet.next hallowed

theorem Quietly.requestFaultReset {backend after : Backend} (hquiet : backend.Quietly after)
    (motorId : UInt8) (allowWithoutFault slavesInOp : Bool) :
    backend.Quietly (after.requestFaultReset motorId allowWithoutFault slavesInOp).1 :=
  have hallowed :
    (BackendAction.requestFaultReset motorId allowWithoutFault slavesInOp).isQuiet = true := rfl
  hquiet.next hallowed

theorem Quietly.ite {backend first second : Backend} (condition : Prop) [Decidable condition]
    (hfirst : backend.Quietly first) (hsecond : backend.Quietly second) :
    backend.Quietly (if condition then first else second) := by
  split
  · exact hfirst
  · exact hsecond

theorem quietly_disableAxes (count : Nat) (backend : Backend) :
    backend.Quietly (backend.disableAxes count) := by
  unfold disableAxes
  induction List.range count using List.reverseRecOn with
  | nil => exact Quietly.refl backend
  | append_singleton indices index ih =>
      rw [List.foldl_append]
      exact ih.perform _

theorem Quietly.performSome {backend after : Backend} (hquiet : backend.Quietly after)
    {Value : Type} (value : Option Value) (call : Value → ServoCall) :
    backend.Quietly (after.performSome value call) := by
  cases value with
  | none => exact hquiet
  | some value => exact hquiet.perform (call value)

/-- A command comes to at most five calls to the servo. -/
theorem Quietly.commandAxis {backend after : Backend} (hquiet : backend.Quietly after)
    (index : Nat) (command : AxisCommand) : backend.Quietly (after.commandAxis index command) := by
  have hmoded := Quietly.ite (command.operationMode != 0)
    (hquiet.perform (.setOperationMode index.toUInt8 ⟨command.operationMode⟩)) hquiet
  have henabled := hmoded.perform (.setEnable index.toUInt8 command.enable)
  have hpositioned := henabled.performSome command.position fun position =>
    .setTargetPosition index.toUInt8 position true
  have hmoving := hpositioned.performSome command.velocity fun velocity =>
    .setTargetVelocity index.toUInt8 velocity true .external command.velocityNs
  exact Quietly.ite _ (hmoving.performSome command.effort _) hmoving

theorem quietly_commandAxes (commands : List AxisCommand) (backend : Backend) :
    backend.Quietly (backend.commandAxes commands) := by
  unfold commandAxes
  induction commands.zipIdx using List.reverseRecOn with
  | nil => exact Quietly.refl backend
  | append_singleton entries entry ih =>
      rw [List.foldl_append]
      exact ih.commandAxis entry.2 entry.1

end Backend

/-! ### The size of a map -/

/-- A map that passes its checks has at most seven axes, and its slaves are force sensors. -/
theorem length_motors_le {axes slaves : List AxisConfig} (haxes : validateAxisConfigs axes = .none)
    (hslaves : validateBusSlaves slaves = true)
    (hsensors : ((axes ++ slaves).map AxisConfig.toMotorConfig).countP MotorConfig.isSriM8126 ≤ 1) :
    ((axes ++ slaves).map AxisConfig.toMotorConfig).length ≤ 8 := by
  have hcount : axes.length ≤ 7 := by
    by_contra hmany
    rw [validateAxisConfigs, if_pos (by omega)] at haxes
    exact absurd haxes (by decide)
  have hall : ∀ slave ∈ slaves, slave.toMotorConfig.isSriM8126 = true := by
    intro slave hmem
    have hslave := List.all_eq_true.mp hslaves slave hmem
    rw [Bool.and_eq_true] at hslave
    exact hslave.2
  have hsri : (slaves.map AxisConfig.toMotorConfig).countP MotorConfig.isSriM8126 =
      slaves.length := by
    rw [List.countP_map]
    exact List.countP_eq_length.mpr hall
  rw [List.map_append, List.countP_append, hsri] at hsensors
  rw [List.length_map, List.length_append]
  omega

namespace Master

variable {master : Master} {action : MasterAction}

/-- No Job cycle, no reset, no request for safe-output and no start but a refused one. -/
def isEventless (visit : MasterVisit) : Bool :=
  !isJobCycle visit && !isSafetyReset visit && !isSafeOutputRequest visit && !isMappedStart visit

/-- What the action does to the backend. -/
inductive MasterEffect (master : Master) (action : MasterAction) : Backend → Prop
  | quiet {after : Backend} (hquiet : master.backend.Quietly after)
      (heventless : isEventless (machine.visit master action) = true) :
      MasterEffect master action after
  | started (input : StartInput) (haction : action = .call (.start input))
      (hidle : master.starting = none) (hmapped : master.mapped = true) :
      MasterEffect master action (master.backend.bringUp (input.bringUpInput master.policy)).1
  | safetyReset {called : Backend} (hquiet : master.backend.Quietly called)
      (hreset : isSafetyReset (machine.visit master action) = true) :
      MasterEffect master action called.clearCommFault
  | safeOutputRequested (haction : action = .call .requestSafeOutput)
      (hidle : master.starting = none) :
      MasterEffect master action master.backend.requestSafeOutput
  | released (haction : action = .call .releaseSafeOutput) (hidle : master.starting = none)
      (hauthorized : master.motionCommandsAuthorized = true) :
      MasterEffect master action master.backend.releaseSafeOutput.1
  | cycled (input : JobInput) (haction : action = .job input) :
      MasterEffect master action (master.backend.jobCycle input)

theorem effect_startStep {phase : StartPhase} (hphase : master.starting = some phase)
    (observed : StartObservation) :
    MasterEffect master (.continueStart observed) (master.startStep phase observed).1.backend := by
  have hcalm : ∀ {after : Backend}, master.backend.Quietly after → phase ≠ .clearLatch →
      phase ≠ .resetAgain → MasterEffect master (.continueStart observed) after := by
    intro after hquiet hclear hagain
    refine .quiet hquiet ?_
    have hreset : isSafetyReset (machine.visit master (.continueStart observed)) = false := by
      change (master.starting == some .clearLatch || master.starting == some .resetAgain) = false
      simp [hphase, hclear, hagain]
    change (!false && !isSafetyReset (machine.visit master (.continueStart observed)) && !false &&
      !false) = true
    rw [hreset]
    rfl
  have hsame := Backend.Quietly.refl master.backend
  unfold startStep
  cases phase with
  | awaitOp =>
      dsimp only
      split
      · exact hcalm hsame (by simp) (by simp)
      · exact hcalm hsame.deactivate (by simp) (by simp)
  | clearLatch =>
      refine .safetyReset hsame ?_
      change (master.starting == some .clearLatch || master.starting == some .resetAgain) = true
      simp [hphase]
  | readErrors =>
      dsimp only
      split <;> exact hcalm hsame (by simp) (by simp)
  | resetFaults faultAxes first =>
      have hrequested := hsame.requestFaultReset 0xFF true observed.slavesInOp
      dsimp only
      split
      · exact hcalm hrequested (by simp) (by simp)
      · exact hcalm hrequested.deactivate (by simp) (by simp)
  | recheckErrors faultAxes first =>
      dsimp only
      split
      · exact hcalm hsame (by simp) (by simp)
      · exact hcalm hsame.deactivate (by simp) (by simp)
  | setOperational =>
      have hallowed : BackendAction.setOperational.isQuiet = true := rfl
      exact hcalm (hsame.next hallowed) (by simp) (by simp)
  | resetAgain =>
      refine .safetyReset hsame ?_
      change (master.starting == some .clearLatch || master.starting == some .resetAgain) = true
      simp [hphase]
  | enterPosition axis =>
      dsimp only
      split
      · exact hcalm (hsame.perform _) (by simp) (by simp)
      · exact hcalm hsame (by simp) (by simp)

theorem quietly_mapJoints (bus : BusSetup) (config : IghMasterConfig) (axes slaves : List AxisConfig)
    (master : Master) :
    master.backend.Quietly (master.mapJoints bus config axes slaves).1.backend := by
  have hsame := Backend.Quietly.refl master.backend
  unfold mapJoints
  dsimp only
  split
  · exact hsame
  · rename_i hvalidation
    split
    · exact hsame
    · rename_i hslaves
      split
      · exact hsame
      · split
        · exact hsame
        · rename_i hsensors
          have hcount : BackendAction.isQuiet (.initializeServo bus config
              ((axes ++ slaves).map AxisConfig.toMotorConfig)) = true := by
            have hlength := length_motors_le (not_not.mp hvalidation) (by simpa using hslaves)
              (not_lt.mp hsensors)
            exact decide_eq_true hlength
          have hprepared := hsame.next hcount
          split <;> exact hprepared

theorem next_call (hidle : master.starting = none) (call : MasterCall) :
    master.next (.call call) = master.perform call := by
  change (if master.starting.isSome then master else master.perform call) = _
  rw [hidle]
  rfl

theorem next_call_of_starting {phase : StartPhase} (hstarting : master.starting = some phase)
    (call : MasterCall) : master.next (.call call) = master := by
  change (if master.starting.isSome then master else master.perform call) = _
  rw [hstarting]
  rfl

theorem taken_call (hidle : master.starting = none) (call : MasterCall) :
    taken (machine.visit master (.call call)) = some call := by
  change (if master.starting.isSome then none else some call) = _
  rw [hidle]
  rfl

/-- Only a start, a safety reset and a request for safe-output make an event of a call. -/
theorem isEventless_call (hidle : master.starting = none) (call : MasterCall) :
    isEventless (machine.visit master (.call call)) =
      match call with
      | .start _ => !master.mapped
      | .requestSafetyReset => false
      | .requestSafeOutput => false
      | _ => true := by
  have htaken := taken_call hidle call
  cases call <;>
    simp [isEventless, isJobCycle, isSafetyReset, isSafeOutputRequest, isMappedStart, htaken]

theorem backend_start_of_mapped (input : StartInput) (hmapped : master.mapped = true) :
    (master.start input).1.backend =
      (master.backend.bringUp (input.bringUpInput master.policy)).1 := by
  unfold start
  rw [hmapped, if_neg (by simp)]
  dsimp only
  split <;> rfl

theorem start_of_not_mapped (input : StartInput) (hmapped : master.mapped = false) :
    master.start input = (master, .failed .notMapped) := by
  rw [start, hmapped, if_pos (by rfl)]

theorem quietly_cycle (commands : Option (List AxisCommand)) (stateCount : Option Nat)
    (master : Master) : master.backend.Quietly (master.cycle commands stateCount).1.backend := by
  have hsame := Backend.Quietly.refl master.backend
  unfold cycle
  split
  · exact hsame
  · split
    · exact hsame
    · split_ifs
      · exact hsame
      · exact hsame
      · exact hsame
      · exact Backend.quietly_commandAxes _ master.backend
      · exact hsame

theorem effect_perform (hidle : master.starting = none) (call : MasterCall) :
    MasterEffect master (.call call) (master.perform call).backend := by
  have hsame := Backend.Quietly.refl master.backend
  have heventless := isEventless_call hidle call
  cases call with
  | init => exact .quiet hsame heventless
  | mapJoints bus config axes slaves =>
      exact .quiet (quietly_mapJoints bus config axes slaves master) heventless
  | start input =>
      change MasterEffect master _ (master.start input).1.backend
      cases hmapped : master.mapped with
      | true =>
          rw [backend_start_of_mapped input hmapped]
          exact .started input rfl hidle hmapped
      | false =>
          have hrefused := start_of_not_mapped input hmapped
          rw [hrefused]
          refine .quiet hsame (heventless.trans ?_)
          rw [hmapped]
          rfl
  | cycle commands stateCount =>
      exact .quiet (quietly_cycle commands stateCount master) heventless
  | requestSafetyReset =>
      refine .safetyReset (Backend.quietly_disableAxes master.axisCount master.backend) ?_
      simp [isSafetyReset, taken_call hidle]
  | requestFaultReset axisId slavesInOp =>
      refine .quiet ?_ heventless
      change master.backend.Quietly (master.requestFaultReset axisId slavesInOp).1.backend
      unfold requestFaultReset
      split
      · exact hsame.requestFaultReset axisId false slavesInOp
      · exact hsame
  | requestSafeOutput => exact .safeOutputRequested rfl hidle
  | releaseSafeOutput =>
      change MasterEffect master _ master.releaseSafeOutput.1.backend
      cases hauthorized : master.motionCommandsAuthorized with
      | true =>
          rw [releaseSafeOutput, hauthorized, if_neg (by simp)]
          exact .released rfl hidle hauthorized
      | false =>
          rw [releaseSafeOutput, hauthorized, if_pos (by rfl)]
          exact .quiet hsame heventless
  | applyCommandContentionFallback => exact .quiet (hsame.perform _) heventless
  | shutdown => exact .quiet hsame.deactivate heventless

theorem effect_next (master : Master) (action : MasterAction) :
    MasterEffect master action (master.next action).backend := by
  have hsame := Backend.Quietly.refl master.backend
  cases action with
  | call call =>
      cases hstarting : master.starting with
      | none =>
          rw [next_call hstarting]
          exact effect_perform hstarting call
      | some phase =>
          -- a call waits for the start to return
          rw [next_call_of_starting hstarting]
          refine .quiet hsame ?_
          have htaken : taken (machine.visit master (.call call)) = none := by
            change (if master.starting.isSome then none else some call) = _
            rw [hstarting]
            rfl
          simp [isEventless, isJobCycle, isSafetyReset, isSafeOutputRequest, isMappedStart, htaken]
  | continueStart observed =>
      change MasterEffect master _ (master.continueStart observed).1.backend
      unfold continueStart
      cases hstarting : master.starting with
      | none =>
          refine .quiet hsame ?_
          simp [isEventless, isJobCycle, isSafetyReset, isSafeOutputRequest, isMappedStart, taken,
            hstarting]
      | some phase => exact effect_startStep hstarting observed
  | job input => exact .cycled input rfl

/-! ### What every backend action preserves -/

theorem MasterEffect.invariant {after : Backend} (heffect : MasterEffect master action after)
    {invariant : Backend → Prop}
    (hstep : ∀ backend action, BackendAction.isBounded action = true → invariant backend →
      invariant (Backend.next backend action))
    (hstart : invariant master.backend) : invariant after := by
  have hquietly : ∀ {called}, master.backend.Quietly called → invariant called := fun hquiet =>
    hquiet.invariant
      (fun backend action hallowed =>
        hstep backend action (BackendAction.isBounded_of_isQuiet hallowed)) hstart
  cases heffect with
  | quiet hquiet heventless => exact hquietly hquiet
  | started input haction hidle hmapped => exact hstep _ (.bringUp _) rfl hstart
  | safetyReset hquiet hreset => exact hstep _ .clearCommFault rfl (hquietly hquiet)
  | safeOutputRequested haction hidle => exact hstep _ .requestSafeOutput rfl hstart
  | released haction hidle hauthorized => exact hstep _ .releaseSafeOutput rfl hstart
  | cycled input haction => exact hstep _ (.job input) rfl hstart

end Master

namespace RuntimeLatches

/-- A latched fault keeps safe-output required. -/
def FaultSafe (latches : RuntimeLatches) : Prop :=
  latches.commFault = true → latches.safeOutputRequired = true

variable {latches after : RuntimeLatches}

theorem FaultSafe.consume (hsafe : latches.FaultSafe) : latches.consume.FaultSafe := by
  unfold RuntimeLatches.consume
  split <;> exact hsafe

theorem FaultSafe.monitored (hsafe : latches.FaultSafe) (hmonitored : Monitored latches after) :
    after.FaultSafe := by
  rcases hmonitored with rfl | rfl
  · exact hsafe
  · exact fun _ => rfl

theorem FaultSafe.dwell (hsafe : latches.FaultSafe) (healthy : Bool) :
    (latches.dwell healthy).FaultSafe := hsafe

end RuntimeLatches

namespace Backend

theorem axes_next {backend : Backend} (hformed : backend.Formed) {action : BackendAction}
    (hother : ∀ bus config motors, action ≠ .initializeServo bus config motors) :
    (next backend action).servo.axes =
      backend.servo.axes.mapIdx fun index => backend.axisNext index action := by
  apply List.ext_getElem?
  intro index
  rw [getElem?_next hformed index hother, List.getElem?_mapIdx]

theorem length_axes_next {backend : Backend} (hformed : backend.Formed) {action : BackendAction}
    (hbounded : action.isBounded = true) (hlength : backend.servo.axes.length ≤ 8) :
    (next backend action).servo.axes.length ≤ 8 := by
  by_cases hother : ∃ bus config motors, action = .initializeServo bus config motors
  · obtain ⟨bus, config, motors, rfl⟩ := hother
    have hmotors : motors.length ≤ 8 := of_decide_eq_true hbounded
    rcases Servo.initializeServo_axes bus config.busCycleUs config.cmdWatchdogMs
      config.csvCmdWatchdog motors backend.servo with hkept | ⟨-, hinitial⟩
    · exact (congrArg List.length hkept).trans_le hlength
    · exact (Servo.length_initialAxes hinitial).trans_le hmotors
  · rw [axes_next hformed fun bus config motors h => hother ⟨bus, config, motors, h⟩,
      List.length_mapIdx]
    exact hlength

theorem faultSafe_bringUp {backend : Backend} (hsafe : backend.runtime.latches.FaultSafe)
    (input : BringUpInput) : (backend.bringUp input).1.runtime.latches.FaultSafe := by
  cases hactivated : (backend.activatedServo input).2 with
  | true => exact fun _ => safeOutputRequired_bringUp (Or.inl hactivated)
  | false =>
      rw [bringUp_of_not_activated hactivated]
      exact hsafe

theorem faultSafe_jobCycle {backend : Backend} (hformed : backend.Formed)
    (hsafe : backend.runtime.latches.FaultSafe) (input : JobInput) :
    (backend.jobCycle input).runtime.latches.FaultSafe := by
  by_cases hrunning : backend.runtime.jobRunning = true
  · have hconsumed : backend.runtime.consumePendingDwellFault.latches.FaultSafe := by
      rw [IghMasterRuntime.latches_consumePendingDwellFault]
      exact hsafe.consume
    have hbefore : (backend.beforeOutputs input).runtime.latches.FaultSafe :=
      hconsumed.monitored (IghMasterRuntime.monitored_latchIf _ _)
    rw [runtime_jobCycle hformed input hrunning, IghMasterRuntime.latches_finishJobCycle]
    exact (hbefore.monitored (IghMasterRuntime.monitored_monitorCycle _ _ _)).dwell _
  · rw [jobCycle_of_not_running input (by simpa using hrunning)]
    exact hsafe

theorem faultSafe_next {backend : Backend} (hformed : backend.Formed)
    (hsafe : backend.runtime.latches.FaultSafe) (action : BackendAction) :
    (next backend action).runtime.latches.FaultSafe := by
  cases action with
  | initializeServo bus config motors => exact hsafe
  | bringUp input => exact faultSafe_bringUp hsafe input
  | setOperational => exact hsafe
  | deactivate => exact hsafe
  | call call => exact hsafe
  | requestFaultReset motorId allowWithoutFault slavesInOp => exact hsafe
  | clearCommFault => exact fun _ => rfl
  | requestSafeOutput => exact fun _ => IghMasterRuntime.safeOutputRequired_requestSafeOutput _
  | releaseSafeOutput =>
      rw [next_releaseSafeOutput]
      split
      · rename_i hrelease
        intro hfault
        have hclear : backend.runtime.commFault = false := by
          simp only [canRelease, IghMasterRuntime.releaseAllowed, Bool.and_eq_true,
            Bool.not_eq_true'] at hrelease
          exact hrelease.2.1
        exact absurd (hclear.symm.trans hfault) (by simp)
      · exact hsafe
  | job input => exact faultSafe_jobCycle hformed hsafe input

end Backend

namespace Master

/-- A master of some run. -/
structure Sound (master : Master) : Prop where
  backend : master.backend.Sound
  faultSafe : master.backend.runtime.latches.FaultSafe
  length_axes_le : master.backend.servo.axes.length ≤ 8
  authorized : master.motionCommandsAuthorized = true →
    master.policy = .supervisedMotion ∧ master.startupEvidencePassed = true

theorem sound_start (policy : MotionPolicy) : Sound { policy := policy } where
  backend := Backend.sound_default
  faultSafe := fun h => absurd h (by simp [IghMasterRuntime.latches])
  length_axes_le := Nat.zero_le 8
  authorized := fun h => absurd h (by simp)

def authority (master : Master) : MotionPolicy × Bool × Bool :=
  (master.policy, master.startupEvidencePassed, master.motionCommandsAuthorized)

theorem authority_mapJoints (bus : BusSetup) (config : IghMasterConfig)
    (axes slaves : List AxisConfig) (master : Master) :
    (master.mapJoints bus config axes slaves).1.authority = master.authority := by
  unfold mapJoints
  dsimp only
  split_ifs <;> rfl

/-- What only a start or a map writes: the authority to move, and what the master tells of its map. -/
def settings (master : Master) :
    (MotionPolicy × Bool × Bool) × List AxisConfig × List String × Option Nat :=
  (master.authority, master.axes, master.jointNames, master.forceSensorSlaveIndex)

theorem settings_cycle (commands : Option (List AxisCommand)) (stateCount : Option Nat)
    (master : Master) : (master.cycle commands stateCount).1.settings = master.settings := by
  unfold cycle
  split
  · rfl
  · split
    · rfl
    · split_ifs <;> rfl

theorem settings_startStep (phase : StartPhase) (observed : StartObservation) (master : Master) :
    (master.startStep phase observed).1.settings = master.settings := by
  unfold startStep
  cases phase <;> dsimp only
  case awaitOp => split <;> rfl
  case readErrors => split <;> rfl
  case resetFaults faultAxes first => split <;> rfl
  case recheckErrors faultAxes first => split <;> rfl
  case enterPosition axis => split <;> rfl
  all_goals rfl

theorem settings_next (master : Master) {action : MasterAction}
    (hstart : ∀ input, action ≠ .call (.start input))
    (hmap : ∀ bus config axes slaves, action ≠ .call (.mapJoints bus config axes slaves)) :
    (master.next action).settings = master.settings := by
  cases action with
  | call call =>
      cases hstarting : master.starting with
      | some phase => rw [next_call_of_starting hstarting]
      | none =>
          rw [next_call hstarting]
          cases call with
          | mapJoints bus config axes slaves => exact absurd rfl (hmap bus config axes slaves)
          | start input => exact absurd rfl (hstart input)
          | cycle commands stateCount => exact settings_cycle commands stateCount master
          | requestFaultReset axisId slavesInOp =>
              change (master.requestFaultReset axisId slavesInOp).1.settings = _
              unfold requestFaultReset
              split <;> rfl
          | releaseSafeOutput =>
              change master.releaseSafeOutput.1.settings = _
              unfold releaseSafeOutput
              split <;> rfl
          | _ => rfl
  | continueStart observed =>
      change (master.continueStart observed).1.settings = _
      unfold continueStart
      split
      · rfl
      · exact settings_startStep _ observed master
  | job input => rfl

/-- A start derives the authority from the policy and the evidence, or leaves both as they were. -/
theorem authority_start (input : StartInput) (master : Master) :
    (master.start input).1.authority = master.authority ∨
      ∃ evidence, (master.start input).1.authority =
        (master.policy, evidence, motionPolicyAuthorizesCommands master.policy evidence) := by
  unfold start
  split
  · exact Or.inl rfl
  · dsimp only
    split
    · exact Or.inl rfl
    · exact Or.inr ⟨_, rfl⟩
    · exact Or.inr ⟨_, rfl⟩
    · exact Or.inr ⟨_, rfl⟩

theorem authority_next_of_not_start (master : Master) {action : MasterAction}
    (hother : ∀ input, action ≠ .call (.start input)) :
    (master.next action).authority = master.authority := by
  by_cases hmap : ∃ bus config axes slaves, action = .call (.mapJoints bus config axes slaves)
  · obtain ⟨bus, config, axes, slaves, rfl⟩ := hmap
    cases hstarting : master.starting with
    | some phase => rw [next_call_of_starting hstarting]
    | none =>
        rw [next_call hstarting]
        exact authority_mapJoints bus config axes slaves master
  · have hsettings := settings_next master hother fun bus config axes slaves h =>
      hmap ⟨bus, config, axes, slaves, h⟩
    exact congrArg Prod.fst hsettings

theorem authority_next (master : Master) (action : MasterAction) :
    (master.next action).authority = master.authority ∨
      ∃ evidence, (master.next action).authority =
        (master.policy, evidence, motionPolicyAuthorizesCommands master.policy evidence) := by
  by_cases hstart : ∃ input, action = .call (.start input)
  · obtain ⟨input, rfl⟩ := hstart
    cases hstarting : master.starting with
    | some phase => exact Or.inl (by rw [next_call_of_starting hstarting])
    | none =>
        rw [next_call hstarting]
        exact authority_start input master
  · exact Or.inl (authority_next_of_not_start master fun input h => hstart ⟨input, h⟩)

theorem Sound.next {master : Master} (hsound : master.Sound) (action : MasterAction) :
    (master.next action).Sound := by
  have heffect := effect_next master action
  have hstep : ∀ backend inner, BackendAction.isBounded inner = true →
      (backend.Sound ∧ backend.runtime.latches.FaultSafe ∧ backend.servo.axes.length ≤ 8) →
        (Backend.next backend inner).Sound ∧
          (Backend.next backend inner).runtime.latches.FaultSafe ∧
            (Backend.next backend inner).servo.axes.length ≤ 8 := by
    rintro backend inner hbounded ⟨hinner, hfault, hlength⟩
    exact ⟨hinner.next inner, Backend.faultSafe_next hinner.formed hfault inner,
      Backend.length_axes_next hinner.formed hbounded hlength⟩
  obtain ⟨hbackend, hfault, hlength⟩ :=
    heffect.invariant hstep ⟨hsound.backend, hsound.faultSafe, hsound.length_axes_le⟩
  refine ⟨hbackend, hfault, hlength, fun hauthorized => ?_⟩
  rcases authority_next master action with hkept | ⟨evidence, hgiven⟩
  · obtain ⟨hpolicy, hevidence, hbefore⟩ : (master.next action).policy = master.policy ∧
        (master.next action).startupEvidencePassed = master.startupEvidencePassed ∧
          (master.next action).motionCommandsAuthorized = master.motionCommandsAuthorized := by
      simpa [authority] using hkept
    rw [hpolicy, hevidence]
    exact hsound.authorized (hbefore.symm.trans hauthorized)
  · obtain ⟨hpolicy, hevidence, hgiven⟩ : (master.next action).policy = master.policy ∧
        (master.next action).startupEvidencePassed = evidence ∧
          (master.next action).motionCommandsAuthorized =
            motionPolicyAuthorizesCommands master.policy evidence := by
      simpa [authority] using hgiven
    have hboth := hgiven.symm.trans hauthorized
    rw [motionPolicyAuthorizesCommands, Bool.and_eq_true, beq_iff_eq] at hboth
    exact ⟨hpolicy.trans hboth.1, hevidence.trans hboth.2⟩

end Master

end IghMaster
