import IghMaster.Lib.Isolation
import IghMaster.Process
import IghMaster.Proof.BackendLatches
import IghMaster.Proof.MasterSteps

/-!
# Masters that share a process

A master depends on the others only through the shared variables, and of these only on its own part: the
parameters of its motors, the working-counter state while it has axes to send, and the reference clock. As
long as every call keeps that part, the run shows the master what its own calls alone would show it.
-/

namespace IghMaster

open Transition

namespace ReferenceClock

variable {clock : ReferenceClock}

/-- From `requiredSuccesses` on, the number of successes plays no part. -/
def capped (clock : ReferenceClock) : ReferenceClock :=
  { clock with consecutiveSuccesses := min requiredSuccesses clock.consecutiveSuccesses }

/-- An available clock is aligned and has had its successes. -/
def Settled (clock : ReferenceClock) : Prop :=
  clock.dcAvailable = true → clock.dcHighBitsAligned = true ∧ clock.consecutiveFailures = 0 ∧
    requiredSuccesses ≤ clock.consecutiveSuccesses

theorem capped_countRetry (clock : ReferenceClock) :
    clock.capped.countRetry = clock.countRetry.capped := by
  have havailable : clock.capped.dcAvailable = clock.dcAvailable := rfl
  have hbacks : clock.capped.backsOff = clock.backsOff := rfl
  unfold countRetry
  rw [havailable, hbacks]
  split_ifs <;> rfl

theorem capped_align (timeLow : UInt32) (systemTimeNs : UInt64) (clock : ReferenceClock) :
    clock.capped.align timeLow systemTimeNs = (clock.align timeLow systemTimeNs).capped := by
  unfold align
  split
  · rename_i haligned
    rw [if_pos (by exact haligned)]
  · rename_i haligned
    rw [if_neg (by exact haligned)]
    rfl

theorem capped_succeeded (clock : ReferenceClock) :
    clock.capped.succeeded.capped = clock.succeeded.capped := by
  have hrequired : requiredSuccesses ≤ min requiredSuccesses clock.consecutiveSuccesses + 1 ↔
      requiredSuccesses ≤ clock.consecutiveSuccesses + 1 := by
    unfold requiredSuccesses
    omega
  have hcount : min requiredSuccesses (min requiredSuccesses clock.consecutiveSuccesses + 1) =
      min requiredSuccesses (clock.consecutiveSuccesses + 1) := by
    unfold requiredSuccesses
    omega
  simp only [succeeded, capped, hrequired, hcount]

/-- A read looks at the successes through `requiredSuccesses` alone. -/
theorem capped_read (input : ClockRead) (clock : ReferenceClock) :
    (clock.capped.read input).1.capped = (clock.read input).1.capped ∧
      (clock.capped.read input).2 = (clock.read input).2 := by
  unfold read
  rw [capped_countRetry]
  by_cases hbacks : clock.backsOff = true
  · rw [if_pos hbacks, if_pos (by exact hbacks)]
    refine ⟨?_, rfl⟩
    simp [capped]
  · rw [if_neg hbacks, if_neg (by exact hbacks)]
    cases input.timeLow with
    | none => exact ⟨rfl, rfl⟩
    | some timeLow =>
        dsimp only
        rw [capped_align]
        exact ⟨capped_succeeded ((clock.countRetry.align timeLow input.systemTimeNs).extend timeLow),
          rfl⟩

theorem read_of_capped {clock alone : ReferenceClock} (hcapped : clock.capped = alone.capped)
    (input : ClockRead) :
    (clock.read input).1.capped = (alone.read input).1.capped ∧
      (clock.read input).2 = (alone.read input).2 := by
  obtain ⟨hclock, htime⟩ := capped_read input clock
  obtain ⟨hclock', htime'⟩ := capped_read input alone
  rw [hcapped] at hclock htime
  exact ⟨hclock.symm.trans hclock', htime.symm.trans htime'⟩

theorem Settled.read (hsettled : clock.Settled) (input : ClockRead) :
    (clock.read input).1.Settled := by
  have hretried : clock.countRetry.Settled := by
    unfold countRetry
    split
    · exact hsettled
    · rename_i havailable
      split <;> exact fun h => absurd h havailable
  unfold ReferenceClock.read
  split
  · exact hretried
  · split
    · exact fun h => absurd h (by simp [failed])
    · rename_i timeLow _
      intro havailable
      have hsuccesses : requiredSuccesses ≤
          ((clock.countRetry.align timeLow input.systemTimeNs).extend
            timeLow).consecutiveSuccesses + 1 := of_decide_eq_true havailable
      refine ⟨?_, rfl, hsuccesses⟩
      change (clock.countRetry.align timeLow input.systemTimeNs).dcHighBitsAligned = true
      unfold align
      split
      · assumption
      · rfl

theorem settled_alignTimeBase (hsettled : clock.Settled) (systemTimeNs : UInt64) :
    (clock.alignTimeBase systemTimeNs).Settled :=
  fun havailable => ⟨rfl, (hsettled havailable).2⟩

/-- A read that answers what the last one did leaves an available clock as it is. -/
theorem Settled.capped_reread (hsettled : clock.Settled) {input : ClockRead}
    (hreread : Process.rereadsClock input clock = true) :
    (clock.read input).1.capped = clock.capped := by
  rw [Process.rereadsClock, Bool.and_eq_true, beq_iff_eq] at hreread
  obtain ⟨havailable, hsame⟩ := hreread
  obtain ⟨haligned, hfailures, hsuccesses⟩ := hsettled havailable
  have hrequired : requiredSuccesses ≤ clock.consecutiveSuccesses + 1 :=
    hsuccesses.trans (Nat.le_succ _)
  have hextended : (clock.align clock.lastTimeLow input.systemTimeNs).extend clock.lastTimeLow =
      clock := by
    rw [align, if_pos haligned, extend, if_neg (by simp)]
  unfold ReferenceClock.read
  rw [backsOff, havailable, Bool.not_true, Bool.false_and, if_neg (by simp), hsame]
  dsimp only
  rw [countRetry, if_pos havailable, hextended]
  simp [succeeded, capped, hrequired, hsuccesses, hfailures, havailable]

end ReferenceClock

/-! ### The shape of a servo -/

namespace Backend

/-- The servo has as many axes as before, is initialised if it was, and is formed. -/
structure SameShape (backend after : Backend) : Prop where
  formed : after.Formed
  initialized : after.servo.initialized = backend.servo.initialized
  length : after.servo.axes.length = backend.servo.axes.length

variable {backend : Backend}

theorem SameShape.refl (hformed : backend.Formed) : SameShape backend backend := ⟨hformed, rfl, rfl⟩

theorem sameShape_next (hformed : backend.Formed) {action : BackendAction}
    (hother : ∀ bus config motors, action ≠ .initializeServo bus config motors) :
    SameShape backend (next backend action) := by
  have hkept : configuration (next backend action).servo = configuration backend.servo :=
    configuration_next hformed fun bus config motors h => absurd h (hother bus config motors)
  have hinitialized := congrArg Servo.initialized hkept
  refine ⟨formed_next hformed action, hinitialized, ?_⟩
  rw [axes_next hformed hother, List.length_mapIdx]

theorem length_beforeOutputs (hready : backend.servo.ready = true) (input : JobInput) :
    (backend.beforeOutputs input).servo.axes.length = backend.servo.axes.length := by
  have haxes : (backend.beforeOutputs input).servo.axes = backend.servo.axes.mapIdx
      fun index axis => if axis.isMotion then backend.inputAxis index input axis else axis := by
    apply List.ext_getElem?
    intro index
    rw [getElem?_beforeOutputs hready input index, List.getElem?_mapIdx]
  rw [haxes, List.length_mapIdx]

theorem sameShape_beforeOutputs (hformed : backend.Formed) (hready : backend.servo.ready = true)
    (input : JobInput) : SameShape backend (backend.beforeOutputs input) := by
  have hbare := bare_beforeOutputs input backend
  refine ⟨?_, Servo.field_of_bare Servo.initialized (fun _ => rfl) hbare,
    length_beforeOutputs hready input⟩
  exact hformed.of_bare hbare (Servo.axes_eq_nil_of_map (getElem?_beforeOutputs hready input))
    (jobRunning_beforeOutputs input backend)

end Backend

namespace Party

variable {party : Party} {globals : ProcessGlobals}

theorem act_of_sending (action : BackendAction) (globals : ProcessGlobals)
    (hsending : party.sending.isSome = true) : party.act action globals = (party, globals) := by
  unfold act
  rw [if_pos hsending]

theorem act_job (input : JobInput) (globals : ProcessGlobals) (hidle : party.sending.isSome = false) :
    party.act (.job input) globals = party.beginJob input globals := by
  unfold act
  rw [if_neg (by simp [hidle])]

theorem act_initializeServo (bus : BusSetup) (config : IghMasterConfig) (motors : List MotorConfig)
    (globals : ProcessGlobals) (hidle : party.sending.isSome = false) :
    party.act (.initializeServo bus config motors) globals =
      party.initializeServo bus config motors globals := by
  unfold act
  rw [if_neg (by simp [hidle])]

theorem act_of_other {action : BackendAction} (globals : ProcessGlobals)
    (hidle : party.sending.isSome = false) (hjob : ∀ input, action ≠ .job input)
    (hother : ∀ bus config motors, action ≠ .initializeServo bus config motors) :
    party.act action globals = ({ party with backend := party.backend.next action }, globals) := by
  unfold act
  rw [if_neg (by simp [hidle])]
  cases action with
  | job input => exact absurd rfl (hjob input)
  | initializeServo bus config motors => exact absurd rfl (hother bus config motors)
  | _ => rfl

theorem sameShape_beginJob (hformed : party.backend.Formed) (input : JobInput)
    (globals : ProcessGlobals) :
    party.backend.SameShape (party.beginJob input globals).1.backend := by
  unfold beginJob
  split
  · rename_i hbegins
    simp only [beginsMotion, Bool.and_eq_true] at hbegins
    have hprepared := Backend.sameShape_beforeOutputs hformed hbegins.1.2 input
    exact ⟨⟨hprepared.formed.running_eq, hprepared.formed.initialized_of_activated,
      hprepared.formed.axes_eq_nil⟩, hprepared.initialized, hprepared.length⟩
  · exact Backend.sameShape_next hformed (by simp : ∀ bus config motors,
      BackendAction.job input ≠ .initializeServo bus config motors)

theorem sameShape_continueJob (hformed : party.backend.Formed) (globals : ProcessGlobals) :
    party.backend.SameShape (party.continueJob globals).1.backend := by
  unfold continueJob
  split
  · exact .refl hformed
  · exact .refl hformed
  · rename_i input index hsending
    split
    · refine ⟨⟨hformed.running_eq, hformed.initialized_of_activated, fun hfresh => ?_⟩, rfl, ?_⟩
      · change party.backend.servo.axes.modify index _ = []
        rw [hformed.axes_eq_nil hfresh, List.modify_nil]
      · change (party.backend.servo.axes.modify index _).length = _
        rw [List.length_modify]
    · refine ⟨⟨?_, hformed.initialized_of_activated, hformed.axes_eq_nil⟩, rfl, rfl⟩
      exact (IghMasterRuntime.jobRunning_finishJobCycle _ _ _).trans hformed.running_eq

end Party

/-! ### One cycle on its own -/

namespace Party

/-- The axes from the index on are sent. -/
def sendFrom (index : Nat) (wcState : WcState) (servo : Servo) : Servo :=
  { servo with
    axes := servo.axes.mapIdx fun other axis =>
      if index ≤ other && axis.isMotion then
        axis.sendData servo.activated (wcState == .complete)
      else axis }

theorem sendFrom_length {index : Nat} {servo : Servo} (hlast : servo.axes.length ≤ index)
    (wcState : WcState) : sendFrom index wcState servo = servo := by
  have haxes : (sendFrom index wcState servo).axes = servo.axes := by
    apply List.ext_getElem?
    intro other
    rw [sendFrom, List.getElem?_mapIdx]
    cases hother : servo.axes[other]? with
    | none => rfl
    | some axis =>
        have hbelow := (List.getElem?_eq_some_iff.mp hother).1
        have hbefore : ¬ index ≤ other := by omega
        simp [hbefore]
  exact congrArg (fun axes => { servo with axes := axes }) haxes

theorem sendFrom_zero {servo : Servo} (hready : servo.ready = true) (domain : DomainState) :
    sendFrom 0 domain.sendDataWcState servo = servo.sendData domain := by
  have hstate : (domain.sendDataWcState == .complete) = (domain.wcState == .complete) := by
    unfold DomainState.sendDataWcState
    split
    · rename_i hok
      rw [DomainState.rxOk, Bool.and_eq_true] at hok
      rw [hok.2]
      rfl
    · rfl
  have haxes : (sendFrom 0 domain.sendDataWcState servo).axes = (servo.sendData domain).axes := by
    apply List.ext_getElem?
    intro index
    rw [Servo.sendData, if_pos hready, sendFrom, Servo.updateMotion, List.getElem?_mapIdx,
      List.getElem?_map, hstate]
    simp
  rw [Servo.sendData, if_pos hready] at haxes ⊢
  exact congrArg (fun axes => { servo with axes := axes }) haxes

theorem sendFrom_sendAxis (index : Nat) (wcState : WcState) (servo : Servo) :
    sendFrom (index + 1) wcState (sendAxis index wcState servo) =
      sendFrom index wcState servo := by
  have haxes : (sendFrom (index + 1) wcState (sendAxis index wcState servo)).axes =
      (sendFrom index wcState servo).axes := by
    apply List.ext_getElem?
    intro other
    simp only [sendFrom, sendAxis, List.getElem?_mapIdx, List.getElem?_modify]
    cases servo.axes[other]? with
    | none => rfl
    | some axis =>
        by_cases hsame : index = other
        · subst hsame
          simp
        · have hiff : index + 1 ≤ other ↔ index ≤ other := by omega
          simp [hsame, hiff]
  exact congrArg (fun axes => { servo with axes := axes }) haxes

end Party

namespace Process

variable {own : MasterIndex} {process : Process} {input : JobInput}

theorem next_own (own : MasterIndex) (call : PartyCall) (process : Process) :
    (process.next (own, call)).party own = ((process.party own).step process.globals call).1 ∧
      (process.next (own, call)).globals = ((process.party own).step process.globals call).2 :=
  ⟨Function.update_self own _ _, rfl⟩

/-- The rest of the loop of `sendData`, and the end of the cycle. -/
theorem run_sendFrom (remaining index : Nat)
    (hsending : (process.party own).sending = some (input, .axis index))
    (hlength : index + remaining = (process.party own).backend.servo.axes.length) :
    (machine.run process (List.replicate (remaining + 1) (own, .continueJob))).party own =
      { backend := Backend.finishJobCycle input.timing input.domain.rxOk
          { (process.party own).backend with
            servo := Party.sendFrom index process.globals.sendDataWcState
              (process.party own).backend.servo }
        sending := none } := by
  obtain ⟨hparty, hglobals⟩ := next_own own .continueJob process
  rw [List.replicate_succ]
  change (machine.run (process.next (own, .continueJob)) _).party own = _
  induction remaining generalizing index process with
  | zero =>
      have hlast : ¬ index < (process.party own).backend.servo.axes.length := by omega
      rw [Party.step, Party.continueJob, hsending] at hparty
      dsimp only at hparty
      rw [if_neg hlast] at hparty
      rw [Party.sendFrom_length (by omega)]
      exact hparty
  | succ remaining ih =>
      have hin : index < (process.party own).backend.servo.axes.length := by omega
      rw [Party.step, Party.continueJob, hsending] at hparty hglobals
      dsimp only at hparty hglobals
      rw [if_pos hin] at hparty hglobals
      have hlength' : index + 1 + remaining =
          ((process.next (own, .continueJob)).party own).backend.servo.axes.length := by
        rw [hparty]
        change _ = ((process.party own).backend.servo.axes.modify index _).length
        rw [List.length_modify]
        omega
      obtain ⟨hparty', hglobals'⟩ := next_own own .continueJob (process.next (own, .continueJob))
      have hrest := ih (index + 1) (congrArg Party.sending hparty) hlength' hparty' hglobals'
      rw [List.replicate_succ]
      refine hrest.trans ?_
      rw [hparty, hglobals]
      dsimp only
      rw [Party.sendFrom_sendAxis]

/-- A motion cycle that no other master comes between is one Job cycle of the servo and its runtime. -/
theorem run_job (hbegins : (process.party own).beginsMotion input = true) :
    (machine.run process ((own, .act (.job input)) :: List.replicate
        ((process.party own).backend.servo.axes.length + 2) (own, .continueJob))).party own =
      { backend := (process.party own).backend.jobCycle input, sending := none } := by
  have hbegins' := hbegins
  simp only [Party.beginsMotion, Bool.and_eq_true, Bool.not_eq_true', Option.isNone_iff_eq_none]
    at hbegins'
  obtain ⟨⟨⟨hidle, hrunning⟩, hready⟩, hsafe⟩ := hbegins'
  generalize hparty : process.party own = party at *
  -- the cycle up to its first axis
  have hbegun : (process.next (own, .act (.job input))).party own =
      { backend :=
          { party.backend.beforeOutputs input with
            servo := { (party.backend.beforeOutputs input).servo with safeOutputActive := false } }
        sending := some (input, .evaluate) } := by
    rw [(next_own own _ process).1, hparty, Party.step, Party.act_job input _ (by simp [hidle]),
      Party.beginJob, if_pos hbegins]
  obtain ⟨hsent, hglobals⟩ :=
    next_own own .continueJob (process.next (own, .act (.job input)))
  rw [hbegun] at hsent hglobals
  have hlength := Backend.length_beforeOutputs hready input
  rw [List.replicate_succ]
  change (machine.run ((process.next (own, .act (.job input))).next (own, .continueJob)) _).party
    own = _
  rw [run_sendFrom (party.backend.servo.axes.length) 0 (congrArg Party.sending hsent) (by
    rw [hsent]
    exact (Nat.zero_add _).trans hlength.symm), hsent, hglobals]
  have hready' : ({ (party.backend.beforeOutputs input).servo with
      safeOutputActive := false } : Servo).ready = true :=
    (Servo.field_of_bare Servo.ready (fun _ => rfl)
      (Backend.bare_beforeOutputs input party.backend)).trans hready
  have hinitialized : party.backend.servo.initialized = true := by
    rw [Servo.ready, Bool.and_eq_true] at hready
    exact hready.1
  have hfree : (party.backend.beforeOutputs input).runtime.safeOutputRequired = false := hsafe
  rw [Backend.jobCycle, hrunning, hinitialized, if_neg (by simp), if_neg (by simp),
    Backend.exchangeOutputs, hfree, if_neg (by simp)]
  congr 2
  exact congrArg (fun servo => { party.backend.beforeOutputs input with servo := servo })
    (Party.sendFrom_zero hready' input.domain)

end Process

/-! ### What a master sees -/

/-- The part of the shared variables that the master depends on is the one it has alone. -/
structure Agree (party : Party) (globals alone : ProcessGlobals) : Prop where
  formed : party.backend.Formed
  stored : party.backend.servo.initialized = true → ∀ motorId < party.backend.servo.axes.length,
    MotorKinematics.get motorId globals.params = MotorKinematics.get motorId alone.params
  fresh : party.backend.servo.initialized = false → alone.params = [{}]
  wcState : Process.awaitsWcState party = true → globals.sendDataWcState = alone.sendDataWcState
  clock : globals.clock.capped = alone.clock.capped
  settled : globals.clock.Settled

namespace Agree

variable {party : Party} {globals alone : ProcessGlobals}

theorem of_sameShape (hagree : Agree party globals alone) (after : Party)
    (hshape : party.backend.SameShape after.backend) (state state' : WcState)
    (hwcState : Process.awaitsWcState after = true → state = state') :
    Agree after { globals with sendDataWcState := state }
      { alone with sendDataWcState := state' } where
  formed := hshape.formed
  stored := fun hinitialized motorId hmotor => by
    rw [hshape.initialized] at hinitialized
    rw [hshape.length] at hmotor
    exact hagree.stored hinitialized motorId hmotor
  fresh := fun hfresh => by
    rw [hshape.initialized] at hfresh
    exact hagree.fresh hfresh
  wcState := hwcState
  clock := hagree.clock
  settled := hagree.settled

theorem of_params (hagree : Agree party globals alone) (params : List MotorKinematicsParams)
    (hstored : party.backend.servo.initialized = true → ∀ motorId < party.backend.servo.axes.length,
      MotorKinematics.get motorId params = MotorKinematics.get motorId alone.params) :
    Agree party { globals with params := params } alone :=
  ⟨hagree.formed, hstored, hagree.fresh, hagree.wcState, hagree.clock, hagree.settled⟩

theorem of_clock (hagree : Agree party globals alone) {clock clock' : ReferenceClock}
    (hclock : clock.capped = clock'.capped) (hsettled : clock.Settled) :
    Agree party { globals with clock := clock } { alone with clock := clock' } :=
  ⟨hagree.formed, hagree.stored, hagree.fresh, hagree.wcState, hclock, hsettled⟩

theorem get_eq (hagree : Agree party globals alone) {motorId : Nat}
    (hmotor : motorId < party.backend.servo.axes.length) :
    MotorKinematics.get motorId globals.params = MotorKinematics.get motorId alone.params := by
  refine hagree.stored ?_ motorId hmotor
  rw [← Bool.not_eq_false]
  intro hfresh
  rw [hagree.formed.axes_eq_nil hfresh] at hmotor
  exact absurd hmotor (by simp)

end Agree

/-! ### A call of the master itself -/

/-- The call does the same to the master and shows it the same as it does alone. -/
structure SameStep (party : Party) (globals alone : ProcessGlobals) (call : PartyCall) : Prop where
  party_eq : (party.step globals call).1 = (party.step alone call).1
  agree : Agree (party.step globals call).1 (party.step globals call).2 (party.step alone call).2
  reads_eq : party.reads globals call = party.reads alone call

theorem SameStep.of_eq {party after : Party} {globals globals' alone alone' : ProcessGlobals}
    {call : PartyCall} (hstep : party.step globals call = (after, globals'))
    (halone : party.step alone call = (after, alone')) (hagree : Agree after globals' alone')
    (hreads : party.reads globals call = party.reads alone call) :
    SameStep party globals alone call := by
  refine ⟨?_, ?_, hreads⟩
  · rw [hstep, halone]
  · rw [hstep, halone]
    exact hagree

theorem awaitsWcState_of_idle {party : Party} (hidle : party.sending.isSome = false) :
    Process.awaitsWcState party = false := by
  unfold Process.awaitsWcState
  split
  · rename_i hsending
    exact absurd (hidle.symm.trans (congrArg Option.isSome hsending)) (by simp)
  · rfl

namespace Agree

variable {party : Party} {globals alone : ProcessGlobals}

theorem beginJob (hagree : Agree party globals alone) (hidle : party.sending.isSome = false)
    (input : JobInput) :
    (party.beginJob input globals).1 = (party.beginJob input alone).1 ∧
      Agree (party.beginJob input globals).1 (party.beginJob input globals).2
        (party.beginJob input alone).2 := by
  have hshape := Party.sameShape_beginJob hagree.formed input globals
  unfold Party.beginJob at hshape ⊢
  by_cases hbegins : party.beginsMotion input = true
  · rw [if_pos hbegins] at hshape
    rw [if_pos hbegins, if_pos hbegins]
    exact ⟨rfl, hagree.of_sameShape _ hshape .zero .zero fun _ => rfl⟩
  · rw [if_neg hbegins] at hshape
    rw [if_neg hbegins, if_neg hbegins]
    refine ⟨rfl, hagree.of_sameShape _ hshape _ _ fun hawaits => ?_⟩
    have hnone : Process.awaitsWcState { party with backend := party.backend.jobCycle input } =
        false := awaitsWcState_of_idle hidle
    exact absurd (hnone.symm.trans hawaits) (by simp)

theorem awaitsWcState_of_motion {party : Party} {input : JobInput} {index : Nat}
    (hsending : party.sending = some (input, .axis index))
    (hmotion : (party.backend.servo.axes[index]?.any Axis.isMotion) = true) :
    Process.awaitsWcState party = true := by
  obtain ⟨axis, haxis, hdrive⟩ : ∃ axis, party.backend.servo.axes[index]? = some axis ∧
      axis.isMotion = true := by
    simpa [Option.any_eq_true] using hmotion
  unfold Process.awaitsWcState
  rw [hsending, List.any_eq_true]
  refine ⟨axis, ?_, hdrive⟩
  apply List.mem_of_getElem? (i := 0)
  rw [List.getElem?_drop, Nat.add_zero, haxis]

/-- The own working-counter state is there as long as a motion axis is to be sent. -/
theorem sendAxis_eq (hagree : Agree party globals alone) {input : JobInput} {index : Nat}
    (hsending : party.sending = some (input, .axis index)) :
    Party.sendAxis index globals.sendDataWcState party.backend.servo =
      Party.sendAxis index alone.sendDataWcState party.backend.servo := by
  by_cases hmotion : (party.backend.servo.axes[index]?.any Axis.isMotion) = true
  · have hawaits := awaitsWcState_of_motion hsending hmotion
    rw [hagree.wcState hawaits]
  · -- the axis does not read the state
    unfold Party.sendAxis
    congr 1
    apply List.ext_getElem?
    intro other
    rw [List.getElem?_modify, List.getElem?_modify]
    split
    · rename_i hsame
      subst hsame
      cases haxis : party.backend.servo.axes[index]? with
      | none => rfl
      | some axis =>
          have hfixed : axis.isMotion = false := by simpa [haxis] using hmotion
          simp [hfixed]
    · rfl

theorem awaitsWcState_axis {party after : Party} {input : JobInput} {index : Nat}
    (hsending : party.sending = some (input, .axis index))
    (hafter : after.sending = some (input, .axis (index + 1)))
    (haxes : ∀ other, index < other →
      after.backend.servo.axes[other]? = party.backend.servo.axes[other]?)
    (hawaits : Process.awaitsWcState after = true) : Process.awaitsWcState party = true := by
  unfold Process.awaitsWcState at hawaits ⊢
  rw [hafter, List.any_eq_true] at hawaits
  rw [hsending, List.any_eq_true]
  obtain ⟨axis, hmem, hmotion⟩ := hawaits
  obtain ⟨later, hlater⟩ := List.mem_iff_getElem?.mp hmem
  refine ⟨axis, List.mem_iff_getElem?.mpr ⟨later + 1, ?_⟩, hmotion⟩
  rw [List.getElem?_drop] at hlater ⊢
  rw [← hlater, haxes _ (by omega)]
  congr 1
  omega

theorem continueJob (hagree : Agree party globals alone) :
    SameStep party globals alone .continueJob := by
  have hshape : party.backend.SameShape (party.step globals .continueJob).1.backend :=
    Party.sameShape_continueJob hagree.formed globals
  cases hsending : party.sending with
  | none =>
      have hstep : ∀ globals, party.step globals .continueJob = (party, globals) := by
        intro globals
        rw [Party.step, Party.continueJob, hsending]
      exact .of_eq (hstep globals) (hstep alone) hagree (by simp [Party.reads, hsending])
  | some sending =>
      obtain ⟨input, phase⟩ := sending
      cases phase with
      | evaluate =>
          have hstep : ∀ globals, party.step globals .continueJob =
              ({ party with sending := some (input, .axis 0) },
                { globals with sendDataWcState := input.domain.sendDataWcState }) := by
            intro globals
            rw [Party.step, Party.continueJob, hsending]
          refine .of_eq (hstep globals) (hstep alone) ?_ (by simp [Party.reads, hsending])
          exact hagree.of_sameShape { party with sending := some (input, .axis 0) }
            (.refl hagree.formed) _ _ fun _ => rfl
      | axis index =>
          have hreads : party.reads globals .continueJob = party.reads alone .continueJob := by
            unfold Party.reads
            rw [hsending]
            dsimp only
            split
            · rename_i hmotion
              rw [hagree.wcState (awaitsWcState_of_motion hsending hmotion)]
            · rfl
          by_cases hin : index < party.backend.servo.axes.length
          · have hstep : ∀ globals, party.step globals .continueJob =
                ({ backend :=
                     { party.backend with
                       servo := Party.sendAxis index globals.sendDataWcState party.backend.servo }
                   sending := some (input, .axis (index + 1)) }, globals) := by
              intro globals
              rw [Party.step, Party.continueJob, hsending]
              exact if_pos hin
            rw [hstep] at hshape
            have halone := hstep alone
            rw [← hagree.sendAxis_eq hsending] at halone
            refine .of_eq (hstep globals) halone ?_ hreads
            refine hagree.of_sameShape _ hshape _ _ fun hawaits => hagree.wcState ?_
            refine awaitsWcState_axis hsending rfl (fun other hlater => ?_) hawaits
            change (party.backend.servo.axes.modify index _)[other]? = _
            exact List.getElem?_modify_ne _ _ (Nat.ne_of_lt hlater)
          · have hstep : ∀ globals, party.step globals .continueJob =
                ({ backend := party.backend.finishJobCycle input.timing input.domain.rxOk
                   sending := none }, globals) := by
              intro globals
              rw [Party.step, Party.continueJob, hsending]
              exact if_neg hin
            rw [hstep] at hshape
            refine .of_eq (hstep globals) (hstep alone) ?_ hreads
            exact hagree.of_sameShape _ hshape _ _ fun hawaits => absurd hawaits (by
              simp [Process.awaitsWcState])

theorem act (hagree : Agree party globals alone) {action : BackendAction}
    (hother : ∀ bus config motors, action ≠ .initializeServo bus config motors) :
    SameStep party globals alone (.act action) := by
  cases hidle : party.sending.isSome with
  | true =>
      exact .of_eq (Party.act_of_sending action globals hidle) (Party.act_of_sending action alone hidle)
        hagree rfl
  | false =>
      by_cases hjob : ∃ input, action = .job input
      · obtain ⟨input, rfl⟩ := hjob
        obtain ⟨hparty, hafter⟩ := hagree.beginJob hidle input
        have hstep : ∀ globals, party.step globals (.act (.job input)) =
            party.beginJob input globals := fun globals => Party.act_job input globals hidle
        refine ⟨?_, ?_, rfl⟩
        · rw [hstep, hstep]
          exact hparty
        · rw [hstep, hstep]
          exact hafter
      · have hstep : ∀ globals, party.step globals (.act action) =
            ({ party with backend := party.backend.next action }, globals) := fun globals =>
          Party.act_of_other globals hidle (fun input h => hjob ⟨input, h⟩) hother
        refine .of_eq (hstep globals) (hstep alone) ?_ rfl
        refine hagree.of_sameShape _ (Backend.sameShape_next hagree.formed hother) _ _
          fun hawaits => ?_
        have hnone : Process.awaitsWcState { party with backend := party.backend.next action } =
            false := awaitsWcState_of_idle hidle
        exact absurd (hnone.symm.trans hawaits) (by simp)

theorem get_setParams {params : List MotorKinematicsParams} {stored alone : List MotorKinematicsParams}
    {motorId : Nat} (hmotor : motorId < params.length) :
    MotorKinematics.get motorId (MotorKinematics.setParams params stored) =
      MotorKinematics.get motorId (MotorKinematics.setParams params alone) := by
  have hsome : params.isEmpty = false := by
    rw [← Bool.not_eq_true, List.isEmpty_iff]
    rintro rfl
    exact absurd hmotor (by simp)
  unfold MotorKinematics.setParams
  rw [hsome]
  rfl

theorem get_default (motorId : Nat) : MotorKinematics.get motorId [{}] = {} := by
  cases motorId <;> rfl

/-- Where every motor has a profile or finds the defaults, what others stored plays no part. -/
theorem profileKinematics_eq {servo : Servo} {stored : List MotorKinematicsParams}
    (hdefaults : Process.findsDefaults stored servo = true) :
    servo.profileKinematics stored = servo.profileKinematics [{}] := by
  unfold Servo.profileKinematics
  apply List.ext_getElem?
  intro index
  rw [List.getElem?_mapIdx, List.getElem?_mapIdx]
  cases haxis : servo.axes[index]? with
  | none => rfl
  | some axis =>
      have hfound := List.all_eq_true.mp hdefaults (axis, index)
        (List.mem_zipIdx_iff_getElem?.mpr haxis)
      rw [Option.map_some, Option.map_some, get_default]
      cases hprofile : axis.config.resolveMotorProfile with
      | some profile => rfl
      | none =>
          rw [hprofile, Option.isSome_none, Bool.false_or, beq_iff_eq] at hfound
          exact congrArg some hfound

/-- An initialisation is refused, or gives an uninitialised servo its axes. -/
theorem initializeServo_cases (backend : Backend) (bus : BusSetup) (config : IghMasterConfig)
    (motors : List MotorConfig) :
    ((backend.initializeServo bus config motors).2 = false ∧
        (backend.initializeServo bus config motors).1.servo.initialized =
          backend.servo.initialized ∧
        (backend.initializeServo bus config motors).1.servo.axes = backend.servo.axes) ∨
      ((backend.initializeServo bus config motors).2 = true ∧
        backend.servo.initialized = false ∧
        (backend.initializeServo bus config motors).1.servo.initialized = true) := by
  unfold Backend.initializeServo
  rcases backend.servo.initializeServo_cases bus config.busCycleUs config.cmdWatchdogMs
    config.csvCmdWatchdog motors with hrefused | ⟨hfresh, hfailed | ⟨axes, -, hdone⟩⟩
  · rw [hrefused]
    exact Or.inl ⟨rfl, rfl, rfl⟩
  · rw [hfailed]
    exact Or.inl ⟨rfl, rfl, rfl⟩
  · rw [hdone]
    exact Or.inr ⟨rfl, hfresh, rfl⟩

theorem initializeServo (hagree : Agree party globals alone) (bus : BusSetup)
    (config : IghMasterConfig) (motors : List MotorConfig)
    (hdefaults : party.sending.isSome = true ∨
      (party.backend.initializeServo bus config motors).2 = false ∨
        Process.findsDefaults globals.params
          (party.backend.initializeServo bus config motors).1.servo = true) :
    SameStep party globals alone (.act (.initializeServo bus config motors)) := by
  cases hidle : party.sending.isSome with
  | true =>
      have hstep : ∀ globals, party.step globals (.act (.initializeServo bus config motors)) =
          (party, globals) := fun globals =>
        Party.act_of_sending (.initializeServo bus config motors) globals hidle
      exact .of_eq (hstep globals) (hstep alone) hagree rfl
  | false =>
      have hstep : ∀ globals, party.step globals (.act (.initializeServo bus config motors)) =
          party.initializeServo bus config motors globals := fun globals =>
        Party.act_initializeServo bus config motors globals hidle
      have hformed := Backend.formed_initializeServo hagree.formed bus config motors
      have hnone : Process.awaitsWcState { party with
          backend := (party.backend.initializeServo bus config motors).1 } = false :=
        awaitsWcState_of_idle hidle
      rcases initializeServo_cases party.backend bus config motors with
        ⟨hrefused, hinitialized, haxes⟩ | ⟨haccepted, hfresh, hinitialized⟩
      · have hkept : ∀ globals, party.initializeServo bus config motors globals =
            ({ party with backend := (party.backend.initializeServo bus config motors).1 },
              globals) := by
          intro globals
          rw [Party.initializeServo, hrefused, if_neg (by simp)]
        refine .of_eq ((hstep globals).trans (hkept globals)) ((hstep alone).trans (hkept alone)) ?_ rfl
        refine hagree.of_sameShape _ ⟨hformed, hinitialized, congrArg List.length haxes⟩ _ _
          fun hawaits => ?_
        exact absurd (hnone.symm.trans hawaits) (by simp)
      · have hstored : ∀ globals, party.initializeServo bus config motors globals =
            ({ party with backend := (party.backend.initializeServo bus config motors).1 },
              { globals with
                params := MotorKinematics.setParams
                  ((party.backend.initializeServo bus config motors).1.servo.profileKinematics
                    globals.params) globals.params }) := by
          intro globals
          rw [Party.initializeServo, haccepted, if_pos rfl]
        have hfinds : Process.findsDefaults globals.params
            (party.backend.initializeServo bus config motors).1.servo = true := by
          simpa [hidle, haccepted] using hdefaults
        refine .of_eq ((hstep globals).trans (hstored globals))
          ((hstep alone).trans (hstored alone)) ?_ rfl
        refine ⟨hformed, fun _ motorId hmotor => ?_,
          fun h => absurd (hinitialized.symm.trans h) (by simp),
          fun hawaits => absurd (hnone.symm.trans hawaits) (by simp), hagree.clock, hagree.settled⟩
        dsimp only
        rw [profileKinematics_eq hfinds, hagree.fresh hfresh]
        apply get_setParams
        rw [Servo.profileKinematics, List.length_mapIdx]
        exact hmotor

theorem get_tryLoadKinematicsFromSdo (hagree : Agree party globals alone)
    (sdo : Nat → KinematicsSdo) {motorId : Nat}
    (hmotor : motorId < party.backend.servo.axes.length) :
    MotorKinematics.get motorId
        (party.backend.servo.tryLoadKinematicsFromSdo sdo globals.params) =
      MotorKinematics.get motorId
        (party.backend.servo.tryLoadKinematicsFromSdo sdo alone.params) := by
  have hloaded : (party.backend.servo.axes.mapIdx fun index axis =>
        (MotorKinematics.get index globals.params).load (sdo index) axis.config) =
      party.backend.servo.axes.mapIdx fun index axis =>
        (MotorKinematics.get index alone.params).load (sdo index) axis.config := by
    apply List.ext_getElem?
    intro index
    rw [List.getElem?_mapIdx, List.getElem?_mapIdx]
    by_cases hin : index < party.backend.servo.axes.length
    · rw [hagree.get_eq hin]
    · rw [List.getElem?_eq_none (Nat.le_of_not_lt hin)]
      rfl
  unfold Servo.tryLoadKinematicsFromSdo
  dsimp only
  rw [hloaded]
  split
  · exact hagree.get_eq hmotor
  · split
    · apply get_setParams
      rw [List.length_map, List.length_mapIdx]
      exact hmotor
    · exact hagree.get_eq hmotor

theorem tryLoadKinematicsFromSdo (hagree : Agree party globals alone)
    (sdo : Nat → KinematicsSdo) :
    SameStep party globals alone (.tryLoadKinematicsFromSdo sdo) := by
  refine .of_eq rfl rfl ?_ rfl
  refine ⟨hagree.formed, fun _ motorId hmotor => hagree.get_tryLoadKinematicsFromSdo sdo hmotor,
    fun hfresh => ?_, hagree.wcState, hagree.clock, hagree.settled⟩
  dsimp only
  rw [Servo.tryLoadKinematicsFromSdo, if_pos (by simp [hfresh])]
  exact hagree.fresh hfresh

theorem getReferenceClockTime (hagree : Agree party globals alone) (input : ClockRead) :
    SameStep party globals alone (.getReferenceClockTime input) := by
  obtain ⟨hclock, htime⟩ := ReferenceClock.read_of_capped hagree.clock input
  by_cases hactivated : party.backend.servo.activated = true
  · have hstep : ∀ globals, party.step globals (.getReferenceClockTime input) =
        (party, { globals with clock := (globals.clock.read input).1 }) := fun _ => if_pos hactivated
    refine .of_eq (hstep globals) (hstep alone)
      (hagree.of_clock hclock (hagree.settled.read input)) ?_
    simp [Party.reads, htime]
  · have hstep : ∀ globals, party.step globals (.getReferenceClockTime input) =
        (party, globals) := fun _ => if_neg hactivated
    refine .of_eq (hstep globals) (hstep alone) hagree ?_
    simp [Party.reads, hactivated]

theorem alignDcTimeBase (hagree : Agree party globals alone) (systemTimeNs : UInt64) :
    SameStep party globals alone (.alignDcTimeBase systemTimeNs) := by
  have hclock : (globals.clock.alignTimeBase systemTimeNs).capped =
      (alone.clock.alignTimeBase systemTimeNs).capped :=
    congrArg (ReferenceClock.alignTimeBase systemTimeNs) hagree.clock
  exact .of_eq rfl rfl (hagree.of_clock hclock
    (ReferenceClock.settled_alignTimeBase hagree.settled systemTimeNs)) rfl

theorem convert (hagree : Agree party globals alone) (motorId : Nat) :
    SameStep party globals alone (.convert motorId) := by
  refine .of_eq rfl rfl hagree ?_
  simp only [Party.reads]
  split
  · rename_i hmotor
    rw [hagree.get_eq hmotor]
  · rfl

end Agree

/-! ### A call of another master -/

namespace Agree

open Process

variable {party caller : Party} {globals alone : ProcessGlobals}

theorem of_keepsKinematics (hagree : Agree party globals alone)
    {params : List MotorKinematicsParams}
    (hkeeps : keepsKinematics party globals.params params = true) :
    Agree party { globals with params := params } alone := by
  refine hagree.of_params params fun hinitialized motorId hmotor => ?_
  rw [keepsKinematics, hinitialized, Bool.not_true, Bool.false_or, List.all_eq_true] at hkeeps
  have hsame := hkeeps motorId (List.mem_range.mpr hmotor)
  rw [beq_iff_eq] at hsame
  exact hsame.trans (hagree.stored hinitialized motorId hmotor)

theorem of_keepsWcState (hagree : Agree party globals alone) {state : WcState}
    (hkeeps : keepsWcState party globals state = true) :
    Agree party { globals with sendDataWcState := state } alone := by
  refine ⟨hagree.formed, hagree.stored, hagree.fresh, fun hawaits => ?_, hagree.clock,
    hagree.settled⟩
  rw [keepsWcState, hawaits, Bool.not_true, Bool.false_or, beq_iff_eq] at hkeeps
  exact hkeeps.symm.trans (hagree.wcState hawaits)

theorem of_rereadsClock (hagree : Agree party globals alone) {input : ClockRead}
    (hrereads : rereadsClock input globals.clock = true) :
    Agree party { globals with clock := (globals.clock.read input).1 } alone := by
  have hclock := hagree.settled.capped_reread hrereads
  exact ⟨hagree.formed, hagree.stored, hagree.fresh, hagree.wcState, hclock.trans hagree.clock,
    hagree.settled.read input⟩

theorem of_spares_act (hagree : Agree party globals alone) {action : BackendAction}
    (hspares : spares party caller globals (.act action) = true) :
    Agree party (caller.step globals (.act action)).2 alone := by
  cases hidle : caller.sending.isSome with
  | true =>
      have hstep : caller.step globals (.act action) = (caller, globals) :=
        Party.act_of_sending action globals hidle
      rw [hstep]
      exact hagree
  | false =>
      cases action with
      | initializeServo bus config motors =>
          have hstep : caller.step globals (.act (.initializeServo bus config motors)) =
              caller.initializeServo bus config motors globals :=
            Party.act_initializeServo bus config motors globals hidle
          rw [hstep, Party.initializeServo]
          dsimp only
          split
          · rename_i haccepted
            apply hagree.of_keepsKinematics
            simpa [spares, hidle, haccepted] using hspares
          · exact hagree
      | job input =>
          have hstep : caller.step globals (.act (.job input)) = caller.beginJob input globals :=
            Party.act_job input globals hidle
          rw [hstep, Party.beginJob]
          split
          · rename_i hbegins
            apply hagree.of_keepsWcState
            simpa [spares, hbegins] using hspares
          · exact hagree
      | _ =>
          rw [Party.step, Party.act_of_other globals hidle (by simp) (by simp)]
          exact hagree

theorem of_spares (hagree : Agree party globals alone) {call : PartyCall}
    (hspares : spares party caller globals call = true) :
    Agree party (caller.step globals call).2 alone := by
  cases call with
  | act action => exact hagree.of_spares_act hspares
  | continueJob =>
      simp only [spares] at hspares
      rw [Party.step, Party.continueJob]
      split
      · exact hagree
      · rename_i input hsending
        rw [hsending] at hspares
        exact hagree.of_keepsWcState hspares
      · split <;> exact hagree
  | tryLoadKinematicsFromSdo sdo => exact hagree.of_keepsKinematics hspares
  | convert motorId => exact hagree
  | getReferenceClockTime input =>
      rw [Party.step]
      split
      · rename_i hactivated
        apply hagree.of_rereadsClock
        simpa [spares, hactivated] using hspares
      · exact hagree
  | alignDcTimeBase systemTimeNs =>
      rw [spares, beq_iff_eq] at hspares
      rw [Party.step, hspares]
      exact hagree

end Agree

/-! ### Runs -/

namespace Process

/-- A master in a run and the same master alone. -/
structure Alike (own : MasterIndex) (process alone : Process) : Prop where
  party_eq : process.party own = alone.party own
  agree : Agree (process.party own) process.globals alone.globals

theorem sameStep_of_standsAlone {party : Party} {globals alone : ProcessGlobals}
    (hagree : Agree party globals alone) {call : PartyCall}
    (hstands : standsAlone party globals call = true) : SameStep party globals alone call := by
  cases call with
  | act action =>
      by_cases hother : ∃ bus config motors, action = .initializeServo bus config motors
      · obtain ⟨bus, config, motors, rfl⟩ := hother
        apply hagree.initializeServo
        simpa [standsAlone, or_assoc] using hstands
      · exact hagree.act fun bus config motors h => hother ⟨bus, config, motors, h⟩
  | continueJob => exact hagree.continueJob
  | tryLoadKinematicsFromSdo sdo => exact hagree.tryLoadKinematicsFromSdo sdo
  | convert motorId => exact hagree.convert motorId
  | getReferenceClockTime input => exact hagree.getReferenceClockTime input
  | alignDcTimeBase systemTimeNs => exact hagree.alignDcTimeBase systemTimeNs

theorem isolates (own : MasterIndex) :
    Isolates machine (isOwn own) (fun config action => keepsApart own config action = true)
      (seen own) (Alike own) where
  own_next := by
    rintro config alone ⟨index, call⟩ hown hkeeps halike
    obtain rfl : index = own := by simpa [isOwn] using hown
    have hstands : standsAlone (config.state.party index) config.state.globals call = true := by
      simpa [keepsApart] using hkeeps
    have hsame := sameStep_of_standsAlone halike.agree hstands
    have hparty := halike.party_eq
    refine ⟨⟨?_, ?_⟩, ?_⟩
    · simp only [machine, next, Function.update_self]
      rw [← hparty]
      exact hsame.party_eq
    · simp only [machine, next, Function.update_self]
      rw [← hparty]
      exact hsame.agree
    · simp only [seen, Machine.visit_action, Machine.visit_before, if_true]
      rw [← hparty]
      exact hsame.reads_eq
  other_next := by
    rintro config alone ⟨index, call⟩ hown hkeeps halike
    have hother : index ≠ own := by simpa [isOwn] using hown
    have hspares : spares (config.state.party own) (config.state.party index) config.state.globals
        call = true := by
      simpa [keepsApart, hother] using hkeeps
    refine ⟨⟨?_, ?_⟩, ?_⟩
    · simp only [machine, next, Function.update_of_ne hother.symm]
      exact halike.party_eq
    · simp only [machine, next, Function.update_of_ne hother.symm]
      exact halike.agree.of_spares hspares
    · simp [seen, hother]

theorem alike_start (own : MasterIndex) : Alike own {} {} where
  party_eq := rfl
  agree :=
    { formed := Backend.formed_default
      stored := fun _ _ _ => rfl
      fresh := fun _ => rfl
      wcState := fun _ => rfl
      clock := rfl
      settled := fun h => absurd h (by simp) }

/-- In every run that keeps a master apart, the shared variables show it what they show it alone. -/
theorem undisturbed_of_keepsApart (own : MasterIndex) (actions : List (MasterIndex × PartyCall))
    (hkeeps : machine.Meets (fun config action => keepsApart own config action = true)
      (Config.start {}) actions) :
    Undisturbed own actions := by
  obtain ⟨-, hseen⟩ :=
    (isolates own).exec (Config.start {}) (Config.start {}) (alike_start own) rfl hkeeps
  exact hseen

/-- Its servo and its runtime are then those that it has alone. -/
theorem party_eq_of_keepsApart (own : MasterIndex) (actions : List (MasterIndex × PartyCall))
    (hkeeps : machine.Meets (fun config action => keepsApart own config action = true)
      (Config.start {}) actions) :
    (machine.exec (Config.start {}) actions).state.party own =
      (machine.exec (Config.start {}) (actions.filter (isOwn own))).state.party own := by
  obtain ⟨halike, -⟩ :=
    (isolates own).exec (Config.start {}) (Config.start {}) (alike_start own) rfl hkeeps
  exact halike.party_eq

def pmslmConfig : MotorConfig where
  vendorId := 0x00418108
  productCode := 0x00009252
  name := "joint1"
  pdoLayout := .jointModule

def initializes (motors : List MotorConfig) : PartyCall :=
  .act (.initializeServo singleAxisBus {} motors)

/-- The second master maps a linear drive, and the first one converts with its parameters. -/
theorem not_undisturbed : ¬ ∀ own actions, Undisturbed own actions := by
  intro hall
  exact absurd
    (hall 0 [(0, initializes [nh17Config]), (1, initializes [pmslmConfig]), (0, .convert 0)])
    (by unfold Undisturbed; decide +kernel)

/-- Two masters with the same drive, of which the second is not started. -/
theorem undisturbed_by_same_drive :
    Undisturbed 0 [(0, initializes [nh17Config]), (1, initializes [nh17Config]),
      (1, .tryLoadKinematicsFromSdo fun _ => {}), (1, .getReferenceClockTime ⟨some 7, 0⟩),
      (0, .convert 0)] :=
  undisturbed_of_keepsApart 0 _ (by decide +kernel)

end Process

end IghMaster
