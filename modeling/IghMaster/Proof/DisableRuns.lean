import IghMaster.EnableMachine
import IghMaster.Proof.EnableFsm
import IghMaster.Proof.ServoAxes

/-!
# Disabling and the commanded drive level

The disable sequence starts at its first word, Keep operation, wherever the drive is when
`setEnable` restarts it. It therefore lowers the drive level only where the axis was enabled before.
The invariant below says what keeps a machine on its way down.
-/

namespace IghMaster

open Transition

namespace EnableFsm

/-- While the machine is not to be enabled, the next word it will write is no higher than `word`,
the last one on the bus: it is the next word of the disable sequence, or the word in place. -/
structure Descending (fsm : EnableFsm) (word : UInt16) : Prop where
  sequence_le : fsm.running = true → fsm.step < 4 →
    driveLevel (cia402DisableSequence fsm.step) ≤
      driveLevel (if 0 < fsm.wait then fsm.controlWordState else word)
  state_le : (fsm.running = true → 0 < fsm.wait ∨ 4 ≤ fsm.step) →
    driveLevel fsm.controlWordState ≤ driveLevel word

/-- One execution of a descending machine writes no higher word and leaves it descending. -/
theorem Descending.stepFsm (ctx : TxContext) {fsm : EnableFsm} {word : UInt16}
    (hdescending : fsm.Descending word) (hplain : fsm.Plain)
    (hdesired : fsm.desiredEnable = false) :
    driveLevel (fsm.stepFsm ctx).controlWordState ≤ driveLevel word ∧
      (fsm.stepFsm ctx).Descending (fsm.stepFsm ctx).controlWordState := by
  obtain ⟨persist, loss, hprepared⟩ := (prepare_cases ctx hplain).eq_of_not_desired hdesired
  rw [stepFsm_eq_advance_prepare, hprepared]
  by_cases hrunning : fsm.running = true
  swap
  · -- an idle machine repeats its word
    rw [Bool.not_eq_true] at hrunning
    have hidle : running { fsm with
        faultPersistCounter := persist, monitorLossCounter := loss, faultResetPhase := 0 } =
          false := hrunning
    rw [advance_of_not_running hidle]
    have hle := hdescending.state_le (fun h => absurd (hrunning.symm.trans h) (by simp))
    refine ⟨hle, ⟨fun h => absurd (hidle.symm.trans h) (by simp), fun _ => le_rfl⟩⟩
  have hrunning' : running { fsm with
      faultPersistCounter := persist, monitorLossCounter := loss, faultResetPhase := 0 } =
        true := hrunning
  by_cases hwait : 0 < fsm.wait
  · rw [advance_of_wait_pos hrunning' hwait]
    have hle := hdescending.state_le (fun _ => Or.inl hwait)
    refine ⟨hle, ⟨fun _ hstep => ?_, fun _ => le_rfl⟩⟩
    have hseq := hdescending.sequence_le hrunning hstep
    rw [if_pos hwait] at hseq
    simpa using hseq
  · have hzero : fsm.wait = 0 := by omega
    rw [advance_of_disable hrunning' hzero hdesired]
    unfold disableStep
    by_cases hstep : fsm.step < 4
    · rw [if_pos (by exact hstep)]
      have hseq := hdescending.sequence_le hrunning hstep
      rw [if_neg hwait] at hseq
      refine ⟨hseq, ⟨fun _ _ => ?_, fun _ => le_rfl⟩⟩
      simpa using driveLevel_disableSequence_succ_le fsm.step
    · rw [if_neg (by exact hstep)]
      have hle := hdescending.state_le (fun _ => Or.inr (by omega))
      refine ⟨hle, ⟨fun h => ?_, fun _ => le_rfl⟩⟩
      simp [running, hdesired] at h

theorem Descending.forceSafe {fsm : EnableFsm} (entering : Bool) {safeWord word : UInt16}
    (hlevel : driveLevel safeWord ≤ driveLevel word) :
    (fsm.forceSafe entering safeWord).Descending word := by
  have hidle : (fsm.forceSafe entering safeWord).running = false := by
    cases entering <;> rfl
  exact ⟨fun h => absurd (hidle.symm.trans h) (by simp), fun _ => hlevel⟩

end EnableFsm

namespace Axis

/-- What the runs below keep of a motion axis. -/
structure DisableInvariant (axis : Axis) : Prop where
  plain : axis.fsm.Plain
  descending : axis.fsm.desiredEnable = false → axis.fsm.Descending axis.output.controlWord

theorem plain_applyMode {axis : Axis} (mode : OperationMode) (hplain : axis.fsm.Plain) :
    (axis.applyMode mode).fsm.Plain := by
  unfold applyMode
  split
  · exact hplain
  · exact EnableFsm.shutdownForModeChange_plain hplain

theorem fsm_sendData (activated wcOk : Bool) (axis : Axis) :
    (axis.sendData activated wcOk).fsm =
      (axis.fsm.sendDataCommon (axis.txContext activated wcOk)).1 := rfl

theorem controlWord_sendData (activated wcOk : Bool) (axis : Axis) :
    (axis.sendData activated wcOk).output.controlWord =
      (axis.fsm.sendDataCommon (axis.txContext activated wcOk)).2 := by
  rw [sendData, sendTargets, sendDataCommon]
  rfl

theorem DisableInvariant.sendData {axis : Axis} (hinv : axis.DisableInvariant) (wcOk : Bool) :
    (axis.sendData true wcOk).DisableInvariant := by
  have hsent := EnableFsm.sendDataCommon_of_plain (axis.txContext true wcOk) hinv.plain rfl
  refine ⟨?_, fun hdesired => ?_⟩
  · rw [fsm_sendData]
    exact EnableFsm.sendDataCommon_plain hinv.plain
  · rw [fsm_sendData, hsent] at hdesired
    have hbefore : axis.fsm.desiredEnable = false :=
      (EnableFsm.desiredEnable_stepFsm hinv.plain).symm.trans hdesired
    rw [fsm_sendData, controlWord_sendData, hsent]
    have hnext := ((hinv.descending hbefore).stepFsm (axis.txContext true wcOk) hinv.plain
      hbefore).2
    exact ⟨hnext.sequence_le, hnext.state_le⟩

theorem DisableInvariant.driveLevel_sendData_le {axis : Axis} (hinv : axis.DisableInvariant)
    (hdesired : axis.fsm.desiredEnable = false) (wcOk : Bool) :
    driveLevel (axis.sendData true wcOk).output.controlWord ≤
      driveLevel axis.output.controlWord := by
  rw [controlWord_sendData, EnableFsm.sendDataCommon_of_plain _ hinv.plain rfl]
  exact ((hinv.descending hdesired).stepFsm _ hinv.plain hdesired).1

theorem DisableInvariant.receiveData {axis : Axis} (hinv : axis.DisableInvariant)
    (input : TxPdo) : (axis.receiveData input).DisableInvariant :=
  ⟨hinv.plain, hinv.descending⟩

theorem DisableInvariant.applySafe {axis : Axis} (hinv : axis.DisableInvariant)
    (entering : Bool) (actualPosition : Int32) {word : UInt16} (hword : driveLevel word = 0) :
    (axis.applySafe entering actualPosition word).DisableInvariant := by
  refine ⟨EnableFsm.forceSafe_plain entering word hinv.plain, fun _ => ?_⟩
  exact EnableFsm.Descending.forceSafe entering (by omega)

/-- A disable keeps the invariant where the axis was at the top when it restarted the machine. -/
theorem DisableInvariant.startEnable {axis : Axis} (hinv : axis.DisableInvariant) (enable : Bool)
    (htop : enable = false → driveLevel axis.output.controlWord = 2) :
    (axis.startEnable enable).DisableInvariant := by
  refine ⟨EnableFsm.startEnable_plain enable hinv.plain, fun hdesired => ⟨fun _ _ => ?_, ?_⟩⟩
  · have hlevel := htop hdesired
    show driveLevel controlWordKeepOperation ≤ driveLevel axis.output.controlWord
    rw [hlevel]
    exact driveLevel_le_two _
  · intro hidle
    have hrunning : (axis.startEnable enable).fsm.running = true := by
      simp [Axis.startEnable, EnableFsm.startEnable, EnableFsm.running]
    rcases hidle hrunning with hwait | hstep
    · exact absurd hwait (Nat.lt_irrefl 0)
    · exact absurd (show 4 ≤ 0 from hstep) (by decide)

/-- The mode change falls between the first word of a disable sequence and its last but one. -/
def interruptsDisable (axis : Axis) : Bool :=
  !axis.fsm.desiredEnable && !axis.fsm.enableRequested && axis.fsm.active &&
    0 < axis.fsm.wait && axis.fsm.step < 3

theorem DisableInvariant.applyMode {axis : Axis} (hinv : axis.DisableInvariant)
    (mode : OperationMode)
    (hbetween : axis.isMotion = true → axis.mode ≠ mode → axis.interruptsDisable = false) :
    (axis.applyMode mode).DisableInvariant := by
  unfold Axis.applyMode
  split
  · exact hinv
  · rename_i hchange
    simp only [Bool.or_eq_true, Bool.not_eq_true', decide_eq_true_eq, not_or,
      Bool.not_eq_false] at hchange
    have hbetween := hbetween hchange.1 hchange.2
    refine ⟨EnableFsm.shutdownForModeChange_plain hinv.plain, fun hdesired => ?_⟩
    show (axis.fsm.shutdownForModeChange).Descending axis.output.controlWord
    have hbefore : axis.fsm.desiredEnable = false := by
      rw [← hdesired]
      show _ = axis.fsm.shutdownForModeChange.desiredEnable
      unfold EnableFsm.shutdownForModeChange
      split <;> rfl
    unfold EnableFsm.shutdownForModeChange
    split
    · exact hinv.descending hbefore
    · rename_i hrequested
      refine ⟨fun hrunning hstep => ?_, fun _ => Nat.zero_le _⟩
      have hactive : axis.fsm.active = true := by
        simpa [EnableFsm.running, hbefore, hrequested] using hrunning
      by_cases hwait : 0 < axis.fsm.wait
      · -- only the last step of the sequence is still ahead
        have hlast : axis.fsm.step = 3 := by
          simp only [interruptsDisable, hbefore, hrequested, hactive, hwait, Bool.not_false,
            Bool.true_and, decide_true, decide_eq_false_iff_not, not_lt] at hbetween
          have : axis.fsm.step < 4 := hstep
          omega
        show driveLevel (cia402DisableSequence axis.fsm.step) ≤ _
        rw [hlast]
        exact Nat.zero_le _
      · have hseq := (hinv.descending hbefore).sequence_le
          (by simp [EnableFsm.running, hactive]) hstep
        rw [if_neg hwait] at hseq
        show driveLevel (cia402DisableSequence axis.fsm.step) ≤
          driveLevel (if 0 < axis.fsm.wait then controlWordSwitchOn else axis.output.controlWord)
        rw [if_neg hwait]
        exact hseq

end Axis

/-! ### Runs -/

namespace EnableMachine

/-- The call is a disable, or an enable, that returned true. -/
def acceptedEnable (enable : Bool) (visit : EnableVisit) : Bool :=
  match visit.action with
  | .setEnable flags motorId demanded =>
      demanded == enable && (visit.before.setEnable flags motorId demanded).2
  | _ => false

/-- The next `sendData` writes the motion axis at the index no higher word than the last. -/
def NotRaised (index : Nat) (servo : Servo) : Prop :=
  ∀ domain inputs before after, servo.axes[index]? = some before →
    (next servo (.sendData domain inputs)).axes[index]? = some after → before.isMotion = true →
    driveLevel after.output.controlWord ≤ driveLevel before.output.controlWord

/-- Once a disable was accepted, and until an enable is, no word of the axis is raised. -/
def DisableNeverRaises (index : Nat) (config : EnableConfig) : Prop :=
  Since (fun visit => acceptedEnable true visit = false) (fun visit => acceptedEnable false visit)
    config.history → NotRaised index config.state

/-- A step that keeps the axis at the index from being raised: a disable call covers the axis
unless no enable is demanded of it, and restarts its machine only at the top of the drive levels; a
mode change does not fall into a running disable sequence. -/
def keepsDescending (index : Nat) (config : EnableConfig) : EnableAction → Bool
  | .setEnable flags motorId false =>
      config.state.axes[index]?.all fun axis =>
        !axis.isMotion ||
          ((!axis.fsm.desiredEnable || !(config.state.setEnable flags motorId false).2 ||
              Servo.covers motorId index) &&
            (!config.state.startsEnable flags motorId false index ||
              driveLevel axis.output.controlWord == 2))
  | .setOperationMode motorId mode =>
      config.state.axes[index]?.all fun axis =>
        !(Servo.covers motorId index && axis.isMotion && axis.mode != mode) ||
          !axis.interruptsDisable
  | _ => true

theorem disableInvariant_next {index : Nat} {config : EnableConfig} {action : EnableAction}
    (hinv : config.state.MotionAt index Axis.DisableInvariant)
    (hkeeps : keepsDescending index config action = true) :
    (next config.state action).MotionAt index Axis.DisableInvariant := by
  cases action with
  | setEnable flags motorId enable =>
      refine hinv.setEnable fun axis haxis hmotion hstarts haxisInv =>
        haxisInv.startEnable enable fun hdisable => ?_
      subst hdisable
      simp only [keepsDescending, haxis, Option.all_some, hstarts, hmotion, Bool.not_true,
        Bool.false_or, Bool.and_eq_true, beq_iff_eq] at hkeeps
      exact hkeeps.2
  | setOperationMode motorId mode =>
      refine hinv.setOperationMode fun axis haxis hmotion hcovers haxisInv =>
        haxisInv.applyMode mode fun _ hmode => ?_
      simpa [keepsDescending, haxis, hcovers, hmotion, hmode] using hkeeps
  | safeOutput safeOutputActive resetCycles resetAxis inputs =>
      have hreceived := hinv.receiveData inputs fun axis haxisInv =>
        haxisInv.receiveData (inputs index)
      exact Servo.MotionAt.applySafe (by exact hreceived) fun axis _ _ haxisInv =>
        haxisInv.applySafe _ _ (Servo.driveLevel_safeControlWord _ _ _)
  | sendData domain inputs =>
      have hreceived := hinv.receiveData inputs fun axis haxisInv =>
        haxisInv.receiveData (inputs index)
      exact hreceived.sendData fun axis _ haxisInv => haxisInv.sendData _

theorem fresh_setup (setup : ServoSetup) (index : Nat) :
    setup.servo.MotionAt index fun axis => axis.fsm = {} := by
  have hempty : ({} : Servo).MotionAt index fun axis => axis.fsm = {} :=
    fun axis haxis => absurd haxis (by simp)
  refine (hempty.initializeServo fun _ _ _ _ => rfl).activate fun axis hfresh => ?_
  show { axis.fsm with enableRequested := false, controlWordState := controlWordSwitchOn } = _
  rw [hfresh]

theorem disableInvariant_setup (setup : ServoSetup) (index : Nat) :
    setup.servo.MotionAt index Axis.DisableInvariant := by
  refine (fresh_setup setup index).imp fun axis hfresh => ⟨?_, fun _ => ?_⟩
  · rw [hfresh]
    exact EnableFsm.plain_default
  · rw [hfresh]
    exact ⟨fun h => absurd h (by decide), fun _ => Nat.zero_le _⟩

def Relinquished (axis : Axis) : Prop := axis.fsm.Plain ∧ axis.fsm.desiredEnable = false

theorem relinquished_next {index : Nat} {servo : Servo} {action : EnableAction}
    (hrelinquished : servo.MotionAt index Relinquished)
    (hrefused : acceptedEnable true (machine.visit servo action) = false) :
    (next servo action).MotionAt index Relinquished := by
  cases action with
  | setEnable flags motorId enable =>
      cases enable with
      | false =>
          exact hrelinquished.setEnable fun axis _ _ _ haxis =>
            ⟨EnableFsm.startEnable_plain false haxis.1, rfl⟩
      | true =>
          have hsame := Servo.setEnable_of_refused flags motorId true
            (by simpa [acceptedEnable] using hrefused)
          rw [EnableMachine.next, hsame]
          exact hrelinquished
  | setOperationMode motorId mode =>
      refine hrelinquished.setOperationMode fun axis _ _ _ haxis => ⟨?_, ?_⟩
      · exact Axis.plain_applyMode mode haxis.1
      · rw [Axis.desiredEnable_applyMode]
        exact haxis.2
  | safeOutput safeOutputActive resetCycles resetAxis inputs =>
      have hreceived := hrelinquished.receiveData inputs fun axis haxis => haxis
      exact Servo.MotionAt.applySafe (by exact hreceived) fun axis _ _ haxis =>
        ⟨EnableFsm.forceSafe_plain _ _ haxis.1, rfl⟩
  | sendData domain inputs =>
      have hreceived := hrelinquished.receiveData inputs fun axis haxis => haxis
      refine hreceived.sendData fun axis _ haxis => ⟨EnableFsm.sendDataCommon_plain haxis.1, ?_⟩
      rw [Axis.fsm_sendData, EnableFsm.sendDataCommon_of_plain _ haxis.1 rfl]
      exact (EnableFsm.desiredEnable_stepFsm haxis.1).trans haxis.2

/-- The invariant of the runs whose steps all keep the axis descending. -/
structure DescendingRun (index : Nat) (config : EnableConfig) : Prop where
  axisInvariant : config.state.MotionAt index Axis.DisableInvariant
  relinquished :
    Since (fun visit => acceptedEnable true visit = false)
      (fun visit => acceptedEnable false visit) config.history →
    config.state.MotionAt index Relinquished

theorem DescendingRun.advance {index : Nat} {config : EnableConfig} {action : EnableAction}
    (hrun : DescendingRun index config) (hkeeps : keepsDescending index config action = true) :
    DescendingRun index (machine.advance config action) := by
  have hnext : (next config.state action).MotionAt index Axis.DisableInvariant :=
    disableInvariant_next hrun.axisInvariant hkeeps
  refine ⟨hnext, fun hsince => ?_⟩
  rw [Machine.advance_history, since_cons] at hsince
  rcases hsince with haccepted | ⟨hrefused, hsince⟩
  · cases action with
    | setEnable flags motorId enable =>
        simp only [acceptedEnable, Machine.visit_action, Machine.visit_before, Bool.and_eq_true,
          beq_iff_eq] at haccepted
        obtain ⟨rfl, haccepted⟩ := haccepted
        intro after hafter hmotion
        refine ⟨(hnext after hafter hmotion).plain, ?_⟩
        have hmap := Servo.getElem?_setEnable flags motorId false config.state index
        have hlookup := hafter
        rw [Machine.advance_state] at hlookup
        have hbefore := hmap.symm.trans hlookup
        obtain ⟨before, hbefore, hupdate⟩ := Option.map_eq_some_iff.mp hbefore
        have hbeforeMotion : before.isMotion = true := by
          rw [← hmotion, ← hupdate]
          split <;> rfl
        simp only [keepsDescending, hbefore, Option.all_some, hbeforeMotion, haccepted,
          Bool.not_true, Bool.false_or, Bool.or_false, Bool.and_eq_true, Bool.or_eq_true,
          Bool.not_eq_true'] at hkeeps
        rcases hkeeps.1 with hnone | hcovers
        · rw [← hupdate]
          split
          · rfl
          · exact hnone
        · exact Servo.desiredEnable_of_accepted_disable haccepted hcovers hbefore hlookup
            hbeforeMotion
    | setOperationMode motorId mode => exact absurd haccepted (by simp [acceptedEnable])
    | safeOutput safeOutputActive resetCycles resetAxis inputs =>
        exact absurd haccepted (by simp [acceptedEnable])
    | sendData domain inputs => exact absurd haccepted (by simp [acceptedEnable])
  · exact relinquished_next (hrun.relinquished hsince) hrefused

theorem notRaised_of_relinquished {index : Nat} {servo : Servo}
    (hinv : servo.MotionAt index Axis.DisableInvariant)
    (hrelinquished : servo.MotionAt index Relinquished) : NotRaised index servo := by
  intro domain inputs before after hbefore hafter hmotion
  rw [EnableMachine.next, Servo.getElem?_sendData, Servo.getElem?_receiveData, hbefore] at hafter
  simp only [Option.map_some, Option.some.injEq] at hafter
  subst hafter
  have haxisInv := hinv before hbefore hmotion
  have hdesired := (hrelinquished before hbefore hmotion).2
  split
  · split
    · exact (haxisInv.receiveData (inputs index)).driveLevel_sendData_le hdesired _
    · exact le_rfl
  · split
    · exact haxisInv.driveLevel_sendData_le hdesired _
    · exact le_rfl

/-- From a newly activated servo, in every run whose steps keep the axis descending, a disable that
was accepted never raises the commanded drive level of the axis until an enable is accepted. -/
theorem disableNeverRaises_of_keepsDescending (setup : ServoSetup) (index : Nat)
    (actions : List EnableAction)
    (hkeeps : machine.Meets (fun config action => keepsDescending index config action = true)
      (Config.start setup.servo) actions) :
    DisableNeverRaises index (machine.exec (Config.start setup.servo) actions) := by
  have hstart : DescendingRun index (Config.start setup.servo) :=
    ⟨disableInvariant_setup setup index, fun h => absurd h (since_nil _ _)⟩
  have hrun := machine.exec_invariant_of_meets
    (fun config action hrun hkept => DescendingRun.advance hrun hkept) hstart hkeeps
  exact fun hsince => notRaised_of_relinquished hrun.axisInvariant (hrun.relinquished hsince)

/-- An enable, one cycle that writes Shutdown, a disable: the next cycle writes Keep operation. -/
def disableAtShutdown : List EnableAction :=
  [.setEnable permissiveFlags 0 true, .sendData completeDomain (fun _ => {}),
    .setEnable permissiveFlags 0 false]

theorem not_disableNeverRaises :
    ¬ ∀ setup actions index,
      DisableNeverRaises index (machine.exec (Config.start (ServoSetup.servo setup)) actions) := by
  intro hall
  have hnever := hall singleAxisSetup disableAtShutdown 0 (by decide)
  have hraised := hnever completeDomain (fun _ => {}) _ _ rfl rfl (by decide)
  exact absurd hraised (by decide)

/-- A whole enable sequence before the disable: the condition holds and nothing is raised. -/
theorem disableNeverRaises_after_enable :
    DisableNeverRaises 0 (machine.exec (Config.start singleAxisSetup.servo)
      (.setEnable permissiveFlags 0 true ::
        (List.replicate 45 (.sendData completeDomain fun _ => {}) ++
          [.setEnable permissiveFlags 0 false, .sendData completeDomain fun _ => {}]))) :=
  disableNeverRaises_of_keepsDescending singleAxisSetup 0 _ (by decide +kernel)

end EnableMachine

end IghMaster
