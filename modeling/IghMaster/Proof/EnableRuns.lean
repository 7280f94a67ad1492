import IghMaster.Proof.DisableRuns

/-!
# The words of a completed enable sequence

An enable sequence writes its four words in order and holds each of them. The invariant describes
the words written since the sequence took its first step; a mode change may overwrite the control
word in the middle of the sequence, and the runs below are those where it does not.
-/

namespace IghMaster

open Transition

namespace EnableFsm

/-- The words of the first `step` steps of the enable sequence, the last of them written `count`
times and the others as long as a step lasts. -/
def ladder : Nat → Nat → List UInt16
  | 0, _ => []
  | step + 1, count =>
      ladder step (stepDelayCycles + 1) ++ List.replicate count (cia402EnableSequence step)

theorem ladder_append_hold (step count : Nat) :
    ladder (step + 1) count ++ [cia402EnableSequence step] = ladder (step + 1) (count + 1) := by
  simp only [ladder, List.append_assoc, ← List.replicate_succ']

theorem ladder_append_step (step : Nat) :
    ladder step (stepDelayCycles + 1) ++ [cia402EnableSequence step] = ladder (step + 1) 1 := rfl

/-- The execution that left this state took the first step of the enable sequence: only then is
the wait full at step one. -/
def startsSequence (fsm : EnableFsm) : Bool :=
  fsm.desiredEnable && fsm.step == 1 && fsm.wait == stepDelayCycles

/-- The drive is enabled as demanded and no sequence is running. -/
def completed (fsm : EnableFsm) : Bool :=
  fsm.desiredEnable && fsm.enableRequested && !fsm.active

/-- In the middle of an enable sequence, the words written since its start are those of its steps,
and the word in place is the one of the last step for as long as it will still be written. -/
structure Midway (fsm : EnableFsm) (words : Option (List UInt16)) : Prop where
  active : fsm.active = true
  noPhase : fsm.faultResetPhase = 0
  step_le : fsm.step ≤ 4
  wait_le : fsm.wait ≤ stepDelayCycles
  state_eq : 0 < fsm.wait ∨ fsm.step = 4 →
    fsm.controlWordState = cia402EnableSequence (fsm.step - 1)
  words_eq : words = some (ladder fsm.step (stepDelayCycles + 1 - fsm.wait))

def Ascending (fsm : EnableFsm) (words : Option (List UInt16)) : Prop :=
  fsm.desiredEnable = true → 0 < fsm.step → fsm.Midway words

/-- The words since the start of the sequence after one more execution. -/
def extendWords (fsm : EnableFsm) (words : Option (List UInt16)) : Option (List UInt16) :=
  if fsm.startsSequence then some [fsm.controlWordState]
  else words.map (· ++ [fsm.controlWordState])

theorem ascending_of_step_eq_zero {fsm : EnableFsm} {words : Option (List UInt16)}
    (hstep : fsm.step = 0) : fsm.Ascending words :=
  fun _ hpos => absurd hpos (by omega)

theorem Ascending.step_eq_zero_of_supervised {fsm : EnableFsm} {words : Option (List UInt16)}
    (hascending : fsm.Ascending words) (hsupervised : fsm.supervised = true) : fsm.step = 0 := by
  simp only [supervised, Bool.and_eq_true, Bool.not_eq_true'] at hsupervised
  by_contra hstep
  have hmidway := hascending hsupervised.1.1.1 (Nat.pos_of_ne_zero hstep)
  exact absurd (hmidway.active.symm.trans hsupervised.1.2) (by simp)

theorem Prepared.ascending {ctx : TxContext} {fsm prepared : EnableFsm}
    {words : Option (List UInt16)} (hprepared : Prepared ctx fsm prepared)
    (hascending : fsm.Ascending words) : prepared.Ascending words := by
  cases hprepared with
  | quiet persist loss phase hphase =>
      intro hdesired hstep
      have hmidway := hascending hdesired hstep
      refine ⟨hmidway.active, ?_, hmidway.step_le, hmidway.wait_le, hmidway.state_eq,
        hmidway.words_eq⟩
      rcases hphase with hzero | ⟨hsame, -⟩
      · exact hzero
      · exact hsame.trans hmidway.noPhase
  | faultTripped loss hfault hsupervised =>
      exact ascending_of_step_eq_zero (hascending.step_eq_zero_of_supervised hsupervised)
  | lossTripped persist hfault hsupervised => exact ascending_of_step_eq_zero rfl

theorem Prepared.noPhase {ctx : TxContext} {fsm prepared : EnableFsm}
    (hprepared : Prepared ctx fsm prepared) (hfault : ctx.hasFault = false) :
    prepared.faultResetPhase = 0 := by
  cases hprepared with
  | quiet persist loss phase hphase => simpa [hfault] using hphase
  | faultTripped loss _ hsupervised => rfl
  | lossTripped persist _ hsupervised => rfl

theorem step_faultResetStep {ctx : TxContext} {fsm : EnableFsm}
    (hstart : fsm.step = 0 ∨ fsm.faultResetPhase = 0) : (faultResetStep ctx fsm).step = 0 := by
  unfold faultResetStep
  split
  · rfl
  · rename_i hphase
    have hstep : fsm.step = 0 := hstart.resolve_right hphase
    split
    · dsimp only
      split <;> exact hstep
    · split
      · dsimp only
        split
        · exact hstep
        · split <;> exact hstep
      · exact hstep

theorem not_startsSequence_of_step {fsm : EnableFsm} (hstep : fsm.step ≠ 1) :
    fsm.startsSequence = false := by
  simp [startsSequence, hstep]

/-- While a wait runs down, the word of the last step is written once more. -/
theorem Midway.waited {fsm after : EnableFsm} {words : Option (List UInt16)}
    (hmidway : fsm.Midway words) (hstep : 0 < fsm.step) (hwait : 0 < fsm.wait)
    (hafter : after = { fsm with active := true, wait := fsm.wait - 1 }) :
    after.Midway (after.extendWords words) := by
  subst hafter
  have hle := hmidway.wait_le
  have hstarts : startsSequence { fsm with active := true, wait := fsm.wait - 1 } = false := by
    have hne : fsm.wait - 1 ≠ stepDelayCycles := by omega
    simp [startsSequence, hne]
  have hstate := hmidway.state_eq (Or.inl hwait)
  refine ⟨rfl, hmidway.noPhase, hmidway.step_le, Nat.le_trans (Nat.sub_le _ _) hle,
    fun _ => hstate, ?_⟩
  obtain ⟨step, hstepEq⟩ : ∃ step, fsm.step = step + 1 :=
    ⟨fsm.step - 1, (Nat.sub_add_cancel hstep).symm⟩
  have hcount : stepDelayCycles + 1 - (fsm.wait - 1) = stepDelayCycles + 1 - fsm.wait + 1 := by omega
  rw [extendWords, hstarts, hmidway.words_eq]
  simp only [Bool.false_eq_true, if_false, Option.map_some, Option.some.injEq]
  rw [hstate, hcount, hstepEq, Nat.add_sub_cancel, ladder_append_hold]

/-- A step of the enable sequence writes its own word, and the last one that of the step before. -/
theorem Ascending.enableStep {fsm after : EnableFsm} {words : Option (List UInt16)}
    (hascending : fsm.Ascending words) (hdesired : fsm.desiredEnable = true) (hwait : fsm.wait = 0)
    (hnoPhase : fsm.faultResetPhase = 0)
    (hafter : after = EnableFsm.enableStep { fsm with active := true }) :
    after.Ascending (after.extendWords words) ∧
      (after.completed = true →
        after.controlWordState = controlWordKeepOperation ∧
          after.extendWords words = some (ladder 4 (stepDelayCycles + 2))) := by
  unfold EnableFsm.enableStep at hafter
  by_cases hstep : fsm.step < 4
  · rw [if_pos (by exact hstep)] at hafter
    subst hafter
    refine ⟨fun _ _ => ?_, fun hcompleted => absurd hcompleted (by simp [completed])⟩
    refine ⟨rfl, hnoPhase, hstep, le_rfl, fun _ => rfl, ?_⟩
    rcases Nat.eq_zero_or_pos fsm.step with hfirst | hlater
    · simp [extendWords, startsSequence, hdesired, hfirst, ladder]
    · have hmidway := hascending hdesired hlater
      have hne : fsm.step + 1 ≠ 1 := by omega
      rw [extendWords, not_startsSequence_of_step hne, hmidway.words_eq, hwait]
      simp only [Bool.false_eq_true, if_false, Option.map_some, Option.some.injEq, Nat.sub_zero]
      rw [ladder_append_step]
      rfl
  · rw [if_neg (by exact hstep)] at hafter
    subst hafter
    have hmidway := hascending hdesired (by omega)
    have hlast : fsm.step = 4 := Nat.le_antisymm hmidway.step_le (Nat.le_of_not_lt hstep)
    have hstate := hmidway.state_eq (Or.inr hlast)
    rw [hlast] at hstate
    refine ⟨ascending_of_step_eq_zero rfl, fun _ => ⟨hstate, ?_⟩⟩
    have hstarts : startsSequence { fsm with
        active := false, enableRequested := true, step := 0, wait := 0,
        faultResetCounter := 0 } = false := by simp [startsSequence]
    rw [extendWords, hstarts, hmidway.words_eq, hlast, hwait]
    simp only [Bool.false_eq_true, if_false, Option.map_some, Option.some.injEq, Nat.sub_zero]
    rw [hstate]
    exact ladder_append_hold 3 (stepDelayCycles + 1)

/-- Advancing an ascending machine extends the words by one, and where it completes the sequence
these are all of its words. -/
theorem Ascending.advance {ctx : TxContext} {fsm : EnableFsm} {words : Option (List UInt16)}
    (hascending : fsm.Ascending words) (hdesired : fsm.desiredEnable = true)
    (hnoPhase : ctx.hasFault = false → fsm.faultResetPhase = 0) :
    (fsm.advance ctx).Ascending ((fsm.advance ctx).extendWords words) ∧
      ((fsm.advance ctx).completed = true → fsm.completed = false →
        (fsm.advance ctx).controlWordState = controlWordKeepOperation ∧
          (fsm.advance ctx).extendWords words = some (ladder 4 (stepDelayCycles + 2))) := by
  have hadvanced := advance_cases ctx fsm
  generalize fsm.advance ctx = after at hadvanced ⊢
  cases hadvanced with
  | rested hrunning =>
      -- an idle machine with its demand met is at step zero
      refine ⟨fun _ hstep => ?_, fun hcompleted hnot => ?_⟩
      · have hactive := (hascending hdesired hstep).active
        simp [running, hactive] at hrunning
      · exact absurd (hcompleted.symm.trans hnot) (by simp)
  | waited hrunning hwait =>
      refine ⟨fun _ hstep => ?_, fun hcompleted => absurd hcompleted (by simp [completed])⟩
      exact (hascending hdesired hstep).waited hstep hwait rfl
  | disabled hrunning hwait hnot => exact absurd (hnot.symm.trans hdesired) Bool.false_ne_true
  | enabled hrunning hwait _ hfault =>
      obtain ⟨hstill, hcompletes⟩ := hascending.enableStep hdesired hwait (hnoPhase hfault) rfl
      exact ⟨hstill, fun hcompleted _ => hcompletes hcompleted⟩
  | faulted hrunning hwait _ hfault =>
      -- a fault takes the machine back to step zero
      refine ⟨ascending_of_step_eq_zero (step_faultResetStep ?_), fun hcompleted => ?_⟩
      · rcases Nat.eq_zero_or_pos fsm.step with hstep | hstep
        · exact Or.inl hstep
        · exact Or.inr (hascending hdesired hstep).noPhase
      · have hactive : (faultResetStep ctx { fsm with active := true }).active = true :=
          active_faultResetStep ctx _
        simp [completed, hactive] at hcompleted

/-- Preparing completes nothing: it leaves demand and result alone, or trips a monitor. -/
theorem Prepared.not_completed {ctx : TxContext} {fsm prepared : EnableFsm}
    (hprepared : Prepared ctx fsm prepared) (hnot : fsm.completed = false) :
    prepared.completed = false := by
  cases hprepared with
  | quiet persist loss phase hphase => exact hnot
  | faultTripped loss hfault hsupervised => simp [completed]
  | lossTripped persist hfault hsupervised => simp [completed]

theorem Ascending.stepFsm (ctx : TxContext) {fsm : EnableFsm} {words : Option (List UInt16)}
    (hascending : fsm.Ascending words) (hplain : fsm.Plain)
    (hdesired : fsm.desiredEnable = true) :
    (fsm.stepFsm ctx).Ascending ((fsm.stepFsm ctx).extendWords words) ∧
      ((fsm.stepFsm ctx).completed = true → fsm.completed = false →
        (fsm.stepFsm ctx).controlWordState = controlWordKeepOperation ∧
          (fsm.stepFsm ctx).extendWords words = some (ladder 4 (stepDelayCycles + 2))) := by
  have hprepared := prepare_cases ctx hplain
  have hadvance := (hprepared.ascending hascending).advance
    (hprepared.desiredEnable_eq.trans hdesired) hprepared.noPhase
  rw [stepFsm_eq_advance_prepare]
  exact ⟨hadvance.1, fun hcompleted hnot =>
    hadvance.2 hcompleted (hprepared.not_completed hnot)⟩

theorem completed_shutdownForModeChange (fsm : EnableFsm) :
    fsm.shutdownForModeChange.completed = fsm.completed := by
  unfold shutdownForModeChange
  split <;> rfl

/-- A mode change that would overwrite a word the enable sequence still has to write. -/
def interruptsEnable (fsm : EnableFsm) : Bool :=
  fsm.desiredEnable && !fsm.enableRequested && 2 ≤ fsm.step && (0 < fsm.wait || 4 ≤ fsm.step)

theorem Ascending.shutdownForModeChange {fsm : EnableFsm} {words : Option (List UInt16)}
    (hascending : fsm.Ascending words) (hbetween : fsm.interruptsEnable = false) :
    fsm.shutdownForModeChange.Ascending words := by
  unfold EnableFsm.shutdownForModeChange
  split
  · exact hascending
  · rename_i hrequested
    intro hdesired hstep
    have hmidway := hascending hdesired hstep
    refine ⟨hmidway.active, hmidway.noPhase, hmidway.step_le, hmidway.wait_le, fun hwritten => ?_,
      hmidway.words_eq⟩
    have hfirst : fsm.step = 1 := by
      have hdesired : fsm.desiredEnable = true := hdesired
      have hpos : 0 < fsm.step := hstep
      have hwritten : 0 < fsm.wait ∨ fsm.step = 4 := hwritten
      simp only [interruptsEnable, hdesired, hrequested, Bool.not_false, Bool.true_and,
        Bool.and_eq_false_iff, Bool.or_eq_false_iff, decide_eq_false_iff_not] at hbetween
      omega
    show controlWordSwitchOn = cia402EnableSequence (fsm.step - 1)
    rw [hfirst]
    rfl

end EnableFsm

namespace EnableMachine

/-- The control words written to the axis at the index since its enable sequence last took its
first step, in the order of writing. -/
def sequenceWords (index : Nat) : List EnableVisit → Option (List UInt16)
  | [] => none
  | visit :: earlier =>
      match visit.after.axes[index]? with
      | none => none
      | some axis =>
          match visit.before.ready, visit.action with
          | true, .sendData _ _ =>
              if axis.fsm.startsSequence then some [axis.output.controlWord]
              else (sequenceWords index earlier).map (· ++ [axis.output.controlWord])
          | true, .safeOutput _ _ _ _ =>
              (sequenceWords index earlier).map (· ++ [axis.output.controlWord])
          | _, _ => sequenceWords index earlier

def completes (index : Nat) (visit : EnableVisit) : Bool :=
  (visit.after.axes[index]?.any fun axis => axis.isMotion && axis.fsm.completed) &&
    visit.before.axes[index]?.any fun axis => !axis.fsm.completed

/-- A visit that has just completed the enable sequence wrote Keep operation, and the words since
the start of the sequence are its four words in order, each held for the delay of a step. -/
def SequenceIntact (index : Nat) (config : EnableConfig) : Prop :=
  ∀ visit earlier, config.history = visit :: earlier → completes index visit = true →
    visit.after.axes[index]?.map (fun axis => axis.output.controlWord) =
        some controlWordKeepOperation ∧
      ∃ shutdown switchOn enableOperation keepOperation,
        stepDelayCycles ≤ shutdown ∧ stepDelayCycles ≤ switchOn ∧
          stepDelayCycles ≤ enableOperation ∧ stepDelayCycles ≤ keepOperation ∧
          sequenceWords index config.history = some
            (List.replicate shutdown controlWordSwitchOn ++
              List.replicate switchOn controlWordEnableVoltage ++
              List.replicate enableOperation controlWordEnableOperation ++
              List.replicate keepOperation controlWordKeepOperation)

/-- A step that does not overwrite the control word of an enable sequence of the axis. -/
def keepsSequence (index : Nat) (config : EnableConfig) : EnableAction → Bool
  | .setOperationMode motorId mode =>
      config.state.axes[index]?.all fun axis =>
        !(Servo.covers motorId index && axis.isMotion && axis.mode != mode) ||
          !axis.fsm.interruptsEnable
  | _ => true

structure EnablingAxis (words : Option (List UInt16)) (axis : Axis) : Prop where
  plain : axis.fsm.Plain
  ascending : axis.fsm.Ascending words

structure EnablingRun (index : Nat) (config : EnableConfig) : Prop where
  axisInvariant : config.state.MotionAt index (EnablingAxis (sequenceWords index config.history))
  intact : SequenceIntact index config

theorem EnablingAxis.startEnable {words : Option (List UInt16)} {axis : Axis}
    (haxis : EnablingAxis words axis) (enable : Bool) :
    EnablingAxis words (axis.startEnable enable) :=
  ⟨EnableFsm.startEnable_plain enable haxis.plain, EnableFsm.ascending_of_step_eq_zero rfl⟩

theorem EnablingAxis.applySafe {words words' : Option (List UInt16)} {axis : Axis}
    (haxis : EnablingAxis words axis) (entering : Bool) (actualPosition : Int32)
    (word : UInt16) : EnablingAxis words' (axis.applySafe entering actualPosition word) :=
  ⟨EnableFsm.forceSafe_plain entering word haxis.plain, fun hdesired => by
    cases entering <;> exact absurd hdesired (by simp [Axis.applySafe, EnableFsm.forceSafe])⟩

theorem EnablingAxis.applyMode {words : Option (List UInt16)} {axis : Axis}
    (haxis : EnablingAxis words axis) (mode : OperationMode)
    (hbetween : axis.isMotion = true → axis.mode ≠ mode → axis.fsm.interruptsEnable = false) :
    EnablingAxis words (axis.applyMode mode) := by
  refine ⟨Axis.plain_applyMode mode haxis.plain, ?_⟩
  unfold Axis.applyMode
  split
  · exact haxis.ascending
  · rename_i hchange
    simp only [Bool.or_eq_true, Bool.not_eq_true', decide_eq_true_eq, not_or,
      Bool.not_eq_false] at hchange
    exact haxis.ascending.shutdownForModeChange (hbetween hchange.1 hchange.2)

theorem EnablingAxis.receiveData {words : Option (List UInt16)} {axis : Axis}
    (haxis : EnablingAxis words axis) (input : TxPdo) :
    EnablingAxis words (axis.receiveData input) := ⟨haxis.plain, haxis.ascending⟩

/-- The words after one more `sendData` of an activated servo. -/
def sentWords (words : Option (List UInt16)) (axis : Axis) : Option (List UInt16) :=
  if axis.fsm.startsSequence then some [axis.output.controlWord]
  else words.map (· ++ [axis.output.controlWord])

theorem EnablingAxis.sendData {words : Option (List UInt16)} {axis : Axis}
    (haxis : EnablingAxis words axis) (wcOk : Bool) :
    EnablingAxis (sentWords words (axis.sendData true wcOk)) (axis.sendData true wcOk) ∧
      ((axis.sendData true wcOk).fsm.completed = true → axis.fsm.completed = false →
        (axis.sendData true wcOk).output.controlWord = controlWordKeepOperation ∧
          sentWords words (axis.sendData true wcOk) =
            some (EnableFsm.ladder 4 (stepDelayCycles + 2))) := by
  have hsent := EnableFsm.sendDataCommon_of_plain (axis.txContext true wcOk) haxis.plain rfl
  have hword : (axis.sendData true wcOk).output.controlWord =
      (axis.fsm.stepFsm (axis.txContext true wcOk)).controlWordState := by
    rw [Axis.controlWord_sendData, hsent]
  have hwords : sentWords words (axis.sendData true wcOk) =
      (axis.fsm.stepFsm (axis.txContext true wcOk)).extendWords words := by
    rw [sentWords, hword, Axis.fsm_sendData, hsent]
    rfl
  have hplain : (axis.sendData true wcOk).fsm.Plain := by
    rw [Axis.fsm_sendData]
    exact EnableFsm.sendDataCommon_plain haxis.plain
  rw [hwords, hword]
  by_cases hdesired : axis.fsm.desiredEnable = true
  · have hstep := haxis.ascending.stepFsm (axis.txContext true wcOk) haxis.plain hdesired
    refine ⟨⟨hplain, ?_⟩, ?_⟩
    · rw [Axis.fsm_sendData, hsent]
      intro hd hs
      have hmidway := hstep.1 hd hs
      exact ⟨hmidway.active, hmidway.noPhase, hmidway.step_le, hmidway.wait_le, hmidway.state_eq,
        hmidway.words_eq⟩
    · rw [Axis.fsm_sendData, hsent]
      exact hstep.2
  · have hafter : (axis.sendData true wcOk).fsm.desiredEnable = false := by
      rw [Axis.fsm_sendData, hsent]
      exact (EnableFsm.desiredEnable_stepFsm haxis.plain).trans (Bool.not_eq_true _ ▸ hdesired)
    refine ⟨⟨hplain, fun hd => absurd (hafter.symm.trans hd) (by simp)⟩, fun hcompleted => ?_⟩
    simp [EnableFsm.completed, hafter] at hcompleted

theorem sequenceIntact_of_not_completes {index : Nat} {config : EnableConfig}
    {action : EnableAction}
    (hnot : completes index (machine.visit config.state action) = false) :
    SequenceIntact index (machine.advance config action) := by
  intro visit earlier hhistory hcompletes
  obtain ⟨rfl, rfl⟩ := List.cons.inj hhistory
  exact absurd (hnot.symm.trans hcompletes) (by simp)

theorem axisInvariant_of_words {index : Nat} {servo : Servo} {words : Option (List UInt16)}
    (wordsOf : Axis → Option (List UInt16))
    (hinv : servo.MotionAt index fun axis => EnablingAxis (wordsOf axis) axis)
    (hwords : ∀ axis, servo.axes[index]? = some axis → words = wordsOf axis) :
    servo.MotionAt index (EnablingAxis words) := by
  intro axis haxis hmotion
  rw [hwords axis haxis]
  exact hinv axis haxis hmotion

theorem not_completes_of_map {index : Nat} {visit : EnableVisit} {update : Axis → Axis}
    (hmap : visit.after.axes[index]? = visit.before.axes[index]?.map update)
    (hupdate : ∀ axis, (update axis).fsm.completed = true → axis.fsm.completed = true) :
    completes index visit = false := by
  unfold completes
  rw [hmap]
  cases hbefore : visit.before.axes[index]? with
  | none => rfl
  | some axis =>
      simp only [Option.map_some, Option.any_some]
      by_cases hcompleted : (update axis).fsm.completed = true
      · simp [hupdate axis hcompleted]
      · simp [hcompleted]

theorem completed_applyMode (mode : OperationMode) (axis : Axis) :
    (axis.applyMode mode).fsm.completed = axis.fsm.completed := by
  unfold Axis.applyMode
  split
  · rfl
  · exact EnableFsm.completed_shutdownForModeChange axis.fsm

theorem getElem?_safeCycle (safeOutputActive : Bool) (resetCycles : Nat) (resetAxis : UInt16)
    (inputs : Nat → TxPdo) (servo : Servo) (index : Nat) :
    ∃ (position : Int32) (word : Axis → UInt16),
      (safeCycle safeOutputActive resetCycles resetAxis inputs servo).axes[index]? =
        servo.axes[index]?.map fun axis =>
          if servo.ready && axis.isMotion then
            (axis.receiveData (inputs index)).applySafe (!safeOutputActive) position (word axis)
          else axis := by
  let prepared : Servo :=
    { servo.receiveData inputs with
      safeOutputActive := safeOutputActive
      explicitFaultResetCycles := resetCycles
      explicitFaultResetAxis := resetAxis }
  have hready : prepared.ready = servo.ready := Servo.ready_receiveData inputs servo
  have haxes : prepared.axes[index]? = (servo.receiveData inputs).axes[index]? := rfl
  refine ⟨prepared.getPosition (index % 256), fun axis =>
    prepared.safeControlWord index (axis.receiveData (inputs index)), ?_⟩
  show prepared.applySafeProcessImageOutputs.axes[index]? = _
  rw [Servo.getElem?_applySafe, haxes, Servo.getElem?_receiveData, Option.map_map, hready]
  congr 1
  funext axis
  simp only [Function.comp_apply]
  by_cases hpinned : (servo.ready && axis.isMotion) = true
  · rw [if_pos hpinned, Axis.isMotion_receiveData, if_pos hpinned, if_pos hpinned]
  · rw [if_neg hpinned, if_neg hpinned, if_neg hpinned]

theorem not_completed_applySafe (entering : Bool) (actualPosition : Int32) (word : UInt16)
    (axis : Axis) : (axis.applySafe entering actualPosition word).fsm.completed = false := by
  cases entering <;> simp [Axis.applySafe, EnableFsm.forceSafe, EnableFsm.completed]

theorem ladder_four :
    EnableFsm.ladder 4 (stepDelayCycles + 2) =
      List.replicate 11 controlWordSwitchOn ++ List.replicate 11 controlWordEnableVoltage ++
        List.replicate 11 controlWordEnableOperation ++
        List.replicate 12 controlWordKeepOperation := rfl

theorem EnablingRun.unready {index : Nat} {config : EnableConfig} {action : EnableAction}
    (hrun : EnablingRun index config) (hready : config.state.ready = false)
    (hsame : (next config.state action).axes[index]? = config.state.axes[index]?) :
    EnablingRun index (machine.advance config action) := by
  constructor
  · intro axis haxis hmotion
    have hafter : (next config.state action).axes[index]? = some axis := haxis
    have hwords : sequenceWords index (machine.advance config action).history =
        sequenceWords index config.history := by
      simp [sequenceWords, machine, hafter, hready]
    rw [hwords]
    exact hrun.axisInvariant axis (hsame.symm.trans hafter) hmotion
  · apply sequenceIntact_of_not_completes
    have hmap : (next config.state action).axes[index]? =
        config.state.axes[index]?.map id := by
      rw [hsame, Option.map_id, id]
    exact not_completes_of_map hmap fun _ hcompleted => hcompleted

theorem EnablingRun.safeOutput {index : Nat} {config : EnableConfig}
    (hrun : EnablingRun index config) (safeOutputActive : Bool) (resetCycles : Nat)
    (resetAxis : UInt16) (inputs : Nat → TxPdo) :
    EnablingRun index
      (machine.advance config (.safeOutput safeOutputActive resetCycles resetAxis inputs)) := by
  obtain ⟨position, word, hmap⟩ := getElem?_safeCycle safeOutputActive resetCycles resetAxis
    inputs config.state index
  by_cases hready : config.state.ready = true
  swap
  · rw [Bool.not_eq_true] at hready
    apply hrun.unready hready
    exact hmap.trans (by simp [hready])
  constructor
  · refine hrun.axisInvariant.of_map hmap (fun axis => by split <;> rfl)
      fun axis _ hmotion haxisInv => ?_
    rw [hready, hmotion, Bool.true_and, if_pos rfl]
    exact (haxisInv.receiveData (inputs index)).applySafe _ _ _
  · refine sequenceIntact_of_not_completes (not_completes_of_map hmap fun axis => ?_)
    split
    · intro hcompleted
      exact absurd hcompleted (by simp [not_completed_applySafe])
    · exact id

theorem EnablingRun.sendData {index : Nat} {config : EnableConfig}
    (hrun : EnablingRun index config) (domain : DomainState) (inputs : Nat → TxPdo)
    (hready : config.state.ready = true) :
    EnablingRun index (machine.advance config (.sendData domain inputs)) := by
  have hinv := hrun.axisInvariant
  have hmap := Servo.getElem?_sendCycle inputs domain config.state index
  have hwords : ∀ axis,
      (next config.state (.sendData domain inputs)).axes[index]? = some axis →
      sequenceWords index (machine.advance config (.sendData domain inputs)).history =
        sentWords (sequenceWords index config.history) axis := by
    intro axis haxis
    simp [sequenceWords, machine, haxis, hready, sentWords]
  constructor
  · refine axisInvariant_of_words (sentWords (sequenceWords index config.history)) ?_ hwords
    refine hinv.of_map hmap (fun axis => by split <;> rfl) fun axis _ hmotion haxisInv => ?_
    rw [hready, hmotion, Bool.true_and, if_pos rfl]
    exact ((haxisInv.receiveData (inputs index)).sendData _).1
  · intro visit earlier hhistory hcompletes
    obtain ⟨rfl, rfl⟩ := List.cons.inj hhistory
    cases hbefore : config.state.axes[index]? with
    | none => simp [completes, hbefore] at hcompletes
    | some axis =>
        by_cases hmotion : axis.isMotion = true
        swap
        · -- another slave is passed over
          have hafter : (next config.state (.sendData domain inputs)).axes[index]? = some axis := by
            rw [Bool.not_eq_true] at hmotion
            exact hmap.trans (by simp [hbefore, hmotion])
          simp [completes, machine, hafter, hmotion] at hcompletes
        let sent := (axis.receiveData (inputs index)).sendData true (domain.wcState == .complete)
        have hafter : (next config.state (.sendData domain inputs)).axes[index]? = some sent :=
          hmap.trans (by simp [hbefore, hready, hmotion, sent])
        have hcompleted : sent.fsm.completed = true ∧ axis.fsm.completed = false := by
          simp only [completes, Machine.visit_after, Machine.visit_before, machine, hafter, hbefore,
            Option.any_some, Bool.and_eq_true, Bool.not_eq_true'] at hcompletes
          exact ⟨hcompletes.1.2, hcompletes.2⟩
        have haxisInv := (hinv axis hbefore hmotion).receiveData (inputs index)
        have hladder := (haxisInv.sendData (domain.wcState == .complete)).2 hcompleted.1
          hcompleted.2
        constructor
        · show (next config.state (.sendData domain inputs)).axes[index]?.map _ = _
          rw [hafter, Option.map_some]
          exact congrArg some hladder.1
        · refine ⟨11, 11, 11, 12, by decide, by decide, by decide, by decide, ?_⟩
          rw [hwords sent hafter, ← ladder_four]
          exact hladder.2

theorem EnablingRun.advance {index : Nat} {config : EnableConfig} {action : EnableAction}
    (hrun : EnablingRun index config) (hkeeps : keepsSequence index config action = true) :
    EnablingRun index (machine.advance config action) := by
  have hinv := hrun.axisInvariant
  cases action with
  | setEnable flags motorId enable =>
      constructor
      · refine axisInvariant_of_words (fun _ => sequenceWords index config.history)
          (hinv.setEnable fun axis _ _ _ haxis => haxis.startEnable enable) fun axis haxis => ?_
        have haxis : (next config.state (.setEnable flags motorId enable)).axes[index]? =
          some axis := haxis
        simp [sequenceWords, machine, haxis]
      · refine sequenceIntact_of_not_completes (not_completes_of_map
          (Servo.getElem?_setEnable flags motorId enable config.state index) fun axis => ?_)
        split
        · exact fun h => absurd h
            (by simp [Axis.startEnable, EnableFsm.startEnable, EnableFsm.completed])
        · exact id
  | setOperationMode motorId mode =>
      constructor
      · refine axisInvariant_of_words (fun _ => sequenceWords index config.history)
          (hinv.setOperationMode fun axis haxis hmotion hcovers haxisInv =>
            haxisInv.applyMode mode fun _ hmode => ?_) fun axis haxis => ?_
        · simpa [keepsSequence, haxis, hcovers, hmotion, hmode] using hkeeps
        · have haxis : (next config.state (.setOperationMode motorId mode)).axes[index]? =
            some axis := haxis
          simp [sequenceWords, machine, haxis]
      · refine sequenceIntact_of_not_completes (not_completes_of_map
          (Servo.getElem?_setOperationMode motorId mode config.state index) fun axis => ?_)
        split
        · rw [completed_applyMode]
          exact id
        · exact id
  | safeOutput safeOutputActive resetCycles resetAxis inputs =>
      exact hrun.safeOutput safeOutputActive resetCycles resetAxis inputs
  | sendData domain inputs =>
      by_cases hready : config.state.ready = true
      · exact hrun.sendData domain inputs hready
      · rw [Bool.not_eq_true] at hready
        apply hrun.unready hready
        exact (Servo.getElem?_sendCycle inputs domain config.state index).trans (by simp [hready])

/-- From a newly activated servo, in every run whose mode changes leave the enable sequence of the
axis alone, whatever completes it wrote its four words in order and holds Keep operation. -/
theorem sequenceIntact_of_keepsSequence (setup : ServoSetup) (index : Nat)
    (actions : List EnableAction)
    (hkeeps : machine.Meets (fun config action => keepsSequence index config action = true)
      (Config.start setup.servo) actions) :
    SequenceIntact index (machine.exec (Config.start setup.servo) actions) := by
  have hfresh : setup.servo.MotionAt index (EnablingAxis none) := by
    refine (fresh_setup setup index).imp fun axis hfsm => ?_
    exact ⟨hfsm ▸ ⟨rfl, rfl⟩, EnableFsm.ascending_of_step_eq_zero (hfsm ▸ rfl)⟩
  have hstart : EnablingRun index (Config.start setup.servo) :=
    ⟨hfresh, fun visit earlier hhistory => absurd hhistory (by simp)⟩
  have hrun := machine.exec_invariant_of_meets
    (fun config action hrun hkept => EnablingRun.advance hrun hkept) hstart hkeeps
  exact hrun.intact

/-- An axis that is being enabled changes its mode while it writes Keep operation: the sequence
completes on Shutdown. -/
def modeChangeAtKeepOperation : List EnableAction :=
  .setEnable permissiveFlags 0 true ::
    (List.replicate 34 (.sendData completeDomain fun _ => {}) ++
      .setOperationMode 0 .cyclicSyncVelocity ::
        List.replicate 11 (.sendData completeDomain fun _ => {}))

theorem not_sequenceIntact :
    ¬ ∀ setup actions index,
      SequenceIntact index (machine.exec (Config.start (ServoSetup.servo setup)) actions) := by
  intro hall
  have hintact := hall singleAxisSetup modeChangeAtKeepOperation 0 _ _ rfl (by decide +kernel)
  exact absurd hintact.1 (by decide +kernel)

/-- A whole enable sequence, after a mode change. -/
theorem sequenceIntact_after_enable :
    SequenceIntact 0 (machine.exec (Config.start singleAxisSetup.servo)
      (.setOperationMode 0 .cyclicSyncVelocity :: .setEnable permissiveFlags 0 true ::
        List.replicate 45 (.sendData completeDomain fun _ => {}))) :=
  sequenceIntact_of_keepsSequence singleAxisSetup 0 _ (by decide +kernel)

end EnableMachine

end IghMaster
