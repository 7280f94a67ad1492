import IghMaster.EventLog
import IghMaster.Proof.ControlWords
import Mathlib.Data.List.Forall2

/-!
# What one cycle logs

The entries of an axis in the `last_logged_` vectors are those of the cycle that its last event told of.
So the log of the next cycle tells that one in the way the log before told the earlier ones.
-/

namespace IghMaster

theorem eventsOf_append (motorId : Nat) (type : RuntimeLogEventType)
    (first second : List RuntimeLogEvent) :
    eventsOf motorId type (first ++ second) = eventsOf motorId type first ++ eventsOf motorId type second :=
  List.filter_append ..

@[simp]
theorem eventsOf_nil (motorId : Nat) (type : RuntimeLogEventType) : eventsOf motorId type [] = [] := rfl

theorem eventsOf_cons {motorId : Nat} {event : RuntimeLogEvent} (hmotor : event.motorId.toNat = motorId)
    (type : RuntimeLogEventType) (rest : List RuntimeLogEvent) :
    eventsOf motorId type (event :: rest) =
      (if event.type = type then [event] else []) ++ eventsOf motorId type rest := by
  unfold eventsOf
  by_cases htype : event.type = type
  · rw [if_pos htype, List.filter_cons_of_pos (by simpa using ⟨hmotor, htype⟩)]
    rfl
  · rw [if_neg htype, List.filter_cons_of_neg (by simpa using fun _ => htype)]
    rfl

theorem eventsOf_eq_nil {motorId : Nat} {events : List RuntimeLogEvent}
    (hother : ∀ event ∈ events, event.motorId.toNat ≠ motorId) (type : RuntimeLogEventType) :
    eventsOf motorId type events = [] := by
  apply List.filter_eq_nil_iff.mpr
  intro event hevent
  simpa using fun hmotor => absurd hmotor (hother event hevent)

theorem SentCycle.samples_concat (cycles : List SentCycle) (cycle : SentCycle) :
    samples (cycles ++ [cycle]) =
      samples cycles ++ if (cycles.length + 1) % 100 = 0 then [cycle] else [] := by
  have hinterval : targetLogIntervalCycles.toNat = 100 := rfl
  unfold samples
  rw [List.zipIdx_append, List.filter_append, List.map_append, Nat.zero_add, hinterval]
  congr 1
  rw [List.zipIdx_singleton]
  by_cases hsample : (cycles.length + 1) % 100 = 0
  · rw [if_pos hsample, List.filter_cons_of_pos (by simpa using hsample)]
    rfl
  · rw [if_neg hsample, List.filter_cons_of_neg (by simpa using hsample)]
    rfl

section Shows

variable {index : Nat} (hindex : index < 256) (type : RuntimeLogEventType) (nowNs : UInt64)
  (controlWord : UInt16) (detail : String) (axis : Axis) (wcOk : Bool)

include hindex

theorem Axis.motorId_runtimeEvent :
    (axis.runtimeEvent index type nowNs controlWord detail).motorId.toNat = index := by
  change index.toUInt8.toNat = index
  rw [Nat.toUInt8_eq, UInt8.toNat_ofNat']
  exact Nat.mod_eq_of_lt hindex

/-- The axis as it is logged has its pending commands merged. -/
theorem Axis.shows_runtimeEvent :
    (Axis.runtimeEvent index type nowNs controlWord detail
      { axis with setpoints := axis.setpoints.mergePending }).Shows index (axis.sentCycle true wcOk) where
  motorId := Axis.motorId_runtimeEvent hindex ..
  statusWord := rfl
  cia402State := rfl
  operationMode := rfl
  targetPosition := rfl
  targetVelocity := rfl
  targetTorque := rfl

end Shows

namespace AxisLog

/-- What is remembered of the samples. -/
structure Samples (cycles : List SentCycle) (log : AxisLog) : Prop where
  counter : log.targetSetpointLogCounter.toNat = cycles.length % 100
  targetPosition : log.targetPosition = (ChangeLog.last SentCycle.sampleDiffers SentCycle.unlogged
    (SentCycle.samples cycles)).targetPosition
  targetVelocity : log.targetVelocity = (ChangeLog.last SentCycle.sampleDiffers SentCycle.unlogged
    (SentCycle.samples cycles)).targetVelocity
  targetTorque : log.targetTorque = (ChangeLog.last SentCycle.sampleDiffers SentCycle.unlogged
    (SentCycle.samples cycles)).targetTorque

/-- What is remembered is what the last logged cycles showed. -/
structure Tracks (cycles : List SentCycle) (log : AxisLog) : Prop where
  statusWord : log.statusWord = (cycles.getLast?.map SentCycle.statusWord).getD 0xFFFF
  cia402State : log.cia402State =
    (cycles.getLast?.map fun cycle => (decodeCia402State cycle.statusWord).value).getD 0xFFFF
  controlWord : log.controlWord = (cycles.getLast?.map SentCycle.controlWord).getD 0xFFFF
  samples : log.Samples cycles

theorem tracks_nil : ({} : AxisLog).Tracks [] := ⟨rfl, rfl, rfl, rfl, rfl, rfl, rfl⟩

variable {cycles : List SentCycle} {log : AxisLog}

/-- The first status word is logged as well: no state has the value that is remembered at first. -/
theorem Tracks.stateDiffers_iff (htracks : log.Tracks cycles) (statusWord : UInt16) :
    (statusWord ≠ log.statusWord ∨ (decodeCia402State statusWord).value ≠ log.cia402State) ↔
      ¬ cycles.getLast?.map SentCycle.statusWord = some statusWord := by
  rw [htracks.statusWord, htracks.cia402State]
  cases cycles.getLast? with
  | none =>
      simp only [Option.map_none, Option.getD_none, reduceCtorEq, not_false_eq_true, iff_true]
      exact Or.inr (Cia402State.value_ne _)
  | some cycle =>
      simp only [Option.map_some, Option.getD_some, Option.some.injEq]
      constructor
      · rintro (hword | hstate) rfl
        · exact hword rfl
        · exact hstate rfl
      · exact fun hword => Or.inl fun h => hword h.symm

variable (index : Nat) (nowNs : UInt64) (controlWord : UInt16) (axis : Axis)

/-- What `logState` adds, and what it leaves remembered. -/
theorem Tracks.logState (htracks : log.Tracks cycles) :
    (log.logState index nowNs axis).1 =
        { log with
          statusWord := axis.input.statusWord
          cia402State := (decodeCia402State axis.input.statusWord).value } ∧
      (log.logState index nowNs axis).2 =
        if cycles.getLast?.map SentCycle.statusWord = some axis.input.statusWord then []
        else
          axis.runtimeEvent index .cia402State nowNs axis.fsm.controlWordState "" ::
            if isCiA402Fault axis.input.statusWord then
              [axis.runtimeEvent index .errorCode nowNs axis.fsm.controlWordState "fault_detected"]
            else [] := by
  have hdiffers := htracks.stateDiffers_iff axis.input.statusWord
  unfold AxisLog.logState
  dsimp only
  by_cases hsame : cycles.getLast?.map SentCycle.statusWord = some axis.input.statusWord
  · have hkept := mt hdiffers.mp (not_not.mpr hsame)
    have hword : axis.input.statusWord = log.statusWord := not_not.mp (not_or.mp hkept).1
    have hstate : (decodeCia402State axis.input.statusWord).value = log.cia402State :=
      not_not.mp (not_or.mp hkept).2
    rw [if_neg hkept, if_pos hsame, hstate, hword]
    exact ⟨rfl, rfl⟩
  · rw [if_pos (hdiffers.mpr hsame), if_neg hsame]
    exact ⟨rfl, rfl⟩

theorem Tracks.logControlWord (hword : log.controlWord =
      (cycles.getLast?.map SentCycle.controlWord).getD 0xFFFF) (hknown : controlWord ≠ 0xFFFF) :
    (log.logControlWord index nowNs controlWord axis).1 = { log with controlWord := controlWord } ∧
      (log.logControlWord index nowNs controlWord axis).2 =
        if cycles.getLast?.map SentCycle.controlWord = some controlWord then []
        else [axis.runtimeEvent index .controlWord nowNs controlWord "control_word_write"] := by
  have hdiffers : controlWord ≠ log.controlWord ↔
      ¬ cycles.getLast?.map SentCycle.controlWord = some controlWord := by
    rw [hword]
    cases cycles.getLast? with
    | none => simpa using hknown
    | some cycle => simpa using not_congr eq_comm
  unfold AxisLog.logControlWord
  by_cases hsame : cycles.getLast?.map SentCycle.controlWord = some controlWord
  · have hkept := mt hdiffers.mp (not_not.mpr hsame)
    rw [if_neg hkept, if_pos hsame, not_not.mp hkept]
    exact ⟨rfl, rfl⟩
  · rw [if_pos (hdiffers.mpr hsame), if_neg hsame]
    exact ⟨rfl, rfl⟩

/-- The targets of the axis are those of the cycle. -/
structure Holds (axis : Axis) (cycle : SentCycle) : Prop where
  targetPosition : axis.setpoints.targetPosition = cycle.targetPosition
  targetVelocity : axis.setpoints.targetVelocity = cycle.targetVelocity
  targetTorque : axis.setpoints.targetTorque = cycle.targetTorque
  inMotion : (axis.setpoints.positionOverrideActive || axis.setpoints.velocityOverrideActive) =
    cycle.inMotion

/-- The cycle is the hundredth since the last sample, and worth an event. -/
def IsLoggedSample (cycles : List SentCycle) (cycle : SentCycle) : Prop :=
  (cycles.length + 1) % 100 = 0 ∧
    SentCycle.sampleDiffers
      (ChangeLog.last SentCycle.sampleDiffers SentCycle.unlogged (SentCycle.samples cycles)) cycle

instance (cycles : List SentCycle) (cycle : SentCycle) : Decidable (IsLoggedSample cycles cycle) :=
  inferInstanceAs (Decidable (_ ∧ _))

theorem kept_samples_concat (cycles : List SentCycle) (cycle : SentCycle) :
    ChangeLog.kept SentCycle.sampleDiffers SentCycle.unlogged (SentCycle.samples (cycles ++ [cycle])) =
      ChangeLog.kept SentCycle.sampleDiffers SentCycle.unlogged (SentCycle.samples cycles) ++
        if IsLoggedSample cycles cycle then [cycle] else [] := by
  rw [SentCycle.samples_concat]
  by_cases hsample : (cycles.length + 1) % 100 = 0
  · rw [if_pos hsample, ChangeLog.kept_concat]
    congr 1
    exact if_congr (and_iff_right hsample).symm rfl rfl
  · rw [if_neg hsample, List.append_nil, if_neg fun h => hsample h.1, List.append_nil]

theorem last_samples_concat (cycles : List SentCycle) (cycle : SentCycle) :
    ChangeLog.last SentCycle.sampleDiffers SentCycle.unlogged (SentCycle.samples (cycles ++ [cycle])) =
      if IsLoggedSample cycles cycle then cycle
      else ChangeLog.last SentCycle.sampleDiffers SentCycle.unlogged (SentCycle.samples cycles) := by
  rw [SentCycle.samples_concat]
  by_cases hsample : (cycles.length + 1) % 100 = 0
  · rw [if_pos hsample, ChangeLog.last_concat]
    exact if_congr (and_iff_right hsample).symm rfl rfl
  · rw [if_neg hsample, List.append_nil, if_neg fun h => hsample h.1]

theorem Samples.changed_iff (hsamples : log.Samples cycles) {cycle : SentCycle}
    (hholds : Holds axis cycle) :
    log.targetsChanged axis = true ↔ SentCycle.targetsDiffer
      (ChangeLog.last SentCycle.sampleDiffers SentCycle.unlogged (SentCycle.samples cycles)) cycle := by
  rw [targetsChanged, hsamples.targetPosition, hsamples.targetVelocity, hsamples.targetTorque,
    hholds.targetPosition, hholds.targetVelocity, hholds.targetTorque, Bool.or_eq_true,
    Bool.or_eq_true, bne_iff_ne, bne_iff_ne, bne_iff_ne, or_assoc]
  rfl

theorem Samples.maybeLogTargetSetpoint (hsamples : log.Samples cycles) {cycle : SentCycle}
    (hholds : Holds axis cycle) :
    (log.maybeLogTargetSetpoint true index nowNs controlWord axis).1.Samples (cycles ++ [cycle]) ∧
      (log.maybeLogTargetSetpoint true index nowNs controlWord axis).2 =
        if IsLoggedSample cycles cycle then
          [axis.runtimeEvent index .targetSetpoint nowNs controlWord ""] else [] := by
  have hlimit : targetLogIntervalCycles.toNat = 100 := rfl
  have hnext : (log.targetSetpointLogCounter + 1).toNat = cycles.length % 100 + 1 := by
    rw [UInt16.toNat_add, hsamples.counter, UInt16.toNat_one]
    omega
  have hcounter : log.targetSetpointLogCounter + 1 < targetLogIntervalCycles ↔
      ¬ (cycles.length + 1) % 100 = 0 := by
    rw [UInt16.lt_iff_toNat_lt, hnext, hlimit]
    omega
  unfold AxisLog.maybeLogTargetSetpoint
  rw [Bool.not_true, if_neg Bool.false_ne_true]
  dsimp only
  by_cases hsample : (cycles.length + 1) % 100 = 0
  · have hskips : (!(axis.setpoints.positionOverrideActive || axis.setpoints.velocityOverrideActive) &&
        !log.targetsChanged axis) = true ↔ ¬ IsLoggedSample cycles cycle := by
      rw [hholds.inMotion, Bool.and_eq_true, Bool.not_eq_true', Bool.not_eq_true',
        ← Bool.not_eq_true, ← Bool.not_eq_true, hsamples.changed_iff axis hholds, ← not_or]
      exact not_congr (and_iff_right hsample).symm
    have hzero : (0 : UInt16).toNat = (cycles ++ [cycle]).length % 100 := by
      rw [List.length_append, List.length_singleton, hsample]
      rfl
    rw [if_neg (mt hcounter.mp (not_not.mpr hsample))]
    by_cases hlogged : IsLoggedSample cycles cycle
    · rw [if_neg (mt hskips.mp (not_not.mpr hlogged)), if_pos hlogged]
      refine ⟨⟨hzero, ?_, ?_, ?_⟩, rfl⟩
      all_goals rw [last_samples_concat, if_pos hlogged]
      · exact hholds.targetPosition
      · exact hholds.targetVelocity
      · exact hholds.targetTorque
    · rw [if_pos (hskips.mpr hlogged), if_neg hlogged]
      refine ⟨⟨hzero, ?_, ?_, ?_⟩, rfl⟩
      all_goals rw [last_samples_concat, if_neg hlogged]
      · exact hsamples.targetPosition
      · exact hsamples.targetVelocity
      · exact hsamples.targetTorque
  · rw [if_pos (hcounter.mpr hsample), if_neg fun h => hsample h.1]
    refine ⟨⟨?_, ?_, ?_, ?_⟩, rfl⟩
    · rw [hnext, List.length_append, List.length_singleton]
      omega
    all_goals rw [last_samples_concat, if_neg fun h => hsample h.1]
    · exact hsamples.targetPosition
    · exact hsamples.targetVelocity
    · exact hsamples.targetTorque

/-- Sampling leaves the remembered words alone. -/
theorem words_maybeLogTargetSetpoint (log : AxisLog) (activated : Bool) :
    let after := (log.maybeLogTargetSetpoint activated index nowNs controlWord axis).1
    after.statusWord = log.statusWord ∧ after.cia402State = log.cia402State ∧
      after.controlWord = log.controlWord := by
  unfold AxisLog.maybeLogTargetSetpoint
  dsimp only
  split_ifs <;> exact ⟨rfl, rfl, rfl⟩

/-- The parts of `sendData`, with the word that the cycle sends. -/
theorem sendData_eq (log : AxisLog) (clock : LogClock) (wcOk : Bool) {merged : Axis}
    {cycle : SentCycle} (hmerged : merged = { axis with setpoints := axis.setpoints.mergePending })
    (hcycle : cycle = axis.sentCycle true wcOk) :
    log.sendData true wcOk index clock axis =
      let state := log.logState index clock.state merged
      let control := state.1.logControlWord index clock.control cycle.controlWord merged
      let target := control.1.maybeLogTargetSetpoint true index clock.target cycle.controlWord merged
      (target.1, state.2 ++ control.2 ++ target.2) := by
  rw [hmerged, hcycle]
  rfl

/-- What one motor in the loop of `sendData` adds, and what it leaves remembered. -/
theorem Tracks.sendData_eq (htracks : log.Tracks cycles) (clock : LogClock) {wcOk : Bool} {merged : Axis}
    {cycle : SentCycle} (hmerged : merged = { axis with setpoints := axis.setpoints.mergePending })
    (hcycle : cycle = axis.sentCycle true wcOk) (hknown : cycle.controlWord ≠ 0xFFFF) :
    (log.sendData true wcOk index clock axis).1.Tracks (cycles ++ [cycle]) ∧
      (log.sendData true wcOk index clock axis).2 =
        (if cycles.getLast?.map SentCycle.statusWord = some cycle.statusWord then []
          else
            merged.runtimeEvent index .cia402State clock.state merged.fsm.controlWordState "" ::
              if isCiA402Fault cycle.statusWord then
                [merged.runtimeEvent index .errorCode clock.state merged.fsm.controlWordState
                  "fault_detected"]
              else []) ++
          (if cycles.getLast?.map SentCycle.controlWord = some cycle.controlWord then []
            else [merged.runtimeEvent index .controlWord clock.control cycle.controlWord
              "control_word_write"]) ++
          (if IsLoggedSample cycles cycle then
            [merged.runtimeEvent index .targetSetpoint clock.target cycle.controlWord ""]
          else []) := by
  have hstatus : merged.input.statusWord = cycle.statusWord := by
    rw [hmerged, hcycle]
    rfl
  have hholds : Holds merged cycle := by
    rw [hmerged, hcycle]
    exact ⟨rfl, rfl, rfl, rfl⟩
  rw [AxisLog.sendData_eq index axis log clock wcOk hmerged hcycle]
  dsimp only
  obtain ⟨hstate, hstateEvents⟩ := htracks.logState index clock.state merged
  rw [hstatus] at hstate hstateEvents
  rw [hstate, hstateEvents]
  obtain ⟨hcontrol, hcontrolEvents⟩ :=
    @Tracks.logControlWord cycles
      { log with
        statusWord := cycle.statusWord
        cia402State := (decodeCia402State cycle.statusWord).value }
      index clock.control cycle.controlWord merged htracks.controlWord hknown
  rw [hcontrol, hcontrolEvents]
  have hsamples : ({ log with
      statusWord := cycle.statusWord
      cia402State := (decodeCia402State cycle.statusWord).value
      controlWord := cycle.controlWord } : AxisLog).Samples cycles :=
    ⟨htracks.samples.counter, htracks.samples.targetPosition, htracks.samples.targetVelocity,
      htracks.samples.targetTorque⟩
  obtain ⟨hsampled, hsampleEvents⟩ :=
    hsamples.maybeLogTargetSetpoint index clock.target cycle.controlWord merged hholds
  obtain ⟨hstatusWord, hcia402State, hcontrolWord⟩ :=
    words_maybeLogTargetSetpoint index clock.target cycle.controlWord merged _ true
  rw [hsampleEvents]
  refine ⟨⟨?_, ?_, ?_, hsampled⟩, rfl⟩
  all_goals rw [List.getLast?_concat]
  · exact hstatusWord
  · exact hcia402State
  · exact hcontrolWord

/-- One motor in the loop of `sendData`: the log goes on to track the cycles, and the new events tell the
new one. -/
theorem Tracks.sendData (htracks : log.Tracks cycles) {index : Nat} (hindex : index < 256)
    (clock : LogClock) {axis : Axis} {wcOk : Bool}
    (hknown : (axis.sentCycle true wcOk).controlWord ≠ 0xFFFF) {events : List RuntimeLogEvent}
    (htold : ToldBy index cycles events) :
    (log.sendData true wcOk index clock axis).1.Tracks (cycles ++ [axis.sentCycle true wcOk]) ∧
      ToldBy index (cycles ++ [axis.sentCycle true wcOk])
        (events ++ (log.sendData true wcOk index clock axis).2) := by
  obtain ⟨merged, hmerged⟩ :
      ∃ merged : Axis, merged = { axis with setpoints := axis.setpoints.mergePending } := ⟨_, rfl⟩
  obtain ⟨cycle, hcycle⟩ : ∃ cycle, cycle = axis.sentCycle true wcOk := ⟨_, rfl⟩
  have hshows : ∀ type nowNs controlWord detail,
      (merged.runtimeEvent index type nowNs controlWord detail).Shows index cycle := by
    intro type nowNs controlWord detail
    rw [hmerged, hcycle]
    exact Axis.shows_runtimeEvent hindex type nowNs controlWord detail axis wcOk
  rw [← hcycle] at hknown ⊢
  obtain ⟨htracked, hevents⟩ := htracks.sendData_eq index axis clock hmerged hcycle hknown
  refine ⟨htracked, ?_⟩
  have hcons : ∀ type logged nowNs controlWord detail rest,
      eventsOf index type (merged.runtimeEvent index logged nowNs controlWord detail :: rest) =
        (if logged = type then [merged.runtimeEvent index logged nowNs controlWord detail] else []) ++
          eventsOf index type rest := by
    intro type logged nowNs controlWord detail rest
    exact eventsOf_cons (Axis.motorId_runtimeEvent hindex ..) type rest
  have hif : ∀ type (condition : Prop) [Decidable condition] (first second : List RuntimeLogEvent),
      eventsOf index type (if condition then first else second) =
        if condition then eventsOf index type first else eventsOf index type second :=
    fun type condition _ first second => apply_ite (eventsOf index type) condition first second
  have hstatusKey : ∀ first second : SentCycle,
      SentCycle.statusDiffers first second ↔ second.statusWord ≠ first.statusWord :=
    fun _ _ => Iff.rfl
  have hcontrolKey : ∀ first second : SentCycle,
      SentCycle.controlDiffers first second ↔ second.controlWord ≠ first.controlWord :=
    fun _ _ => Iff.rfl
  rw [hevents]
  refine ⟨?_, ?_, ?_, ?_⟩
  all_goals
    simp only [eventsOf_append, hif, hcons, eventsOf_nil, reduceCtorEq, if_true, if_false,
      List.nil_append, List.append_nil, ite_self]
  · rw [ChangeLog.destutter_concat hstatusKey]
    apply List.rel_append htold.states
    split_ifs
    · exact .nil
    · exact .cons (hshows ..) .nil
  · rw [ChangeLog.destutter_concat hstatusKey, List.filter_append]
    apply List.rel_append htold.faults
    split_ifs with hsame hfault
    · exact .nil
    · have hkept : [cycle].filter (fun cycle => isCiA402Fault cycle.statusWord) = [cycle] := by
        simpa using hfault
      rw [hkept]
      exact .cons (hshows ..) .nil
    · have hdropped : [cycle].filter (fun cycle => isCiA402Fault cycle.statusWord) = [] := by
        simpa using hfault
      rw [hdropped]
      exact .nil
  · rw [ChangeLog.destutter_concat hcontrolKey]
    apply List.rel_append htold.controlWords
    split_ifs
    · exact .nil
    · exact .cons ⟨hshows .., rfl⟩ .nil
  · rw [kept_samples_concat]
    apply List.rel_append htold.setpoints
    split_ifs
    · exact .cons ⟨hshows .., rfl⟩ .nil
    · exact .nil

end AxisLog

end IghMaster
