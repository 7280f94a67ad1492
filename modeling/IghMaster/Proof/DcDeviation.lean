import IghMaster.DcSync

/-!
# The reported deviation of the distributed clocks

Only a call that updates the PLL normalises the difference it read. A read too few for an update
leaves the difference as it was read, and a call that cannot read brings back the last difference read,
which `prevDcDiffNs` need not be the last one of. The runs in which neither shows are described
exactly, call by call.
-/

namespace IghMaster

open Transition

namespace EtherCATSync

/-! ### Normalisation -/

section Normalise

variable {cycle : Int} (hcycle : 0 < cycle)
include hcycle

/-- Truncated division twice gives the remainder that is not negative. -/
theorem tmod_add_tmod (value : Int) : (value.tmod cycle + cycle).tmod cycle = value % cycle := by
  have hlow := Int.lt_tmod_of_pos value hcycle
  calc (value.tmod cycle + cycle).tmod cycle
      = (value.tmod cycle + cycle) % cycle := Int.tmod_eq_emod_of_nonneg (by omega)
    _ = value.tmod cycle % cycle := Int.add_emod_right _ _
    _ = value % cycle := by
        have hsplit := Int.mul_tdiv_add_tmod value cycle
        rw [← hsplit, Int.mul_add_emod_self_left]
        rw [hsplit]

theorem normalise_eq (diffNs : Int) :
    normalise cycle diffNs = (diffNs + cycle / 2) % cycle - cycle / 2 := by
  have hhalf : cycle.tdiv 2 = cycle / 2 := Int.tdiv_eq_ediv_of_nonneg (Int.le_of_lt hcycle)
  rw [normalise, tmod_add_tmod hcycle, hhalf]

variable (heven : 2 ∣ cycle)
include heven

theorem isNormalised_normalise (diffNs : Int) :
    isNormalised cycle (normalise cycle diffNs) = true := by
  have hlow := Int.emod_nonneg (diffNs + cycle / 2) (Int.ne_of_gt hcycle)
  have hhigh := Int.emod_lt_of_pos (diffNs + cycle / 2) hcycle
  rw [isNormalised, Bool.and_eq_true, decide_eq_true_eq, decide_eq_true_eq, normalise_eq hcycle]
  omega

end Normalise

/-- The normalised difference is the difference up to whole cycles. -/
theorem dvd_normalise_sub {cycle : Int} (hcycle : 0 < cycle) (diffNs : Int) :
    cycle ∣ normalise cycle diffNs - diffNs := by
  rw [normalise_eq hcycle]
  have hrem : cycle ∣ (diffNs + cycle / 2) % cycle - (diffNs + cycle / 2) :=
    Int.dvd_of_emod_eq_zero (by simp [Int.sub_emod])
  have hsame : (diffNs + cycle / 2) % cycle - cycle / 2 - diffNs =
      (diffNs + cycle / 2) % cycle - (diffNs + cycle / 2) := by omega
  rw [hsame]
  exact hrem

/-! ### One call -/

/-- What the PLL remembers between two calls, apart from its filter. -/
structure PllMemory where
  hasMaster : Bool
  cycleTimeNs : UInt32
  dcStarted : Bool
  prevDcDiffNs : Int
  warmupCyclesRemaining : Nat
  lastGoodDcDiffNs : Int
  haveGoodDcDiff : Bool
  refClockReadDisabled : Bool

def memory (sync : EtherCATSync) : PllMemory where
  hasMaster := sync.hasMaster
  cycleTimeNs := sync.cycleTimeNs
  dcStarted := sync.dcStarted
  prevDcDiffNs := sync.prevDcDiffNs
  warmupCyclesRemaining := sync.warmupCyclesRemaining
  lastGoodDcDiffNs := sync.lastGoodDcDiffNs
  haveGoodDcDiff := sync.haveGoodDcDiff
  refClockReadDisabled := sync.refClockReadDisabled

theorem adjustFilter_kept (sync : EtherCATSync) :
    sync.adjustFilter.memory = sync.memory ∧ sync.adjustFilter.dcDiffNs = sync.dcDiffNs := by
  unfold adjustFilter
  split
  · exact ⟨rfl, rfl⟩
  · exact ⟨rfl, rfl⟩

theorem updatePll_kept (sync : EtherCATSync) :
    sync.updatePll.memory =
        { sync.memory with dcStarted := true, prevDcDiffNs := sync.dcDiffNs } ∧
      sync.updatePll.dcDiffNs = normalise sync.cycle sync.dcDiffNs := by
  unfold updatePll
  dsimp only
  split
  · rename_i hstarted
    obtain ⟨hmemory, hdiff⟩ := adjustFilter_kept
      { sync with
        prevDcDiffNs := sync.dcDiffNs
        dcDiffNs := normalise sync.cycle sync.dcDiffNs
        dcDiffTotalNs := sync.dcDiffTotalNs + normalise sync.cycle sync.dcDiffNs
        dcDeltaTotalNs := sync.dcDeltaTotalNs + (sync.dcDiffNs - sync.prevDcDiffNs)
        dcFilterIdx := sync.dcFilterIdx + 1 }
    refine ⟨hmemory.trans ?_, hdiff⟩
    change { sync.memory with dcStarted := sync.dcStarted, prevDcDiffNs := sync.dcDiffNs } = _
    rw [hstarted]
  · exact ⟨rfl, rfl⟩

theorem refRead_of_enabled {sync : EtherCATSync} (input : DcInput)
    (henabled : sync.refClockReadDisabled = false) :
    sync.refRead input =
      if sync.warmupCyclesRemaining - 1 ≠ 0 then .warmup
      else if sync.refClockBackoff &&
          (sync.refClockProcessCycle + 1) % sync.backoffInterval != 0 then .backoff
      else input.referenceClock.elim .failed .read := by
  have hentered : (sync.enter input.appTimeNs).refClockReadDisabled = false := henabled
  unfold refRead readReference
  rw [hentered, if_neg Bool.false_ne_true]
  cases input.referenceClock with
  | none => rfl
  | some timeLow => rfl

theorem refRead_ne_disabled {sync : EtherCATSync} (input : DcInput)
    (henabled : sync.refClockReadDisabled = false) : sync.refRead input ≠ .disabled := by
  rw [refRead_of_enabled input henabled]
  split
  · exact RefRead.noConfusion
  · split
    · exact RefRead.noConfusion
    · cases input.referenceClock with
      | none => exact RefRead.noConfusion
      | some timeLow => exact RefRead.noConfusion

theorem refRead_eq_warmup_iff {sync : EtherCATSync} (input : DcInput)
    (henabled : sync.refClockReadDisabled = false) :
    sync.refRead input = .warmup ↔ sync.warmupCyclesRemaining - 1 ≠ 0 := by
  rw [refRead_of_enabled input henabled]
  by_cases hcold : sync.warmupCyclesRemaining - 1 ≠ 0
  · rw [if_pos hcold]
    exact iff_of_true rfl hcold
  · rw [if_neg hcold]
    refine iff_of_false ?_ hcold
    split
    · exact RefRead.noConfusion
    · cases input.referenceClock with
      | none => exact RefRead.noConfusion
      | some timeLow => exact RefRead.noConfusion

theorem next_eq {sync : EtherCATSync} (input : DcInput) (hmaster : sync.hasMaster = true) :
    machine.next sync input =
      if updatesPll (machine.visit sync input) then
        ((sync.enter input.appTimeNs).applyRead (sync.refRead input)).updatePll
      else
        (sync.enter input.appTimeNs).applyRead (sync.refRead input) := by
  change (sync.process input).1 = _
  unfold process
  rw [hmaster, Bool.not_true, if_neg Bool.false_ne_true]
  dsimp only
  change _ = if (isRead (sync.refRead input) &&
    decide (refClockRequiredSuccesses ≤ sync.consecutiveRefSuccesses + 1)) = true then _ else _
  cases houtcome : sync.refRead input with
  | read timeLow =>
      have hsuccesses : ((sync.enter input.appTimeNs).applyRead (.read timeLow)
          ).consecutiveRefSuccesses = sync.consecutiveRefSuccesses + 1 := rfl
      rw [hsuccesses, isRead, Bool.not_true, Bool.false_or, Bool.true_and]
      by_cases hfew : sync.consecutiveRefSuccesses + 1 < refClockRequiredSuccesses
      · rw [if_pos (decide_eq_true hfew), if_neg (by simpa using hfew)]
      · rw [if_neg (by simpa using hfew), if_pos (by simpa using hfew)]
  | _ => rfl

/-- What a call that updates nothing leaves the PLL to remember. -/
theorem memory_applyRead (sync : EtherCATSync) (appTimeNs : UInt64) (outcome : RefRead) :
    ((sync.enter appTimeNs).applyRead outcome).memory =
      { sync.memory with
        warmupCyclesRemaining := sync.warmupCyclesRemaining - 1
        lastGoodDcDiffNs := ((sync.enter appTimeNs).applyRead outcome).lastGoodDcDiffNs
        haveGoodDcDiff := isRead outcome || sync.haveGoodDcDiff } := by
  cases outcome <;> rfl

theorem memory_next_of_not_updatesPll {sync : EtherCATSync} {input : DcInput}
    (hmaster : sync.hasMaster = true)
    (hupdates : updatesPll (machine.visit sync input) = false) :
    (machine.next sync input).memory =
      { sync.memory with
        warmupCyclesRemaining := sync.warmupCyclesRemaining - 1
        lastGoodDcDiffNs := (machine.next sync input).lastGoodDcDiffNs
        haveGoodDcDiff := isRead (sync.refRead input) || sync.haveGoodDcDiff } := by
  have hnext := next_eq input hmaster
  rw [hupdates, if_neg Bool.false_ne_true] at hnext
  rw [hnext]
  exact memory_applyRead sync input.appTimeNs (sync.refRead input)

/-! ### What is held between two calls -/

/-- The object is initialised for the cycle time. Once the PLL has started, what was reported after the
last update is the difference of that update, normalised. -/
structure PllTracks (cycleTimeNs : UInt32) (config : DcConfig) : Prop where
  hasMaster : config.state.hasMaster = true
  enabled : config.state.refClockReadDisabled = false
  cycleTimeNs_eq : config.state.cycleTimeNs = cycleTimeNs
  warm : config.state.dcStarted = true → config.state.warmupCyclesRemaining = 0
  good : config.state.dcStarted = true → config.state.haveGoodDcDiff = true
  updated : config.state.dcStarted = true →
    lastUpdated config.history = some (normalise config.state.cycle config.state.prevDcDiffNs)

theorem pllTracks_start (cycleTimeNs : UInt32) (nowNs : UInt64) (sync : EtherCATSync) :
    PllTracks cycleTimeNs (.start (sync.initializeSync cycleTimeNs nowNs)) where
  hasMaster := rfl
  enabled := rfl
  cycleTimeNs_eq := rfl
  warm := fun hstarted => absurd hstarted Bool.false_ne_true
  good := fun hstarted => absurd hstarted Bool.false_ne_true
  updated := fun hstarted => absurd hstarted Bool.false_ne_true

theorem reportsNormalised_start (cycleTimeNs : UInt32) (nowNs : UInt64) (sync : EtherCATSync) :
    ReportsNormalised (.start (sync.initializeSync cycleTimeNs nowNs)) :=
  fun hstarted => absurd hstarted Bool.false_ne_true

variable {cycleTimeNs : UInt32} {config : DcConfig} {input : DcInput}

theorem PllTracks.of_not_updatesPll (htracks : PllTracks cycleTimeNs config)
    (hupdates : updatesPll (machine.visit config.state input) = false) :
    PllTracks cycleTimeNs (machine.advance config input) := by
  have hmemory := memory_next_of_not_updatesPll htracks.hasMaster hupdates
  have hstarted : (machine.next config.state input).dcStarted = config.state.dcStarted :=
    congrArg PllMemory.dcStarted hmemory
  have hcycleTime : (machine.next config.state input).cycleTimeNs = config.state.cycleTimeNs :=
    congrArg PllMemory.cycleTimeNs hmemory
  have hprev : (machine.next config.state input).prevDcDiffNs = config.state.prevDcDiffNs :=
    congrArg PllMemory.prevDcDiffNs hmemory
  have hwarm : (machine.next config.state input).warmupCyclesRemaining =
      config.state.warmupCyclesRemaining - 1 := congrArg PllMemory.warmupCyclesRemaining hmemory
  have hgood : (machine.next config.state input).haveGoodDcDiff =
      (isRead (config.state.refRead input) || config.state.haveGoodDcDiff) :=
    congrArg PllMemory.haveGoodDcDiff hmemory
  refine ⟨?_, ?_, ?_, ?_, ?_, ?_⟩
  · exact (congrArg PllMemory.hasMaster hmemory).trans htracks.hasMaster
  · exact (congrArg PllMemory.refClockReadDisabled hmemory).trans htracks.enabled
  · exact hcycleTime.trans htracks.cycleTimeNs_eq
  · rw [Machine.advance_state, hstarted, hwarm]
    intro hbefore
    rw [htracks.warm hbefore]
  · rw [Machine.advance_state, hstarted, hgood]
    intro hbefore
    rw [htracks.good hbefore, Bool.or_true]
  · rw [Machine.advance_state, hstarted, Machine.advance_history, lastUpdated, hupdates,
      if_neg Bool.false_ne_true, hprev, cycle, hcycleTime]
    exact htracks.updated

theorem PllTracks.of_updatesPll (htracks : PllTracks cycleTimeNs config)
    (hupdates : updatesPll (machine.visit config.state input) = true) :
    PllTracks cycleTimeNs (machine.advance config input) ∧
      (machine.next config.state input).lastDcDiffNs =
        normalise config.state.cycle (machine.next config.state input).prevDcDiffNs := by
  have hread : isRead (config.state.refRead input) = true := (Bool.and_eq_true_iff.mp hupdates).1
  have hwarmedUp : config.state.warmupCyclesRemaining - 1 = 0 := by
    by_contra hcold
    rw [(refRead_eq_warmup_iff input htracks.enabled).mpr hcold] at hread
    exact Bool.false_ne_true hread
  have hnext := next_eq input htracks.hasMaster
  rw [hupdates, if_pos rfl] at hnext
  obtain ⟨hmemory, hdiff⟩ :=
    updatePll_kept ((config.state.enter input.appTimeNs).applyRead (config.state.refRead input))
  rw [← hnext, memory_applyRead] at hmemory
  rw [← hnext] at hdiff
  have hcycleTime : (machine.next config.state input).cycleTimeNs = config.state.cycleTimeNs :=
    congrArg PllMemory.cycleTimeNs hmemory
  have happlied : ((config.state.enter input.appTimeNs).applyRead
      (config.state.refRead input)).cycleTimeNs = config.state.cycleTimeNs :=
    congrArg PllMemory.cycleTimeNs (memory_applyRead config.state input.appTimeNs _)
  have hprev := congrArg PllMemory.prevDcDiffNs hmemory
  change (machine.next config.state input).prevDcDiffNs = _ at hprev
  have hreported : (machine.next config.state input).lastDcDiffNs =
      normalise config.state.cycle (machine.next config.state input).prevDcDiffNs := by
    rw [hprev, lastDcDiffNs, hdiff, cycle, cycle, happlied]
  refine ⟨⟨?_, ?_, ?_, fun _ => ?_, fun _ => ?_, fun _ => ?_⟩, hreported⟩
  · exact (congrArg PllMemory.hasMaster hmemory).trans htracks.hasMaster
  · exact (congrArg PllMemory.refClockReadDisabled hmemory).trans htracks.enabled
  · exact hcycleTime.trans htracks.cycleTimeNs_eq
  · exact (congrArg PllMemory.warmupCyclesRemaining hmemory).trans hwarmedUp
  · refine (congrArg PllMemory.haveGoodDcDiff hmemory).trans ?_
    change (isRead (config.state.refRead input) || config.state.haveGoodDcDiff) = true
    rw [hread, Bool.true_or]
  · rw [Machine.advance_state, Machine.advance_history, lastUpdated, hupdates, if_pos rfl,
      cycle, hcycleTime]
    exact congrArg some hreported

/-! ### What a call reports -/

section Reports

variable (hcycle : 0 < cycleTimeNs.toInt32.toInt) (heven : 2 ∣ cycleTimeNs.toInt32.toInt)
include hcycle heven

/-- A call after the start of the PLL that cannot read brings the last difference read back. -/
theorem PllTracks.reports_iff_of_held (htracks : PllTracks cycleTimeNs config)
    (hstarted : config.state.dcStarted = true)
    (hread : isRead (config.state.refRead input) = false)
    (happlied : (config.state.enter input.appTimeNs).applyRead (config.state.refRead input) =
      (config.state.enter input.appTimeNs).holdLastGood ∨
      (config.state.enter input.appTimeNs).applyRead (config.state.refRead input) =
        (config.state.enter input.appTimeNs).holdLastGood.noteFailure) :
    ReportsNormalised (machine.advance config input) ↔
      config.state.lastGoodDcDiffNs = normalise config.state.cycle config.state.prevDcDiffNs := by
  have hupdates : updatesPll (machine.visit config.state input) = false := by
    change (isRead (config.state.refRead input) && _) = false
    rw [hread, Bool.false_and]
  have hnext := next_eq input htracks.hasMaster
  rw [hupdates, if_neg Bool.false_ne_true] at hnext
  have hreported : (machine.advance config input).state.lastDcDiffNs =
      config.state.lastGoodDcDiffNs := by
    have hheld : (config.state.enter input.appTimeNs).holdLastGood.dcDiffNs =
        config.state.lastGoodDcDiffNs := if_pos (htracks.good hstarted)
    change (machine.next config.state input).dcDiffNs = _
    rw [hnext]
    rcases happlied with happlied | happlied
    · rw [happlied]
      exact hheld
    · rw [happlied]
      exact hheld
  have hmemory := memory_next_of_not_updatesPll htracks.hasMaster hupdates
  have hstillStarted : (machine.advance config input).state.dcStarted = true :=
    (congrArg PllMemory.dcStarted hmemory).trans hstarted
  have hcycleTime : (machine.advance config input).state.cycleTimeNs = cycleTimeNs :=
    (congrArg PllMemory.cycleTimeNs hmemory).trans htracks.cycleTimeNs_eq
  rw [ReportsNormalised, hreported]
  constructor
  · intro hreports
    have hsame := (hreports hstillStarted).2 _ _ rfl hread
    exact Option.some.inj (hsame.symm.trans (htracks.updated hstarted))
  · intro hnormalised _
    refine ⟨?_, fun visit earlier hhistory _ => ?_⟩
    · rw [hnormalised, cycle, cycle, hcycleTime, htracks.cycleTimeNs_eq]
      exact isNormalised_normalise hcycle heven _
    · obtain ⟨-, rfl⟩ := List.cons.inj hhistory
      rw [htracks.updated hstarted, hnormalised]

theorem PllTracks.reports_of_updatesPll (htracks : PllTracks cycleTimeNs config)
    (hupdates : updatesPll (machine.visit config.state input) = true) :
    ReportsNormalised (machine.advance config input) := by
  obtain ⟨hafter, hreported⟩ := htracks.of_updatesPll hupdates
  refine fun _ => ⟨?_, fun visit earlier hhistory hunread => ?_⟩
  · rw [Machine.advance_state, hreported, cycle, cycle, htracks.cycleTimeNs_eq,
      show (machine.next config.state input).cycleTimeNs = cycleTimeNs from hafter.cycleTimeNs_eq]
    exact isNormalised_normalise hcycle heven _
  · obtain ⟨rfl, -⟩ := List.cons.inj hhistory
    have hread : readsClock (machine.visit config.state input) = true :=
      (Bool.and_eq_true_iff.mp hupdates).1
    exact absurd (hunread.symm.trans hread) Bool.false_ne_true

/-- A read reports the difference as it is, unless it updates the PLL. -/
theorem PllTracks.reports_iff_of_read (htracks : PllTracks cycleTimeNs config)
    (hstarted : config.state.dcStarted = true) {timeLow : UInt32}
    (houtcome : config.state.refRead input = .read timeLow) :
    ReportsNormalised (machine.advance config input) ↔
      refClockRequiredSuccesses ≤ config.state.consecutiveRefSuccesses + 1 ∨
        isNormalised config.state.cycle (rawDiff input.appTimeNs timeLow) = true := by
  have hread : readsClock (machine.visit config.state input) = true := by
    change isRead (config.state.refRead input) = true
    rw [houtcome]
    rfl
  by_cases henough : refClockRequiredSuccesses ≤ config.state.consecutiveRefSuccesses + 1
  · have hupdates : updatesPll (machine.visit config.state input) = true := by
      rw [updatesPll, hread, Bool.true_and]
      exact decide_eq_true henough
    exact iff_of_true (htracks.reports_of_updatesPll hcycle heven hupdates) (Or.inl henough)
  · have hupdates : updatesPll (machine.visit config.state input) = false := by
      rw [updatesPll, hread, Bool.true_and]
      exact decide_eq_false henough
    have hnext := next_eq input htracks.hasMaster
    rw [hupdates, if_neg Bool.false_ne_true, houtcome] at hnext
    have hreported : (machine.advance config input).state.lastDcDiffNs =
        rawDiff input.appTimeNs timeLow := by
      change (machine.next config.state input).dcDiffNs = _
      rw [hnext]
      rfl
    have hsame : (machine.advance config input).state.cycle = config.state.cycle := by
      change (machine.next config.state input).cycle = _
      rw [hnext]
      rfl
    have hstillStarted : (machine.advance config input).state.dcStarted = true := by
      change (machine.next config.state input).dcStarted = true
      rw [hnext]
      exact hstarted
    rw [or_iff_right henough, ReportsNormalised, hreported, hsame]
    constructor
    · exact fun hreports => (hreports hstillStarted).1
    · refine fun hwithin _ => ⟨hwithin, fun visit earlier hhistory hunread => ?_⟩
      obtain ⟨rfl, -⟩ := List.cons.inj hhistory
      exact absurd (hunread.symm.trans hread) Bool.false_ne_true

/-- A call meets the condition just if what it leaves is reported rightly. -/
theorem PllTracks.reports_iff (htracks : PllTracks cycleTimeNs config) (input : DcInput) :
    ReportsNormalised (machine.advance config input) ↔
      keepsNormalised config.state input = true := by
  cases hstarted : config.state.dcStarted with
  | false =>
      have hkeeps : keepsNormalised config.state input = true := by
        rw [keepsNormalised, hstarted, Bool.not_false, Bool.true_or]
      refine iff_of_true ?_ hkeeps
      cases hupdates : updatesPll (machine.visit config.state input) with
      | true => exact htracks.reports_of_updatesPll hcycle heven hupdates
      | false =>
          intro hafter
          have hsame := congrArg PllMemory.dcStarted
            (memory_next_of_not_updatesPll htracks.hasMaster hupdates)
          exact absurd ((hsame.trans hstarted).symm.trans hafter) Bool.false_ne_true
  | true =>
      rw [keepsNormalised, hstarted, Bool.not_true, Bool.false_or]
      cases houtcome : config.state.refRead input with
      | disabled => exact absurd houtcome (refRead_ne_disabled input htracks.enabled)
      | warmup =>
          rw [refRead_eq_warmup_iff input htracks.enabled, htracks.warm hstarted] at houtcome
          exact absurd rfl houtcome
      | backoff =>
          have hread : isRead (config.state.refRead input) = false := by rw [houtcome]; rfl
          refine (htracks.reports_iff_of_held hcycle heven hstarted hread ?_).trans beq_iff_eq.symm
          exact Or.inl (by rw [houtcome]; rfl)
      | failed =>
          have hread : isRead (config.state.refRead input) = false := by rw [houtcome]; rfl
          refine (htracks.reports_iff_of_held hcycle heven hstarted hread ?_).trans beq_iff_eq.symm
          exact Or.inr (by rw [houtcome]; rfl)
      | read timeLow =>
          refine (htracks.reports_iff_of_read hcycle heven hstarted houtcome).trans ?_
          rw [Bool.or_eq_true, decide_eq_true_eq]

/-! ### Every run -/

theorem PllTracks.always_iff (htracks : PllTracks cycleTimeNs config)
    (hreports : ReportsNormalised config) (calls : List DcInput) :
    machine.Always ReportsNormalised config calls ↔
      machine.Meets (fun config input => keepsNormalised config.state input = true) config calls := by
  have hstep : ∀ (config : DcConfig) (input : DcInput), PllTracks cycleTimeNs config →
      PllTracks cycleTimeNs (machine.advance config input) ∧
        (ReportsNormalised (machine.advance config input) ↔
          keepsNormalised config.state input = true) := by
    intro config input htracks
    refine ⟨?_, htracks.reports_iff hcycle heven input⟩
    cases hupdates : updatesPll (machine.visit config.state input) with
    | true => exact (htracks.of_updatesPll hupdates).1
    | false => exact htracks.of_not_updatesPll hupdates
  exact machine.always_iff_meets hstep htracks hreports

/-- In the runs of an initialised object the deviation is reported rightly throughout just if every
call meets the condition. -/
theorem alwaysReportsNormalised_iff (sync : EtherCATSync) (nowNs : UInt64) (calls : List DcInput) :
    machine.Always ReportsNormalised (.start (sync.initializeSync cycleTimeNs nowNs)) calls ↔
      machine.Meets (fun config input => keepsNormalised config.state input = true)
        (.start (sync.initializeSync cycleTimeNs nowNs)) calls :=
  (pllTracks_start cycleTimeNs nowNs sync).always_iff hcycle heven
    (reportsNormalised_start cycleTimeNs nowNs sync) calls

end Reports

/-- What the DC monitor makes of a deviation that is reported rightly: no anomaly, where the threshold
leaves room for half a cycle. -/
theorem dcOutOfSyncAnomaly_of_reportsNormalised {config : DcConfig}
    (hreports : ReportsNormalised config) {syncThresholdNs : Int32}
    (hroom : config.state.cycle / 2 ≤ syncThresholdNs.toInt) :
    dcOutOfSyncAnomaly (makeDcStatusSample config.state.isDcPllActive
      (Int32.ofInt config.state.lastDcDiffNs) syncThresholdNs) = false := by
  cases hactive : config.state.isDcPllActive with
  | false => rfl
  | true =>
      have hwithin := (hreports (Bool.and_eq_true_iff.mp hactive).1).1
      rw [isNormalised, Bool.and_eq_true, decide_eq_true_eq, decide_eq_true_eq] at hwithin
      have hbound := syncThresholdNs.toInt_lt
      have hword : (Int32.ofInt config.state.lastDcDiffNs).toInt = config.state.lastDcDiffNs :=
        Int32.toInt_ofInt_of_le (by omega) (by omega)
      have hpositive : 0 < syncThresholdNs.toInt := by omega
      change (true && !(true && decide (_ ≤ _))) = false
      rw [Bool.true_and, Bool.true_and, Bool.not_eq_false', decide_eq_true_eq, if_pos hpositive,
        absDeviationNs, hword]
      omega

/-! ### A PLL that starts on differences of more than half a cycle -/

def twoMs : UInt32 := 2000000

/-- Calls while the object warms up, and the three reads after which the PLL starts. -/
def startingCalls (diffNs : UInt64) : List DcInput :=
  List.replicate 102 { appTimeNs := diffNs, referenceClock := some 0 }

/-- A read that fails brings back a difference within half a cycle. -/
theorem alwaysReportsNormalised_of_small :
    machine.Always ReportsNormalised (.start (({} : EtherCATSync).initializeSync twoMs 0))
      (startingCalls 250 ++ [{ appTimeNs := 250, referenceClock := none }]) :=
  (alwaysReportsNormalised_iff (by decide +kernel) (by decide +kernel) {} 0 _).mpr
    (by decide +kernel)

/-- A read that fails brings back a difference of three quarters of a cycle, where the last update
reported a quarter below zero. -/
theorem not_alwaysReportsNormalised :
    ¬ ∀ (cycleTimeNs : UInt32), 0 < cycleTimeNs.toInt32.toInt → 2 ∣ cycleTimeNs.toInt32.toInt →
      ∀ (sync : EtherCATSync) (nowNs : UInt64) (calls : List DcInput),
        machine.Always ReportsNormalised (.start (sync.initializeSync cycleTimeNs nowNs)) calls := by
  intro hall
  have halways := hall twoMs (by decide +kernel) (by decide +kernel) {} 0
    (startingCalls 1500000 ++ [{ appTimeNs := 1500000, referenceClock := none }])
  rw [(pllTracks_start twoMs 0 {}).always_iff (by decide +kernel) (by decide +kernel)
    (reportsNormalised_start twoMs 0 {})] at halways
  exact absurd halways (by decide +kernel)

end EtherCATSync

end IghMaster
