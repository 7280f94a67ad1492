import IghMaster.Proof.DcReading

/-!
# How fast the PLL moves the time base

Every adjustment is limited before it is averaged with the one before it, so no call moves the time
base by more than a microsecond, and calls that update nothing leave the filter alone. The mean with
an adjustment of zero loses the correction of one nanosecond that a constant deviation earns: from
rest, a constant deviation is never corrected.
-/

namespace IghMaster

open Transition

namespace EtherCATSync

/-- What the PLL accumulates, and what it makes of it. -/
structure PllFilter where
  dcDiffTotalNs : Int
  dcDeltaTotalNs : Int
  dcFilterIdx : Nat
  dcAdjustNs : Int
  sysTimeBase : Int

def pllFilter (sync : EtherCATSync) : PllFilter where
  dcDiffTotalNs := sync.dcDiffTotalNs
  dcDeltaTotalNs := sync.dcDeltaTotalNs
  dcFilterIdx := sync.dcFilterIdx
  dcAdjustNs := sync.dcAdjustNs
  sysTimeBase := sync.sysTimeBase

theorem pllFilter_applyRead (sync : EtherCATSync) (appTimeNs : UInt64) (outcome : RefRead) :
    ((sync.enter appTimeNs).applyRead outcome).pllFilter = sync.pllFilter := by
  cases outcome <;> rfl

/-! ### The adjustment at the end of a filter period -/

theorem natAbs_mean_le {limit : Nat} {first second : Int} (hfirst : first.natAbs ≤ limit)
    (hsecond : second.natAbs ≤ limit) : ((first + second).tdiv 2).natAbs ≤ limit := by
  calc ((first + second).tdiv 2).natAbs
      = (first + second).natAbs / 2 := Int.natAbs_tdiv _ _
    _ ≤ (first.natAbs + second.natAbs) / 2 := Nat.div_le_div_right (Int.natAbs_add_le _ _)
    _ ≤ limit := by omega

theorem dcAdjustNs_adjustFilter_le {sync : EtherCATSync} (hadjust : sync.dcAdjustNs.natAbs ≤ 1000) :
    sync.adjustFilter.dcAdjustNs.natAbs ≤ 1000 := by
  unfold adjustFilter
  split
  · refine natAbs_mean_le hadjust ?_
    omega
  · exact hadjust

theorem dcFilterIdx_adjustFilter_lt (sync : EtherCATSync) :
    sync.adjustFilter.dcFilterIdx < dcFilterCnt := by
  unfold adjustFilter
  split
  · exact Nat.zero_lt_succ _
  · omega

theorem sysTimeBase_adjustFilter (sync : EtherCATSync) :
    sync.adjustFilter.sysTimeBase = sync.sysTimeBase := by
  unfold adjustFilter
  split
  · rfl
  · rfl

/-- What an update adds to the filter. -/
def accumulate (sync : EtherCATSync) : EtherCATSync :=
  { sync with
    prevDcDiffNs := sync.dcDiffNs
    dcDiffNs := normalise sync.cycle sync.dcDiffNs
    dcDiffTotalNs := sync.dcDiffTotalNs + normalise sync.cycle sync.dcDiffNs
    dcDeltaTotalNs := sync.dcDeltaTotalNs + (sync.dcDiffNs - sync.prevDcDiffNs)
    dcFilterIdx := sync.dcFilterIdx + 1 }

theorem updatePll_of_started {sync : EtherCATSync} (hstarted : sync.dcStarted = true) :
    sync.updatePll = { sync.accumulate.adjustFilter with
      sysTimeBase := sync.sysTimeBase + sync.accumulate.adjustFilter.dcAdjustNs } := by
  rw [updatePll, if_pos hstarted]
  change { sync.accumulate.adjustFilter with
    sysTimeBase := sync.accumulate.adjustFilter.sysTimeBase +
      sync.accumulate.adjustFilter.dcAdjustNs } = _
  rw [sysTimeBase_adjustFilter]
  rfl

/-! ### The time base moves slowly -/

/-- What a call keeps, from the initialisation of a fresh object on. -/
structure Slewing (sync : EtherCATSync) : Prop where
  hasMaster : sync.hasMaster = true
  adjust : sync.dcAdjustNs.natAbs ≤ 1000
  idx : sync.dcFilterIdx < dcFilterCnt
  stopped : sync.dcStarted = false → sync.sysTimeBase = 0
  empty : sync.dcFilterIdx = 0 → sync.dcDiffTotalNs = 0 ∧ sync.dcDeltaTotalNs = 0

variable {sync : EtherCATSync} {input : DcInput}

theorem adjustFilter_empty (hidx : sync.dcFilterIdx ≠ 0) : sync.adjustFilter.dcFilterIdx = 0 →
    sync.adjustFilter.dcDiffTotalNs = 0 ∧ sync.adjustFilter.dcDeltaTotalNs = 0 := by
  unfold adjustFilter
  split
  · exact fun _ => ⟨rfl, rfl⟩
  · exact fun hzero => absurd hzero hidx

theorem updatePll_empty
    (hempty : sync.dcFilterIdx = 0 → sync.dcDiffTotalNs = 0 ∧ sync.dcDeltaTotalNs = 0) :
    sync.updatePll.dcFilterIdx = 0 →
      sync.updatePll.dcDiffTotalNs = 0 ∧ sync.updatePll.dcDeltaTotalNs = 0 := by
  cases hstarted : sync.dcStarted with
  | true =>
      rw [updatePll_of_started hstarted]
      have hfilled : sync.accumulate.dcFilterIdx ≠ 0 := Nat.succ_ne_zero _
      exact adjustFilter_empty hfilled
  | false =>
      rw [updatePll, hstarted]
      exact hempty

theorem updatePll_slew (hadjust : sync.dcAdjustNs.natAbs ≤ 1000) (hidx : sync.dcFilterIdx < dcFilterCnt)
    (hstopped : sync.dcStarted = false → sync.sysTimeBase = 0) :
    sync.updatePll.dcAdjustNs.natAbs ≤ 1000 ∧ sync.updatePll.dcFilterIdx < dcFilterCnt ∧
      (sync.updatePll.sysTimeBase - sync.sysTimeBase).natAbs ≤ 1000 := by
  cases hstarted : sync.dcStarted with
  | true =>
      have hlimited : sync.accumulate.adjustFilter.dcAdjustNs.natAbs ≤ 1000 :=
        dcAdjustNs_adjustFilter_le hadjust
      have hmoved : sync.sysTimeBase + sync.accumulate.adjustFilter.dcAdjustNs - sync.sysTimeBase =
          sync.accumulate.adjustFilter.dcAdjustNs := by omega
      rw [updatePll_of_started hstarted]
      refine ⟨hlimited, dcFilterIdx_adjustFilter_lt sync.accumulate, ?_⟩
      change (sync.sysTimeBase + sync.accumulate.adjustFilter.dcAdjustNs - sync.sysTimeBase).natAbs ≤ _
      rw [hmoved]
      exact hlimited
  | false =>
      have hbase := hstopped hstarted
      have hzero : sync.updatePll.sysTimeBase = 0 := by
        rw [updatePll, hstarted]
        rfl
      have hfilter : sync.updatePll.dcAdjustNs = sync.dcAdjustNs ∧
          sync.updatePll.dcFilterIdx = sync.dcFilterIdx := by
        rw [updatePll, hstarted]
        exact ⟨rfl, rfl⟩
      rw [hfilter.1, hfilter.2, hzero, hbase]
      exact ⟨hadjust, hidx, by decide⟩

theorem dcStarted_applyRead (sync : EtherCATSync) (appTimeNs : UInt64) (outcome : RefRead) :
    ((sync.enter appTimeNs).applyRead outcome).dcStarted = sync.dcStarted :=
  congrArg PllMemory.dcStarted (memory_applyRead sync appTimeNs outcome)

theorem dcStarted_updatePll (sync : EtherCATSync) : sync.updatePll.dcStarted = true :=
  congrArg PllMemory.dcStarted (updatePll_kept sync).1

/-- What a call does to the filter and to the time base. -/
theorem Slewing.step (hslew : sync.Slewing) (input : DcInput) :
    (machine.next sync input).Slewing ∧
      ((machine.next sync input).sysTimeBase - sync.sysTimeBase).natAbs ≤ 1000 ∧
      (updatesPll (machine.visit sync input) = false →
        (machine.next sync input).pllFilter = sync.pllFilter) := by
  have hmaster := (memory_next input hslew.hasMaster).1.trans hslew.hasMaster
  have hnext := next_eq input hslew.hasMaster
  have hstarted := dcStarted_applyRead sync input.appTimeNs (sync.refRead input)
  have hkept := pllFilter_applyRead sync input.appTimeNs (sync.refRead input)
  obtain ⟨hdiffTotal, hdeltaTotal, hidx, hadjust, hbase⟩ := PllFilter.mk.inj hkept
  cases hupdates : updatesPll (machine.visit sync input) with
  | true =>
      rw [hupdates, if_pos rfl] at hnext
      have hstopped := hslew.stopped
      rw [← hstarted, ← hbase] at hstopped
      obtain ⟨hlimited, hinside, hslow⟩ :=
        updatePll_slew (hadjust ▸ hslew.adjust) (hidx ▸ hslew.idx) hstopped
      have hfresh := hslew.empty
      rw [← hidx, ← hdiffTotal, ← hdeltaTotal] at hfresh
      have hempty := updatePll_empty hfresh
      rw [hbase] at hslow
      rw [← hnext] at hlimited hinside hslow hempty
      refine ⟨⟨hmaster, hlimited, hinside, fun hnot => ?_, hempty⟩, hslow, Bool.noConfusion⟩
      rw [hnext, dcStarted_updatePll] at hnot
      exact absurd hnot Bool.noConfusion
  | false =>
      rw [hupdates, if_neg Bool.false_ne_true] at hnext
      rw [← hnext] at hkept hadjust hidx hbase hstarted hdiffTotal hdeltaTotal
      refine ⟨⟨hmaster, hadjust ▸ hslew.adjust, hidx ▸ hslew.idx, ?_, ?_⟩, ?_, fun _ => hkept⟩
      · rw [hstarted, hbase]
        exact hslew.stopped
      · rw [hidx, hdiffTotal, hdeltaTotal]
        exact hslew.empty
      · rw [hbase, Int.sub_self]
        decide

theorem Slewing.run (hslew : sync.Slewing) (inputs : List DcInput) :
    (machine.run sync inputs).Slewing := by
  induction inputs generalizing sync with
  | nil => exact hslew
  | cons input inputs ih => exact ih (hslew.step input).1

/-- The bounds on the PLL: on its state, and on what every call so far did to the time base and to the
filter. -/
structure SlewBounded (config : DcConfig) : Prop where
  adjust : config.state.dcAdjustNs.natAbs ≤ 1000
  idx : config.state.dcFilterIdx < 1024
  slew : ∀ visit ∈ config.history, (visit.after.sysTimeBase - visit.before.sysTimeBase).natAbs ≤ 1000
  kept : ∀ visit ∈ config.history,
    readsClock visit = false ∨ visit.after.consecutiveRefSuccesses < 3 →
      visit.after.pllFilter = visit.before.pllFilter

theorem slewing_start (cycleTimeNs : UInt32) (nowNs : UInt64) :
    (({} : EtherCATSync).initializeSync cycleTimeNs nowNs).Slewing where
  hasMaster := rfl
  adjust := Nat.zero_le _
  idx := Nat.zero_lt_succ _
  stopped := fun _ => rfl
  empty := fun _ => ⟨rfl, rfl⟩

/-- A call that read the clock too few times in a row updates nothing. -/
theorem updatesPll_of_few (hmaster : sync.hasMaster = true)
    (hfew : readsClock (machine.visit sync input) = false ∨
      (machine.next sync input).consecutiveRefSuccesses < 3) :
    updatesPll (machine.visit sync input) = false := by
  rw [updatesPll, Bool.and_eq_false_iff]
  by_cases hread : readsClock (machine.visit sync input) = true
  · refine Or.inr (decide_eq_false ?_)
    have hfew := hfew.resolve_left fun hnot => absurd (hread.symm.trans hnot) Bool.noConfusion
    have hsuccesses : (machine.next sync input).consecutiveRefSuccesses =
        sync.consecutiveRefSuccesses + 1 := by
      have hafter := congrArg ReadState.consecutiveRefSuccesses
        (readState_next input hmaster)
      change isRead (sync.refRead input) = true at hread
      cases houtcome : sync.refRead input with
      | read timeLow =>
          rw [houtcome] at hafter
          exact hafter
      | _ =>
          rw [houtcome] at hread
          exact absurd hread Bool.false_ne_true
    change ¬ 3 ≤ sync.consecutiveRefSuccesses + 1
    omega
  · exact Or.inl (Bool.not_eq_true _ ▸ hread)

theorem SlewBounded.advance {config : DcConfig} (hslew : config.state.Slewing)
    (hbounded : SlewBounded config) (input : DcInput) : SlewBounded (machine.advance config input) := by
  obtain ⟨hafter, hslow, hkept⟩ := hslew.step input
  refine ⟨hafter.adjust, hafter.idx, fun visit hmem => ?_, fun visit hmem hfew => ?_⟩
  · rcases List.mem_cons.mp hmem with rfl | hmem
    · exact hslow
    · exact hbounded.slew visit hmem
  · rcases List.mem_cons.mp hmem with rfl | hmem
    · exact hkept (updatesPll_of_few hslew.hasMaster hfew)
    · exact hbounded.kept visit hmem hfew

/-- No run moves the time base faster than the limit. -/
theorem slewBounded_run (cycleTimeNs : UInt32) (nowNs : UInt64) (calls : List DcInput) :
    SlewBounded (machine.exec (.start (({} : EtherCATSync).initializeSync cycleTimeNs nowNs)) calls) := by
  have hstart := slewing_start cycleTimeNs nowNs
  have hnone : SlewBounded (.start (({} : EtherCATSync).initializeSync cycleTimeNs nowNs)) :=
    ⟨hstart.adjust, hstart.idx, fun visit hmem => absurd hmem List.not_mem_nil,
      fun visit hmem => absurd hmem List.not_mem_nil⟩
  have hstep : ∀ (config : DcConfig) (input : DcInput),
      config.state.Slewing ∧ SlewBounded config →
        (machine.advance config input).state.Slewing ∧ SlewBounded (machine.advance config input) :=
    fun config input h => ⟨(h.1.step input).1, h.2.advance h.1 input⟩
  exact (machine.exec_invariant hstep calls ⟨hstart, hnone⟩).2

/-! ### A constant deviation -/

/-- The PLL has started and rests, and a filter period begins. -/
structure AtWindowBoundary (sync : EtherCATSync) : Prop where
  hasMaster : sync.hasMaster = true
  started : sync.dcStarted = true
  idx : sync.dcFilterIdx = 0
  diffTotal : sync.dcDiffTotalNs = 0
  deltaTotal : sync.dcDeltaTotalNs = 0
  adjust : sync.dcAdjustNs = 0

/-- Between two periods a started PLL at rest has an empty filter. -/
theorem Slewing.atWindowBoundary (hslew : sync.Slewing) (hstarted : sync.dcStarted = true)
    (hidx : sync.dcFilterIdx = 0) (hadjust : sync.dcAdjustNs = 0) : sync.AtWindowBoundary where
  hasMaster := hslew.hasMaster
  started := hstarted
  idx := hidx
  diffTotal := (hslew.empty hidx).1
  deltaTotal := (hslew.empty hidx).2
  adjust := hadjust

/-- The call reads the clock, and the difference is the one given. -/
def readsPhase (rawDiffNs : Int) (sync : EtherCATSync) (input : DcInput) : Bool :=
  match sync.refRead input with
  | .read timeLow => rawDiff input.appTimeNs timeLow == rawDiffNs
  | _ => false

/-- The time base has moved towards the deviation that the PLL saw. -/
def PullsIn (before after : EtherCATSync) : Prop :=
  0 < (normalise before.cycle before.prevDcDiffNs).sign * (after.sysTimeBase - before.sysTimeBase)

/-- What readings of a constant difference keep, where the deviation is what the difference comes to. -/
structure Resting (cycleTimeNs : UInt32) (rawDiffNs sysTimeBase : Int) (sync : EtherCATSync) :
    Prop where
  hasMaster : sync.hasMaster = true
  started : sync.dcStarted = true
  cycleTimeNs_eq : sync.cycleTimeNs = cycleTimeNs
  prev : sync.prevDcDiffNs = rawDiffNs
  diffTotal : sync.dcDiffTotalNs = sync.dcFilterIdx * normalise sync.cycle rawDiffNs
  deltaTotal : sync.dcDeltaTotalNs = 0
  idx : sync.dcFilterIdx < dcFilterCnt
  adjust : sync.dcAdjustNs = 0
  base : sync.sysTimeBase = sysTimeBase

theorem AtWindowBoundary.resting (hboundary : sync.AtWindowBoundary) :
    Resting sync.cycleTimeNs sync.prevDcDiffNs sync.sysTimeBase sync where
  hasMaster := hboundary.hasMaster
  started := hboundary.started
  cycleTimeNs_eq := rfl
  prev := rfl
  diffTotal := by rw [hboundary.diffTotal, hboundary.idx, Int.natCast_zero, Int.zero_mul]
  deltaTotal := hboundary.deltaTotal
  idx := by rw [hboundary.idx]; exact Nat.zero_lt_succ _
  adjust := hboundary.adjust
  base := rfl

theorem sign_tdiv_two (value : Int) : value.sign.tdiv 2 = 0 := by
  rcases Int.lt_trichotomy value 0 with hneg | rfl | hpos
  · rw [Int.sign_eq_neg_one_of_neg hneg]
    rfl
  · rfl
  · rw [Int.sign_eq_one_of_pos hpos]
    rfl

/-- The end of a period without a change of the difference: the correction is a nanosecond at most,
and half of it is none. -/
theorem dcAdjustNs_adjustFilter_of_constant (hadjust : sync.dcAdjustNs = 0)
    (hdelta : sync.dcDeltaTotalNs = 0) : sync.adjustFilter.dcAdjustNs = 0 := by
  unfold adjustFilter
  split
  · have hsign := Int.natAbs_sign (sync.dcDiffTotalNs.tdiv dcFilterCnt)
    have havg : (sync.dcDeltaTotalNs + (dcFilterCnt : Int) / 2).tdiv (dcFilterCnt : Int) = 0 := by
      rw [hdelta]
      decide
    have hclamped : min 1000 (max (-1000) (0 + (sync.dcDiffTotalNs.tdiv (dcFilterCnt : Int)).sign)) =
        (sync.dcDiffTotalNs.tdiv (dcFilterCnt : Int)).sign := by
      split at hsign
      · omega
      · omega
    change (sync.dcAdjustNs + min 1000 (max (-1000) (_ + _))).tdiv 2 = 0
    rw [havg, hclamped, hadjust, Int.zero_add]
    exact sign_tdiv_two _
  · exact hadjust

section Constant

variable {cycleTimeNs : UInt32} {rawDiffNs sysTimeBase : Int}

theorem Resting.adjustFilter (hdelta : sync.dcDeltaTotalNs = 0) (hadjust : sync.dcAdjustNs = 0)
    (htotal : sync.dcDiffTotalNs = sync.dcFilterIdx * normalise sync.cycle rawDiffNs) :
    sync.adjustFilter.dcDeltaTotalNs = 0 ∧ sync.adjustFilter.dcAdjustNs = 0 ∧
      sync.adjustFilter.dcDiffTotalNs =
        sync.adjustFilter.dcFilterIdx * normalise sync.cycle rawDiffNs := by
  refine ⟨?_, dcAdjustNs_adjustFilter_of_constant hadjust hdelta, ?_⟩
  · unfold EtherCATSync.adjustFilter
    split
    · rfl
    · exact hdelta
  · unfold EtherCATSync.adjustFilter
    split
    · exact (Int.zero_mul _).symm
    · exact htotal

theorem Resting.updatePll (hrest : Resting cycleTimeNs rawDiffNs sysTimeBase sync)
    (hdiff : sync.dcDiffNs = rawDiffNs) :
    Resting cycleTimeNs rawDiffNs sysTimeBase sync.updatePll := by
  have hdelta : sync.accumulate.dcDeltaTotalNs = 0 := by
    change sync.dcDeltaTotalNs + (sync.dcDiffNs - sync.prevDcDiffNs) = 0
    rw [hrest.deltaTotal, hdiff, hrest.prev]
    omega
  have htotal : sync.accumulate.dcDiffTotalNs =
      sync.accumulate.dcFilterIdx * normalise sync.accumulate.cycle rawDiffNs := by
    change sync.dcDiffTotalNs + normalise sync.cycle sync.dcDiffNs =
      ((sync.dcFilterIdx + 1 : Nat) : Int) * normalise sync.cycle rawDiffNs
    rw [hrest.diffTotal, hdiff, Int.natCast_add, Int.add_mul, Int.natCast_one, Int.one_mul]
  obtain ⟨hdeltaAfter, hadjust, htotalAfter⟩ :=
    Resting.adjustFilter hdelta hrest.adjust htotal
  obtain ⟨hmemory, -⟩ := adjustFilter_kept sync.accumulate
  have hcycleTime : sync.accumulate.adjustFilter.cycleTimeNs = sync.cycleTimeNs :=
    congrArg PllMemory.cycleTimeNs hmemory
  rw [updatePll_of_started hrest.started]
  refine ⟨?_, ?_, hcycleTime.trans hrest.cycleTimeNs_eq, ?_, ?_, hdeltaAfter,
    dcFilterIdx_adjustFilter_lt sync.accumulate, hadjust, ?_⟩
  · exact (congrArg PllMemory.hasMaster hmemory).trans hrest.hasMaster
  · exact (congrArg PllMemory.dcStarted hmemory).trans hrest.started
  · exact (congrArg PllMemory.prevDcDiffNs hmemory).trans hdiff
  · have hcycle : sync.accumulate.adjustFilter.cycle = sync.accumulate.cycle := by
      rw [cycle, hcycleTime]
      rfl
    change sync.accumulate.adjustFilter.dcDiffTotalNs =
      sync.accumulate.adjustFilter.dcFilterIdx *
        normalise sync.accumulate.adjustFilter.cycle rawDiffNs
    rw [hcycle]
    exact htotalAfter
  · change sync.sysTimeBase + sync.accumulate.adjustFilter.dcAdjustNs = sysTimeBase
    rw [hadjust, hrest.base, Int.add_zero]

theorem Resting.next (hrest : Resting cycleTimeNs rawDiffNs sysTimeBase sync)
    (hphase : readsPhase rawDiffNs sync input = true) :
    Resting cycleTimeNs rawDiffNs sysTimeBase (machine.next sync input) := by
  have hnext := next_eq input hrest.hasMaster
  unfold readsPhase at hphase
  cases houtcome : sync.refRead input with
  | read timeLow =>
      rw [houtcome] at hphase hnext
      have hdiff : rawDiff input.appTimeNs timeLow = rawDiffNs := beq_iff_eq.mp hphase
      have happlied : Resting cycleTimeNs rawDiffNs sysTimeBase
          ((sync.enter input.appTimeNs).applyRead (.read timeLow)) :=
        ⟨hrest.hasMaster, hrest.started, hrest.cycleTimeNs_eq, hrest.prev, hrest.diffTotal,
          hrest.deltaTotal, hrest.idx, hrest.adjust, hrest.base⟩
      rw [hnext]
      split
      · exact happlied.updatePll hdiff
      · exact happlied
  | _ =>
      rw [houtcome] at hphase
      exact absurd hphase Bool.false_ne_true

theorem Resting.run (hrest : Resting cycleTimeNs rawDiffNs sysTimeBase sync) {calls : List DcInput}
    (hphase : machine.Meets (fun config call => readsPhase rawDiffNs config.state call = true)
      (.start sync) calls) :
    Resting cycleTimeNs rawDiffNs sysTimeBase (machine.run sync calls) := by
  have hstep : ∀ (config : DcConfig) (call : DcInput),
      Resting cycleTimeNs rawDiffNs sysTimeBase config.state →
        readsPhase rawDiffNs config.state call = true →
          Resting cycleTimeNs rawDiffNs sysTimeBase (machine.advance config call).state :=
    fun _ _ hrest hphase => hrest.next hphase
  have hend := machine.exec_invariant_of_meets hstep hrest hphase
  rw [machine.state_exec] at hend
  exact hend

end Constant

/-- From rest, a constant deviation never moves the time base. -/
theorem not_pullsIn (hboundary : sync.AtWindowBoundary) {calls : List DcInput}
    (hphase : machine.Meets
      (fun config call => readsPhase sync.prevDcDiffNs config.state call = true) (.start sync) calls) :
    ¬ PullsIn sync (machine.run sync calls) := by
  rw [PullsIn, (hboundary.resting.run hphase).base, Int.sub_self, Int.mul_zero]
  exact Int.lt_irrefl 0

/-- A clock that is read in every call, always at the same distance. -/
theorem meets_readsPhase {rawDiffNs : Int} (config : DcConfig) (hwarm : config.state.Warm)
    (hbackoff : config.state.refClockBackoff = false) {calls : List DcInput}
    (hclock : ∀ call ∈ calls, ∃ timeLow, call.referenceClock = some timeLow ∧
      rawDiff call.appTimeNs timeLow = rawDiffNs) :
    machine.Meets (fun config call => readsPhase rawDiffNs config.state call = true) config calls := by
  induction calls generalizing config with
  | nil => trivial
  | cons call calls ih =>
      obtain ⟨timeLow, hanswer, hdiff⟩ := hclock call (by simp)
      rcases hwarm.readStep call with
        ⟨-, hwaits, -, -⟩ | ⟨-, -, hnone, -⟩ | ⟨other, houtcome, -, hread, hafter⟩
      · exact absurd (hbackoff.symm.trans hwaits) Bool.noConfusion
      · exact absurd (hnone.symm.trans hanswer) (by simp)
      · obtain rfl := Option.some.inj (hread.symm.trans hanswer)
        have hnot : (machine.next config.state call).refClockBackoff = false :=
          congrArg ReadState.refClockBackoff hafter
        refine ⟨?_, ih _ (hwarm.next call) hnot fun next hmem => hclock next (by simp [hmem])⟩
        change readsPhase rawDiffNs config.state call = true
        unfold readsPhase
        rw [houtcome]
        exact beq_iff_eq.mpr hdiff

theorem meets_readsPhase_start {rawDiffNs : Int} (hwarm : sync.Warm)
    (hbackoff : sync.refClockBackoff = false) {calls : List DcInput}
    (hclock : ∀ call ∈ calls, ∃ timeLow, call.referenceClock = some timeLow ∧
      rawDiff call.appTimeNs timeLow = rawDiffNs) :
    machine.Meets (fun config call => readsPhase rawDiffNs config.state call = true) (.start sync)
      calls :=
  meets_readsPhase (.start sync) hwarm hbackoff hclock

def quarterMs : DcInput := { appTimeNs := 250000, referenceClock := some 0 }

/-- A PLL of two milliseconds that has just started, a quarter of a millisecond late. -/
def quarterLate : EtherCATSync :=
  machine.run (({} : EtherCATSync).initializeSync twoMs 0) (List.replicate 102 quarterMs)

theorem not_pullsIn_quarterMs :
    ¬ PullsIn quarterLate (machine.run quarterLate (List.replicate 2 quarterMs)) :=
  not_pullsIn ⟨by decide +kernel, by decide +kernel, by decide +kernel, by decide +kernel,
    by decide +kernel, by decide +kernel⟩ (by decide +kernel)

/-- Two whole filter periods leave the time base where it was. -/
theorem not_alwaysPullsIn :
    ¬ ∀ (cycleTimeNs : UInt32) (nowNs : UInt64) (earlier : List DcInput) (sync : EtherCATSync),
      sync = machine.run (({} : EtherCATSync).initializeSync cycleTimeNs nowNs) earlier →
        sync.AtWindowBoundary → refClockRequiredSuccesses ≤ sync.consecutiveRefSuccesses →
          normalise sync.cycle sync.prevDcDiffNs ≠ 0 → ∀ calls : List DcInput,
            machine.Meets (fun config call => readsPhase sync.prevDcDiffNs config.state call = true)
              (.start sync) calls →
              2 * dcFilterCnt ≤ calls.length → PullsIn sync (machine.run sync calls) := by
  intro hall
  have hboundary : quarterLate.AtWindowBoundary :=
    ((slewing_start twoMs 0).run (List.replicate 102 quarterMs)).atWindowBoundary
      (by decide +kernel) (by decide +kernel) (by decide +kernel)
  have hsync : quarterLate.Initialised :=
    (initialised_initializeSync twoMs 0 {}).run (List.replicate 102 quarterMs)
  have hwarm : quarterLate.Warm := ⟨hsync, by decide +kernel⟩
  have hbackoff : quarterLate.refClockBackoff = false := by decide +kernel
  have hprev : quarterLate.prevDcDiffNs = rawDiff 250000 0 := by decide +kernel
  have hphase : machine.Meets
      (fun config call => readsPhase quarterLate.prevDcDiffNs config.state call = true)
      (.start quarterLate) (List.replicate (2 * dcFilterCnt) quarterMs) :=
    meets_readsPhase_start hwarm hbackoff fun call hmem => by
      rw [List.eq_of_mem_replicate hmem, hprev]
      exact ⟨0, rfl, rfl⟩
  have hpulls := hall twoMs 0 (List.replicate 102 quarterMs) quarterLate rfl hboundary
    (by decide +kernel) (by decide +kernel) _ hphase (Nat.le_of_eq List.length_replicate.symm)
  rw [PullsIn, (hboundary.resting.run hphase).base, Int.sub_self, Int.mul_zero] at hpulls
  exact Int.lt_irrefl 0 hpulls

end EtherCATSync

end IghMaster
