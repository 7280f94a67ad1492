import IghMaster.LatchSteps

/-!
# A latched fault and safe-output, under every interleaving

Without interleaving, the accesses of a call are the operation of the runtime. With it, a release
may store after a fault was latched in between; the runs below are those where it does not, and the
only time a latched fault is without safe-output is then between the first two stores of the latch.
-/

namespace IghMaster

open Transition

namespace LatchState

/-! ### Uninterrupted calls -/

theorem exec_latchCommFault (runtime : IghMasterRuntime) :
    (machine.exec (Config.start { flags := runtime.latchFlags })
        [.callLatch, .job, .job, .job, .job]).state =
      { flags := runtime.latchCommFault.latchFlags } := rfl

theorem exec_clearCommFault (runtime : IghMasterRuntime) :
    (machine.exec (Config.start { flags := runtime.latchFlags })
        [.callClear, .api, .api, .api, .api]).state =
      { flags := runtime.clearCommFault.latchFlags } := rfl

theorem exec_requestSafeOutput (runtime : IghMasterRuntime) :
    (machine.exec (Config.start { flags := runtime.latchFlags })
        [.callRequest, .api, .api]).state =
      { flags := runtime.requestSafeOutput.latchFlags } := by
  simp only [Machine.exec_cons, Machine.exec_nil, Machine.advance_state, Config.state_start]
  cases hsafe : runtime.safeOutputRequired with
  | false =>
      simp [machine, next, callApi, apiStep, IghMasterRuntime.latchFlags,
        IghMasterRuntime.requestSafeOutput, hsafe]
  | true =>
      simp [machine, next, callApi, apiStep, IghMasterRuntime.latchFlags,
        IghMasterRuntime.requestSafeOutput, hsafe]

theorem exec_releaseSafeOutput (runtime : IghMasterRuntime) :
    (machine.exec (Config.start { flags := runtime.latchFlags })
        [.callRelease, .api, .api, .api]).state =
      { flags := runtime.releaseSafeOutput.1.latchFlags } := by
  simp only [Machine.exec_cons, Machine.exec_nil, Machine.advance_state, Config.state_start]
  cases hfault : runtime.commFault with
  | true =>
      simp [machine, next, callApi, apiStep, IghMasterRuntime.latchFlags,
        IghMasterRuntime.releaseSafeOutput, IghMasterRuntime.releaseAllowed, hfault]
  | false =>
      cases hreenable : runtime.motionReenableAllowed with
      | true =>
          simp [machine, next, callApi, apiStep, IghMasterRuntime.latchFlags,
            IghMasterRuntime.releaseSafeOutput, IghMasterRuntime.releaseAllowed, hfault, hreenable]
      | false =>
          simp [machine, next, callApi, apiStep, IghMasterRuntime.latchFlags,
            IghMasterRuntime.releaseSafeOutput, IghMasterRuntime.releaseAllowed, hfault, hreenable]

/-! ### Every interleaving -/

/-- In a state without a call in progress, a latched fault means that safe-output is required. -/
def FaultForcesSafeOutput (state : LatchState) : Prop :=
  state.quiescent = true → state.flags.commFault = true → state.flags.safeOutputRequired = true

/-- Every state of the run up to its end. -/
def AlwaysForcesSafeOutput (flags : LatchFlags) (actions : List LatchAction) : Prop :=
  ∀ first second, actions = first ++ second →
    FaultForcesSafeOutput (machine.exec (Config.start { flags := flags }) first).state

/-- The Job is in a latch that has yet to require safe-output. -/
def latchAhead (state : LatchState) : Bool := state.job = .storeFault || state.job = .storeSafe

/-- A step that is no store of a release over a latched fault, unless a latch is still to require
safe-output. -/
def releasesUnlatched (config : LatchConfig) (action : LatchAction) : Bool :=
  !(action = .api && config.state.api = .releaseStoreSafe && config.state.flags.commFault) ||
    config.state.latchAhead

/-- A latched fault is without safe-output only while a latch is still to require it. -/
def Latching (state : LatchState) : Prop :=
  state.flags.commFault = true →
    state.flags.safeOutputRequired = true ∨ state.latchAhead = true

theorem Latching.forces {state : LatchState} (hlatching : state.Latching) :
    FaultForcesSafeOutput state := by
  intro hquiescent hfault
  rcases hlatching hfault with hsafe | hahead
  · exact hsafe
  · rw [quiescent, Bool.and_eq_true, decide_eq_true_eq, decide_eq_true_eq] at hquiescent
    simp [latchAhead, hquiescent.2] at hahead

theorem Latching.callApi {state : LatchState} (hlatching : state.Latching) (first : LatchApi) :
    (state.callApi first).Latching := by
  unfold LatchState.callApi
  split
  · exact hlatching
  · exact hlatching

theorem Latching.callJob {state : LatchState} (hlatching : state.Latching) :
    state.callJob.Latching := by
  unfold LatchState.callJob
  split
  · exact fun _ => Or.inr rfl
  · exact hlatching

theorem Latching.safeOutputRequired {state : LatchState} (hlatching : state.Latching)
    (hfault : state.flags.commFault = true) (hbehind : state.latchAhead = false) :
    state.flags.safeOutputRequired = true := by
  rcases hlatching hfault with hsafe | hahead
  · exact hsafe
  · exact absurd (hbehind.symm.trans hahead) (by simp)

theorem Latching.jobStep {state : LatchState} (hlatching : state.Latching) :
    state.jobStep.Latching := by
  unfold LatchState.jobStep
  split
  · exact hlatching
  · exact fun _ => Or.inr rfl
  · exact fun _ => Or.inl rfl
  · rename_i hjob
    intro hfault
    exact Or.inl (hlatching.safeOutputRequired hfault (by rw [latchAhead, hjob]; rfl))
  · rename_i hjob
    intro hfault
    exact Or.inl (hlatching.safeOutputRequired hfault (by rw [latchAhead, hjob]; rfl))

theorem Latching.apiStep {state : LatchState} (hlatching : state.Latching)
    (hstore : state.api = .releaseStoreSafe → state.flags.commFault = true →
      state.latchAhead = true) : state.apiStep.Latching := by
  unfold LatchState.apiStep
  split
  · exact hlatching
  · split <;> exact hlatching
  · split <;> exact hlatching
  · rename_i hapi
    exact fun hfault => Or.inr (hstore hapi hfault)
  · exact fun _ => Or.inl rfl
  · exact hlatching
  · exact fun hfault => absurd hfault (by simp)
  · exact fun _ => Or.inl rfl
  · exact hlatching
  · exact hlatching

theorem Latching.next {state : LatchState} (hlatching : state.Latching) {action : LatchAction}
    (hstore : action = .api → state.api = .releaseStoreSafe → state.flags.commFault = true →
      state.latchAhead = true) : (state.next action).Latching := by
  cases action with
  | callRelease => exact hlatching.callApi _
  | callRequest => exact hlatching.callApi _
  | callClear => exact hlatching.callApi _
  | callLatch => exact hlatching.callJob
  | api => exact hlatching.apiStep (hstore rfl)
  | job => exact hlatching.jobStep

/-- In every interleaving whose releases do not store over a latched fault, a latched fault requires
safe-output whenever no call is in progress. -/
theorem alwaysForcesSafeOutput_of_releasesUnlatched (flags : LatchFlags)
    (actions : List LatchAction)
    (hflags : flags.commFault = true → flags.safeOutputRequired = true)
    (hreleases : machine.Meets (fun config action => releasesUnlatched config action = true)
      (Config.start { flags := flags }) actions) :
    AlwaysForcesSafeOutput flags actions := by
  have hstep : ∀ (config : LatchConfig) (action : LatchAction), config.state.Latching →
      releasesUnlatched config action = true → (machine.advance config action).state.Latching := by
    intro config action hlatching hmeets
    apply hlatching.next
    intro haction hapi hfault
    simpa [releasesUnlatched, haction, hapi, hfault] using hmeets
  intro first second hsplit
  subst hsplit
  have hfirst := (machine.meets_append.mp hreleases).1
  have hstart : (Config.start { flags := flags } : LatchConfig).state.Latching :=
    fun hfault => Or.inl (hflags hfault)
  have hlatching : (machine.exec (Config.start { flags := flags }) first).state.Latching :=
    machine.exec_invariant_of_meets hstep hstart hfirst
  exact hlatching.forces

/-- The Job finishes the call it is in. -/
def finishJob : LatchJob → List LatchAction
  | .idle => []
  | .storeFault => [.job, .job, .job, .job]
  | .storeSafe => [.job, .job, .job]
  | .storeReenable => [.job, .job]
  | .storePending => [.job]

/-- Every store of a release over a latched fault with no latch ahead is a failure: once the Job has
finished its call, no call is in progress, the fault is latched and safe-output not required. -/
theorem not_forces_of_releaseStore {state : LatchState} (hapi : state.api = .releaseStoreSafe)
    (hfault : state.flags.commFault = true) (hbehind : state.latchAhead = false) :
    ¬ FaultForcesSafeOutput
      (machine.exec (Config.start state) (.api :: finishJob state.job)).state := by
  obtain ⟨flags, api, job⟩ := state
  obtain rfl : api = .releaseStoreSafe := hapi
  obtain ⟨fault, safe, reenable, pending⟩ := flags
  obtain rfl : fault = true := hfault
  intro hforces
  cases job with
  | idle => exact absurd (hforces rfl rfl) (by simp [machine, next, apiStep, finishJob])
  | storeFault => exact absurd hbehind (by simp [latchAhead])
  | storeSafe => exact absurd hbehind (by simp [latchAhead])
  | storeReenable =>
      exact absurd (hforces rfl rfl) (by simp [machine, next, apiStep, jobStep, finishJob])
  | storePending =>
      exact absurd (hforces rfl rfl) (by simp [machine, next, apiStep, jobStep, finishJob])

/-- A release has loaded both flags when the Job latches a fault; then it stores. -/
def latchInsideRelease : List LatchAction :=
  [.callRelease, .api, .api, .callLatch, .job, .job, .job, .job, .api]

/-- Safe-output is required without a fault, and the dwell allows the release. -/
def dwelledFlags : LatchFlags where
  commFault := false
  safeOutputRequired := true
  motionReenableAllowed := true
  pendingDwellFault := false

theorem not_alwaysForcesSafeOutput :
    ¬ ∀ flags actions, (flags.commFault = true → flags.safeOutputRequired = true) →
      AlwaysForcesSafeOutput flags actions := by
  intro hall
  have hforces := hall dwelledFlags latchInsideRelease (by decide) latchInsideRelease []
    (by decide) (by decide) (by decide)
  exact absurd hforces (by decide)

/-- The fault is latched while the release still has to load it, and again after it has stored. -/
theorem alwaysForcesSafeOutput_around_release :
    AlwaysForcesSafeOutput dwelledFlags
      [.callRelease, .callLatch, .job, .api, .job, .job, .job, .callClear, .api, .api, .api, .api,
        .callRelease, .api, .api, .callLatch, .job, .job, .job, .job] :=
  alwaysForcesSafeOutput_of_releasesUnlatched dwelledFlags _ (by decide) (by decide)

end LatchState

end IghMaster
