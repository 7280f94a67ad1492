import IghMaster.ResetSteps

/-!
# Fault resets between the API and the Job

The cycle count and the axis of the window are stored one after the other, and a cycle counts down
what it loaded some accesses before. A cycle may so count below zero, take a cycle from a window it
has not served, or wipe the axis of a new one. Without that, the count and the cycles that have
written the word add up to twenty.
-/

namespace IghMaster

open Transition

namespace ResetState

/-! ### Uninterrupted calls and cycles -/

theorem exec_requestFaultReset (flags : RuntimeFlags) (slavesInOp : Bool) (motorId : UInt8)
    (allowWithoutFault : Bool) (servo : Servo)
    (haccepted : (servo.requestFaultReset flags slavesInOp motorId allowWithoutFault).2 = true) :
    (machine.exec (.start (ofServo servo)) [.callRequest motorId, .api, .api]).state =
      ofServo (servo.requestFaultReset flags slavesInOp motorId allowWithoutFault).1 := by
  revert haccepted
  unfold Servo.requestFaultReset
  dsimp only
  split
  · exact fun h => absurd h Bool.false_ne_true
  · split
    · exact fun h => absurd h Bool.false_ne_true
    · split
      · exact fun h => absurd h Bool.false_ne_true
      · exact fun _ => rfl

theorem exec_clearCommFault (servo : Servo) :
    (machine.exec (.start (ofServo servo)) [.callClear, .api, .api]).state =
      ofServo servo.clearCommFault := rfl

/-- The accesses of a cycle that finds this count. -/
def cycleSteps (cycles : UInt16) : List ResetAction :=
  if cycles = 0 then [.beginCycle, .job, .job, .job]
  else if cycles = 1 then [.beginCycle, .job, .job, .job, .job, .job]
  else [.beginCycle, .job, .job, .job, .job]

theorem pos_of_ne_zero {cycles : UInt16} (hcycles : cycles ≠ 0) : 0 < cycles := by
  rw [UInt16.lt_iff_toNat_lt]
  have hne : cycles.toNat ≠ 0 := fun h => hcycles (UInt16.toNat_inj.mp h)
  exact Nat.pos_of_ne_zero hne

theorem toNat_sub_one {cycles : UInt16} (hcycles : cycles ≠ 0) :
    (cycles - 1).toNat = cycles.toNat - 1 := by
  have hpos := UInt16.lt_iff_toNat_lt.mp (pos_of_ne_zero hcycles)
  exact UInt16.toNat_sub_of_le cycles 1 (UInt16.le_iff_toNat_le.mpr hpos)

theorem sub_one_eq_zero_iff {cycles : UInt16} (hcycles : cycles ≠ 0) :
    cycles - 1 = 0 ↔ cycles = 1 := by
  have hpos : 0 < cycles.toNat := UInt16.lt_iff_toNat_lt.mp (pos_of_ne_zero hcycles)
  rw [← UInt16.toNat_inj, ← UInt16.toNat_inj, toNat_sub_one hcycles]
  change cycles.toNat - 1 = 0 ↔ cycles.toNat = 1
  omega

theorem exec_cycleSteps {state : ResetState} (hjob : state.job = .idle) :
    (machine.exec (.start state) (cycleSteps state.cycles)).state =
      { state with
        cycles := if state.cycles = 0 then 0 else state.cycles - 1
        axis := if state.cycles = 1 then 0xFFFF else state.axis } := by
  obtain ⟨cycles, axis, api, job⟩ := state
  obtain rfl : job = .idle := hjob
  unfold cycleSteps
  dsimp only
  by_cases hzero : cycles = 0
  · rw [if_pos hzero, if_pos hzero, hzero]
    rfl
  · have hpos := pos_of_ne_zero hzero
    rw [if_neg hzero, if_neg hzero]
    by_cases hone : cycles = 1
    · have hlast : cycles - 1 = 0 := (sub_one_eq_zero_iff hzero).mpr hone
      rw [if_pos hone, if_pos hone]
      simp [machine, next, beginCycle, jobStep, hpos, hlast]
    · have hleft : cycles - 1 ≠ 0 := fun h => hone ((sub_one_eq_zero_iff hzero).mp h)
      rw [if_neg hone, if_neg hone]
      simp [machine, next, beginCycle, jobStep, hpos, hleft]

theorem toNat_ofNat_cycles {count : Nat} (hcount : count ≤ 20) :
    (UInt16.ofNat count).toNat = count := by
  refine UInt16.toNat_ofNat_of_lt' ?_
  rw [UInt16.size]
  omega

theorem exec_applySafeProcessImageOutputs (servo : Servo) (hready : servo.ready = true)
    (hcycles : servo.explicitFaultResetCycles ≤ 20) :
    (machine.exec (.start (ofServo servo)) (cycleSteps (ofServo servo).cycles)).state =
      ofServo servo.applySafeProcessImageOutputs := by
  have hnat := toNat_ofNat_cycles hcycles
  have hzero : UInt16.ofNat servo.explicitFaultResetCycles = 0 ↔
      servo.explicitFaultResetCycles = 0 := by
    rw [← UInt16.toNat_inj, hnat]
    rfl
  have hone : UInt16.ofNat servo.explicitFaultResetCycles = 1 ↔
      servo.explicitFaultResetCycles = 1 := by
    rw [← UInt16.toNat_inj, hnat]
    rfl
  have hcount : (if UInt16.ofNat servo.explicitFaultResetCycles = 0 then 0
      else UInt16.ofNat servo.explicitFaultResetCycles - 1) =
        UInt16.ofNat (servo.explicitFaultResetCycles - 1) := by
    split
    · rename_i hnone
      rw [hzero.mp hnone]
      rfl
    · rename_i hsome
      exact (UInt16.ofNat_sub (Nat.pos_of_ne_zero fun h => hsome (hzero.mpr h))).symm
  rw [exec_cycleSteps rfl, Servo.applySafeProcessImageOutputs, if_pos hready]
  unfold ofServo
  dsimp only
  rw [hcount]
  simp only [hone]

/-- The word of a cycle, as the servo chooses it. -/
theorem safeControlWord_eq (servo : Servo) (hcycles : servo.explicitFaultResetCycles ≤ 20)
    (index : Nat) (axis : Axis) :
    servo.safeControlWord index axis =
      if resets index (ofServo servo).cycles (ofServo servo).axis then axis.faultResetCw.value
      else controlWordSwitchOn := by
  have hpos : (0 < (ofServo servo).cycles) ↔ 0 < servo.explicitFaultResetCycles := by
    rw [UInt16.lt_iff_toNat_lt]
    change 0 < (UInt16.ofNat servo.explicitFaultResetCycles).toNat ↔ _
    rw [toNat_ofNat_cycles hcycles]
  unfold Servo.safeControlWord Axis.selectSafeControlWord resets
  rw [decide_eq_decide.mpr hpos]
  rfl

/-! ### What a standing request keeps -/

/-- The cycle under way has written the word, and is still to count itself. -/
def uncounted (index : Nat) : ResetJob → Nat
  | .fetchSub axis => if Servo.resetAxisSelected axis index then 1 else 0
  | _ => 0

/-- What the cycle under way has loaded is the window as it stands. -/
def Loaded (state : ResetState) : ResetJob → Prop
  | .loadAxis cycles => cycles = state.cycles
  | .write cycles axis => cycles = state.cycles ∧ axis = state.axis
  | .storeAxis _ => state.cycles = 0
  | _ => True

def Wiping : ResetJob → Prop
  | .storeAxis _ => True
  | _ => False

/-- While a request stands, its window selects the axis until it is closed, and the count and the
cycles that have written the word add up to twenty. -/
structure Standing (index : Nat) (state : ResetState) (serving : Served) : Prop where
  api_eq : state.api = .idle
  selects : state.cycles ≠ 0 → Servo.resetAxisSelected state.axis index = true
  adds_up : (Wiping state.job ∧ state.cycles ≠ 0) ∨
    state.cycles.toNat + serving.count = 20 + uncounted index state.job
  loaded : serving.fresh = true → Loaded state state.job

/-- What holds in every state of a run that keeps the window. -/
structure Windowed (index : Nat) (config : ResetConfig) : Prop where
  cycles_le : config.state.cycles.toNat ≤ 20
  requested : ∀ axis, config.state.api = .requestStoreCycles axis →
    Servo.resetAxisSelected axis index = true →
      Servo.resetAxisSelected config.state.axis index = true
  standing : ∀ serving, served index config.history = some serving →
    Standing index config.state serving

variable {index : Nat} {config : ResetConfig} {serving : Served}

/-- While the API thread is busy no request stands. -/
theorem Windowed.not_served (hwindowed : Windowed index config)
    (hbusy : config.state.api ≠ .idle) : served index config.history = none := by
  cases hserved : served index config.history with
  | none => rfl
  | some serving => exact absurd (hwindowed.standing serving hserved).api_eq hbusy

theorem served_nil : served index [] = none := rfl

/-- A call that begins ends the standing of a request, and one that finds the thread busy is none. -/
theorem served_call {state : ResetState} {action : ResetAction} {earlier : List ResetVisit}
    (haction : (∃ motorId, action = .callRequest motorId) ∨ action = .callClear)
    (hbusy : state.api ≠ .idle → served index earlier = none) :
    served index (machine.visit state action :: earlier) = none := by
  obtain ⟨cycles, axis, api, job⟩ := state
  rcases haction with ⟨motorId, rfl⟩ | rfl
  all_goals
    cases api with
    | idle => rfl
    | _ =>
        have hnone : served index earlier = none := hbusy (by simp)
        change (served index earlier).map _ = none
        rw [hnone, Option.map_none]

theorem served_api {state : ResetState} (hother : ∀ axis, state.api ≠ .requestStoreCycles axis)
    (earlier : List ResetVisit) :
    served index (machine.visit state .api :: earlier) =
      (served index earlier).map (·.visit index (machine.visit state .api)) := by
  obtain ⟨cycles, axis, api, job⟩ := state
  cases api with
  | requestStoreCycles stored => exact absurd rfl (hother stored)
  | _ => rfl

theorem served_requestReturns {state : ResetState} {axis : UInt16}
    (hapi : state.api = .requestStoreCycles axis) (earlier : List ResetVisit) :
    served index (machine.visit state .api :: earlier) =
      if Servo.resetAxisSelected axis index then
        some { count := if hasReset index state.job then 1 else 0, fresh := false }
      else none := by
  obtain ⟨cycles, stored, api, job⟩ := state
  obtain rfl : api = .requestStoreCycles axis := hapi
  rfl

theorem served_job (state : ResetState) (earlier : List ResetVisit) :
    served index (machine.visit state .job :: earlier) =
      (served index earlier).map (·.visit index (machine.visit state .job)) := rfl

theorem served_beginCycle (state : ResetState) (earlier : List ResetVisit) :
    served index (machine.visit state .beginCycle :: earlier) =
      (served index earlier).map (·.visit index (machine.visit state .beginCycle)) := rfl

/-- An access of a busy API thread leaves no request standing, but for the last of a request. -/
theorem Windowed.not_served_api (hwindowed : Windowed index config)
    (hbusy : config.state.api ≠ .idle)
    (hother : ∀ axis, config.state.api ≠ .requestStoreCycles axis) :
    served index (machine.advance config .api).history = none := by
  rw [Machine.advance_history, served_api hother, hwindowed.not_served hbusy, Option.map_none]

theorem windowed_of_not_served (hcycles : config.state.cycles.toNat ≤ 20)
    (hrequested : ∀ axis, config.state.api = .requestStoreCycles axis →
      Servo.resetAxisSelected axis index = true →
        Servo.resetAxisSelected config.state.axis index = true)
    (hnone : served index config.history = none) : Windowed index config :=
  ⟨hcycles, hrequested, fun serving hserved => absurd (hnone.symm.trans hserved) (by simp)⟩

/-! ### Calls -/

theorem Windowed.callApi (hwindowed : Windowed index config) {action : ResetAction}
    {first : ResetApi} (hnext : next config.state action = config.state.callApi first)
    (haction : (∃ motorId, action = .callRequest motorId) ∨ action = .callClear)
    (hfirst : ∀ axis, first ≠ .requestStoreCycles axis) :
    Windowed index (machine.advance config action) := by
  have hnone : served index (machine.advance config action).history = none := by
    rw [Machine.advance_history]
    exact served_call haction hwindowed.not_served
  have hcycles : (next config.state action).cycles = config.state.cycles ∧
      (next config.state action).axis = config.state.axis ∧
      ((next config.state action).api = first ∨
        (next config.state action).api = config.state.api) := by
    rw [hnext]
    unfold ResetState.callApi
    split
    · exact ⟨rfl, rfl, Or.inl rfl⟩
    · exact ⟨rfl, rfl, Or.inr rfl⟩
  refine windowed_of_not_served ?_ ?_ hnone
  · change (next config.state action).cycles.toNat ≤ 20
    rw [hcycles.1]
    exact hwindowed.cycles_le
  · intro axis hapi hselected
    change Servo.resetAxisSelected (next config.state action).axis index = true
    rw [hcycles.2.1]
    rcases hcycles.2.2 with hstarted | hkept
    · exact absurd (hstarted.symm.trans hapi) (hfirst axis)
    · exact hwindowed.requested axis (hkept.symm.trans hapi) hselected

/-! ### Accesses of the API thread -/

/-- A request that returns opens a window of twenty cycles for the axis it stored. -/
theorem Windowed.requestReturns (hwindowed : Windowed index config) {axis : UInt16}
    (hapi : config.state.api = .requestStoreCycles axis) :
    Windowed index (machine.advance config .api) := by
  have hafter : (machine.advance config .api).state =
      { config.state with cycles := 20, api := .idle } := by
    simp [machine, next, apiStep, hapi]
  have hserved : served index (machine.advance config .api).history =
      if Servo.resetAxisSelected axis index then
        some { count := if hasReset index config.state.job then 1 else 0, fresh := false }
      else none := by
    rw [Machine.advance_history, served_requestReturns hapi]
  constructor
  · rw [hafter]
    exact Nat.le_refl 20
  · rw [hafter]
    exact fun _ h => absurd h (by simp)
  · intro serving hserving
    rw [hserved] at hserving
    split at hserving
    · rename_i hselected
      obtain rfl := Option.some.inj hserving
      rw [hafter]
      refine ⟨rfl, fun _ => hwindowed.requested axis hapi hselected, ?_, fun h => absurd h (by simp)⟩
      change _ ∨ 20 + (if hasReset index config.state.job then 1 else 0) =
        20 + uncounted index config.state.job
      cases hjob : config.state.job with
      | storeAxis wiped =>
          have hopen : (20 : UInt16) ≠ 0 := by decide
          exact Or.inl ⟨trivial, hopen⟩
      | _ => exact Or.inr rfl
    · exact absurd hserving (by simp)

theorem Windowed.api (hwindowed : Windowed index config) :
    Windowed index (machine.advance config .api) := by
  cases hapi : config.state.api with
  | idle =>
      have hsame : (machine.advance config .api).state = config.state := by
        simp [machine, next, apiStep, hapi]
      have hserved : served index (machine.advance config .api).history =
          served index config.history := by
        rw [Machine.advance_history, served_api (by simp [hapi])]
        have hvisit : ∀ serving : Served,
            serving.visit index (machine.visit config.state .api) = serving := fun _ => rfl
        simp only [hvisit, Option.map_id']
      constructor
      · rw [hsame]
        exact hwindowed.cycles_le
      · rw [hsame]
        exact hwindowed.requested
      · rw [hsame, hserved]
        exact hwindowed.standing
  | requestStoreCycles axis => exact hwindowed.requestReturns hapi
  | requestStoreAxis axis =>
      refine windowed_of_not_served ?_ ?_ (hwindowed.not_served_api (by simp [hapi]) (by simp [hapi]))
      · simpa [machine, next, apiStep, hapi] using hwindowed.cycles_le
      · intro stored hstored hselected
        have hafter : (machine.advance config .api).state =
            { config.state with axis := axis, api := .requestStoreCycles axis } := by
          simp [machine, next, apiStep, hapi]
        rw [hafter] at hstored ⊢
        obtain rfl := ResetApi.requestStoreCycles.inj hstored
        exact hselected
  | clearStoreCycles =>
      refine windowed_of_not_served ?_ ?_ (hwindowed.not_served_api (by simp [hapi]) (by simp [hapi]))
      · simp [machine, next, apiStep, hapi]
      · simp [machine, next, apiStep, hapi]
  | clearStoreAxis =>
      refine windowed_of_not_served ?_ ?_ (hwindowed.not_served_api (by simp [hapi]) (by simp [hapi]))
      · simpa [machine, next, apiStep, hapi] using hwindowed.cycles_le
      · simp [machine, next, apiStep, hapi]

/-! ### Accesses of a cycle -/

section Standing

variable {state : ResetState}

/-- Between the accesses that count, nothing is left to be counted. -/
theorem Standing.adds_up_eq (hstanding : Standing index state serving)
    (hwiping : ¬ Wiping state.job) :
    state.cycles.toNat + serving.count = 20 + uncounted index state.job :=
  hstanding.adds_up.resolve_left fun h => hwiping h.1

theorem Standing.beginCycle (hstanding : Standing index state serving) :
    Standing index state.beginCycle (serving.visit index (machine.visit state .beginCycle)) := by
  unfold ResetState.beginCycle
  by_cases hjob : state.job = .idle
  · have hserving : serving.visit index (machine.visit state .beginCycle) =
        { serving with fresh := true } := by
      rw [Served.visit, Machine.visit_action, Machine.visit_before, hjob]
    have hadds := hstanding.adds_up_eq (by rw [hjob]; exact id)
    rw [hjob] at hadds
    rw [if_pos hjob, hserving]
    exact ⟨hstanding.api_eq, hstanding.selects, Or.inr hadds, fun _ => trivial⟩
  · have hserving : serving.visit index (machine.visit state .beginCycle) = serving := by
      unfold Served.visit
      cases hbusy : state.job with
      | idle => exact absurd hbusy hjob
      | _ => simp [hbusy]
    rw [if_neg hjob, hserving]
    exact hstanding

/-- The accesses that only load. -/
theorem Standing.load (hstanding : Standing index state serving) (job : ResetJob)
    (hjob : state.jobStep = { state with job := job }) (hwiping : ¬ Wiping state.job)
    (hsame : serving.visit index (machine.visit state .job) = serving)
    (hbefore : uncounted index state.job = 0) (hafter : uncounted index job = 0)
    (hloaded : serving.fresh = true → Loaded { state with job := job } job) :
    Standing index state.jobStep (serving.visit index (machine.visit state .job)) := by
  have hadds := hstanding.adds_up_eq hwiping
  rw [hbefore] at hadds
  rw [hjob, hsame]
  refine ⟨hstanding.api_eq, hstanding.selects, Or.inr ?_, hloaded⟩
  change state.cycles.toNat + serving.count = 20 + uncounted index job
  rw [hafter, hadds]

/-- The process image: what is written counts, and is still to be counted down. -/
theorem Standing.write (hstanding : Standing index state serving) {cycles axis : UInt16}
    (hjob : state.job = .write cycles axis) :
    Standing index state.jobStep (serving.visit index (machine.visit state .job)) := by
  have hadds := hstanding.adds_up_eq (by rw [hjob]; exact id)
  rw [hjob] at hadds
  have hserving : serving.visit index (machine.visit state .job) =
      { serving with count := serving.count + if resets index cycles axis then 1 else 0 } := by
    rw [Served.visit, Machine.visit_action, Machine.visit_before, hjob]
  have hstep : state.jobStep =
      { state with job := if 0 < cycles then .fetchSub axis else .idle } := by
    rw [jobStep, hjob]
  rw [hstep, hserving]
  by_cases hpos : 0 < cycles
  · rw [if_pos hpos]
    refine ⟨hstanding.api_eq, hstanding.selects, Or.inr ?_, fun _ => trivial⟩
    change state.cycles.toNat + (serving.count + if resets index cycles axis then 1 else 0) =
      20 + if Servo.resetAxisSelected axis index then 1 else 0
    have hresets : resets index cycles axis = Servo.resetAxisSelected axis index := by
      simp [resets, hpos]
    rw [hresets]
    calc state.cycles.toNat + (serving.count + if Servo.resetAxisSelected axis index then 1 else 0)
        = state.cycles.toNat + serving.count +
            if Servo.resetAxisSelected axis index then 1 else 0 := (Nat.add_assoc _ _ _).symm
      _ = 20 + if Servo.resetAxisSelected axis index then 1 else 0 := by
          rw [hadds]
          rfl
  · rw [if_neg hpos]
    refine ⟨hstanding.api_eq, hstanding.selects, Or.inr ?_, fun _ => trivial⟩
    change state.cycles.toNat + (serving.count + if resets index cycles axis then 1 else 0) = 20 + 0
    have hresets : resets index cycles axis = false := by simp [resets, hpos]
    rw [hresets, if_neg Bool.false_ne_true]
    exact hadds

theorem Standing.fetchSub (hstanding : Standing index state serving) {axis : UInt16}
    (hjob : state.job = .fetchSub axis) (hkeeps : keepsWindow index state .job = true) :
    Standing index state.jobStep (serving.visit index (machine.visit state .job)) := by
  have hadds := hstanding.adds_up_eq (by rw [hjob]; exact id)
  rw [hjob] at hadds
  have hserving : serving.visit index (machine.visit state .job) = serving := by
    rw [Served.visit, Machine.visit_action, Machine.visit_before, hjob]
  have hstep : state.jobStep = { state with
      cycles := state.cycles - 1
      job := if state.cycles - 1 = 0 then .storeAxis axis else .idle } := by
    rw [jobStep, hjob]
  -- the window is open for the axis, so this cycle has written the word to it
  have hopen : state.cycles ≠ 0 ∧ Servo.resetAxisSelected axis index = true := by
    have hrequesting : state.requesting = false := by rw [requesting, hstanding.api_eq]
    simp only [keepsWindow, hjob, Bool.and_eq_true, bne_iff_ne, hrequesting, Bool.false_or,
      Bool.or_eq_true, Bool.not_eq_true'] at hkeeps
    refine ⟨hkeeps.1, hkeeps.2.resolve_left ?_⟩
    rw [hstanding.selects hkeeps.1]
    exact Bool.false_ne_true.symm
  have hpos : 0 < state.cycles.toNat := UInt16.lt_iff_toNat_lt.mp (pos_of_ne_zero hopen.1)
  have hless : (state.cycles - 1).toNat + serving.count = 20 := by
    have hcounted : uncounted index (.fetchSub axis) = 1 := if_pos hopen.2
    rw [toNat_sub_one hopen.1]
    omega
  rw [hstep, hserving]
  refine ⟨hstanding.api_eq, fun _ => hstanding.selects hopen.1, Or.inr ?_, fun _ => ?_⟩
  · split
    · exact hless
    · exact hless
  · split
    · rename_i hzero
      exact hzero
    · trivial

theorem Standing.storeAxis (hstanding : Standing index state serving) {axis : UInt16}
    (hjob : state.job = .storeAxis axis) (hkeeps : keepsWindow index state .job = true) :
    Standing index state.jobStep (serving.visit index (machine.visit state .job)) := by
  have hserving : serving.visit index (machine.visit state .job) = serving := by
    rw [Served.visit, Machine.visit_action, Machine.visit_before, hjob]
  have hstep : state.jobStep = { state with axis := 0xFFFF, job := .idle } := by
    rw [jobStep, hjob]
  have hclosed : state.cycles = 0 := by
    by_contra hopen
    simp only [keepsWindow, hjob, hstanding.selects hopen, Bool.not_true, Bool.false_or,
      Bool.and_eq_true, beq_iff_eq] at hkeeps
    exact hopen hkeeps.1
  have hadds := hstanding.adds_up.resolve_left fun h => h.2 hclosed
  rw [hjob] at hadds
  rw [hstep, hserving]
  exact ⟨hstanding.api_eq, fun hopen => absurd hclosed hopen, Or.inr hadds, fun _ => trivial⟩

theorem Standing.jobStep (hstanding : Standing index state serving)
    (hkeeps : keepsWindow index state .job = true) :
    Standing index state.jobStep (serving.visit index (machine.visit state .job)) := by
  have hloaded := hstanding.loaded
  cases hjob : state.job with
  | idle =>
      have hserving : serving.visit index (machine.visit state .job) = serving := by
        rw [Served.visit, Machine.visit_action, Machine.visit_before, hjob]
      have hstep : state.jobStep = state := by rw [ResetState.jobStep, hjob]
      rw [hstep, hserving]
      exact hstanding
  | loadCycles =>
      refine hstanding.load (.loadAxis state.cycles) (by rw [ResetState.jobStep, hjob])
        (by rw [hjob]; exact id) ?_ (by rw [hjob]; rfl) rfl fun _ => rfl
      rw [Served.visit, Machine.visit_action, Machine.visit_before, hjob]
  | loadAxis cycles =>
      refine hstanding.load (.write cycles state.axis) (by rw [ResetState.jobStep, hjob])
        (by rw [hjob]; exact id) ?_ (by rw [hjob]; rfl) rfl fun hfresh => ?_
      · rw [Served.visit, Machine.visit_action, Machine.visit_before, hjob]
      · have hcycles := hloaded hfresh
        rw [hjob] at hcycles
        exact ⟨hcycles, rfl⟩
  | write cycles axis => exact hstanding.write hjob
  | fetchSub axis => exact hstanding.fetchSub hjob hkeeps
  | storeAxis axis => exact hstanding.storeAxis hjob hkeeps

end Standing

/-! ### Runs -/

theorem Windowed.beginCycle (hwindowed : Windowed index config) :
    Windowed index (machine.advance config .beginCycle) := by
  have hkept : (config.state.beginCycle).cycles = config.state.cycles ∧
      (config.state.beginCycle).axis = config.state.axis ∧
      (config.state.beginCycle).api = config.state.api := by
    unfold ResetState.beginCycle
    split <;> exact ⟨rfl, rfl, rfl⟩
  constructor
  · change config.state.beginCycle.cycles.toNat ≤ 20
    rw [hkept.1]
    exact hwindowed.cycles_le
  · change ∀ axis, config.state.beginCycle.api = _ → _ →
      Servo.resetAxisSelected config.state.beginCycle.axis index = true
    rw [hkept.2.1, hkept.2.2]
    exact hwindowed.requested
  · intro serving hserved
    rw [Machine.advance_history, served_beginCycle, Option.map_eq_some_iff] at hserved
    obtain ⟨before, hbefore, rfl⟩ := hserved
    exact (hwindowed.standing before hbefore).beginCycle

theorem cycles_jobStep_le {state : ResetState} (hle : state.cycles.toNat ≤ 20)
    (hkeeps : keepsWindow index state .job = true) : state.jobStep.cycles.toNat ≤ 20 := by
  unfold ResetState.jobStep
  cases hjob : state.job with
  | fetchSub axis =>
      simp only [keepsWindow, hjob, Bool.and_eq_true, bne_iff_ne] at hkeeps
      change (state.cycles - 1).toNat ≤ 20
      rw [toNat_sub_one hkeeps.1]
      omega
  | _ => exact hle

theorem Windowed.job (hwindowed : Windowed index config)
    (hkeeps : keepsWindow index config.state .job = true) :
    Windowed index (machine.advance config .job) := by
  constructor
  · exact cycles_jobStep_le hwindowed.cycles_le hkeeps
  · change ∀ axis, config.state.jobStep.api = _ → _ →
      Servo.resetAxisSelected config.state.jobStep.axis index = true
    intro axis hapi hselected
    have hsame : config.state.jobStep.api = config.state.api := by
      unfold ResetState.jobStep
      split <;> rfl
    rw [hsame] at hapi
    have hstill := hwindowed.requested axis hapi hselected
    cases hjob : config.state.job with
    | storeAxis wiped => simp [keepsWindow, hjob, hstill, requesting, hapi] at hkeeps
    | _ => simpa [ResetState.jobStep, hjob] using hstill
  · intro serving hserved
    rw [Machine.advance_history, served_job, Option.map_eq_some_iff] at hserved
    obtain ⟨before, hbefore, rfl⟩ := hserved
    exact (hwindowed.standing before hbefore).jobStep hkeeps

theorem Windowed.advance (hwindowed : Windowed index config) {action : ResetAction}
    (hkeeps : keepsWindow index config.state action = true) :
    Windowed index (machine.advance config action) := by
  cases action with
  | callRequest motorId => exact hwindowed.callApi rfl (Or.inl ⟨motorId, rfl⟩) (by simp)
  | callClear => exact hwindowed.callApi rfl (Or.inr rfl) (by simp)
  | beginCycle => exact hwindowed.beginCycle
  | api => exact hwindowed.api
  | job => exact hwindowed.job hkeeps

/-- A cycle that began after the return writes what the count of the window says. -/
theorem Windowed.written_eq (hwindowed : Windowed index config) {action : ResetAction} {reset : Bool}
    (hwritten : written? index (machine.visit config.state action) = some reset)
    {serving : Served} (hserved : served index config.history = some serving)
    (hfresh : serving.fresh = true) : reset = decide (serving.count < 20) := by
  have hstanding := hwindowed.standing serving hserved
  have hloaded := hstanding.loaded hfresh
  unfold written? at hwritten
  rw [Machine.visit_action, Machine.visit_before] at hwritten
  split at hwritten
  · rename_i cycles axis hjob
    have hadds := hstanding.adds_up_eq (by rw [hjob]; exact id)
    rw [hjob] at hadds hloaded
    obtain ⟨rfl, rfl⟩ := hloaded
    have hreset := Option.some.inj hwritten
    have hsum : config.state.cycles.toNat + serving.count = 20 := hadds
    rw [← hreset, resets]
    by_cases hclosed : config.state.cycles = 0
    · have hall : serving.count = 20 := by
        rw [hclosed] at hsum
        exact (Nat.zero_add _).symm.trans hsum
      rw [hclosed, hall]
      rfl
    · have hpos := pos_of_ne_zero hclosed
      have hsome : 0 < config.state.cycles.toNat := UInt16.lt_iff_toNat_lt.mp hpos
      have hfew : serving.count < 20 := by omega
      rw [hstanding.selects hclosed, decide_eq_true hpos, decide_eq_true hfew]
      rfl
  · exact absurd hwritten (by simp)

/-- In every interleaving in which no cycle counts down a window that is not its own and none wipes
the axis of a window, the accepted resets of the axis survive. -/
theorem resetsSurvive_of_keepsWindow (index : Nat) (actions : List ResetAction)
    (hkeeps : machine.Meets (fun config action => keepsWindow index config.state action = true)
      (Config.start {}) actions) :
    ResetsSurvive index (machine.exec (Config.start {}) actions) := by
  have hstep : ∀ (config : ResetConfig) (action : ResetAction),
      (Windowed index config ∧ ResetsSurvive index config) →
        keepsWindow index config.state action = true →
          Windowed index (machine.advance config action) ∧
            ResetsSurvive index (machine.advance config action) := by
    rintro config action ⟨hwindowed, -⟩ hkept
    have hafter := hwindowed.advance hkept
    refine ⟨hafter, UInt16.le_iff_toNat_le.mpr hafter.cycles_le, ?_⟩
    intro visit earlier hhistory reset hwritten serving hserved hfresh
    rw [Machine.advance_history] at hhistory
    obtain ⟨rfl, rfl⟩ := List.cons.inj hhistory
    exact hwindowed.written_eq hwritten hserved hfresh
  have hstart : Windowed index (Config.start {}) ∧ ResetsSurvive index (Config.start {}) := by
    refine ⟨⟨Nat.zero_le 20, fun axis h => absurd h (by simp), fun serving h => ?_⟩,
      by decide, fun visit earlier h => absurd h (by simp)⟩
    exact absurd (served_nil.symm.trans h) (by simp)
  exact (machine.exec_invariant_of_meets hstep hstart hkeeps).2

/-- A cycle under way takes the request up, nineteen follow, and then one that writes Shutdown. -/
theorem resetsSurvive_underWay :
    ResetsSurvive 0 (machine.exec (Config.start {})
      ([.beginCycle, .callRequest 0, .api, .api, .job, .job, .job, .job] ++
        (List.replicate 19 [.beginCycle, .job, .job, .job, .job]).flatten ++
        [.job, .beginCycle, .job, .job, .job])) :=
  resetsSurvive_of_keepsWindow 0 _ (by decide +kernel)

/-- `clearCommFault` closes the window between the load of a cycle and its countdown. -/
def clearInsideCycle : List ResetAction :=
  [.callRequest 0, .api, .api, .beginCycle, .job, .job, .job, .callClear, .api, .job]

theorem not_resetsSurvive :
    ¬ ∀ (index : Nat) (actions : List ResetAction),
      ResetsSurvive index (machine.exec (Config.start {}) actions) := by
  intro hall
  exact absurd (hall 0 clearInsideCycle).cycles_le (by decide +kernel)

end ResetState

end IghMaster
