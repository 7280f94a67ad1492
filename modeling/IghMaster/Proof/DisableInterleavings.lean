import IghMaster.Proof.EnableReach

/-!
# A disable call under every interleaving

The call stores the demand, the active flag, the step and the wait one after the other, and an
execution that has loaded some of them before may store over the rest. Two such stores undo the
call: the one that completes a disable sequence, and the decrement of a wait that the call has
cleared. Without them the machine retires, in at most fifty-five executions.
-/

namespace IghMaster

open Transition

def EnableCall.made : EnableCall → Nat
  | .loadDesired => 0
  | .storeDesired => 1
  | .storeActive => 2
  | .storeStep => 3
  | .storeWait => 4
  | .returned => 5

/-! ### Retiring -/

namespace EnableFsm

/-- A machine that a disable call has left to the Job: it still has the whole sequence to run, or
what is left of it, or Shutdown is in place. -/
structure Retiring (fsm : EnableFsm) : Prop where
  plain : fsm.Plain
  not_desired : fsm.desiredEnable = false
  step_le : fsm.step ≤ 4
  wait_le : fsm.wait ≤ stepDelayCycles
  running_or : fsm.running = true ∨ fsm.controlWordState = controlWordSwitchOn
  last_eq : fsm.step = 4 → fsm.controlWordState = controlWordSwitchOn

theorem Retiring.advance {fsm : EnableFsm} (hretiring : fsm.Retiring) (ctx : TxContext) :
    (fsm.advance ctx).Retiring := by
  obtain ⟨hplain, hdesired, hstep, hwait, hrunningOr, hlast⟩ := hretiring
  have hplain' : (fsm.advance ctx).Plain := advance_plain hplain
  have hadvanced := advance_cases ctx fsm
  generalize fsm.advance ctx = after at hplain' hadvanced ⊢
  cases hadvanced with
  | rested hrunning => exact ⟨hplain, hdesired, hstep, hwait, hrunningOr, hlast⟩
  | waited hrunning hpos =>
      exact ⟨hplain', hdesired, hstep, Nat.le_trans (Nat.sub_le _ _) hwait,
        Or.inl (running_of_active rfl), hlast⟩
  | disabled hrunning hzero hnot =>
      unfold disableStep at hplain' ⊢
      by_cases hlt : fsm.step < 4
      · rw [if_pos hlt] at hplain' ⊢
        refine ⟨hplain', hdesired, hlt, Nat.le_refl _, Or.inl (running_of_active rfl), ?_⟩
        intro hfour
        have hthree : fsm.step = 3 := Nat.succ.inj hfour
        show cia402DisableSequence fsm.step = controlWordSwitchOn
        rw [hthree]
        rfl
      · have hfour : fsm.step = 4 := by omega
        rw [if_neg hlt] at hplain' ⊢
        exact ⟨hplain', hdesired, Nat.zero_le 4, Nat.zero_le _, Or.inr (hlast hfour),
          fun hfour => absurd hfour (show (0 : Nat) ≠ 4 by decide)⟩
  | enabled hrunning hzero henable hfault =>
      exact absurd (hdesired.symm.trans henable) Bool.false_ne_true
  | faulted hrunning hzero henable hfault =>
      exact absurd (hdesired.symm.trans henable) Bool.false_ne_true

/-- One execution keeps a machine retiring, and one less remains. -/
theorem Retiring.stepFsm {fsm : EnableFsm} (hretiring : fsm.Retiring) (ctx : TxContext) :
    (fsm.stepFsm ctx).Retiring ∧ (fsm.stepFsm ctx).remaining ≤ fsm.remaining - 1 := by
  obtain ⟨persist, loss, hprepared⟩ :=
    (prepare_cases ctx hretiring.plain).eq_of_not_desired hretiring.not_desired
  rw [stepFsm_eq_advance_prepare, hprepared]
  have hprepared' : ({ fsm with
      faultPersistCounter := persist, monitorLossCounter := loss, faultResetPhase := 0 } :
        EnableFsm).Retiring :=
    ⟨⟨hretiring.plain.faultResetCounter_eq, hretiring.plain.not_pending⟩, hretiring.not_desired,
      hretiring.step_le, hretiring.wait_le, hretiring.running_or, hretiring.last_eq⟩
  refine ⟨hprepared'.advance ctx, Nat.le_of_eq (remaining_advance ?_ hprepared'.step_le)⟩
  exact (congrArg (ctx.hasFault && ·) hprepared'.not_desired).trans (Bool.and_false _)

theorem Retiring.sendDataCommon {fsm : EnableFsm} (hretiring : fsm.Retiring) (ctx : TxContext) :
    (fsm.sendDataCommon ctx).1.Retiring ∧
      (fsm.sendDataCommon ctx).1.remaining ≤ fsm.remaining - 1 := by
  obtain ⟨hstepped, hremaining⟩ := hretiring.stepFsm ctx
  have hrecorded : (fsm.sendDataCommon ctx).1 =
      { fsm.stepFsm ctx with lastWrittenControlWord := (fsm.stepFsm ctx).controlWordToWrite ctx } :=
    recordControlWord_of_plain hstepped.plain
  rw [hrecorded]
  exact ⟨⟨⟨hstepped.plain.faultResetCounter_eq, hstepped.plain.not_pending⟩, hstepped.not_desired,
    hstepped.step_le, hstepped.wait_le, hstepped.running_or, hstepped.last_eq⟩, hremaining⟩

theorem Retiring.retired {fsm : EnableFsm} (hretiring : fsm.Retiring)
    (hremaining : fsm.remaining = 0) :
    fsm.enableRequested = false ∧ fsm.controlWordState = controlWordSwitchOn := by
  have hidle : fsm.running = false := by
    by_contra hrunning
    rw [Bool.not_eq_false] at hrunning
    simp [remaining, hrunning] at hremaining
  refine ⟨?_, ?_⟩
  · simpa [running, hretiring.not_desired] using (Bool.or_eq_false_iff.mp hidle).1
  · rcases hretiring.running_or with hrunning | hword
    · exact absurd (hidle.symm.trans hrunning) (by simp)
    · exact hword

theorem sendDataCommon_snd_of_switchOn {ctx : TxContext} {fsm : EnableFsm}
    (hplain : fsm.Plain) (hword : (fsm.sendDataCommon ctx).1.controlWordState = controlWordSwitchOn) :
    (fsm.sendDataCommon ctx).2 = controlWordSwitchOn := by
  have hstepped := stepFsm_plain ctx hplain
  have hstate : (fsm.stepFsm ctx).controlWordState = controlWordSwitchOn := by
    have hrecorded : (fsm.stepFsm ctx).recordControlWord ctx = _ :=
      recordControlWord_of_plain hstepped
    rw [← hword, sendDataCommon, hrecorded]
  show (fsm.stepFsm ctx).controlWordToWrite ctx = controlWordSwitchOn
  rw [controlWordToWrite_of_plain hstepped, hstate, ite_self]

end EnableFsm

namespace EnableAccessState

def executedAll (state : EnableAccessState) (ctxs : List TxContext) : EnableAccessState :=
  ctxs.foldl executed state

/-- The disable has come into effect after at most so many further executions without a fault, and
stays in effect over any more of them. -/
def DisablesWithin (bound : Nat) (state : EnableAccessState) : Prop :=
  ∃ count ≤ bound, ∀ ctxs : List TxContext, count ≤ ctxs.length →
    (∀ ctx ∈ ctxs, ctx.hasFault = false) →
      (state.executedAll ctxs).written = controlWordSwitchOn ∧
        (state.executedAll ctxs).fsm.enableRequested = false

theorem executedAll_concat (state : EnableAccessState) (ctxs : List TxContext) (ctx : TxContext) :
    state.executedAll (ctxs ++ [ctx]) = (state.executedAll ctxs).executed ctx := by
  rw [executedAll, List.foldl_append]
  rfl

theorem retiring_executedAll {state : EnableAccessState} (hretiring : state.fsm.Retiring)
    (ctxs : List TxContext) :
    (state.executedAll ctxs).fsm.Retiring ∧
      (state.executedAll ctxs).fsm.remaining ≤ state.fsm.remaining - ctxs.length := by
  induction ctxs using List.reverseRecOn with
  | nil => exact ⟨hretiring, Nat.le_refl _⟩
  | append_singleton ctxs ctx ih =>
      obtain ⟨hbefore, hremaining⟩ := ih
      obtain ⟨hafter, hless⟩ := hbefore.sendDataCommon ctx
      rw [executedAll_concat]
      refine ⟨hafter, ?_⟩
      calc ((state.executedAll ctxs).executed ctx).fsm.remaining
          ≤ (state.executedAll ctxs).fsm.remaining - 1 := hless
        _ ≤ state.fsm.remaining - ctxs.length - 1 := Nat.sub_le_sub_right hremaining 1
        _ = state.fsm.remaining - (ctxs ++ [ctx]).length := by
            rw [List.length_append, List.length_singleton, Nat.sub_sub]

/-- What is left to a retiring machine comes into effect within fifty-five executions. -/
theorem disablesWithin_of_retiring {state : EnableAccessState} (hretiring : state.fsm.Retiring) :
    state.DisablesWithin 60 := by
  refine ⟨55, by omega, fun ctxs hlength _ => ?_⟩
  cases ctxs using List.reverseRecOn with
  | nil => exact absurd hlength (by simp)
  | append_singleton ctxs ctx =>
      have hwhole := retiring_executedAll hretiring (ctxs ++ [ctx])
      have hbound := EnableFsm.remaining_le hretiring.wait_le
      obtain ⟨hrequested, hword⟩ := hwhole.1.retired (by omega)
      rw [executedAll_concat] at hrequested hword ⊢
      have hplain := (retiring_executedAll hretiring ctxs).1.plain
      exact ⟨EnableFsm.sendDataCommon_snd_of_switchOn hplain hword, hrequested⟩

/-! ### The call among the accesses of executions -/

/-- What holds of an execution among the accesses of a disable call when it is about to make an
access: from the store of the active flag to its end the machine is active, a wait that was found
expired stays so, and a step loaded in the direction of enable is the call's zero once that is
stored. -/
def PointHolds (made : Nat) (fsm : EnableFsm) : TxAccess → Prop
  | .decrementWait => fsm.active = true ∧ 0 < fsm.wait
  | .faultDesired | .faultLoadWait => fsm.active = true ∧ fsm.wait = 0
  | .faultDecrementWait => False
  | .loadStep true | .indexStep true | .incrementStep true =>
      fsm.active = true ∧ (4 ≤ made → fsm.step = 0)
  | .incrementStep false =>
      fsm.active = true ∧ (fsm.step = 3 → fsm.controlWordState = controlWordSwitchOn)
  | .loadWait | .faultStoreWait | .faultStoreStep | .faultRearmWait | .faultClearWait
  | .direction | .loadStep false | .indexStep false | .rearmWait | .completeActive _ =>
      fsm.active = true
  | _ => True

/-- What the stores that the call has made have established, and the executions have kept. -/
structure Stored (made : Nat) (fsm : EnableFsm) : Prop where
  demanded : made = 0 → fsm.desiredEnable = true
  not_desired : 2 ≤ made → fsm.desiredEnable = false
  running_or : 3 ≤ made → fsm.enableRequested = true ∨ fsm.active = true ∨
    fsm.controlWordState = controlWordSwitchOn
  last_eq : 4 ≤ made → fsm.step = 4 → fsm.controlWordState = controlWordSwitchOn
  wait_le : 5 ≤ made → fsm.wait ≤ stepDelayCycles

structure Disabling (state : EnableAccessState) : Prop where
  disables : state.enable = false
  stored : Stored state.call.made state.fsm
  pointHolds : PointHolds state.call.made state.fsm state.access

/-- A step that undoes no store of the call: the Job completes no disable sequence over the active
flag that the call has stored, unless Shutdown is in place, and the call clears no wait that the Job
is about to decrement. -/
def keepsDisable (config : EnableAccessConfig) : EnableAccessAction → Bool
  | .call => !(config.state.call = .storeWait && config.state.access = .decrementWait)
  | .execute _ => true
  | .access =>
      !(config.state.access = .completeActive false && 3 ≤ config.state.call.made) ||
        config.state.fsm.controlWordState == controlWordSwitchOn

theorem Disabling.execute {state : EnableAccessState} (hdisabling : state.Disabling)
    (ctx : TxContext) : (state.execute ctx).Disabling := by
  unfold EnableAccessState.execute
  split
  · exact ⟨hdisabling.disables, hdisabling.stored, trivial⟩
  · exact hdisabling

/-- A store of the call leaves the annotations of the execution true: it may only set the active
flag and clear the step and the wait, and clears no wait that is about to be decremented. -/
theorem PointHolds.of_call {made made' : Nat} {fsm fsm' : EnableFsm} {access : TxAccess}
    (hpoint : PointHolds made fsm access)
    (hactive : fsm.active = true → fsm'.active = true)
    (hwait : fsm'.wait = fsm.wait ∨ (fsm'.wait = 0 ∧ access ≠ .decrementWait))
    (hstep : (fsm'.step = fsm.step ∧ (made' < 4 ∨ 4 ≤ made)) ∨ fsm'.step = 0)
    (hword : fsm'.controlWordState = fsm.controlWordState) : PointHolds made' fsm' access := by
  have hstored : fsm.active = true ∧ (4 ≤ made → fsm.step = 0) →
      fsm'.active = true ∧ (4 ≤ made' → fsm'.step = 0) := by
    rintro ⟨hbefore, hzero⟩
    refine ⟨hactive hbefore, fun hmade => ?_⟩
    rcases hstep with ⟨hsame, hmade'⟩ | hcleared
    · exact hsame.trans (hzero (by omega))
    · exact hcleared
  have hexpired : fsm.active = true ∧ fsm.wait = 0 → fsm'.active = true ∧ fsm'.wait = 0 := by
    rintro ⟨hbefore, hzero⟩
    refine ⟨hactive hbefore, ?_⟩
    rcases hwait with hsame | ⟨hcleared, -⟩
    · exact hsame.trans hzero
    · exact hcleared
  cases access with
  | decrementWait =>
      obtain ⟨hbefore, hpos⟩ := hpoint
      rcases hwait with hsame | ⟨-, hother⟩
      · exact ⟨hactive hbefore, hsame ▸ hpos⟩
      · exact absurd rfl hother
  | faultDesired => exact hexpired hpoint
  | faultLoadWait => exact hexpired hpoint
  | loadStep enable =>
      cases enable with
      | false => exact hactive hpoint
      | true => exact hstored hpoint
  | indexStep enable =>
      cases enable with
      | false => exact hactive hpoint
      | true => exact hstored hpoint
  | incrementStep enable =>
      cases enable with
      | false =>
          obtain ⟨hbefore, hlast⟩ := hpoint
          refine ⟨hactive hbefore, fun hthree => ?_⟩
          rcases hstep with ⟨hsame, -⟩ | hcleared
          · exact hword.trans (hlast (hsame.symm.trans hthree))
          · exact absurd (hcleared.symm.trans hthree) (by decide)
      | true => exact hstored hpoint
  | loadWait | faultStoreWait | faultStoreStep | faultRearmWait | faultClearWait | direction
  | rearmWait | completeActive => exact hactive hpoint
  | _ => exact hpoint

namespace Stored

variable {fsm : EnableFsm}

theorem initial (hdesired : fsm.desiredEnable = true) : Stored 0 fsm where
  demanded _ := hdesired
  not_desired := by omega
  running_or := by omega
  last_eq := by omega
  wait_le := by omega

theorem loadDesired : Stored 1 fsm where
  demanded := by omega
  not_desired := by omega
  running_or := by omega
  last_eq := by omega
  wait_le := by omega

theorem storeDesired : Stored 2 { fsm with desiredEnable := false } where
  demanded := by omega
  not_desired _ := rfl
  running_or := by omega
  last_eq := by omega
  wait_le := by omega

theorem storeActive (hstored : Stored 2 fsm) : Stored 3 { fsm with active := true } where
  demanded := by omega
  not_desired _ := hstored.not_desired (by omega)
  running_or _ := Or.inr (Or.inl rfl)
  last_eq := by omega
  wait_le := by omega

theorem storeStep (hstored : Stored 3 fsm) : Stored 4 { fsm with step := 0 } where
  demanded := by omega
  not_desired _ := hstored.not_desired (by omega)
  running_or _ := hstored.running_or (by omega)
  last_eq _ := fun hfour => absurd hfour (show (0 : Nat) ≠ 4 by decide)
  wait_le := by omega

theorem storeWait (hstored : Stored 4 fsm) : Stored 5 { fsm with wait := 0 } where
  demanded := by omega
  not_desired _ := hstored.not_desired (by omega)
  running_or _ := hstored.running_or (by omega)
  last_eq _ := hstored.last_eq (by omega)
  wait_le _ := Nat.zero_le _

theorem forgetLoss {made : Nat} (hstored : Stored made fsm) (ctx : TxContext) :
    Stored made (forgetLoss ctx fsm) := by
  obtain ⟨hdemanded, hdesired, hrunning, hlast, hwait⟩ := hstored
  unfold EnableAccessState.forgetLoss
  split <;> exact ⟨hdemanded, hdesired, hrunning, hlast, hwait⟩

end Stored

theorem Disabling.callStep {state : EnableAccessState} (hdisabling : state.Disabling)
    (hkeeps : ¬ (state.call = .storeWait ∧ state.access = .decrementWait)) :
    state.callStep.Disabling := by
  obtain ⟨hdisables, hstored, hpoint⟩ := hdisabling
  unfold EnableAccessState.callStep
  cases hcall : state.call with
  | loadDesired =>
      rw [hcall] at hstored hpoint
      have hchanges : ¬ state.fsm.desiredEnable = state.enable := by
        rw [hstored.demanded rfl, hdisables]
        decide
      simp only [if_neg hchanges]
      have hearly : 1 < 4 ∨ 4 ≤ 0 := by decide
      exact ⟨hdisables, .loadDesired,
        hpoint.of_call id (Or.inl rfl) (Or.inl ⟨rfl, hearly⟩) rfl⟩
  | storeDesired =>
      rw [hcall] at hpoint
      have hearly : 2 < 4 ∨ 4 ≤ 1 := by decide
      refine ⟨hdisables, ?_, hpoint.of_call id (Or.inl rfl) (Or.inl ⟨rfl, hearly⟩) rfl⟩
      dsimp only
      rw [hdisables]
      exact .storeDesired
  | storeActive =>
      rw [hcall] at hstored hpoint
      have hearly : 3 < 4 ∨ 4 ≤ 2 := by decide
      exact ⟨hdisables, hstored.storeActive,
        hpoint.of_call (fun _ => rfl) (Or.inl rfl) (Or.inl ⟨rfl, hearly⟩) rfl⟩
  | storeStep =>
      rw [hcall] at hstored hpoint
      exact ⟨hdisables, hstored.storeStep, hpoint.of_call id (Or.inl rfl) (Or.inr rfl) rfl⟩
  | storeWait =>
      rw [hcall] at hstored hpoint
      have hlate : 5 < 4 ∨ 4 ≤ 4 := by decide
      exact ⟨hdisables, hstored.storeWait,
        hpoint.of_call id (Or.inr ⟨rfl, fun haccess => hkeeps ⟨hcall, haccess⟩⟩)
          (Or.inl ⟨rfl, hlate⟩) rfl⟩
  | returned => exact ⟨hdisables, hstored, hpoint⟩

namespace Disabling

variable {state : EnableAccessState}

theorem debounceStep (hdisabling : state.Disabling) : state.debounceStep.Disabling := by
  obtain ⟨hdisables, ⟨hdemanded, hdesired, hrunning, hlast, hwait⟩, -⟩ := hdisabling
  unfold EnableAccessState.debounceStep
  dsimp only
  split
  · split
    · exact ⟨hdisables, ⟨hdemanded, hdesired, hrunning, hlast, hwait⟩, trivial⟩
    · split <;> exact ⟨hdisables, ⟨hdemanded, hdesired, hrunning, hlast, hwait⟩, trivial⟩
  · split
    · split <;> exact ⟨hdisables, ⟨hdemanded, hdesired, hrunning, hlast, hwait⟩, trivial⟩
    · exact ⟨hdisables, ⟨hdemanded, hdesired, hrunning, hlast, hwait⟩, trivial⟩
  · exact ⟨hdisables, ⟨hdemanded, hdesired, fun _ => Or.inr (Or.inl rfl), hlast, hwait⟩, trivial⟩

theorem monitorStep (hdisabling : state.Disabling) : state.monitorStep.Disabling := by
  have hforget := hdisabling.stored.forgetLoss state.ctx
  obtain ⟨hdisables, ⟨hdemanded, hdesired, hrunning, hlast, hwait⟩, -⟩ := hdisabling
  unfold EnableAccessState.monitorStep
  dsimp only
  split
  · split
    · exact ⟨hdisables, ⟨hdemanded, hdesired, hrunning, hlast, hwait⟩, trivial⟩
    · exact ⟨hdisables, hforget, trivial⟩
  · split
    · by_cases hloss : enableLossDebounceCycles ≤
          (if state.ctx.isOperationEnabled = true then 0 else state.fsm.monitorLossCounter + 1)
      · rw [if_pos hloss]
        exact ⟨hdisables, ⟨hdemanded, hdesired, hrunning, hlast, hwait⟩, trivial⟩
      · rw [if_neg hloss]
        exact ⟨hdisables, ⟨hdemanded, hdesired, hrunning, hlast, hwait⟩, trivial⟩
    · exact ⟨hdisables, hforget, trivial⟩
  · exact ⟨hdisables, ⟨hdemanded, hdesired, fun _ => Or.inr (Or.inl rfl), hlast, hwait⟩, trivial⟩
  · exact ⟨hdisables, ⟨hdemanded, hdesired, hrunning,
      fun _ hfour => absurd hfour (show (0 : Nat) ≠ 4 by decide), hwait⟩, trivial⟩
  · exact ⟨hdisables, ⟨hdemanded, hdesired, fun _ => Or.inr (Or.inr rfl), fun _ _ => rfl,
      fun _ => Nat.zero_le _⟩, trivial⟩

theorem resumeStep (hdisabling : state.Disabling) (hsound : state.Sound) :
    state.resumeStep.Disabling := by
  have hcounter := hsound.bounded.faultResetCounter_eq
  have hannotated := hsound.annotated
  obtain ⟨hdisables, ⟨hdemanded, hdesired, hrunning, hlast, hwait⟩, -⟩ := hdisabling
  unfold EnableAccessState.resumeStep
  dsimp only
  split
  · rw [if_neg (by omega)]
    exact ⟨hdisables, ⟨hdemanded, hdesired, hrunning, hlast, hwait⟩, trivial⟩
  · rename_i haccess
    rw [haccess] at hannotated
    exact hannotated.elim
  · rename_i haccess
    rw [haccess] at hannotated
    exact hannotated.elim
  · exact ⟨hdisables, ⟨hdemanded, hdesired, fun _ => Or.inr (Or.inr rfl), fun _ _ => rfl,
      fun _ => Nat.zero_le _⟩, trivial⟩

/-- The fault reset is entered with the demand still set, and once the call has cleared it nothing
but what was already under way is stored. -/
theorem faultStep (hdisabling : state.Disabling) : state.faultStep.Disabling := by
  obtain ⟨hdisables, ⟨hdemanded, hdesired, hrunning, hlast, hwait⟩, hpoint⟩ := hdisabling
  unfold EnableAccessState.faultStep
  dsimp only
  split
  · rename_i haccess
    rw [haccess] at hpoint
    obtain ⟨hactive, hexpired⟩ := hpoint
    split
    · rename_i hdemand
      rw [Bool.and_eq_true] at hdemand
      have hearly : state.call.made < 2 := by
        by_contra hlate
        exact absurd (hdemand.2.symm.trans (hdesired (by omega))) (by simp)
      have hreset : ∀ word phase, Stored state.call.made
          { state.fsm with controlWordState := word, faultResetPhase := phase } := fun _ _ =>
        ⟨hdemanded, hdesired, fun _ => Or.inr (Or.inl hactive), fun hmade => absurd hmade (by omega),
          hwait⟩
      split
      · exact ⟨hdisables, hreset _ 1, hactive⟩
      · split
        · exact ⟨hdisables, hreset _ _, hactive, hexpired⟩
        · split
          · exact ⟨hdisables, hreset _ _, hactive, hexpired⟩
          · exact ⟨hdisables, ⟨hdemanded, hdesired, hrunning, hlast, hwait⟩, trivial⟩
    · exact ⟨hdisables, ⟨hdemanded, hdesired, hrunning, hlast, hwait⟩, hactive⟩
  · rename_i haccess
    rw [haccess] at hpoint
    exact ⟨hdisables, ⟨hdemanded, hdesired, hrunning, hlast, fun _ => Nat.le_refl _⟩, hpoint⟩
  · rename_i haccess
    rw [haccess] at hpoint
    exact ⟨hdisables, ⟨hdemanded, hdesired, fun _ => Or.inr (Or.inl hpoint),
      fun _ hfour => absurd hfour (show (0 : Nat) ≠ 4 by decide), hwait⟩, trivial⟩
  · rename_i haccess
    rw [haccess] at hpoint
    obtain ⟨hactive, hexpired⟩ := hpoint
    rw [if_neg (by omega)]
    split
    · exact ⟨hdisables, ⟨hdemanded, hdesired, hrunning, hlast, hwait⟩, hactive⟩
    · split
      · exact ⟨hdisables, ⟨hdemanded, hdesired, hrunning, hlast, hwait⟩, trivial⟩
      · exact ⟨hdisables, ⟨hdemanded, hdesired, hrunning, hlast, hwait⟩, hactive⟩
  · rename_i haccess
    rw [haccess] at hpoint
    exact hpoint.elim
  · exact ⟨hdisables, ⟨hdemanded, hdesired, hrunning, hlast, fun _ => Nat.le_refl _⟩, trivial⟩
  · exact ⟨hdisables, ⟨hdemanded, hdesired, hrunning, hlast, fun _ => Nat.zero_le _⟩, trivial⟩

theorem sequenceStep (hdisabling : state.Disabling) (hsound : state.Sound)
    (hkeeps : state.access = .completeActive false → 3 ≤ state.call.made →
      state.fsm.controlWordState = controlWordSwitchOn) : state.sequenceStep.Disabling := by
  have hannotated := hsound.annotated
  obtain ⟨hdisables, ⟨hdemanded, hdesired, hrunning, hlast, hwait⟩, hpoint⟩ := hdisabling
  unfold EnableAccessState.sequenceStep
  dsimp only
  split
  · rename_i enable haccess
    rw [haccess] at hpoint
    refine ⟨by split <;> exact hdisables, ?_, ?_⟩
    · split <;> exact ⟨hdemanded, hdesired, hrunning, hlast, hwait⟩
    · split
      · cases enable with
        | false => exact hpoint
        | true => exact hpoint
      · cases enable with
        | false => exact hpoint
        | true => exact hpoint.1
  · rename_i enable haccess
    rw [haccess] at hpoint hannotated
    have hlt : state.fsm.step < 4 := hannotated
    cases enable with
    | false =>
        refine ⟨hdisables, ⟨hdemanded, hdesired, fun _ => Or.inr (Or.inl hpoint),
          fun _ hfour => absurd hfour (Nat.ne_of_lt hlt), hwait⟩, hpoint, fun hthree => ?_⟩
        have hword : sequence false state.fsm.step = sequence false 3 := congrArg _ hthree
        exact hword
    | true =>
        exact ⟨hdisables, ⟨hdemanded, hdesired, fun _ => Or.inr (Or.inl hpoint.1),
          fun _ hfour => absurd hfour (Nat.ne_of_lt hlt), hwait⟩, hpoint⟩
  · rename_i enable haccess
    rw [haccess] at hpoint hannotated
    have hincrement : increment state.fsm.step = state.fsm.step + 1 := increment_of_lt hannotated
    rw [hincrement]
    cases enable with
    | false =>
        obtain ⟨hactive, hthree⟩ := hpoint
        exact ⟨hdisables, ⟨hdemanded, hdesired, hrunning,
          fun _ hfour => hthree (Nat.succ.inj hfour), hwait⟩, hactive⟩
    | true =>
        obtain ⟨hactive, hzero⟩ := hpoint
        refine ⟨hdisables, ⟨hdemanded, hdesired, hrunning, fun hmade hfour => ?_, hwait⟩, hactive⟩
        have hthree : state.fsm.step = 3 := Nat.succ.inj hfour
        exact absurd ((hzero hmade).symm.trans hthree) (by decide)
  · exact ⟨hdisables, ⟨hdemanded, hdesired, hrunning, hlast, fun _ => Nat.le_refl _⟩, trivial⟩
  · rename_i enable haccess
    refine ⟨hdisables, ⟨hdemanded, hdesired, fun hmade => ?_, hlast, hwait⟩, trivial⟩
    cases enable with
    | false => exact Or.inr (Or.inr (hkeeps haccess hmade))
    | true => exact Or.inl rfl
  · exact ⟨hdisables, ⟨hdemanded, hdesired, hrunning,
      fun _ hfour => absurd hfour (show (0 : Nat) ≠ 4 by decide), hwait⟩, trivial⟩
  · exact ⟨hdisables, ⟨hdemanded, hdesired, hrunning, hlast, fun _ => Nat.zero_le _⟩, trivial⟩

theorem accessStep (hdisabling : state.Disabling) (hsound : state.Sound)
    (hkeeps : state.access = .completeActive false → 3 ≤ state.call.made →
      state.fsm.controlWordState = controlWordSwitchOn) : state.accessStep.Disabling := by
  have ⟨hdisables, ⟨hdemanded, hdesired, hrunning, hlast, hwait⟩, hpoint⟩ := hdisabling
  unfold EnableAccessState.accessStep
  dsimp only
  cases haccess : state.access with
  | idle => exact hdisabling
  | debounceDesired | debounceActive | debounceStore => exact hdisabling.debounceStep
  | monitorDesired | monitorActive | monitorStoreActive | monitorStoreStep | monitorStoreWait =>
      exact hdisabling.monitorStep
  | resumeDesired | resumeStoreActive | resumeStoreStep | resumeStoreWait =>
      exact hdisabling.resumeStep hsound
  | phaseDesired =>
      dsimp only
      split <;> exact ⟨hdisables, ⟨hdemanded, hdesired, hrunning, hlast, hwait⟩, trivial⟩
  | compareDesired =>
      dsimp only
      split <;> exact ⟨hdisables, ⟨hdemanded, hdesired, hrunning, hlast, hwait⟩, trivial⟩
  | compareActive =>
      dsimp only
      split <;> exact ⟨hdisables, ⟨hdemanded, hdesired, hrunning, hlast, hwait⟩, trivial⟩
  | storeActive =>
      exact ⟨hdisables, ⟨hdemanded, hdesired, fun _ => Or.inr (Or.inl rfl), hlast, hwait⟩, rfl⟩
  | loadWait =>
      rw [haccess] at hpoint
      dsimp only
      split
      · rename_i hpos
        exact ⟨hdisables, ⟨hdemanded, hdesired, hrunning, hlast, hwait⟩, hpoint, hpos⟩
      · rename_i hexpired
        exact ⟨hdisables, ⟨hdemanded, hdesired, hrunning, hlast, hwait⟩, hpoint,
          Nat.eq_zero_of_not_pos hexpired⟩
  | decrementWait =>
      rw [haccess] at hpoint
      have hdecrement : decrement state.fsm.wait = state.fsm.wait - 1 :=
        decrement_of_pos hpoint.2 hsound.bounded.wait_lt
      dsimp only
      rw [hdecrement]
      exact ⟨hdisables, ⟨hdemanded, hdesired, hrunning, hlast,
        fun hmade => Nat.le_trans (Nat.sub_le _ 1) (hwait hmade)⟩, trivial⟩
  | faultDesired | faultStoreWait | faultStoreStep | faultLoadWait | faultDecrementWait
  | faultRearmWait | faultClearWait => exact hdisabling.faultStep
  | direction =>
      rw [haccess] at hpoint
      refine ⟨hdisables, ⟨hdemanded, hdesired, hrunning, hlast, hwait⟩, ?_⟩
      cases hdirection : state.fsm.desiredEnable with
      | false => exact hpoint
      | true =>
          refine ⟨hpoint, fun hmade => ?_⟩
          have hlate : 4 ≤ state.call.made := hmade
          exact absurd (hdirection.symm.trans (hdesired (by omega))) (by simp)
  | loadStep | indexStep | incrementStep | rearmWait | completeActive | completeStep
  | completeWait => exact hdisabling.sequenceStep hsound hkeeps
  | write =>
      have hrecord : state.fsm.recordControlWord state.ctx = _ :=
        EnableFsm.recordControlWord_of_plain hsound.bounded.plain
      dsimp only
      rw [hrecord]
      exact ⟨hdisables, ⟨hdemanded, hdesired, hrunning, hlast, hwait⟩, trivial⟩

theorem next {config : EnableAccessConfig} (hdisabling : config.state.Disabling)
    (hsound : config.state.Sound) {action : EnableAccessAction}
    (hkeeps : keepsDisable config action = true) : (config.state.next action).Disabling := by
  cases action with
  | call =>
      apply hdisabling.callStep
      rintro ⟨hcall, haccess⟩
      simp [keepsDisable, hcall, haccess] at hkeeps
  | execute ctx => exact hdisabling.execute ctx
  | access =>
      apply hdisabling.accessStep hsound
      intro haccess hmade
      simpa [keepsDisable, haccess, hmade] using hkeeps

theorem retiring (hdisabling : state.Disabling) (hsound : state.Sound)
    (hreturned : state.call = .returned) : state.fsm.Retiring := by
  have hstored := hdisabling.stored
  rw [hreturned] at hstored
  have hdesired := hstored.not_desired (by decide)
  refine ⟨hsound.bounded.plain, hdesired, hsound.bounded.step_le, hstored.wait_le (by decide), ?_,
    hstored.last_eq (by decide)⟩
  rcases hstored.running_or (by decide) with hrequested | hactive | hword
  · exact Or.inl (by simp [EnableFsm.running, hrequested, hdesired])
  · exact Or.inl (EnableFsm.running_of_active hactive)
  · exact Or.inr hword

end Disabling

def disableStart (fsm : EnableFsm) (ctx : TxContext) : EnableAccessConfig :=
  Config.start { fsm := fsm, ctx := ctx }

/-- Where the call has returned and no execution is in progress at the end of the run, the disable
comes into effect within sixty executions. -/
def DisableTakesEffect (fsm : EnableFsm) (ctx : TxContext) (actions : List EnableAccessAction) :
    Prop :=
  (machine.exec (disableStart fsm ctx) actions).state.call = .returned →
    (machine.exec (disableStart fsm ctx) actions).state.access = .idle →
      (machine.exec (disableStart fsm ctx) actions).state.DisablesWithin 60

/-- In every interleaving whose steps undo no store of the call, the disable takes effect. -/
theorem disableTakesEffect_of_keepsDisable {fsm : EnableFsm} (hreached : fsm.Reached)
    (hdesired : fsm.desiredEnable = true) (ctx : TxContext) (actions : List EnableAccessAction)
    (hkeeps : machine.Meets (fun config action => keepsDisable config action = true)
      (disableStart fsm ctx) actions) :
    DisableTakesEffect fsm ctx actions := by
  have hstart : (disableStart fsm ctx).state.Sound ∧ (disableStart fsm ctx).state.Disabling :=
    ⟨⟨hreached.bounded, trivial⟩, rfl, .initial hdesired, trivial⟩
  have hstep : ∀ (config : EnableAccessConfig) (action : EnableAccessAction),
      config.state.Sound ∧ config.state.Disabling → keepsDisable config action = true →
        (machine.advance config action).state.Sound ∧
          (machine.advance config action).state.Disabling :=
    fun config action hconfig hmeets =>
      ⟨hconfig.1.next action, hconfig.2.next hconfig.1 hmeets⟩
  obtain ⟨hsound, hdisabling⟩ := machine.exec_invariant_of_meets hstep hstart hkeeps
  intro hreturned _
  exact disablesWithin_of_retiring (hdisabling.retiring hsound hreturned)

/-! ### The completion that undoes the call -/

/-- The machine is idle as if it were disabled, with a word above Shutdown in place. -/
structure Stuck (fsm : EnableFsm) : Prop where
  plain : fsm.Plain
  not_desired : fsm.desiredEnable = false
  not_running : fsm.running = false
  word_ne : fsm.controlWordState ≠ controlWordSwitchOn

theorem Stuck.stepFsm {fsm : EnableFsm} (hstuck : Stuck fsm) (ctx : TxContext) :
    Stuck (fsm.stepFsm ctx) := by
  obtain ⟨persist, loss, hprepared⟩ :=
    (EnableFsm.prepare_cases ctx hstuck.plain).eq_of_not_desired hstuck.not_desired
  rw [EnableFsm.stepFsm_eq_advance_prepare, hprepared,
    EnableFsm.advance_of_not_running (by exact hstuck.not_running)]
  exact ⟨⟨hstuck.plain.faultResetCounter_eq, hstuck.plain.not_pending⟩, hstuck.not_desired,
    hstuck.not_running, hstuck.word_ne⟩

theorem Stuck.executed {state : EnableAccessState} (hstuck : Stuck state.fsm) {ctx : TxContext}
    (hactivated : ctx.activated = true) :
    Stuck (state.executed ctx).fsm ∧ (state.executed ctx).written ≠ controlWordSwitchOn := by
  have hstepped := hstuck.stepFsm ctx
  have hsent := EnableFsm.sendDataCommon_of_plain ctx hstuck.plain hactivated
  refine ⟨?_, ?_⟩
  · show Stuck (state.fsm.sendDataCommon ctx).1
    rw [hsent]
    exact ⟨⟨hstepped.plain.faultResetCounter_eq, hstepped.plain.not_pending⟩,
      hstepped.not_desired, hstepped.not_running, hstepped.word_ne⟩
  · show (state.fsm.sendDataCommon ctx).2 ≠ controlWordSwitchOn
    rw [hsent]
    exact hstepped.word_ne

def operating : TxContext where
  activated := true
  wcOk := true
  statusWord := 0x0237
  faultResetCw := controlWordFaultReset

theorem Stuck.executedAll {state : EnableAccessState} (hstuck : Stuck state.fsm) (count : Nat) :
    Stuck (state.executedAll (List.replicate count operating)).fsm := by
  induction count with
  | zero => exact hstuck
  | succ count ih =>
      rw [List.replicate_succ', executedAll_concat]
      exact (ih.executed rfl).1

theorem Stuck.not_disablesWithin {state : EnableAccessState} (hstuck : Stuck state.fsm)
    (bound : Nat) : ¬ state.DisablesWithin bound := by
  rintro ⟨count, -, heffect⟩
  have hwritten := (heffect (List.replicate (count + 1) operating) (by simp) (by
    intro ctx hctx
    rw [List.eq_of_mem_replicate hctx]
    decide)).1
  rw [List.replicate_succ', executedAll_concat] at hwritten
  exact ((hstuck.executedAll count).executed rfl).2 hwritten

/-- Every step that breaks the first condition loses the disable: once the execution and the call
have finished, the machine is stuck. -/
theorem not_disablesWithin_of_completion {state : EnableAccessState} (hsound : state.Sound)
    (haccess : state.access = .completeActive false) (hmade : 3 ≤ state.call.made)
    (hdesired : state.fsm.desiredEnable = false)
    (hword : state.fsm.controlWordState ≠ controlWordSwitchOn) (bound : Nat) :
    ¬ (machine.exec (Config.start state) (List.replicate 4 .access ++
      List.replicate (5 - state.call.made) .call)).state.DisablesWithin bound := by
  apply Stuck.not_disablesWithin
  obtain ⟨fsm, enable, call, access, ctx, written⟩ := state
  obtain rfl : access = .completeActive false := haccess
  have hpending : fsm.controlWordWritePending = false := hsound.bounded.not_pending
  have hdesired' : fsm.desiredEnable = false := hdesired
  -- the stores of the call that remain clear a step and a wait that are already zero
  have hrecord : ({ fsm with
      enableRequested := false, active := false, step := 0, wait := 0, faultResetCounter := 0 } :
        EnableFsm).recordControlWord ctx = _ :=
    EnableFsm.recordControlWord_of_plain ⟨rfl, hpending⟩
  have hstuck : Stuck (({ fsm with
      enableRequested := false, active := false, step := 0, wait := 0, faultResetCounter := 0 } :
        EnableFsm).recordControlWord ctx) := by
    rw [hrecord]
    exact ⟨⟨rfl, hpending⟩, hdesired', by simp [EnableFsm.running, hdesired'], hword⟩
  cases call with
  | loadDesired => exact absurd hmade (show ¬ 3 ≤ 0 by decide)
  | storeDesired => exact absurd hmade (show ¬ 3 ≤ 1 by decide)
  | storeActive => exact absurd hmade (show ¬ 3 ≤ 2 by decide)
  | storeStep => exact ⟨hstuck.plain, hstuck.not_desired, hstuck.not_running, hstuck.word_ne⟩
  | storeWait => exact ⟨hstuck.plain, hstuck.not_desired, hstuck.not_running, hstuck.word_ne⟩
  | returned => exact hstuck

/-! ### One lost disable, and one that is not -/

theorem reached_executedAll {state : EnableAccessState} (hreached : state.fsm.Reached)
    (ctxs : List TxContext) : (state.executedAll ctxs).fsm.Reached := by
  induction ctxs using List.reverseRecOn with
  | nil => exact hreached
  | append_singleton ctxs ctx ih =>
      rw [executedAll_concat]
      exact ih.sendDataCommon ctx

/-- An enable sequence all of whose words were written: it completes with the next execution. -/
def completing : EnableFsm :=
  (({ fsm := ({} : EnableFsm).startEnable true, ctx := operating } :
    EnableAccessState).executedAll (List.replicate 44 operating)).fsm

theorem reached_completing : completing.Reached :=
  reached_executedAll (.startEnable true .fresh) _

/-- The execution has found the sequence running when the call clears the demand and sets the active
flag; then it completes the sequence as one of disable. -/
def disableInsideCompletion : List EnableAccessAction :=
  .call :: .execute operating :: List.replicate 8 .access ++
    (.call :: .call :: List.replicate 6 .access) ++ [.call, .call]

theorem not_disableTakesEffect :
    ¬ ∀ fsm ctx actions, EnableFsm.Reached fsm → fsm.desiredEnable = true →
      DisableTakesEffect fsm ctx actions := by
  intro hall
  have heffect := hall completing operating disableInsideCompletion reached_completing
    (by decide +kernel) (by decide +kernel) (by decide +kernel)
  have hstuck : Stuck
      (machine.exec (disableStart completing operating) disableInsideCompletion).state.fsm :=
    ⟨⟨by decide +kernel, by decide +kernel⟩, by decide +kernel, by decide +kernel,
      by decide +kernel⟩
  exact hstuck.not_disablesWithin 60 heffect

/-- The call clears the demand before the execution compares it, and stores the rest after. -/
theorem disableTakesEffect_before_comparison :
    DisableTakesEffect completing operating
      (.execute operating :: .call :: .call :: .access :: .access :: .call :: .call ::
        List.replicate 13 .access ++ [.call]) :=
  disableTakesEffect_of_keepsDisable reached_completing (by decide +kernel) operating _
    (by decide +kernel)

end EnableAccessState

end IghMaster
