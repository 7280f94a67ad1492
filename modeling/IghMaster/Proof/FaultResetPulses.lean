import IghMaster.Lib.Blocks
import IghMaster.Proof.EnableReach

/-!
# The pulses of a fault reset

While the fault bit stays set, the machine goes through the same twenty-three executions again and
again: the fault reset word is written twenty-two times and Shutdown once. The wait of the Shutdown
phase is run down by executions that still write the fault reset word, so a run that reaches its
second pulse has left Shutdown too early.
-/

namespace IghMaster

open Blocks

/-- An execution of an activated axis with this fault reset word sees the fault bit set. -/
structure TxContext.SeesFault (faultResetCw : FaultResetWord) (ctx : TxContext) : Prop where
  activated : ctx.activated = true
  fault : ctx.hasFault = true
  faultResetCw_eq : ctx.faultResetCw = faultResetCw

namespace EnableFsm

/-- The control words that executions in a row write. -/
def writtenWords : EnableFsm → List TxContext → List UInt16
  | _, [] => []
  | fsm, ctx :: ctxs => (fsm.sendDataCommon ctx).2 :: writtenWords (fsm.sendDataCommon ctx).1 ctxs

/-- From the first fault reset word on, only it and Shutdown are written, and each of their blocks
that ends within the run lasts a step delay. -/
structure FullPulses (resetWord : UInt16) (words : List UInt16) : Prop where
  alternate : ∀ word ∈ words.dropWhile (· != resetWord),
    word = resetWord ∨ word = controlWordSwitchOn
  full : EndedAtLeast stepDelayCycles (words.dropWhile (· != resetWord))

/-- The executions before the one in which a supervised machine has seen enough of the fault. -/
def tripDelay : Nat → List TxContext → Nat
  | _, [] => 0
  | persist, ctx :: ctxs =>
      if ctx.wcOk then
        if faultDebounceCycles ≤ persist + 1 then 0 else tripDelay (persist + 1) ctxs + 1
      else tripDelay persist ctxs + 1

/-- The executions before the first pulse. -/
def pulseDelay (fsm : EnableFsm) (ctxs : List TxContext) : Nat :=
  (if fsm.running then 0 else tripDelay fsm.faultPersistCounter ctxs) + fsm.wait

variable {fsm : EnableFsm} {ctx : TxContext} {faultResetCw : FaultResetWord}

/-! ### One execution -/

theorem supervised_of_running (hrunning : fsm.running = true) : fsm.supervised = false := by
  cases hsupervised : fsm.supervised with
  | false => rfl
  | true =>
      simp only [supervised, Bool.and_eq_true, Bool.not_eq_true'] at hsupervised
      simp [running, hsupervised] at hrunning

/-- A running machine that sees the fault only forgets the losses it counted. -/
theorem prepare_of_running (hplain : fsm.Plain) (hrunning : fsm.running = true)
    (hdesired : fsm.desiredEnable = true) (hfault : ctx.hasFault = true) :
    prepare ctx fsm = { fsm with monitorLossCounter := 0 } := by
  have hsupervised := supervised_of_running hrunning
  have hdebounce : debounceFault ctx fsm = fsm := by simp [debounceFault, hsupervised, hfault]
  have hmonitor : monitorEnableLoss ctx fsm = { fsm with monitorLossCounter := 0 } := by
    simp [monitorEnableLoss, hfault]
  have hresume : resumeAfterFaultReset { fsm with monitorLossCounter := 0 } =
      { fsm with monitorLossCounter := 0 } :=
    resumeAfterFaultReset_of_counter_eq_zero hplain.faultResetCounter_eq
  have hclear : clearFaultResetPhase ctx { fsm with monitorLossCounter := 0 } =
      { fsm with monitorLossCounter := 0 } := by
    simp [clearFaultResetPhase, hfault, hdesired]
  unfold prepare
  rw [hdebounce, hmonitor, hresume, hclear]

/-- Where the machine stands in the sequence of twenty-three executions. -/
structure Pulsing (faultResetCw : FaultResetWord) (position : Nat) (fsm : EnableFsm) : Prop where
  plain : fsm.Plain
  desired : fsm.desiredEnable = true
  running : fsm.running = true
  phase_eq : fsm.faultResetPhase = if position = 0 then 0 else if position ≤ 11 then 1 else 2
  wait_eq : fsm.wait =
    if position = 0 then 0 else if position ≤ 11 then 11 - position else 22 - position
  word_eq : position = 0 ∨ fsm.controlWordState = faultResetCw.value

def pulseWord (faultResetCw : FaultResetWord) (position : Nat) : UInt16 :=
  if position = 22 then controlWordSwitchOn else faultResetCw.value

def pulseNext (position : Nat) : Nat := if position = 22 then 0 else position + 1

theorem stepFsm_of_running (hplain : fsm.Plain) (hrunning : fsm.running = true)
    (hdesired : fsm.desiredEnable = true) (hfault : ctx.hasFault = true) :
    fsm.stepFsm ctx =
      if 0 < fsm.wait then
        { fsm with monitorLossCounter := 0, active := true, wait := fsm.wait - 1 }
      else faultResetStep ctx { fsm with monitorLossCounter := 0, active := true } := by
  rw [stepFsm_eq_advance_prepare, prepare_of_running hplain hrunning hdesired hfault]
  have hstill : ({ fsm with monitorLossCounter := 0 } : EnableFsm).running = true := hrunning
  split
  · rename_i hwait
    exact advance_of_wait_pos hstill hwait
  · rename_i hwait
    exact advance_of_fault hstill (Nat.eq_zero_of_not_pos hwait) hdesired hfault

theorem pulseWord_of_ne {position : Nat} (hlast : position ≠ 22) :
    pulseWord faultResetCw position = faultResetCw.value := if_neg hlast

theorem pulseNext_of_ne {position : Nat} (hlast : position ≠ 22) :
    pulseNext position = position + 1 := if_neg hlast

/-- While the wait of either phase runs down, the word stays. -/
theorem Pulsing.waited {position : Nat} (hpulsing : Pulsing faultResetCw position fsm)
    (hposition : position ≤ 22) (hwaits : 0 < fsm.wait) {after : EnableFsm}
    (hafter : after = { fsm with monitorLossCounter := 0, active := true, wait := fsm.wait - 1 }) :
    after.controlWordState = pulseWord faultResetCw position ∧
      Pulsing faultResetCw (pulseNext position) after := by
  subst hafter
  have hphase := hpulsing.phase_eq
  have hwait := hpulsing.wait_eq
  have hplaces : position ≠ 0 ∧ position ≠ 11 ∧ position ≠ 22 := by
    rw [hwait] at hwaits
    split_ifs at hwaits <;> omega
  obtain ⟨hzero, hfirst, hlast⟩ := hplaces
  have hword := hpulsing.word_eq.resolve_left hzero
  rw [if_neg hzero] at hphase hwait
  rw [pulseWord_of_ne hlast, pulseNext_of_ne hlast]
  refine ⟨hword, ⟨hpulsing.plain.faultResetCounter_eq, hpulsing.plain.not_pending⟩,
    hpulsing.desired, running_of_active rfl, ?_, ?_, Or.inr hword⟩
  · rw [if_neg (Nat.succ_ne_zero position)]
    refine hphase.trans ?_
    split_ifs <;> omega
  · rw [if_neg (Nat.succ_ne_zero position)]
    change fsm.wait - 1 = _
    rw [hwait]
    split_ifs <;> omega

/-- The machine goes from each place to the next, and only from the last one by Shutdown. -/
theorem Pulsing.stepFsm {position : Nat} (hpulsing : Pulsing faultResetCw position fsm)
    (hposition : position ≤ 22) (hctx : ctx.SeesFault faultResetCw) :
    (fsm.stepFsm ctx).controlWordState = pulseWord faultResetCw position ∧
      Pulsing faultResetCw (pulseNext position) (fsm.stepFsm ctx) := by
  have hplain := stepFsm_plain ctx hpulsing.plain
  have hdesired : (fsm.stepFsm ctx).desiredEnable = true :=
    (desiredEnable_stepFsm hpulsing.plain).trans hpulsing.desired
  have hphase := hpulsing.phase_eq
  have hwait := hpulsing.wait_eq
  have hfault : isCiA402Fault ctx.statusWord = true := hctx.fault
  have hvalue : ctx.faultResetCw.value = faultResetCw.value := by rw [hctx.faultResetCw_eq]
  have hstepped := stepFsm_of_running hpulsing.plain hpulsing.running hpulsing.desired hctx.fault
  by_cases hwaits : 0 < fsm.wait
  · rw [if_pos hwaits] at hstepped
    exact hpulsing.waited hposition hwaits hstepped
  rw [if_neg hwaits] at hstepped
  have hplaces : position = 0 ∨ position = 11 ∨ position = 22 := by
    rw [hwait] at hwaits
    split_ifs at hwaits <;> omega
  rcases hplaces with rfl | rfl | rfl
  · -- the pulse begins
    rw [faultResetStep, if_pos (by exact hphase)] at hstepped
    rw [hstepped] at hplain hdesired ⊢
    exact ⟨hvalue, hplain, hdesired, running_of_active rfl, rfl, rfl, Or.inr hvalue⟩
  · -- the reset word is written once more, and its phase ends
    have hphase : fsm.faultResetPhase = 1 := hphase
    rw [faultResetStep, if_neg (by simp [hphase]), if_pos (by exact hphase)] at hstepped
    dsimp only at hstepped
    rw [if_neg hwaits] at hstepped
    rw [hstepped] at hplain hdesired ⊢
    exact ⟨hvalue, hplain, hdesired, running_of_active rfl, rfl, rfl, Or.inr hvalue⟩
  · -- Shutdown is written, and the fault is still there
    have hphase : fsm.faultResetPhase = 2 := hphase
    rw [faultResetStep, if_neg (by simp [hphase]), if_neg (by simp [hphase]),
      if_pos (by exact hphase)] at hstepped
    dsimp only at hstepped
    rw [if_neg hwaits, hfault, Bool.not_true, if_neg Bool.false_ne_true] at hstepped
    rw [hstepped] at hplain hdesired ⊢
    exact ⟨rfl, hplain, hdesired, running_of_active rfl, rfl, rfl, Or.inl rfl⟩

theorem Pulsing.sendDataCommon {position : Nat} (hpulsing : Pulsing faultResetCw position fsm)
    (hposition : position ≤ 22) (hctx : ctx.SeesFault faultResetCw) :
    (fsm.sendDataCommon ctx).2 = pulseWord faultResetCw position ∧
      Pulsing faultResetCw (pulseNext position) (fsm.sendDataCommon ctx).1 := by
  obtain ⟨hword, hnext⟩ := hpulsing.stepFsm hposition hctx
  rw [sendDataCommon_of_plain ctx hpulsing.plain hctx.activated]
  exact ⟨hword, ⟨⟨hnext.plain.faultResetCounter_eq, hnext.plain.not_pending⟩, hnext.desired,
    hnext.running, hnext.phase_eq, hnext.wait_eq, hnext.word_eq⟩⟩

/-! ### The words of a run -/

/-- So many words of the pulses, from the given place on. -/
def pulseWords (faultResetCw : FaultResetWord) : Nat → Nat → List UInt16
  | _, 0 => []
  | position, count + 1 =>
      pulseWord faultResetCw position :: pulseWords faultResetCw (pulseNext position) count

theorem pulseNext_le {position : Nat} (hposition : position ≤ 22) : pulseNext position ≤ 22 := by
  unfold pulseNext
  split <;> omega

/-- Pulses after so many repetitions of the word in place. -/
def delayedWords (faultResetCw : FaultResetWord) (word : UInt16) (delay count : Nat) :
    List UInt16 :=
  List.replicate (min delay count) word ++ pulseWords faultResetCw 0 (count - delay)

theorem delayedWords_succ (faultResetCw : FaultResetWord) (word : UInt16) (delay count : Nat) :
    delayedWords faultResetCw word (delay + 1) (count + 1) =
      word :: delayedWords faultResetCw word delay count := by
  rw [delayedWords, delayedWords, Nat.add_min_add_right, Nat.add_sub_add_right,
    List.replicate_succ, List.cons_append]

variable {ctxs : List TxContext}

theorem writtenWords_of_pulsing {position : Nat} (hpulsing : Pulsing faultResetCw position fsm)
    (hposition : position ≤ 22) (hctxs : ∀ ctx ∈ ctxs, ctx.SeesFault faultResetCw) :
    fsm.writtenWords ctxs = pulseWords faultResetCw position ctxs.length := by
  induction ctxs generalizing fsm position with
  | nil => rfl
  | cons ctx ctxs ih =>
      rw [List.forall_mem_cons] at hctxs
      obtain ⟨hword, hnext⟩ := hpulsing.sendDataCommon hposition hctxs.1
      rw [writtenWords, List.length_cons, pulseWords, hword,
        ih hnext (pulseNext_le hposition) hctxs.2]

/-- A machine that runs without a phase waits on its word before it pulses. -/
theorem writtenWords_of_running (hplain : fsm.Plain) (hdesired : fsm.desiredEnable = true)
    (hrunning : fsm.running = true) (hphase : fsm.faultResetPhase = 0)
    (hctxs : ∀ ctx ∈ ctxs, ctx.SeesFault faultResetCw) :
    fsm.writtenWords ctxs =
      delayedWords faultResetCw fsm.controlWordState fsm.wait ctxs.length := by
  induction ctxs generalizing fsm with
  | nil =>
      rw [delayedWords, List.length_nil, Nat.min_zero, Nat.zero_sub]
      rfl
  | cons ctx ctxs ih =>
      rcases Nat.eq_zero_or_pos fsm.wait with hwait | hwait
      · have hpulsing : Pulsing faultResetCw 0 fsm :=
          ⟨hplain, hdesired, hrunning, hphase, hwait, Or.inl rfl⟩
        rw [writtenWords_of_pulsing hpulsing (Nat.zero_le 22) hctxs, hwait, delayedWords,
          Nat.zero_min]
        rfl
      · rw [List.forall_mem_cons] at hctxs
        have hstepped := stepFsm_of_running hplain hrunning hdesired hctxs.1.fault
        rw [if_pos hwait] at hstepped
        have hsent := sendDataCommon_of_plain ctx hplain hctxs.1.activated
        rw [hstepped] at hsent
        have hafter : ({ fsm with
            monitorLossCounter := 0
            active := true
            wait := fsm.wait - 1
            lastWrittenControlWord := fsm.controlWordState } : EnableFsm).Plain :=
          ⟨hplain.faultResetCounter_eq, hplain.not_pending⟩
        have hdelay : fsm.wait = fsm.wait - 1 + 1 := (Nat.sub_add_cancel hwait).symm
        rw [hdelay, List.length_cons, delayedWords_succ, writtenWords, hsent,
          ih hafter hdesired (running_of_active rfl) hphase hctxs.2]

theorem supervised_of_idle (hplain : fsm.Plain) (hdesired : fsm.desiredEnable = true)
    (hidle : fsm.running = false) : fsm.supervised = true := by
  rw [running, Bool.or_eq_false_iff, bne_eq_false_iff_eq] at hidle
  rw [supervised, hplain.faultResetCounter_eq, hdesired, ← hidle.1, hdesired, hidle.2]
  rfl

/-- The execution that has seen enough of the fault is that of a machine that runs already. -/
theorem sendDataCommon_of_tripped (hsupervised : fsm.supervised = true)
    (hphase : fsm.faultResetPhase = 0) (hfault : ctx.hasFault = true) (hwcOk : ctx.wcOk = true)
    (hpersist : faultDebounceCycles ≤ fsm.faultPersistCounter + 1) :
    fsm.sendDataCommon ctx = EnableFsm.sendDataCommon ctx
      { fsm with faultPersistCounter := 0, active := true, enableRequested := false } := by
  have htripped : debounceFault ctx fsm =
      { fsm with faultPersistCounter := 0, active := true, enableRequested := false } := by
    simp [debounceFault, hwcOk, hfault, hsupervised, hphase, hpersist]
  have hstill : debounceFault ctx
      { fsm with faultPersistCounter := 0, active := true, enableRequested := false } =
        { fsm with faultPersistCounter := 0, active := true, enableRequested := false } := by
    simp [debounceFault, hfault, supervised]
  unfold sendDataCommon stepFsm
  rw [htripped, hstill]

/-- Until then the machine only counts. -/
theorem sendDataCommon_of_counting (hplain : fsm.Plain) (hdesired : fsm.desiredEnable = true)
    (hidle : fsm.running = false) (hphase : fsm.faultResetPhase = 0)
    (hctx : ctx.SeesFault faultResetCw)
    (hpersist : ctx.wcOk = true → ¬ faultDebounceCycles ≤ fsm.faultPersistCounter + 1) :
    fsm.sendDataCommon ctx =
      ({ fsm with
          faultPersistCounter :=
            if ctx.wcOk then fsm.faultPersistCounter + 1 else fsm.faultPersistCounter
          monitorLossCounter := 0
          lastWrittenControlWord := fsm.controlWordState }, fsm.controlWordState) := by
  have hsupervised := supervised_of_idle hplain hdesired hidle
  have hdebounce : debounceFault ctx fsm = { fsm with
      faultPersistCounter :=
        if ctx.wcOk then fsm.faultPersistCounter + 1 else fsm.faultPersistCounter } := by
    cases hwcOk : ctx.wcOk with
    | false => simp [debounceFault, hwcOk, hctx.fault]
    | true => simp [debounceFault, hwcOk, hctx.fault, hsupervised, hphase, hpersist hwcOk]
  generalize (if ctx.wcOk then fsm.faultPersistCounter + 1 else fsm.faultPersistCounter) =
    persist at hdebounce ⊢
  have hmonitor : monitorEnableLoss ctx { fsm with faultPersistCounter := persist } =
      { fsm with faultPersistCounter := persist, monitorLossCounter := 0 } := by
    simp [monitorEnableLoss, hctx.fault]
  have hresume : resumeAfterFaultReset
      { fsm with faultPersistCounter := persist, monitorLossCounter := 0 } =
        { fsm with faultPersistCounter := persist, monitorLossCounter := 0 } :=
    resumeAfterFaultReset_of_counter_eq_zero hplain.faultResetCounter_eq
  have hclear : clearFaultResetPhase ctx
      { fsm with faultPersistCounter := persist, monitorLossCounter := 0 } =
        { fsm with faultPersistCounter := persist, monitorLossCounter := 0 } := by
    simp [clearFaultResetPhase, hphase]
  have hstepped : fsm.stepFsm ctx =
      { fsm with faultPersistCounter := persist, monitorLossCounter := 0 } := by
    unfold stepFsm
    rw [hdebounce, hmonitor, hresume, hclear]
    exact advance_of_not_running hidle
  rw [sendDataCommon_of_plain ctx hplain hctx.activated, hstepped]

/-- An idle machine repeats its word until it has seen enough of the fault. -/
theorem writtenWords_of_idle (hplain : fsm.Plain) (hdesired : fsm.desiredEnable = true)
    (hidle : fsm.running = false) (hphase : fsm.faultResetPhase = 0)
    (hctxs : ∀ ctx ∈ ctxs, ctx.SeesFault faultResetCw) :
    fsm.writtenWords ctxs = delayedWords faultResetCw fsm.controlWordState
      (tripDelay fsm.faultPersistCounter ctxs + fsm.wait) ctxs.length := by
  induction ctxs generalizing fsm with
  | nil =>
      rw [delayedWords, List.length_nil, Nat.min_zero, Nat.zero_sub]
      rfl
  | cons ctx ctxs ih =>
      have hfirst := List.forall_mem_cons.mp hctxs
      by_cases htrips : ctx.wcOk = true ∧ faultDebounceCycles ≤ fsm.faultPersistCounter + 1
      · have hsent := sendDataCommon_of_tripped (supervised_of_idle hplain hdesired hidle) hphase
          hfirst.1.fault htrips.1 htrips.2
        have htripped : ({ fsm with
            faultPersistCounter := 0, active := true, enableRequested := false } :
              EnableFsm).Plain := ⟨hplain.faultResetCounter_eq, hplain.not_pending⟩
        have hwords := writtenWords_of_running htripped hdesired (running_of_active rfl) hphase hctxs
        rw [tripDelay, if_pos htrips.1, if_pos htrips.2, Nat.zero_add, writtenWords, hsent]
        exact hwords
      · have hcounting : ctx.wcOk = true → ¬ faultDebounceCycles ≤ fsm.faultPersistCounter + 1 :=
          fun hwcOk hpersist => htrips ⟨hwcOk, hpersist⟩
        have hdelay : tripDelay fsm.faultPersistCounter (ctx :: ctxs) =
            tripDelay (if ctx.wcOk then fsm.faultPersistCounter + 1 else fsm.faultPersistCounter)
              ctxs + 1 := by
          rw [tripDelay]
          split
          · rename_i hwcOk
            rw [if_neg (hcounting hwcOk)]
          · rfl
        rw [hdelay, List.length_cons, Nat.add_right_comm, delayedWords_succ, writtenWords,
          sendDataCommon_of_counting hplain hdesired hidle hphase hfirst.1 hcounting]
        have hafter : ∀ persist, ({ fsm with
            faultPersistCounter := persist
            monitorLossCounter := 0
            lastWrittenControlWord := fsm.controlWordState } : EnableFsm).Plain :=
          fun _ => ⟨hplain.faultResetCounter_eq, hplain.not_pending⟩
        rw [ih (hafter _) hdesired hidle hphase hfirst.2]

theorem writtenWords_eq (hplain : fsm.Plain) (hdesired : fsm.desiredEnable = true)
    (hphase : fsm.faultResetPhase = 0) (hctxs : ∀ ctx ∈ ctxs, ctx.SeesFault faultResetCw) :
    fsm.writtenWords ctxs =
      delayedWords faultResetCw fsm.controlWordState (fsm.pulseDelay ctxs) ctxs.length := by
  unfold pulseDelay
  cases hrunning : fsm.running with
  | true =>
      rw [if_pos rfl, Nat.zero_add]
      exact writtenWords_of_running hplain hdesired hrunning hphase hctxs
  | false =>
      rw [if_neg Bool.false_ne_true]
      exact writtenWords_of_idle hplain hdesired hrunning hphase hctxs

/-! ### The blocks of the pulses -/

theorem pulseWords_of_le {position count : Nat} (hle : position + count ≤ 22) :
    pulseWords faultResetCw position count = List.replicate count faultResetCw.value := by
  induction count generalizing position with
  | zero => rfl
  | succ count ih =>
      have hlast : position ≠ 22 := by omega
      rw [pulseWords, pulseWord, pulseNext, if_neg hlast, if_neg hlast, ih (by omega),
        List.replicate_succ]

theorem pulseWords_twentyThree (faultResetCw : FaultResetWord) :
    pulseWords faultResetCw 0 23 =
      List.replicate 22 faultResetCw.value ++ [controlWordSwitchOn] := rfl

theorem pulseWords_second (faultResetCw : FaultResetWord) (count : Nat) :
    pulseWords faultResetCw 0 (count + 24) = List.replicate 22 faultResetCw.value ++
      controlWordSwitchOn :: faultResetCw.value :: pulseWords faultResetCw 1 count := rfl

/-- From the first fault reset word on, a run is a block of it and then the pulses. -/
theorem exists_dropWhile_delayedWords (faultResetCw : FaultResetWord) (word : UInt16)
    (delay count : Nat) :
    ∃ leading, (delayedWords faultResetCw word delay count).dropWhile (· != faultResetCw.value) =
      List.replicate leading faultResetCw.value ++ pulseWords faultResetCw 0 (count - delay) := by
  have hhead : ∀ rest : List UInt16, (faultResetCw.value :: rest).dropWhile
      (· != faultResetCw.value) = faultResetCw.value :: rest :=
    fun rest => List.dropWhile_cons_of_neg (by simp)
  have hpulses : (pulseWords faultResetCw 0 (count - delay)).dropWhile (· != faultResetCw.value) =
      pulseWords faultResetCw 0 (count - delay) := by
    cases count - delay with
    | zero => rfl
    | succ left => exact hhead _
  unfold delayedWords
  by_cases hword : word = faultResetCw.value
  · refine ⟨min delay count, ?_⟩
    rw [hword]
    cases min delay count with
    | zero => exact hpulses
    | succ leading => exact hhead _
  · refine ⟨0, ?_⟩
    have hskipped : ∀ member ∈ List.replicate (min delay count) word,
        (member != faultResetCw.value) = true := by
      intro member hmember
      rw [List.eq_of_mem_replicate hmember]
      exact bne_iff_ne.mpr hword
    rw [List.dropWhile_append_of_pos hskipped]
    exact hpulses

theorem mem_pulseWords {position count : Nat} {word : UInt16}
    (hmem : word ∈ pulseWords faultResetCw position count) :
    word = faultResetCw.value ∨ word = controlWordSwitchOn := by
  induction count generalizing position with
  | zero => exact absurd hmem List.not_mem_nil
  | succ count ih =>
      rw [pulseWords, List.mem_cons] at hmem
      rcases hmem with rfl | hmem
      · unfold pulseWord
        split
        · exact Or.inr rfl
        · exact Or.inl rfl
      · exact ih hmem

theorem endedAtLeast_pulses_iff (faultResetCw : FaultResetWord) (leading count : Nat) :
    EndedAtLeast stepDelayCycles
        (List.replicate leading faultResetCw.value ++ pulseWords faultResetCw 0 count) ↔
      count ≤ 23 := by
  have hother : controlWordSwitchOn ≠ faultResetCw.value := by
    rcases faultResetCw.value_eq with hvalue | hvalue <;> rw [hvalue] <;> decide
  constructor
  · intro hended
    by_contra hmany
    obtain ⟨rest, rfl⟩ := Nat.exists_eq_add_of_le' (Nat.lt_of_not_le hmany)
    rw [pulseWords_second, ← List.append_assoc, List.replicate_append_replicate] at hended
    exact not_endedAtLeast (by decide) hother _ hended
  · intro hfew
    rcases Nat.lt_or_ge 22 count with hwhole | hpart
    · obtain rfl : count = 23 := by omega
      rw [pulseWords_twentyThree, ← List.append_assoc, List.replicate_append_replicate]
      refine endedAtLeast_replicate_append ?_ _
      unfold stepDelayCycles
      omega
    · rw [pulseWords_of_le (by omega), List.replicate_append_replicate]
      exact endedAtLeast_replicate _ _ _

/-- The pulses of a run are full just if it ends before its second pulse. -/
theorem fullPulses_iff (hreached : fsm.Reached) (hphase : fsm.faultResetPhase = 0)
    (hdesired : fsm.desiredEnable = true) (faultResetCw : FaultResetWord)
    (hctxs : ∀ ctx ∈ ctxs, ctx.SeesFault faultResetCw) :
    FullPulses faultResetCw.value (fsm.writtenWords ctxs) ↔
      ctxs.length ≤ fsm.pulseDelay ctxs + 23 := by
  obtain ⟨leading, hwords⟩ := exists_dropWhile_delayedWords faultResetCw fsm.controlWordState
    (fsm.pulseDelay ctxs) ctxs.length
  rw [← writtenWords_eq hreached.bounded.plain hdesired hphase hctxs] at hwords
  have hiff := endedAtLeast_pulses_iff faultResetCw leading
    (ctxs.length - fsm.pulseDelay ctxs)
  rw [← hwords] at hiff
  constructor
  · intro hfull
    have hfew := hiff.mp hfull.full
    omega
  · intro hfew
    refine ⟨?_, hiff.mpr (by omega)⟩
    intro word hmem
    rw [hwords, List.mem_append] at hmem
    rcases hmem with hmem | hmem
    · exact Or.inl (List.eq_of_mem_replicate hmem)
    · exact mem_pulseWords hmem

/-- An activated axis that sees a fault. -/
def faultySeen : TxContext where
  activated := true
  wcOk := true
  statusWord := 0x0008
  faultResetCw := controlWordFaultReset

theorem seesFault_faultySeen (count : Nat) :
    ∀ ctx ∈ List.replicate count faultySeen, ctx.SeesFault controlWordFaultReset := by
  intro ctx hmem
  rw [List.eq_of_mem_replicate hmem]
  exact ⟨rfl, by decide, rfl⟩

/-- A single pulse of an axis that is to be enabled. -/
theorem fullPulses_single :
    FullPulses controlWordFaultReset.value
      ((({} : EnableFsm).startEnable true).writtenWords (List.replicate 23 faultySeen)) :=
  (fullPulses_iff (.startEnable true .fresh) rfl rfl controlWordFaultReset
    (seesFault_faultySeen 23)).mpr (by decide)

/-- Before the second pulse Shutdown is written once. -/
theorem not_fullPulses :
    ¬ ∀ (fsm : EnableFsm) (faultResetCw : FaultResetWord) (ctxs : List TxContext), fsm.Reached →
      fsm.faultResetPhase = 0 → fsm.desiredEnable = true →
        (∀ ctx ∈ ctxs, ctx.SeesFault faultResetCw) →
          FullPulses faultResetCw.value (fsm.writtenWords ctxs) := by
  intro hall
  have hfull := hall _ controlWordFaultReset (List.replicate 24 faultySeen)
    (.startEnable true .fresh) rfl rfl (seesFault_faultySeen 24)
  have hone := hfull.full (List.replicate 22 0x86) 1 0x06 0x86 [] (by decide) Nat.one_pos
    (by decide) (by decide)
  exact absurd hone (by decide)

end EnableFsm

end IghMaster
