import Mathlib.Tactic.Common
import IghMaster.Runtime

/-!
# The latches of the runtime

Safe-output, the fault latch, the dwell and the permission to enable motion are the part of the
runtime that decides what a Job cycle writes. `latches` is that part, and each operation of the
runtime is read off on it: the monitors of a Job cycle either leave it alone or latch a fault.
-/

namespace IghMaster

structure RuntimeLatches where
  jobRunning : Bool
  commFault : Bool
  safeOutputRequired : Bool
  motionReenableAllowed : Bool
  pendingDwellFault : Bool
  healthyDwell : HealthyDwell
  deriving DecidableEq

theorem HealthyDwell.onFault_onFault (dwell : HealthyDwell) :
    dwell.onFault.onFault = dwell.onFault := rfl

namespace RuntimeLatches

def fault (latches : RuntimeLatches) : RuntimeLatches where
  jobRunning := latches.jobRunning
  commFault := true
  safeOutputRequired := true
  motionReenableAllowed := false
  pendingDwellFault := true
  healthyDwell := latches.healthyDwell.onFault

/-- The dwell hears of a fault that was latched before the cycle. -/
def consume (latches : RuntimeLatches) : RuntimeLatches :=
  if latches.pendingDwellFault then
    { latches with pendingDwellFault := false, healthyDwell := latches.healthyDwell.onFault }
  else
    latches

def dwell (healthy : Bool) (latches : RuntimeLatches) : RuntimeLatches :=
  { latches with
    healthyDwell := latches.healthyDwell.observe healthy
    motionReenableAllowed := (latches.healthyDwell.observe healthy).allowEnable }

theorem fault_fault (latches : RuntimeLatches) : latches.fault.fault = latches.fault := rfl

/-- The latches are as they were, or a fault was latched in between. -/
def Monitored (before after : RuntimeLatches) : Prop := after = before ∨ after = before.fault

theorem Monitored.refl (latches : RuntimeLatches) : Monitored latches latches := Or.inl rfl

theorem Monitored.trans {first second third : RuntimeLatches} (hfirst : Monitored first second)
    (hsecond : Monitored second third) : Monitored first third := by
  rcases hfirst with rfl | rfl
  · exact hsecond
  · rcases hsecond with rfl | rfl
    · exact Or.inr rfl
    · exact Or.inr (fault_fault first)

theorem Monitored.jobRunning_eq {before after : RuntimeLatches}
    (hmonitored : Monitored before after) : after.jobRunning = before.jobRunning := by
  rcases hmonitored with rfl | rfl <;> rfl

theorem Monitored.safeOutputRequired {before after : RuntimeLatches}
    (hmonitored : Monitored before after) (hsafe : before.safeOutputRequired = true) :
    after.safeOutputRequired = true := by
  rcases hmonitored with rfl | rfl
  · exact hsafe
  · rfl

end RuntimeLatches

namespace IghMasterRuntime

open RuntimeLatches

def latches (runtime : IghMasterRuntime) : RuntimeLatches where
  jobRunning := runtime.jobRunning
  commFault := runtime.commFault
  safeOutputRequired := runtime.safeOutputRequired
  motionReenableAllowed := runtime.motionReenableAllowed
  pendingDwellFault := runtime.pendingDwellFault
  healthyDwell := runtime.healthyDwell

theorem latches_consumePendingDwellFault (runtime : IghMasterRuntime) :
    runtime.consumePendingDwellFault.latches = runtime.latches.consume := by
  unfold consumePendingDwellFault consume
  by_cases hpending : runtime.pendingDwellFault = true
  · rw [if_pos hpending, if_pos (by exact hpending)]
    rfl
  · rw [if_neg hpending, if_neg (by exact hpending)]

theorem monitored_latchIf (trip : Bool) (runtime : IghMasterRuntime) :
    Monitored runtime.latches (runtime.latchIf trip).latches := by
  unfold latchIf
  split
  · exact Or.inr rfl
  · exact Or.inl rfl

theorem monitored_observeWkc (rxOk : Bool) (runtime : IghMasterRuntime) :
    Monitored runtime.latches (runtime.observeWkc rxOk).latches := by
  unfold observeWkc
  split
  · exact monitored_latchIf _ _
  · exact Monitored.refl _

theorem monitored_observeDeadline (runtime : IghMasterRuntime) :
    Monitored runtime.latches runtime.observeDeadline.latches := by
  unfold observeDeadline
  split
  · exact monitored_latchIf _ _
  · exact Monitored.refl _

theorem monitored_sampleDcMonitor (timing : JobTiming) (runtime : IghMasterRuntime) :
    Monitored runtime.latches (runtime.sampleDcMonitor timing).latches := by
  unfold sampleDcMonitor
  dsimp only
  split
  · exact Monitored.refl _
  · split
    · exact Monitored.refl _
    · split
      · exact Monitored.refl _
      · exact monitored_latchIf _ _

/-- The monitors of a cycle leave the latches alone or latch a fault. -/
theorem monitored_monitorCycle (timing : JobTiming) (rxOk : Bool) (runtime : IghMasterRuntime) :
    Monitored runtime.latches (runtime.monitorCycle timing rxOk).latches := by
  unfold monitorCycle
  have hwkc := monitored_observeWkc rxOk { runtime with lastRxOk := rxOk }
  have htiming : Monitored _ (({ runtime with lastRxOk := rxOk } :
      IghMasterRuntime).observeWkc rxOk |>.observeTiming timing).latches := hwkc
  have hdeadline := htiming.trans (monitored_observeDeadline _)
  exact hdeadline.trans (monitored_sampleDcMonitor timing _)

theorem latches_finishJobCycle (timing : JobTiming) (rxOk : Bool) (runtime : IghMasterRuntime) :
    (runtime.finishJobCycle timing rxOk).latches =
      (runtime.monitorCycle timing rxOk).latches.dwell
        ((runtime.monitorCycle timing rxOk).healthy rxOk) := rfl

theorem safeOutputRequired_finishJobCycle {timing : JobTiming} {rxOk : Bool}
    {runtime : IghMasterRuntime} (hsafe : runtime.safeOutputRequired = true) :
    (runtime.finishJobCycle timing rxOk).safeOutputRequired = true :=
  (monitored_monitorCycle timing rxOk runtime).safeOutputRequired hsafe

theorem jobRunning_finishJobCycle (timing : JobTiming) (rxOk : Bool)
    (runtime : IghMasterRuntime) :
    (runtime.finishJobCycle timing rxOk).jobRunning = runtime.jobRunning :=
  (monitored_monitorCycle timing rxOk runtime).jobRunning_eq

theorem jobRunning_consumePendingDwellFault (runtime : IghMasterRuntime) :
    runtime.consumePendingDwellFault.jobRunning = runtime.jobRunning := by
  unfold consumePendingDwellFault
  split <;> rfl

theorem safeOutputRequired_consumePendingDwellFault (runtime : IghMasterRuntime) :
    runtime.consumePendingDwellFault.safeOutputRequired = runtime.safeOutputRequired := by
  unfold consumePendingDwellFault
  split <;> rfl

/-! ### Starting the Job -/

/-- A start that leaves the Job running found it running, or launches it under the latches of a
fresh dwell. -/
theorem start_cases (input : RuntimeStartInput) (runtime : IghMasterRuntime) :
    (runtime.jobRunning = true ∧ runtime.start input = (runtime, true)) ∨
      (runtime.jobRunning = false ∧ (runtime.start input).2 = true ∧
        (runtime.start input).1 = (runtime.configure input).1.launch) ∨
      (runtime.jobRunning = false ∧ (runtime.start input).2 = false) := by
  unfold start
  by_cases hrunning : runtime.jobRunning = true
  · exact Or.inl ⟨hrunning, by rw [if_pos hrunning]⟩
  · rw [Bool.not_eq_true] at hrunning
    rw [if_neg (by simp [hrunning])]
    dsimp only
    split
    · exact Or.inr (Or.inr ⟨hrunning, rfl⟩)
    · split
      · exact Or.inr (Or.inr ⟨hrunning, rfl⟩)
      · exact Or.inr (Or.inl ⟨hrunning, rfl, rfl⟩)

end IghMasterRuntime

end IghMaster
