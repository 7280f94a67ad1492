import Mathlib.Data.BitVec
import IghMaster.AnomalyTracker
import IghMaster.Lib.Transition
import IghMaster.Lib.Window

/-!
# Trackers over their whole history

A tracker keeps counters and a ring of bits; they say of the observations since its last reset what the
number of anomalies, the trailing run and the window say. A dwell grants motion on the word of a safety
reset once enough healthy cycles came in a row after it.
-/

namespace IghMaster

open Transition

namespace AnomalyTracker

/-- The tracker holds what the observations since its last reset come to. -/
structure Tracks (tracker : AnomalyTracker) (observed : List Bool) : Prop where
  consecutive_eq : tracker.consecutive = min (2 ^ 32 - 1) (Window.trailing observed)
  windowCount_eq : tracker.windowCount = Window.recent tracker.policy.windowSize observed
  ring : Window.Ring tracker.policy.windowSize (fun slot => tracker.windowBits.getLsbD slot)
    tracker.cursor observed

theorem tracks_empty (policy : SanitizedPolicy) :
    ({ policy := policy } : AnomalyTracker).Tracks [] where
  consecutive_eq := rfl
  windowCount_eq := (Window.recent_nil _).symm
  ring := Window.ring_nil fun _ _ => BitVec.getLsbD_zero

theorem saturatingSucc_min (limit count : Nat) :
    saturatingSucc limit (min limit count) = min limit (count + 1) := by
  unfold saturatingSucc
  split <;> omega

/-- The bit under the cursor is set just if an anomaly leaves the window. -/
theorem windowBit_ne_zero (bits : BitVec 64) {cursor : Nat} (hcursor : cursor < 64) :
    ((bits &&& BitVec.twoPow 64 cursor) != 0) = bits.getLsbD cursor := by
  rw [BitVec.and_twoPow]
  cases hbit : bits.getLsbD cursor with
  | false => rfl
  | true =>
      rw [if_pos rfl, bne_iff_ne]
      intro hzero
      have hset := congrArg (fun word : BitVec 64 => word.getLsbD cursor) hzero
      simp [hcursor] at hset

variable {tracker : AnomalyTracker} {observed : List Bool}

theorem policy_observe (tracker : AnomalyTracker) (anomaly : Bool) :
    (tracker.observe anomaly).1.policy = tracker.policy := by
  unfold observe
  cases anomaly <;> rfl

theorem Tracks.recordWindow (htracks : tracker.Tracks observed) (anomaly : Bool)
    {counted : AnomalyTracker} (hpolicy : counted.policy = tracker.policy)
    (hbits : counted.windowBits = tracker.windowBits)
    (hcount : counted.windowCount = tracker.windowCount)
    (hcursor : counted.cursor = tracker.cursor)
    (hconsecutive : counted.consecutive = min (2 ^ 32 - 1) (Window.trailing (anomaly :: observed))) :
    (counted.recordWindow anomaly).Tracks (anomaly :: observed) := by
  have hsize := tracker.policy.one_le_windowSize
  have hlt : tracker.cursor < 64 :=
    (htracks.ring.cursor_lt hsize).trans_le tracker.policy.windowSize_le
  have hleaving : tracker.windowBits.getLsbD tracker.cursor =
      Window.leaving tracker.policy.windowSize observed := htracks.ring.slot_cursor hsize
  have hle := Window.leaving_le_recent hsize observed
  refine ⟨hconsecutive, ?_, ?_⟩
  · have hkept : (if ((tracker.windowBits &&& BitVec.twoPow 64 tracker.cursor) != 0 &&
          decide (0 < tracker.windowCount)) = true then tracker.windowCount - 1
        else tracker.windowCount) =
        Window.recent tracker.policy.windowSize observed -
          if Window.leaving tracker.policy.windowSize observed then 1 else 0 := by
      rw [windowBit_ne_zero tracker.windowBits hlt, hleaving, htracks.windowCount_eq]
      cases hout : Window.leaving tracker.policy.windowSize observed with
      | false => rfl
      | true =>
          rw [hout, if_pos rfl] at hle
          rw [Bool.true_and, if_pos (by simpa [Nat.one_le_iff_ne_zero, Nat.pos_iff_ne_zero] using hle),
            if_pos rfl]
    unfold AnomalyTracker.recordWindow
    rw [hpolicy, Window.recent_cons hsize, ← hkept, hbits, hcount, hcursor]
    cases anomaly <;> rfl
  · unfold AnomalyTracker.recordWindow
    rw [hpolicy, hbits, hcursor]
    refine htracks.ring.push hsize anomaly ?_ ?_
    · cases anomaly with
      | true => simp [hlt]
      | false => simp [hlt]
    · intro slot hslot hother
      have hslot64 : slot < 64 := hslot.trans_le tracker.policy.windowSize_le
      cases anomaly with
      | true => simp [BitVec.getLsbD_twoPow, Ne.symm hother]
      | false => simp [hslot64, hother]

theorem Tracks.observe (htracks : tracker.Tracks observed) (anomaly : Bool) :
    (tracker.observe anomaly).1.Tracks (anomaly :: observed) := by
  unfold AnomalyTracker.observe
  cases anomaly with
  | true =>
      refine htracks.recordWindow true rfl rfl rfl rfl ?_
      rw [Window.trailing_cons_true, ← saturatingSucc_min, ← htracks.consecutive_eq]
      rfl
  | false => exact htracks.recordWindow false rfl rfl rfl rfl rfl

/-! ### The whole history -/

inductive AnomalyAction where
  | observe (anomaly : Bool)
  | reset
  deriving DecidableEq

def next (tracker : AnomalyTracker) : AnomalyAction → AnomalyTracker
  | .observe anomaly => (tracker.observe anomaly).1
  | .reset => tracker.reset

def machine : Machine AnomalyTracker AnomalyAction where
  next := next

/-- The observations since the last reset, or since construction, newest first. -/
def observedSince : List (Visit AnomalyTracker AnomalyAction) → List Bool
  | [] => []
  | visit :: earlier =>
      match visit.action with
      | .observe anomaly => anomaly :: observedSince earlier
      | .reset => []

end AnomalyTracker

namespace AnomalyPolicy

/-- The number of observations in the window. -/
def window (policy : AnomalyPolicy) : Nat := min (max policy.windowSize.toNat 1) 64

/-- What a sliding window says of the observations, newest first. -/
def slidingWindow (policy : AnomalyPolicy) (observed : List Bool) : AnomalyStats where
  total := min (2 ^ 64 - 1) (observed.count true)
  consecutive := min (2 ^ 32 - 1) (Window.trailing observed)
  windowCount := Window.recent policy.window observed
  stopRequired :=
    max 1 policy.consecutiveStop.toNat ≤ min (2 ^ 32 - 1) (Window.trailing observed) ||
      min (max policy.windowStop.toNat 1) policy.window ≤ Window.recent policy.window observed

end AnomalyPolicy

namespace AnomalyTracker

/-- Besides the window, the total and the unused bits of the ring. -/
structure Slides (policy : AnomalyPolicy) (tracker : AnomalyTracker) (observed : List Bool) : Prop where
  policy_eq : tracker.policy = policy.sanitize
  tracks : tracker.Tracks observed
  total_eq : tracker.total = min (2 ^ 64 - 1) (observed.count true)
  unused : ∀ slot, policy.window ≤ slot → tracker.windowBits.getLsbD slot = false

theorem slides_empty (policy : AnomalyPolicy) :
    Slides policy { policy := policy.sanitize } [] where
  policy_eq := rfl
  tracks := tracks_empty policy.sanitize
  total_eq := rfl
  unused _ _ := BitVec.getLsbD_zero

theorem total_observe (tracker : AnomalyTracker) (anomaly : Bool) :
    (tracker.observe anomaly).1.total =
      if anomaly then saturatingSucc (2 ^ 64 - 1) tracker.total else tracker.total := by
  unfold observe
  cases anomaly <;> rfl

/-- Only the bit under the cursor is written. -/
theorem windowBit_observe (tracker : AnomalyTracker) (anomaly : Bool) {slot : Nat}
    (hslot : slot ≠ tracker.cursor) :
    (tracker.observe anomaly).1.windowBits.getLsbD slot = tracker.windowBits.getLsbD slot := by
  cases anomaly with
  | true =>
      change (tracker.windowBits ||| BitVec.twoPow 64 tracker.cursor).getLsbD slot = _
      rw [BitVec.getLsbD_or, BitVec.getLsbD_twoPow, decide_eq_false hslot.symm, Bool.and_false,
        Bool.or_false]
  | false =>
      change (tracker.windowBits &&& ~~~BitVec.twoPow 64 tracker.cursor).getLsbD slot = _
      rw [BitVec.getLsbD_and, BitVec.getLsbD_not, BitVec.getLsbD_twoPow, decide_eq_false hslot.symm,
        Bool.and_false, Bool.not_false, Bool.and_true]
      by_cases hin : slot < 64
      · rw [decide_eq_true hin, Bool.and_true]
      · rw [BitVec.getLsbD_of_ge tracker.windowBits slot (by omega), Bool.false_and]

variable {policy : AnomalyPolicy}

theorem Slides.cursor_lt (hslides : Slides policy tracker observed) :
    tracker.cursor < policy.window := by
  have hlt := hslides.tracks.ring.cursor_lt tracker.policy.one_le_windowSize
  rw [hslides.policy_eq] at hlt
  exact hlt

theorem Slides.observe (hslides : Slides policy tracker observed) (anomaly : Bool) :
    Slides policy (tracker.observe anomaly).1 (anomaly :: observed) where
  policy_eq := (policy_observe tracker anomaly).trans hslides.policy_eq
  tracks := hslides.tracks.observe anomaly
  total_eq := by
    rw [total_observe, hslides.total_eq, List.count_cons]
    cases anomaly with
    | true => exact saturatingSucc_min (2 ^ 64 - 1) (observed.count true)
    | false => rfl
  unused slot hslot := by
    have hother : slot ≠ tracker.cursor := (hslides.cursor_lt.trans_le hslot).ne'
    rw [windowBit_observe tracker anomaly hother]
    exact hslides.unused slot hslot

theorem Slides.reset (hslides : Slides policy tracker observed) : Slides policy tracker.reset [] := by
  unfold AnomalyTracker.reset
  rw [hslides.policy_eq]
  exact slides_empty policy

theorem Slides.stats (hslides : Slides policy tracker observed) :
    tracker.stats = policy.slidingWindow observed := by
  unfold AnomalyTracker.stats AnomalyPolicy.slidingWindow
  rw [hslides.total_eq, hslides.tracks.consecutive_eq, hslides.tracks.windowCount_eq,
    hslides.policy_eq]
  rfl

theorem slides_exec (policy : AnomalyPolicy) (actions : List AnomalyAction) :
    Slides policy (machine.exec (.start (new policy)) actions).state
      (observedSince (machine.exec (.start (new policy)) actions).history) := by
  have hstep : ∀ (config : Config AnomalyTracker AnomalyAction) (action : AnomalyAction),
      Slides policy config.state (observedSince config.history) →
        Slides policy (machine.advance config action).state
          (observedSince (machine.advance config action).history) := by
    intro config action hslides
    cases action with
    | observe anomaly => exact hslides.observe anomaly
    | reset => exact hslides.reset
  exact machine.exec_invariant hstep actions (slides_empty policy)

/-- Whatever was observed before, an observation is answered as a sliding window answers it, and the
ring is read and written within the window only. -/
theorem observe_eq_slidingWindow (policy : AnomalyPolicy) (actions : List AnomalyAction)
    (anomaly : Bool) :
    let config := machine.exec (.start (new policy)) actions
    (config.state.observe anomaly).2 =
        policy.slidingWindow (anomaly :: observedSince config.history) ∧
      config.state.cursor < policy.window ∧
        ∀ slot, policy.window ≤ slot → config.state.windowBits.getLsbD slot = false := by
  have hslides := slides_exec policy actions
  exact ⟨(hslides.observe anomaly).stats, hslides.cursor_lt, hslides.unused⟩

end AnomalyTracker

/-! ### The dwell -/

inductive DwellAction where
  | onFault
  | requestReset
  | observe (healthy : Bool)
  | allowInitialEnable
  | reset (requiredCycles : UInt32)
  deriving DecidableEq

namespace HealthyDwell

def next (dwell : HealthyDwell) : DwellAction → HealthyDwell
  | .onFault => dwell.onFault
  | .requestReset => dwell.requestReset
  | .observe healthy => dwell.observe healthy
  | .allowInitialEnable => dwell.allowInitialEnable
  | .reset requiredCycles => dwell.reset requiredCycles

def machine : Machine HealthyDwell DwellAction where
  next := next

/-- The newest action that is no observation; actions are listed newest first. -/
def lastOrder : List DwellAction → Option DwellAction
  | [] => none
  | .observe _ :: earlier => lastOrder earlier
  | order :: _ => some order

/-- The observations since that action, newest first. -/
def observedSince : List DwellAction → List Bool
  | .observe healthy :: earlier => healthy :: observedSince earlier
  | _ => []

/-- What the latest reset set, or else the constructor. -/
def requiredBy (constructed : UInt32) : List DwellAction → Nat
  | [] => max 1 constructed.toNat
  | .reset requiredCycles :: _ => max 1 requiredCycles.toNat
  | _ :: earlier => requiredBy constructed earlier

/-- What the actions so far say about motion. -/
def Permits (constructed : UInt32) (newest : List DwellAction) : Prop :=
  match lastOrder newest with
  | none => True
  | some .allowInitialEnable => True
  | some (.reset _) => True
  | some .requestReset =>
      Window.HasBlock (requiredBy constructed newest) (observedSince newest)
  | some .onFault => False
  | some (.observe _) => False

variable {constructed : UInt32} {dwell : HealthyDwell} {newest : List DwellAction}

theorem requiredBy_bounds (constructed : UInt32) (newest : List DwellAction) :
    1 ≤ requiredBy constructed newest ∧ requiredBy constructed newest ≤ 2 ^ 32 - 1 := by
  induction newest with
  | nil =>
      have hword := constructed.toNat_lt
      unfold requiredBy
      omega
  | cons action earlier ih =>
      cases action with
      | reset requiredCycles =>
          have hword := requiredCycles.toNat_lt
          unfold requiredBy
          omega
      | onFault => exact ih
      | requestReset => exact ih
      | observe healthy => exact ih
      | allowInitialEnable => exact ih

theorem permits_of_requestReset (horder : lastOrder newest = some .requestReset) :
    Permits constructed newest ↔
      Window.HasBlock (requiredBy constructed newest) (observedSince newest) := by
  unfold Permits
  rw [horder]

/-- Observations matter only after a safety reset. -/
theorem permits_observe_of_ne (horder : lastOrder newest ≠ some .requestReset) (healthy : Bool) :
    Permits constructed (.observe healthy :: newest) ↔ Permits constructed newest := by
  have hsame : lastOrder (.observe healthy :: newest) = lastOrder newest := rfl
  unfold Permits
  rw [hsame]
  cases hlast : lastOrder newest with
  | none => exact Iff.rfl
  | some order =>
      cases order with
      | requestReset => exact absurd hlast horder
      | onFault => exact Iff.rfl
      | observe healthy => exact Iff.rfl
      | allowInitialEnable => exact Iff.rfl
      | reset requiredCycles => exact Iff.rfl

/-- The dwell holds what the actions so far come to. -/
structure Follows (constructed : UInt32) (dwell : HealthyDwell) (newest : List DwellAction) : Prop where
  required_eq : dwell.required = requiredBy constructed newest
  allowEnable_iff : dwell.allowEnable = true ↔ Permits constructed newest
  counting : dwell.armed = true → lastOrder newest = some .requestReset ∧
    dwell.allowEnable = false ∧ dwell.consecutiveOk = Window.trailing (observedSince newest)
  fulfilled : dwell.armed = false → lastOrder newest = some .requestReset →
    dwell.allowEnable = true

theorem follows_new (constructed : UInt32) : Follows constructed (new constructed) [] where
  required_eq := rfl
  allowEnable_iff := iff_of_true rfl trivial
  counting harmed := absurd harmed Bool.false_ne_true
  fulfilled _ horder := absurd horder (by simp [lastOrder])

theorem Follows.onFault (hfollows : Follows constructed dwell newest) :
    Follows constructed dwell.onFault (.onFault :: newest) where
  required_eq := hfollows.required_eq
  allowEnable_iff := iff_of_false Bool.false_ne_true id
  counting harmed := absurd harmed Bool.false_ne_true
  fulfilled _ horder := absurd horder (by simp [lastOrder])

theorem Follows.requestReset (hfollows : Follows constructed dwell newest) :
    Follows constructed dwell.requestReset (.requestReset :: newest) where
  required_eq := hfollows.required_eq
  allowEnable_iff := by
    rw [permits_of_requestReset rfl]
    exact iff_of_false Bool.false_ne_true
      (Window.not_hasBlock_nil (requiredBy_bounds constructed (.requestReset :: newest)).1)
  counting _ := ⟨rfl, rfl, rfl⟩
  fulfilled harmed := absurd harmed.symm Bool.false_ne_true

theorem Follows.allowInitialEnable (hfollows : Follows constructed dwell newest) :
    Follows constructed dwell.allowInitialEnable (.allowInitialEnable :: newest) where
  required_eq := hfollows.required_eq
  allowEnable_iff := iff_of_true rfl trivial
  counting harmed := absurd harmed Bool.false_ne_true
  fulfilled _ horder := absurd horder (by simp [lastOrder])

theorem follows_reset (dwell : HealthyDwell) (newest : List DwellAction) (requiredCycles : UInt32) :
    Follows constructed (dwell.reset requiredCycles) (.reset requiredCycles :: newest) where
  required_eq := rfl
  allowEnable_iff := iff_of_true rfl trivial
  counting harmed := absurd harmed Bool.false_ne_true
  fulfilled _ horder := absurd horder (by simp [lastOrder])

/-- A dwell that is not armed has nothing more to learn from its observations. -/
theorem Follows.observe_of_not_armed (hfollows : Follows constructed dwell newest)
    (harmed : dwell.armed = false) (healthy : Bool) :
    Follows constructed dwell (.observe healthy :: newest) where
  required_eq := hfollows.required_eq
  allowEnable_iff := by
    by_cases horder : lastOrder newest = some .requestReset
    · have hallow := hfollows.fulfilled harmed horder
      have hblock := hfollows.allowEnable_iff.mp hallow
      rw [permits_of_requestReset horder] at hblock
      have hsame : lastOrder (.observe healthy :: newest) = some .requestReset := horder
      have hlater : Permits constructed (.observe healthy :: newest) := by
        rw [permits_of_requestReset hsame]
        exact (Window.hasBlock_cons _ _ _).mpr (Or.inr hblock)
      exact iff_of_true hallow hlater
    · rw [permits_observe_of_ne horder healthy]
      exact hfollows.allowEnable_iff
  counting harmed' := by
    rw [harmed] at harmed'
    exact absurd harmed' Bool.false_ne_true
  fulfilled _ horder := hfollows.fulfilled harmed horder

/-- While the dwell counts, there was no block yet: only the newest observations can complete one. -/
theorem Follows.permits_observe (hfollows : Follows constructed dwell newest)
    (harmed : dwell.armed = true) (healthy : Bool) :
    Permits constructed (.observe healthy :: newest) ↔
      requiredBy constructed newest ≤ Window.trailing (healthy :: observedSince newest) := by
  obtain ⟨horder, hallow, -⟩ := hfollows.counting harmed
  have hnone : ¬ Window.HasBlock (requiredBy constructed newest) (observedSince newest) := by
    rw [← permits_of_requestReset horder, ← hfollows.allowEnable_iff, hallow]
    exact Bool.false_ne_true
  have hsame : lastOrder (.observe healthy :: newest) = some .requestReset := horder
  rw [permits_of_requestReset hsame]
  exact (Window.hasBlock_cons _ _ _).trans (or_iff_left hnone)

theorem Follows.observe_healthy (hfollows : Follows constructed dwell newest)
    (harmed : dwell.armed = true) :
    Follows constructed (dwell.observe true) (.observe true :: newest) := by
  obtain ⟨horder, hallow, hcount⟩ := hfollows.counting harmed
  have hpermits := hfollows.permits_observe harmed true
  have hbounds := requiredBy_bounds constructed newest
  have hshort : Window.trailing (observedSince newest) < requiredBy constructed newest := by
    by_contra hlong
    have hblock := Window.hasBlock_of_le_trailing (Nat.le_of_not_lt hlong)
    rw [← permits_of_requestReset horder, ← hfollows.allowEnable_iff, hallow] at hblock
    exact Bool.false_ne_true hblock
  have hsucc : AnomalyTracker.saturatingSucc (2 ^ 32 - 1) dwell.consecutiveOk =
      Window.trailing (true :: observedSince newest) := by
    rw [hcount, Window.trailing_cons_true, AnomalyTracker.saturatingSucc, if_neg (by omega)]
  unfold HealthyDwell.observe
  rw [if_pos harmed, if_pos rfl]
  dsimp only
  rw [hsucc, hfollows.required_eq]
  split
  · rename_i hfull
    exact ⟨rfl, iff_of_true rfl (hpermits.mpr hfull),
      fun h => absurd h Bool.false_ne_true, fun _ _ => rfl⟩
  · rename_i hpart
    refine ⟨rfl, ?_, fun _ => ⟨horder, hallow, rfl⟩, fun h => ?_⟩
    · dsimp only
      rw [hallow]
      exact iff_of_false Bool.false_ne_true fun h => hpart (hpermits.mp h)
    · dsimp only at h
      rw [harmed] at h
      exact absurd h.symm Bool.false_ne_true

theorem Follows.observe_unhealthy (hfollows : Follows constructed dwell newest)
    (harmed : dwell.armed = true) :
    Follows constructed (dwell.observe false) (.observe false :: newest) := by
  obtain ⟨horder, -, -⟩ := hfollows.counting harmed
  have hpermits := hfollows.permits_observe harmed false
  have hbounds := requiredBy_bounds constructed newest
  rw [Window.trailing_cons_false] at hpermits
  unfold HealthyDwell.observe
  rw [if_pos harmed, if_neg Bool.false_ne_true]
  refine ⟨hfollows.required_eq, ?_, fun _ => ⟨horder, rfl, rfl⟩, fun h => ?_⟩
  · rw [hpermits]
    exact iff_of_false Bool.false_ne_true (by omega)
  · dsimp only at h
    rw [harmed] at h
    exact absurd h.symm Bool.false_ne_true

theorem Follows.observe (hfollows : Follows constructed dwell newest) (healthy : Bool) :
    Follows constructed (dwell.observe healthy) (.observe healthy :: newest) := by
  cases harmed : dwell.armed with
  | false =>
      have hsame : dwell.observe healthy = dwell := by
        rw [HealthyDwell.observe, harmed, if_neg Bool.false_ne_true]
      rw [hsame]
      exact hfollows.observe_of_not_armed harmed healthy
  | true =>
      cases healthy with
      | true => exact hfollows.observe_healthy harmed
      | false => exact hfollows.observe_unhealthy harmed

theorem Follows.next (hfollows : Follows constructed dwell newest) (action : DwellAction) :
    Follows constructed (dwell.next action) (action :: newest) := by
  cases action with
  | onFault => exact hfollows.onFault
  | requestReset => exact hfollows.requestReset
  | observe healthy => exact hfollows.observe healthy
  | allowInitialEnable => exact hfollows.allowInitialEnable
  | reset requiredCycles => exact follows_reset dwell newest requiredCycles

theorem follows_run (constructed : UInt32) (actions : List DwellAction) :
    Follows constructed (machine.run (new constructed) actions) actions.reverse := by
  induction actions using List.reverseRecOn with
  | nil => exact follows_new constructed
  | append_singleton actions action ih =>
      rw [List.reverse_append, List.reverse_singleton, List.singleton_append]
      have hlast : machine.run (new constructed) (actions ++ [action]) =
          (machine.run (new constructed) actions).next action := List.foldl_append
      rw [hlast]
      exact ih.next action

/-- The dwell allows motion just if the actions that were taken, the newest first, permit it. -/
theorem allowEnable_iff_permits (constructed : UInt32) (actions : List DwellAction) :
    (machine.run (new constructed) actions).allowEnable = true ↔
      Permits constructed actions.reverse :=
  (follows_run constructed actions).allowEnable_iff

end HealthyDwell

end IghMaster
