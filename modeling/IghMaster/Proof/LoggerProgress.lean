import IghMaster.Lib.Progress
import IghMaster.Proof.LoggerFlows

/-!
# The real-time thread never waits

Once it has tried the mutex, the real-time thread returns from its call after a number of its own accesses
that is known there, whatever the other threads do: while it holds the mutex nobody else adds a command.
-/

namespace IghMaster

open Transition Mutex

/-- The accesses of a push that are still to come. -/
def RingPhase.accessesLeft {Field : Type} {Value : Field → Type} (fields : List Field) :
    RingPhase Field Value → Nat
  | idle => 0
  | checking _ _ => fields.length + 2
  | copying _ _ rest => rest.length + 1

theorem RingState.accessesLeft_produce {Field : Type} {Value : Field → Type} [DecidableEq Field]
    {capacity : Nat} {fields : List Field} {state : RingState Field Value}
    (hbusy : state.producer ≠ .idle) :
    (state.produce capacity fields).producer.accessesLeft fields <
      state.producer.accessesLeft fields := by
  unfold produce
  cases hphase : state.producer with
  | idle => exact absurd hphase hbusy
  | checking event head =>
      dsimp only
      split_ifs
      · exact Nat.succ_pos _
      · exact Nat.lt_succ_self _
  | copying event head rest =>
      cases rest with
      | nil => exact Nat.succ_pos _
      | cons field rest => exact Nat.lt_succ_self _

/-- The action is an access of the real-time thread. -/
def LoggerAction.isRealTime : LoggerAction → Bool
  | realTime _ => true
  | _ => false

namespace LoggerState

/-- A push loads both indexes, copies the fields and stores the head. -/
def pushAccesses : Nat := RuntimeLogField.all.length + 3

def flushAccesses (commands : List RuntimeLogEvent) : Nat := commands.length * pushAccesses + 1

/-- What the real-time thread still has to do in its call, from where it has the mutex or needs none. -/
def accessesLeft (state : LoggerState) : Nat :=
  match state.realTime with
  | .idle => 0
  | .locking => 0
  | .swapping => flushAccesses state.pendingCommands + 2
  | .unlocking localPending => flushAccesses localPending + 1
  | .flushing localPending => flushAccesses localPending
  | .pushingCommand _ rest =>
      state.ring.producer.accessesLeft RuntimeLogField.all + flushAccesses rest
  | .entering _ => pushAccesses
  | .pushing _ => state.ring.producer.accessesLeft RuntimeLogField.all

variable {state : LoggerState}

theorem pushAccesses_pos : 0 < pushAccesses := by
  rw [pushAccesses]
  omega

theorem flushAccesses_cons (event : RuntimeLogEvent) (rest : List RuntimeLogEvent) :
    flushAccesses (event :: rest) = flushAccesses rest + pushAccesses := by
  rw [flushAccesses, flushAccesses, List.length_cons, Nat.succ_mul]
  omega

theorem accessesLeft_tryPushToRing {ring : RingState RuntimeLogField RuntimeLogField.Value}
    (hidle : ring.producer = .idle) (event : RuntimeLogEvent) :
    (ring.tryPushToRing event).producer.accessesLeft RuntimeLogField.all < pushAccesses := by
  rw [RingState.tryPushToRing, hidle]
  exact Nat.lt_succ_self _

theorem producer_ne_idle (hsound : Sound state) {event : RuntimeLogEvent}
    (hpush : state.realTime.inPush = some event) : state.ring.producer ≠ .idle := by
  intro hidle
  have hproducer := hsound.ring.producer
  rw [hidle, hpush] at hproducer
  cases hproducer

theorem accessesLeft_pos (hsound : Sound state) (hlocked : state.realTime ≠ .locking)
    (hcall : state.realTime ≠ .idle) : 0 < state.accessesLeft := by
  have hbusy : ∀ event, state.realTime.inPush = some event →
      0 < state.ring.producer.accessesLeft RuntimeLogField.all := by
    intro event hpush
    have hless : (state.ring.produce RuntimeLogger.kRingCapacity
        RuntimeLogField.all).producer.accessesLeft RuntimeLogField.all <
          state.ring.producer.accessesLeft RuntimeLogField.all :=
      RingState.accessesLeft_produce (producer_ne_idle hsound hpush)
    exact Nat.lt_of_le_of_lt (Nat.zero_le _) hless
  unfold accessesLeft
  cases hphase : state.realTime with
  | idle => exact absurd hphase hcall
  | locking => exact absurd hphase hlocked
  | swapping => exact Nat.succ_pos _
  | unlocking localPending => exact Nat.succ_pos _
  | flushing localPending => exact Nat.succ_pos _
  | pushingCommand event rest => exact Nat.add_pos_right _ (Nat.succ_pos _)
  | entering event => exact pushAccesses_pos
  | pushing event => exact hbusy event (by rw [hphase]; rfl)

/-- An access of a push, where the call goes on with a known number of accesses once the push returns. -/
theorem accessesLeft_push (hsound : Sound state) {event : RuntimeLogEvent} {returned : RtLogPhase}
    {afterwards : Nat} (hpush : state.realTime.inPush = some event) {locks : Bool}
    (hnext : state.next (.realTime locks) =
      { state with
        ring := state.ringAfter (.realTime locks)
        realTime := afterPush state.realTime returned (state.ringAfter (.realTime locks)).producer })
    (hring : state.ringAfter (.realTime locks) =
      state.ring.produce RuntimeLogger.kRingCapacity RuntimeLogField.all)
    (hpushing : ∀ ring, ({ state with ring := ring } : LoggerState).accessesLeft =
      ring.producer.accessesLeft RuntimeLogField.all + afterwards)
    (hreturned : ∀ ring, ({ state with ring := ring, realTime := returned } : LoggerState).accessesLeft =
      afterwards)
    (hlocked : state.realTime ≠ .locking) (hlocked' : returned ≠ .locking) :
    (state.next (.realTime locks)).realTime ≠ .locking ∧
      (state.next (.realTime locks)).accessesLeft < state.accessesLeft := by
  have hless : (state.ring.produce RuntimeLogger.kRingCapacity
      RuntimeLogField.all).producer.accessesLeft RuntimeLogField.all <
        state.ring.producer.accessesLeft RuntimeLogField.all :=
    RingState.accessesLeft_produce (producer_ne_idle hsound hpush)
  have hbefore := hpushing state.ring
  change state.accessesLeft = _ at hbefore
  rw [hnext, hring, hbefore]
  cases hafter : (state.ring.produce RuntimeLogger.kRingCapacity RuntimeLogField.all).producer with
  | idle =>
      rw [afterPush, hreturned]
      exact ⟨hlocked', Nat.lt_add_of_pos_left (Nat.lt_of_le_of_lt (Nat.zero_le _) hless)⟩
  | checking pushed head =>
      exact ⟨hlocked, (hpushing _).trans_lt (Nat.add_lt_add_right hless afterwards)⟩
  | copying pushed head fields =>
      exact ⟨hlocked, (hpushing _).trans_lt (Nat.add_lt_add_right hless afterwards)⟩

/-- Each of its accesses brings the real-time thread nearer to the end of its call. -/
theorem accessesLeft_realTime (hsound : Sound state) (hlocked : state.realTime ≠ .locking)
    (hcall : state.realTime ≠ .idle) (locks : Bool) :
    (state.next (.realTime locks)).realTime = .idle ∨
      ((state.next (.realTime locks)).realTime ≠ .locking ∧
        (state.next (.realTime locks)).accessesLeft < state.accessesLeft) := by
  have hproducer := hsound.ring.producer
  have hnext : state.next (.realTime locks) =
      state.stepRealTime locks (state.ringAfter (.realTime locks)) := rfl
  cases hphase : state.realTime with
  | idle => exact absurd hphase hcall
  | locking => exact absurd hphase hlocked
  | swapping =>
      rw [hnext, stepRealTime, hphase]
      refine Or.inr ⟨by simp, ?_⟩
      rw [accessesLeft, accessesLeft, hphase]
      exact Nat.lt_succ_self _
  | unlocking localPending =>
      rw [hnext, stepRealTime, hphase]
      refine Or.inr ⟨by simp, ?_⟩
      rw [accessesLeft, accessesLeft, hphase]
      exact Nat.lt_succ_self _
  | flushing localPending =>
      cases localPending with
      | nil =>
          rw [hnext, stepRealTime, hphase]
          exact Or.inl rfl
      | cons event rest =>
          rw [hphase] at hproducer
          have hless := accessesLeft_tryPushToRing (RingPhase.eq_idle_of_event? hproducer) event
          rw [hnext, ringAfter_tryPush (by rw [hphase]; rfl), stepRealTime, hphase]
          refine Or.inr ⟨by simp, ?_⟩
          rw [accessesLeft, accessesLeft, hphase]
          dsimp only
          rw [flushAccesses_cons]
          omega
  | pushingCommand event rest =>
      have hpush : state.realTime.inPush = some event := by
        rw [hphase]
        rfl
      have hafter := next_pushingCommand hphase locks
      rw [← hphase] at hafter
      refine Or.inr (accessesLeft_push hsound hpush hafter (ringAfter_produce (by rw [hphase]; rfl) locks)
        (fun ring => ?_) (fun _ => rfl) hlocked (by simp))
      rw [accessesLeft, hphase]
      rfl
  | entering event =>
      rw [hphase] at hproducer
      rw [hnext, ringAfter_tryPush (by rw [hphase]; rfl), stepRealTime, hphase]
      refine Or.inr ⟨by simp, ?_⟩
      rw [accessesLeft, accessesLeft, hphase]
      exact accessesLeft_tryPushToRing (RingPhase.eq_idle_of_event? hproducer) event
  | pushing event =>
      have hpush : state.realTime.inPush = some event := by
        rw [hphase]
        rfl
      have hafter := next_pushing hphase locks
      rw [← hphase] at hafter
      refine Or.inr (accessesLeft_push hsound hpush hafter (ringAfter_produce (by rw [hphase]; rfl) locks)
        (fun ring => ?_) (fun _ => rfl) hlocked (by simp))
      rw [accessesLeft, hphase]
      rfl

/-! ### The other threads -/

theorem accessesLeft_congr {after : LoggerState} (hrealTime : after.realTime = state.realTime)
    (hproducer : after.ring.producer = state.ring.producer)
    (hpending : state.realTime = .swapping → after.pendingCommands = state.pendingCommands) :
    after.accessesLeft = state.accessesLeft := by
  rw [accessesLeft, accessesLeft, hrealTime, hproducer]
  cases hphase : state.realTime with
  | swapping =>
      dsimp only
      rw [hpending hphase]
  | _ => rfl

/-- While the real-time thread holds the mutex, no other thread has a command to append. -/
theorem stepQueuing_of_swapping (hsound : Sound state) (hphase : state.realTime = .swapping)
    (thread : Nat) : (state.stepQueuing thread).pendingCommands = state.pendingCommands := by
  unfold stepQueuing
  split
  · rfl
  · split_ifs <;> rfl
  · rename_i event hqueuing
    have hrealTime : state.holdsPending .realTime = true := by
      rw [holdsPending, hphase]
      rfl
    have hother : state.holdsPending (.queuing thread) = true := by
      rw [holdsPending, hqueuing]
      rfl
    cases hsound.pending.unique hrealTime hother
  · rfl

theorem callRealTime_of_busy (hcall : state.realTime ≠ .idle) (phase : RtLogPhase) :
    state.callRealTime phase = state := by
  rcases callRealTime_cases state phase with hsame | ⟨hidle, -, -⟩
  · exact hsame
  · exact absurd hidle hcall

theorem accessesLeft_other (hsound : Sound state) (hcall : state.realTime ≠ .idle)
    {action : LoggerAction} (hother : action.isRealTime = false) :
    (state.next action).realTime = state.realTime ∧
      (state.next action).accessesLeft = state.accessesLeft := by
  have hsameQueue : ∀ {after : LoggerState}, SameQueue state after →
      after.realTime = state.realTime ∧ after.accessesLeft = state.accessesLeft := fun hsame =>
    ⟨hsame.realTime, accessesLeft_congr hsame.realTime hsame.producer fun _ => hsame.pendingCommands⟩
  cases action with
  | flushPendingToBuffer =>
      change (state.callRealTime .locking).realTime = _ ∧ (state.callRealTime .locking).accessesLeft = _
      rw [callRealTime_of_busy hcall]
      exact ⟨rfl, rfl⟩
  | pushRtEvent event =>
      change (state.callRealTime (.entering event)).realTime = _ ∧
        (state.callRealTime (.entering event)).accessesLeft = _
      rw [callRealTime_of_busy hcall]
      exact ⟨rfl, rfl⟩
  | realTime locks => cases hother
  | queueCommand thread event =>
      change (state.queueCommand thread event).realTime = _ ∧
        (state.queueCommand thread event).accessesLeft = _
      rcases queueCommand_cases state thread event with hsame | ⟨-, hafter⟩
      · rw [hsame]
        exact ⟨rfl, rfl⟩
      · rw [hafter]
        exact ⟨rfl, accessesLeft_congr rfl rfl fun _ => rfl⟩
  | queue thread =>
      obtain ⟨hrealTime, hring⟩ := stepQueuing_frame state thread
      exact ⟨hrealTime, accessesLeft_congr hrealTime (congrArg RingState.producer hring)
        fun hphase => stepQueuing_of_swapping hsound hphase thread⟩
  | drain thread fetches => exact hsameQueue (sameQueue_callDraining state thread _)
  | shutdown thread => exact hsameQueue (sameQueue_callDraining state thread _)
  | log thread fetched => exact hsameQueue (sameQueue_stepDraining state thread fetched)

theorem approaches_idle :
    Approaches machine LoggerAction.isRealTime
      (fun state => Sound state ∧ state.realTime ≠ .locking) (fun state => state.realTime = .idle)
      accessesLeft where
  positive hinvariant hcall := accessesLeft_pos hinvariant.1 hinvariant.2 hcall
  own_next {state action} hinvariant hcall hown := by
    cases action with
    | realTime locks =>
        rcases accessesLeft_realTime hinvariant.1 hinvariant.2 hcall locks with hidle | ⟨hlocked, hless⟩
        · exact Or.inl hidle
        · exact Or.inr ⟨⟨sound_next hinvariant.1 (.realTime locks), hlocked⟩, hless⟩
    | _ => cases hown
  other_next {state action} hinvariant hcall hother := by
    obtain ⟨hrealTime, hsame⟩ := accessesLeft_other hinvariant.1 hcall hother
    refine ⟨⟨sound_next hinvariant.1 action, ?_⟩, hsame.le⟩
    change (state.next action).realTime ≠ .locking
    rw [hrealTime]
    exact hinvariant.2

/-- **The real-time thread never waits**: from any state of any run, and however the accesses of the other
threads fall between its own, its call returns after `accessesLeft` of these. -/
theorem realTime_returns (ringBuffer : Nat → RuntimeLogEvent) (leftover : List RuntimeLogEvent)
    (actions more : List LoggerAction)
    (hlocked : (machine.exec (.start (initialized ringBuffer leftover)) actions).state.realTime ≠
      .locking)
    (hmany : (machine.exec (.start (initialized ringBuffer leftover)) actions).state.accessesLeft ≤
      (more.filter LoggerAction.isRealTime).length) :
    ∃ first, first <+: more ∧
      (machine.exec (.start (initialized ringBuffer leftover)) (actions ++ first)).state.realTime =
        .idle := by
  have hsound := sound_exec ringBuffer leftover actions
  obtain ⟨first, hfirst, hidle⟩ := approaches_idle.reaches ⟨hsound, hlocked⟩ hmany
  refine ⟨first, hfirst, ?_⟩
  rw [Machine.exec_append, Machine.state_exec]
  exact hidle

theorem realTime_returns_flush :
    ∃ first, first <+: List.replicate 300 (LoggerAction.realTime true) ∧
      (machine.exec (.start (initialized (fun _ => .blank) [.blank]))
        ([.flushPendingToBuffer, .realTime true] ++ first)).state.realTime = .idle := by
  have hswapping : (machine.exec (.start (initialized (fun _ => .blank) [.blank]))
      [.flushPendingToBuffer, .realTime true]).state.realTime = .swapping := rfl
  have hpending : (machine.exec (.start (initialized (fun _ => .blank) [.blank]))
      [.flushPendingToBuffer, .realTime true]).state.pendingCommands = [.blank] := rfl
  refine realTime_returns (fun _ => .blank) [.blank] _ _ ?_ ?_
  · rw [hswapping]
    simp
  · have hlength : RuntimeLogField.all.length = 267 := by
      rw [RuntimeLogField.all, List.length_append, List.length_map, List.length_finRange]
      rfl
    have hown : (List.replicate 300 (LoggerAction.realTime true)).filter LoggerAction.isRealTime =
        List.replicate 300 (LoggerAction.realTime true) :=
      List.filter_eq_self.mpr fun action haction => by
        rw [List.eq_of_mem_replicate haction]
        rfl
    rw [hown, List.length_replicate, accessesLeft, hswapping, hpending]
    dsimp only
    rw [flushAccesses, pushAccesses, hlength]
    decide

end LoggerState

end IghMaster
