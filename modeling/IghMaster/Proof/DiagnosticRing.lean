import IghMaster.DiagnosticRing
import IghMaster.Lib.RingBuffer

/-!
# The diagnostic ring is a queue

The events that were accepted are those that were popped and those in the queue that the ring holds. The
producer copies into the free slot at the head, the consumer out of the first slot of the queue.
-/

namespace IghMaster

open Transition RingBuffer

namespace RingPhase

variable {Field : Type} {Value : Field → Type} {buffer : Nat → ∀ field, Value field} {index : Nat}

/-- The producer has loaded the head. In a slot there is room for its event, of which the fields that it
has copied are in the slot. -/
def ProducerSound (capacity : Nat) (buffer : Nat → ∀ field, Value field) (head : Nat)
    (queue : List (∀ field, Value field)) : RingPhase Field Value → Prop
  | .idle => True
  | .checking _ loaded => loaded = head
  | .copying event loaded rest =>
      loaded = head ∧ queue.length + 1 < capacity ∧ ∀ field, field ∉ rest → buffer head field = event field

/-- The consumer has loaded the tail. In a slot there is an event for it, of which it has the fields that
it has copied. -/
def ConsumerSound (buffer : Nat → ∀ field, Value field) (tail : Nat)
    (queue : List (∀ field, Value field)) : RingPhase Field Value → Prop
  | .idle => True
  | .checking _ loaded => loaded = tail
  | .copying event loaded rest =>
      loaded = tail ∧ queue ≠ [] ∧ ∀ field, field ∉ rest → event field = buffer tail field

end RingPhase

namespace RingState

variable {Field : Type} {Value : Field → Type} {capacity : Nat} {fields : List Field}

/-- The state holds the queue, and both threads know what they need of it. -/
structure HoldsQueue (capacity : Nat) (state : RingState Field Value)
    (queue : List (∀ field, Value field)) : Prop where
  holds : Holds capacity state.ringBuffer state.ringTail state.ringHead queue
  producer : state.producer.ProducerSound capacity state.ringBuffer state.ringHead queue
  consumer : state.consumer.ConsumerSound state.ringBuffer state.ringTail queue

variable {state : RingState Field Value} {queue : List (∀ field, Value field)}

theorem HoldsQueue.tryPushToRing (hqueue : HoldsQueue capacity state queue)
    (event : ∀ field, Value field) : HoldsQueue capacity (state.tryPushToRing event) queue := by
  unfold RingState.tryPushToRing
  split
  · exact ⟨hqueue.holds, rfl, hqueue.consumer⟩
  · exact hqueue

theorem HoldsQueue.tryPopFromRing (hqueue : HoldsQueue capacity state queue)
    (event : ∀ field, Value field) : HoldsQueue capacity (state.tryPopFromRing event) queue := by
  unfold RingState.tryPopFromRing
  split
  · exact ⟨hqueue.holds, hqueue.producer, rfl⟩
  · exact hqueue

/-- The slot of a consumer is not the free one, so that a copy into that one leaves it right. -/
theorem HoldsQueue.consumerSound_of_ne_head (hqueue : HoldsQueue capacity state queue)
    {buffer : Nat → ∀ field, Value field}
    (hsame : ∀ index, index ≠ state.ringHead → buffer index = state.ringBuffer index) :
    state.consumer.ConsumerSound buffer state.ringTail queue := by
  have hconsumer := hqueue.consumer
  cases hphase : state.consumer with
  | idle => trivial
  | checking event loaded =>
      rw [hphase] at hconsumer
      exact hconsumer
  | copying event loaded rest =>
      rw [hphase] at hconsumer
      obtain ⟨hloaded, hsome, hcopied⟩ := hconsumer
      have hapart : state.ringTail ≠ state.ringHead := mt hqueue.holds.empty_iff.mp hsome
      refine ⟨hloaded, hsome, ?_⟩
      rw [hsame _ hapart]
      exact hcopied

section Steps

variable [DecidableEq Field]

theorem HoldsQueue.copy_into (hqueue : HoldsQueue capacity state queue) {event : ∀ field, Value field}
    {head : Nat} {field : Field} {rest : List Field}
    (hphase : state.producer = .copying event head (field :: rest)) :
    HoldsQueue capacity (state.produce capacity fields) queue := by
  have hproducer := hqueue.producer
  rw [hphase] at hproducer
  obtain ⟨rfl, hroom, hcopied⟩ := hproducer
  have hsame : ∀ index, index ≠ state.ringHead →
      Function.update state.ringBuffer state.ringHead
        (Function.update (state.ringBuffer state.ringHead) field (event field)) index =
          state.ringBuffer index := fun index hindex => Function.update_of_ne hindex _ _
  rw [produce, hphase]
  refine ⟨hqueue.holds.congr hsame, ⟨rfl, hroom, fun other hother => ?_⟩,
    hqueue.consumerSound_of_ne_head hsame⟩
  dsimp only
  rw [Function.update_self]
  by_cases hfield : other = field
  · subst hfield
    rw [Function.update_self]
  · rw [Function.update_of_ne hfield]
    exact hcopied other (by simp [hfield, hother])

theorem HoldsQueue.check_push (hfields : ∀ field, field ∈ fields)
    (hqueue : HoldsQueue capacity state queue) {event : ∀ field, Value field} {head : Nat}
    (hphase : state.producer = .checking event head) :
    HoldsQueue capacity (state.produce capacity fields) queue := by
  have hproducer := hqueue.producer
  rw [hphase] at hproducer
  have hloaded : head = state.ringHead := hproducer
  subst hloaded
  rw [produce, hphase]
  dsimp only
  split_ifs with hfull
  · exact ⟨hqueue.holds, trivial, hqueue.consumer⟩
  · have hroom : queue.length + 1 < capacity := by
      have hlength := hqueue.holds.length_lt
      rw [hqueue.holds.full_iff] at hfull
      omega
    exact ⟨hqueue.holds, ⟨rfl, hroom, fun field hfield => absurd (hfields field) hfield⟩,
      hqueue.consumer⟩

/-- The store of the head puts the event at the end of the queue. -/
theorem HoldsQueue.store_head (hqueue : HoldsQueue capacity state queue)
    {event : ∀ field, Value field} {head : Nat} (hphase : state.producer = .copying event head []) :
    HoldsQueue capacity (state.produce capacity fields) (queue ++ [event]) := by
  have hproducer := hqueue.producer
  rw [hphase] at hproducer
  obtain ⟨rfl, hroom, hcopied⟩ := hproducer
  have hevent : state.ringBuffer state.ringHead = event := by
    funext field
    exact hcopied field List.not_mem_nil
  have hholds := hqueue.holds.enqueue hroom
  rw [hevent] at hholds
  rw [produce, hphase]
  refine ⟨hholds, trivial, ?_⟩
  have hconsumer := hqueue.consumer
  cases hother : state.consumer with
  | idle => trivial
  | checking lent loaded =>
      rw [hother] at hconsumer
      exact hconsumer
  | copying lent loaded rest =>
      rw [hother] at hconsumer
      exact ⟨hconsumer.1, by simp, hconsumer.2.2⟩

theorem HoldsQueue.check_pop (hfields : ∀ field, field ∈ fields)
    (hqueue : HoldsQueue capacity state queue) {event : ∀ field, Value field} {tail : Nat}
    (hphase : state.consumer = .checking event tail) :
    HoldsQueue capacity (state.consume capacity fields) queue := by
  have hconsumer := hqueue.consumer
  rw [hphase] at hconsumer
  have hloaded : tail = state.ringTail := hconsumer
  subst hloaded
  rw [consume, hphase]
  dsimp only
  split_ifs with hempty
  · exact ⟨hqueue.holds, hqueue.producer, trivial⟩
  · have hsome : queue ≠ [] := mt hqueue.holds.empty_iff.mpr hempty
    exact ⟨hqueue.holds, hqueue.producer, rfl, hsome,
      fun field hfield => absurd (hfields field) hfield⟩

theorem HoldsQueue.copy_out (hqueue : HoldsQueue capacity state queue) {event : ∀ field, Value field}
    {tail : Nat} {field : Field} {rest : List Field}
    (hphase : state.consumer = .copying event tail (field :: rest)) :
    HoldsQueue capacity (state.consume capacity fields) queue := by
  have hconsumer := hqueue.consumer
  rw [hphase] at hconsumer
  obtain ⟨rfl, hsome, hcopied⟩ := hconsumer
  rw [consume, hphase]
  refine ⟨hqueue.holds, hqueue.producer, rfl, hsome, fun other hother => ?_⟩
  by_cases hfield : other = field
  · subst hfield
    exact Function.update_self ..
  · rw [Function.update_of_ne hfield]
    exact hcopied other (by simp [hfield, hother])

/-- The store of the tail takes the first event off the queue, which is the one that was copied. -/
theorem HoldsQueue.store_tail (hqueue : HoldsQueue capacity state queue)
    {event : ∀ field, Value field} {tail : Nat} (hphase : state.consumer = .copying event tail []) :
    queue = event :: queue.tail ∧ HoldsQueue capacity (state.consume capacity fields) queue.tail := by
  have hconsumer := hqueue.consumer
  rw [hphase] at hconsumer
  obtain ⟨rfl, hsome, hcopied⟩ := hconsumer
  have hevent : event = state.ringBuffer state.ringTail := by
    funext field
    exact hcopied field List.not_mem_nil
  obtain ⟨first, rest, rfl⟩ := List.exists_cons_of_ne_nil hsome
  refine ⟨by rw [hevent, hqueue.holds.front, List.tail_cons], ?_⟩
  rw [consume, hphase]
  refine ⟨hqueue.holds.dequeue, ?_, trivial⟩
  have hproducer := hqueue.producer
  cases hother : state.producer with
  | idle => trivial
  | checking pushed loaded =>
      rw [hother] at hproducer
      exact hproducer
  | copying pushed loaded copied =>
      rw [hother] at hproducer
      exact ⟨hproducer.1, Nat.lt_of_succ_lt hproducer.2.1, hproducer.2.2⟩

end Steps

/-! ### The events of a run -/

theorem acceptedEvents_cons (visit : RingVisit Field Value) (history : List (RingVisit Field Value)) :
    acceptedEvents (visit :: history) = acceptedEvents history ++ (accepts visit).toList := by
  unfold acceptedEvents
  cases haccepts : accepts visit with
  | none => rw [List.filterMap_cons_none haccepts, Option.toList_none, List.append_nil]
  | some event => rw [List.filterMap_cons_some haccepts, List.reverse_cons, Option.toList_some]

theorem poppedEvents_cons (visit : RingVisit Field Value) (history : List (RingVisit Field Value)) :
    poppedEvents (visit :: history) = poppedEvents history ++ (pops visit).toList := by
  unfold poppedEvents
  cases hpops : pops visit with
  | none => rw [List.filterMap_cons_none hpops, Option.toList_none, List.append_nil]
  | some event => rw [List.filterMap_cons_some hpops, List.reverse_cons, Option.toList_some]

/-- What was accepted is what was popped and what the ring still holds. -/
def Conserved (capacity : Nat) (config : RingConfig Field Value) : Prop :=
  ∃ queue, HoldsQueue capacity config.state queue ∧
    acceptedEvents config.history = poppedEvents config.history ++ queue

theorem Conserved.apart {config : RingConfig Field Value} (hconserved : Conserved capacity config)
    {event event' : ∀ field, Value field} {head tail : Nat} {rest rest' : List Field}
    (hproducer : config.state.producer = .copying event head rest)
    (hconsumer : config.state.consumer = .copying event' tail rest') : head ≠ tail := by
  obtain ⟨queue, hqueue, -⟩ := hconserved
  have hhead := hqueue.producer
  have htail := hqueue.consumer
  rw [hproducer] at hhead
  rw [hconsumer] at htail
  have hapart : config.state.ringTail ≠ config.state.ringHead :=
    mt hqueue.holds.empty_iff.mp htail.2.1
  rw [hhead.1, htail.1]
  exact hapart.symm

/-- Both threads stay inside the array. -/
theorem Conserved.slot_lt {config : RingConfig Field Value} (hconserved : Conserved capacity config)
    {event : ∀ field, Value field} {slot : Nat} {rest : List Field}
    (hcopying : config.state.producer = .copying event slot rest ∨
      config.state.consumer = .copying event slot rest) : slot < capacity := by
  obtain ⟨queue, hqueue, -⟩ := hconserved
  rcases hcopying with hproducer | hconsumer
  · have hhead := hqueue.producer
    rw [hproducer] at hhead
    rw [hhead.1]
    exact hqueue.holds.head_lt
  · have htail := hqueue.consumer
    rw [hconsumer] at htail
    rw [htail.1]
    exact hqueue.holds.tail_lt

section Runs

variable [DecidableEq Field] {config : RingConfig Field Value}

/-- An action that completes neither call leaves the queue as it is. -/
theorem conserved_of_silent {action : RingAction Field Value}
    (hqueue : HoldsQueue capacity ((machine capacity fields).next config.state action) queue)
    (hconserved : acceptedEvents config.history = poppedEvents config.history ++ queue)
    (haccepts : accepts ((machine capacity fields).visit config.state action) = none)
    (hpops : pops ((machine capacity fields).visit config.state action) = none) :
    Conserved capacity ((machine capacity fields).advance config action) := by
  refine ⟨queue, hqueue, ?_⟩
  rw [Machine.advance_history, acceptedEvents_cons, poppedEvents_cons, haccepts, hpops,
    Option.toList_none, List.append_nil, List.append_nil]
  exact hconserved

theorem Conserved.produce (hfields : ∀ field, field ∈ fields) (hconserved : Conserved capacity config) :
    Conserved capacity ((machine capacity fields).advance config .produce) := by
  obtain ⟨queue, hqueue, hevents⟩ := hconserved
  cases hphase : config.state.producer with
  | idle =>
      have hsame : config.state.produce capacity fields = config.state := by
        rw [RingState.produce, hphase]
      refine conserved_of_silent ?_ hevents (by simp [accepts, hphase]) (by simp [pops])
      change HoldsQueue capacity (config.state.produce capacity fields) queue
      rw [hsame]
      exact hqueue
  | checking event head =>
      exact conserved_of_silent (hqueue.check_push hfields hphase) hevents
        (by simp [accepts, hphase]) (by simp [pops])
  | copying event head rest =>
      cases rest with
      | cons field rest =>
          exact conserved_of_silent (hqueue.copy_into hphase) hevents (by simp [accepts, hphase])
            (by simp [pops])
      | nil =>
          refine ⟨queue ++ [event], hqueue.store_head hphase, ?_⟩
          have haccepts : accepts ((machine capacity fields).visit config.state .produce) =
              some event := by simp [accepts, hphase]
          have hpops : pops ((machine capacity fields).visit config.state .produce) = none := by
            simp [pops]
          rw [Machine.advance_history, acceptedEvents_cons, poppedEvents_cons, haccepts, hpops,
            hevents, Option.toList_some, Option.toList_none, List.append_nil, List.append_assoc]

theorem Conserved.consume (hfields : ∀ field, field ∈ fields) (hconserved : Conserved capacity config) :
    Conserved capacity ((machine capacity fields).advance config .consume) := by
  obtain ⟨queue, hqueue, hevents⟩ := hconserved
  cases hphase : config.state.consumer with
  | idle =>
      have hsame : config.state.consume capacity fields = config.state := by
        rw [RingState.consume, hphase]
      refine conserved_of_silent ?_ hevents (by simp [accepts]) (by simp [pops, hphase])
      change HoldsQueue capacity (config.state.consume capacity fields) queue
      rw [hsame]
      exact hqueue
  | checking event tail =>
      exact conserved_of_silent (hqueue.check_pop hfields hphase) hevents (by simp [accepts])
        (by simp [pops, hphase])
  | copying event tail rest =>
      cases rest with
      | cons field rest =>
          exact conserved_of_silent (hqueue.copy_out hphase) hevents (by simp [accepts])
            (by simp [pops, hphase])
      | nil =>
          obtain ⟨hfirst, hrest⟩ : queue = event :: queue.tail ∧
              HoldsQueue capacity (config.state.consume capacity fields) queue.tail :=
            hqueue.store_tail hphase
          refine ⟨queue.tail, hrest, ?_⟩
          have haccepts : accepts ((machine capacity fields).visit config.state .consume) = none := by
            simp [accepts]
          have hpops : pops ((machine capacity fields).visit config.state .consume) = some event := by
            simp [pops, hphase]
          rw [Machine.advance_history, acceptedEvents_cons, poppedEvents_cons, haccepts, hpops,
            hevents, Option.toList_some, Option.toList_none, List.append_nil, List.append_assoc,
            List.singleton_append, ← hfirst]

theorem Conserved.advance (hfields : ∀ field, field ∈ fields) (hconserved : Conserved capacity config)
    (action : RingAction Field Value) :
    Conserved capacity ((machine capacity fields).advance config action) := by
  cases action with
  | tryPushToRing event =>
      obtain ⟨queue, hqueue, hevents⟩ := hconserved
      exact conserved_of_silent (hqueue.tryPushToRing event) hevents rfl rfl
  | tryPopFromRing event =>
      obtain ⟨queue, hqueue, hevents⟩ := hconserved
      exact conserved_of_silent (hqueue.tryPopFromRing event) hevents rfl rfl
  | produce => exact hconserved.produce hfields
  | consume => exact hconserved.consume hfields

/-- A push is refused only where the queue takes all slots but one. -/
theorem Conserved.length_of_refuses (hconserved : Conserved capacity config)
    {action : RingAction Field Value}
    (hrefuses : refuses capacity ((machine capacity fields).visit config.state action) = true) :
    (acceptedEvents config.history).length =
      (poppedEvents config.history).length + (capacity - 1) := by
  obtain ⟨queue, hqueue, hevents⟩ := hconserved
  obtain ⟨event, head, hphase, hfull⟩ : ∃ event head,
      config.state.producer = .checking event head ∧
        (head + 1) % capacity = config.state.ringTail := by
    unfold refuses at hrefuses
    split at hrefuses
    · rename_i event head haction hphase
      exact ⟨event, head, hphase, of_decide_eq_true hrefuses⟩
    · exact absurd hrefuses Bool.false_ne_true
  have hproducer := hqueue.producer
  rw [hphase] at hproducer
  have hloaded : head = config.state.ringHead := hproducer
  rw [hloaded, hqueue.holds.full_iff] at hfull
  rw [hevents, List.length_append]
  omega

/-- What every past refusal shows. -/
def RefusedFull (capacity : Nat) (history : List (RingVisit Field Value)) : Prop :=
  ∀ after visit earlier, history = after ++ visit :: earlier → refuses capacity visit = true →
    (acceptedEvents earlier).length = (poppedEvents earlier).length + (capacity - 1)

theorem RefusedFull.advance (hrefused : RefusedFull capacity config.history)
    (hconserved : Conserved capacity config) (action : RingAction Field Value) :
    RefusedFull capacity ((machine capacity fields).advance config action).history := by
  intro after visit earlier hsplit hrefuses
  rw [Machine.advance_history] at hsplit
  cases after with
  | nil =>
      rw [List.nil_append, List.cons.injEq] at hsplit
      obtain ⟨rfl, rfl⟩ := hsplit
      exact hconserved.length_of_refuses hrefuses
  | cons newest after =>
      rw [List.cons_append, List.cons.injEq] at hsplit
      exact hrefused after visit earlier hsplit.2 hrefuses

theorem conserved_exec (hcapacity : 0 < capacity) (hfields : ∀ field, field ∈ fields)
    (ringBuffer : Nat → ∀ field, Value field) (actions : List (RingAction Field Value)) :
    Conserved capacity
        ((machine capacity fields).exec (.start { ringBuffer := ringBuffer }) actions) ∧
      RefusedFull capacity
        ((machine capacity fields).exec (.start { ringBuffer := ringBuffer }) actions).history := by
  have hstart : Conserved capacity (.start { ringBuffer := ringBuffer }) ∧
      RefusedFull capacity (Config.start { ringBuffer := ringBuffer } : RingConfig Field Value).history := by
    refine ⟨⟨[], ⟨holds_nil ringBuffer hcapacity, trivial, trivial⟩, rfl⟩, ?_⟩
    intro after visit earlier hsplit
    simp at hsplit
  have hstep : ∀ (config : RingConfig Field Value) action,
      Conserved capacity config ∧ RefusedFull capacity config.history →
        Conserved capacity ((machine capacity fields).advance config action) ∧
          RefusedFull capacity ((machine capacity fields).advance config action).history :=
    fun config action h => ⟨h.1.advance hfields action, h.2.advance h.1 action⟩
  exact (machine capacity fields).exec_invariant hstep actions hstart

theorem isFifo_exec (hcapacity : 0 < capacity) (hfields : ∀ field, field ∈ fields)
    (ringBuffer : Nat → ∀ field, Value field) (actions : List (RingAction Field Value)) :
    IsFifo capacity ((machine capacity fields).exec (.start { ringBuffer := ringBuffer }) actions) := by
  obtain ⟨hconserved, hrefused⟩ := conserved_exec hcapacity hfields ringBuffer actions
  refine ⟨?_, hrefused, fun _ _ _ _ _ _ hproducer hconsumer => hconserved.apart hproducer hconsumer⟩
  obtain ⟨queue, -, hevents⟩ := hconserved
  exact ⟨queue, hevents.symm⟩

end Runs

end RingState

namespace RuntimeLogger

theorem mem_all (field : RuntimeLogField) : field ∈ RuntimeLogField.all := by
  cases field with
  | detail index => exact List.mem_append_right _ (List.mem_map_of_mem (List.mem_finRange index))
  | _ => exact List.mem_append_left _ (by decide)

/-- **The diagnostic ring is a FIFO** under every interleaving of one producer and one consumer. -/
theorem diagnostic_ring_fifo (ringBuffer : Nat → ∀ field, RuntimeLogField.Value field)
    (actions : List (RingAction RuntimeLogField RuntimeLogField.Value)) :
    RingState.IsFifo kRingCapacity (exec ringBuffer actions) :=
  RingState.isFifo_exec (by decide) mem_all ringBuffer actions

/-- No access of a run is to a slot beyond the end of `ring_buffer_`. -/
theorem slot_lt_kRingCapacity (ringBuffer : Nat → ∀ field, RuntimeLogField.Value field)
    (actions : List (RingAction RuntimeLogField RuntimeLogField.Value))
    {event : ∀ field, RuntimeLogField.Value field} {slot : Nat} {rest : List RuntimeLogField}
    (hcopying : (exec ringBuffer actions).state.producer = .copying event slot rest ∨
      (exec ringBuffer actions).state.consumer = .copying event slot rest) :
    slot < kRingCapacity :=
  (RingState.conserved_exec (by decide) mem_all ringBuffer actions).1.slot_lt hcopying

end RuntimeLogger

end IghMaster
