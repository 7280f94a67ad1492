import IghMaster.Lib.Unwrap
import IghMaster.ReferenceTime
import Mathlib.Data.UInt

/-!
# A continuous reference time

An aligned clock holds a time whose low word was seen last, and the next read finds the time near after
it that shows the new low word.
-/

namespace IghMaster.ReferenceClock

open Transition Unwrap
open scoped UInt64.CommRing UInt32.CommRing

/-! ### Times and their low words -/

def lowWord : UInt64 →+ UInt32 where
  toFun := UInt64.toUInt32
  map_zero' := rfl
  map_add' := UInt64.toUInt32_add

/-- The differences that a low word can hold. -/
def shortAdvance : Set UInt64 := fun difference => difference.toNat < 2 ^ 32

theorem toNat_lowWord (time : UInt64) : (lowWord time).toNat = time.toNat % 2 ^ 32 :=
  UInt64.toNat_toUInt32 time

theorem injOn_lowWord : Set.InjOn lowWord shortAdvance := by
  intro first hfirst second hsecond hsame
  have hwords := congrArg UInt32.toNat hsame
  rw [toNat_lowWord, toNat_lowWord, Nat.mod_eq_of_lt hfirst, Nat.mod_eq_of_lt hsecond] at hwords
  exact UInt64.toNat_inj.mp hwords

theorem toNat_time (clock : ReferenceClock) :
    clock.time.toNat = clock.dcHighBits.toNat * 2 ^ 32 + clock.lastTimeLow.toNat := by
  have hhigh := clock.dcHighBits.toNat_lt
  have hlow := clock.lastTimeLow.toNat_lt
  have hshifted : (clock.dcHighBits.toUInt64 <<< 32).toNat = clock.dcHighBits.toNat <<< 32 := by
    rw [UInt64.toNat_shiftLeft, UInt32.toNat_toUInt64]
    refine Nat.mod_eq_of_lt ?_
    change clock.dcHighBits.toNat <<< 32 < 2 ^ 64
    rw [Nat.shiftLeft_eq]
    omega
  rw [time, UInt64.toNat_or, hshifted, UInt32.toNat_toUInt64,
    ← Nat.shiftLeft_add_eq_or_of_lt hlow, Nat.shiftLeft_eq]

theorem lowWord_time (clock : ReferenceClock) : lowWord clock.time = clock.lastTimeLow := by
  have hlow := clock.lastTimeLow.toNat_lt
  refine UInt32.toNat_inj.mp ?_
  rw [toNat_lowWord, toNat_time]
  omega

theorem time_alignTimeBase (systemTimeNs : UInt64) (clock : ReferenceClock) :
    (clock.alignTimeBase systemTimeNs).time = systemTimeNs := by
  have hsystem := systemTimeNs.toNat_lt
  have hhigh : (systemTimeNs >>> 32).toUInt32.toNat = systemTimeNs.toNat / 2 ^ 32 := by
    rw [UInt64.toNat_toUInt32, UInt64.toNat_shiftRight]
    change systemTimeNs.toNat >>> 32 % 2 ^ 32 = _
    rw [Nat.shiftRight_eq_div_pow]
    omega
  refine UInt64.toNat_inj.mp ?_
  rw [toNat_time]
  change (systemTimeNs >>> 32).toUInt32.toNat * 2 ^ 32 + systemTimeNs.toUInt32.toNat = _
  rw [hhigh, UInt64.toNat_toUInt32]
  omega

/-- An extended time is the one near after the time before that shows the word. The exception for a last
word of 0 changes nothing, since no word is below it. -/
theorem follows_extend (timeLow : UInt32) (clock : ReferenceClock) :
    Follows lowWord shortAdvance clock.time timeLow (clock.extend timeLow).time := by
  refine ⟨?_, lowWord_time (clock.extend timeLow)⟩
  have hhigh := clock.dcHighBits.toNat_lt
  have hlast := clock.lastTimeLow.toNat_lt
  have hlow := timeLow.toNat_lt
  change ((clock.extend timeLow).time - clock.time).toNat < 2 ^ 32
  rw [UInt64.toNat_sub, toNat_time, toNat_time]
  change (2 ^ 64 - _ + ((clock.extend timeLow).dcHighBits.toNat * 2 ^ 32 + timeLow.toNat)) % _ < _
  by_cases hwraps : timeLow < clock.lastTimeLow
  · have hsome : clock.lastTimeLow ≠ 0 := fun hzero => by simp [hzero] at hwraps
    have hnext : (clock.extend timeLow).dcHighBits.toNat = (clock.dcHighBits.toNat + 1) % 2 ^ 32 := by
      rw [extend, if_pos ⟨hwraps, hsome⟩, UInt32.toNat_add]
      rfl
    rw [UInt32.lt_iff_toNat_lt] at hwraps
    rw [hnext]
    omega
  · have hsame : (clock.extend timeLow).dcHighBits = clock.dcHighBits :=
      if_neg fun h => hwraps h.1
    rw [UInt32.lt_iff_toNat_lt] at hwraps
    rw [hsame]
    omega

/-! ### What a call does to the time -/

/-- The words of the time, and whether they were aligned once. -/
def held (clock : ReferenceClock) : UInt32 × UInt32 × Bool :=
  (clock.dcHighBits, clock.lastTimeLow, clock.dcHighBitsAligned)

theorem time_of_held {clock after : ReferenceClock} (hheld : after.held = clock.held) :
    after.time = clock.time ∧ after.dcHighBitsAligned = clock.dcHighBitsAligned := by
  obtain ⟨hhigh, hlow, haligned⟩ : after.dcHighBits = clock.dcHighBits ∧
      after.lastTimeLow = clock.lastTimeLow ∧
        after.dcHighBitsAligned = clock.dcHighBitsAligned := by
    simpa [held] using hheld
  exact ⟨by rw [time, hhigh, hlow, ← time], haligned⟩

theorem held_countRetry (clock : ReferenceClock) : clock.countRetry.held = clock.held := by
  unfold countRetry
  split_ifs <;> rfl

theorem held_read_of_backsOff {clock : ReferenceClock} (hbacks : clock.backsOff = true)
    (input : ClockRead) : (clock.read input).1.held = clock.held := by
  rw [read, if_pos hbacks]
  exact held_countRetry clock

theorem held_read_none (clock : ReferenceClock) (systemTimeNs : UInt64) :
    (clock.read ⟨none, systemTimeNs⟩).1.held = clock.held := by
  unfold read
  split_ifs with hbacks <;> exact held_countRetry clock

theorem read_of_asks {clock : ReferenceClock} (hasks : clock.backsOff = false) (timeLow : UInt32)
    (systemTimeNs : UInt64) :
    clock.read ⟨some timeLow, systemTimeNs⟩ =
      (((clock.countRetry.align timeLow systemTimeNs).extend timeLow).succeeded,
        ((clock.countRetry.align timeLow systemTimeNs).extend timeLow).time) := by
  rw [read, if_neg (by rw [hasks]; exact Bool.false_ne_true)]

theorem aligned_align (timeLow : UInt32) (systemTimeNs : UInt64) (clock : ReferenceClock) :
    (clock.align timeLow systemTimeNs).dcHighBitsAligned = true := by
  unfold align
  split_ifs with haligned
  · exact haligned
  · rfl

/-- A read without an answer leaves the time as it is. -/
theorem held_next {clock : ReferenceClock} {action : ClockAction}
    (hunanswered : isUnanswered (machine.visit clock action) = true) :
    (clock.next action).held = clock.held := by
  cases action with
  | alignDcTimeBase systemTimeNs => exact absurd hunanswered (by simp [isUnanswered, alignment])
  | read activated trueTime systemTimeNs =>
      cases activated with
      | false => rfl
      | true =>
          change (clock.read ⟨trueTime.map UInt64.toUInt32, systemTimeNs⟩).1.held = _
          cases trueTime with
          | none => exact held_read_none clock systemTimeNs
          | some trueTime =>
              refine held_read_of_backsOff ?_ _
              by_contra hasks
              rw [Bool.not_eq_true] at hasks
              simp [isUnanswered, answer, hasks] at hunanswered

/-! ### The counters of the calls -/

/-- The first bounds the counter of the calls, the second those of the reads. -/
structure CountersWithin (retries answers : Nat) (clock : ReferenceClock) : Prop where
  retryCounter : clock.retryCounter ≤ retries
  consecutiveFailures : clock.consecutiveFailures ≤ answers
  consecutiveSuccesses : clock.consecutiveSuccesses ≤ answers

namespace CountersWithin

variable {retries answers : Nat} {clock : ReferenceClock}

theorem mono (hwithin : clock.CountersWithin retries answers) {retries' answers' : Nat}
    (hretries : retries ≤ retries') (hanswers : answers ≤ answers') :
    clock.CountersWithin retries' answers' where
  retryCounter := hwithin.retryCounter.trans hretries
  consecutiveFailures := hwithin.consecutiveFailures.trans hanswers
  consecutiveSuccesses := hwithin.consecutiveSuccesses.trans hanswers

theorem countRetry (hwithin : clock.CountersWithin retries answers) :
    clock.countRetry.CountersWithin (retries + 1) answers := by
  unfold ReferenceClock.countRetry
  split_ifs
  · exact hwithin.mono (Nat.le_succ retries) (Nat.le_refl answers)
  · exact { hwithin with retryCounter := Nat.succ_le_succ hwithin.retryCounter }
  · exact { hwithin with retryCounter := Nat.zero_le _ }

theorem failed (hwithin : clock.CountersWithin retries answers) :
    clock.failed.CountersWithin retries (answers + 1) where
  retryCounter := hwithin.retryCounter
  consecutiveFailures := Nat.succ_le_succ hwithin.consecutiveFailures
  consecutiveSuccesses := Nat.zero_le _

theorem align (hwithin : clock.CountersWithin retries answers) (timeLow : UInt32)
    (systemTimeNs : UInt64) :
    (clock.align timeLow systemTimeNs).CountersWithin retries answers := by
  unfold ReferenceClock.align
  split_ifs
  · exact hwithin
  · exact { hwithin with }

theorem extend (hwithin : clock.CountersWithin retries answers) (timeLow : UInt32) :
    (clock.extend timeLow).CountersWithin retries answers :=
  { hwithin with }

theorem succeeded (hwithin : clock.CountersWithin retries answers) :
    clock.succeeded.CountersWithin retries (answers + 1) where
  retryCounter := by
    unfold ReferenceClock.succeeded
    dsimp only
    split_ifs
    · exact hwithin.retryCounter
    · exact Nat.zero_le _
  consecutiveFailures := Nat.zero_le _
  consecutiveSuccesses := Nat.succ_le_succ hwithin.consecutiveSuccesses

theorem read (hwithin : clock.CountersWithin retries answers) (input : ClockRead) :
    (clock.read input).1.CountersWithin (retries + 1) (answers + 1) := by
  have hcounted := hwithin.countRetry
  unfold ReferenceClock.read
  split_ifs
  · exact hcounted.mono (Nat.le_refl _) (Nat.le_succ answers)
  · cases input.timeLow with
    | none => exact hcounted.failed
    | some timeLow => exact ((hcounted.align timeLow input.systemTimeNs).extend timeLow).succeeded

theorem next (hwithin : clock.CountersWithin retries answers) (action : ClockAction) :
    (clock.next action).CountersWithin (retries + 1) (answers + 1) := by
  have hwider := hwithin.mono (Nat.le_succ retries) (Nat.le_succ answers)
  cases action with
  | alignDcTimeBase systemTimeNs => exact { hwider with }
  | read activated trueTime systemTimeNs =>
      cases activated with
      | false => exact hwider
      | true => exact hwithin.read _

end CountersWithin

/-- A call adds at most one to each counter. -/
theorem countersWithin_exec (actions : List ClockAction) :
    (machine.exec (Config.start {}) actions).state.CountersWithin actions.length actions.length := by
  let start : ClockConfig := Config.start {}
  have hstart : start.state.CountersWithin start.history.length start.history.length :=
    ⟨Nat.le_refl 0, Nat.le_refl 0, Nat.le_refl 0⟩
  have hinvariant := machine.exec_invariant
    (fun (config : ClockConfig) action
      (hwithin : config.state.CountersWithin config.history.length config.history.length) =>
        hwithin.next action)
    actions hstart
  rw [machine.length_history_exec] at hinvariant
  simpa [start] using hinvariant

/-! ### The time that is held -/

/-- What a successful read returns is the time that the clock holds afterwards. It shows the word that was
read, and follows the time before where the clock was aligned. -/
theorem time_next_of_answer {clock : ReferenceClock} {action : ClockAction} {value time : UInt64}
    (hanswer : answer (machine.visit clock action) = some (value, time)) :
    (clock.next action).dcHighBitsAligned = true ∧ (clock.next action).time = value ∧
      lowWord value = lowWord time ∧
        (clock.dcHighBitsAligned = true →
          Follows lowWord shortAdvance clock.time (lowWord time) value) := by
  obtain ⟨systemTimeNs, rfl, hasks, rfl⟩ : ∃ systemTimeNs, action = .read true (some time) systemTimeNs ∧
      clock.backsOff = false ∧ (clock.read ⟨some time.toUInt32, systemTimeNs⟩).2 = value := by
    unfold answer at hanswer
    split at hanswer
    · rename_i trueTime systemTimeNs haction
      rw [machine.visit_action] at haction
      split_ifs at hanswer with hbacks
      rw [Option.some.injEq, Prod.mk.injEq] at hanswer
      obtain ⟨hvalue, rfl⟩ := hanswer
      exact ⟨systemTimeNs, haction, by simpa using hbacks, hvalue⟩
    · exact absurd hanswer (by simp)
  have hnext : clock.next (.read true (some time) systemTimeNs) =
      (clock.read ⟨some time.toUInt32, systemTimeNs⟩).1 := rfl
  rw [hnext, read_of_asks hasks]
  refine ⟨aligned_align _ systemTimeNs clock.countRetry, rfl, lowWord_time _, fun haligned => ?_⟩
  obtain ⟨htime, hkept⟩ := time_of_held (held_countRetry clock)
  rw [align, if_pos (hkept.trans haligned), ← htime]
  exact follows_extend time.toUInt32 clock.countRetry

theorem time_next_of_alignment {clock : ReferenceClock} {action : ClockAction} {baseNs : UInt64}
    (halignment : alignment (machine.visit clock action) = some baseNs) :
    (clock.next action).dcHighBitsAligned = true ∧ (clock.next action).time = baseNs := by
  cases action with
  | read activated trueTime systemTimeNs => exact absurd halignment (by simp [alignment])
  | alignDcTimeBase systemTimeNs =>
      have hbase : systemTimeNs = baseNs := Option.some.inj halignment
      rw [← hbase]
      exact ⟨rfl, time_alignTimeBase systemTimeNs clock⟩

/-! ### The time along a run -/

/-- As long as no other read got an answer, an aligned clock holds what the last one returned, or the base
of the last alignment. -/
def HoldsLast (config : ClockConfig) : Prop :=
  ∀ between earlier before, config.history = between ++ earlier :: before →
    (∀ visit ∈ between, isUnanswered visit = true) →
      (∀ value time, answer earlier = some (value, time) →
        config.state.dcHighBitsAligned = true ∧ config.state.time = value ∧
          lowWord value = lowWord time) ∧
        ∀ baseNs, alignment earlier = some baseNs →
          config.state.dcHighBitsAligned = true ∧ config.state.time = baseNs

theorem HoldsLast.advance {config : ClockConfig} (hholds : HoldsLast config) (action : ClockAction) :
    HoldsLast (machine.advance config action) := by
  intro between earlier before hsplit hunanswered
  rw [machine.advance_history] at hsplit
  cases between with
  | nil =>
      rw [List.nil_append, List.cons.injEq] at hsplit
      obtain ⟨rfl, -⟩ := hsplit
      refine ⟨fun value time hanswer => ?_, fun baseNs => time_next_of_alignment⟩
      obtain ⟨haligned, htime, hword, -⟩ := time_next_of_answer hanswer
      exact ⟨haligned, htime, hword⟩
  | cons visit between =>
      rw [List.cons_append, List.cons.injEq] at hsplit
      obtain ⟨rfl, hearlier⟩ := hsplit
      obtain ⟨hnow, hquiet⟩ := List.forall_mem_cons.mp hunanswered
      obtain ⟨htime, haligned⟩ := time_of_held (held_next hnow)
      obtain ⟨hread, hbase⟩ := hholds between earlier before hearlier hquiet
      change (∀ value time, _ → (config.state.next action).dcHighBitsAligned = true ∧
        (config.state.next action).time = value ∧ _) ∧ ∀ baseNs, _ →
          (config.state.next action).dcHighBitsAligned = true ∧
            (config.state.next action).time = baseNs
      rw [htime, haligned]
      exact ⟨hread, hbase⟩

/-- The window of a base holds one time with a given low word, and in 64 bits it follows the base. -/
theorem exists_inWindow {baseNs value : UInt64} {timeLow : UInt32}
    (hfollows : Follows lowWord shortAdvance baseNs timeLow value) :
    ∃ timeNs, InWindow baseNs timeLow timeNs ∧
      (∀ other, InWindow baseNs timeLow other → other = timeNs) ∧ value = UInt64.ofNat timeNs := by
  obtain ⟨hnear, hword⟩ := hfollows
  have hbase := baseNs.toNat_lt
  have hvalue := value.toNat_lt
  have hlow : value.toNat % 2 ^ 32 = timeLow.toNat := by
    rw [← hword, toNat_lowWord]
  change (value - baseNs).toNat < 2 ^ 32 at hnear
  have hsum : (baseNs.toNat + (value - baseNs).toNat) % 2 ^ 64 = value.toNat := by
    rw [UInt64.toNat_sub]
    omega
  refine ⟨baseNs.toNat + (value - baseNs).toNat, ⟨?_, ?_, ?_⟩, ?_, ?_⟩
  · omega
  · omega
  · omega
  · rintro other ⟨hle, hlt, hother⟩
    omega
  · refine UInt64.toNat_inj.mp ?_
    rw [UInt64.toNat_ofNat', hsum]

theorem Consecutive.cases_cons {later earlier visit : ClockVisit} {history : List ClockVisit}
    (hconsecutive : Consecutive later earlier (visit :: history)) :
    (later = visit ∧ ∃ between before, history = between ++ earlier :: before ∧
        ∀ visit ∈ between, isUnanswered visit = true) ∨
      Consecutive later earlier history := by
  obtain ⟨after, between, before, hsplit, hunanswered⟩ := hconsecutive
  cases after with
  | nil =>
      rw [List.nil_append, List.cons.injEq] at hsplit
      exact .inl ⟨hsplit.1.symm, between, before, hsplit.2, hunanswered⟩
  | cons newest after =>
      rw [List.cons_append, List.cons.injEq] at hsplit
      exact .inr ⟨after, between, before, hsplit.2, hunanswered⟩

theorem TimeContinuous.advance_config {config : ClockConfig} (hholds : HoldsLast config)
    (hcontinuous : TimeContinuous config.history) (action : ClockAction) :
    TimeContinuous (machine.advance config action).history := by
  constructor
  · intro later earlier hconsecutive value time value' time' hearlier hlater hadvance
    rcases hconsecutive.cases_cons with ⟨rfl, between, before, hsplit, hunanswered⟩ | hpast
    · obtain ⟨haligned, htime, hword⟩ := (hholds between earlier before hsplit hunanswered).1 _ _ hearlier
      have hfollows := (time_next_of_answer hlater).2.2.2 haligned
      rw [htime] at hfollows
      exact hfollows.sub_eq injOn_lowWord hword hadvance
    · exact hcontinuous.advance hpast hearlier hlater hadvance
  · intro later earlier hconsecutive baseNs value time hearlier hlater
    rcases hconsecutive.cases_cons with ⟨rfl, between, before, hsplit, hunanswered⟩ | hpast
    · obtain ⟨haligned, htime⟩ := (hholds between earlier before hsplit hunanswered).2 _ hearlier
      have hfollows := (time_next_of_answer hlater).2.2.2 haligned
      rw [htime] at hfollows
      exact exists_inWindow hfollows
    · exact hcontinuous.aligned hpast hearlier hlater

/-- **The reference time is continuous** along every run of reads and alignments, from any state of the
clock. -/
theorem reference_time_continuous (clock : ReferenceClock) (actions : List ClockAction) :
    TimeContinuous (machine.exec (Config.start clock) actions).history := by
  have hstart : HoldsLast (Config.start clock) ∧
      TimeContinuous (Config.start clock : ClockConfig).history := by
    refine ⟨fun between earlier before hsplit => by simp at hsplit, ?_, ?_⟩ <;>
      (rintro later earlier ⟨after, between, before, hsplit, -⟩
       simp at hsplit)
  have hstep : ∀ config action, HoldsLast config ∧ TimeContinuous config.history →
      HoldsLast (machine.advance config action) ∧
        TimeContinuous (machine.advance config action).history :=
    fun config action h => ⟨h.1.advance action, h.2.advance_config h.1 action⟩
  exact (machine.exec_invariant hstep actions hstart).2

/-- A word below the last one is of the next 32 bits. -/
example : ((({} : ReferenceClock).alignTimeBase 0x1FFFFFFFF).extend 5).time = 0x200000005 := by decide

end IghMaster.ReferenceClock
