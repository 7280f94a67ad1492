import IghMaster.TimingThread

/-!
# Deadlines of the timing thread

The deadline lies ahead of the clock except where many slots were missed and the clock is within a
period of its greatest value: there the sum wraps around.
-/

namespace IghMaster

open Slots

theorem toNat_uint64MaxWord : uint64MaxWord.toNat = 2 ^ 64 - 1 := by decide

theorem toNat_add_of_lt {first second : UInt64} (hfits : first.toNat + second.toNat < 2 ^ 64) :
    (first + second).toNat = first.toNat + second.toNat := by
  rw [UInt64.toNat_add, Nat.mod_eq_of_lt hfits]

theorem uint64Max_sub_lt_iff (scheduledNs periodNs : UInt64) :
    uint64MaxWord - periodNs < scheduledNs ↔ 2 ^ 64 ≤ scheduledNs.toNat + periodNs.toNat := by
  have hperiod := periodNs.toNat_lt
  have hle : periodNs ≤ uint64MaxWord := by
    rw [UInt64.le_iff_toNat_le, toNat_uint64MaxWord]
    omega
  rw [UInt64.lt_iff_toNat_lt, UInt64.toNat_sub_of_le _ _ hle, toNat_uint64MaxWord]
  omega

section Deadline

variable {scheduledNs nowNs periodNs : UInt64}

theorem toNat_pos_of_ne_zero (hperiod : periodNs ≠ 0) : 0 < periodNs.toNat := by
  rw [Nat.pos_iff_ne_zero]
  exact fun hzero => hperiod (UInt64.toNat_inj.mp hzero)

/-- The count leaves the slot out that every deadline is ahead by, and never goes below zero. -/
theorem toNat_skippedSlotsBetween (hperiod : periodNs ≠ 0) (previousNs nextNs : UInt64) :
    (skippedSlotsBetween previousNs nextNs periodNs).toNat =
      (nextNs.toNat - previousNs.toNat) / periodNs.toNat - 1 := by
  have hpositive := toNat_pos_of_ne_zero hperiod
  unfold skippedSlotsBetween
  dsimp only
  split_ifs with hnone hdelta
  · have hle : nextNs.toNat ≤ previousNs.toNat :=
      UInt64.le_iff_toNat_le.mp (hnone.resolve_left hperiod)
    rw [Nat.sub_eq_zero_of_le hle, Nat.zero_div]
    rfl
  · have hle : previousNs ≤ nextNs := UInt64.le_of_lt (UInt64.not_le.mp fun h => hnone (.inr h))
    rw [UInt64.le_iff_toNat_le, UInt64.toNat_sub_of_le _ _ hle] at hdelta
    have hquotient : (nextNs.toNat - previousNs.toNat) / periodNs.toNat ≤
        periodNs.toNat / periodNs.toNat := Nat.div_le_div_right hdelta
    rw [Nat.div_self hpositive] at hquotient
    change 0 = _
    omega
  · have hle : previousNs ≤ nextNs := UInt64.le_of_lt (UInt64.not_le.mp fun h => hnone (.inr h))
    have hsub := UInt64.toNat_sub_of_le _ _ hle
    rw [UInt64.le_iff_toNat_le, hsub, not_le] at hdelta
    have hquotient : 1 ≤ (nextNs.toNat - previousNs.toNat) / periodNs.toNat :=
      (Nat.one_le_div_iff hpositive).mpr hdelta.le
    have hone : (1 : UInt64) ≤ (nextNs - previousNs) / periodNs := by
      rw [UInt64.le_iff_toNat_le, UInt64.toNat_div, hsub]
      exact hquotient
    rw [UInt64.toNat_sub_of_le _ _ hone, UInt64.toNat_div, hsub]
    rfl

/-! ### The three ways to a deadline -/

theorem nextCycleDeadline_of_unrepresentable
    (hsum : 2 ^ 64 ≤ scheduledNs.toNat + periodNs.toNat) :
    nextCycleDeadline scheduledNs nowNs periodNs = uint64MaxWord :=
  if_pos (.inr ((uint64Max_sub_lt_iff scheduledNs periodNs).mpr hsum))

theorem skipped_eq (hperiod : periodNs ≠ 0)
    (hsum : scheduledNs.toNat + periodNs.toNat < 2 ^ 64)
    (hle : scheduledNs + periodNs ≤ nowNs) :
    ((nowNs - (scheduledNs + periodNs)) / periodNs + 1).toNat =
      missedSlots scheduledNs nowNs periodNs := by
  have hpositive := toNat_pos_of_ne_zero hperiod
  have hnext := toNat_add_of_lt hsum
  have hreached : scheduledNs.toNat + periodNs.toNat ≤ nowNs.toNat := by
    rw [← hnext]
    exact UInt64.le_iff_toNat_le.mp hle
  rw [missedSlots, passed_next hpositive hreached, passed_eq hpositive]
  have hquotient := Nat.div_le_self (nowNs.toNat - (scheduledNs.toNat + periodNs.toNat)) periodNs.toNat
  have hnow := nowNs.toNat_lt
  have hdiv : ((nowNs - (scheduledNs + periodNs)) / periodNs).toNat =
      (nowNs.toNat - (scheduledNs.toNat + periodNs.toNat)) / periodNs.toNat := by
    rw [UInt64.toNat_div, UInt64.toNat_sub_of_le _ _ hle, hnext]
  rw [UInt64.toNat_add, hdiv]
  exact Nat.mod_eq_of_lt (by change _ + 1 < _; omega)

/-- Before the first slot has passed the deadline is that slot. -/
theorem nextCycleDeadline_of_lt (hperiod : periodNs ≠ 0)
    (hsum : scheduledNs.toNat + periodNs.toNat < 2 ^ 64) (hlt : nowNs < scheduledNs + periodNs) :
    nextCycleDeadline scheduledNs nowNs periodNs = scheduledNs + periodNs := by
  have hchecked : ¬ (periodNs = 0 ∨ uint64MaxWord - periodNs < scheduledNs) := by
    rw [uint64Max_sub_lt_iff]
    exact not_or.mpr ⟨hperiod, by omega⟩
  rw [nextCycleDeadline, if_neg hchecked]
  exact if_pos hlt

theorem nextCycleDeadline_of_le (hperiod : periodNs ≠ 0)
    (hsum : scheduledNs.toNat + periodNs.toNat < 2 ^ 64) (hle : scheduledNs + periodNs ≤ nowNs) :
    nextCycleDeadline scheduledNs nowNs periodNs =
      if kMaxCatchUpSlots < (nowNs - (scheduledNs + periodNs)) / periodNs + 1 then nowNs + periodNs
      else if (uint64MaxWord - (scheduledNs + periodNs)) / periodNs <
          (nowNs - (scheduledNs + periodNs)) / periodNs + 1 then uint64MaxWord
      else scheduledNs + periodNs +
        ((nowNs - (scheduledNs + periodNs)) / periodNs + 1) * periodNs := by
  have hchecked : ¬ (periodNs = 0 ∨ uint64MaxWord - periodNs < scheduledNs) := by
    rw [uint64Max_sub_lt_iff]
    exact not_or.mpr ⟨hperiod, by omega⟩
  rw [nextCycleDeadline, if_neg hchecked]
  exact if_neg (UInt64.not_lt.mpr hle)

theorem missedSlots_of_lt (hperiod : periodNs ≠ 0)
    (hsum : scheduledNs.toNat + periodNs.toNat < 2 ^ 64) (hlt : nowNs < scheduledNs + periodNs) :
    missedSlots scheduledNs nowNs periodNs = 0 := by
  rw [UInt64.lt_iff_toNat_lt, toNat_add_of_lt hsum] at hlt
  exact passed_of_lt (toNat_pos_of_ne_zero hperiod) hlt

theorem kMaxCatchUpSlots_lt_iff (skipped : UInt64) :
    kMaxCatchUpSlots < skipped ↔ 16 < skipped.toNat := UInt64.lt_iff_toNat_lt

/-- With few missed slots the deadline is the next slot, or the greatest word where that slot has no
representation. -/
theorem nextCycleDeadline_of_few (hperiod : periodNs ≠ 0)
    (hsum : scheduledNs.toNat + periodNs.toNat < 2 ^ 64)
    (hfew : missedSlots scheduledNs nowNs periodNs ≤ 16) :
    (nextSlot scheduledNs nowNs periodNs < 2 ^ 64 ∧
        (nextCycleDeadline scheduledNs nowNs periodNs).toNat =
          nextSlot scheduledNs nowNs periodNs) ∨
      (2 ^ 64 ≤ nextSlot scheduledNs nowNs periodNs ∧
        nextCycleDeadline scheduledNs nowNs periodNs = uint64MaxWord) := by
  have hnext := toNat_add_of_lt hsum
  by_cases hlt : nowNs < scheduledNs + periodNs
  · have hslot : nextSlot scheduledNs nowNs periodNs = scheduledNs.toNat + periodNs.toNat := by
      rw [nextSlot, missedSlots_of_lt hperiod hsum hlt, slot, Nat.zero_add, Nat.one_mul]
    rw [nextCycleDeadline_of_lt hperiod hsum hlt, hslot, hnext]
    exact .inl ⟨hsum, rfl⟩
  · have hle := UInt64.not_lt.mp hlt
    have hskipped := skipped_eq hperiod hsum hle
    have hslot : nextSlot scheduledNs nowNs periodNs = scheduledNs.toNat + periodNs.toNat +
        missedSlots scheduledNs nowNs periodNs * periodNs.toNat := slot_succ _
    rw [nextCycleDeadline_of_le hperiod hsum hle]
    generalize (nowNs - (scheduledNs + periodNs)) / periodNs + 1 = skipped at hskipped ⊢
    rw [if_neg (by rw [kMaxCatchUpSlots_lt_iff]; omega)]
    have hroom : (uint64MaxWord - (scheduledNs + periodNs)) / periodNs < skipped ↔
        2 ^ 64 ≤ nextSlot scheduledNs nowNs periodNs := by
      have hmax : scheduledNs + periodNs ≤ uint64MaxWord := by
        rw [UInt64.le_iff_toNat_le, toNat_uint64MaxWord]
        omega
      rw [UInt64.lt_iff_toNat_lt, UInt64.toNat_div, UInt64.toNat_sub_of_le _ _ hmax, hnext, hskipped,
        toNat_uint64MaxWord, Nat.div_lt_iff_lt_mul (toNat_pos_of_ne_zero hperiod), hslot]
      omega
    split_ifs with hoverflow
    · exact .inr ⟨hroom.mp hoverflow, rfl⟩
    · have hfits := not_le.mp (mt hroom.mpr hoverflow)
      refine .inl ⟨hfits, ?_⟩
      rw [hslot] at hfits ⊢
      rw [UInt64.toNat_add, UInt64.toNat_mul, hnext, hskipped, Nat.add_mod_mod]
      exact Nat.mod_eq_of_lt hfits

/-- With many missed slots the deadline is a period ahead of the clock, in 64 bits. -/
theorem nextCycleDeadline_of_many (hperiod : periodNs ≠ 0)
    (hsum : scheduledNs.toNat + periodNs.toNat < 2 ^ 64)
    (hmany : 16 < missedSlots scheduledNs nowNs periodNs) :
    nextCycleDeadline scheduledNs nowNs periodNs = nowNs + periodNs := by
  by_cases hlt : nowNs < scheduledNs + periodNs
  · rw [missedSlots_of_lt hperiod hsum hlt] at hmany
    omega
  · have hle := UInt64.not_lt.mp hlt
    rw [nextCycleDeadline_of_le hperiod hsum hle]
    refine if_pos ?_
    rw [kMaxCatchUpSlots_lt_iff, skipped_eq hperiod hsum hle]
    exact hmany

/-! ### Deadlines ahead -/

theorem deadlineAhead_nextSlot (hperiod : periodNs ≠ 0)
    (hfew : missedSlots scheduledNs nowNs periodNs ≤ 16) {deadlineNs : UInt64}
    (hslot : deadlineNs.toNat = nextSlot scheduledNs nowNs periodNs) :
    DeadlineAhead scheduledNs nowNs periodNs deadlineNs := by
  have hpositive := toNat_pos_of_ne_zero hperiod
  have hsub : deadlineNs.toNat - scheduledNs.toNat =
      (missedSlots scheduledNs nowNs periodNs + 1) * periodNs.toNat := by
    rw [hslot]
    exact slot_sub_start _
  refine ⟨?_, ?_, fun hle => ?_, fun _ => ⟨?_, ?_⟩, fun hmany => by omega⟩
  · rw [UInt64.lt_iff_toNat_lt, hslot]
    exact lt_slot_passed_succ hpositive
  · rw [UInt64.lt_iff_toNat_lt, hslot]
    exact start_lt_slot_succ hpositive _
  · rw [hslot]
    exact slot_passed_succ_le hpositive (UInt64.le_iff_toNat_le.mp hle)
  · rw [hsub]
    exact Nat.dvd_mul_left _ _
  · rw [toNat_skippedSlotsBetween hperiod, hsub, Nat.mul_div_cancel _ hpositive, Nat.add_sub_cancel]

theorem deadlineAhead_now (hperiod : periodNs ≠ 0)
    (hmany : 16 < missedSlots scheduledNs nowNs periodNs)
    (hfits : nowNs.toNat + periodNs.toNat < 2 ^ 64) :
    DeadlineAhead scheduledNs nowNs periodNs (nowNs + periodNs) := by
  have hpositive := toNat_pos_of_ne_zero hperiod
  have hdeadline := toNat_add_of_lt hfits
  have hbehind : scheduledNs.toNat < nowNs.toNat := by
    by_contra hle
    rw [missedSlots, passed_eq hpositive, Nat.sub_eq_zero_of_le (not_lt.mp hle), Nat.zero_div] at hmany
    omega
  refine ⟨?_, ?_, fun _ => hdeadline.le, fun hfew => by omega, fun _ => ?_⟩
  · rw [UInt64.lt_iff_toNat_lt, hdeadline]
    omega
  · rw [UInt64.lt_iff_toNat_lt, hdeadline]
    omega
  · have hsplit : nowNs.toNat + periodNs.toNat - scheduledNs.toNat =
        nowNs.toNat - scheduledNs.toNat + periodNs.toNat := by omega
    rw [toNat_skippedSlotsBetween hperiod, hdeadline, hsplit, Nat.add_div_right _ hpositive,
      Nat.succ_sub_one]

/-- A sum that wraps around is behind the clock, and is not the greatest word either. -/
theorem not_deadlineValid_wrapped (hwraps : 2 ^ 64 ≤ nowNs.toNat + periodNs.toNat) :
    ¬ DeadlineValid scheduledNs nowNs periodNs (nowNs + periodNs) := by
  have hnow := nowNs.toNat_lt
  have hperiod := periodNs.toNat_lt
  have hdeadline : (nowNs + periodNs).toNat = nowNs.toNat + periodNs.toNat - 2 ^ 64 := by
    rw [UInt64.toNat_add, Nat.mod_eq_sub_mod hwraps, Nat.mod_eq_of_lt (by omega)]
  rintro (⟨hmax, -⟩ | hahead)
  · rw [hmax, toNat_uint64MaxWord] at hdeadline
    omega
  · have hlt := UInt64.lt_iff_toNat_lt.mp hahead.now_lt
    omega

/-- A thread that keeps up goes on to the next slot and counts those that it missed. -/
theorem nextCycleDeadline_of_fits (hperiod : periodNs ≠ 0)
    (hfew : missedSlots scheduledNs nowNs periodNs ≤ 16)
    (hfits : nextSlot scheduledNs nowNs periodNs < 2 ^ 64) :
    (nextCycleDeadline scheduledNs nowNs periodNs).toNat = nextSlot scheduledNs nowNs periodNs ∧
      (skippedSlotsBetween scheduledNs (nextCycleDeadline scheduledNs nowNs periodNs)
        periodNs).toNat = missedSlots scheduledNs nowNs periodNs := by
  have hsum : scheduledNs.toNat + periodNs.toNat < 2 ^ 64 := by
    have hone : periodNs.toNat ≤ (missedSlots scheduledNs nowNs periodNs + 1) * periodNs.toNat :=
      Nat.le_mul_of_pos_left _ (Nat.succ_pos _)
    rw [nextSlot, slot] at hfits
    omega
  rcases nextCycleDeadline_of_few hperiod hsum hfew with ⟨-, hslot⟩ | ⟨hslot, -⟩
  · exact ⟨hslot, ((deadlineAhead_nextSlot hperiod hfew hslot).few hfew).2⟩
  · exact absurd hfits (not_lt.mpr hslot)

end Deadline

/-- **The next deadline is in the future and the skip count matches it**, except where the first slot
has a representation, more than sixteen were missed and the clock is less than a period from the end
of its range. -/
theorem next_deadline_valid_iff (scheduledNs nowNs periodNs : UInt64) (hperiod : periodNs ≠ 0) :
    DeadlineValid scheduledNs nowNs periodNs (nextCycleDeadline scheduledNs nowNs periodNs) ↔
      2 ^ 64 ≤ scheduledNs.toNat + periodNs.toNat ∨
        missedSlots scheduledNs nowNs periodNs ≤ 16 ∨ nowNs.toNat + periodNs.toNat < 2 ^ 64 := by
  by_cases hsum : 2 ^ 64 ≤ scheduledNs.toNat + periodNs.toNat
  · refine iff_of_true (.inl ⟨nextCycleDeadline_of_unrepresentable hsum, ?_⟩) (.inl hsum)
    have hslots : periodNs.toNat ≤
        (missedSlots scheduledNs nowNs periodNs + 1) * periodNs.toNat :=
      Nat.le_mul_of_pos_left _ (Nat.succ_pos _)
    rw [nextSlot, slot]
    omega
  have hfirst := not_le.mp hsum
  by_cases hfew : missedSlots scheduledNs nowNs periodNs ≤ 16
  · refine iff_of_true ?_ (.inr (.inl hfew))
    rcases nextCycleDeadline_of_few hperiod hfirst hfew with ⟨-, hslot⟩ | ⟨hslot, hmax⟩
    · exact .inr (deadlineAhead_nextSlot hperiod hfew hslot)
    · exact .inl ⟨hmax, hslot⟩
  rw [nextCycleDeadline_of_many hperiod hfirst (not_le.mp hfew)]
  by_cases hfits : nowNs.toNat + periodNs.toNat < 2 ^ 64
  · exact iff_of_true (.inr (deadlineAhead_now hperiod (not_le.mp hfew) hfits)) (.inr (.inr hfits))
  · refine iff_of_false (not_deadlineValid_wrapped (not_lt.mp hfits)) ?_
    rintro (hunrepresentable | hmissed | hclock)
    · exact hsum hunrepresentable
    · exact hfew hmissed
    · exact hfits hclock

theorem next_deadline_valid_two_missed :
    DeadlineValid 1000000 3500000 1000000 (nextCycleDeadline 1000000 3500000 1000000) :=
  (next_deadline_valid_iff 1000000 3500000 1000000 (by decide)).mpr (.inr (.inr (by decide)))

/-- The clock is at the end of its range, and the scheduled wake-up at the beginning. -/
theorem next_deadline_behind_clock :
    nextCycleDeadline 0 0xFFFFFFFFFFFFFFFF 1000000 = 999999 ∧
      ¬ DeadlineValid 0 0xFFFFFFFFFFFFFFFF 1000000
        (nextCycleDeadline 0 0xFFFFFFFFFFFFFFFF 1000000) := by
  have hdeadline : nextCycleDeadline 0 0xFFFFFFFFFFFFFFFF 1000000 =
      0xFFFFFFFFFFFFFFFF + 1000000 := by decide
  refine ⟨by rw [hdeadline]; decide, ?_⟩
  rw [hdeadline]
  exact not_deadlineValid_wrapped (by decide)

/-! ### From one deadline to the next -/

namespace TimingLoop

open Transition

variable {cycleNs firstNs : UInt64}

theorem toNat_skippedSlots_wakeUp {loop : TimingLoop} {nowNs : UInt64} {missed : Nat}
    (hskipped : (skippedSlotsBetween loop.scheduledWakeupNs
      (nextCycleDeadline loop.scheduledWakeupNs nowNs cycleNs) cycleNs).toNat = missed)
    (hfits : loop.skippedSlots.toNat + missed < 2 ^ 64) :
    (loop.wakeUp cycleNs nowNs).skippedSlots.toNat = loop.skippedSlots.toNat + missed := by
  unfold wakeUp
  dsimp only
  split_ifs with hsome
  · rw [← hskipped] at hfits ⊢
    exact toNat_add_of_lt hfits
  · rw [UInt64.lt_iff_toNat_lt, hskipped] at hsome
    change ¬ 0 < missed at hsome
    omega

theorem slotsCounted_wakeUp (hcycle : cycleNs ≠ 0) {loop : TimingLoop}
    (hcounted : loop.SlotsCounted cycleNs firstNs) {nowNs : UInt64}
    (hmissed : missedSlots loop.scheduledWakeupNs nowNs cycleNs ≤ 16)
    (hfits : nextSlot loop.scheduledWakeupNs nowNs cycleNs < 2 ^ 64) :
    (loop.wakeUp cycleNs nowNs).SlotsCounted cycleNs firstNs := by
  obtain ⟨hslot, hskipped⟩ := nextCycleDeadline_of_fits hcycle hmissed hfits
  generalize hm : missedSlots loop.scheduledWakeupNs nowNs cycleNs = missed at hskipped
  have hnext : nextSlot loop.scheduledWakeupNs nowNs cycleNs =
      slot firstNs.toNat cycleNs.toNat
        (loop.timingTick.toNat + loop.skippedSlots.toNat + (missed + 1)) := by
    rw [nextSlot, hm, hcounted, slot, slot, slot, Nat.add_mul _ (missed + 1), Nat.add_assoc]
  -- the counters are bounded by the slots, so that they do not wrap around
  have hcount : loop.timingTick.toNat + loop.skippedSlots.toNat + (missed + 1) < 2 ^ 64 := by
    have hcycles := Nat.le_mul_of_pos_right
      (loop.timingTick.toNat + loop.skippedSlots.toNat + (missed + 1)) (toNat_pos_of_ne_zero hcycle)
    rw [hnext, slot] at hfits
    omega
  have hticks : (loop.timingTick + 1).toNat = loop.timingTick.toNat + 1 :=
    toNat_add_of_lt (by change _ + 1 < _; omega)
  have hskips := toNat_skippedSlots_wakeUp hskipped (by omega)
  calc (loop.wakeUp cycleNs nowNs).scheduledWakeupNs.toNat
      = nextSlot loop.scheduledWakeupNs nowNs cycleNs := hslot
    _ = slot firstNs.toNat cycleNs.toNat
          (loop.timingTick.toNat + loop.skippedSlots.toNat + (missed + 1)) := hnext
    _ = slot firstNs.toNat cycleNs.toNat ((loop.timingTick + 1).toNat +
          (loop.wakeUp cycleNs nowNs).skippedSlots.toNat) := by
        congr 1
        rw [hticks, hskips]
        omega

/-- A thread that keeps up publishes or counts every slot since its first. -/
theorem slotsCounted_of_keepsUp (hcycle : cycleNs ≠ 0) (startNs : UInt64) (nows : List UInt64)
    (hkeeps : (machine cycleNs).Meets (KeepsUp cycleNs) (Config.start (begin cycleNs startNs)) nows) :
    ((machine cycleNs).exec (Config.start (begin cycleNs startNs)) nows).state.SlotsCounted cycleNs
      (startNs + cycleNs) := by
  have hstart : (begin cycleNs startNs).SlotsCounted cycleNs (startNs + cycleNs) := by
    change (startNs + cycleNs).toNat = slot _ _ 0
    rw [slot, Nat.zero_mul, Nat.add_zero]
  have hstep : ∀ config nowNs, config.state.SlotsCounted cycleNs (startNs + cycleNs) →
      KeepsUp cycleNs config nowNs →
        ((machine cycleNs).advance config nowNs).state.SlotsCounted cycleNs (startNs + cycleNs) :=
    fun config nowNs hcounted hnow => slotsCounted_wakeUp hcycle hcounted hnow.1 hnow.2
  exact (machine cycleNs).exec_invariant_of_meets hstep hstart hkeeps

end TimingLoop

end IghMaster
