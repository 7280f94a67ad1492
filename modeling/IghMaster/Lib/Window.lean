import Mathlib.Tactic.Common

/-!
# Trailing runs and windows

Observations are kept newest first. A trailing run is how many of the newest ones hold in a row, a
window is the newest so many of them. A ring of as many slots as the window has, whose cursor goes
round, holds exactly the window; the slot under the cursor is the observation that leaves it next.
-/

universe u

namespace Window

/-- How many of the newest observations hold in a row. -/
def trailing (observed : List Bool) : Nat := (observed.takeWhile id).length

@[simp]
theorem trailing_nil : trailing [] = 0 := rfl

@[simp]
theorem trailing_cons_true (observed : List Bool) :
    trailing (true :: observed) = trailing observed + 1 := rfl

@[simp]
theorem trailing_cons_false (observed : List Bool) : trailing (false :: observed) = 0 := rfl

/-- So many observations in a row hold, wherever among them. -/
def HasBlock (count : Nat) (observed : List Bool) : Prop :=
  List.IsInfix (List.replicate count true) observed

theorem replicate_isPrefix_iff (count : Nat) (observed : List Bool) :
    List.IsPrefix (List.replicate count true) observed ↔ count ≤ trailing observed := by
  induction count generalizing observed with
  | zero => simp
  | succ count ih =>
      cases observed with
      | nil => simp [List.replicate_succ]
      | cons first rest =>
          rw [List.replicate_succ, List.cons_prefix_cons, ih]
          cases first with
          | false => simp
          | true => simp

/-- A block among the observations is one of the newest, or one of those before. -/
theorem hasBlock_cons (count : Nat) (observation : Bool) (observed : List Bool) :
    HasBlock count (observation :: observed) ↔
      count ≤ trailing (observation :: observed) ∨ HasBlock count observed := by
  unfold HasBlock
  rw [List.infix_cons_iff, replicate_isPrefix_iff]

theorem hasBlock_of_le_trailing {count : Nat} {observed : List Bool}
    (hle : count ≤ trailing observed) : HasBlock count observed :=
  ((replicate_isPrefix_iff count observed).mpr hle).isInfix

theorem not_hasBlock_nil {count : Nat} (hcount : 1 ≤ count) : ¬ HasBlock count [] := by
  intro hblock
  have hempty := List.infix_nil.mp hblock
  rw [List.replicate_eq_nil_iff] at hempty
  omega

/-- How many of the newest `size` observations hold. -/
def recent (size : Nat) (observed : List Bool) : Nat := (observed.take size).count true

@[simp]
theorem recent_nil (size : Nat) : recent size [] = 0 := by simp [recent]

/-- The observation that leaves a window of the given size when another one comes. -/
def leaving (size : Nat) (observed : List Bool) : Bool := observed.getD (size - 1) false

theorem recent_succ (size : Nat) (observed : List Bool) :
    recent (size + 1) observed =
      recent size observed + if observed.getD size false then 1 else 0 := by
  induction observed generalizing size with
  | nil => simp
  | cons first rest ih =>
      cases size with
      | zero => cases first <;> simp [recent]
      | succ size =>
          have hrest := ih size
          unfold recent at hrest ⊢
          rw [List.take_succ_cons, List.take_succ_cons, List.count_cons, List.count_cons, hrest,
            List.getD_cons_succ]
          omega

/-- A window that takes in an observation loses the one that leaves it. -/
theorem recent_cons {size : Nat} (hsize : 1 ≤ size) (anomaly : Bool) (observed : List Bool) :
    recent size (anomaly :: observed) =
      (recent size observed - if leaving size observed then 1 else 0) +
        if anomaly then 1 else 0 := by
  obtain ⟨size, rfl⟩ := Nat.exists_eq_add_of_le' hsize
  rw [recent_succ size observed]
  have hcons : recent (size + 1) (anomaly :: observed) =
      recent size observed + if anomaly then 1 else 0 := by
    unfold recent
    rw [List.take_succ_cons, List.count_cons]
    cases anomaly <;> rfl
  rw [hcons, leaving, Nat.add_sub_cancel, Nat.add_sub_cancel]

theorem leaving_le_recent {size : Nat} (hsize : 1 ≤ size) (observed : List Bool) :
    (if leaving size observed then 1 else 0) ≤ recent size observed := by
  obtain ⟨size, rfl⟩ := Nat.exists_eq_add_of_le' hsize
  rw [recent_succ size observed, leaving, Nat.add_sub_cancel]
  exact Nat.le_add_left _ _

/-! ### Counting in an unbroken window -/

variable {Event : Type u} {counts keeps : Event → Bool} {count : Nat} {events : List Event}

/-- Among the newest events, none of which breaks the condition, so many are counted. -/
def Counted (counts keeps : Event → Bool) (count : Nat) (events : List Event) : Prop :=
  ∃ newest older, events = newest ++ older ∧ count ≤ newest.countP counts ∧
    ∀ event ∈ newest, keeps event = true

theorem counted_zero (counts keeps : Event → Bool) (events : List Event) :
    Counted counts keeps 0 events :=
  ⟨[], events, rfl, Nat.zero_le _, fun _ h => absurd h List.not_mem_nil⟩

theorem Counted.mono (hcounted : Counted counts keeps count events) {fewer : Nat}
    (hle : fewer ≤ count) : Counted counts keeps fewer events := by
  obtain ⟨newest, older, hevents, hcount, hkeeps⟩ := hcounted
  exact ⟨newest, older, hevents, Nat.le_trans hle hcount, hkeeps⟩

theorem Counted.cons (hcounted : Counted counts keeps count events) {event : Event}
    (hkept : keeps event = true) :
    Counted counts keeps (count + if counts event then 1 else 0) (event :: events) := by
  obtain ⟨newest, older, rfl, hcount, hkeeps⟩ := hcounted
  refine ⟨event :: newest, older, rfl, ?_, ?_⟩
  · rw [List.countP_cons]
    omega
  · rw [List.forall_mem_cons]
    exact ⟨hkept, hkeeps⟩

/-- The widest unbroken window counts the most. -/
theorem Counted.le_takeWhile (hcounted : Counted counts keeps count events) :
    count ≤ (events.takeWhile keeps).countP counts := by
  obtain ⟨newest, older, rfl, hcount, hkeeps⟩ := hcounted
  rw [List.takeWhile_append_of_pos hkeeps, List.countP_append]
  omega

/-! ### A ring of slots -/

/-- The age of the observation in a slot: how many were taken in after it. -/
def age (size count slot : Nat) : Nat := (count + size - 1 - slot) % size

/-- The slots hold the newest observations, each where the cursor was when it came. -/
structure Ring (size : Nat) (slots : Nat → Bool) (cursor : Nat) (observed : List Bool) : Prop where
  cursor_eq : cursor = observed.length % size
  slot_eq : ∀ slot, slot < size → slots slot = observed.getD (age size observed.length slot) false

variable {size cursor : Nat} {slots : Nat → Bool} {observed : List Bool}

theorem ring_nil (hempty : ∀ slot, slot < size → slots slot = false) : Ring size slots 0 [] :=
  ⟨(Nat.zero_mod size).symm, fun slot hslot => by rw [hempty slot hslot, List.getD_nil]⟩

theorem Ring.cursor_lt (hring : Ring size slots cursor observed) (hsize : 1 ≤ size) :
    cursor < size := by
  rw [hring.cursor_eq]
  exact Nat.mod_lt _ hsize

theorem age_cursor (hsize : 1 ≤ size) (count : Nat) : age size count (count % size) = size - 1 := by
  have hdiv := Nat.div_add_mod count size
  have hlt := Nat.mod_lt count hsize
  unfold age
  have hsplit : count + size - 1 - count % size = (size - 1) + size * (count / size) := by omega
  rw [hsplit, Nat.add_mul_mod_self_left, Nat.mod_eq_of_lt (by omega)]

theorem age_succ (hsize : 1 ≤ size) {count slot : Nat} (hslot : slot < size)
    (hother : slot ≠ count % size) : age size (count + 1) slot = age size count slot + 1 := by
  have hlt := Nat.mod_lt (count + size - 1 - slot) hsize
  have hsucc : count + 1 + size - 1 - slot = (count + size - 1 - slot) + 1 := by omega
  have hbound : (count + size - 1 - slot) % size + 1 < size := by
    by_contra hnot
    have hlast : (count + size - 1 - slot) % size = size - 1 := by omega
    have hdiv := Nat.div_add_mod (count + size - 1 - slot) size
    rw [hlast] at hdiv
    have hslotEq : count = slot + size * ((count + size - 1 - slot) / size) := by omega
    apply hother
    rw [hslotEq, Nat.add_mul_mod_self_left, Nat.mod_eq_of_lt hslot]
  unfold age
  rw [hsucc, Nat.add_mod, Nat.mod_eq_of_lt (show 1 < size by omega), Nat.mod_eq_of_lt hbound]

theorem Ring.slot_cursor (hring : Ring size slots cursor observed) (hsize : 1 ≤ size) :
    slots cursor = leaving size observed := by
  rw [hring.slot_eq cursor (hring.cursor_lt hsize), hring.cursor_eq, age_cursor hsize, leaving]

/-- The next observation goes to the slot under the cursor, which moves on. -/
theorem Ring.push (hring : Ring size slots cursor observed) (hsize : 1 ≤ size) (anomaly : Bool)
    {after : Nat → Bool} (hcursor : after cursor = anomaly)
    (hkept : ∀ slot, slot < size → slot ≠ cursor → after slot = slots slot) :
    Ring size after ((cursor + 1) % size) (anomaly :: observed) := by
  refine ⟨?_, fun slot hslot => ?_⟩
  · rw [List.length_cons, hring.cursor_eq, Nat.mod_add_mod]
  · rw [List.length_cons]
    by_cases hhere : slot = cursor
    · have hzero : age size (observed.length + 1) cursor = 0 := by
        have hdiv := Nat.div_add_mod observed.length size
        have hlt := Nat.mod_lt observed.length hsize
        unfold age
        rw [hring.cursor_eq]
        have hsplit : observed.length + 1 + size - 1 - observed.length % size =
            size + size * (observed.length / size) := by omega
        rw [hsplit, Nat.add_mul_mod_self_left, Nat.mod_self]
      rw [hhere, hcursor, hzero, List.getD_cons_zero]
    · rw [hkept slot hslot hhere, hring.slot_eq slot hslot,
        age_succ hsize hslot (hring.cursor_eq ▸ hhere), List.getD_cons_succ]

end Window
