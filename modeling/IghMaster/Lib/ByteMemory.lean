import Mathlib.Data.List.GetD
import Mathlib.Data.Set.Defs
import Mathlib.Tactic.Common
import Mathlib.Tactic.Ring

/-!
# A memory of bytes

Words are kept as little-endian runs of bytes. A store puts such a run at an address; stores that are
apart from one another can be made in any order, and each leaves its bytes to be loaded.
-/

namespace ByteMemory

/-! ### Words as bytes -/

/-- The bytes of a value, the least significant first. -/
def toBytes : Nat → Nat → List UInt8
  | 0, _ => []
  | count + 1, value => UInt8.ofNat value :: toBytes count (value / 256)

def ofBytes : List UInt8 → Nat
  | [] => 0
  | byte :: bytes => byte.toNat + 256 * ofBytes bytes

@[simp]
theorem length_toBytes (count value : Nat) : (toBytes count value).length = count := by
  induction count generalizing value with
  | zero => rfl
  | succ count ih => rw [toBytes, List.length_cons, ih]

theorem ofBytes_toBytes (count value : Nat) :
    ofBytes (toBytes count value) = value % 256 ^ count := by
  induction count generalizing value with
  | zero => rw [toBytes, ofBytes, pow_zero, Nat.mod_one]
  | succ count ih =>
      have hbyte : (UInt8.ofNat value).toNat = value % 256 := UInt8.toNat_ofNat'
      rw [toBytes, ofBytes, ih, hbyte, pow_succ', Nat.mod_mul]

theorem ofBytes_toBytes_of_lt {count value : Nat} (hlt : value < 256 ^ count) :
    ofBytes (toBytes count value) = value := by
  rw [ofBytes_toBytes, Nat.mod_eq_of_lt hlt]

theorem toBytes_zero (count : Nat) : toBytes count 0 = List.replicate count 0 := by
  induction count with
  | zero => rfl
  | succ count ih =>
      rw [toBytes, Nat.zero_div, ih, List.replicate_succ]
      rfl

/-! ### Loads and stores -/

abbrev Memory := Nat → UInt8

def load (memory : Memory) (address count : Nat) : List UInt8 :=
  (List.range count).map fun offset => memory (address + offset)

structure Store where
  address : Nat
  bytes : List UInt8
  deriving DecidableEq

namespace Store

/-- The address after the last one that is stored to. -/
def stop (store : Store) : Nat := store.address + store.bytes.length

def Covers (store : Store) (address : Nat) : Prop := store.address ≤ address ∧ address < store.stop

def Within (store : Store) (start stop : Nat) : Prop := start ≤ store.address ∧ store.stop ≤ stop

def Apart (first second : Store) : Prop :=
  first.stop ≤ second.address ∨ second.stop ≤ first.address

def apply (store : Store) (memory : Memory) : Memory := fun address =>
  if store.address ≤ address then store.bytes.getD (address - store.address) (memory address)
  else memory address

theorem apply_of_not_covers {store : Store} {address : Nat} (hcovers : ¬ store.Covers address)
    (memory : Memory) : store.apply memory address = memory address := by
  unfold apply
  split
  · rename_i hle
    have hlength : store.bytes.length ≤ address - store.address := by
      unfold Covers stop at hcovers
      omega
    exact List.getD_eq_default _ _ hlength
  · rfl

theorem apply_of_lt {store : Store} {offset : Nat} (hoffset : offset < store.bytes.length)
    (memory : Memory) : store.apply memory (store.address + offset) = store.bytes[offset] := by
  unfold apply
  rw [if_pos (Nat.le_add_right _ _), Nat.add_sub_cancel_left]
  exact List.getD_eq_getElem _ _ hoffset

theorem Within.covers {store : Store} {start stop address : Nat} (hwithin : store.Within start stop)
    (hcovers : store.Covers address) : start ≤ address ∧ address < stop :=
  ⟨hwithin.1.trans hcovers.1, hcovers.2.trans_le hwithin.2⟩

end Store

theorem load_congr {memory memory' : Memory} {address count : Nat}
    (hsame : ∀ offset < count, memory (address + offset) = memory' (address + offset)) :
    load memory address count = load memory' address count :=
  List.map_congr_left fun offset hoffset => hsame offset (List.mem_range.mp hoffset)

theorem getElem_load {memory : Memory} {address count offset : Nat}
    (hoffset : offset < (load memory address count).length) :
    (load memory address count)[offset] = memory (address + offset) := by
  simp [load]

@[simp]
theorem length_load (memory : Memory) (address count : Nat) :
    (load memory address count).length = count := by
  rw [load, List.length_map, List.length_range]

theorem ofBytes_replicate_zero (count : Nat) : ofBytes (List.replicate count 0) = 0 := by
  rw [← toBytes_zero, ofBytes_toBytes, Nat.zero_mod]

theorem ofBytes_load_zero (address count : Nat) : ofBytes (load (fun _ => 0) address count) = 0 := by
  rw [load, List.map_const', List.length_range, ofBytes_replicate_zero]

/-! ### Several stores -/

def applyAll (stores : List Store) (memory : Memory) : Memory :=
  stores.foldl (fun memory store => store.apply memory) memory

@[simp]
theorem applyAll_nil (memory : Memory) : applyAll [] memory = memory := rfl

@[simp]
theorem applyAll_cons (store : Store) (stores : List Store) (memory : Memory) :
    applyAll (store :: stores) memory = applyAll stores (store.apply memory) := rfl

theorem applyAll_append (first second : List Store) (memory : Memory) :
    applyAll (first ++ second) memory = applyAll second (applyAll first memory) :=
  List.foldl_append

theorem applyAll_of_not_covers {stores : List Store} {address : Nat}
    (hcovers : ∀ store ∈ stores, ¬ store.Covers address) (memory : Memory) :
    applyAll stores memory address = memory address := by
  induction stores generalizing memory with
  | nil => rfl
  | cons store stores ih =>
      obtain ⟨hfirst, hrest⟩ := List.forall_mem_cons.mp hcovers
      rw [applyAll_cons, ih hrest, Store.apply_of_not_covers hfirst]

/-- What stores within an interval do to memory depends on nothing outside it. -/
theorem applyAll_congr {stores : List Store} {memory memory' : Memory} {address : Nat}
    (hsame : memory address = memory' address) :
    applyAll stores memory address = applyAll stores memory' address := by
  induction stores generalizing memory memory' with
  | nil => exact hsame
  | cons store stores ih =>
      refine ih ?_
      simp only [Store.apply, hsame]

/-- Of stores that are apart from one another, each leaves its bytes. -/
theorem load_applyAll {stores : List Store} (hapart : stores.Pairwise Store.Apart) {store : Store}
    (hmem : store ∈ stores) (memory : Memory) :
    load (applyAll stores memory) store.address store.bytes.length = store.bytes := by
  induction stores generalizing memory with
  | nil => exact absurd hmem List.not_mem_nil
  | cons first stores ih =>
      obtain ⟨hfirst, hrest⟩ := List.pairwise_cons.mp hapart
      rcases List.mem_cons.mp hmem with rfl | hlater
      · refine List.ext_getElem (length_load _ _ _) fun offset hoffset hbytes => ?_
        have hkept : applyAll stores (store.apply memory) (store.address + offset) =
            store.apply memory (store.address + offset) := by
          refine applyAll_of_not_covers (fun other hother hcovers => ?_) _
          have hother := hfirst other hother
          unfold Store.Covers at hcovers
          unfold Store.Apart Store.stop at *
          omega
        rw [getElem_load, applyAll_cons, hkept, Store.apply_of_lt hbytes]
      · exact ih hrest hlater (first.apply memory)

/-! ### Bytes that stay zero -/

def ZeroOutside (live : Set Nat) (memory : Memory) : Prop := ∀ address ∉ live, memory address = 0

theorem Store.apply_eq_zero {store : Store} (hbytes : ∀ byte ∈ store.bytes, byte = 0) {memory : Memory}
    {address : Nat} (hzero : memory address = 0) : store.apply memory address = 0 := by
  by_cases hcovers : store.Covers address
  · obtain ⟨hfirst, hstop⟩ := hcovers
    obtain ⟨offset, rfl⟩ := Nat.exists_eq_add_of_le hfirst
    have hoffset : offset < store.bytes.length := by
      unfold Store.stop at hstop
      omega
    rw [Store.apply_of_lt hoffset]
    exact hbytes _ (List.getElem_mem hoffset)
  · rw [Store.apply_of_not_covers hcovers, hzero]

/-- Stores that are to live bytes or of zeros leave the other bytes zero. -/
theorem ZeroOutside.applyAll {live : Set Nat} {stores : List Store}
    (hstores : ∀ store ∈ stores,
      (∀ address, store.Covers address → address ∈ live) ∨ ∀ byte ∈ store.bytes, byte = 0)
    {memory : Memory} (hzero : ZeroOutside live memory) :
    ZeroOutside live (applyAll stores memory) := by
  induction stores generalizing memory with
  | nil => exact hzero
  | cons store stores ih =>
      obtain ⟨hfirst, hrest⟩ := List.forall_mem_cons.mp hstores
      rw [applyAll_cons]
      refine ih hrest fun address hout => ?_
      rcases hfirst with hlive | hbytes
      · rw [Store.apply_of_not_covers fun hcovers => hout (hlive address hcovers)]
        exact hzero address hout
      · exact Store.apply_eq_zero hbytes (hzero address hout)

end ByteMemory
