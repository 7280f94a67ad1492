import Mathlib.Data.Set.BooleanAlgebra
import Mathlib.Data.Set.Function
import Mathlib.Order.CompletePartialOrder
import Mathlib.Order.Disjoint
import Mathlib.Tactic.Common

/-!
# Steps with disjoint footprints

A step is local to a region of a memory if it reads and writes nothing outside. Steps that are local to
disjoint regions do not see one another: one after the other they do what each does by itself.
-/

universe u v w x y

namespace Footprint

variable {Address : Type u} {Value : Type v} {Item : Type w} {Result : Type x}

structure IsLocal (region : Set Address)
    (step : (Address → Value) → Result × (Address → Value)) : Prop where
  frame : ∀ memory, ∀ address ∉ region, (step memory).2 address = memory address
  result : ∀ {memory memory'}, Set.EqOn memory memory' region → (step memory).1 = (step memory').1
  after : ∀ {memory memory'}, Set.EqOn memory memory' region →
    Set.EqOn (step memory).2 (step memory').2 region

theorem IsLocal.mono {region larger : Set Address}
    {step : (Address → Value) → Result × (Address → Value)} (hlocal : IsLocal region step)
    (hsubset : region ⊆ larger) : IsLocal larger step where
  frame := fun memory address hout => hlocal.frame memory address fun hin => hout (hsubset hin)
  result := fun hsame => hlocal.result (hsame.mono hsubset)
  after := by
    intro memory memory' hsame address haddress
    by_cases hin : address ∈ region
    · exact hlocal.after (hsame.mono hsubset) hin
    · rw [hlocal.frame memory address hin, hlocal.frame memory' address hin]
      exact hsame haddress

/-- The step of each item in turn, with what they return. -/
def runEach (step : Item → (Address → Value) → Result × (Address → Value)) :
    List Item → (Address → Value) → List Result × (Address → Value)
  | [], memory => ([], memory)
  | item :: items, memory =>
      let first := step item memory
      let rest := runEach step items first.2
      (first.1 :: rest.1, rest.2)

theorem runEach_map {Other : Type y} (step : Item → (Address → Value) → Result × (Address → Value))
    (item : Other → Item) (others : List Other) (memory : Address → Value) :
    runEach step (others.map item) memory = runEach (fun other => step (item other)) others memory := by
  induction others generalizing memory with
  | nil => rfl
  | cons other others ih => rw [List.map_cons, runEach, runEach, ih]

variable {step : Item → (Address → Value) → Result × (Address → Value)}
  {region : Item → Set Address} {items : List Item}

/-- What every step preserves, all of them do. -/
theorem runEach_preserves {property : (Address → Value) → Prop}
    (hstep : ∀ item ∈ items, ∀ memory, property memory → property (step item memory).2)
    {memory : Address → Value} (hstart : property memory) :
    property (runEach step items memory).2 := by
  induction items generalizing memory with
  | nil => exact hstart
  | cons item items ih =>
      obtain ⟨hfirst, hrest⟩ := List.forall_mem_cons.mp hstep
      exact ih hrest (hfirst memory hstart)

theorem runEach_frame (hlocal : ∀ item ∈ items, IsLocal (region item) (step item))
    (memory : Address → Value) {address : Address} (hout : ∀ item ∈ items, address ∉ region item) :
    (runEach step items memory).2 address = memory address := by
  induction items generalizing memory with
  | nil => rfl
  | cons item items ih =>
      obtain ⟨hfirst, hrest⟩ := List.forall_mem_cons.mp hlocal
      obtain ⟨houtFirst, houtRest⟩ := List.forall_mem_cons.mp hout
      rw [runEach, ih hrest _ houtRest]
      exact hfirst.frame memory address houtFirst

/-- A step leaves the regions of the others as they are. -/
theorem IsLocal.eqOn_of_disjoint {first second : Set Address}
    {step : (Address → Value) → Result × (Address → Value)} (hlocal : IsLocal first step)
    (hdisjoint : Disjoint first second) (memory : Address → Value) :
    Set.EqOn (step memory).2 memory second :=
  fun address haddress =>
    hlocal.frame memory address fun hin => Set.disjoint_left.mp hdisjoint hin haddress

theorem runEach_results (hlocal : ∀ item ∈ items, IsLocal (region item) (step item))
    (hapart : items.Pairwise fun first second => Disjoint (region first) (region second))
    (memory : Address → Value) :
    (runEach step items memory).1 = items.map fun item => (step item memory).1 := by
  induction items generalizing memory with
  | nil => rfl
  | cons item items ih =>
      obtain ⟨hfirst, hrest⟩ := List.forall_mem_cons.mp hlocal
      obtain ⟨hdisjoint, hpairwise⟩ := List.pairwise_cons.mp hapart
      have hsame : (items.map fun other => (step other (step item memory).2).1) =
          items.map fun other => (step other memory).1 :=
        List.map_congr_left fun other hother =>
          (hrest other hother).result (hfirst.eqOn_of_disjoint (hdisjoint other hother) memory)
      rw [runEach, ih hrest hpairwise, List.map_cons, hsame]

/-- In the region of an item, the memory after all steps is that after its own. -/
theorem runEach_eqOn (hlocal : ∀ item ∈ items, IsLocal (region item) (step item))
    (hapart : items.Pairwise fun first second => Disjoint (region first) (region second))
    (memory : Address → Value) {item : Item} (hmem : item ∈ items) :
    Set.EqOn (runEach step items memory).2 (step item memory).2 (region item) := by
  induction items generalizing memory with
  | nil => exact absurd hmem List.not_mem_nil
  | cons first items ih =>
      obtain ⟨hfirst, hrest⟩ := List.forall_mem_cons.mp hlocal
      obtain ⟨hdisjoint, hpairwise⟩ := List.pairwise_cons.mp hapart
      rw [runEach]
      rcases List.mem_cons.mp hmem with rfl | hlater
      · intro address haddress
        refine runEach_frame hrest _ fun other hother hin => ?_
        exact Set.disjoint_left.mp (hdisjoint other hother) haddress hin
      · have hbefore := hfirst.eqOn_of_disjoint (hdisjoint item hlater) memory
        exact (ih hrest hpairwise _ hlater).trans ((hrest item hlater).after hbefore)

/-! ### Regions by position -/

theorem length_runEach (step : Item → (Address → Value) → Result × (Address → Value))
    (items : List Item) (memory : Address → Value) :
    (runEach step items memory).1.length = items.length := by
  induction items generalizing memory with
  | nil => rfl
  | cons item items ih => rw [runEach, List.length_cons, List.length_cons, ih]

theorem runEach_zipIdx (step : Item → (Address → Value) → Result × (Address → Value))
    (items : List Item) (memory : Address → Value) :
    runEach step items memory = runEach (fun entry => step entry.1) items.zipIdx memory := by
  have hitems : items = items.zipIdx.map Prod.fst := List.zipIdx_map_fst 0 items |>.symm
  calc
    runEach step items memory = runEach step (items.zipIdx.map Prod.fst) memory := by rw [← hitems]
    _ = runEach (fun entry => step entry.1) items.zipIdx memory := runEach_map step Prod.fst _ memory

section Positions

variable {regionAt : Nat → Set Address}
  (hlocal : ∀ (position : Nat) (item : Item), items[position]? = some item →
    IsLocal (regionAt position) (step item))
  (hapart : ∀ first second, first < items.length → second < items.length → first ≠ second →
    Disjoint (regionAt first) (regionAt second))

include hlocal in
theorem isLocal_zipIdx : ∀ entry ∈ items.zipIdx,
    IsLocal (regionAt entry.2) (fun memory => step entry.1 memory) :=
  fun entry hmem => hlocal entry.2 entry.1 (List.mem_zipIdx_iff_getElem?.mp hmem)

include hapart in
theorem pairwise_zipIdx : items.zipIdx.Pairwise fun first second =>
    Disjoint (regionAt first.2) (regionAt second.2) := by
  rw [List.pairwise_iff_getElem]
  intro first second hfirst hsecond hlt
  rw [List.length_zipIdx] at hfirst hsecond
  rw [List.getElem_zipIdx, List.getElem_zipIdx]
  exact hapart _ _ (by omega) (by omega) (by omega)

include hlocal hapart in
/-- The item at a position returns what it returns alone, and its region is as it leaves it alone. -/
theorem runEach_getElem? (memory : Address → Value) {position : Nat} {item : Item}
    (hitem : items[position]? = some item) :
    (runEach step items memory).1[position]? = some (step item memory).1 ∧
      Set.EqOn (runEach step items memory).2 (step item memory).2 (regionAt position) := by
  have hmem : (item, position) ∈ items.zipIdx := List.mem_zipIdx_iff_getElem?.mpr hitem
  have hlocals := isLocal_zipIdx hlocal
  have hpairwise := pairwise_zipIdx hapart
  rw [runEach_zipIdx]
  constructor
  · have hresults := runEach_results hlocals hpairwise memory
    rw [hresults, List.getElem?_map, List.getElem?_zipIdx, hitem]
    rfl
  · exact runEach_eqOn hlocals hpairwise memory hmem

end Positions

end Footprint
