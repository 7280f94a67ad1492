import Mathlib.Tactic.Common

/-!
# Blocks of equal letters

A word falls into maximal blocks of equal letters. A lower bound on the length of the blocks that
end inside the word says nothing of the last one, which the word may cut short.
-/

universe u

namespace Blocks

variable {Letter : Type u} {bound count : Nat} {letter other : Letter}

/-- Every maximal block that ends inside the word is at least so long. -/
def EndedAtLeast (bound : Nat) (word : List Letter) : Prop :=
  ∀ before count letter next after,
    word = before ++ List.replicate count letter ++ next :: after → 0 < count →
      before.getLast? ≠ some letter → next ≠ letter → bound ≤ count

theorem eq_of_replicate_eq {size : Nat} {before after : List Letter} {first next : Letter}
    (hword : List.replicate count letter = before ++ List.replicate size first ++ next :: after)
    (hsize : 0 < size) : next = first := by
  have hall : ∀ member ∈ before ++ List.replicate size first ++ next :: after, member = letter := by
    rw [← hword]
    exact fun member hmember => List.eq_of_mem_replicate hmember
  have hfirst : first ∈ before ++ List.replicate size first ++ next :: after := by
    have hmember : first ∈ List.replicate size first :=
      List.mem_replicate.mpr ⟨Nat.pos_iff_ne_zero.mp hsize, rfl⟩
    exact List.mem_append_left _ (List.mem_append_right _ hmember)
  have hnext : next ∈ before ++ List.replicate size first ++ next :: after :=
    List.mem_append_right _ List.mem_cons_self
  exact (hall next hnext).trans (hall first hfirst).symm

/-- A word of one letter is a single block, which does not end inside it. -/
theorem endedAtLeast_replicate (bound count : Nat) (letter : Letter) :
    EndedAtLeast bound (List.replicate count letter) := by
  intro before size first next after hword hsize _ hnext
  exact absurd (eq_of_replicate_eq hword hsize) hnext

/-- One more letter ends the block. -/
theorem endedAtLeast_replicate_append (hbound : bound ≤ count) (other : Letter) :
    EndedAtLeast bound (List.replicate count letter ++ [other]) := by
  intro before size first next after hword hsize hbefore hnext
  rcases List.eq_nil_or_concat after with rfl | ⟨init, last, rfl⟩
  · -- the block is the word up to its last letter
    obtain ⟨hblock, -⟩ := List.append_inj' hword rfl
    rcases List.eq_nil_or_concat before with rfl | ⟨init, last, rfl⟩
    · have hlength := congrArg List.length hblock
      rw [List.nil_append, List.length_replicate, List.length_replicate] at hlength
      omega
    · exfalso
      apply hbefore
      rw [List.concat_eq_append] at hblock ⊢
      have hlast : List.replicate count letter = init ++ List.replicate 1 last ++
          first :: List.replicate (size - 1) first := by
        rw [hblock, ← List.replicate_succ, Nat.sub_add_cancel hsize]
        rfl
      rw [eq_of_replicate_eq hlast Nat.one_pos, List.getLast?_append]
      rfl
  · rw [List.concat_eq_append, ← List.cons_append, ← List.append_assoc] at hword
    obtain ⟨hinner, -⟩ := List.append_inj' hword rfl
    exact absurd (eq_of_replicate_eq hinner hsize) hnext

/-- A single other letter between two is a block of length one. -/
theorem not_endedAtLeast (hbound : 2 ≤ bound) (hother : other ≠ letter) (rest : List Letter) :
    ¬ EndedAtLeast bound (List.replicate count letter ++ other :: letter :: rest) := by
  intro hended
  have hword : List.replicate count letter ++ other :: letter :: rest =
      List.replicate count letter ++ List.replicate 1 other ++ letter :: rest := by
    rw [List.append_assoc]
    rfl
  have hbefore : (List.replicate count letter).getLast? ≠ some other := by
    intro hlast
    exact hother (List.eq_of_mem_replicate (List.mem_of_getLast? hlast))
  have hone := hended _ 1 other letter rest hword Nat.one_pos hbefore hother.symm
  omega

end Blocks
