import Mathlib.Logic.Function.Basic
import Mathlib.Tactic.Common

/-!
# Who holds a mutex

A mutex remembers its owner; the threads that are between the lock and the unlock are that owner alone.
-/

universe u

namespace Mutex

variable {Thread : Type u} {holds : Thread → Bool} {owner : Option Thread} {thread other : Thread}

def Owned (holds : Thread → Bool) (owner : Option Thread) : Prop :=
  ∀ thread, holds thread = true ↔ owner = some thread

theorem Owned.unique (howned : Owned holds owner) (hthread : holds thread = true)
    (hother : holds other = true) : thread = other := by
  have howner : owner = some thread := (howned thread).mp hthread
  rw [(howned other).mp hother, Option.some.injEq] at howner
  exact howner.symm

variable [DecidableEq Thread]

theorem Owned.acquire (howned : Owned holds none) (thread : Thread) :
    Owned (Function.update holds thread true) (some thread) := by
  intro other
  by_cases hsame : other = thread
  · subst hsame
    rw [Function.update_self]
    exact iff_of_true rfl rfl
  · rw [Function.update_of_ne hsame, howned other, Option.some.injEq]
    exact iff_of_false (Option.some_ne_none other).symm (Ne.symm hsame)

theorem Owned.release (howned : Owned holds owner) (hthread : holds thread = true) :
    Owned (Function.update holds thread false) none := by
  intro other
  refine iff_of_false ?_ (Option.some_ne_none other).symm
  by_cases hsame : other = thread
  · subst hsame
    rw [Function.update_self]
    exact Bool.false_ne_true
  · rw [Function.update_of_ne hsame]
    exact fun hother => hsame (howned.unique hother hthread)

theorem Owned.keep (howned : Owned holds owner) {value : Bool} (hvalue : value = holds thread) :
    Owned (Function.update holds thread value) owner := by
  rw [hvalue, Function.update_eq_self]
  exact howned

end Mutex
