import Mathlib.Algebra.Group.Basic
import Mathlib.Algebra.Group.Hom.Defs
import Mathlib.Data.Set.Function

/-!
# Unwrapping a truncated counter

Of a counter only a narrow word is seen. A value follows another if it lies near after it and shows the
word; where near differences have different words there is one such value at most, and values that follow
one another advance as the counter does.
-/

namespace Unwrap

variable {Wide Narrow : Type*} [AddCommGroup Wide] [AddCommGroup Narrow]

/-- The value is the one near after the base that shows the word. -/
def Follows (low : Wide →+ Narrow) (near : Set Wide) (base : Wide) (word : Narrow) (value : Wide) :
    Prop :=
  value - base ∈ near ∧ low value = word

variable {low : Wide →+ Narrow} {near : Set Wide} {base value other before now : Wide} {word : Narrow}

theorem Follows.unique (hnear : Set.InjOn low near) (hvalue : Follows low near base word value)
    (hother : Follows low near base word other) : value = other := by
  have hdifference : value - base = other - base := by
    refine hnear hvalue.1 hother.1 ?_
    rw [map_sub, map_sub, hvalue.2, hother.2]
  exact sub_left_injective hdifference

/-- Where the base shows the counter's word, the value that follows it advances as the counter does. -/
theorem Follows.sub_eq (hnear : Set.InjOn low near) (hvalue : Follows low near base (low now) value)
    (hbase : low base = low before) (hadvance : now - before ∈ near) :
    value - base = now - before := by
  have htracked : Follows low near base (low now) (base + (now - before)) := by
    refine ⟨by rwa [add_sub_cancel_left], ?_⟩
    rw [map_add, map_sub, hbase, add_sub_cancel]
  rw [hvalue.unique hnear htracked, add_sub_cancel_left]

end Unwrap
