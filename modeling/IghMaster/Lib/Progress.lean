import IghMaster.Lib.Transition

/-!
# What a party reaches by its own actions

A measure that falls with every action of one party and that no other action lets rise brings the party
to its goal, in whatever order the others act between.
-/

universe u v

namespace Transition

variable {State : Type u} {Action : Type v}

/-- Until the goal is reached, the party's own actions lower the measure and no other one raises it. -/
structure Approaches (machine : Machine State Action) (own : Action → Bool)
    (invariant goal : State → Prop) (measure : State → Nat) : Prop where
  positive : ∀ {state}, invariant state → ¬ goal state → 0 < measure state
  own_next : ∀ {state action}, invariant state → ¬ goal state → own action = true →
    goal (machine.next state action) ∨
      (invariant (machine.next state action) ∧ measure (machine.next state action) < measure state)
  other_next : ∀ {state action}, invariant state → ¬ goal state → own action = false →
    invariant (machine.next state action) ∧ measure (machine.next state action) ≤ measure state

/-- As many own actions as the measure counts are enough. -/
theorem Approaches.reaches {machine : Machine State Action} {own : Action → Bool}
    {invariant goal : State → Prop} {measure : State → Nat}
    (happroaches : Approaches machine own invariant goal measure) {state : State}
    (hinvariant : invariant state) {actions : List Action}
    (hmany : measure state ≤ (actions.filter own).length) :
    ∃ first, first <+: actions ∧ goal (machine.run state first) := by
  induction actions generalizing state with
  | nil =>
      refine ⟨[], List.nil_prefix, ?_⟩
      by_contra hgoal
      exact Nat.not_lt.mpr hmany (happroaches.positive hinvariant hgoal)
  | cons action actions ih =>
      by_cases hgoal : goal state
      · exact ⟨[], List.nil_prefix, hgoal⟩
      have hlater : invariant (machine.next state action) →
          measure (machine.next state action) ≤ (actions.filter own).length →
            ∃ first, first <+: action :: actions ∧ goal (machine.run state first) := by
        intro hafter hrest
        obtain ⟨first, hfirst, hreached⟩ := ih hafter hrest
        exact ⟨action :: first, List.prefix_cons_inj action |>.mpr hfirst, hreached⟩
      cases hown : own action with
      | true =>
          rw [List.filter_cons_of_pos hown, List.length_cons] at hmany
          rcases happroaches.own_next hinvariant hgoal hown with hreached | ⟨hafter, hless⟩
          · exact ⟨[action], List.prefix_cons_inj action |>.mpr List.nil_prefix, hreached⟩
          · exact hlater hafter (Nat.le_of_lt_succ (Nat.lt_of_lt_of_le hless hmany))
      | false =>
          rw [List.filter_cons_of_neg (by rw [hown]; exact Bool.false_ne_true)] at hmany
          obtain ⟨hafter, hle⟩ := happroaches.other_next hinvariant hgoal hown
          exact hlater hafter (Nat.le_trans hle hmany)

end Transition
