import IghMaster.Lib.Transition

/-!
# A run and the part of it that one party takes

Several parties take the actions of a run, and some of the actions are those of one of them. What that
party sees in the run is compared with what it sees where it runs alone: a relation between the states
of both runs carries the comparison, and every action of another party is a step of the first run only.
-/

universe u v w

namespace Transition

variable {State : Type u} {Action : Type v} {Seen : Type w}

/-- An own action shows the same in related states and leaves them related. Any other action leaves the
first state related to the second as it is, and shows nothing. -/
structure Isolates (machine : Machine State Action) (own : Action → Bool)
    (condition : Config State Action → Action → Prop) (seen : Visit State Action → Option Seen)
    (related : State → State → Prop) : Prop where
  own_next : ∀ config alone action, own action = true → condition config action →
    related config.state alone →
      related (machine.next config.state action) (machine.next alone action) ∧
        seen (machine.visit config.state action) = seen (machine.visit alone action)
  other_next : ∀ config alone action, own action = false → condition config action →
    related config.state alone →
      related (machine.next config.state action) alone ∧
        seen (machine.visit config.state action) = none

/-- What the party sees in a run whose actions meet the condition is what it sees alone. -/
theorem Isolates.exec {machine : Machine State Action} {own : Action → Bool}
    {condition : Config State Action → Action → Prop} {seen : Visit State Action → Option Seen}
    {related : State → State → Prop} (hisolates : Isolates machine own condition seen related)
    (config alone : Config State Action) {actions : List Action}
    (hrelated : related config.state alone.state)
    (hseen : config.history.filterMap seen = alone.history.filterMap seen)
    (hmeets : machine.Meets condition config actions) :
    related (machine.exec config actions).state (machine.exec alone (actions.filter own)).state ∧
      (machine.exec config actions).history.filterMap seen =
        (machine.exec alone (actions.filter own)).history.filterMap seen := by
  induction actions generalizing config alone with
  | nil => exact ⟨hrelated, hseen⟩
  | cons action actions ih =>
      obtain ⟨hcondition, hrest⟩ := hmeets
      cases hown : own action with
      | true =>
          obtain ⟨hafter, hshown⟩ :=
            hisolates.own_next config alone.state action hown hcondition hrelated
          rw [List.filter_cons_of_pos hown]
          refine ih _ _ hafter ?_ hrest
          rw [Machine.advance_history, Machine.advance_history, List.filterMap_cons,
            List.filterMap_cons, hshown, hseen]
      | false =>
          obtain ⟨hafter, hshown⟩ :=
            hisolates.other_next config alone.state action hown hcondition hrelated
          rw [List.filter_cons_of_neg (by simp [hown])]
          refine ih _ _ hafter ?_ hrest
          rw [Machine.advance_history, List.filterMap_cons, hshown]
          exact hseen

end Transition
