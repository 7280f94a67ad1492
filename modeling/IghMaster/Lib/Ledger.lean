import IghMaster.Lib.Transition

/-!
# What flows through a machine

Some actions hand items to a store, some take items out of it, and both keep the order. If every step
balances, then so does every run: what was in the store and what came in is what went out and what is
still there.
-/

universe u v w x

namespace Transition

variable {State : Type u} {Action : Type v} {Item : Type w}

/-- The items of the visits of a history, the oldest first. -/
def flow (item : Visit State Action → Option Item) (history : List (Visit State Action)) : List Item :=
  (history.filterMap item).reverse

theorem flow_nil (item : Visit State Action → Option Item) : flow item [] = [] := rfl

theorem flow_cons (item : Visit State Action → Option Item) (visit : Visit State Action)
    (history : List (Visit State Action)) :
    flow item (visit :: history) = flow item history ++ (item visit).toList := by
  unfold flow
  cases hitem : item visit with
  | none => rw [List.filterMap_cons_none hitem, Option.toList_none, List.append_nil]
  | some value => rw [List.filterMap_cons_some hitem, List.reverse_cons, Option.toList_some]

theorem filterMap_flow {Result : Type x} (item : Visit State Action → Option Item)
    (select : Item → Option Result) (history : List (Visit State Action)) :
    (flow item history).filterMap select = flow (fun visit => (item visit).bind select) history := by
  rw [flow, flow, List.filterMap_reverse, List.filterMap_filterMap]

theorem flow_filter_map {Result : Type x} (item : Visit State Action → Option Item)
    (keep : Item → Bool) (result : Item → Result) (history : List (Visit State Action)) :
    flow (fun visit => ((item visit).filter keep).map result) history =
      ((flow item history).filter keep).map result := by
  induction history with
  | nil => rfl
  | cons visit history ih =>
      rw [flow_cons, flow_cons, ih, List.filter_append, List.map_append]
      cases item visit with
      | none => rfl
      | some value => cases hkeep : keep value <;> simp [hkeep]

theorem getLastD_flow_cons (item : Visit State Action → Option Item) (visit : Visit State Action)
    (history : List (Visit State Action)) (first : Item) :
    (flow item (visit :: history)).getLastD first =
      (item visit).getD ((flow item history).getLastD first) := by
  rw [flow_cons]
  cases item visit with
  | none => rw [Option.toList_none, List.append_nil, Option.getD_none]
  | some newest => rw [Option.toList_some, List.getLastD_concat, Option.getD_some]

/-- What holds of the newest visit and of all earlier ones, each with the past it had, holds of all. -/
theorem forall_past_cons {property : Visit State Action → List (Visit State Action) → Prop}
    {newest : Visit State Action} {history : List (Visit State Action)}
    (hnewest : property newest history)
    (hpast : ∀ after visit earlier, history = after ++ visit :: earlier → property visit earlier) :
    ∀ after visit earlier, newest :: history = after ++ visit :: earlier → property visit earlier := by
  intro after visit earlier hsplit
  cases after with
  | nil =>
      rw [List.nil_append, List.cons.injEq] at hsplit
      obtain ⟨rfl, rfl⟩ := hsplit
      exact hnewest
  | cons first after =>
      rw [List.cons_append, List.cons.injEq] at hsplit
      exact hpast after visit earlier hsplit.2

/-- A step hands in and takes out so much that the store changes by the difference. -/
def Balances (machine : Machine State Action) (store : State → List Item)
    (comes goes : Visit State Action → Option Item) (state : State) (action : Action) : Prop :=
  store state ++ (comes (machine.visit state action)).toList =
    (goes (machine.visit state action)).toList ++ store (machine.next state action)

theorem balances_of_still {machine : Machine State Action} {store : State → List Item}
    {comes goes : Visit State Action → Option Item} {state : State} {action : Action}
    (hstore : store (machine.next state action) = store state)
    (hcomes : comes (machine.visit state action) = none)
    (hgoes : goes (machine.visit state action) = none) :
    Balances machine store comes goes state action := by
  rw [Balances, hstore, hcomes, hgoes, Option.toList_none, List.append_nil, List.nil_append]

/-- The first configuration's store and all that came in are all that went out and the store now. -/
theorem Machine.flow_exec (machine : Machine State Action) {invariant : State → Prop}
    {store : State → List Item} {comes goes : Visit State Action → Option Item}
    (hkeeps : ∀ state action, invariant state → invariant (machine.next state action))
    (hstep : ∀ state action, invariant state → Balances machine store comes goes state action)
    {start : State} (hstart : invariant start) (actions : List Action) :
    store start ++ flow comes (machine.exec (.start start) actions).history =
      flow goes (machine.exec (.start start) actions).history ++
        store (machine.exec (.start start) actions).state := by
  have hall : ∀ config action,
      (invariant config.state ∧ store start ++ flow comes config.history =
        flow goes config.history ++ store config.state) →
        invariant (machine.advance config action).state ∧
          store start ++ flow comes (machine.advance config action).history =
            flow goes (machine.advance config action).history ++
              store (machine.advance config action).state := by
    rintro config action ⟨hinvariant, hbalance⟩
    refine ⟨hkeeps config.state action hinvariant, ?_⟩
    have hnow := hstep config.state action hinvariant
    calc
      store start ++ flow comes (machine.advance config action).history =
          store start ++ flow comes config.history ++
            (comes (machine.visit config.state action)).toList := by
        rw [advance_history, flow_cons, List.append_assoc]
      _ = flow goes config.history ++
          (store config.state ++ (comes (machine.visit config.state action)).toList) := by
        rw [hbalance, List.append_assoc]
      _ = flow goes (machine.advance config action).history ++
          store (machine.advance config action).state := by
        rw [hnow, advance_history, flow_cons, advance_state, List.append_assoc]
  have hconserved := machine.exec_invariant hall actions
    ⟨hstart, by rw [Config.history_start, flow_nil, flow_nil, List.append_nil]; rfl⟩
  exact hconserved.2

end Transition
