import IghMaster.Lib.Transition

/-!
# The runs of a component

A system may hold another machine as a part of its state and let it take an action now and then. What
the part has gone through in a run of the system is a run of its own, with the visits in which it moved.
-/

universe u v w x

namespace Transition

variable {State : Type u} {Action : Type v} {Part : Type w} {PartAction : Type x}

/-- An action of the system is the action of the part that it lets it take, or leaves the part alone. -/
structure Drives (system : Machine State Action) (part : Machine Part PartAction)
    (view : State → Part) (moves : State → Action → Option PartAction) : Prop where
  moved : ∀ {state action move}, moves state action = some move →
    view (system.next state action) = part.next (view state) move
  still : ∀ {state action}, moves state action = none → view (system.next state action) = view state

def Visit.ofPart (view : State → Part) (moves : State → Action → Option PartAction)
    (visit : Visit State Action) : Option (Visit Part PartAction) :=
  (moves visit.before visit.action).map fun move =>
    { before := view visit.before, action := move, after := view visit.after }

def Config.ofPart (view : State → Part) (moves : State → Action → Option PartAction)
    (config : Config State Action) : Config Part PartAction where
  state := view config.state
  history := config.history.filterMap (Visit.ofPart view moves)

variable {system : Machine State Action} {part : Machine Part PartAction} {view : State → Part}
  {moves : State → Action → Option PartAction}

theorem Drives.advance_of_some (hdrives : Drives system part view moves) {config : Config State Action}
    {action : Action} {move : PartAction} (hmove : moves config.state action = some move) :
    (system.advance config action).ofPart view moves =
      part.advance (config.ofPart view moves) move := by
  have hvisit : Visit.ofPart view moves (system.visit config.state action) =
      some (part.visit (view config.state) move) := by
    rw [Visit.ofPart, Machine.visit_before, Machine.visit_action, hmove, Option.map_some,
      Machine.visit_after, hdrives.moved hmove]
    rfl
  rw [Config.ofPart, Machine.advance_state, Machine.advance_history, List.filterMap_cons_some hvisit,
    hdrives.moved hmove]
  rfl

theorem Drives.advance_of_none (hdrives : Drives system part view moves) {config : Config State Action}
    {action : Action} (hstill : moves config.state action = none) :
    (system.advance config action).ofPart view moves = config.ofPart view moves := by
  have hvisit : Visit.ofPart view moves (system.visit config.state action) = none := by
    rw [Visit.ofPart, Machine.visit_before, Machine.visit_action, hstill, Option.map_none]
  rw [Config.ofPart, Machine.advance_state, Machine.advance_history, List.filterMap_cons_none hvisit,
    hdrives.still hstill]
  rfl

/-- What every action of the part preserves of its past, every action of the system preserves. -/
theorem Drives.invariant_advance (hdrives : Drives system part view moves)
    {invariant : Config Part PartAction → Prop}
    (hstep : ∀ config move, invariant config → invariant (part.advance config move))
    {config : Config State Action} (hinvariant : invariant (config.ofPart view moves))
    (action : Action) : invariant ((system.advance config action).ofPart view moves) := by
  cases hmove : moves config.state action with
  | none =>
      rw [hdrives.advance_of_none hmove]
      exact hinvariant
  | some move =>
      rw [hdrives.advance_of_some hmove]
      exact hstep _ move hinvariant

end Transition
