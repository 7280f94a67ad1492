import IghMaster.Lib.Transition

/-!
# Refinement by an abstraction function

A machine refines another one if what a state stands for after a step is what the other machine makes
of what it stood for before. A run then stands for a run of the other machine, its past included.
-/

universe u v w x

namespace Transition

variable {State : Type u} {Action : Type v} {AbsState : Type w} {AbsAction : Type x}

structure Refines (concrete : Machine State Action) (abstract : Machine AbsState AbsAction)
    (view : State → AbsState) (translate : State → Action → AbsAction) (invariant : State → Prop)
    (allowed : State → Action → Prop) : Prop where
  keeps : ∀ {state action}, invariant state → allowed state action →
    invariant (concrete.next state action)
  commutes : ∀ {state action}, invariant state → allowed state action →
    view (concrete.next state action) = abstract.next (view state) (translate state action)

def Visit.translated (view : State → AbsState) (translate : State → Action → AbsAction)
    (visit : Visit State Action) : Visit AbsState AbsAction where
  before := view visit.before
  action := translate visit.before visit.action
  after := view visit.after

def Config.translated (view : State → AbsState) (translate : State → Action → AbsAction)
    (config : Config State Action) : Config AbsState AbsAction where
  state := view config.state
  history := config.history.map (Visit.translated view translate)

/-- The actions of the other machine, each by the state that its own action is taken in. -/
def Machine.translateAll (machine : Machine State Action) (translate : State → Action → AbsAction) :
    State → List Action → List AbsAction
  | _, [] => []
  | state, action :: actions =>
      translate state action :: machine.translateAll translate (machine.next state action) actions

variable {concrete : Machine State Action} {abstract : Machine AbsState AbsAction}
  {view : State → AbsState} {translate : State → Action → AbsAction} {invariant : State → Prop}
  {allowed : State → Action → Prop}

theorem Refines.advance (hrefines : Refines concrete abstract view translate invariant allowed)
    {config : Config State Action} {action : Action} (hinvariant : invariant config.state)
    (hallowed : allowed config.state action) :
    (concrete.advance config action).translated view translate =
      abstract.advance (config.translated view translate) (translate config.state action) := by
  have hstep := hrefines.commutes hinvariant hallowed
  simp only [Machine.advance, Config.translated, List.map_cons, Visit.translated, Machine.visit, hstep]

theorem Refines.exec (hrefines : Refines concrete abstract view translate invariant allowed)
    {config : Config State Action} {actions : List Action} (hinvariant : invariant config.state)
    (hallowed : concrete.Meets (fun config action => allowed config.state action) config actions) :
    invariant (concrete.exec config actions).state ∧
      (concrete.exec config actions).translated view translate =
        abstract.exec (config.translated view translate)
          (concrete.translateAll translate config.state actions) := by
  induction actions generalizing config with
  | nil => exact ⟨hinvariant, rfl⟩
  | cons action actions ih =>
      obtain ⟨hfirst, hrest⟩ := hallowed
      have hafter : invariant (concrete.advance config action).state :=
        hrefines.keeps hinvariant hfirst
      obtain ⟨hend, htranslated⟩ := ih hafter hrest
      refine ⟨hend, ?_⟩
      rw [Machine.exec_cons, htranslated, hrefines.advance hinvariant hfirst]
      rfl

end Transition
