import Mathlib.Tactic.Common

/-!
# Runs of deterministic machines

A machine takes one action at a time. A configuration is the state it is in together with the
visits that led there, newest first, so that a property may speak about the past of a run: what
happened since, or which of several actions came last. Invariants over configurations are proved
by one induction, here, and conditions on the actions of a run are carried along it.
-/

universe u v w

namespace Transition

structure Machine (State : Type u) (Action : Type v) where
  next : State → Action → State

structure Visit (State : Type u) (Action : Type v) where
  before : State
  action : Action
  after : State

structure Config (State : Type u) (Action : Type v) where
  state : State
  history : List (Visit State Action)

variable {State : Type u} {Action : Type v}

def Config.start (state : State) : Config State Action :=
  { state := state, history := [] }

@[simp]
theorem Config.state_start (state : State) :
    (Config.start state : Config State Action).state = state := rfl

@[simp]
theorem Config.history_start (state : State) :
    (Config.start state : Config State Action).history = [] := rfl

namespace Machine

variable (machine : Machine State Action)

def visit (state : State) (action : Action) : Visit State Action :=
  { before := state, action := action, after := machine.next state action }

@[simp]
theorem visit_before (state : State) (action : Action) :
    (machine.visit state action).before = state := rfl

@[simp]
theorem visit_action (state : State) (action : Action) :
    (machine.visit state action).action = action := rfl

@[simp]
theorem visit_after (state : State) (action : Action) :
    (machine.visit state action).after = machine.next state action := rfl

def advance (config : Config State Action) (action : Action) : Config State Action :=
  { state := machine.next config.state action
    history := machine.visit config.state action :: config.history }

@[simp]
theorem advance_state (config : Config State Action) (action : Action) :
    (machine.advance config action).state = machine.next config.state action := rfl

@[simp]
theorem advance_history (config : Config State Action) (action : Action) :
    (machine.advance config action).history =
      machine.visit config.state action :: config.history := rfl

def exec (config : Config State Action) : List Action → Config State Action
  | [] => config
  | action :: actions => exec (machine.advance config action) actions

@[simp]
theorem exec_nil (config : Config State Action) : machine.exec config [] = config := rfl

@[simp]
theorem exec_cons (config : Config State Action) (action : Action) (actions : List Action) :
    machine.exec config (action :: actions) =
      machine.exec (machine.advance config action) actions := rfl

theorem exec_append (config : Config State Action) (first second : List Action) :
    machine.exec config (first ++ second) = machine.exec (machine.exec config first) second := by
  induction first generalizing config with
  | nil => rfl
  | cons action first ih => exact ih (machine.advance config action)

theorem length_history_exec (config : Config State Action) (actions : List Action) :
    (machine.exec config actions).history.length = config.history.length + actions.length := by
  induction actions generalizing config with
  | nil => rfl
  | cons action actions ih =>
      rw [exec_cons, ih, advance_history, List.length_cons, List.length_cons]
      omega

/-- Every action of the run meets the condition in the configuration it is taken in. -/
def Meets (condition : Config State Action → Action → Prop) (config : Config State Action) :
    List Action → Prop
  | [] => True
  | action :: actions =>
      condition config action ∧ Meets condition (machine.advance config action) actions

instance decidableMeets (condition : Config State Action → Action → Prop)
    [∀ config action, Decidable (condition config action)] :
    ∀ (config : Config State Action) (actions : List Action),
      Decidable (machine.Meets condition config actions)
  | _, [] => inferInstanceAs (Decidable True)
  | config, action :: actions =>
      have := decidableMeets condition (machine.advance config action) actions
      inferInstanceAs (Decidable (_ ∧ _))

theorem meets_append {condition : Config State Action → Action → Prop}
    {config : Config State Action} {first second : List Action} :
    machine.Meets condition config (first ++ second) ↔
      machine.Meets condition config first ∧
        machine.Meets condition (machine.exec config first) second := by
  induction first generalizing config with
  | nil => simp [Meets]
  | cons action first ih => simp [Meets, ih, and_assoc]

theorem meets_of_forall_mem {condition : Action → Prop} {config : Config State Action}
    {actions : List Action} (hall : ∀ action ∈ actions, condition action) :
    machine.Meets (fun _ action => condition action) config actions := by
  induction actions generalizing config with
  | nil => trivial
  | cons action actions ih =>
      have hfirst : condition action := hall action (by simp)
      exact ⟨hfirst, ih fun other hmem => hall other (by simp [hmem])⟩

/-- An invariant that every action meeting the condition preserves holds at the end of every run
whose actions all meet it. -/
theorem exec_invariant_of_meets {invariant : Config State Action → Prop}
    {condition : Config State Action → Action → Prop}
    (hstep : ∀ config action, invariant config → condition config action →
      invariant (machine.advance config action))
    {config : Config State Action} {actions : List Action} (hstart : invariant config)
    (hmeets : machine.Meets condition config actions) :
    invariant (machine.exec config actions) := by
  induction actions generalizing config with
  | nil => exact hstart
  | cons action actions ih => exact ih (hstep config action hstart hmeets.1) hmeets.2

theorem exec_invariant {invariant : Config State Action → Prop}
    (hstep : ∀ config action, invariant config → invariant (machine.advance config action))
    {config : Config State Action} (actions : List Action) (hstart : invariant config) :
    invariant (machine.exec config actions) := by
  induction actions generalizing config with
  | nil => exact hstart
  | cons action actions ih => exact ih (hstep config action hstart)

/-- What every action meeting the condition shows of its visit holds of all visits of a run whose actions
all meet it. -/
theorem forall_history_of_meets {property : Visit State Action → Prop}
    {condition : Config State Action → Action → Prop}
    (hvisit : ∀ config action, condition config action →
      property (machine.visit config.state action))
    {config : Config State Action} {actions : List Action}
    (hstart : ∀ visit ∈ config.history, property visit)
    (hmeets : machine.Meets condition config actions) :
    ∀ visit ∈ (machine.exec config actions).history, property visit := by
  induction actions generalizing config with
  | nil => exact hstart
  | cons action actions ih =>
      refine ih ?_ hmeets.2
      rw [advance_history, List.forall_mem_cons]
      exact ⟨hvisit config action hmeets.1, hstart⟩

/-- The property holds in every configuration of the run, the first one included. -/
def Always (property : Config State Action → Prop) (config : Config State Action) :
    List Action → Prop
  | [] => property config
  | action :: actions => property config ∧ Always property (machine.advance config action) actions

variable {machine} in
theorem Always.exec {property : Config State Action → Prop} {config : Config State Action}
    {actions : List Action} (halways : machine.Always property config actions) :
    property (machine.exec config actions) := by
  induction actions generalizing config with
  | nil => exact halways
  | cons action actions ih => exact ih halways.2

/-- What every action meeting the condition preserves holds throughout a run whose actions all meet
it. -/
theorem always_of_meets {property : Config State Action → Prop}
    {condition : Config State Action → Action → Prop}
    (hstep : ∀ config action, property config → condition config action →
      property (machine.advance config action))
    {config : Config State Action} {actions : List Action} (hstart : property config)
    (hmeets : machine.Meets condition config actions) : machine.Always property config actions := by
  induction actions generalizing config with
  | nil => exact hstart
  | cons action actions ih =>
      exact ⟨hstart, ih (hstep config action hstart hmeets.1) hmeets.2⟩

/-- Where what an action does to the property, while it holds, depends on the condition alone, the
property holds throughout the run just if its actions all meet the condition. -/
theorem always_iff_meets_of_holds {invariant property : Config State Action → Prop}
    {condition : Config State Action → Action → Prop}
    (hstep : ∀ config action, invariant config → property config →
      invariant (machine.advance config action) ∧
        (property (machine.advance config action) ↔ condition config action))
    {config : Config State Action} {actions : List Action} (hstart : invariant config)
    (hproperty : property config) :
    machine.Always property config actions ↔ machine.Meets condition config actions := by
  induction actions generalizing config with
  | nil => exact iff_of_true hproperty trivial
  | cons action actions ih =>
      obtain ⟨hafter, hiff⟩ := hstep config action hstart hproperty
      rw [Always, Meets, ← hiff]
      constructor
      · intro halways
        have hnow : property (machine.advance config action) := by
          cases actions with
          | nil => exact halways.2
          | cons next actions => exact halways.2.1
        exact ⟨hnow, (ih hafter hnow).mp halways.2⟩
      · exact fun hmeets => ⟨hproperty, (ih hafter hmeets.1).mpr hmeets.2⟩

theorem always_iff_meets {invariant property : Config State Action → Prop}
    {condition : Config State Action → Action → Prop}
    (hstep : ∀ config action, invariant config → invariant (machine.advance config action) ∧
      (property (machine.advance config action) ↔ condition config action))
    {config : Config State Action} {actions : List Action} (hstart : invariant config)
    (hproperty : property config) :
    machine.Always property config actions ↔ machine.Meets condition config actions :=
  machine.always_iff_meets_of_holds (fun config action h _ => hstep config action h) hstart hproperty

/-! ### Several actions at once -/

/-- The state after the actions, without the visits. -/
def run (state : State) (actions : List Action) : State := actions.foldl machine.next state

theorem state_exec (config : Config State Action) (actions : List Action) :
    (machine.exec config actions).state = machine.run config.state actions := by
  induction actions generalizing config with
  | nil => rfl
  | cons action actions ih => exact ih (machine.advance config action)

/-- Some actions, each of them allowed, lead from the first state to the second. -/
def Leads (allowed : Action → Prop) (state after : State) : Prop :=
  ∃ actions, (∀ action ∈ actions, allowed action) ∧ machine.run state actions = after

variable {machine} {allowed : Action → Prop}

theorem Leads.refl (state : State) : machine.Leads allowed state state :=
  ⟨[], fun _ h => absurd h List.not_mem_nil, rfl⟩

theorem Leads.trans {first second third : State} (hfirst : machine.Leads allowed first second)
    (hsecond : machine.Leads allowed second third) : machine.Leads allowed first third := by
  obtain ⟨before, hbefore, rfl⟩ := hfirst
  obtain ⟨after, hafter, rfl⟩ := hsecond
  refine ⟨before ++ after, fun action hmem => ?_, List.foldl_append⟩
  rcases List.mem_append.mp hmem with hmem | hmem
  · exact hbefore action hmem
  · exact hafter action hmem

theorem Leads.next {state after : State} (hleads : machine.Leads allowed state after)
    {action : Action} (hallowed : allowed action) :
    machine.Leads allowed state (machine.next after action) := by
  refine hleads.trans ⟨[action], fun other hmem => ?_, rfl⟩
  rw [List.mem_singleton.mp hmem]
  exact hallowed

/-- What every allowed action preserves, several of them preserve. -/
theorem Leads.invariant {invariant : State → Prop}
    (hstep : ∀ state action, allowed action → invariant state →
      invariant (machine.next state action))
    {state after : State} (hleads : machine.Leads allowed state after) (hstart : invariant state) :
    invariant after := by
  obtain ⟨actions, hallowed, rfl⟩ := hleads
  induction actions generalizing state with
  | nil => exact hstart
  | cons action actions ih =>
      have hfirst : allowed action := hallowed action (by simp)
      exact ih (hstep state action hfirst hstart) fun other hmem => hallowed other (by simp [hmem])

end Machine

section Past

variable {Event : Type w}

/-- Some event was a trigger, and every event after it kept the condition. The list has the newest
event first. -/
def Since (keeps trigger : Event → Prop) : List Event → Prop
  | [] => False
  | event :: earlier => trigger event ∨ (keeps event ∧ Since keeps trigger earlier)

@[simp]
theorem since_nil (keeps trigger : Event → Prop) : ¬ Since keeps trigger [] := id

@[simp]
theorem since_cons (keeps trigger : Event → Prop) (event : Event) (earlier : List Event) :
    Since keeps trigger (event :: earlier) ↔
      trigger event ∨ (keeps event ∧ Since keeps trigger earlier) := Iff.rfl

instance decidableSince (keeps trigger : Event → Prop) [DecidablePred keeps]
    [DecidablePred trigger] : DecidablePred (Since keeps trigger)
  | [] => inferInstanceAs (Decidable False)
  | _ :: earlier =>
      have := decidableSince keeps trigger earlier
      inferInstanceAs (Decidable (_ ∨ _))

/-- Some event came first, it or a later one came second, and every event after the first kept the
condition. -/
def SinceBoth (keeps first second : Event → Prop) : List Event → Prop
  | [] => False
  | event :: earlier =>
      (first event ∧ second event) ∨
        (keeps event ∧
          (SinceBoth keeps first second earlier ∨ (second event ∧ Since keeps first earlier)))

@[simp]
theorem sinceBoth_cons (keeps first second : Event → Prop) (event : Event) (earlier : List Event) :
    SinceBoth keeps first second (event :: earlier) ↔
      (first event ∧ second event) ∨
        (keeps event ∧
          (SinceBoth keeps first second earlier ∨ (second event ∧ Since keeps first earlier))) :=
  Iff.rfl

instance decidableSinceBoth (keeps first second : Event → Prop) [DecidablePred keeps]
    [DecidablePred first] [DecidablePred second] : DecidablePred (SinceBoth keeps first second)
  | [] => inferInstanceAs (Decidable False)
  | _ :: earlier =>
      have := decidableSinceBoth keeps first second earlier
      inferInstanceAs (Decidable (_ ∨ _))

/-- A property that the trigger establishes and every kept action preserves holds as long as the
condition has been kept since a trigger. -/
theorem Machine.since_invariant (machine : Machine State Action)
    {keeps trigger : Visit State Action → Prop} (invariant property : Config State Action → Prop)
    (hinvariant : ∀ config action, invariant config → invariant (machine.advance config action))
    (htrigger : ∀ config action, invariant config → trigger (machine.visit config.state action) →
      property (machine.advance config action))
    (hkeeps : ∀ config action, invariant config → property config →
      keeps (machine.visit config.state action) → property (machine.advance config action))
    {state : State} (actions : List Action) (hstart : invariant (Config.start state))
    (hsince : Since keeps trigger (machine.exec (Config.start state) actions).history) :
    property (machine.exec (Config.start state) actions) := by
  have hstep : ∀ config action,
      (invariant config ∧ (Since keeps trigger config.history → property config)) →
        invariant (machine.advance config action) ∧
          (Since keeps trigger (machine.advance config action).history →
            property (machine.advance config action)) := by
    intro config action hconfig
    refine ⟨hinvariant config action hconfig.1, fun h => ?_⟩
    rw [Machine.advance_history, since_cons] at h
    rcases h with h | ⟨hkept, hpast⟩
    · exact htrigger config action hconfig.1 h
    · exact hkeeps config action hconfig.1 (hconfig.2 hpast) hkept
  have hall := machine.exec_invariant hstep actions
    ⟨hstart, fun h => absurd h (since_nil _ _)⟩
  exact hall.2 hsince

end Past

end Transition
