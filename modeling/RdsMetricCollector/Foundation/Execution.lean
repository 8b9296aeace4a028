import Mathlib.Data.List.Basic

/-! # Executions of event-emitting machines

A machine steps from a state under an action, emitting events. The action
resolves every nondeterministic choice, so a machine is an executable partial
function while its runs still range over every interleaving. Properties of
runs are stated of the emitted trace together with the state it leads to.
-/

namespace RdsMetricCollector.Execution

/-- An executable machine. A `none` result means that the action is not
enabled in the state. -/
structure Model (State Action Event : Type) where
  initial : State
  step : State → Action → Option (State × List Event)

namespace Model

variable {State Action Event : Type} {model : Model State Action Event}

/-- Perform a list of actions, collecting the events. -/
def run (model : Model State Action Event) (start : State) :
    List Action → Option (State × List Event)
  | [] => some (start, [])
  | action :: actions =>
      (model.step start action).bind fun (next, events) =>
        (model.run next actions).map fun (final, trace) =>
          (final, events ++ trace)

/-- A finite run with its actions and its trace, extended at the end so that
inductions follow the history of the run. -/
inductive Transitions (model : Model State Action Event) (start : State) :
    List Action → List Event → State → Prop
  | nil : Transitions model start [] [] start
  | snoc {actions trace middle action events final} :
      Transitions model start actions trace middle →
      model.step middle action = some (final, events) →
      Transitions model start (actions ++ [action]) (trace ++ events) final

/-- The states a run from the initial state leads to, with its trace. -/
def Reachable (model : Model State Action Event)
    (trace : List Event) (state : State) : Prop :=
  ∃ actions, model.Transitions model.initial actions trace state

namespace Transitions

variable {start middle final : State} {actions first second : List Action}
  {trace firstTrace secondTrace : List Event}

theorem single {action : Action} {events : List Event}
    (step : model.step start action = some (final, events)) :
    model.Transitions start [action] events final :=
  .snoc .nil step

theorem append (left : model.Transitions start first firstTrace middle)
    (right : model.Transitions middle second secondTrace final) :
    model.Transitions start (first ++ second) (firstTrace ++ secondTrace)
      final := by
  induction right with
  | nil => simpa using left
  | snoc _ step induction =>
      rw [← List.append_assoc, ← List.append_assoc]
      exact .snoc induction step

theorem cons {action : Action} {events : List Event}
    (step : model.step start action = some (middle, events))
    (rest : model.Transitions middle actions trace final) :
    model.Transitions start (action :: actions) (events ++ trace) final :=
  (single step).append rest

/-- A property of the trace and the state that every step keeps holds at the
end of every run. -/
theorem invariant
    (transitions : model.Transitions start actions trace final)
    (Invariant : List Event → State → Prop)
    (initially : Invariant [] start)
    (preserved : ∀ {past current action next events},
      Invariant past current →
      model.step current action = some (next, events) →
      Invariant (past ++ events) next) :
    Invariant trace final := by
  induction transitions with
  | nil => exact initially
  | snoc _ step induction => exact preserved induction step

end Transitions

theorem transitions_of_run {start final : State} {actions : List Action}
    {trace : List Event} (ran : model.run start actions = some (final, trace)) :
    model.Transitions start actions trace final := by
  induction actions generalizing start trace with
  | nil =>
      simp only [run, Option.some.injEq, Prod.mk.injEq] at ran
      rcases ran with ⟨rfl, rfl⟩
      exact .nil
  | cons action actions induction =>
      simp only [run, Option.bind_eq_some_iff, Option.map_eq_some_iff] at ran
      rcases ran with ⟨⟨next, events⟩, step, ⟨reached, rest⟩, ranRest, equal⟩
      simp only [Prod.mk.injEq] at equal
      rcases equal with ⟨rfl, rfl⟩
      exact .cons step (induction ranRest)

theorem reachable_of_run (model : Model State Action Event)
    (actions : List Action) {state : State} {trace : List Event}
    (ran : model.run model.initial actions = some (state, trace)) :
    model.Reachable trace state :=
  ⟨actions, transitions_of_run ran⟩

namespace Reachable

variable {trace past events : List Event} {state current next : State}
  {action : Action}

theorem initial : model.Reachable [] model.initial :=
  ⟨[], .nil⟩

theorem step (reachable : model.Reachable past current)
    (step : model.step current action = some (next, events)) :
    model.Reachable (past ++ events) next := by
  rcases reachable with ⟨actions, transitions⟩
  exact ⟨actions ++ [action], transitions.snoc step⟩

theorem transitions {actions : List Action}
    (reachable : model.Reachable past current)
    (transitions : model.Transitions current actions events next) :
    model.Reachable (past ++ events) next := by
  rcases reachable with ⟨before, reached⟩
  exact ⟨before ++ actions, reached.append transitions⟩

/-- The invariant rule from the initial state. Each step may use that the
state before it is reachable, hence every invariant proved earlier. -/
theorem invariant
    (reachable : model.Reachable trace state)
    (Invariant : List Event → State → Prop)
    (initially : Invariant [] model.initial)
    (preserved : ∀ {past current action next events},
      model.Reachable past current → Invariant past current →
      model.step current action = some (next, events) →
      Invariant (past ++ events) next) :
    Invariant trace state := by
  rcases reachable with ⟨actions, transitions⟩
  have strengthened : model.Reachable trace state ∧ Invariant trace state := by
    apply transitions.invariant fun past current =>
      model.Reachable past current ∧ Invariant past current
    · exact ⟨Reachable.initial, initially⟩
    · intro past current action next events holds step
      exact ⟨holds.1.step step, preserved holds.1 holds.2 step⟩
  exact strengthened.2

/-- What caused an event is in the trace, when every step that emits the event
has its cause before it. -/
theorem cause_of_mem {event : Event} (reachable : model.Reachable trace state)
    (member : event ∈ trace) (Cause : List Event → Prop)
    (kept : ∀ {past events}, Cause past → Cause (past ++ events))
    (causes : ∀ {past current action next events}, model.Reachable past current →
      model.step current action = some (next, events) → event ∈ events → Cause past) :
    Cause trace := by
  suffices found : event ∈ trace → Cause trace from found member
  apply reachable.invariant fun past _ => event ∈ past → Cause past
  · intro none
    cases none
  · intro past current action next events before holds step occurs
    apply kept
    rcases List.mem_append.mp occurs with earlier | now
    · exact holds earlier
    · exact causes before step now

/-- The invariant rule for what follows a reachable state. -/
theorem invariant_from {actions : List Action} {later : List Event} {final : State}
    (reachable : model.Reachable past current)
    (transitions : model.Transitions current actions later final)
    (Invariant : List Event → State → Prop)
    (initially : Invariant [] current)
    (preserved : ∀ {done middle action next events},
      model.Reachable (past ++ done) middle → Invariant done middle →
      model.step middle action = some (next, events) →
      Invariant (done ++ events) next) :
    Invariant later final := by
  have strengthened : model.Reachable (past ++ later) final ∧
      Invariant later final := by
    apply Transitions.invariant transitions fun done middle =>
      model.Reachable (past ++ done) middle ∧ Invariant done middle
    · exact ⟨by rwa [List.append_nil], initially⟩
    · intro done middle action next events holds step
      rw [← List.append_assoc]
      exact ⟨holds.1.step step, preserved holds.1 holds.2 step⟩
  exact strengthened.2

end Reachable

/-! ## Restricted machines -/

/-- The machine that takes a step only where the condition permits it. Its runs
are the runs whose steps all meet the condition. -/
def restrict (model : Model State Action Event)
    (condition : State → Action → Prop)
    [∀ state action, Decidable (condition state action)] :
    Model State Action Event where
  initial := model.initial
  step state action :=
    if condition state action then model.step state action else none

section Restrict

variable {condition : State → Action → Prop}
  [∀ state action, Decidable (condition state action)]

theorem restrict_step_eq_some {state : State} {action : Action}
    {result : State × List Event}
    (step : (model.restrict condition).step state action = some result) :
    condition state action ∧ model.step state action = some result := by
  simp only [restrict] at step
  split at step
  · exact ⟨‹_›, step⟩
  · cases step

/-- The invariant rule for runs whose steps all meet the condition. -/
theorem Reachable.restrict_invariant {trace : List Event} {state : State}
    (reachable : (model.restrict condition).Reachable trace state)
    (Invariant : List Event → State → Prop)
    (initially : Invariant [] model.initial)
    (preserved : ∀ {past current action next events},
      model.Reachable past current → Invariant past current →
      condition current action →
      model.step current action = some (next, events) →
      Invariant (past ++ events) next) :
    model.Reachable trace state ∧ Invariant trace state := by
  apply reachable.invariant fun past current =>
    model.Reachable past current ∧ Invariant past current
  · exact ⟨Reachable.initial, initially⟩
  · intro past current action next events _ holds step
    have taken := restrict_step_eq_some step
    exact ⟨holds.1.step taken.2, preserved holds.1 holds.2 taken.1 taken.2⟩

end Restrict

/-! ## Progress -/

/-- A run of allowed actions leads from one state to the other. -/
def Reaches (model : Model State Action Event) (allowed : Action → Prop)
    (start final : State) : Prop :=
  ∃ actions trace, (∀ action ∈ actions, allowed action) ∧
    model.Transitions start actions trace final

namespace Reaches

variable {allowed : Action → Prop} {start middle final : State}

theorem refl (state : State) : model.Reaches allowed state state :=
  ⟨[], [], by simp, .nil⟩

theorem single {action : Action} {events : List Event} (permitted : allowed action)
    (step : model.step start action = some (final, events)) :
    model.Reaches allowed start final :=
  ⟨[action], events, by simpa using permitted, .single step⟩

theorem trans (left : model.Reaches allowed start middle)
    (right : model.Reaches allowed middle final) :
    model.Reaches allowed start final := by
  rcases left with ⟨first, firstTrace, firstAllowed, firstRun⟩
  rcases right with ⟨second, secondTrace, secondAllowed, secondRun⟩
  refine ⟨first ++ second, firstTrace ++ secondTrace, ?_, firstRun.append secondRun⟩
  intro action member
  rcases List.mem_append.mp member with member | member
  · exact firstAllowed action member
  · exact secondAllowed action member

/-- A goal is reached when every state on the way can go on to one of lower
rank. -/
theorem of_rank (rank : State → Nat) (Invariant Goal : State → Prop)
    (lowers : ∀ state, Invariant state → Goal state ∨
      ∃ next, model.Reaches allowed state next ∧ Invariant next ∧
        rank next < rank state)
    (holds : Invariant start) :
    ∃ final, model.Reaches allowed start final ∧ Goal final := by
  induction bound : rank start using Nat.strongRecOn generalizing start with
  | ind bound induction =>
      rcases lowers start holds with goal | ⟨next, reaches, holdsNext, lower⟩
      · exact ⟨start, refl start, goal⟩
      · rcases induction (rank next) (by omega) holdsNext rfl with ⟨final, later, goal⟩
        exact ⟨final, reaches.trans later, goal⟩

end Reaches

end Model

/-! ## Views of traces -/

/-- The events of one party in a trace. -/
theorem mem_filterMap_view {Event View : Type} {view : Event → Option View}
    {embed : View → Event} (recovers : ∀ {event seen}, view event = some seen ↔ event = embed seen)
    {trace : List Event} {seen : View} : seen ∈ trace.filterMap view ↔ embed seen ∈ trace := by
  simp only [List.mem_filterMap, recovers, exists_eq_right]

/-! ## Simulations -/

/-- Every step of a reachable concrete state is matched by a run of the
abstract machine whose trace is the visible part of the concrete one. -/
structure Simulation {State Action Event State' Action' Event' : Type}
    (concrete : Model State Action Event)
    (abstract : Model State' Action' Event') where
  abstraction : State → State'
  view : Event → Option Event'
  initial : abstraction concrete.initial = abstract.initial
  step : ∀ {past current action next events},
    concrete.Reachable past current →
    concrete.step current action = some (next, events) →
    ∃ actions, abstract.Transitions (abstraction current) actions
      (events.filterMap view) (abstraction next)

namespace Simulation

variable {State Action Event State' Action' Event' : Type}
  {concrete : Model State Action Event} {abstract : Model State' Action' Event'}

theorem reachable (simulation : Simulation concrete abstract)
    {trace : List Event} {state : State}
    (reached : concrete.Reachable trace state) :
    abstract.Reachable (trace.filterMap simulation.view)
      (simulation.abstraction state) := by
  apply reached.invariant fun past current =>
    abstract.Reachable (past.filterMap simulation.view)
      (simulation.abstraction current)
  · rw [simulation.initial]
    exact .initial
  · intro past current action next events before holds step
    rcases simulation.step before step with ⟨actions, transitions⟩
    rw [List.filterMap_append]
    exact holds.transitions transitions

end Simulation

end RdsMetricCollector.Execution
