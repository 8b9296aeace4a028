import RdsMetricCollector.Scheduler.StopMessages

/-! # Shutdown

Once the main loop has left its `select` loop and no worker is registered, the
scheduler is quiescent: nothing starts and no goroutine does anything any more.
-/

namespace RdsMetricCollector.Scheduler

open RdsMetricCollector.Execution
open RdsMetricCollector.Runtime

/-- The main loop is in its deferred drain loop or has returned. -/
def MainPoint.LeftLoop (main : MainPoint) : Prop :=
  main = .draining ∨ main = .returned

/-- The main loop leaves its loop only with a cancelled context, and returns
only without registered workers. -/
structure ShutdownOrder (s : State) : Prop where
  cancelled : s.main.LeftLoop → s.registry.cancelled = true
  empty : s.main = .returned → s.registry.workers = ∅

theorem reap_frame {r next : Registry} {events : List Event}
    (reaped : r.reap = some (next, events)) :
    next.cancelled = r.cancelled ∧ next.goroutines = r.goroutines := by
  rcases Registry.reap_eq_some reaped with ⟨_, _, _, rfl, _⟩
  exact ⟨rfl, rfl⟩

private theorem Step.shutdownOrder {settings : Settings} {s next : State}
    {action : Action} {events : List Event}
    (step : Step settings s action next events) (order : ShutdownOrder s) :
    ShutdownOrder next := by
  cases step with
  | timerFires => exact ⟨order.cancelled, order.empty⟩
  | workersStopTimeoutFires => exact ⟨order.cancelled, order.empty⟩
  | stopReturns => exact ⟨order.cancelled, order.empty⟩
  | drainTimeout => exact ⟨order.cancelled, order.empty⟩
  | callStop => exact ⟨fun _ => rfl, order.empty⟩
  | cancelOnSignal => exact ⟨fun _ => rfl, nofun⟩
  | receiveDone main cancelled => exact ⟨fun _ => cancelled, nofun⟩
  | finishDraining main empty =>
      exact ⟨fun _ => order.cancelled (.inl main), fun _ => empty⟩
  | drainReceive registry events main nonempty reaped =>
      refine ⟨fun left => ?_, fun returned => ?_⟩
      · rw [(reap_frame reaped).1]
        exact order.cancelled left
      · rw [main] at returned
        cases returned
  | run index action registry events ran =>
      rcases Registry.runWorker_frame ran with ⟨workers, _, cancelled⟩
      refine ⟨fun left => ?_, fun returned => ?_⟩
      · exact cancelled.trans (order.cancelled left)
      · exact workers.trans (order.empty returned)
  | receiveStopped registry events main =>
      refine ⟨fun left => ?_, fun returned => ?_⟩
      · simp [MainPoint.LeftLoop, main] at left
      · rw [main] at returned
        cases returned
  | receiveTick | resetTimer | listInstancesFails | listInstancesSucceeds
  | skipRegistered | startMissing | finishStarting | skipDesired
  | cancelUndesired | finishRefresh | receiveSignal =>
      exact ⟨by simp [MainPoint.LeftLoop], nofun⟩

theorem shutdownOrder {settings : Settings} {trace : List Event} {s : State}
    (reachable : (model settings).Reachable trace s) : ShutdownOrder s := by
  apply reachable.invariant fun _ current => ShutdownOrder current
  · exact ⟨by simp [MainPoint.LeftLoop, model, State.initial], nofun⟩
  · intro past current action next events _ order stepped
    exact (step_inversion stepped).shutdownOrder order

/-- The main loop does not come back. -/
theorem Step.returned {settings : Settings} {s next : State} {action : Action}
    {events : List Event} (step : Step settings s action next events)
    (returned : s.main = .returned) : next.main = .returned := by
  cases step with
  | timerFires | workersStopTimeoutFires | callStop | stopReturns | run => exact returned
  | receiveTick _ main | resetTimer main | listInstancesFails _ main
  | listInstancesSucceeds _ _ main | skipRegistered _ _ _ _ main
  | startMissing _ _ _ _ main | finishStarting _ _ main | skipDesired _ _ _ _ main
  | cancelUndesired _ _ _ _ main | finishRefresh _ main | receiveStopped _ _ main
  | receiveSignal main | cancelOnSignal main | receiveDone main
  | drainReceive _ _ main | drainTimeout _ main =>
      rw [returned] at main
      cases main
  | finishDraining => rfl

/-! ## Quiescence -/

/-- The main loop starts no more workers: a signal was received, or it has
left its loop. -/
def MainPoint.Leaving : MainPoint → Prop
  | .signalled | .draining | .returned => True
  | _ => False

instance (main : MainPoint) : Decidable main.Leaving :=
  match main with
  | .signalled | .draining | .returned => .isTrue trivial
  | .selecting | .ticked | .listing | .starting _ _ | .cancelling _ _ =>
      .isFalse id

/-- The main loop is on its way out and no worker is registered. -/
structure Quiescent (s : State) : Prop where
  leaving : s.main.Leaving
  empty : s.registry.workers = ∅

/-- A worker is started or a goroutine does something. -/
def Event.IsWork : Event → Prop
  | .workerStarted _ _ | .worker _ _ _ => True
  | _ => False

private theorem Quiescent.finished {settings : Settings} {trace : List Event} {s : State}
    (reachable : (model settings).Reachable trace s) (quiescent : Quiescent s)
    {index : Nat} {g : Goroutine}
    (present : s.registry.goroutines[index]? = some g) : g.Finished := by
  by_contra running
  have found := (registry_consistent reachable).unfinished
    (show s.registry.statusAt index = some (g.worker.id, false) by
      simp [Registry.statusAt, present, running])
  rw [quiescent.empty, Finmap.lookup_empty] at found
  cases found

theorem Quiescent.step {settings : Settings} {trace : List Event}
    {s next : State} {action : Action} {events : List Event}
    (reachable : (model settings).Reachable trace s) (quiescent : Quiescent s)
    (step : Step settings s action next events) :
    Quiescent next ∧ ∀ event ∈ events, ¬event.IsWork := by
  have leaving := quiescent.leaving
  have empty := quiescent.empty
  cases step with
  | run index action registry events ran =>
      have frame := Registry.runWorker_frame ran
      refine ⟨⟨leaving, frame.1.trans empty⟩, ?_⟩
      rcases Registry.runWorker_eq_some ran with
        ⟨g, _, runEvents, _, present, moved, _, _, rfl⟩
      rw [moved.events_of_finished (quiescent.finished reachable present)]
      simp
  | timerFires => exact ⟨⟨leaving, empty⟩, by simp⟩
  | workersStopTimeoutFires => exact ⟨⟨leaving, empty⟩, by simp⟩
  | callStop => exact ⟨⟨leaving, empty⟩, by simp [Event.IsWork]⟩
  | stopReturns => exact ⟨⟨leaving, empty⟩, by simp [Event.IsWork]⟩
  | cancelOnSignal => exact ⟨⟨trivial, empty⟩, by simp [Event.IsWork]⟩
  | finishDraining => exact ⟨⟨trivial, empty⟩, by simp [Event.IsWork]⟩
  | drainReceive _ _ _ nonempty => exact absurd empty nonempty
  | drainTimeout _ _ nonempty => exact absurd empty nonempty
  | receiveTick _ main | resetTimer main | listInstancesFails _ main
  | listInstancesSucceeds _ _ main | skipRegistered _ _ _ _ main
  | startMissing _ _ _ _ main | finishStarting _ _ main | skipDesired _ _ _ _ main
  | cancelUndesired _ _ _ _ main | finishRefresh _ main | receiveStopped _ _ main
  | receiveSignal main | receiveDone main =>
      rw [main] at leaving
      cases leaving

/-- Nothing happens after quiescence but the return of the main loop and of
calls to `Stop`. -/
theorem Quiescent.transitions {settings : Settings} {past later : List Event}
    {s final : State} {actions : List Action}
    (reachable : (model settings).Reachable past s) (quiescent : Quiescent s)
    (transitions : (model settings).Transitions s actions later final) :
    Quiescent final ∧ ∀ event ∈ later, ¬event.IsWork := by
  apply reachable.invariant_from transitions fun done current =>
    Quiescent current ∧ ∀ event ∈ done, ¬event.IsWork
  · exact ⟨quiescent, by simp⟩
  · intro done current action next events reached holds stepped
    have taken := holds.1.step reached (step_inversion stepped)
    refine ⟨taken.1, ?_⟩
    intro event member
    rcases List.mem_append.mp member with member | member
    · exact holds.2 event member
    · exact taken.2 event member

end RdsMetricCollector.Scheduler
