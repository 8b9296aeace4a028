import RdsMetricCollector.Scheduler.MainLoop
import RdsMetricCollector.Scheduler.WorkerRun

/-! # Layers of the scheduler

Two simulations connect the layers. The share of one goroutine in a run of the
registry machine is a run of `collectorWorker.run` alone, and every run of the
scheduler, with its main loop, is a run of the registry machine.
-/

namespace RdsMetricCollector.Scheduler

open RdsMetricCollector.Execution
open RdsMetricCollector.Runtime

/-! ## Goroutines of the registry -/

/-- The share of the goroutine at `index` in what happens. -/
def Event.own (index : Nat) : Event → Option RunEvent
  | .worker other _ event => if other = index then some event else none
  | _ => none

def ownEvents (index : Nat) (trace : List Event) : List RunEvent :=
  trace.filterMap (Event.own index)

@[simp] theorem ownEvents_append (index : Nat) (left right : List Event) :
    ownEvents index (left ++ right) =
      ownEvents index left ++ ownEvents index right :=
  List.filterMap_append

theorem ownEvents_map_worker (index other : Nat) (id : WorkerID)
    (events : List RunEvent) :
    ownEvents index (events.map (.worker other id)) =
      if other = index then events else [] := by
  induction events with
  | nil => simp [ownEvents]
  | cons event events induction =>
      rw [ownEvents] at induction ⊢
      rw [List.map_cons, List.filterMap_cons, induction]
      by_cases same : other = index <;> simp [Event.own, same]

namespace Registry

/-- A goroutine's own step, seen from the goroutine at `index`. -/
theorem transitions_set {r : Registry} {index other : Nat}
    {g moved : Goroutine} {done : Bool} {action : RunAction}
    {events : List RunEvent} (id : WorkerID)
    (present : r.goroutines[other]? = some g)
    (ran : g.Step done action moved events) :
    ∃ actions, runModel.Transitions r.goroutines[index]? actions
      (ownEvents index (events.map (.worker other id)))
      (r.goroutines.set other moved)[index]? := by
  by_cases same : other = index
  · subst other
    refine ⟨[.act done action], .single ?_⟩
    rcases List.getElem?_eq_some_iff.mp present with ⟨inRange, _⟩
    rw [present, ownEvents_map_worker, if_pos rfl, List.getElem?_set_self inRange]
    simp [runModel, ran.step_eq]
  · refine ⟨[], ?_⟩
    rw [ownEvents_map_worker, if_neg same, List.getElem?_set_ne same]
    exact .nil

private theorem goroutine_step {settings : Settings} {r next : Registry}
    {action : Action} {events : List Event} (index : Nat)
    (step : Step settings r action next events) :
    ∃ actions, runModel.Transitions r.goroutines[index]? actions
      (ownEvents index events) next.goroutines[index]? := by
  cases step with
  | start id instanceInfo missing known =>
      rcases Finmap.mem_iff.mp known with ⟨driver, found⟩
      simp only [startWorker]
      rcases lt_trichotomy index r.goroutines.length with before | equal | after
      · rw [List.getElem?_append_left before]
        exact ⟨[], .nil⟩
      · subst index
        refine ⟨[.start (newWorker settings id instanceInfo)], .single ?_⟩
        simp [runModel, newWorker, found, ownEvents, Event.own]
      · rw [List.getElem?_eq_none (by omega), List.getElem?_eq_none (by simp; omega)]
        exact ⟨[], .nil⟩
  | cancel other =>
      simp only [cancelWorker, List.getElem?_modify]
      by_cases same : other = index
      · subst other
        cases present : r.goroutines[index]? with
        | none => exact ⟨[], by simpa [ownEvents, Event.own] using .nil⟩
        | some g =>
            exact ⟨[.cancel], .single (by simp [runModel, ownEvents, Event.own])⟩
      · simp only [same, if_false, Option.map_eq_map, Option.map_id_fun', id_eq]
        exact ⟨[], .nil⟩
  | reap id stoppedWorker buffer => exact ⟨[], .nil⟩
  | cancelContext => exact ⟨[], .nil⟩
  | run other action g moved runEvents present ran quiet =>
      exact transitions_set g.worker.id present ran
  | send other g rest stoppedWorker present point deferred room buffer =>
      have ran : g.Step (r.contextDone g) .runDeferred
          { g with deferred := rest } [.stoppedSent] :=
        .sendStopped rest point deferred
      exact transitions_set g.worker.id present ran

/-- What a goroutine of the registry does is a run of its own. -/
def goroutineSimulation (settings : Settings) (index : Nat) :
    Simulation (model settings) runModel where
  abstraction r := r.goroutines[index]?
  view := Event.own index
  initial := rfl
  step _ stepped := goroutine_step index (step_inversion stepped)

theorem ranTo {settings : Settings} {trace : List Event} {r : Registry}
    {index : Nat} {g : Goroutine} (reachable : (model settings).Reachable trace r)
    (present : r.goroutines[index]? = some g) :
    g.RanTo (ownEvents index trace) := by
  have reached : runModel.Reachable (ownEvents index trace)
      r.goroutines[index]? :=
    (goroutineSimulation settings index).reachable reachable
  rwa [present] at reached

theorem ownEvents_of_not_started {settings : Settings} {trace : List Event}
    {r : Registry} {index : Nat} (reachable : (model settings).Reachable trace r)
    (absent : r.goroutines[index]? = none) : ownEvents index trace = [] := by
  have reached : runModel.Reachable (ownEvents index trace)
      r.goroutines[index]? :=
    (goroutineSimulation settings index).reachable reachable
  rw [absent] at reached
  exact Goroutine.eq_nil_of_reachable_none reached

/-- Worker goroutines touch neither the worker map nor the wait group. -/
theorem runWorker_frame {r next : Registry} {index : Nat} {action : RunAction}
    {events : List Event} (ran : r.runWorker index action = some (next, events)) :
    next.workers = r.workers ∧ next.workersRunning = r.workersRunning ∧
      next.cancelled = r.cancelled := by
  rcases runWorker_eq_some ran with ⟨_, _, _, _, _, _, _, rfl, _⟩
  exact ⟨rfl, rfl, rfl⟩

end Registry

/-! ## Refreshes of the main loop -/

/-- `desired` was computed from a listing. -/
def DesiredBy (settings : Settings) (desired : DesiredWorkers) : Prop :=
  ∃ listing : Listing,
    (∀ listed ∈ listing, RangeOrder settings.metricsCollectorDrivers listed.2) ∧
      desired = desiredWorkerIDs listing

theorem DesiredBy.wants {settings : Settings} {desired : DesiredWorkers}
    (desiredBy : DesiredBy settings desired) {id : WorkerID}
    {instanceInfo : BrokerInfo.InstanceInfo}
    (found : desired.lookup id = some instanceInfo) :
    Wants settings.metricsCollectorDrivers id instanceInfo := by
  rcases desiredBy with ⟨listing, ranges, equal⟩
  subst equal
  exact (wants_of_lookup ranges found).2

/-- What a refresh has achieved and still has to do at each of its points. -/
def RefreshProgress (settings : Settings) (s : State) : Prop :=
  match s.main with
  | .starting desired remaining =>
      DesiredBy settings desired ∧
      (∀ entry ∈ remaining, desired.lookup entry.1 = some entry.2) ∧
      ∀ id ∈ desired, id ∈ s.registry.workers ∨ id ∈ remaining.map Sigma.fst
  | .cancelling desired remaining =>
      DesiredBy settings desired ∧
      (∀ entry ∈ remaining, s.registry.workers.lookup entry.1 = some entry.2) ∧
      ∀ id ∈ desired, id ∈ s.registry.workers
  | _ => True

private theorem RefreshProgress.frame {settings : Settings} {s next : State}
    (progress : RefreshProgress settings s) (main : next.main = s.main)
    (workers : next.registry.workers = s.registry.workers) :
    RefreshProgress settings next := by
  unfold RefreshProgress at progress ⊢
  rwa [main, workers]

private theorem Step.refreshProgress {settings : Settings} {s next : State}
    {action : Action} {events : List Event}
    (step : Step settings s action next events)
    (progress : RefreshProgress settings s) :
    RefreshProgress settings next := by
  cases step with
  | listInstancesSucceeds listing order main ranges visits =>
      refine ⟨⟨listing, ranges, rfl⟩, ?_, ?_⟩
      · intro entry member
        exact visits.mem_iff.mp member
      · intro id wanted
        rcases Finmap.mem_iff.mp wanted with ⟨instanceInfo, found⟩
        exact .inr (List.mem_map.mpr
          ⟨⟨id, instanceInfo⟩, visits.mem_iff.mpr found, rfl⟩)
  | skipRegistered desired id instanceInfo remaining main registered =>
      simp only [RefreshProgress, main] at progress
      rcases progress with ⟨desiredBy, known, covered⟩
      refine ⟨desiredBy, fun entry member => known entry (by simp [member]), ?_⟩
      intro other wanted
      rcases covered other wanted with present | later
      · exact .inl present
      · rcases List.mem_cons.mp later with rfl | later
        · exact .inl registered
        · exact .inr later
  | startMissing desired id instanceInfo remaining main missing =>
      simp only [RefreshProgress, main] at progress
      rcases progress with ⟨desiredBy, known, covered⟩
      refine ⟨desiredBy, fun entry member => known entry (by simp [member]), ?_⟩
      intro other wanted
      simp only [Registry.startWorker, Finmap.mem_insert]
      rcases covered other wanted with present | later
      · exact .inl (.inr present)
      · rcases List.mem_cons.mp later with rfl | later
        · exact .inl (.inl rfl)
        · exact .inr later
  | finishStarting desired order main visits =>
      simp only [RefreshProgress, main] at progress
      rcases progress with ⟨desiredBy, _, covered⟩
      refine ⟨desiredBy, fun entry member => visits.mem_iff.mp member, ?_⟩
      intro id wanted
      simpa using covered id wanted
  | skipDesired desired id index remaining main wanted =>
      simp only [RefreshProgress, main] at progress
      rcases progress with ⟨desiredBy, known, covered⟩
      exact ⟨desiredBy, fun entry member => known entry (by simp [member]), covered⟩
  | cancelUndesired desired id index remaining main unwanted =>
      simp only [RefreshProgress, main] at progress
      rcases progress with ⟨desiredBy, known, covered⟩
      exact ⟨desiredBy, fun entry member => known entry (by simp [member]), covered⟩
  | timerFires => exact progress.frame rfl rfl
  | callStop => exact progress.frame rfl rfl
  | stopReturns => exact progress.frame rfl rfl
  | workersStopTimeoutFires => exact progress.frame rfl rfl
  | drainTimeout timer main => exact progress.frame rfl rfl
  | run index action registry events ran =>
      exact progress.frame rfl (Registry.runWorker_frame ran).1
  | receiveStopped registry events main => simp [RefreshProgress, main]
  | drainReceive registry events main => simp [RefreshProgress, main]
  | receiveTick | resetTimer | listInstancesFails | finishRefresh
  | receiveSignal | cancelOnSignal | receiveDone | finishDraining => trivial

theorem refreshProgress {settings : Settings} {trace : List Event} {s : State}
    (reachable : (model settings).Reachable trace s) :
    RefreshProgress settings s := by
  apply reachable.invariant fun _ current => RefreshProgress settings current
  · trivial
  · intro past current action next events _ progress stepped
    exact (step_inversion stepped).refreshProgress progress

/-! ## The scheduler and its registry -/

/-- The events of the registry machine. -/
def Event.registryEvent : Event → Option Event
  | .listInstancesCalled | .listInstancesReturned _ | .stopReturned
  | .mainLoopReturned => none
  | event => some event

private theorem reap_events {r next : Registry} {events : List Event}
    (reaped : r.reap = some (next, events)) :
    events.filterMap Event.registryEvent = events := by
  rcases Registry.reap_eq_some reaped with ⟨_, _, _, _, rfl⟩
  rfl

private theorem runWorker_events {r next : Registry} {index : Nat} {action : RunAction}
    {events : List Event} (ran : r.runWorker index action = some (next, events)) :
    events.filterMap Event.registryEvent = events := by
  rcases Registry.runWorker_eq_some ran with ⟨_, _, runEvents, _, _, _, _, _, rfl⟩
  rw [List.filterMap_map]
  exact congrFun List.filterMap_eq_map runEvents

private theorem registry_step {settings : Settings} {s next : State} {action : Action}
    {events : List Event} (progress : RefreshProgress settings s)
    (step : Step settings s action next events) :
    ∃ actions, (Registry.model settings).Transitions s.registry actions
      (events.filterMap Event.registryEvent) next.registry := by
  cases step with
  | startMissing desired id instanceInfo remaining main missing =>
      simp only [RefreshProgress, main] at progress
      have wants := progress.1.wants (progress.2.1 ⟨id, instanceInfo⟩ (by simp))
      have known : id.driver ∈ settings.metricsCollectorDrivers := by
        rcases wants with ⟨_, driver, found, _⟩
        exact Finmap.mem_of_lookup_eq_some found
      refine ⟨[.start id instanceInfo], .single ?_⟩
      simp [Registry.model, Registry.step, missing, known, Event.registryEvent]
  | cancelUndesired desired id index remaining main unwanted =>
      exact ⟨[.cancel index], .single rfl⟩
  | receiveStopped registry events main reaped =>
      exact ⟨[.reap], .single (by rw [reap_events reaped]; exact reaped)⟩
  | drainReceive registry events main nonempty reaped =>
      exact ⟨[.reap], .single (by rw [reap_events reaped]; exact reaped)⟩
  | cancelOnSignal main => exact ⟨[.cancelContext], .single rfl⟩
  | callStop => exact ⟨[.cancelContext], .single rfl⟩
  | run index action registry events ran =>
      exact ⟨[.run index action],
        .single (by rw [runWorker_events ran]; exact ran)⟩
  | timerFires | receiveTick | resetTimer | listInstancesFails
  | listInstancesSucceeds | skipRegistered | finishStarting | skipDesired
  | finishRefresh | receiveSignal | receiveDone | workersStopTimeoutFires
  | drainTimeout | finishDraining | stopReturns => exact ⟨[], .nil⟩

/-- The main loop uses the registry as the registry machine allows. -/
def registrySimulation (settings : Settings) :
    Simulation (model settings) (Registry.model settings) where
  abstraction := State.registry
  view := Event.registryEvent
  initial := rfl
  step reachable stepped :=
    registry_step (refreshProgress reachable) (step_inversion stepped)

/-- Views that ignore what the registry does not see are views of its runs. -/
theorem filterMap_registryEvent {α : Type} {view : Event → Option α}
    (unseen : ∀ event : Event, event.registryEvent = none → view event = none)
    (trace : List Event) :
    (trace.filterMap Event.registryEvent).filterMap view = trace.filterMap view := by
  rw [List.filterMap_filterMap]
  apply List.filterMap_congr
  intro event _
  cases event with
  | listInstancesCalled | listInstancesReturned | stopReturned | mainLoopReturned =>
      exact (unseen _ rfl).symm
  | _ => rfl

theorem ownEvents_registryEvent (index : Nat) (trace : List Event) :
    ownEvents index (trace.filterMap Event.registryEvent) = ownEvents index trace := by
  apply filterMap_registryEvent
  intro event
  cases event <;> simp [Event.registryEvent, Event.own]

/-- The share of a goroutine in a run of the scheduler is a run of its own. -/
theorem ranTo {settings : Settings} {trace : List Event} {s : State}
    {index : Nat} {g : Goroutine} (reachable : (model settings).Reachable trace s)
    (present : s.registry.goroutines[index]? = some g) :
    g.RanTo (ownEvents index trace) := by
  have ran := Registry.ranTo ((registrySimulation settings).reachable reachable) present
  rwa [show (registrySimulation settings).view = Event.registryEvent from rfl,
    ownEvents_registryEvent] at ran

end RdsMetricCollector.Scheduler
