import RdsMetricCollector.Scheduler.RefreshLoops

/-! # Runs of a refresh

The runs of the main loop that go through the loops of a refresh. Steps of
other goroutines in between do not change what a refresh starts and cancels, so
they can be left out of a run.
-/

namespace RdsMetricCollector.Scheduler

open RdsMetricCollector.BrokerInfo
open RdsMetricCollector.Execution
open RdsMetricCollector.Runtime

/-! ## Undisturbed refreshes -/

/-- The steps of the main loop between `ListInstances` and the next `select`. -/
def Action.isRefresh : Action → Bool
  | .listInstancesFails _ | .listInstancesSucceeds _ _ | .startNext
  | .finishStarting _ | .cancelNext | .finishRefresh => true
  | _ => false

open Registry in
/-- Where the main loop can be in a refresh that began in `s` when nothing else
happens, with the trace of the refresh so far. -/
inductive RefreshPoint (settings : Settings) (s : State) : List Event → State → Prop
  | listing : s.main = .listing → RefreshPoint settings s [] s
  | failed (err) :
      RefreshPoint settings s [.listInstancesReturned (.error err)]
        { s with main := .selecting }
  | starting (listing visited remaining) :
      (∀ listed ∈ listing, RangeOrder settings.metricsCollectorDrivers listed.2) →
      RangeOrder (desiredWorkerIDs listing) (visited ++ remaining) →
      RefreshPoint settings s
        (.listInstancesReturned (.ok (listing.map Prod.fst)) ::
          (startDesired settings s.registry visited).2)
        { s with
          main := .starting (desiredWorkerIDs listing) remaining
          registry := (startDesired settings s.registry visited).1 }
  | cancelling (listing order visited remaining started) :
      (∀ listed ∈ listing, RangeOrder settings.metricsCollectorDrivers listed.2) →
      RangeOrder (desiredWorkerIDs listing) order →
      startDesired settings s.registry order = started →
      RangeOrder started.1.workers (visited ++ remaining) →
      RefreshPoint settings s
        (.listInstancesReturned (.ok (listing.map Prod.fst)) :: (started.2 ++
          (cancelUndesired (desiredWorkerIDs listing) started.1 visited).2))
        { s with
          main := .cancelling (desiredWorkerIDs listing) remaining
          registry := (cancelUndesired (desiredWorkerIDs listing) started.1 visited).1 }
  | finished (listing order registered started) :
      (∀ listed ∈ listing, RangeOrder settings.metricsCollectorDrivers listed.2) →
      RangeOrder (desiredWorkerIDs listing) order →
      startDesired settings s.registry order = started →
      RangeOrder started.1.workers registered →
      RefreshPoint settings s
        (.listInstancesReturned (.ok (listing.map Prod.fst)) :: (started.2 ++
          (cancelUndesired (desiredWorkerIDs listing) started.1 registered).2))
        { s with
          main := .selecting
          registry :=
            (cancelUndesired (desiredWorkerIDs listing) started.1 registered).1 }

private theorem RefreshPoint.step {settings : Settings} {s current next : State}
    {past events : List Event} {action : Action}
    (point : RefreshPoint settings s past current) (refreshes : action.isRefresh)
    (stepped : Step settings current action next events) :
    RefreshPoint settings s (past ++ events) next := by
  cases stepped with
  | listInstancesFails err main =>
      cases point with
      | listing begins => exact .failed err
      | _ => cases main
  | listInstancesSucceeds listing order main ranges visits =>
      cases point with
      | listing begins => exact .starting listing [] order ranges visits
      | _ => cases main
  | skipRegistered desired id instanceInfo remaining main registered =>
      cases point with
      | starting listing visited ahead ranges visits =>
          cases main
          have visited : RefreshPoint settings s _ _ :=
            .starting listing (visited ++ [⟨id, instanceInfo⟩]) remaining ranges
              (by simpa using visits)
          rw [Registry.startDesired_append, Registry.startEntry, if_pos registered]
            at visited
          rw [List.append_nil]
          exact visited
      | listing begins => rw [begins] at main; cases main
      | _ => cases main
  | startMissing desired id instanceInfo remaining main missing =>
      cases point with
      | starting listing visited ahead ranges visits =>
          cases main
          have visited : RefreshPoint settings s _ _ :=
            .starting listing (visited ++ [⟨id, instanceInfo⟩]) remaining ranges
              (by simpa using visits)
          rw [Registry.startDesired_append, Registry.startEntry, if_neg missing]
            at visited
          exact visited
      | listing begins => rw [begins] at main; cases main
      | _ => cases main
  | finishStarting desired order main visits =>
      cases point with
      | starting listing visited ahead ranges desires =>
          cases main
          rw [List.append_nil] at desires
          have visited : RefreshPoint settings s _ _ :=
            .cancelling listing visited [] order _ ranges desires rfl visits
          simpa [Registry.cancelUndesired] using visited
      | listing begins => rw [begins] at main; cases main
      | _ => cases main
  | skipDesired desired id index remaining main wanted =>
      cases point with
      | cancelling listing order visited ahead started ranges desires starts visits =>
          cases main
          have visited : RefreshPoint settings s _ _ :=
            .cancelling listing order (visited ++ [⟨id, index⟩]) remaining started ranges
              desires starts (by simpa using visits)
          rw [Registry.cancelUndesired_append, Registry.cancelEntry, if_pos wanted]
            at visited
          rw [List.append_nil]
          exact visited
      | listing begins => rw [begins] at main; cases main
      | _ => cases main
  | cancelUndesired desired id index remaining main unwanted =>
      cases point with
      | cancelling listing order visited ahead started ranges desires starts visits =>
          cases main
          have visited : RefreshPoint settings s _ _ :=
            .cancelling listing order (visited ++ [⟨id, index⟩]) remaining started ranges
              desires starts (by simpa using visits)
          rw [Registry.cancelUndesired_append, Registry.cancelEntry, if_neg unwanted]
            at visited
          rw [List.cons_append, List.append_assoc]
          exact visited
      | listing begins => rw [begins] at main; cases main
      | _ => cases main
  | finishRefresh desired main =>
      cases point with
      | cancelling listing order visited ahead started ranges desires starts visits =>
          cases main
          rw [List.append_nil] at visits ⊢
          exact .finished listing order visited started ranges desires starts visits
      | listing begins => rw [begins] at main; cases main
      | _ => cases main
  | _ => cases refreshes

variable {settings : Settings} {s current next : State} {actions : List Action}
  {trace events : List Event} {action : Action}

theorem refreshPoint (begins : s.main = .listing)
    (transitions : (model settings).Transitions s actions trace next)
    (refreshes : ∀ action ∈ actions, action.isRefresh) :
    RefreshPoint settings s trace next := by
  induction transitions with
  | nil => exact .listing begins
  | snoc _ stepped induction =>
      simp only [List.mem_append, List.mem_singleton] at refreshes
      have point := induction fun action member => refreshes action (.inl member)
      exact point.step (refreshes _ (.inr rfl)) (step_inversion stepped)

/-! ## A refresh comes to its end -/

/-- `next` is reached from `s` by steps of the refresh alone. -/
def RefreshReaches (settings : Settings) : State → State → Prop :=
  (model settings).Reaches fun action => action.isRefresh

private theorem Step.refreshReaches (stepped : Step settings s action next events)
    (refreshes : action.isRefresh) : RefreshReaches settings s next :=
  .single refreshes stepped.step_eq

private theorem exists_startNext {desired : DesiredWorkers} {entry : DesiredEntry}
    {remaining : List DesiredEntry}
    (main : s.main = .starting desired (entry :: remaining)) :
    ∃ next, RefreshReaches settings s next ∧
      next.main = .starting desired remaining := by
  by_cases registered : entry.1 ∈ s.registry.workers
  · have skipped : Step settings s .startNext _ _ :=
      .skipRegistered desired _ _ _ main registered
    exact ⟨_, skipped.refreshReaches rfl, rfl⟩
  · have started : Step settings s .startNext _ _ :=
      .startMissing desired _ _ _ main registered
    exact ⟨_, started.refreshReaches rfl, rfl⟩

private theorem exists_cancelNext {desired : DesiredWorkers} {entry : WorkerEntry}
    {remaining : List WorkerEntry}
    (main : s.main = .cancelling desired (entry :: remaining)) :
    ∃ next, RefreshReaches settings s next ∧
      next.main = .cancelling desired remaining := by
  by_cases wanted : entry.1 ∈ desired
  · have skipped : Step settings s .cancelNext _ _ :=
      .skipDesired desired _ _ _ main wanted
    exact ⟨_, skipped.refreshReaches rfl, rfl⟩
  · have cancelled : Step settings s .cancelNext _ _ :=
      .cancelUndesired desired _ _ _ main wanted
    exact ⟨_, cancelled.refreshReaches rfl, rfl⟩

private theorem exists_finished_of_cancelling {desired : DesiredWorkers}
    {remaining : List WorkerEntry} (main : s.main = .cancelling desired remaining) :
    ∃ final, RefreshReaches settings s final ∧ final.main = .selecting := by
  induction remaining generalizing s with
  | nil => exact ⟨_, (Step.finishRefresh desired main).refreshReaches rfl, rfl⟩
  | cons entry remaining induction =>
      rcases exists_cancelNext main with ⟨next, reaches, visited⟩
      rcases induction visited with ⟨final, later, ends⟩
      exact ⟨final, reaches.trans later, ends⟩

private theorem exists_finished_of_starting {desired : DesiredWorkers}
    {remaining : List DesiredEntry} (main : s.main = .starting desired remaining) :
    ∃ final, RefreshReaches settings s final ∧ final.main = .selecting := by
  induction remaining generalizing s with
  | nil =>
      rcases exists_rangeOrder s.registry.workers with ⟨order, visits⟩
      have finished : Step settings s (.finishStarting order) _ [] :=
        .finishStarting desired order main visits
      have cancelling : { s with main := .cancelling desired order }.main =
        .cancelling desired order := rfl
      rcases exists_finished_of_cancelling cancelling with ⟨final, later, ends⟩
      exact ⟨final, (finished.refreshReaches rfl).trans later, ends⟩
  | cons entry remaining induction =>
      rcases exists_startNext main with ⟨next, reaches, visited⟩
      rcases induction visited with ⟨final, later, ends⟩
      exact ⟨final, reaches.trans later, ends⟩

/-- Whatever is listed, and in whichever orders the maps are visited, the main
loop gets through the refresh. -/
theorem exists_refresh (begins : s.main = .listing) {listing : Listing}
    {order : List DesiredEntry}
    (ranges : ∀ listed ∈ listing, RangeOrder settings.metricsCollectorDrivers listed.2)
    (visits : RangeOrder (desiredWorkerIDs listing) order) :
    ∃ actions trace final,
      (∀ action ∈ actions, action.isRefresh) ∧
      (model settings).Transitions s actions
        (.listInstancesReturned (.ok (listing.map Prod.fst)) :: trace) final ∧
      final.main = .selecting := by
  have listed : Step settings s (.listInstancesSucceeds listing order) _ _ :=
    .listInstancesSucceeds listing order begins ranges visits
  have starting : { s with main := .starting (desiredWorkerIDs listing) order }.main =
    .starting (desiredWorkerIDs listing) order := rfl
  rcases exists_finished_of_starting starting with
    ⟨final, ⟨actions, trace, refreshes, transitions⟩, ends⟩
  refine ⟨.listInstancesSucceeds listing order :: actions, trace, final, ?_,
    .cons listed.step_eq transitions, ends⟩
  rw [List.forall_mem_cons]
  exact ⟨rfl, refreshes⟩

/-! ## Leaving out other goroutines -/

/-- The steps that are not the main loop's. -/
def Action.isOutside : Action → Bool
  | .timerFires | .workersStopTimeoutFires | .callStop | .stopReturns
  | .run _ _ => true
  | _ => false

private theorem Action.isRefresh_eq_false_of_isOutside (outside : action.isOutside) :
    action.isRefresh = false := by
  cases action <;> first | rfl | cases outside

def Event.ofRefresh : Event → Bool
  | .listInstancesReturned _ | .workerStarted _ _ | .workerCancelled _ => true
  | _ => false

/-- The two states are the same for the refresh of the main loop. -/
structure AgreesInRefresh (current isolated : State) : Prop where
  main : current.main = isolated.main
  workers : current.registry.workers = isolated.registry.workers
  started : ∀ index,
    current.registry.workerAt index = isolated.registry.workerAt index
  length : current.registry.goroutines.length = isolated.registry.goroutines.length

namespace AgreesInRefresh

variable {isolated : State}

private theorem of_registry_eq (agrees : AgreesInRefresh current isolated)
    {isolatedNext : State} (main : next.main = isolatedNext.main)
    (registry : next.registry = current.registry)
    (isolatedRegistry : isolatedNext.registry = isolated.registry) :
    AgreesInRefresh next isolatedNext where
  main := main
  workers := by rw [registry, isolatedRegistry, agrees.workers]
  started := by rw [registry, isolatedRegistry]; exact agrees.started
  length := by rw [registry, isolatedRegistry, agrees.length]

private theorem refresh_step (agrees : AgreesInRefresh current isolated)
    (refreshes : action.isRefresh) (stepped : Step settings current action next events) :
    ∃ isolatedNext, Step settings isolated action isolatedNext events ∧
      AgreesInRefresh next isolatedNext ∧ events.filter Event.ofRefresh = events := by
  have main := agrees.main
  cases stepped with
  | listInstancesFails err begins =>
      exact ⟨_, .listInstancesFails err (main ▸ begins),
        agrees.of_registry_eq rfl rfl rfl, rfl⟩
  | listInstancesSucceeds listing order begins ranges visits =>
      exact ⟨_, .listInstancesSucceeds listing order (main ▸ begins) ranges visits,
        agrees.of_registry_eq rfl rfl rfl, rfl⟩
  | skipRegistered desired id instanceInfo remaining starting registered =>
      exact ⟨_, .skipRegistered desired id instanceInfo remaining (main ▸ starting)
        (agrees.workers ▸ registered), agrees.of_registry_eq rfl rfl rfl, rfl⟩
  | startMissing desired id instanceInfo remaining starting missing =>
      rw [agrees.length]
      refine ⟨_, .startMissing desired id instanceInfo remaining (main ▸ starting)
        (agrees.workers ▸ missing), ⟨rfl, ?_, ?_, ?_⟩, rfl⟩
      · simp [agrees.workers, agrees.length]
      · intro index
        simp only [Registry.workerAt_startWorker, agrees.length, agrees.started]
      · simp [agrees.length]
  | finishStarting desired order starting visits =>
      exact ⟨_, .finishStarting desired order (main ▸ starting)
        (agrees.workers ▸ visits), agrees.of_registry_eq rfl rfl rfl, rfl⟩
  | skipDesired desired id index remaining cancelling wanted =>
      exact ⟨_, .skipDesired desired id index remaining (main ▸ cancelling) wanted,
        agrees.of_registry_eq rfl rfl rfl, rfl⟩
  | cancelUndesired desired id index remaining cancelling unwanted =>
      refine ⟨_, .cancelUndesired desired id index remaining (main ▸ cancelling) unwanted,
        ⟨rfl, agrees.workers, ?_, ?_⟩, rfl⟩
      · intro other
        simp only [Registry.workerAt_cancelWorker, agrees.started]
      · simp [agrees.length]
  | finishRefresh desired cancelling =>
      exact ⟨_, .finishRefresh desired (main ▸ cancelling),
        agrees.of_registry_eq rfl rfl rfl, rfl⟩
  | _ => cases refreshes

private theorem outside_step (agrees : AgreesInRefresh current isolated)
    (outside : action.isOutside) (stepped : Step settings current action next events) :
    AgreesInRefresh next isolated ∧ events.filter Event.ofRefresh = [] := by
  cases stepped with
  | run index action registry events ran =>
      rcases Registry.runWorker_eq_some ran with
        ⟨g, moved, runEvents, channel, present, step, sent, rfl, rfl⟩
      refine ⟨⟨agrees.main, agrees.workers, ?_, ?_⟩, ?_⟩
      · intro other
        rw [← agrees.started]
        exact Registry.workerAt_set present step.worker_eq channel other
      · simp [agrees.length]
      · simp [List.filter_map, Function.comp_def, Event.ofRefresh]
  | callStop => exact ⟨⟨agrees.main, agrees.workers, agrees.started, agrees.length⟩, rfl⟩
  | timerFires | workersStopTimeoutFires | stopReturns =>
      exact ⟨agrees.of_registry_eq agrees.main rfl rfl, rfl⟩
  | _ => cases outside

end AgreesInRefresh

/-- The steps of a run that belong to the refresh are a run of their own, with
the same starts and cancellations. -/
theorem exists_isolated (transitions : (model settings).Transitions s actions trace next)
    (allowed : ∀ action ∈ actions, action.isRefresh ∨ action.isOutside) :
    ∃ isolated,
      (model settings).Transitions s (actions.filter Action.isRefresh)
        (trace.filter Event.ofRefresh) isolated ∧
      AgreesInRefresh next isolated := by
  induction transitions with
  | nil => exact ⟨s, .nil, rfl, rfl, fun _ => rfl, rfl⟩
  | @snoc actions trace middle action events final _ stepped induction =>
      simp only [List.mem_append, List.mem_singleton] at allowed
      rcases induction fun action member => allowed action (.inl member) with
        ⟨isolated, reached, agrees⟩
      have inverted := step_inversion stepped
      rw [List.filter_append, List.filter_append]
      rcases allowed action (.inr rfl) with refreshes | outside
      · rcases agrees.refresh_step refreshes inverted with
          ⟨isolatedNext, isolatedStep, agreesNext, own⟩
        rw [List.filter_singleton, refreshes, own]
        exact ⟨isolatedNext, reached.snoc isolatedStep.step_eq, agreesNext⟩
      · rcases agrees.outside_step outside inverted with ⟨agreesNext, foreign⟩
        rw [List.filter_singleton, Action.isRefresh_eq_false_of_isOutside outside, foreign,
          List.append_nil]
        exact ⟨isolated, by simpa using reached, agreesNext⟩

end RdsMetricCollector.Scheduler
