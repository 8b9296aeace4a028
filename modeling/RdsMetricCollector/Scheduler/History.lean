import RdsMetricCollector.Scheduler.StopMessages

/-! # The history of a refresh

A refresh acts on a listing that was returned earlier in the run. Workers that
it does not desire were started before that listing.
-/

namespace RdsMetricCollector.Scheduler

open RdsMetricCollector.BrokerInfo
open RdsMetricCollector.Execution
open RdsMetricCollector.Runtime

/-! ## Started workers -/

namespace Registry

def workerAt (r : Registry) (index : Nat) : Option CollectorWorker :=
  r.goroutines[index]?.map Goroutine.worker

theorem workerAt_startWorker (settings : Settings) (r : Registry)
    (id : WorkerID) (instanceInfo : InstanceInfo) (index : Nat) :
    (r.startWorker settings id instanceInfo).workerAt index =
      if index = r.goroutines.length then
        some (newWorker settings id instanceInfo)
      else r.workerAt index := by
  rw [workerAt, getElem?_startWorker]
  split
  · rfl
  · rfl

theorem workerAt_cancelWorker (r : Registry) (cancelled index : Nat) :
    (r.cancelWorker cancelled).workerAt index = r.workerAt index := by
  simp only [workerAt, cancelWorker_goroutines, List.getElem?_modify]
  cases r.goroutines[index]? with
  | none => rfl
  | some g => by_cases same : cancelled = index <;> simp [same]

theorem workerAt_set {r : Registry} {index : Nat} {g next : Goroutine}
    (present : r.goroutines[index]? = some g)
    (sameWorker : next.worker = g.worker) (channel : Channel WorkerID 1)
    (other : Nat) :
    ({ r with
        goroutines := r.goroutines.set index next
        stoppedWorker := channel } : Registry).workerAt other =
      r.workerAt other := by
  have inRange := (List.getElem?_eq_some_iff.mp present).1
  simp only [workerAt]
  by_cases same : index = other
  · subst other
    rw [List.getElem?_set_self inRange, present, Option.map_some, sameWorker,
      Option.map_some]
  · rw [List.getElem?_set_ne same]

private theorem workerAt_length (r : Registry) : r.workerAt r.goroutines.length = none := by
  simp [workerAt]

/-- The goroutines are those whose start is in the trace. -/
theorem mem_started_iff {settings : Settings} {trace : List Event} {r : Registry}
    (reachable : (model settings).Reachable trace r) (index : Nat)
    (worker : CollectorWorker) :
    .workerStarted index worker ∈ trace ↔ r.workerAt index = some worker := by
  apply reachable.invariant fun past current =>
    .workerStarted index worker ∈ past ↔ current.workerAt index = some worker
  · simp [model, initial, workerAt]
  · intro past current action next events _ holds stepped
    rw [List.mem_append, holds]
    cases step_inversion stepped with
    | start id instanceInfo missing known =>
        rw [workerAt_startWorker, List.mem_singleton, Event.workerStarted.injEq]
        split
        case isTrue equal =>
          rw [equal, workerAt_length, Option.some.injEq]
          simp [eq_comm]
        case isFalse different => simp [different]
    | cancel other => simp [workerAt_cancelWorker]
    | reap id stoppedWorker received =>
        rw [List.mem_singleton]
        simp only [reduceCtorEq, or_false]
        rfl
    | cancelContext =>
        rw [List.mem_singleton]
        simp only [reduceCtorEq, or_false]
        rfl
    | run other action g moved runEvents present ran quiet =>
        simp [workerAt_set present ran.worker_eq current.stoppedWorker]
    | send other g rest stoppedWorker present point deferred room sent =>
        have sameWorker : { g with deferred := rest }.worker = g.worker := rfl
        rw [workerAt_set present sameWorker stoppedWorker]
        simp

end Registry

theorem mem_started_iff {settings : Settings} {trace : List Event} {s : State}
    (reachable : (model settings).Reachable trace s) (index : Nat)
    (worker : CollectorWorker) :
    .workerStarted index worker ∈ trace ↔
      s.registry.workerAt index = some worker := by
  rw [← Registry.mem_started_iff (registry_reachable reachable),
    List.mem_filterMap]
  constructor
  · intro member
    exact ⟨_, member, rfl⟩
  · intro visible
    rcases visible with ⟨event, member, equal⟩
    cases event <;> cases equal
    exact member

/-! ## Listings -/

def Event.listing? : Event → Option (List InstanceInfo)
  | .listInstancesReturned (.ok instanceInfos) => some instanceInfos
  | _ => none

/-- What the last successful call of `ListInstances` returned. -/
def lastListing (trace : List Event) : Option (List InstanceInfo) :=
  (trace.filterMap Event.listing?).getLast?

private theorem lastListing_append_quiet {past events : List Event}
    (quiet : events.filterMap Event.listing? = []) :
    lastListing (past ++ events) = lastListing past := by
  rw [lastListing, List.filterMap_append, quiet, List.append_nil, lastListing]

private theorem lastListing_append_listed (past : List Event)
    (instanceInfos : List InstanceInfo) :
    lastListing (past ++ [.listInstancesReturned (.ok instanceInfos)]) =
      some instanceInfos := by
  simp [lastListing, Event.listing?]

private theorem runWorker_listings {r next : Registry} {index : Nat} {action : RunAction}
    {events : List Event} (ran : r.runWorker index action = some (next, events)) :
    events.filterMap Event.listing? = [] := by
  rcases Registry.runWorker_eq_some ran with ⟨_, _, runEvents, _, _, _, _, _, rfl⟩
  rw [List.filterMap_map, List.filterMap_eq_nil_iff]
  intro event _
  rfl

/-- The desired workers of the refresh that is going on. -/
@[simp] def MainPoint.desired? : MainPoint → Option DesiredWorkers
  | .starting desired _ | .cancelling desired _ => some desired
  | _ => none

/-- The listing that a refresh acts on is the last one. Registered workers
that it does not desire were started before it. -/
def RefreshHistory (settings : Settings) (trace : List Event) (s : State) : Prop :=
  ∀ desired, s.main.desired? = some desired →
    ∃ instanceInfos, lastListing trace = some instanceInfos ∧
      (∀ id, id ∈ desired ↔
        Desires settings.metricsCollectorDrivers instanceInfos id) ∧
      ∀ id index, s.registry.workers.lookup id = some index → id ∉ desired →
        ∃ worker, [.workerStarted index worker,
          .listInstancesReturned (.ok instanceInfos)].Sublist trace

private theorem RefreshHistory.of_idle {settings : Settings} {trace : List Event}
    {s : State} (idle : s.main.desired? = none) :
    RefreshHistory settings trace s := by
  intro desired refreshing
  rw [idle] at refreshing
  cases refreshing

/-- Steps inside a refresh. New entries of the worker map are desired. -/
theorem RefreshHistory.frame {settings : Settings} {past events : List Event}
    {s next : State} (history : RefreshHistory settings past s)
    (sameDesired : next.main.desired? = s.main.desired?)
    (quiet : events.filterMap Event.listing? = [])
    (entries : ∀ desired, s.main.desired? = some desired →
      ∀ id index, next.registry.workers.lookup id = some index → id ∉ desired →
        s.registry.workers.lookup id = some index) :
    RefreshHistory settings (past ++ events) next := by
  intro desired refreshing
  rw [sameDesired] at refreshing
  rcases history desired refreshing with
    ⟨instanceInfos, last, desiredIff, startedBefore⟩
  refine ⟨instanceInfos, ?_, desiredIff, ?_⟩
  · rw [lastListing_append_quiet quiet, last]
  · intro id index found undesired
    have before := entries desired refreshing id index found undesired
    rcases startedBefore id index before undesired with ⟨worker, sublist⟩
    exact ⟨worker, sublist.trans (List.sublist_append_left _ _)⟩

private theorem Step.refreshHistory {settings : Settings} {past : List Event}
    {s next : State} {action : Action} {events : List Event}
    (reachable : (model settings).Reachable past s)
    (step : Step settings s action next events)
    (history : RefreshHistory settings past s) :
    RefreshHistory settings (past ++ events) next := by
  have progress := Scheduler.refreshProgress reachable
  cases step with
  | listInstancesSucceeds listing order main ranges visits =>
      intro desired refreshing
      cases refreshing
      refine ⟨listing.map Prod.fst, lastListing_append_listed _ _,
        mem_desiredWorkerIDs ranges, ?_⟩
      intro id index found _
      rcases (registry_consistent reachable).registered found with ⟨_, status⟩
      rcases Registry.exists_statusAt_iff.mp ⟨_, status⟩ with ⟨g, present, _⟩
      have started : .workerStarted index g.worker ∈ past :=
        (mem_started_iff reachable index g.worker).mpr
          (by simp [Registry.workerAt, present])
      exact ⟨g.worker, (List.singleton_sublist.mpr started).append (.refl _)⟩
  | startMissing desired id instanceInfo remaining main missing =>
      simp only [RefreshProgress, main] at progress
      have wanted : id ∈ desired :=
        Finmap.mem_of_lookup_eq_some (progress.2.1 ⟨id, instanceInfo⟩ (by simp))
      refine history.frame (by simp [main]) rfl ?_
      intro other refreshing otherId index found undesired
      rw [main] at refreshing
      cases refreshing
      rwa [Registry.startWorker_workers, Finmap.lookup_insert_of_ne] at found
      intro equal
      exact undesired (equal ▸ wanted)
  | skipRegistered desired id instanceInfo remaining main =>
      exact history.frame (by simp [main]) rfl fun _ _ _ _ found _ => found
  | finishStarting desired order main =>
      exact history.frame (by simp [main]) rfl fun _ _ _ _ found _ => found
  | skipDesired desired id index remaining main =>
      exact history.frame (by simp [main]) rfl fun _ _ _ _ found _ => found
  | cancelUndesired desired id index remaining main =>
      exact history.frame (by simp [main]) rfl fun _ _ _ _ found _ => found
  | run index action registry events ran =>
      refine history.frame rfl (runWorker_listings ran) ?_
      intro desired _ id index found _
      rwa [(Registry.runWorker_frame ran).1] at found
  | timerFires => exact history.frame rfl rfl fun _ _ _ _ found _ => found
  | workersStopTimeoutFires =>
      exact history.frame rfl rfl fun _ _ _ _ found _ => found
  | callStop => exact history.frame rfl rfl fun _ _ _ _ found _ => found
  | stopReturns => exact history.frame rfl rfl fun _ _ _ _ found _ => found
  | receiveStopped registry events main => exact .of_idle (by simp [main])
  | drainReceive registry events main => exact .of_idle (by simp [main])
  | drainTimeout timer main => exact .of_idle (by simp [main])
  | receiveTick | resetTimer | listInstancesFails | finishRefresh
  | receiveSignal | cancelOnSignal | receiveDone | finishDraining =>
      exact .of_idle rfl

theorem refreshHistory {settings : Settings} {trace : List Event} {s : State}
    (reachable : (model settings).Reachable trace s) :
    RefreshHistory settings trace s := by
  apply reachable.invariant (RefreshHistory settings)
  · exact .of_idle rfl
  · intro past current action next events reached history stepped
    exact (step_inversion stepped).refreshHistory reached history

end RdsMetricCollector.Scheduler
