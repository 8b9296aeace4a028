import RdsMetricCollector.Scheduler.Emission
import RdsMetricCollector.Scheduler.History

/-! # Where emitted metrics come from

Every envelope goes back to a collection of the worker that emitted it, and the
worker to a listing that desired it.
-/

namespace RdsMetricCollector.Scheduler

open RdsMetricCollector.BrokerInfo
open RdsMetricCollector.Execution

variable {settings : Settings} {trace : List Event} {s : State}

/-! ## The worker behind an event -/

private theorem Step.started_of_worker {past events : List Event} {next : State} {action : Action}
    (reachable : (model settings).Reachable past s)
    (step : Step settings s action next events) {index : Nat} {id : WorkerID}
    {event : RunEvent} (member : .worker index id event ∈ events) :
    ∃ worker, .workerStarted index worker ∈ past ∧ worker.id = id := by
  cases step with
  | run other action registry events ran =>
      rcases Registry.runWorker_eq_some ran with
        ⟨g, moved, runEvents, _, present, _, _, _, rfl⟩
      rcases List.mem_map.mp member with ⟨_, _, equal⟩
      cases equal
      refine ⟨g.worker, (mem_started_iff reachable _ _).mpr ?_, rfl⟩
      simp [Registry.workerAt, present]
  | receiveStopped registry events main reaped =>
      rcases Registry.reap_eq_some reaped with ⟨deleted, channel, _, rfl, rfl⟩
      simp at member
  | drainReceive registry events main busy reaped =>
      rcases Registry.reap_eq_some reaped with ⟨deleted, channel, _, rfl, rfl⟩
      simp at member
  | timerFires | receiveTick | resetTimer | listInstancesFails | listInstancesSucceeds
  | startMissing | skipRegistered | finishStarting | skipDesired | cancelUndesired
  | finishRefresh | receiveSignal | cancelOnSignal | receiveDone
  | workersStopTimeoutFires | drainTimeout | finishDraining | callStop | stopReturns =>
      simp at member

private theorem started_of_worker (reachable : (model settings).Reachable trace s) {index : Nat}
    {id : WorkerID} {event : RunEvent} (member : .worker index id event ∈ trace) :
    ∃ worker, .workerStarted index worker ∈ trace ∧ worker.id = id := by
  apply reachable.cause_of_mem member
    fun past => ∃ worker, .workerStarted index worker ∈ past ∧ worker.id = id
  · intro past events found
    rcases found with ⟨worker, started, same⟩
    exact ⟨worker, List.mem_append_left events started, same⟩
  · intro past current action next events before step now
    exact (step_inversion step).started_of_worker before now

/-- A goroutine runs one worker, whose id its events carry. -/
theorem id_of_worker (reachable : (model settings).Reachable trace s) {index : Nat}
    {g : Goroutine} (present : s.registry.goroutines[index]? = some g) {id : WorkerID}
    {event : RunEvent} (member : .worker index id event ∈ trace) : g.worker.id = id := by
  rcases started_of_worker reachable member with ⟨worker, started, same⟩
  have found := (mem_started_iff reachable index worker).mp started
  simp only [Registry.workerAt, present, Option.map_some, Option.some.injEq] at found
  rw [found, same]

theorem exists_goroutine (reachable : (model settings).Reachable trace s) {index : Nat}
    {id : WorkerID} {event : RunEvent} (member : .worker index id event ∈ trace) :
    ∃ g, s.registry.goroutines[index]? = some g ∧ g.worker.id = id := by
  rcases started_of_worker reachable member with ⟨worker, started, same⟩
  have found := (mem_started_iff reachable index worker).mp started
  rcases Option.map_eq_some_iff.mp found with ⟨g, present, equal⟩
  exact ⟨g, present, by rw [equal, same]⟩

theorem mem_ownEvents {index : Nat} {event : RunEvent} :
    event ∈ ownEvents index trace ↔ ∃ id, .worker index id event ∈ trace := by
  rw [ownEvents, List.mem_filterMap]
  constructor
  · intro own
    rcases own with ⟨outer, member, view⟩
    cases outer with
    | worker other id inner =>
        simp only [Event.own, Option.ite_none_right_eq_some, Option.some.injEq] at view
        rcases view with ⟨rfl, rfl⟩
        exact ⟨id, member⟩
    | listInstancesCalled | listInstancesReturned | workerStarted | workerCancelled
    | workerDeleted | contextCancelled | stopReturned | mainLoopReturned => cases view
  · intro own
    rcases own with ⟨id, member⟩
    exact ⟨_, member, if_pos rfl⟩

/-! ## The collection behind an envelope -/

theorem mem_wrap {guid : String} {collected : List Metric} {envelope : MetricEnvelope}
    (member : envelope ∈ wrap guid collected) :
    envelope.instanceGUID = guid ∧ envelope.metric ∈ collected := by
  rcases List.mem_map.mp member with ⟨metric, metricMember, rfl⟩
  exact ⟨rfl, metricMember⟩

theorem Goroutine.EmittedAt.mem_collections {g : Goroutine} {events : List RunEvent}
    (emitted : g.EmittedAt events) {envelope : MetricEnvelope}
    (member : envelope ∈ envelopes events) :
    envelope.instanceGUID = g.worker.id.instanceGUID ∧
      ∃ collected ∈ collections events, envelope.metric ∈ collected := by
  unfold Goroutine.EmittedAt at emitted
  split at emitted
  · rcases emitted with ⟨earlier, sent, collects, emits⟩
    rw [emits] at member
    rcases mem_wrap member with ⟨guid, metric⟩
    refine ⟨guid, ?_⟩
    rw [collects]
    rcases List.mem_append.mp metric with before | last
    · rcases List.mem_flatten.mp before with ⟨collected, collectedMember, metricMember⟩
      exact ⟨collected, List.mem_append_left _ collectedMember, metricMember⟩
    · exact ⟨_, List.mem_concat_self, List.mem_append_left _ last⟩
  · rw [emitted] at member
    rcases mem_wrap member with ⟨guid, metric⟩
    rcases List.mem_flatten.mp metric with ⟨collected, collectedMember, metricMember⟩
    exact ⟨guid, collected, collectedMember, metricMember⟩

theorem mem_collections {events : List RunEvent} {collected : List Metric} :
    collected ∈ collections events ↔ .collectReturned collected none ∈ events := by
  rw [collections, List.mem_filterMap]
  constructor
  · intro found
    rcases found with ⟨event, member, view⟩
    unfold RunEvent.collected? at view
    split at view
    · cases view
      exact member
    · cases view
  · intro member
    exact ⟨_, member, rfl⟩

theorem collection_of_emitted (reachable : (model settings).Reachable trace s)
    {index : Nat} {id : WorkerID} {envelope : MetricEnvelope}
    (member : .worker index id (.emitted envelope) ∈ trace) :
    envelope.instanceGUID = id.instanceGUID ∧
      ∃ collected, .worker index id (.collectReturned collected none) ∈ trace ∧
        envelope.metric ∈ collected := by
  rcases exists_goroutine reachable member with ⟨g, present, same⟩
  have emitted := (ranTo reachable present).emittedAt
  have own : envelope ∈ envelopes (ownEvents index trace) :=
    List.mem_filterMap.mpr ⟨_, mem_ownEvents.mpr ⟨id, member⟩, rfl⟩
  rcases emitted.mem_collections own with ⟨guid, collected, collectedMember, metric⟩
  rcases mem_ownEvents.mp (mem_collections.mp collectedMember) with ⟨other, returned⟩
  have sameId : other = id := (id_of_worker reachable present returned).symm.trans same
  subst sameId
  exact ⟨guid.trans (congrArg WorkerID.instanceGUID same), collected, returned, metric⟩

/-! ## The listing behind a worker -/

theorem mem_of_lastListing {instanceInfos : List InstanceInfo}
    (last : lastListing trace = some instanceInfos) :
    .listInstancesReturned (.ok instanceInfos) ∈ trace := by
  rcases List.mem_filterMap.mp (List.mem_of_getLast? last) with ⟨event, member, view⟩
  cases event with
  | listInstancesReturned result =>
      cases result with
      | ok infos =>
          cases view
          exact member
      | error err => cases view
  | listInstancesCalled | workerStarted | workerCancelled | workerDeleted
  | contextCancelled | stopReturned | mainLoopReturned | worker => cases view

/-- Some listing in the trace desires `id`. -/
def ListedFor (settings : Settings) (trace : List Event) (id : WorkerID) : Prop :=
  ∃ instanceInfos, .listInstancesReturned (.ok instanceInfos) ∈ trace ∧
    Desires settings.metricsCollectorDrivers instanceInfos id

private theorem Step.listedFor {past events : List Event} {next : State} {action : Action}
    (reachable : (model settings).Reachable past s)
    (step : Step settings s action next events) {index : Nat} {worker : CollectorWorker}
    (member : .workerStarted index worker ∈ events) :
    ListedFor settings past worker.id := by
  have progress := Scheduler.refreshProgress reachable
  have history := Scheduler.refreshHistory reachable
  cases step with
  | startMissing desired id instanceInfo remaining main missing =>
      cases List.mem_singleton.mp member
      simp only [RefreshProgress, main] at progress
      have wanted : id ∈ desired :=
        Finmap.mem_of_lookup_eq_some (progress.2.1 ⟨id, instanceInfo⟩ (by simp))
      rcases history desired (by simp [main]) with ⟨instanceInfos, last, desiredIff, -⟩
      exact ⟨instanceInfos, mem_of_lastListing last, (desiredIff id).mp wanted⟩
  | run other action registry events ran =>
      rcases Registry.runWorker_eq_some ran with
        ⟨g, moved, runEvents, _, present, _, _, _, rfl⟩
      rcases List.mem_map.mp member with ⟨_, _, equal⟩
      cases equal
  | receiveStopped registry events main reaped =>
      rcases Registry.reap_eq_some reaped with ⟨deleted, channel, _, rfl, rfl⟩
      simp at member
  | drainReceive registry events main busy reaped =>
      rcases Registry.reap_eq_some reaped with ⟨deleted, channel, _, rfl, rfl⟩
      simp at member
  | timerFires | receiveTick | resetTimer | listInstancesFails | listInstancesSucceeds
  | skipRegistered | finishStarting | skipDesired | cancelUndesired
  | finishRefresh | receiveSignal | cancelOnSignal | receiveDone
  | workersStopTimeoutFires | drainTimeout | finishDraining | callStop | stopReturns =>
      simp at member

private theorem listedFor_of_started (reachable : (model settings).Reachable trace s)
    {index : Nat} {worker : CollectorWorker}
    (member : .workerStarted index worker ∈ trace) :
    ListedFor settings trace worker.id := by
  apply reachable.cause_of_mem member fun past => ListedFor settings past worker.id
  · intro past events listed
    rcases listed with ⟨instanceInfos, returned, desires⟩
    exact ⟨instanceInfos, List.mem_append_left events returned, desires⟩
  · intro past current action next events before step now
    exact (step_inversion step).listedFor before now

theorem listedFor_of_worker (reachable : (model settings).Reachable trace s) {index : Nat}
    {id : WorkerID} {event : RunEvent} (member : .worker index id event ∈ trace) :
    ListedFor settings trace id := by
  rcases started_of_worker reachable member with ⟨worker, started, same⟩
  rw [← same]
  exact listedFor_of_started reachable started

end RdsMetricCollector.Scheduler
