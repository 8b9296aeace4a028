import RdsMetricCollector.Scheduler.RefreshPlan
import RdsMetricCollector.Scheduler.RefreshRun

/-! # What a refresh does

Every run of the main loop through a refresh is a refresh of its registry,
whatever the other goroutines do meanwhile.
-/

namespace RdsMetricCollector.Scheduler

open RdsMetricCollector.BrokerInfo
open RdsMetricCollector.Collector
open RdsMetricCollector.Execution
open RdsMetricCollector.Runtime

/-! ## Refreshes of the main loop -/

/-- A run from inside `ListInstances`, which returns `result`, to the next
`select` of the main loop. -/
structure RefreshRun (settings : Settings) (s : State)
    (result : Except String (List InstanceInfo)) (actions : List Action)
    (events : List Event) (next : State) : Prop where
  begins : s.main = .listing
  allowed : ∀ action ∈ actions, action.isRefresh ∨ action.isOutside
  transitions : (model settings).Transitions s actions events next
  returned : .listInstancesReturned result ∈ events
  ends : next.main = .selecting

/-- Nothing but the main loop moves. -/
def Undisturbed (actions : List Action) : Prop :=
  ∀ action ∈ actions, action.isRefresh

variable {settings : Settings} {s current next : State}
  {instanceInfos : List InstanceInfo} {result : Except String (List InstanceInfo)}
  {actions : List Action} {trace events : List Event}

/-- How a refresh that nothing disturbs can end. -/
inductive RefreshEnd (settings : Settings) (s : State) :
    Except String (List InstanceInfo) → List Event → State → Prop
  | failed (err) :
      RefreshEnd settings s (.error err) [.listInstancesReturned (.error err)]
        { s with main := .selecting }
  | finished (plan : RefreshPlan settings s.registry) :
      RefreshEnd settings s (.ok plan.instanceInfos) plan.trace
        { s with main := .selecting, registry := plan.finished.1 }

private theorem RefreshEnd.exists_plan
    (ended : RefreshEnd settings s (.ok instanceInfos) trace next) :
    ∃ plan : RefreshPlan settings s.registry,
      plan.instanceInfos = instanceInfos ∧ trace = plan.trace ∧
      next = { s with main := .selecting, registry := plan.finished.1 } := by
  cases ended with
  | finished plan => exact ⟨plan, rfl, rfl, rfl⟩

private theorem RefreshEnd.of_error {err : String}
    (ended : RefreshEnd settings s (.error err) trace next) :
    trace = [.listInstancesReturned (.error err)] ∧
      next = { s with main := .selecting } := by
  cases ended with
  | failed => exact ⟨rfl, rfl⟩

private theorem RefreshPoint.refreshEnd (point : RefreshPoint settings s trace current)
    (begins : s.main = .listing) (ends : current.main = .selecting)
    (returned : .listInstancesReturned result ∈ trace) :
    RefreshEnd settings s result trace current := by
  cases point with
  | listing => rw [begins] at ends; cases ends
  | failed err =>
      simp only [List.mem_singleton, Event.listInstancesReturned.injEq] at returned
      rw [returned]
      exact .failed err
  | starting | cancelling => cases ends
  | finished listing order registered started ranges desires starts visits =>
      subst starts
      let plan : RefreshPlan settings s.registry :=
        ⟨listing, order, registered, ranges, desires, visits⟩
      have result_eq : result = .ok plan.instanceInfos := by
        change _ ∈ plan.trace at returned
        simpa [RefreshPlan.trace_eq, Registry.startedEvent] using returned
      rw [result_eq]
      exact .finished plan

private theorem RefreshRun.refreshEnd (run : RefreshRun settings s result actions events next)
    (undisturbed : Undisturbed actions) : RefreshEnd settings s result events next :=
  (refreshPoint run.begins run.transitions undisturbed).refreshEnd run.begins run.ends
    run.returned

private theorem RefreshRun.exists_isolated
    (run : RefreshRun settings s result actions events next) :
    ∃ isolated, RefreshEnd settings s result (events.filter Event.ofRefresh) isolated ∧
      AgreesInRefresh next isolated := by
  rcases Scheduler.exists_isolated run.transitions run.allowed with
    ⟨isolated, transitions, agrees⟩
  have refreshes : ∀ action ∈ actions.filter Action.isRefresh, action.isRefresh := by
    intro action member
    exact (List.mem_filter.mp member).2
  have returned : .listInstancesReturned result ∈ events.filter Event.ofRefresh :=
    List.mem_filter.mpr ⟨run.returned, rfl⟩
  have ends : isolated.main = .selecting := agrees.main ▸ run.ends
  exact ⟨isolated,
    (refreshPoint run.begins transitions refreshes).refreshEnd run.begins ends returned,
    agrees⟩

/-! ## The contract holds in every run -/

theorem mem_filter_started {index : Nat} {worker : CollectorWorker} :
    .workerStarted index worker ∈ events.filter Event.ofRefresh ↔
      .workerStarted index worker ∈ events := by
  simp [Event.ofRefresh]

theorem mem_filter_cancelled {index : Nat} :
    .workerCancelled index ∈ events.filter Event.ofRefresh ↔
      .workerCancelled index ∈ events := by
  simp [Event.ofRefresh]

private theorem filterMap_filter_ofRefresh {α : Type} {view : Event → Option α}
    (own : ∀ event, event.ofRefresh = false → view event = none) :
    (events.filter Event.ofRefresh).filterMap view = events.filterMap view := by
  rw [List.filterMap_filter]
  apply List.filterMap_congr
  intro event _
  cases isOwn : event.ofRefresh with
  | true => rfl
  | false => simp [own event isOwn]

/-- The contract only speaks of what other goroutines do not change. -/
theorem RefreshSpec.of_isolated {isolated : State} {r : Registry}
    (spec : RefreshSpec settings r instanceInfos (events.filter Event.ofRefresh)
      isolated.registry)
    (agrees : AgreesInRefresh next isolated) :
    RefreshSpec settings r instanceInfos events next.registry where
  startedIDs := by
    have startedIDs := spec.startedIDs
    simp only [mem_filter_started] at startedIDs
    exact startedIDs
  startedWith member := spec.startedWith (mem_filter_started.mpr member)
  startedOnce := by
    have startedOnce := spec.startedOnce
    rw [filterMap_filter_ofRefresh] at startedOnce
    · exact startedOnce
    · intro event
      cases event <;> simp [Event.ofRefresh, Event.startedID]
  registered member := by
    rw [agrees.workers, agrees.started]
    exact spec.registered (mem_filter_started.mpr member)
  cancelled index := mem_filter_cancelled.symm.trans (spec.cancelled index)
  cancelledOnce := by
    have cancelledOnce := spec.cancelledOnce
    rw [filterMap_filter_ofRefresh] at cancelledOnce
    · exact cancelledOnce
    · intro event
      cases event <;> simp [Event.ofRefresh, Event.cancelledIndex]
  sparesStarted started cancelled :=
    spec.sparesStarted (mem_filter_started.mpr started)
      (mem_filter_cancelled.mpr cancelled)
  kept old := by
    rw [agrees.workers, agrees.started]
    exact spec.kept old
  keys id := by
    rw [agrees.workers]
    exact spec.keys id

private theorem RefreshRun.spec (wellIndexed : s.registry.WellIndexed)
    (run : RefreshRun settings s (.ok instanceInfos) actions events next) :
    RefreshSpec settings s.registry instanceInfos events next.registry := by
  rcases run.exists_isolated with ⟨isolated, ended, agrees⟩
  rcases ended.exists_plan with ⟨plan, rfl, trace_eq, rfl⟩
  have spec := plan.spec wellIndexed
  rw [← trace_eq] at spec
  exact spec.of_isolated agrees

/-- A refresh to the instances that the registry was last refreshed to starts
nothing. -/
theorem RefreshRun.repeated
    (run : RefreshRun settings s (.ok instanceInfos) actions events next)
    {later final : State} {laterActions : List Action} {laterEvents : List Event}
    (unchanged : later.registry.workers = next.registry.workers)
    (again : RefreshRun settings later (.ok instanceInfos) laterActions laterEvents final)
    (index : Nat) (worker : CollectorWorker) :
    .workerStarted index worker ∉ laterEvents := by
  rcases run.exists_isolated with ⟨isolated, ended, agrees⟩
  rcases ended.exists_plan with ⟨plan, listed, -, rfl⟩
  rcases again.exists_isolated with ⟨laterIsolated, laterEnded, -⟩
  rcases laterEnded.exists_plan with ⟨laterPlan, laterListed, laterTrace, -⟩
  rw [← mem_filter_started, laterTrace]
  intro started
  have missing := (laterPlan.startedIDs worker.id).mp ⟨index, worker, started, rfl⟩
  rw [unchanged, agrees.workers, RefreshPlan.mem_finished_iff, RefreshPlan.Desired,
    laterListed, RefreshPlan.Desired, listed] at missing
  exact missing.2 (.inr missing.1)

private theorem RefreshRun.failed {err : String}
    (run : RefreshRun settings s (.error err) actions events next) :
    next.registry.workers = s.registry.workers ∧
      (∀ index, next.registry.workerAt index = s.registry.workerAt index) ∧
      (∀ index worker, .workerStarted index worker ∉ events) ∧
      ∀ index, .workerCancelled index ∉ events := by
  rcases run.exists_isolated with ⟨isolated, ended, agrees⟩
  rcases ended.of_error with ⟨trace_eq, rfl⟩
  simp only [← @mem_filter_started events, ← @mem_filter_cancelled events, trace_eq]
  exact ⟨agrees.workers, agrees.started, by simp, by simp⟩

/-! ## Refreshes without other steps -/

/-- Two refreshes from the same state to the same instances leave the same
state behind, up to the numbers of the new goroutines. -/
theorem RefreshRun.sameButNumbers (wellIndexed : s.registry.WellIndexed)
    (run : RefreshRun settings s (.ok instanceInfos) actions events next)
    (undisturbed : Undisturbed actions)
    {other : State} {otherActions : List Action} {otherEvents : List Event}
    (otherRun : RefreshRun settings s (.ok instanceInfos) otherActions otherEvents other)
    (otherUndisturbed : Undisturbed otherActions) :
    SameButNumbers s.registry.goroutines.length next.registry other.registry ∧
      other = { next with registry := other.registry } := by
  rcases (run.refreshEnd undisturbed).exists_plan with ⟨plan, listed, -, rfl⟩
  rcases (otherRun.refreshEnd otherUndisturbed).exists_plan with
    ⟨otherPlan, otherListed, -, rfl⟩
  exact ⟨RefreshPlan.sameButNumbers wellIndexed (listed.trans otherListed.symm), rfl⟩

private theorem RefreshRun.goroutineOf_eq (wellIndexed : s.registry.WellIndexed)
    (run : RefreshRun settings s (.ok instanceInfos) actions events next)
    (undisturbed : Undisturbed actions) (id : WorkerID) :
    next.registry.goroutineOf id =
      refreshedGoroutine settings s.registry instanceInfos id := by
  rcases (run.refreshEnd undisturbed).exists_plan with ⟨plan, rfl, -, rfl⟩
  exact RefreshPlan.goroutineOf_finished wellIndexed id

private theorem RefreshRun.failed_undisturbed {err : String}
    (run : RefreshRun settings s (.error err) actions events next)
    (undisturbed : Undisturbed actions) : next.registry = s.registry := by
  rcases (run.refreshEnd undisturbed).of_error with ⟨-, rfl⟩
  rfl

private theorem exists_refreshRun (settings : Settings) (begins : s.main = .listing)
    (instanceInfos : List InstanceInfo) :
    ∃ actions events next, Undisturbed actions ∧
      RefreshRun settings s (.ok instanceInfos) actions events next := by
  rcases exists_rangeOrder settings.metricsCollectorDrivers with ⟨drivers, visits⟩
  let listing : Listing := instanceInfos.map fun instanceInfo => (instanceInfo, drivers)
  have listed : listing.map Prod.fst = instanceInfos := by
    simp [listing, Function.comp_def]
  have ranges : ∀ listed ∈ listing,
      RangeOrder settings.metricsCollectorDrivers listed.2 := by
    intro listed member
    rcases List.mem_map.mp member with ⟨instanceInfo, -, rfl⟩
    exact visits
  rcases exists_rangeOrder (desiredWorkerIDs listing) with ⟨order, visitsDesired⟩
  rcases exists_refresh begins ranges visitsDesired with
    ⟨actions, trace, next, undisturbed, transitions, ends⟩
  rw [listed] at transitions
  exact ⟨actions, _, next, undisturbed, begins,
    fun action member => .inl (undisturbed action member), transitions,
    List.mem_cons_self, ends⟩

/-- What a refresh does, in every run and for every order in which the maps are
visited. -/
theorem refresh_contract (settings : Settings) (s : State) :
    (∀ instanceInfos actions events next, s.registry.WellIndexed →
      RefreshRun settings s (.ok instanceInfos) actions events next →
      RefreshSpec settings s.registry instanceInfos events next.registry ∧
      (Undisturbed actions → ∀ id, next.registry.goroutineOf id =
        refreshedGoroutine settings s.registry instanceInfos id) ∧
      (∀ otherActions otherEvents other,
        RefreshRun settings s (.ok instanceInfos) otherActions otherEvents other →
        Undisturbed actions → Undisturbed otherActions →
        SameButNumbers s.registry.goroutines.length next.registry other.registry ∧
          other = { next with registry := other.registry }) ∧
      ∀ later laterActions laterEvents final,
        later.registry.workers = next.registry.workers →
        RefreshRun settings later (.ok instanceInfos) laterActions laterEvents final →
        ∀ index worker, .workerStarted index worker ∉ laterEvents) ∧
    (∀ err actions events next, RefreshRun settings s (.error err) actions events next →
      next.registry.workers = s.registry.workers ∧
      (∀ index, next.registry.workerAt index = s.registry.workerAt index) ∧
      (∀ index worker, .workerStarted index worker ∉ events) ∧
      (∀ index, .workerCancelled index ∉ events) ∧
      (Undisturbed actions → next.registry = s.registry)) ∧
    (s.main = .listing → ∀ instanceInfos, ∃ actions events next,
      Undisturbed actions ∧ RefreshRun settings s (.ok instanceInfos) actions events next) := by
  refine ⟨?_, ?_, fun begins => exists_refreshRun settings begins⟩
  · intro instanceInfos actions events next wellIndexed run
    refine ⟨run.spec wellIndexed, run.goroutineOf_eq wellIndexed, ?_, ?_⟩
    · intro otherActions otherEvents other otherRun undisturbed otherUndisturbed
      exact run.sameButNumbers wellIndexed undisturbed otherRun otherUndisturbed
    · intro later laterActions laterEvents final unchanged again
      exact run.repeated unchanged again
  · intro err actions events next run
    rcases run.failed with ⟨workers, started, starts, cancels⟩
    exact ⟨workers, started, starts, cancels, run.failed_undisturbed⟩

/-- A driver of two instance types, beside the driver of the sample scheduler. -/
def sampleReplicaDriver : MetricsCollectorDriver where
  getName := "replica"
  supportedTypes := ["reader", "writer"]
  getCollectInterval := 1

def sampleReplicaSettings : Settings :=
  sampleSettings.withDriver [sampleReplicaDriver]

def sampleReplica (type : String) : InstanceInfo where
  guid := "instance-guid2"
  type := type

def sampleReplicaID : WorkerID where
  driver := "replica"
  instanceGUID := "instance-guid2"

def sampleDriverOrder : List DriverEntry :=
  [⟨"replica", sampleReplicaDriver⟩, ⟨"fake", sampleDriver⟩]

/-- A refresh that starts the worker of the sample instance, and the beginning of
the next one. -/
def sampleFirstRefresh : List Action :=
  [.timerFires, .receiveTick, .resetTimer,
    .listInstancesSucceeds [(sampleInstance, sampleDriverOrder)]
      [⟨sampleID, sampleInstance⟩],
    .startNext, .finishStarting [⟨sampleID, 0⟩], .cancelNext, .finishRefresh,
    .timerFires, .receiveTick, .resetTimer]

/-- The instances of the next refresh: one GUID in three entries, of which the
driver supports the first two, and no sample instance. -/
def sampleReplicas : List InstanceInfo :=
  [sampleReplica "reader", sampleReplica "writer", sampleReplica "backup"]

/-- A refresh that replaces the worker, which tries meanwhile to create its
collector. -/
def sampleReplacement : List Action :=
  [.listInstancesSucceeds
      (sampleReplicas.map fun instanceInfo => (instanceInfo, sampleDriverOrder))
      [⟨sampleReplicaID, sampleReplica "writer"⟩],
    .startNext, .run 0 .callNewCollector,
    .finishStarting [⟨sampleReplicaID, 1⟩, ⟨sampleID, 0⟩], .cancelNext, .cancelNext,
    .finishRefresh]

theorem refresh_contract_sample :
    ∃ s past next events worker,
      (model sampleReplicaSettings).run .initial sampleFirstRefresh = some (s, past) ∧
      (model sampleReplicaSettings).run s sampleReplacement = some (next, events) ∧
      .workerStarted 1 worker ∈ events ∧
      worker.id = sampleReplicaID ∧ worker.instanceInfo = sampleReplica "writer" ∧
      .workerCancelled 0 ∈ events ∧
      RefreshSpec sampleReplicaSettings s.registry sampleReplicas events
        next.registry := by
  refine ⟨_, _, _, _, _, rfl, rfl, .tail _ (.head _), rfl, rfl,
    .tail _ (.tail _ (.tail _ (.head _))), ?_⟩
  have reachable := (model sampleReplicaSettings).reachable_of_run sampleFirstRefresh rfl
  exact ((refresh_contract sampleReplicaSettings _).1 sampleReplicas sampleReplacement _ _
    (registry_consistent reachable).wellIndexed
    ⟨rfl, by decide, Model.transitions_of_run rfl, .head _, rfl⟩).1

end RdsMetricCollector.Scheduler
