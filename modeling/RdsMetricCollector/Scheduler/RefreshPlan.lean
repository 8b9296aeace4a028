import RdsMetricCollector.Scheduler.RefreshLoops

/-! # Refreshes of a registry

A refresh brings the registry closer to the listed instances: it starts the
desired workers that are missing and cancels the registered ones that are not
desired. Its result does not depend on the orders in which it visits the maps.
-/

namespace RdsMetricCollector.Scheduler

open RdsMetricCollector.BrokerInfo
open RdsMetricCollector.Runtime

/-- The instance that a worker for `id` is to serve: the last listed one that
the driver of `id` supports. -/
def lastWanted (drivers : Drivers) (instanceInfos : List InstanceInfo)
    (id : WorkerID) : Option InstanceInfo :=
  (instanceInfos.filter (Wants drivers id ·)).getLast?

/-- The entries of the worker map are the goroutines of their ids. -/
def Registry.WellIndexed (r : Registry) : Prop :=
  ∀ {id index}, r.workers.lookup id = some index →
    ∃ g, r.goroutines[index]? = some g ∧ g.worker.id = id

theorem Registry.Consistent.wellIndexed {r : Registry} (consistent : r.Consistent) :
    r.WellIndexed := by
  intro id index found
  exact exists_statusAt_iff.mp (consistent.registered found)

namespace Registry.WellIndexed

variable {r : Registry} {id other : WorkerID} {index : Nat}

private theorem inRange (wellIndexed : r.WellIndexed)
    (found : r.workers.lookup id = some index) : index < r.goroutines.length := by
  rcases wellIndexed found with ⟨g, present, -⟩
  exact (List.getElem?_eq_some_iff.mp present).1

private theorem injective (wellIndexed : r.WellIndexed)
    (found : r.workers.lookup id = some index)
    (alsoFound : r.workers.lookup other = some index) : id = other := by
  rcases wellIndexed found with ⟨g, present, rfl⟩
  rcases wellIndexed alsoFound with ⟨g', present', rfl⟩
  rw [present] at present'
  cases present'
  rfl

end Registry.WellIndexed

/-! ## Refreshes of a registry -/

/-- The choices of a refresh of `r`: what is listed, and the orders in which the
three maps are visited. -/
structure RefreshPlan (settings : Settings) (r : Registry) where
  listing : Listing
  order : List DesiredEntry
  registered : List WorkerEntry
  visitsDrivers : ∀ listed ∈ listing,
    RangeOrder settings.metricsCollectorDrivers listed.2
  visitsDesired : RangeOrder (desiredWorkerIDs listing) order
  visitsWorkers : RangeOrder (r.startDesired settings order).1.workers registered

namespace RefreshPlan

variable {settings : Settings} {r : Registry} (plan : RefreshPlan settings r)

def instanceInfos : List InstanceInfo :=
  plan.listing.map Prod.fst

def desired : DesiredWorkers :=
  desiredWorkerIDs plan.listing

def started : Registry × List Event :=
  r.startDesired settings plan.order

def finished : Registry × List Event :=
  plan.started.1.cancelUndesired plan.desired plan.registered

def trace : List Event :=
  .listInstancesReturned (.ok plan.instanceInfos) ::
    (plan.started.2 ++ plan.finished.2)

/-- The workers that are started, with their positions. -/
def numbered : List (DesiredEntry × Nat) :=
  (r.missing plan.order).zipIdx r.goroutines.length

/-- `id` is desired by the instances that are listed. -/
abbrev Desired (id : WorkerID) : Prop :=
  Desires settings.metricsCollectorDrivers plan.instanceInfos id

private theorem lookup_desired (id : WorkerID) :
    plan.desired.lookup id =
      lastWanted settings.metricsCollectorDrivers plan.instanceInfos id :=
  lookup_desiredWorkerIDs plan.visitsDrivers id

theorem mem_desired_iff {id : WorkerID} : id ∈ plan.desired ↔ plan.Desired id :=
  mem_desiredWorkerIDs plan.visitsDrivers id

private theorem starts : r.StartsMissing settings plan.order plan.started :=
  Registry.startsMissing_startDesired plan.visitsDesired.nodupKeys

private theorem cancels :
    plan.started.1.Cancels (Registry.undesired plan.desired plan.registered)
      plan.finished :=
  Registry.cancels_cancelUndesired plan.desired plan.started.1 plan.registered

variable {plan} {id : WorkerID} {index : Nat} {worker : CollectorWorker}
  {entry : DesiredEntry}

theorem mem_order_iff : entry ∈ plan.order ↔
    lastWanted settings.metricsCollectorDrivers plan.instanceInfos entry.1 =
      some entry.2 := by
  rw [← plan.lookup_desired]
  exact plan.visitsDesired.mem_iff

/-- The numbered workers are the missing desired ones. -/
theorem exists_numbered_iff :
    (∃ index, (entry, index) ∈ plan.numbered) ↔
      entry.1 ∉ r.workers ∧
        lastWanted settings.metricsCollectorDrivers plan.instanceInfos entry.1 =
          some entry.2 := by
  rw [numbered, Registry.exists_mem_zipIdx, Registry.mem_missing_iff, mem_order_iff,
    and_comm]

private theorem desired_of_numbered (member : (entry, index) ∈ plan.numbered) :
    entry.1 ∈ plan.desired := by
  have wanted := (exists_numbered_iff.mp ⟨index, member⟩).2
  rw [← plan.lookup_desired] at wanted
  exact Finmap.mem_of_lookup_eq_some wanted

private theorem le_of_numbered (member : (entry, index) ∈ plan.numbered) :
    r.goroutines.length ≤ index :=
  List.le_snd_of_mem_zipIdx member

/-! ### The worker map -/

private theorem lookup_finished : plan.finished.1.workers.lookup id = some index ↔
    r.workers.lookup id = some index ∨
      ∃ entry, (entry, index) ∈ plan.numbered ∧ entry.1 = id := by
  rw [plan.cancels.workers]
  exact plan.starts.lookup

theorem mem_finished_iff :
    id ∈ plan.finished.1.workers ↔ id ∈ r.workers ∨ plan.Desired id := by
  have keys : id ∈ plan.order.keys ↔ id ∈ plan.desired := by
    rw [List.mem_keys, Finmap.mem_iff]
    simp only [plan.visitsDesired.mem_iff]
    rfl
  rw [plan.cancels.workers, plan.starts.mem_workers_iff, keys, plan.mem_desired_iff]

/-! ### The trace -/

theorem trace_eq : plan.trace =
    .listInstancesReturned (.ok plan.instanceInfos) ::
      (plan.numbered.map (Registry.startedEvent settings) ++
        (Registry.undesired plan.desired plan.registered).map .workerCancelled) := by
  rw [trace, plan.starts.events, plan.cancels.events]
  rfl

theorem mem_trace_started_iff : .workerStarted index worker ∈ plan.trace ↔
    ∃ entry, (entry, index) ∈ plan.numbered ∧
      worker = Registry.newWorker settings entry.1 entry.2 := by
  simp [trace_eq, Registry.startedEvent, eq_comm]

theorem mem_undesired_iff :
    index ∈ Registry.undesired plan.desired plan.registered ↔
      ∃ id, r.workers.lookup id = some index ∧ ¬plan.Desired id := by
  have entries : ∀ {id}, ⟨id, index⟩ ∈ plan.registered ↔
      plan.finished.1.workers.lookup id = some index := by
    intro id
    rw [plan.cancels.workers]
    exact plan.visitsWorkers.mem_iff
  have listed : index ∈ Registry.undesired plan.desired plan.registered ↔
      ∃ id, ⟨id, index⟩ ∈ plan.registered ∧ id ∉ plan.desired := by
    simp [Registry.undesired]
  simp only [listed, entries, lookup_finished, mem_desired_iff]
  constructor
  · intro cancelled
    rcases cancelled with ⟨id, old | ⟨entry, member, rfl⟩, unwanted⟩
    · exact ⟨id, old, unwanted⟩
    · exact absurd (plan.mem_desired_iff.mp (desired_of_numbered member)) unwanted
  · intro cancelled
    rcases cancelled with ⟨id, old, unwanted⟩
    exact ⟨id, .inl old, unwanted⟩

theorem mem_trace_cancelled_iff : .workerCancelled index ∈ plan.trace ↔
    ∃ id, r.workers.lookup id = some index ∧ ¬plan.Desired id := by
  rw [← mem_undesired_iff, trace_eq]
  simp [Registry.startedEvent]

/-! ### The goroutines -/

private theorem started_goroutine (member : (entry, index) ∈ plan.numbered) :
    plan.started.1.goroutines[index]? =
      some (.start (Registry.newWorker settings entry.1 entry.2)) := by
  rcases List.mk_mem_zipIdx_iff_le_and_getElem?_sub.mp member with ⟨after, present⟩
  rw [plan.starts.goroutines, List.getElem?_append_right after, List.getElem?_map,
    present]
  rfl

private theorem started_goroutine_of_lt (older : index < r.goroutines.length) :
    plan.started.1.goroutines[index]? = r.goroutines[index]? := by
  rw [plan.starts.goroutines, List.getElem?_append_left older]

private theorem workerAt_finished :
    plan.finished.1.workerAt index = plan.started.1.workerAt index := by
  rw [Registry.workerAt, Registry.workerAt, plan.cancels.goroutines]
  cases plan.started.1.goroutines[index]? with
  | none => rfl
  | some g => by_cases cancelled : index ∈ Registry.undesired plan.desired plan.registered <;>
      simp [cancelled]

end RefreshPlan

/-! ## The contract -/

def Event.startedID : Event → Option WorkerID
  | .workerStarted _ started => some started.id
  | _ => none

def Event.cancelledIndex : Event → Option Nat
  | .workerCancelled index => some index
  | _ => none

/-- What a refresh of `r` to the listed instances starts, cancels and leaves
behind. -/
structure RefreshSpec (settings : Settings) (r : Registry)
    (instanceInfos : List InstanceInfo) (events : List Event) (final : Registry) :
    Prop where
  startedIDs : ∀ id,
    (∃ index worker, .workerStarted index worker ∈ events ∧ worker.id = id) ↔
      Desires settings.metricsCollectorDrivers instanceInfos id ∧ id ∉ r.workers
  startedWith : ∀ {index worker}, .workerStarted index worker ∈ events →
    ∃ driver instanceInfo,
      settings.metricsCollectorDrivers.lookup worker.id.driver = some driver ∧
      lastWanted settings.metricsCollectorDrivers instanceInfos worker.id =
        some instanceInfo ∧
      worker.driver = some driver ∧
      worker.instanceInfo = instanceInfo ∧
      worker.retryInterval = settings.collectorRetryInterval ∧
      worker.maxRetries = settings.collectorMaxRetries ∧
      worker.timeout = settings.collectorTimeout
  startedOnce : (events.filterMap Event.startedID).Nodup
  registered : ∀ {index worker}, .workerStarted index worker ∈ events →
    final.workers.lookup worker.id = some index ∧ final.workerAt index = some worker
  cancelled : ∀ index, .workerCancelled index ∈ events ↔
    ∃ id, r.workers.lookup id = some index ∧
      ¬Desires settings.metricsCollectorDrivers instanceInfos id
  cancelledOnce : (events.filterMap Event.cancelledIndex).Nodup
  sparesStarted : ∀ {index worker}, .workerStarted index worker ∈ events →
    .workerCancelled index ∉ events
  kept : ∀ {id index}, r.workers.lookup id = some index →
    final.workers.lookup id = some index ∧ final.workerAt index = r.workerAt index
  keys : ∀ id, id ∈ final.workers ↔ id ∈ r.workers ∨
    Desires settings.metricsCollectorDrivers instanceInfos id

namespace RefreshPlan

variable {settings : Settings} {r : Registry} (plan : RefreshPlan settings r)

private theorem startedID_trace :
    plan.trace.filterMap Event.startedID = (r.missing plan.order).keys := by
  have numbers : plan.numbered.map Prod.fst = r.missing plan.order :=
    List.zipIdx_map_fst _ _
  rw [trace_eq, List.keys, ← numbers, List.filterMap_cons_none rfl,
    List.filterMap_append, List.filterMap_map, List.filterMap_map]
  simp [Function.comp_def, Event.startedID, Registry.startedEvent]

private theorem cancelledIndex_trace :
    plan.trace.filterMap Event.cancelledIndex =
      Registry.undesired plan.desired plan.registered := by
  rw [trace_eq, List.filterMap_cons_none rfl, List.filterMap_append,
    List.filterMap_map, List.filterMap_map]
  simp [Function.comp_def, Event.cancelledIndex, Registry.startedEvent]

private theorem nodup_undesired (wellIndexed : r.WellIndexed) :
    (Registry.undesired plan.desired plan.registered).Nodup := by
  have entries : plan.registered.Nodup := plan.visitsWorkers.nodupKeys.nodup
  apply List.Nodup.map_on _ (entries.filter _)
  intro left leftMember right rightMember same
  have old : ∀ entry ∈ plan.registered.filter (fun entry => entry.1 ∉ plan.desired),
      r.workers.lookup entry.1 = some entry.2 := by
    intro entry member
    rw [List.mem_filter, decide_eq_true_eq] at member
    rcases plan.starts.lookup.mp (plan.visitsWorkers.mem_iff.mp member.1) with
      old | ⟨new, numbered, sameId⟩
    · exact old
    · exact absurd (sameId ▸ desired_of_numbered numbered) member.2
  have sameId := wellIndexed.injective (old left leftMember) (same ▸ old right rightMember)
  exact Sigma.ext sameId (heq_of_eq same)

theorem startedIDs (id : WorkerID) :
    (∃ index worker, .workerStarted index worker ∈ plan.trace ∧ worker.id = id) ↔
      plan.Desired id ∧ id ∉ r.workers := by
  have desired : plan.Desired id ↔ ∃ instanceInfo,
      lastWanted settings.metricsCollectorDrivers plan.instanceInfos id =
        some instanceInfo := by
    rw [← plan.lookup_desired, ← Option.isSome_iff_exists, Finmap.lookup_isSome,
      plan.mem_desired_iff]
  rw [desired]
  constructor
  · intro started
    rcases started with ⟨index, worker, member, rfl⟩
    rcases mem_trace_started_iff.mp member with ⟨entry, numbered, rfl⟩
    rcases exists_numbered_iff.mp ⟨index, numbered⟩ with ⟨missing, wanted⟩
    exact ⟨⟨entry.2, wanted⟩, missing⟩
  · intro desired
    rcases desired with ⟨⟨instanceInfo, wanted⟩, missing⟩
    have numbered : ∃ index, (⟨id, instanceInfo⟩, index) ∈ plan.numbered :=
      exists_numbered_iff.mpr ⟨missing, wanted⟩
    rcases numbered with ⟨index, numbered⟩
    exact ⟨index, _, mem_trace_started_iff.mpr ⟨_, numbered, rfl⟩, rfl⟩

theorem spec (wellIndexed : r.WellIndexed) :
    RefreshSpec settings r plan.instanceInfos plan.trace plan.finished.1 where
  startedIDs := plan.startedIDs
  startedWith := by
    intro index worker member
    rcases mem_trace_started_iff.mp member with ⟨entry, numbered, rfl⟩
    have wanted := (exists_numbered_iff.mp ⟨index, numbered⟩).2
    have found : plan.desired.lookup entry.1 = some entry.2 := by
      rw [plan.lookup_desired, wanted]
    rcases wants_of_lookup plan.visitsDrivers found with ⟨-, -, driver, known, -⟩
    exact ⟨driver, entry.2, known, wanted, known, rfl, rfl, rfl, rfl⟩
  startedOnce := by
    rw [startedID_trace]
    exact (plan.visitsDesired.nodupKeys.sublist List.filter_sublist)
  registered := by
    intro index worker member
    rcases mem_trace_started_iff.mp member with ⟨entry, numbered, rfl⟩
    refine ⟨lookup_finished.mpr (.inr ⟨entry, numbered, rfl⟩), ?_⟩
    rw [workerAt_finished, Registry.workerAt, started_goroutine numbered]
    rfl
  cancelled := fun index => mem_trace_cancelled_iff
  cancelledOnce := by
    rw [cancelledIndex_trace]
    exact plan.nodup_undesired wellIndexed
  sparesStarted := by
    intro index worker member cancelled
    rcases mem_trace_started_iff.mp member with ⟨entry, numbered, rfl⟩
    rcases mem_trace_cancelled_iff.mp cancelled with ⟨id, old, -⟩
    have before := wellIndexed.inRange old
    have after := le_of_numbered numbered
    omega
  kept := by
    intro id index old
    refine ⟨lookup_finished.mpr (.inl old), ?_⟩
    rw [workerAt_finished, Registry.workerAt,
      started_goroutine_of_lt (wellIndexed.inRange old), Registry.workerAt]
  keys := fun id => mem_finished_iff

end RefreshPlan

/-! ## Independence of the orders -/

/-- The goroutine of a registered worker. -/
def Registry.goroutineOf (r : Registry) (id : WorkerID) : Option Goroutine :=
  (r.workers.lookup id).bind fun index => r.goroutines[index]?

/-- The goroutine of `id` after a refresh, if the refresh is all that happens. -/
def refreshedGoroutine (settings : Settings) (r : Registry)
    (instanceInfos : List InstanceInfo) (id : WorkerID) : Option Goroutine :=
  if id ∈ r.workers then
    (r.goroutineOf id).map fun g =>
      if Desires settings.metricsCollectorDrivers instanceInfos id then g
      else { g with cancelled := true }
  else
    (lastWanted settings.metricsCollectorDrivers instanceInfos id).map fun instanceInfo =>
      { worker :=
          { id := id
            instanceInfo := instanceInfo
            driver := settings.metricsCollectorDrivers.lookup id.driver
            retryInterval := settings.collectorRetryInterval
            maxRetries := settings.collectorMaxRetries
            timeout := settings.collectorTimeout }
        cancelled := false
        point := .entry
        deferred := []
        timer := .stopped
        errorCount := 0 }

/-- The registries are the same but for the numbers of the goroutines after the
first `older` ones. -/
structure SameButNumbers (older : Nat) (left right : Registry) : Prop where
  goroutineOf : ∀ id, left.goroutineOf id = right.goroutineOf id
  goroutines : ∀ index < older, left.goroutines[index]? = right.goroutines[index]?
  length : left.goroutines.length = right.goroutines.length
  workersRunning : left.workersRunning = right.workersRunning
  stoppedWorker : left.stoppedWorker = right.stoppedWorker
  cancelled : left.cancelled = right.cancelled

namespace RefreshPlan

variable {settings : Settings} {r : Registry} {plan other : RefreshPlan settings r}
  {id : WorkerID} {index : Nat} {entry : DesiredEntry}

theorem mem_undesired_of_lookup (wellIndexed : r.WellIndexed)
    (old : r.workers.lookup id = some index) :
    index ∈ Registry.undesired plan.desired plan.registered ↔ ¬plan.Desired id := by
  rw [mem_undesired_iff]
  constructor
  · intro cancelled
    rcases cancelled with ⟨same, found, unwanted⟩
    rwa [wellIndexed.injective old found]
  · intro unwanted
    exact ⟨id, old, unwanted⟩

private theorem notMem_undesired_of_numbered (wellIndexed : r.WellIndexed)
    (member : (entry, index) ∈ plan.numbered) :
    index ∉ Registry.undesired plan.desired plan.registered := by
  rw [mem_undesired_iff]
  intro cancelled
  rcases cancelled with ⟨id, old, -⟩
  have before := wellIndexed.inRange old
  have after := le_of_numbered member
  omega

theorem goroutineOf_finished (wellIndexed : r.WellIndexed) (id : WorkerID) :
    plan.finished.1.goroutineOf id =
      refreshedGoroutine settings r plan.instanceInfos id := by
  rw [refreshedGoroutine]
  split
  case isTrue registered =>
    rcases Finmap.mem_iff.mp registered with ⟨index, old⟩
    have kept : plan.finished.1.workers.lookup id = some index :=
      lookup_finished.mpr (.inl old)
    rw [Registry.goroutineOf, kept, Registry.goroutineOf, old, Option.bind_some,
      Option.bind_some, plan.cancels.goroutines,
      started_goroutine_of_lt (wellIndexed.inRange old)]
    simp only [mem_undesired_of_lookup wellIndexed old, ite_not]
    rfl
  case isFalse missing =>
    cases wanted : lastWanted settings.metricsCollectorDrivers plan.instanceInfos id with
    | none =>
        have undesired : ¬plan.Desired id := by
          rw [← plan.mem_desired_iff, ← Finmap.lookup_eq_none, lookup_desired, wanted]
        have absent : plan.finished.1.workers.lookup id = none := by
          rw [Finmap.lookup_eq_none, mem_finished_iff]
          tauto
        rw [Registry.goroutineOf, absent]
        rfl
    | some instanceInfo =>
        have numbered : ∃ index, (⟨id, instanceInfo⟩, index) ∈ plan.numbered :=
          exists_numbered_iff.mpr ⟨missing, wanted⟩
        rcases numbered with ⟨index, numbered⟩
        have started : plan.finished.1.workers.lookup id = some index :=
          lookup_finished.mpr (.inr ⟨_, numbered, rfl⟩)
        rw [Registry.goroutineOf, started, Option.bind_some, plan.cancels.goroutines,
          started_goroutine numbered]
        simp only [Option.map_some, if_neg (notMem_undesired_of_numbered wellIndexed numbered)]
        rfl

private theorem order_perm (same : plan.instanceInfos = other.instanceInfos) :
    plan.order.Perm other.order := by
  have desired : plan.desired = other.desired := by
    apply Finmap.ext_lookup
    intro id
    rw [lookup_desired, lookup_desired, same]
  have left : (plan.order : Multiset DesiredEntry) = plan.desired.entries :=
    plan.visitsDesired
  have right : (other.order : Multiset DesiredEntry) = other.desired.entries :=
    other.visitsDesired
  rw [← Multiset.coe_eq_coe, left, right, desired]

/-- Two refreshes to the same instances have the same result. -/
theorem sameButNumbers (wellIndexed : r.WellIndexed)
    (same : plan.instanceInfos = other.instanceInfos) :
    SameButNumbers r.goroutines.length plan.finished.1 other.finished.1 := by
  have missing : (r.missing plan.order).length = (r.missing other.order).length :=
    ((order_perm same).filter _).length_eq
  refine ⟨?_, ?_, ?_, ?_, ?_, ?_⟩
  · intro id
    rw [goroutineOf_finished wellIndexed, goroutineOf_finished wellIndexed, same]
  · intro index older
    have sameIndices : index ∈ Registry.undesired plan.desired plan.registered ↔
        index ∈ Registry.undesired other.desired other.registered := by
      simp only [mem_undesired_iff, Desired, same]
    rw [plan.cancels.goroutines, other.cancels.goroutines, started_goroutine_of_lt older,
      started_goroutine_of_lt older]
    simp only [sameIndices]
  · rw [plan.cancels.length, other.cancels.length, plan.starts.goroutines,
      other.starts.goroutines]
    simp [missing]
  · rw [plan.cancels.workersRunning, other.cancels.workersRunning,
      plan.starts.workersRunning, other.starts.workersRunning, missing]
  · rw [plan.cancels.stoppedWorker, other.cancels.stoppedWorker,
      plan.starts.stoppedWorker, other.starts.stoppedWorker]
  · rw [plan.cancels.cancelled, other.cancels.cancelled, plan.starts.cancelled,
      other.starts.cancelled]

end RefreshPlan

end RdsMetricCollector.Scheduler
