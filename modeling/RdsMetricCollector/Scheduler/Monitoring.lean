import RdsMetricCollector.Scheduler.History

/-! # What a refresh achieves

A refresh starts workers for desired ids without an entry in the worker map. An
entry whose worker was cancelled by an earlier refresh, and has not ended yet,
counts as present: its id is left without a running worker.
-/

namespace RdsMetricCollector.Scheduler

open RdsMetricCollector.Execution
open RdsMetricCollector.Runtime

namespace Registry

/-- A worker with a context that is not cancelled is registered for `id`. -/
def Serves (r : Registry) (id : WorkerID) : Prop :=
  ∃ index g, r.workers.lookup id = some index ∧
    r.goroutines[index]? = some g ∧ r.contextDone g = false

/-- The worker that is registered for `id` has been cancelled. -/
def stale (r : Registry) (id : WorkerID) : Bool :=
  ((r.workers.lookup id).bind fun index => r.goroutines[index]?).any
    Goroutine.cancelled

private theorem stale_eq_of_lookup {r : Registry} {id : WorkerID} {index : Nat}
    {g : Goroutine} (found : r.workers.lookup id = some index)
    (present : r.goroutines[index]? = some g) : r.stale id = g.cancelled := by
  simp [stale, found, present]

private theorem stale_eq_false_of_missing {r : Registry} {id : WorkerID}
    (missing : id ∉ r.workers) : r.stale id = false := by
  simp [stale, Finmap.lookup_eq_none.mpr missing]

private theorem Serves.stale_eq_false {r : Registry} {id : WorkerID}
    (serves : r.Serves id) : r.stale id = false := by
  rcases serves with ⟨index, g, found, present, live⟩
  rw [stale_eq_of_lookup found present]
  simp only [contextDone, Bool.or_eq_false_iff] at live
  exact live.2

private theorem serves_of_not_stale {r : Registry} (consistent : r.Consistent)
    (running : r.cancelled = false) {id : WorkerID} (entry : id ∈ r.workers)
    (fresh : r.stale id = false) : r.Serves id := by
  rcases Finmap.mem_iff.mp entry with ⟨index, found⟩
  rcases consistent.registered found with ⟨_, status⟩
  rcases exists_statusAt_iff.mp ⟨_, status⟩ with ⟨g, present, _⟩
  refine ⟨index, g, found, present, ?_⟩
  rw [stale_eq_of_lookup found present] at fresh
  rw [contextDone, running, fresh]
  rfl

/-! ## How the operations treat cancelled workers -/

private theorem stale_startWorker {r : Registry} (consistent : r.Consistent)
    (settings : Settings) {started : WorkerID} (missing : started ∉ r.workers)
    (instanceInfo : BrokerInfo.InstanceInfo) (id : WorkerID) :
    (r.startWorker settings started instanceInfo).stale id = r.stale id := by
  by_cases same : id = started
  · subst id
    rw [stale_eq_false_of_missing missing]
    simp [stale]
  · simp only [stale, startWorker_workers, Finmap.lookup_insert_of_ne _ same]
    cases found : r.workers.lookup id with
    | none => rfl
    | some index =>
        rcases consistent.registered found with ⟨_, status⟩
        have inRange := lt_length_of_statusAt status
        rw [Option.bind_some, Option.bind_some, getElem?_startWorker,
          if_neg inRange.ne]

/-- Cancelling a worker leaves the workers of other ids alone. -/
theorem stale_cancelWorker {r : Registry} (consistent : r.Consistent)
    {cancelled id : WorkerID} {index : Nat}
    (found : r.workers.lookup cancelled = some index) (different : id ≠ cancelled) :
    (r.cancelWorker index).stale id = r.stale id := by
  simp only [stale, cancelWorker_workers, cancelWorker_goroutines]
  cases other : r.workers.lookup id with
  | none => rfl
  | some otherIndex =>
      have distinct : index ≠ otherIndex := by
        intro equal
        subst otherIndex
        rcases consistent.registered found with ⟨_, status⟩
        rcases consistent.registered other with ⟨_, otherStatus⟩
        rw [status] at otherStatus
        cases otherStatus
        exact different rfl
      simp [List.getElem?_modify, distinct]

/-- A cancelled worker stays cancelled. -/
theorem stale_cancelWorker_of_stale {r : Registry} {id : WorkerID}
    (stale : r.stale id = true) (index : Nat) :
    (r.cancelWorker index).stale id = true := by
  simp only [Registry.stale, cancelWorker_workers, cancelWorker_goroutines,
    Option.any_eq_true, Option.bind_eq_some_iff] at stale ⊢
  rcases stale with ⟨g, ⟨other, found, present⟩, cancelled⟩
  by_cases same : index = other
  · exact ⟨g.cancel, ⟨other, found, by simp [same, present]⟩, rfl⟩
  · exact ⟨g, ⟨other, found, by simp [same, present]⟩, cancelled⟩

private theorem stale_reap {r next : Registry} {events : List Event} {id : WorkerID}
    (reaped : r.reap = some (next, events)) (kept : .workerDeleted id ∉ events) :
    next.stale id = r.stale id := by
  rcases reap_eq_some reaped with ⟨deleted, channel, _, rfl, rfl⟩
  have different : id ≠ deleted := by
    intro equal
    exact kept (by simp [equal])
  simp only [stale, deleteWorker_workers, deleteWorker_goroutines,
    Finmap.lookup_erase_ne different]

private theorem stale_runWorker {r next : Registry} {index : Nat} {action : RunAction}
    {events : List Event} (ran : r.runWorker index action = some (next, events))
    (id : WorkerID) : next.stale id = r.stale id := by
  rcases runWorker_eq_some ran with ⟨g, moved, _, channel, present, step, _, rfl, _⟩
  simp only [stale]
  cases r.workers.lookup id with
  | none => rfl
  | some other =>
      rw [Option.bind_some, Option.bind_some]
      by_cases same : index = other
      · subst other
        have inRange := (List.getElem?_eq_some_iff.mp present).1
        rw [List.getElem?_set_self inRange, present, Option.any_some,
          Option.any_some, step.cancelled_eq]
      · rw [List.getElem?_set_ne same]

end Registry

/-! ## Refreshes -/

/-- At the end of a refresh, before shutdown, every id that its listing
desires is served. -/
def RefreshServes (settings : Settings) (trace : List Event) (s : State) : Prop :=
  ∀ next events, step settings s .finishRefresh = some (next, events) →
    next.registry.cancelled = false →
      ∀ instanceInfos, lastListing trace = some instanceInfos →
        ∀ id, Desires settings.metricsCollectorDrivers instanceInfos id →
          next.registry.Serves id

def Action.desiredEntries : Action → List DesiredEntry
  | .listInstancesSucceeds _ order => order
  | _ => []

/-- No listing desires an id whose registered worker has been cancelled. -/
def ListsNoStale (s : State) (action : Action) : Prop :=
  ∀ entry ∈ action.desiredEntries, s.registry.stale entry.1 = false

instance (s : State) (action : Action) : Decidable (ListsNoStale s action) :=
  inferInstanceAs (Decidable (∀ entry ∈ action.desiredEntries, _))

/-- The desired ids of the refresh that is going on have no cancelled worker. -/
def DesiredFresh (s : State) : Prop :=
  ∀ desired, s.main.desired? = some desired →
    ∀ id ∈ desired, s.registry.stale id = false

private theorem DesiredFresh.of_idle {s : State} (idle : s.main.desired? = none) :
    DesiredFresh s := by
  intro desired refreshing
  rw [idle] at refreshing
  cases refreshing

private theorem DesiredFresh.frame {s next : State} (fresh : DesiredFresh s)
    (sameDesired : next.main.desired? = s.main.desired?)
    (stale : ∀ desired, s.main.desired? = some desired → ∀ id ∈ desired,
      next.registry.stale id = s.registry.stale id) : DesiredFresh next := by
  intro desired refreshing id wanted
  rw [sameDesired] at refreshing
  rw [stale desired refreshing id wanted]
  exact fresh desired refreshing id wanted

private theorem Step.desiredFresh {settings : Settings} {s next : State}
    {action : Action} {events : List Event}
    (step : Step settings s action next events)
    (consistent : s.registry.Consistent) (progress : RefreshProgress settings s)
    (fresh : DesiredFresh s) (noStale : ListsNoStale s action) :
    DesiredFresh next := by
  cases step with
  | listInstancesSucceeds listing order main ranges visits =>
      intro desired refreshing id wanted
      cases refreshing
      rcases Finmap.mem_iff.mp wanted with ⟨instanceInfo, found⟩
      exact noStale ⟨id, instanceInfo⟩ (visits.mem_iff.mpr found)
  | startMissing desired id instanceInfo remaining main missing =>
      refine fresh.frame (by simp [main]) fun _ _ other _ => ?_
      exact Registry.stale_startWorker consistent settings missing instanceInfo other
  | cancelUndesired desired id index remaining main undesired =>
      simp only [RefreshProgress, main] at progress
      have found : s.registry.workers.lookup id = some index :=
        progress.2.1 ⟨id, index⟩ (by simp)
      refine fresh.frame (by simp [main]) fun other refreshing otherId wanted => ?_
      rw [main] at refreshing
      cases refreshing
      apply Registry.stale_cancelWorker consistent found
      intro equal
      exact undesired (equal ▸ wanted)
  | run index action registry events ran =>
      exact fresh.frame rfl fun _ _ id _ => Registry.stale_runWorker ran id
  | skipRegistered desired id instanceInfo remaining main =>
      exact fresh.frame (by simp [main]) fun _ _ _ _ => rfl
  | finishStarting desired order main =>
      exact fresh.frame (by simp [main]) fun _ _ _ _ => rfl
  | skipDesired desired id index remaining main =>
      exact fresh.frame (by simp [main]) fun _ _ _ _ => rfl
  | timerFires => exact fresh.frame rfl fun _ _ _ _ => rfl
  | workersStopTimeoutFires => exact fresh.frame rfl fun _ _ _ _ => rfl
  | callStop => exact fresh.frame rfl fun _ _ _ _ => rfl
  | stopReturns => exact fresh.frame rfl fun _ _ _ _ => rfl
  | receiveStopped registry events main => exact .of_idle (by simp [main])
  | drainReceive registry events main => exact .of_idle (by simp [main])
  | drainTimeout timer main => exact .of_idle (by simp [main])
  | receiveTick | resetTimer | listInstancesFails | finishRefresh
  | receiveSignal | cancelOnSignal | receiveDone | finishDraining =>
      exact .of_idle rfl

private theorem DesiredFresh.refreshServes {settings : Settings} {trace : List Event}
    {s : State} (reachable : (model settings).Reachable trace s)
    (fresh : DesiredFresh s) : RefreshServes settings trace s := by
  intro next events stepped running instanceInfos last id desires
  have consistent := registry_consistent reachable
  have progress := refreshProgress reachable
  have history := refreshHistory reachable
  cases step_inversion stepped with
  | finishRefresh desired main =>
      simp only [RefreshProgress, main] at progress
      have refreshing : s.main.desired? = some desired := by simp [main]
      rcases history desired refreshing with ⟨listed, lastListed, desiredIff, _⟩
      rw [last] at lastListed
      cases lastListed
      have wanted : id ∈ desired := (desiredIff id).mpr desires
      exact Registry.serves_of_not_stale consistent running (progress.2.2 id wanted)
        (fresh desired refreshing id wanted)

/-- In every run in which no listing desires an id whose worker was cancelled
and has not been deleted yet, every refresh serves all ids it desires. -/
theorem refreshes_serve {settings : Settings} {trace : List Event} {s : State}
    (reachable : ((model settings).restrict ListsNoStale).Reachable trace s) :
    RefreshServes settings trace s := by
  have strengthened := reachable.restrict_invariant
    (fun _ current => DesiredFresh current)
    (DesiredFresh.of_idle rfl)
    (by
      intro past current action next events reached fresh noStale stepped
      exact (step_inversion stepped).desiredFresh (registry_consistent reached)
        (refreshProgress reached) fresh noStale)
  exact strengthened.2.refreshServes strengthened.1

/-- The sample instance disappears from one listing and is back in the next,
while its cancelled worker is still running. -/
def sampleReappearance : List Action :=
  sampleRefresh ++
    [.timerFires, .receiveTick, .resetTimer, .listInstancesSucceeds [] [],
      .finishStarting [⟨sampleID, 0⟩], .cancelNext, .finishRefresh] ++
    sampleListing ++ [.startNext, .finishStarting [⟨sampleID, 0⟩], .cancelNext]

theorem reappearing_instance_unserved :
    ∃ s trace, (model sampleSettings).run .initial sampleReappearance =
        some (s, trace) ∧
      ¬RefreshServes sampleSettings trace s := by
  refine ⟨_, _, rfl, ?_⟩
  intro serves
  have served := serves _ _ rfl rfl [sampleInstance] rfl sampleID (by decide)
  exact absurd served.stale_eq_false (by decide)

theorem refreshes_serve_sample :
    ∃ s trace, ((model sampleSettings).restrict ListsNoStale).run .initial
        (sampleListing ++ [.startNext, .finishStarting [⟨sampleID, 0⟩], .cancelNext]) =
        some (s, trace) ∧
      lastListing trace = some [sampleInstance] ∧ s.registry.Serves sampleID := by
  refine ⟨_, _, rfl, rfl, ?_⟩
  have serves := refreshes_serve
    (((model sampleSettings).restrict ListsNoStale).reachable_of_run
      (sampleListing ++ [.startNext, .finishStarting [⟨sampleID, 0⟩], .cancelNext]) rfl)
  exact serves _ _ rfl rfl [sampleInstance] rfl sampleID (by decide)

/-! ## How long an id stays unserved -/

private theorem Step.stale_or_deleted {settings : Settings} {s next : State}
    {action : Action} {events : List Event} {id : WorkerID}
    (step : Step settings s action next events)
    (consistent : s.registry.Consistent) (stale : s.registry.stale id = true) :
    .workerDeleted id ∈ events ∨ next.registry.stale id = true := by
  by_cases deleted : .workerDeleted id ∈ events
  · exact .inl deleted
  · right
    cases step with
    | startMissing desired started instanceInfo remaining main missing =>
        exact (Registry.stale_startWorker consistent settings missing instanceInfo
          id).trans stale
    | cancelUndesired desired cancelled index =>
        exact Registry.stale_cancelWorker_of_stale stale index
    | receiveStopped registry events main reaped =>
        exact (Registry.stale_reap reaped deleted).trans stale
    | drainReceive registry events main nonempty reaped =>
        exact (Registry.stale_reap reaped deleted).trans stale
    | run index action registry events ran =>
        exact (Registry.stale_runWorker ran id).trans stale
    | _ => exact stale

/-- Until the stop message of its cancelled worker is received, no number of
refreshes gets an id served. -/
theorem unserved_until_deleted {settings : Settings} {past later : List Event}
    {s final : State} {actions : List Action} {id : WorkerID}
    (reachable : (model settings).Reachable past s)
    (stale : s.registry.stale id = true)
    (transitions : (model settings).Transitions s actions later final)
    (kept : .workerDeleted id ∉ later) : ¬final.registry.Serves id := by
  have holds : .workerDeleted id ∈ later ∨ final.registry.stale id = true := by
    apply reachable.invariant_from transitions fun done current =>
      .workerDeleted id ∈ done ∨ current.registry.stale id = true
    · exact .inr stale
    · intro done current action next events reached holds stepped
      rcases holds with deleted | stale
      · exact .inl (List.mem_append_left _ deleted)
      · rcases (step_inversion stepped).stale_or_deleted
          (registry_consistent reached) stale with deleted | stale
        · exact .inl (List.mem_append_right _ deleted)
        · exact .inr stale
  intro serves
  have fresh := serves.stale_eq_false
  rw [holds.resolve_left kept] at fresh
  cases fresh

end RdsMetricCollector.Scheduler
