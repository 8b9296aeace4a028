import RdsMetricCollector.Scheduler.History

/-! # Why workers stop

A worker leaves its loop for one of four reasons, and each of them is visible in
the history of the run.
-/

namespace RdsMetricCollector.Scheduler

open RdsMetricCollector.Execution
open RdsMetricCollector.Runtime

/-! ## Failed collections -/

@[simp] def RunEvent.collectResult? : RunEvent → Option (Option String)
  | .collectReturned _ err => some err
  | _ => none

/-- The errors that the `Collect` calls of a worker returned, `none` for a
success. -/
def collectResults (events : List RunEvent) : List (Option String) :=
  events.filterMap RunEvent.collectResult?

theorem collectResults_append (left right : List RunEvent) :
    collectResults (left ++ right) = collectResults left ++ collectResults right :=
  List.filterMap_append

/-- The last collections failed, more of them than the worker may retry. -/
def Exhausted (maxRetries : Int64) (results : List (Option String)) : Prop :=
  ∃ earlier last, results = earlier ++ last ∧ last ≠ [] ∧
    maxRetries.toInt + 1 ≤ last.length ∧ ∀ result ∈ last, result.isSome

/-- `errorCount` is the number of collections that have failed since the last
success. The count wraps around like every `int`. -/
def CountsFailures (errorCount : Int64) (results : List (Option String)) : Prop :=
  ∃ earlier last, results = earlier ++ last ∧
    errorCount = Int64.ofNat last.length ∧ ∀ result ∈ last, result.isSome

private theorem countsFailures_zero (results : List (Option String)) :
    CountsFailures 0 results :=
  ⟨results, [], by simp, rfl, by simp⟩

private theorem CountsFailures.failed {errorCount : Int64} {results : List (Option String)}
    (counts : CountsFailures errorCount results) (err : String) :
    CountsFailures (errorCount + 1) (results ++ [some err]) := by
  rcases counts with ⟨earlier, last, split, count, failed⟩
  refine ⟨earlier, last ++ [some err], ?_, ?_, ?_⟩
  · rw [split, List.append_assoc]
  · rw [count, List.length_append, List.length_singleton, Int64.ofNat_add]
    rfl
  · intro result member
    rcases List.mem_append.mp member with member | member
    · exact failed result member
    · rw [List.mem_singleton.mp member]
      rfl

/-- Wrapping around never makes a count larger. -/
theorem toInt_ofNat_le (count : Nat) : (Int64.ofNat count).toInt ≤ count := by
  rw [Int64.toInt_ofNat', Int.bmod]
  have size : (Int64.size : Int) = 2 ^ 64 := rfl
  rw [size]
  split <;> omega

private theorem CountsFailures.exhausted {errorCount maxRetries : Int64}
    {results : List (Option String)} (err : String)
    (counts : CountsFailures errorCount results)
    (tooMany : ¬errorCount + 1 ≤ maxRetries) :
    Exhausted maxRetries (results ++ [some err]) := by
  rcases counts.failed err with ⟨earlier, last, split, count, failed⟩
  have bound := toInt_ofNat_le last.length
  have more : maxRetries.toInt < (errorCount + 1).toInt := by
    rw [Int64.le_iff_toInt_le] at tooMany
    omega
  rw [count] at more
  by_cases empty : last = []
  · -- The count wrapped around to zero: the failure at hand is enough.
    rw [empty, List.length_nil] at bound more
    exact ⟨results, [some err], rfl, by simp, by simp; omega, by simp⟩
  · exact ⟨earlier, last, split, empty, by omega, failed⟩

namespace Goroutine

/-- What a worker that has left its loop has gone through. -/
def LeftBecause (g : Goroutine) (events : List RunEvent) : Prop :=
  (∃ err, .newCollectorReturned (some err) ∈ events) ∨
    Exhausted g.worker.maxRetries (collectResults events) ∨
    .doneReceived ∈ events

/-- The error counter while the worker is in its loop, and the cause after it
has left it. -/
def CauseAt (g : Goroutine) (events : List RunEvent) : Prop :=
  match g.point with
  | .selecting | .collecting => CountsFailures g.errorCount (collectResults events)
  | .returning => g.LeftBecause events
  | _ => True

private theorem LeftBecause.append {g next : Goroutine} {past events : List RunEvent}
    (cause : g.LeftBecause past) (sameWorker : next.worker = g.worker)
    (noCollection : collectResults events = []) :
    next.LeftBecause (past ++ events) := by
  rw [LeftBecause, collectResults_append, noCollection, List.append_nil, sameWorker]
  rcases cause with ⟨err, failed⟩ | exhausted | done
  · exact .inl ⟨err, List.mem_append_left _ failed⟩
  · exact .inr (.inl exhausted)
  · exact .inr (.inr (List.mem_append_left _ done))

private theorem Step.causeAt {done : Bool} {g next : Goroutine} {action : RunAction}
    {past events : List RunEvent} (step : g.Step done action next events)
    (cause : g.CauseAt past) : next.CauseAt (past ++ events) := by
  have sameWorker := step.worker_eq
  unfold CauseAt at cause
  cases step with
  | timerFires =>
      rw [List.append_nil]
      exact cause
  | callNewCollector => trivial
  | creationFails err point =>
      exact .inl ⟨err, List.mem_append_right _ List.mem_cons_self⟩
  | created point => exact countsFailures_zero _
  | receiveTick timer point =>
      rw [point] at cause
      simp only [CauseAt, collectResults_append]
      rwa [show collectResults [.collectCalled _] = [] from rfl, List.append_nil]
  | receiveDone point =>
      exact .inr (.inr (List.mem_append_right _ List.mem_cons_self))
  | collectFails collected err point =>
      rw [point] at cause
      have results : collectResults (past ++ [.collectReturned collected (some err)]) =
          collectResults past ++ [some err] :=
        collectResults_append _ _
      rcases g.collectFailed_point with ⟨_, after, _⟩ | ⟨tooMany, after⟩
      · simp only [CauseAt, after, results, collectFailed_errorCount]
        exact cause.failed err
      · simp only [CauseAt, after, LeftBecause, results, collectFailed_worker]
        exact .inr (.inl (cause.exhausted err tooMany))
  | collected => trivial
  | emit => trivial
  | finishEmitting => exact countsFailures_zero _
  | close rest point =>
      rw [point] at cause
      simp only [CauseAt, point]
      exact cause.append sameWorker rfl
  | sendStopped rest point =>
      rw [point] at cause
      simp only [CauseAt, point]
      exact cause.append sameWorker rfl

private theorem RanTo.causeAt {trace : List RunEvent} {g : Goroutine}
    (ran : RanTo trace g) : g.CauseAt trace := by
  apply ran.invariant fun past current => current.CauseAt past
  · intro worker _
    trivial
  · intro past current cause
    exact cause
  · intro past current done action next events _ cause step
    exact step.causeAt cause

end Goroutine

/-! ## Cancelled contexts -/

namespace Registry

/-- A worker that saw its context cancelled was cancelled, and it was cancelled
by name or with the scheduler. -/
structure CancelHistory (trace : List Event) (r : Registry) : Prop where
  done : ∀ (index : Nat) (g : Goroutine), r.goroutines[index]? = some g →
    .doneReceived ∈ ownEvents index trace → r.contextDone g = true
  cancelled : ∀ (index : Nat) (g : Goroutine), r.goroutines[index]? = some g →
    g.cancelled = true → .workerCancelled index ∈ trace

private theorem CancelHistory.run {past : List Event} {r : Registry} {index : Nat}
    {g moved : Goroutine} {action : RunAction} {events : List RunEvent}
    (history : CancelHistory past r) (present : r.goroutines[index]? = some g)
    (ran : g.Step (r.contextDone g) action moved events)
    (channel : Channel WorkerID 1) :
    CancelHistory (past ++ events.map (.worker index g.worker.id))
      { r with
        goroutines := r.goroutines.set index moved
        stoppedWorker := channel } := by
  have inRange := (List.getElem?_eq_some_iff.mp present).1
  constructor
  · intro other h otherPresent received
    rw [ownEvents_append, ownEvents_map_worker, List.mem_append] at received
    by_cases same : index = other
    · subst other
      rw [List.getElem?_set_self inRange] at otherPresent
      cases otherPresent
      rw [contextDone, ran.cancelled_eq]
      rcases received with before | now
      · exact history.done index g present before
      · rw [if_pos rfl] at now
        cases ran with
        | receiveDone point done => exact done
        | _ => simp at now
    · rw [List.getElem?_set_ne same] at otherPresent
      rw [if_neg same] at received
      exact history.done other h otherPresent (by simpa using received)
  · intro other h otherPresent cancelled
    apply List.mem_append_left
    by_cases same : index = other
    · subst other
      rw [List.getElem?_set_self inRange] at otherPresent
      cases otherPresent
      rw [ran.cancelled_eq] at cancelled
      exact history.cancelled index g present cancelled
    · rw [List.getElem?_set_ne same] at otherPresent
      exact history.cancelled other h otherPresent cancelled

private theorem CancelHistory.startWorker {settings : Settings} {past : List Event}
    {r : Registry} (history : CancelHistory past r)
    (reachable : (model settings).Reachable past r) (id : WorkerID)
    (instanceInfo : BrokerInfo.InstanceInfo) (worker : CollectorWorker) :
    CancelHistory (past ++ [.workerStarted r.goroutines.length worker])
      (r.startWorker settings id instanceInfo) := by
  constructor
  · intro index g present received
    rw [getElem?_startWorker] at present
    have earlier : .doneReceived ∈ ownEvents index past := by
      simpa [ownEvents, Event.own] using received
    split at present
    case isTrue equal =>
      rw [equal, ownEvents_of_not_started reachable (by simp)] at earlier
      cases earlier
    case isFalse different => exact history.done index g present earlier
  · intro index g present cancelled
    apply List.mem_append_left
    rw [getElem?_startWorker] at present
    split at present
    · cases present
      cases cancelled
    · exact history.cancelled index g present cancelled

private theorem CancelHistory.cancelWorker {past : List Event} {r : Registry}
    (history : CancelHistory past r) (index : Nat) :
    CancelHistory (past ++ [.workerCancelled index]) (r.cancelWorker index) := by
  constructor
  · intro other g present received
    have earlier : .doneReceived ∈ ownEvents other past := by
      simpa [ownEvents, Event.own] using received
    rcases of_getElem?_cancelWorker present with ⟨before, found, equal⟩
    subst equal
    split
    · simp [contextDone]
    · exact history.done other before found earlier
  · intro other g present cancelled
    rcases of_getElem?_cancelWorker present with ⟨before, found, equal⟩
    by_cases same : index = other
    · rw [same]
      exact List.mem_append_right _ List.mem_cons_self
    · rw [if_neg same] at equal
      subst g
      exact List.mem_append_left _ (history.cancelled other before found cancelled)

private theorem CancelHistory.step {settings : Settings} {past : List Event}
    {r next : Registry} {action : Action} {events : List Event}
    (reachable : (model settings).Reachable past r)
    (history : CancelHistory past r) (step : Step settings r action next events) :
    CancelHistory (past ++ events) next := by
  cases step with
  | start id instanceInfo missing known =>
      exact history.startWorker reachable id instanceInfo _
  | cancel index => exact history.cancelWorker index
  | reap id stoppedWorker received =>
      constructor
      · intro index g present doneReceived
        exact history.done index g present
          (by simpa [ownEvents, Event.own] using doneReceived)
      · intro index g present cancelled
        exact List.mem_append_left _ (history.cancelled index g present cancelled)
  | cancelContext =>
      constructor
      · intro index g _ _
        rfl
      · intro index g present cancelled
        exact List.mem_append_left _ (history.cancelled index g present cancelled)
  | run index action g moved runEvents present ran quiet =>
      exact history.run present ran r.stoppedWorker
  | send index g rest stoppedWorker present point deferred room sent =>
      have ran : g.Step (r.contextDone g) .runDeferred
          { g with deferred := rest } [.stoppedSent] :=
        .sendStopped rest point deferred
      exact history.run present ran stoppedWorker

private theorem cancelHistory {settings : Settings} {trace : List Event} {r : Registry}
    (reachable : (model settings).Reachable trace r) : CancelHistory trace r := by
  apply reachable.invariant CancelHistory
  · constructor <;> simp [model, initial]
  · intro past current action next events reached history stepped
    exact history.step reached (step_inversion stepped)

end Registry

/-! ## Listings as causes -/

/-- After the start of `worker` some listing did not desire its id. -/
def DroppedByListing (settings : Settings) (trace : List Event) (index : Nat)
    (worker : CollectorWorker) : Prop :=
  ∃ instanceInfos,
    [.workerStarted index worker,
      .listInstancesReturned (.ok instanceInfos)].Sublist trace ∧
    ¬Desires settings.metricsCollectorDrivers instanceInfos worker.id

private theorem DroppedByListing.append {settings : Settings} {past : List Event}
    {index : Nat} {worker : CollectorWorker}
    (dropped : DroppedByListing settings past index worker) (events : List Event) :
    DroppedByListing settings (past ++ events) index worker := by
  rcases dropped with ⟨instanceInfos, sublist, undesired⟩
  exact ⟨instanceInfos, sublist.trans (List.sublist_append_left _ _), undesired⟩

/-- Only a refresh that does not desire a worker cancels it by name. -/
theorem Step.dropped_of_cancelled {settings : Settings} {past : List Event}
    {s next : State} {action : Action} {events : List Event} {index : Nat}
    (reachable : (model settings).Reachable past s)
    (step : Step settings s action next events)
    (cancelled : .workerCancelled index ∈ events) :
    ∃ worker, DroppedByListing settings past index worker := by
  have progress := Scheduler.refreshProgress reachable
  have history := Scheduler.refreshHistory reachable
  have notReaped : ∀ {registry : Registry} {events : List Event},
      s.registry.reap = some (registry, events) →
        .workerCancelled index ∉ events := by
    intro registry events reaped
    rcases Registry.reap_eq_some reaped with ⟨_, _, _, _, rfl⟩
    simp
  cases step with
  | cancelUndesired desired id other remaining main undesired =>
      have same : index = other := by simpa using cancelled
      subst same
      simp only [RefreshProgress, main] at progress
      have found : s.registry.workers.lookup id = some index :=
        progress.2.1 ⟨id, index⟩ (by simp)
      rcases history desired (by simp [main]) with
        ⟨instanceInfos, _, desiredIff, startedBefore⟩
      rcases startedBefore id index found undesired with ⟨worker, sublist⟩
      have started : s.registry.workerAt index = some worker :=
        (mem_started_iff reachable index worker).mp
          (sublist.subset List.mem_cons_self)
      have sameId : worker.id = id := by
        rcases (registry_consistent reachable).registered found with ⟨_, status⟩
        rcases Registry.exists_statusAt_iff.mp ⟨_, status⟩ with ⟨g, present, equal⟩
        have workerEq : g.worker = worker := by
          simpa [Registry.workerAt, present] using started
        rw [← workerEq, equal]
      refine ⟨worker, instanceInfos, sublist, ?_⟩
      rw [sameId, ← desiredIff]
      exact undesired
  | receiveStopped registry events main reaped =>
      exact absurd cancelled (notReaped reaped)
  | drainReceive registry events main nonempty reaped =>
      exact absurd cancelled (notReaped reaped)
  | run other action registry events ran =>
      rcases Registry.runWorker_eq_some ran with ⟨_, _, _, _, _, _, _, _, rfl⟩
      simp at cancelled
  | _ => simp at cancelled

private theorem dropped_of_cancelled {settings : Settings} {trace : List Event} {s : State}
    (reachable : (model settings).Reachable trace s) {index : Nat}
    (cancelled : .workerCancelled index ∈ trace) :
    ∃ worker, DroppedByListing settings trace index worker := by
  revert cancelled
  apply reachable.invariant fun past _ => .workerCancelled index ∈ past →
    ∃ worker, DroppedByListing settings past index worker
  · simp
  · intro past current action next events reached holds stepped cancelled
    rcases List.mem_append.mp cancelled with before | now
    · rcases holds before with ⟨worker, dropped⟩
      exact ⟨worker, dropped.append events⟩
    · rcases (step_inversion stepped).dropped_of_cancelled reached now with
        ⟨worker, dropped⟩
      exact ⟨worker, dropped.append events⟩

/-- Workers are started for instances that their driver supports. -/
theorem wants_of_started {settings : Settings} {trace : List Event} {s : State}
    (reachable : (model settings).Reachable trace s) {index : Nat}
    {worker : CollectorWorker} (started : .workerStarted index worker ∈ trace) :
    Wants settings.metricsCollectorDrivers worker.id worker.instanceInfo := by
  revert started
  apply reachable.invariant fun past _ => .workerStarted index worker ∈ past →
    Wants settings.metricsCollectorDrivers worker.id worker.instanceInfo
  · simp
  · intro past current action next events reached holds stepped started
    rcases List.mem_append.mp started with before | now
    · exact holds before
    · have progress := refreshProgress reached
      cases step_inversion stepped with
      | startMissing desired id instanceInfo remaining main missing =>
          simp only [RefreshProgress, main] at progress
          rcases Event.workerStarted.inj (List.mem_singleton.mp now) with ⟨_, rfl⟩
          exact progress.1.wants (progress.2.1 ⟨id, instanceInfo⟩ (by simp))
      | receiveStopped registry events main reaped =>
          rcases Registry.reap_eq_some reaped with ⟨_, _, _, _, rfl⟩
          simp at now
      | drainReceive registry events main nonempty reaped =>
          rcases Registry.reap_eq_some reaped with ⟨_, _, _, _, rfl⟩
          simp at now
      | run other action registry events ran =>
          rcases Registry.runWorker_eq_some ran with ⟨_, _, _, _, _, _, _, _, rfl⟩
          simp at now
      | _ => simp at now

private theorem cancelHistory {settings : Settings} {trace : List Event} {s : State}
    (reachable : (model settings).Reachable trace s) :
    s.registry.CancelHistory trace := by
  have history := Registry.cancelHistory (registry_reachable reachable)
  constructor
  · intro index g present received
    apply history.done index g present
    rwa [ownEvents_registryEvent]
  · intro index g present cancelled
    rcases List.mem_filterMap.mp (history.cancelled index g present cancelled) with
      ⟨event, member, equal⟩
    cases event <;> cases equal
    exact member

/-- A worker leaves its loop only because its collector could not be created,
its last collections failed, the scheduler was stopped, or a listing since its
start did not desire it. If every listing since its start desires it, as one
that contains its instance does, it is never cancelled. -/
theorem stopped_with_cause {settings : Settings} {trace : List Event} {s : State}
    (reachable : (model settings).Reachable trace s) {index : Nat} {g : Goroutine}
    (present : s.registry.goroutines[index]? = some g) :
    (g.point = .returning →
      (∃ err, .newCollectorReturned (some err) ∈ ownEvents index trace) ∨
      Exhausted g.worker.maxRetries (collectResults (ownEvents index trace)) ∨
      s.registry.cancelled = true ∨
      DroppedByListing settings trace index g.worker) ∧
    (¬DroppedByListing settings trace index g.worker →
      g.cancelled = false ∧ .workerCancelled index ∉ trace) ∧
    (∀ instanceInfos, g.worker.instanceInfo ∈ instanceInfos →
      Desires settings.metricsCollectorDrivers instanceInfos g.worker.id) := by
  have history := cancelHistory reachable
  have started : s.registry.workerAt index = some g.worker := by
    simp [Registry.workerAt, present]
  have dropped : .workerCancelled index ∈ trace →
      DroppedByListing settings trace index g.worker := by
    intro cancelled
    rcases dropped_of_cancelled reachable cancelled with
      ⟨worker, instanceInfos, sublist, undesired⟩
    have known := (mem_started_iff reachable index worker).mp
      (sublist.subset List.mem_cons_self)
    rw [started] at known
    cases known
    exact ⟨instanceInfos, sublist, undesired⟩
  refine ⟨?_, ?_, ?_⟩
  · intro left
    have cause := (ranTo reachable present).causeAt
    simp only [Goroutine.CauseAt, left] at cause
    rcases cause with failed | exhausted | done
    · exact .inl failed
    · exact .inr (.inl exhausted)
    · have contextDone := history.done index g present done
      simp only [Registry.contextDone, Bool.or_eq_true] at contextDone
      rcases contextDone with stopped | cancelled
      · exact .inr (.inr (.inl stopped))
      · exact .inr (.inr (.inr (dropped (history.cancelled index g present cancelled))))
  · intro kept
    constructor
    · by_contra cancelled
      exact kept (dropped (history.cancelled index g present (by simpa using cancelled)))
    · intro cancelled
      exact kept (dropped cancelled)
  · intro instanceInfos member
    exact ⟨g.worker.instanceInfo, member,
      wants_of_started reachable ((mem_started_iff reachable _ _).mpr started)⟩

/-- The sample instance disappears while its worker waits for a tick. -/
def sampleDisappearance : List Action :=
  sampleRefresh ++
    [.run 0 .callNewCollector, .run 0 (.newCollectorReturns none),
      .timerFires, .receiveTick, .resetTimer, .listInstancesSucceeds [] [],
      .finishStarting [⟨sampleID, 0⟩], .cancelNext, .finishRefresh,
      .run 0 .receiveDone]

theorem stopped_with_cause_sample :
    ∃ s trace g, (model sampleSettings).run .initial sampleDisappearance =
        some (s, trace) ∧
      s.registry.goroutines[0]? = some g ∧ g.point = .returning ∧
      ((∃ err, .newCollectorReturned (some err) ∈ ownEvents 0 trace) ∨
        Exhausted g.worker.maxRetries (collectResults (ownEvents 0 trace)) ∨
        s.registry.cancelled = true ∨
        DroppedByListing sampleSettings trace 0 g.worker) := by
  refine ⟨_, _, _, rfl, rfl, rfl, ?_⟩
  have cause := @stopped_with_cause _ _ _
    ((model sampleSettings).reachable_of_run sampleDisappearance rfl) 0 _ rfl
  exact cause.1 rfl

end RdsMetricCollector.Scheduler
