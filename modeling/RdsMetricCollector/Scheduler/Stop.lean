import RdsMetricCollector.Scheduler.Progress
import Mathlib.Data.Fintype.EquivFin

/-! # Stopping the scheduler

`Stop` cancels the context and waits until the wait group is empty. That is no
promise that the main loop has noticed: a `Stop` that returns while the main
loop is still in its loop may be followed by new workers.
-/

namespace RdsMetricCollector.Scheduler

open RdsMetricCollector.BrokerInfo
open RdsMetricCollector.Execution
open RdsMetricCollector.Runtime

/-- A worker goroutine is started, or a worker calls `NewCollector`, `Collect`
or `Emit`. -/
def Event.IsActivity : Event → Prop
  | .workerStarted _ _ => True
  | .worker _ _ (.newCollectorCalled _) => True
  | .worker _ _ (.collectCalled _) => True
  | .worker _ _ (.emitted _) => True
  | _ => False

private theorem Event.IsActivity.isWork {event : Event} (active : event.IsActivity) :
    event.IsWork := by
  cases event with
  | workerStarted => trivial
  | worker => trivial
  | _ => cases active

/-- No activity follows the return of a call of `Stop`. -/
def QuietAfterStop (trace : List Event) : Prop :=
  trace.Pairwise fun earlier later => earlier = .stopReturned → ¬later.IsActivity

private theorem QuietAfterStop.append {past events : List Event}
    (quiet : QuietAfterStop past)
    (within : .stopReturned ∈ events → events = [.stopReturned])
    (idle : .stopReturned ∈ past → ∀ event ∈ events, ¬event.IsActivity) :
    QuietAfterStop (past ++ events) := by
  refine List.pairwise_append.mpr ⟨quiet, ?_, ?_⟩
  · by_cases stopped : .stopReturned ∈ events
    · rw [within stopped]
      exact List.pairwise_singleton _ _
    · apply List.pairwise_of_forall_mem_list
      intro earlier member later _ returned
      exact absurd (returned ▸ member) stopped
  · intro earlier member later laterMember returned
    exact idle (returned ▸ member) later laterMember

def Action.isStopReturns : Action → Bool
  | .stopReturns => true
  | _ => false

/-- Calls of `Stop` return only when the main loop is on its way out. -/
def StopReturnsLate (s : State) (action : Action) : Prop :=
  action.isStopReturns → s.main.Leaving

instance (s : State) (action : Action) : Decidable (StopReturnsLate s action) :=
  inferInstanceAs (Decidable (_ → _))

/-- Only the return of `Stop` has its event, and it needs an empty wait group. -/
theorem Step.of_stopReturned {settings : Settings} {s next : State}
    {action : Action} {events : List Event}
    (step : Step settings s action next events)
    (returned : .stopReturned ∈ events) :
    action.isStopReturns ∧ events = [.stopReturned] ∧
      s.registry.workersRunning = 0 ∧ next.main = s.main ∧
      next.registry = s.registry := by
  have notReaped : ∀ {registry : Registry} {events : List Event},
      s.registry.reap = some (registry, events) → .stopReturned ∉ events := by
    intro registry events reaped
    rcases Registry.reap_eq_some reaped with ⟨_, _, _, _, rfl⟩
    simp
  cases step with
  | stopReturns waiting idle => exact ⟨rfl, rfl, idle, rfl, rfl⟩
  | receiveStopped registry events main reaped =>
      exact absurd returned (notReaped reaped)
  | drainReceive registry events main nonempty reaped =>
      exact absurd returned (notReaped reaped)
  | run index action registry events ran =>
      rcases Registry.runWorker_eq_some ran with ⟨_, _, _, _, _, _, _, _, rfl⟩
      simp at returned
  | _ => simp at returned

private theorem workers_empty_of_workersRunning {settings : Settings}
    {trace : List Event} {s : State}
    (reachable : (model settings).Reachable trace s)
    (idle : s.registry.workersRunning = 0) : s.registry.workers = ∅ := by
  have counter := (registry_consistent reachable).counter
  rw [idle] at counter
  have noKeys : s.registry.workers.keys = ∅ :=
    Finset.card_eq_zero.mp (by omega)
  apply Finmap.ext_lookup
  intro id
  rw [Finmap.lookup_empty, Finmap.lookup_eq_none, ← Finmap.mem_keys, noKeys]
  simp

/-- In every run in which `Stop` only ever returns with the main loop on its
way out, nothing is started or called after such a return. -/
theorem quiet_after_stop {settings : Settings} {trace : List Event} {s : State}
    (reachable : ((model settings).restrict StopReturnsLate).Reachable trace s) :
    QuietAfterStop trace := by
  have strengthened := reachable.restrict_invariant
    (fun past current => QuietAfterStop past ∧
      (.stopReturned ∈ past → Quiescent current))
    ⟨List.Pairwise.nil, by simp⟩
    (by
      intro past current action next events reached holds late stepped
      have step := step_inversion stepped
      refine ⟨holds.1.append ?_ ?_, ?_⟩
      · intro returned
        exact (step.of_stopReturned returned).2.1
      · intro stopped event member active
        have idle := ((holds.2 stopped).step reached step).2
        exact idle event member active.isWork
      · intro stopped
        rcases List.mem_append.mp stopped with stopped | returned
        · exact ((holds.2 stopped).step reached step).1
        · rcases step.of_stopReturned returned with ⟨stops, _, idle, main, registry⟩
          constructor
          · rw [main]
            exact late stops
          · rw [registry]
            exact workers_empty_of_workersRunning reached idle)
  exact strengthened.2.1

/-- `Stop` is called and returns on the sample scheduler while the worker of the
last refresh waits for its start. -/
theorem starts_after_stop :
    ∃ s trace, (model sampleSettings).run .initial
        (sampleListing ++
          [.callStop, .stopReturns, .startNext, .run 0 .callNewCollector]) =
        some (s, trace) ∧
      ¬QuietAfterStop trace := by
  refine ⟨_, [.listInstancesCalled, .listInstancesReturned (.ok [sampleInstance]),
    .contextCancelled, .stopReturned,
    .workerStarted 0 (Registry.newWorker sampleSettings sampleID sampleInstance),
    .worker 0 sampleID (.newCollectorCalled sampleInstance)], rfl, ?_⟩
  simp [QuietAfterStop, Event.IsActivity]

/-- The sample worker is stopped and deleted by the drain loop. -/
theorem quiet_after_stop_sample :
    ∃ s trace, ((model sampleSettings).restrict StopReturnsLate).run .initial
        (sampleFailure ++ [.callStop, .receiveDone, .drainReceive, .stopReturns,
          .finishDraining]) = some (s, trace) ∧
      .stopReturned ∈ trace ∧ QuietAfterStop trace := by
  refine ⟨_, _, rfl, by simp, ?_⟩
  exact quiet_after_stop (((model sampleSettings).restrict StopReturnsLate).reachable_of_run
    (sampleFailure ++ [.callStop, .receiveDone, .drainReceive, .stopReturns,
      .finishDraining]) rfl)

/-! ## Early returns -/

/-- From its `select` the main loop can go on to list the instances. -/
theorem exists_listing {settings : Settings} {s : State}
    (main : s.main = .selecting) (live : s.timer.Live) :
    ∃ actions later next,
      (model settings).Transitions s actions later next ∧
        next.main = .listing ∧ next.registry = s.registry := by
  have received : ∀ {current : State}, current.main = .selecting →
      current.timer.tick = true → ∃ actions later next,
        (model settings).Transitions current actions later next ∧
          next.main = .listing ∧ next.registry = current.registry := by
    intro current selecting tick
    have receive : current.timer.receive = some { current.timer with tick := false } := by
      simp [Timer.receive, tick]
    exact ⟨_, _, _, (Step.receiveTick _ selecting receive).transitions.append
      (Step.resetTimer rfl).transitions, rfl, rfl⟩
  rcases live with armed | tick
  · rcases Option.isSome_iff_exists.mp armed with ⟨delay, running⟩
    let fired : State := { s with timer := { armed := none, tick := true } }
    have fire : Step settings s .timerFires fired [] :=
      .timerFires _ (by simp [Timer.fire, running])
    rcases received (show fired.main = .selecting from main) rfl with
      ⟨actions, later, next, transitions, ends⟩
    exact ⟨_, _, next, fire.transitions.append transitions, ends⟩
  · exact received main tick

/-- A listed instance with a new GUID is started at once. -/
theorem exists_start_of_listing {settings : Settings} {s : State}
    (main : s.main = .listing) {name type : String}
    {driver : Collector.MetricsCollectorDriver}
    (registered : settings.metricsCollectorDrivers.lookup name = some driver)
    (supported : type ∈ driver.supportedTypes) :
    ∃ actions later next,
      (model settings).Transitions s actions later next ∧
        ∃ event ∈ later, event.IsActivity := by
  rcases Infinite.exists_notMem_finset
    (s.registry.workers.keys.image WorkerID.instanceGUID) with ⟨guid, fresh⟩
  rcases exists_rangeOrder settings.metricsCollectorDrivers with ⟨drivers, ranges⟩
  let listing : Listing := [({ guid := guid, type := type }, drivers)]
  have allRange : ∀ listed ∈ listing,
      RangeOrder settings.metricsCollectorDrivers listed.2 := by
    intro listed member
    rw [List.mem_singleton.mp member]
    exact ranges
  rcases exists_rangeOrder (desiredWorkerIDs listing) with ⟨order, visits⟩
  have listed := Step.listInstancesSucceeds listing order main allRange visits
  cases order with
  | nil =>
      have wanted : (⟨name, guid⟩ : WorkerID) ∈ desiredWorkerIDs listing :=
        (mem_desiredWorkerIDs allRange _).mpr
          ⟨{ guid := guid, type := type }, by simp [listing], rfl, driver,
            registered, supported⟩
      rcases Finmap.mem_iff.mp wanted with ⟨info, found⟩
      have member := visits.mem_iff.mpr found
      cases member
  | cons entry remaining =>
      rcases entry with ⟨id, instanceInfo⟩
      have wanted : id ∈ desiredWorkerIDs listing :=
        Finmap.mem_of_lookup_eq_some (visits.mem_iff.mp List.mem_cons_self)
      rcases (mem_desiredWorkerIDs allRange id).mp wanted with
        ⟨asking, member, sameGuid, _⟩
      have guidEq : id.instanceGUID = guid := by
        rw [← sameGuid, show asking = { guid := guid, type := type } by
          simpa [listing] using member]
      let starting : State := { s with
        main := .starting (desiredWorkerIDs listing) (⟨id, instanceInfo⟩ :: remaining) }
      have missing : id ∉ starting.registry.workers := by
        intro present
        apply fresh
        rw [← guidEq]
        exact Finset.mem_image_of_mem _ (Finmap.mem_keys.mpr present)
      have started : Step settings starting .startNext _ _ :=
        .startMissing _ id instanceInfo remaining rfl missing
      exact ⟨_, _, _, listed.transitions.append started.transitions,
        .workerStarted _ _, List.mem_append_right _ List.mem_cons_self, trivial⟩

/-- Where the main loop is not on its way out, a return of `Stop` may be
followed by the start of a worker, as soon as some driver supports some type. -/
theorem activity_after_early_stop {settings : Settings} {trace events : List Event}
    {s next : State} (reachable : (model settings).Reachable trace s)
    (returned : step settings s .stopReturns = some (next, events))
    (early : ¬StopReturnsLate s .stopReturns) {name type : String}
    {driver : Collector.MetricsCollectorDriver}
    (registered : settings.metricsCollectorDrivers.lookup name = some driver)
    (supported : type ∈ driver.supportedTypes) :
    ∃ actions later final,
      (model settings).Transitions next actions later final ∧
        ∃ event ∈ later, event.IsActivity := by
  have looping : ¬s.main.Leaving := fun leaving => early fun _ => leaving
  have reached := reachable.transitions (step_inversion returned).transitions
  have sameMain : next.main = s.main := by
    cases step_inversion returned
    rfl
  have unsignalled : next.main ≠ .signalled := by
    rw [sameMain]
    intro main
    exact looping (by rw [main]; trivial)
  have inLoop : ¬next.main.LeftLoop := by
    rw [sameMain]
    intro left
    rcases left with main | main
    · exact looping (by rw [main]; trivial)
    · exact looping (by rw [main]; trivial)
  rcases reaches_selecting settings inLoop unsignalled with
    ⟨selecting, ⟨first, firstTrace, _, toSelecting⟩, main, _⟩
  have live : selecting.timer.Live := by
    simpa [RefreshTimerLive, main] using
      refreshTimerLive (reached.transitions toSelecting)
  rcases exists_listing main live with
    ⟨second, secondTrace, listing, toListing, listingMain, _⟩
  rcases exists_start_of_listing listingMain registered supported with
    ⟨third, thirdTrace, final, toFinal, event, member, active⟩
  exact ⟨_, _, final, (toSelecting.append toListing).append toFinal, event,
    List.mem_append_right _ member, active⟩

end RdsMetricCollector.Scheduler
