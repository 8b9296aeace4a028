import RdsMetricCollector.Scheduler.Refresh
import RdsMetricCollector.Scheduler.Registry

/-! # The main loop

`Scheduler.mainLoop` and `Scheduler.Stop`, interleaved with the workers. The
main loop alone reads and writes the worker map; a refresh is therefore split
only where other goroutines can tell the difference. An action says who moves,
which case of a `select` is taken, what calls return and in which order maps are
visited.
-/

namespace RdsMetricCollector.Scheduler

open RdsMetricCollector.BrokerInfo
open RdsMetricCollector.Collector
open RdsMetricCollector.Execution
open RdsMetricCollector.Runtime

abbrev DesiredEntry := Σ _ : WorkerID, InstanceInfo
abbrev WorkerEntry := Σ _ : WorkerID, Nat

inductive MainPoint
  | selecting
  | ticked
  | listing
  | starting (desired : DesiredWorkers) (remaining : List DesiredEntry)
  | cancelling (desired : DesiredWorkers) (remaining : List WorkerEntry)
  -- A signal was received; the context is about to be cancelled.
  | signalled
  -- In the deferred loop that waits for the workers.
  | draining
  | returned

/-- The scheduler from the moment `Run` has created its context. -/
structure State where
  registry : Registry
  main : MainPoint
  timer : Timer
  workersStopTimeout : Timer
  -- Calls of `Stop` that wait for the wait group. A call that the runtime
  -- woke up and that then finds the wait group in use again panics; here it goes
  -- on waiting, so no run is lost.
  stopsWaiting : Nat

def State.initial : State where
  registry := .initial
  main := .selecting
  timer := .newTimer 0
  workersStopTimeout := .stopped
  stopsWaiting := 0

inductive Action
  | timerFires
  | receiveTick
  | resetTimer
  | listInstancesFails (err : String)
  | listInstancesSucceeds (listing : Listing) (order : List DesiredEntry)
  | startNext
  | finishStarting (order : List WorkerEntry)
  | cancelNext
  | finishRefresh
  | receiveStopped
  | receiveSignal
  | cancelOnSignal
  | receiveDone
  | drainReceive
  | workersStopTimeoutFires
  | drainTimeout
  | finishDraining
  | callStop
  | stopReturns
  | run (index : Nat) (action : RunAction)

def State.drain (s : State) : State :=
  { s with main := .draining, workersStopTimeout := .newTimer (30 * second) }

def step (settings : Settings) (s : State) (action : Action) :
    Option (State × List Event) :=
  match action, s.main with
  | .timerFires, _ =>
      s.timer.fire.map fun timer => ({ s with timer := timer }, [])
  | .receiveTick, .selecting =>
      s.timer.receive.map fun timer =>
        ({ s with main := .ticked, timer := timer }, [])
  | .resetTimer, .ticked =>
      some ({ s with
          main := .listing
          timer := s.timer.reset (settings.instanceRefreshInterval * second) },
        [.listInstancesCalled])
  | .listInstancesFails err, .listing =>
      some ({ s with main := .selecting },
        [.listInstancesReturned (.error err)])
  | .listInstancesSucceeds listing order, .listing =>
      if (∀ listed ∈ listing,
            RangeOrder settings.metricsCollectorDrivers listed.2) ∧
          RangeOrder (desiredWorkerIDs listing) order then
        some ({ s with main := .starting (desiredWorkerIDs listing) order },
          [.listInstancesReturned (.ok (listing.map Prod.fst))])
      else
        none
  | .startNext, .starting desired (⟨id, instanceInfo⟩ :: remaining) =>
      if id ∈ s.registry.workers then
        some ({ s with main := .starting desired remaining }, [])
      else
        some ({ s with
            main := .starting desired remaining
            registry := s.registry.startWorker settings id instanceInfo },
          [.workerStarted s.registry.goroutines.length
            (Registry.newWorker settings id instanceInfo)])
  | .finishStarting order, .starting desired [] =>
      if RangeOrder s.registry.workers order then
        some ({ s with main := .cancelling desired order }, [])
      else
        none
  | .cancelNext, .cancelling desired (⟨id, index⟩ :: remaining) =>
      if id ∈ desired then
        some ({ s with main := .cancelling desired remaining }, [])
      else
        some ({ s with
            main := .cancelling desired remaining
            registry := s.registry.cancelWorker index },
          [.workerCancelled index])
  | .finishRefresh, .cancelling _ [] => some ({ s with main := .selecting }, [])
  | .receiveStopped, .selecting =>
      s.registry.reap.map fun (registry, events) =>
        ({ s with registry := registry }, events)
  | .receiveSignal, .selecting => some ({ s with main := .signalled }, [])
  | .cancelOnSignal, .signalled =>
      some ({ s with registry := s.registry.cancelContext }.drain,
        [.contextCancelled])
  | .receiveDone, .selecting =>
      if s.registry.cancelled then some (s.drain, []) else none
  | .drainReceive, .draining =>
      if s.registry.workers = ∅ then
        none
      else
        s.registry.reap.map fun (registry, events) =>
          ({ s with registry := registry }, events)
  | .workersStopTimeoutFires, _ =>
      s.workersStopTimeout.fire.map fun timer =>
        ({ s with workersStopTimeout := timer }, [])
  | .drainTimeout, .draining =>
      -- The timeout is logged; the loop goes on waiting.
      if s.registry.workers = ∅ then
        none
      else
        s.workersStopTimeout.receive.map fun timer =>
          ({ s with workersStopTimeout := timer }, [])
  | .finishDraining, .draining =>
      if s.registry.workers = ∅ then
        some ({ s with main := .returned }, [.mainLoopReturned])
      else
        none
  | .callStop, _ =>
      some ({ s with
          registry := s.registry.cancelContext
          stopsWaiting := s.stopsWaiting + 1 },
        [.contextCancelled])
  | .stopReturns, _ =>
      if 0 < s.stopsWaiting ∧ s.registry.workersRunning = 0 then
        some ({ s with stopsWaiting := s.stopsWaiting - 1 }, [.stopReturned])
      else
        none
  | .run index action, _ =>
      (s.registry.runWorker index action).map fun (registry, events) =>
        ({ s with registry := registry }, events)
  | _, _ => none

def model (settings : Settings) : Model State Action Event where
  initial := .initial
  step := step settings

inductive Step (settings : Settings) (s : State) :
    Action → State → List Event → Prop
  | timerFires (timer) :
      s.timer.fire = some timer →
      Step settings s .timerFires { s with timer := timer } []
  | receiveTick (timer) :
      s.main = .selecting → s.timer.receive = some timer →
      Step settings s .receiveTick { s with main := .ticked, timer := timer } []
  | resetTimer :
      s.main = .ticked →
      Step settings s .resetTimer
        { s with
          main := .listing
          timer := s.timer.reset (settings.instanceRefreshInterval * second) }
        [.listInstancesCalled]
  | listInstancesFails (err) :
      s.main = .listing →
      Step settings s (.listInstancesFails err) { s with main := .selecting }
        [.listInstancesReturned (.error err)]
  | listInstancesSucceeds (listing order) :
      s.main = .listing →
      (∀ listed ∈ listing,
        RangeOrder settings.metricsCollectorDrivers listed.2) →
      RangeOrder (desiredWorkerIDs listing) order →
      Step settings s (.listInstancesSucceeds listing order)
        { s with main := .starting (desiredWorkerIDs listing) order }
        [.listInstancesReturned (.ok (listing.map Prod.fst))]
  | skipRegistered (desired id instanceInfo remaining) :
      s.main = .starting desired (⟨id, instanceInfo⟩ :: remaining) →
      id ∈ s.registry.workers →
      Step settings s .startNext
        { s with main := .starting desired remaining } []
  | startMissing (desired id instanceInfo remaining) :
      s.main = .starting desired (⟨id, instanceInfo⟩ :: remaining) →
      id ∉ s.registry.workers →
      Step settings s .startNext
        { s with
          main := .starting desired remaining
          registry := s.registry.startWorker settings id instanceInfo }
        [.workerStarted s.registry.goroutines.length
          (Registry.newWorker settings id instanceInfo)]
  | finishStarting (desired order) :
      s.main = .starting desired [] →
      RangeOrder s.registry.workers order →
      Step settings s (.finishStarting order)
        { s with main := .cancelling desired order } []
  | skipDesired (desired id index remaining) :
      s.main = .cancelling desired (⟨id, index⟩ :: remaining) →
      id ∈ desired →
      Step settings s .cancelNext
        { s with main := .cancelling desired remaining } []
  | cancelUndesired (desired id index remaining) :
      s.main = .cancelling desired (⟨id, index⟩ :: remaining) →
      id ∉ desired →
      Step settings s .cancelNext
        { s with
          main := .cancelling desired remaining
          registry := s.registry.cancelWorker index }
        [.workerCancelled index]
  | finishRefresh (desired) :
      s.main = .cancelling desired [] →
      Step settings s .finishRefresh { s with main := .selecting } []
  | receiveStopped (registry events) :
      s.main = .selecting → s.registry.reap = some (registry, events) →
      Step settings s .receiveStopped { s with registry := registry } events
  | receiveSignal :
      s.main = .selecting →
      Step settings s .receiveSignal { s with main := .signalled } []
  | cancelOnSignal :
      s.main = .signalled →
      Step settings s .cancelOnSignal
        { s with registry := s.registry.cancelContext }.drain [.contextCancelled]
  | receiveDone :
      s.main = .selecting → s.registry.cancelled = true →
      Step settings s .receiveDone s.drain []
  | drainReceive (registry events) :
      s.main = .draining → s.registry.workers ≠ ∅ →
      s.registry.reap = some (registry, events) →
      Step settings s .drainReceive { s with registry := registry } events
  | workersStopTimeoutFires (timer) :
      s.workersStopTimeout.fire = some timer →
      Step settings s .workersStopTimeoutFires
        { s with workersStopTimeout := timer } []
  | drainTimeout (timer) :
      s.main = .draining → s.registry.workers ≠ ∅ →
      s.workersStopTimeout.receive = some timer →
      Step settings s .drainTimeout { s with workersStopTimeout := timer } []
  | finishDraining :
      s.main = .draining → s.registry.workers = ∅ →
      Step settings s .finishDraining { s with main := .returned }
        [.mainLoopReturned]
  | callStop :
      Step settings s .callStop
        { s with
          registry := s.registry.cancelContext
          stopsWaiting := s.stopsWaiting + 1 }
        [.contextCancelled]
  | stopReturns :
      0 < s.stopsWaiting → s.registry.workersRunning = 0 →
      Step settings s .stopReturns
        { s with stopsWaiting := s.stopsWaiting - 1 } [.stopReturned]
  | run (index action registry events) :
      s.registry.runWorker index action = some (registry, events) →
      Step settings s (.run index action) { s with registry := registry } events

theorem step_inversion {settings : Settings} {s next : State} {action : Action}
    {events : List Event} (stepped : step settings s action = some (next, events)) :
    Step settings s action next events := by
  unfold step at stepped
  split at stepped
  case h_1 =>
    rcases Option.map_eq_some_iff.mp stepped with ⟨timer, fired, equal⟩
    cases equal
    exact .timerFires timer fired
  case h_2 main =>
    rcases Option.map_eq_some_iff.mp stepped with ⟨timer, received, equal⟩
    cases equal
    exact .receiveTick timer main received
  case h_3 main => cases stepped; exact .resetTimer main
  case h_4 main => cases stepped; exact .listInstancesFails _ main
  case h_5 main =>
    split at stepped
    case isTrue ranges => cases stepped; exact .listInstancesSucceeds _ _ main ranges.1 ranges.2
    case isFalse => cases stepped
  case h_6 main =>
    split at stepped
    case isTrue registered => cases stepped; exact .skipRegistered _ _ _ _ main registered
    case isFalse missing => cases stepped; exact .startMissing _ _ _ _ main missing
  case h_7 main =>
    split at stepped
    case isTrue ranges => cases stepped; exact .finishStarting _ _ main ranges
    case isFalse => cases stepped
  case h_8 main =>
    split at stepped
    case isTrue desired => cases stepped; exact .skipDesired _ _ _ _ main desired
    case isFalse undesired => cases stepped; exact .cancelUndesired _ _ _ _ main undesired
  case h_9 main => cases stepped; exact .finishRefresh _ main
  case h_10 main =>
    rcases Option.map_eq_some_iff.mp stepped with ⟨⟨registry, _⟩, received, equal⟩
    cases equal
    exact .receiveStopped registry _ main received
  case h_11 main => cases stepped; exact .receiveSignal main
  case h_12 main => cases stepped; exact .cancelOnSignal main
  case h_13 main =>
    split at stepped
    case isTrue cancelled => cases stepped; exact .receiveDone main cancelled
    case isFalse => cases stepped
  case h_14 main =>
    split at stepped
    case isTrue => cases stepped
    case isFalse nonempty =>
      rcases Option.map_eq_some_iff.mp stepped with ⟨⟨registry, _⟩, received, equal⟩
      cases equal
      exact .drainReceive registry _ main nonempty received
  case h_15 =>
    rcases Option.map_eq_some_iff.mp stepped with ⟨timer, fired, equal⟩
    cases equal
    exact .workersStopTimeoutFires timer fired
  case h_16 main =>
    split at stepped
    case isTrue => cases stepped
    case isFalse nonempty =>
      rcases Option.map_eq_some_iff.mp stepped with ⟨timer, received, equal⟩
      cases equal
      exact .drainTimeout timer main nonempty received
  case h_17 main =>
    split at stepped
    case isTrue empty => cases stepped; exact .finishDraining main empty
    case isFalse => cases stepped
  case h_18 => cases stepped; exact .callStop
  case h_19 =>
    split at stepped
    case isTrue enabled => cases stepped; exact .stopReturns enabled.1 enabled.2
    case isFalse => cases stepped
  case h_20 =>
    rcases Option.map_eq_some_iff.mp stepped with ⟨⟨registry, _⟩, stepped, equal⟩
    cases equal
    exact .run _ _ registry _ stepped
  case h_21 => cases stepped

theorem Step.step_eq {settings : Settings} {s next : State} {action : Action}
    {events : List Event} (stepped : Step settings s action next events) :
    step settings s action = some (next, events) := by
  cases stepped with
  | listInstancesSucceeds listing order main ranges visits =>
      simp only [step, main]
      exact if_pos ⟨ranges, visits⟩
  | _ => simp [step, *]

theorem Step.transitions {settings : Settings} {s next : State}
    {action : Action} {events : List Event}
    (stepped : Step settings s action next events) :
    (model settings).Transitions s [action] events next :=
  .single stepped.step_eq

/-! ## A sample scheduler

One driver and one instance, with the settings of the scheduler's own tests. -/

def sampleDriver : MetricsCollectorDriver where
  getName := "fake"
  supportedTypes := ["fake"]
  getCollectInterval := 1

def sampleSettings : Settings :=
  (newScheduler {
    instanceRefreshInterval := 1
    collectorTimeoutMs := some 100
    collectorRetryIntervalMs := some 10
    collectorMaxRetries := some 2
    sqlMetricCollectorInterval := 1
    cwMetricCollectorInterval := 1 }).withDriver [sampleDriver]

def sampleInstance : InstanceInfo where
  guid := "instance-guid1"
  type := "fake"

def sampleID : WorkerID where
  driver := "fake"
  instanceGUID := "instance-guid1"

/-- A listing of the sample instance, up to the end of the `ListInstances` call. -/
def sampleListing : List Action :=
  [.timerFires, .receiveTick, .resetTimer,
    .listInstancesSucceeds [(sampleInstance, [⟨"fake", sampleDriver⟩])]
      [⟨sampleID, sampleInstance⟩]]

def sampleRefresh : List Action :=
  sampleListing ++
    [.startNext, .finishStarting [⟨sampleID, 0⟩], .cancelNext, .finishRefresh]

/-- After the refresh, the worker fails to create its collector and ends. -/
def sampleFailure : List Action :=
  sampleRefresh ++
    [.run 0 .callNewCollector, .run 0 (.newCollectorReturns (some "refused")),
      .run 0 .runDeferred]

example : ((model sampleSettings).run .initial sampleRefresh).map
    (fun result => result.1.registry.workers.keys) = some {sampleID} := by
  decide

end RdsMetricCollector.Scheduler
