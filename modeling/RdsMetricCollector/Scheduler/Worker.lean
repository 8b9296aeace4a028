import RdsMetricCollector.BrokerInfo
import RdsMetricCollector.Foundation.Execution
import RdsMetricCollector.Foundation.Runtime
import RdsMetricCollector.Metrics
import RdsMetricCollector.Scheduler.Settings

/-! # Collector workers

`collectorWorker.run` as a machine of its own. A step goes from one point
where the goroutine can be observed, or can wait, to the next: every call to a
collector, the driver or the emitter, the `select`, and each deferred call. An
action is a choice that determines the next step, namely a case of the `select`
or what a call returns. The events are what the goroutine does to the world
around it.
-/

namespace RdsMetricCollector.Scheduler

open RdsMetricCollector.BrokerInfo
open RdsMetricCollector.Collector
open RdsMetricCollector.Execution
open RdsMetricCollector.Runtime

structure WorkerID where
  driver : String
  instanceGUID : String
  deriving DecidableEq, Repr

/-- The fields of a `collectorWorker` that `run` reads. The driver is what the
scheduler found under the driver name of `id`, if anything. -/
structure CollectorWorker where
  id : WorkerID
  instanceInfo : InstanceInfo
  driver : Option MetricsCollectorDriver
  retryInterval : Int64
  maxRetries : Int64
  timeout : Int64
  deriving DecidableEq

/-- `int(math.Pow(4, float64(n)))`. A power that does not fit into an `int`
gives the value that amd64 conversions give. -/
def powFour (n : Int64) : Int64 :=
  if n < 0 then 0
  else if n < 32 then Int64.ofInt (4 ^ n.toInt.toNat)
  else Int64.minValue

inductive Deferred
  | sendStopped
  | closeCollector
  deriving DecidableEq

inductive RunPoint
  | entry
  | creating
  | selecting
  | collecting
  | emitting (remaining : List Metric)
  -- Past a `return` statement, running the deferred calls.
  | returning
  deriving DecidableEq

structure Goroutine where
  worker : CollectorWorker
  cancelled : Bool
  point : RunPoint
  deferred : List Deferred
  timer : Timer
  errorCount : Int64
  deriving DecidableEq

inductive RunAction
  | callNewCollector
  | newCollectorReturns (err : Option String)
  | timerFires
  | receiveTick
  | collectReturns (collected : List Metric) (err : Option String)
  | emit
  | finishEmitting
  | receiveDone
  | runDeferred
  deriving DecidableEq

inductive RunEvent
  | newCollectorCalled (instanceInfo : InstanceInfo)
  | newCollectorReturned (err : Option String)
  | collectCalled (timeout : Int64)
  | collectReturned (collected : List Metric) (err : Option String)
  | emitted (envelope : MetricEnvelope)
  | doneReceived
  | closed
  | stoppedSent
  deriving DecidableEq

namespace Goroutine

@[simps] def start (worker : CollectorWorker) : Goroutine where
  worker := worker
  cancelled := false
  point := .entry
  deferred := []
  timer := .stopped
  errorCount := 0

@[simps] def cancel (g : Goroutine) : Goroutine :=
  { g with cancelled := true }

def Finished (g : Goroutine) : Prop :=
  g.point = .returning ∧ g.deferred = []

instance (g : Goroutine) : Decidable g.Finished :=
  inferInstanceAs (Decidable (_ ∧ _))

def collectFailed (g : Goroutine) : Goroutine :=
  let errorCount := g.errorCount + 1
  if errorCount ≤ g.worker.maxRetries then
    let waitTime := powFour errorCount * g.worker.retryInterval
    { g with
      errorCount := errorCount
      timer := g.timer.reset (waitTime * millisecond)
      point := .selecting }
  else
    { g with errorCount := errorCount, point := .returning }

/-- One step. `done` says whether the context of the goroutine is cancelled.
A call through a missing driver crashes the program, and has no successor. -/
def step (done : Bool) (g : Goroutine) (action : RunAction) :
    Option (Goroutine × List RunEvent) :=
  match action, g.point with
  | .callNewCollector, .entry =>
      if g.worker.driver.isSome then
        some ({ g with point := .creating, deferred := .sendStopped :: g.deferred },
          [.newCollectorCalled g.worker.instanceInfo])
      else
        none
  | .newCollectorReturns (some err), .creating =>
      some ({ g with point := .returning }, [.newCollectorReturned (some err)])
  | .newCollectorReturns none, .creating =>
      some ({ g with
          point := .selecting
          deferred := .closeCollector :: g.deferred
          timer := .newTimer 0
          errorCount := 0 },
        [.newCollectorReturned none])
  | .timerFires, _ =>
      g.timer.fire.map fun timer => ({ g with timer := timer }, [])
  | .receiveTick, .selecting =>
      g.timer.receive.map fun timer =>
        ({ g with point := .collecting, timer := timer },
          [.collectCalled (g.worker.timeout * millisecond)])
  | .receiveDone, .selecting =>
      if done then some ({ g with point := .returning }, [.doneReceived]) else none
  | .collectReturns collected (some err), .collecting =>
      some (g.collectFailed, [.collectReturned collected (some err)])
  | .collectReturns collected none, .collecting =>
      some ({ g with point := .emitting collected },
        [.collectReturned collected none])
  | .emit, .emitting (metric :: remaining) =>
      some ({ g with point := .emitting remaining },
        [.emitted { instanceGUID := g.worker.id.instanceGUID, metric := metric }])
  | .finishEmitting, .emitting [] =>
      g.worker.driver.map fun driver =>
        ({ g with
            errorCount := 0
            timer := g.timer.reset (driver.getCollectInterval * second)
            point := .selecting },
          [])
  | .runDeferred, .returning =>
      -- Deferred calls run in the opposite order of their `defer` statements.
      match g.deferred with
      | [] => none
      | .closeCollector :: rest => some ({ g with deferred := rest }, [.closed])
      | .sendStopped :: rest => some ({ g with deferred := rest }, [.stoppedSent])
  | _, _ => none

inductive Step (done : Bool) (g : Goroutine) :
    RunAction → Goroutine → List RunEvent → Prop
  | callNewCollector :
      g.point = .entry → g.worker.driver.isSome →
      Step done g .callNewCollector
        { g with point := .creating, deferred := .sendStopped :: g.deferred }
        [.newCollectorCalled g.worker.instanceInfo]
  | creationFails (err) :
      g.point = .creating →
      Step done g (.newCollectorReturns (some err))
        { g with point := .returning } [.newCollectorReturned (some err)]
  | created :
      g.point = .creating →
      Step done g (.newCollectorReturns none)
        { g with
          point := .selecting
          deferred := .closeCollector :: g.deferred
          timer := .newTimer 0
          errorCount := 0 }
        [.newCollectorReturned none]
  | timerFires (timer) :
      g.timer.fire = some timer →
      Step done g .timerFires { g with timer := timer } []
  | receiveTick (timer) :
      g.point = .selecting → g.timer.receive = some timer →
      Step done g .receiveTick
        { g with point := .collecting, timer := timer }
        [.collectCalled (g.worker.timeout * millisecond)]
  | receiveDone :
      g.point = .selecting → done = true →
      Step done g .receiveDone { g with point := .returning } [.doneReceived]
  | collectFails (collected err) :
      g.point = .collecting →
      Step done g (.collectReturns collected (some err)) g.collectFailed
        [.collectReturned collected (some err)]
  | collected (collected) :
      g.point = .collecting →
      Step done g (.collectReturns collected none)
        { g with point := .emitting collected } [.collectReturned collected none]
  | emit (metric remaining) :
      g.point = .emitting (metric :: remaining) →
      Step done g .emit { g with point := .emitting remaining }
        [.emitted { instanceGUID := g.worker.id.instanceGUID, metric := metric }]
  | finishEmitting (driver) :
      g.point = .emitting [] → g.worker.driver = some driver →
      Step done g .finishEmitting
        { g with
          errorCount := 0
          timer := g.timer.reset (driver.getCollectInterval * second)
          point := .selecting }
        []
  | close (rest) :
      g.point = .returning → g.deferred = .closeCollector :: rest →
      Step done g .runDeferred { g with deferred := rest } [.closed]
  | sendStopped (rest) :
      g.point = .returning → g.deferred = .sendStopped :: rest →
      Step done g .runDeferred { g with deferred := rest } [.stoppedSent]

theorem step_inversion {done : Bool} {g next : Goroutine} {action : RunAction}
    {events : List RunEvent} (stepped : g.step done action = some (next, events)) :
    Step done g action next events := by
  unfold step at stepped
  split at stepped
  case h_1 point =>
    split at stepped
    · cases stepped
      exact .callNewCollector point ‹_›
    · cases stepped
  case h_2 point => cases stepped; exact .creationFails _ point
  case h_3 point => cases stepped; exact .created point
  case h_4 =>
    rcases Option.map_eq_some_iff.mp stepped with ⟨timer, fired, equal⟩
    cases equal
    exact .timerFires timer fired
  case h_5 point =>
    rcases Option.map_eq_some_iff.mp stepped with ⟨timer, received, equal⟩
    cases equal
    exact .receiveTick timer point received
  case h_6 point =>
    split at stepped
    · cases stepped
      exact .receiveDone point ‹_›
    · cases stepped
  case h_7 point => cases stepped; exact .collectFails _ _ point
  case h_8 point => cases stepped; exact .collected _ point
  case h_9 point => cases stepped; exact .emit _ _ point
  case h_10 point =>
    rcases Option.map_eq_some_iff.mp stepped with ⟨driver, registered, equal⟩
    cases equal
    exact .finishEmitting driver point registered
  case h_11 point =>
    split at stepped
    · cases stepped
    · cases stepped
      exact .close _ point ‹_›
    · cases stepped
      exact .sendStopped _ point ‹_›
  case h_12 => cases stepped

theorem Step.step_eq {done : Bool} {g next : Goroutine} {action : RunAction}
    {events : List RunEvent} (stepped : Step done g action next events) :
    g.step done action = some (next, events) := by
  cases stepped <;> simp [step, *]

end Goroutine

end RdsMetricCollector.Scheduler
