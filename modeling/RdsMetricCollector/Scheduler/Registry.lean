import RdsMetricCollector.Scheduler.Worker

/-! # The worker registry

The part of a `Scheduler` that its goroutines share: the registered workers,
the wait group, the channel of stop messages, the context and the goroutines
themselves. The registry machine performs the operations on it in any order
that the operations themselves permit, whatever the main loop decides to do.
-/

namespace RdsMetricCollector.Scheduler

open RdsMetricCollector.BrokerInfo
open RdsMetricCollector.Execution
open RdsMetricCollector.Runtime

/-- What happens in a run of the scheduler. A goroutine is named by its
position among the goroutines started so far. -/
inductive Event
  | listInstancesCalled
  | listInstancesReturned (result : Except String (List InstanceInfo))
  | workerStarted (index : Nat) (worker : CollectorWorker)
  | workerCancelled (index : Nat)
  | workerDeleted (id : WorkerID)
  | contextCancelled
  | stopReturned
  | mainLoopReturned
  | worker (index : Nat) (id : WorkerID) (event : RunEvent)

structure Registry where
  /-- `s.workers`, pointing into `goroutines`. -/
  workers : Finmap fun _ : WorkerID => Nat
  /-- The counter of the wait group. -/
  workersRunning : Int
  stoppedWorker : Channel WorkerID 1
  /-- Whether the context of the scheduler is cancelled. -/
  cancelled : Bool
  /-- Every goroutine that `startWorker` started, in order. -/
  goroutines : List Goroutine

namespace Registry

def initial : Registry where
  workers := ∅
  workersRunning := 0
  stoppedWorker := .make WorkerID 1
  cancelled := false
  goroutines := []

@[simps] def newWorker (settings : Settings) (id : WorkerID)
    (instanceInfo : InstanceInfo) : CollectorWorker where
  id := id
  instanceInfo := instanceInfo
  driver := settings.metricsCollectorDrivers.lookup id.driver
  retryInterval := settings.collectorRetryInterval
  maxRetries := settings.collectorMaxRetries
  timeout := settings.collectorTimeout

@[simps] def startWorker (settings : Settings) (r : Registry) (id : WorkerID)
    (instanceInfo : InstanceInfo) : Registry :=
  { r with
    workers := r.workers.insert id r.goroutines.length
    workersRunning := r.workersRunning + 1
    goroutines := r.goroutines ++ [.start (newWorker settings id instanceInfo)] }

@[simps] def deleteWorker (r : Registry) (id : WorkerID) : Registry :=
  { r with
    workersRunning := r.workersRunning - 1
    workers := r.workers.erase id }

@[simps] def cancelWorker (r : Registry) (index : Nat) : Registry :=
  { r with goroutines := r.goroutines.modify index Goroutine.cancel }

@[simps] def cancelContext (r : Registry) : Registry :=
  { r with cancelled := true }

/-- A goroutine's context is cancelled by its own cancel function or with the
context of the scheduler. -/
def contextDone (r : Registry) (g : Goroutine) : Bool :=
  r.cancelled || g.cancelled

/-- A step of one goroutine. Sending the stop message waits for room in the
channel. -/
def runWorker (r : Registry) (index : Nat) (action : RunAction) :
    Option (Registry × List Event) :=
  (r.goroutines[index]?).bind fun g =>
    (g.step (r.contextDone g) action).bind fun (next, events) =>
      (if .stoppedSent ∈ events then r.stoppedWorker.send g.worker.id
        else some r.stoppedWorker).map fun stoppedWorker =>
        ({ r with
            goroutines := r.goroutines.set index next
            stoppedWorker := stoppedWorker },
          events.map (.worker index g.worker.id))

/-- Receive one stop message and delete the worker it names. -/
def reap (r : Registry) : Option (Registry × List Event) :=
  r.stoppedWorker.receive.map fun (id, stoppedWorker) =>
    (deleteWorker { r with stoppedWorker := stoppedWorker } id,
      [.workerDeleted id])

/-! ## The registry machine -/

inductive Action
  | start (id : WorkerID) (instanceInfo : InstanceInfo)
  | cancel (index : Nat)
  | reap
  | cancelContext
  | run (index : Nat) (action : RunAction)

/-- Workers are only started for ids without an entry, and only from the
settings' drivers. -/
def step (settings : Settings) (r : Registry) :
    Action → Option (Registry × List Event)
  | .start id instanceInfo =>
      if id ∉ r.workers ∧ id.driver ∈ settings.metricsCollectorDrivers then
        some (r.startWorker settings id instanceInfo,
          [.workerStarted r.goroutines.length (newWorker settings id instanceInfo)])
      else
        none
  | .cancel index => some (r.cancelWorker index, [.workerCancelled index])
  | .reap => r.reap
  | .cancelContext => some (r.cancelContext, [.contextCancelled])
  | .run index action => r.runWorker index action

def model (settings : Settings) : Model Registry Action Event where
  initial := initial
  step := step settings

/-- The steps of the registry machine. A goroutine's step either leaves the
channel alone or is the one that sends the stop message. -/
inductive Step (settings : Settings) (r : Registry) :
    Action → Registry → List Event → Prop
  | start (id instanceInfo) :
      id ∉ r.workers → id.driver ∈ settings.metricsCollectorDrivers →
      Step settings r (.start id instanceInfo)
        (r.startWorker settings id instanceInfo)
        [.workerStarted r.goroutines.length (newWorker settings id instanceInfo)]
  | cancel (index) :
      Step settings r (.cancel index) (r.cancelWorker index)
        [.workerCancelled index]
  | reap (id stoppedWorker) :
      r.stoppedWorker.buffer = id :: stoppedWorker.buffer →
      Step settings r .reap
        (deleteWorker { r with stoppedWorker := stoppedWorker } id)
        [.workerDeleted id]
  | cancelContext :
      Step settings r .cancelContext r.cancelContext [.contextCancelled]
  | run (index action g next events) :
      r.goroutines[index]? = some g →
      g.Step (r.contextDone g) action next events →
      .stoppedSent ∉ events →
      Step settings r (.run index action)
        { r with goroutines := r.goroutines.set index next }
        (events.map (.worker index g.worker.id))
  | send (index g rest stoppedWorker) :
      r.goroutines[index]? = some g →
      g.point = .returning → g.deferred = .sendStopped :: rest →
      r.stoppedWorker.buffer.length < 1 →
      stoppedWorker.buffer = r.stoppedWorker.buffer ++ [g.worker.id] →
      Step settings r (.run index .runDeferred)
        { r with
          goroutines := r.goroutines.set index { g with deferred := rest }
          stoppedWorker := stoppedWorker }
        [.worker index g.worker.id .stoppedSent]

theorem runWorker_eq_some {r next : Registry} {index : Nat} {action : RunAction}
    {events : List Event} (ran : r.runWorker index action = some (next, events)) :
    ∃ g moved runEvents channel,
      r.goroutines[index]? = some g ∧
      g.Step (r.contextDone g) action moved runEvents ∧
      (if .stoppedSent ∈ runEvents then r.stoppedWorker.send g.worker.id
        else some r.stoppedWorker) = some channel ∧
      next = { r with
        goroutines := r.goroutines.set index moved
        stoppedWorker := channel } ∧
      events = runEvents.map (.worker index g.worker.id) := by
  simp only [runWorker, Option.bind_eq_some_iff, Option.map_eq_some_iff,
    Prod.exists, Prod.mk.injEq] at ran
  rcases ran with ⟨g, present, moved, runEvents, stepped, channel, sent, equal⟩
  exact ⟨g, moved, runEvents, channel, present, g.step_inversion stepped, sent,
    equal.1.symm, equal.2.symm⟩

theorem reap_eq_some {r next : Registry} {events : List Event}
    (reaped : r.reap = some (next, events)) :
    ∃ id channel,
      r.stoppedWorker.buffer = id :: channel.buffer ∧
      next = deleteWorker { r with stoppedWorker := channel } id ∧
      events = [.workerDeleted id] := by
  simp only [reap, Option.map_eq_some_iff, Prod.exists, Prod.mk.injEq] at reaped
  rcases reaped with ⟨id, channel, received, equal⟩
  exact ⟨id, channel, Channel.receive_eq_some received, equal.1.symm, equal.2.symm⟩

private theorem runWorker_inversion {settings : Settings} {r next : Registry}
    {index : Nat} {action : RunAction} {events : List Event}
    (stepped : r.runWorker index action = some (next, events)) :
    Step settings r (.run index action) next events := by
  rcases runWorker_eq_some stepped with
    ⟨g, moved, runEvents, channel, present, ran, sent, rfl, rfl⟩
  split at sent
  · rcases Channel.send_eq_some sent with ⟨room, buffer⟩
    cases ran with
    | sendStopped rest point deferred =>
        exact .send index g rest channel present point deferred room buffer
    | _ => simp at *
  · cases sent
    exact .run index action g moved runEvents present ran ‹_›

/-- The converse of the inversion, for either way a goroutine can move. -/
theorem runWorker_eq {r : Registry} {index : Nat} {g next : Goroutine}
    {action : RunAction} {events : List RunEvent} {channel : Channel WorkerID 1}
    (present : r.goroutines[index]? = some g)
    (ran : g.Step (r.contextDone g) action next events)
    (sent : (if .stoppedSent ∈ events then r.stoppedWorker.send g.worker.id
      else some r.stoppedWorker) = some channel) :
    r.runWorker index action = some
      ({ r with
          goroutines := r.goroutines.set index next
          stoppedWorker := channel },
        events.map (.worker index g.worker.id)) := by
  simp only [runWorker, present, Option.bind_some, ran.step_eq, sent, Option.map_some]

theorem step_inversion {settings : Settings} {r next : Registry}
    {action : Action} {events : List Event}
    (stepped : r.step settings action = some (next, events)) :
    Step settings r action next events := by
  cases action with
  | start id instanceInfo =>
      simp only [step] at stepped
      split at stepped
      · cases stepped
        exact .start id instanceInfo (by tauto) (by tauto)
      · cases stepped
  | cancel index => cases stepped; exact .cancel index
  | reap =>
      rcases reap_eq_some stepped with ⟨id, channel, received, rfl, rfl⟩
      exact .reap id channel received
  | cancelContext => cases stepped; exact .cancelContext
  | run index action => exact runWorker_inversion stepped

end Registry

end RdsMetricCollector.Scheduler
