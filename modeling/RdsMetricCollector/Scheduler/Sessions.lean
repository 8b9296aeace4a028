import RdsMetricCollector.Scheduler.Shutdown

/-! # Collector sessions

The calls that the workers of one id make to collectors form a sequence of
sessions. A session opens a collector, collects with it and closes it; the
next one begins after that, even when it belongs to another goroutine.
-/

namespace RdsMetricCollector.Scheduler

open RdsMetricCollector.Execution
open RdsMetricCollector.Runtime

/-- The calls to the driver, the collector and the emitter. -/
@[simp] def RunEvent.isCollectorEvent : RunEvent → Bool
  | .newCollectorCalled _ | .newCollectorReturned _ => true
  | .collectCalled _ | .collectReturned _ _ => true
  | .emitted _ | .closed => true
  | .doneReceived | .stoppedSent => false

def collectorEvents (events : List RunEvent) : List RunEvent :=
  events.filter RunEvent.isCollectorEvent

@[simp] theorem collectorEvents_nil : collectorEvents [] = [] := rfl

@[simp] theorem collectorEvents_cons (event : RunEvent) (events : List RunEvent) :
    collectorEvents (event :: events) =
      if event.isCollectorEvent then event :: collectorEvents events
      else collectorEvents events :=
  List.filter_cons

@[simp] theorem collectorEvents_append (left right : List RunEvent) :
    collectorEvents (left ++ right) =
      collectorEvents left ++ collectorEvents right :=
  List.filter_append ..

/-- The emissions of a list of metrics for an instance. -/
def emissions (guid : String) (collected : List Metric) : List RunEvent :=
  collected.map fun metric => .emitted { instanceGUID := guid, metric := metric }

/-- Any number of `Collect` calls, each followed by its emissions. A failed
call has none. -/
inductive Rounds (guid : String) : List RunEvent → Prop
  | nil : Rounds guid []
  | failed {body} (timeout collected err) :
      Rounds guid body →
      Rounds guid (body ++
        [.collectCalled timeout, .collectReturned collected (some err)])
  | collected {body} (timeout collected) :
      Rounds guid body →
      Rounds guid (body ++
        [.collectCalled timeout, .collectReturned collected none] ++
          emissions guid collected)

/-- A complete session: a failed creation, or a created collector that is used
and then closed once. -/
inductive Session (guid : String) : List RunEvent → Prop
  | failed (instanceInfo err) :
      Session guid
        [.newCollectorCalled instanceInfo, .newCollectorReturned (some err)]
  | served {body} (instanceInfo) :
      Rounds guid body →
      Session guid
        ([.newCollectorCalled instanceInfo, .newCollectorReturned none] ++
          body ++ [.closed])

/-- The worker created a collector and is done with some rounds and `tail`. -/
def Opened (worker : CollectorWorker) (tail events : List RunEvent) : Prop :=
  ∃ body, Rounds worker.id.instanceGUID body ∧
    events = [.newCollectorCalled worker.instanceInfo,
      .newCollectorReturned none] ++ body ++ tail

private theorem Opened.append {worker : CollectorWorker} {tail events : List RunEvent}
    (opened : Opened worker tail events) (more : List RunEvent) :
    Opened worker (tail ++ more) (events ++ more) := by
  rcases opened with ⟨body, rounds, rfl⟩
  exact ⟨body, rounds, by simp⟩

private theorem Opened.failed {worker : CollectorWorker} {timeout : Int64}
    {past : List RunEvent} (opened : Opened worker [.collectCalled timeout] past)
    (collected : List Metric) (err : String) :
    Opened worker [] (past ++ [.collectReturned collected (some err)]) := by
  rcases opened with ⟨body, rounds, rfl⟩
  exact ⟨_, rounds.failed timeout collected err, by simp⟩

private theorem Opened.collected {worker : CollectorWorker} {timeout : Int64}
    {past : List RunEvent} {collected : List Metric}
    (opened : Opened worker
      ([.collectCalled timeout, .collectReturned collected none] ++
        emissions worker.id.instanceGUID collected) past) :
    Opened worker [] past := by
  rcases opened with ⟨body, rounds, rfl⟩
  exact ⟨_, rounds.collected timeout collected, by simp⟩

private theorem Opened.session {worker : CollectorWorker} {past : List RunEvent}
    (opened : Opened worker [] past) :
    Session worker.id.instanceGUID (past ++ [.closed]) := by
  rcases opened with ⟨body, rounds, rfl⟩
  simpa using Session.served worker.instanceInfo rounds

namespace Goroutine

/-- How far the session of a worker has got at each point. -/
def SessionAt (g : Goroutine) (events : List RunEvent) : Prop :=
  match g.point with
  | .entry => events = []
  | .creating => events = [.newCollectorCalled g.worker.instanceInfo]
  | .selecting => Opened g.worker [] events
  | .collecting => ∃ timeout, Opened g.worker [.collectCalled timeout] events
  | .emitting remaining =>
      ∃ timeout sent, Opened g.worker
        ([.collectCalled timeout, .collectReturned (sent ++ remaining) none] ++
          emissions g.worker.id.instanceGUID sent) events
  | .returning =>
      if .closeCollector ∈ g.deferred then Opened g.worker [] events
      else Session g.worker.id.instanceGUID events

private theorem Step.sessionAt {done : Bool} {g next : Goroutine} {action : RunAction}
    {past events : List RunEvent} (step : g.Step done action next events)
    (fits : g.DeferredFits) (session : g.SessionAt past) :
    next.SessionAt (past ++ collectorEvents events) := by
  unfold SessionAt at session
  cases step with
  | timerFires timer fired =>
      rw [collectorEvents_nil, List.append_nil]
      exact session
  | callNewCollector point =>
      rw [point] at session
      simp [SessionAt, session]
  | creationFails err point =>
      rw [point] at session
      simp only [DeferredFits, point] at fits
      simp only [SessionAt, fits, session]
      exact .failed _ err
  | created point =>
      rw [point] at session
      exact ⟨[], .nil, by simp [session]⟩
  | receiveTick timer point =>
      rw [point] at session
      exact ⟨_, session.append _⟩
  | receiveDone point =>
      rw [point] at session
      simp only [DeferredFits, point] at fits
      simpa [SessionAt, fits] using session
  | collectFails collected err point =>
      rw [point] at session
      simp only [DeferredFits, point] at fits
      rcases session with ⟨timeout, opened⟩
      have failed := opened.failed collected err
      rcases g.collectFailed_point with ⟨_, after, _⟩ | ⟨_, after⟩
      · simpa [SessionAt, after] using failed
      · simpa [SessionAt, after, fits] using failed
  | collected metrics point =>
      rw [point] at session
      rcases session with ⟨timeout, opened⟩
      refine ⟨timeout, [], ?_⟩
      simpa [emissions] using opened.append [.collectReturned metrics none]
  | emit metric remaining point =>
      rw [point] at session
      rcases session with ⟨timeout, sent, opened⟩
      refine ⟨timeout, sent ++ [metric], ?_⟩
      simpa [emissions] using opened.append [.emitted
        { instanceGUID := g.worker.id.instanceGUID, metric := metric }]
  | finishEmitting driver point =>
      rw [point] at session
      rcases session with ⟨timeout, sent, opened⟩
      rw [List.append_nil] at opened
      simpa [SessionAt] using opened.collected
  | close rest point deferred =>
      rw [point] at session
      simp only [DeferredFits, point, deferred] at fits
      simp only [deferred, List.mem_cons, true_or, if_true] at session
      have remaining : rest = [.sendStopped] := by
        simpa [List.suffix_cons_iff] using fits
      simpa [SessionAt, point, remaining] using session.session
  | sendStopped rest point deferred =>
      have empty := rest_of_sendStopped fits point deferred
      rw [point] at session
      simp only [deferred, empty, List.mem_singleton, reduceCtorEq, if_false] at session
      simpa [SessionAt, point, empty] using session

private theorem RanTo.sessionAt {trace : List RunEvent} {g : Goroutine}
    (ran : RanTo trace g) : g.SessionAt (collectorEvents trace) := by
  apply ran.invariant fun past current => current.SessionAt (collectorEvents past)
  · intro worker _
    rfl
  · intro past current session
    exact session
  · intro past current done action next events ran session step
    rw [collectorEvents_append]
    exact step.sessionAt ran.wellFormed.deferred session

/-- The events of a worker are the beginning of a session. -/
theorem SessionAt.exists_session {g : Goroutine} {events : List RunEvent}
    (session : g.SessionAt events) :
    ∃ rest, Session g.worker.id.instanceGUID (events ++ rest) := by
  unfold SessionAt at session
  cases point : g.point with
  | entry =>
      rw [point] at session
      subst events
      exact ⟨_, .failed g.worker.instanceInfo ""⟩
  | creating =>
      rw [point] at session
      subst events
      exact ⟨[.newCollectorReturned (some "")], .failed _ _⟩
  | selecting =>
      rw [point] at session
      exact ⟨[.closed], session.session⟩
  | collecting =>
      rw [point] at session
      rcases session with ⟨timeout, opened⟩
      have failed := (opened.failed [] "").session
      rw [List.append_assoc] at failed
      exact ⟨_, failed⟩
  | emitting remaining =>
      rw [point] at session
      rcases session with ⟨timeout, sent, opened⟩
      have more := opened.append (emissions g.worker.id.instanceGUID remaining)
      rw [List.append_assoc, show emissions g.worker.id.instanceGUID sent ++
        emissions g.worker.id.instanceGUID remaining =
          emissions g.worker.id.instanceGUID (sent ++ remaining) by
        simp [emissions]] at more
      have complete := more.collected.session
      rw [List.append_assoc] at complete
      exact ⟨_, complete⟩
  | returning =>
      rw [point] at session
      dsimp only at session
      split at session
      · exact ⟨[.closed], session.session⟩
      · exact ⟨[], by rwa [List.append_nil]⟩

/-- A finished worker has completed its session. -/
theorem SessionAt.session_of_finished {g : Goroutine} {events : List RunEvent}
    (session : g.SessionAt events) (finished : g.Finished) :
    Session g.worker.id.instanceGUID events := by
  simpa [SessionAt, finished.1, finished.2] using session

end Goroutine

/-! ## The sessions of an id -/

def Event.collectorEvent (id : WorkerID) : Event → Option RunEvent
  | .worker _ other event =>
      if other = id ∧ event.isCollectorEvent then some event else none
  | _ => none

/-- The collector events of all workers of `id`, in order. -/
def collectorEventsOf (id : WorkerID) (trace : List Event) : List RunEvent :=
  trace.filterMap (Event.collectorEvent id)

@[simp] theorem collectorEventsOf_append (id : WorkerID)
    (left right : List Event) :
    collectorEventsOf id (left ++ right) =
      collectorEventsOf id left ++ collectorEventsOf id right :=
  List.filterMap_append

private theorem collectorEventsOf_map_worker (id other : WorkerID) (index : Nat)
    (events : List RunEvent) :
    collectorEventsOf id (events.map (.worker index other)) =
      if other = id then collectorEvents events else [] := by
  induction events with
  | nil => simp [collectorEventsOf]
  | cons event events induction =>
      rw [collectorEventsOf] at induction ⊢
      rw [List.map_cons, List.filterMap_cons, induction, Event.collectorEvent]
      by_cases same : other = id
      · cases event <;> simp [same]
      · simp [same]

namespace Registry

/-- The collector events of the goroutine that is registered for `id`. -/
def currentEvents (trace : List Event) (r : Registry) (id : WorkerID) :
    List RunEvent :=
  match r.workers.lookup id with
  | some index => collectorEvents (ownEvents index trace)
  | none => []

/-- Complete sessions, followed by what the registered goroutine has done. -/
def SessionHistory (trace : List Event) (r : Registry) (id : WorkerID) : Prop :=
  ∃ sessions : List (List RunEvent),
    (∀ session ∈ sessions, Session id.instanceGUID session) ∧
      collectorEventsOf id trace = sessions.flatten ++ currentEvents trace r id

private theorem SessionHistory.of_eq {past events : List Event} {r next : Registry}
    {id : WorkerID} (history : SessionHistory past r id)
    (quiet : collectorEventsOf id events = [])
    (current : currentEvents (past ++ events) next id = currentEvents past r id) :
    SessionHistory (past ++ events) next id := by
  rcases history with ⟨sessions, complete, equal⟩
  refine ⟨sessions, complete, ?_⟩
  rw [collectorEventsOf_append, quiet, List.append_nil, current, equal]

/-- Steps of the main loop that keep the entry of `id`. -/
theorem SessionHistory.frame {past events : List Event} {r next : Registry}
    {id : WorkerID} (history : SessionHistory past r id)
    (quiet : collectorEventsOf id events = [])
    (own : ∀ index, ownEvents index events = [])
    (entry : next.workers.lookup id = r.workers.lookup id) :
    SessionHistory (past ++ events) next id := by
  refine history.of_eq quiet ?_
  simp only [currentEvents, entry, ownEvents_append, own, List.append_nil]

private theorem SessionHistory.run {settings : Settings} {past : List Event}
    {r : Registry} {id : WorkerID} {index : Nat} {g next : Goroutine}
    {action : RunAction} {events : List RunEvent} {channel : Channel WorkerID 1}
    (reachable : (model settings).Reachable past r)
    (history : SessionHistory past r id)
    (present : r.goroutines[index]? = some g)
    (ran : g.Step (r.contextDone g) action next events) :
    SessionHistory (past ++ events.map (.worker index g.worker.id))
      { r with
        goroutines := r.goroutines.set index next
        stoppedWorker := channel } id := by
  have holds := consistent reachable
  by_cases finished : g.Finished
  · rw [ran.events_of_finished finished]
    exact history.of_eq rfl (by simp [currentEvents])
  -- A running goroutine is the registered one of its id.
  have mine : r.workers.lookup g.worker.id = some index :=
    holds.unfinished (by simp [statusAt, present, finished])
  by_cases same : g.worker.id = id
  · subst id
    rcases history with ⟨sessions, complete, equal⟩
    refine ⟨sessions, complete, ?_⟩
    simp only [currentEvents, mine] at equal ⊢
    rw [collectorEventsOf_append, equal, collectorEventsOf_map_worker, if_pos rfl,
      ownEvents_append, ownEvents_map_worker, if_pos rfl, collectorEvents_append,
      List.append_assoc]
  · refine history.of_eq ?_ ?_
    · rw [collectorEventsOf_map_worker, if_neg same]
    · simp only [currentEvents]
      cases found : r.workers.lookup id with
      | none => rfl
      | some other =>
          rcases holds.registered found with ⟨_, status⟩
          have different : index ≠ other := by
            intro equal
            subst equal
            rcases exists_statusAt_iff.mp ⟨_, status⟩ with ⟨_, sameGoroutine, sameId⟩
            rw [present] at sameGoroutine
            cases sameGoroutine
            exact same sameId
          simp [ownEvents_map_worker, different]

private theorem SessionHistory.step {settings : Settings} {past : List Event}
    {r next : Registry} {action : Action} {events : List Event} {id : WorkerID}
    (reachable : (model settings).Reachable past r)
    (history : SessionHistory past r id)
    (step : Step settings r action next events) :
    SessionHistory (past ++ events) next id := by
  cases step with
  | start started instanceInfo missing known =>
      by_cases same : id = started
      · subst id
        have fresh : ownEvents r.goroutines.length past = [] :=
          ownEvents_of_not_started reachable (by simp)
        refine history.of_eq rfl ?_
        simp only [currentEvents, startWorker_workers, Finmap.lookup_insert,
          Finmap.lookup_eq_none.mpr missing, ownEvents_append, fresh]
        rfl
      · exact history.frame rfl (fun _ => rfl) (Finmap.lookup_insert_of_ne _ same)
  | cancel index => exact history.frame rfl (fun _ => rfl) rfl
  | cancelContext => exact history.frame rfl (fun _ => rfl) rfl
  | reap deleted stoppedWorker received =>
      by_cases same : id = deleted
      · subst id
        have mine : deleted ∈ r.stoppedWorker.buffer := by simp [received]
        rcases (consistent reachable).message.mp mine with ⟨index, found, status⟩
        rcases Option.map_eq_some_iff.mp status with ⟨g, present, equal⟩
        rcases Prod.mk.inj equal with ⟨rfl, finished⟩
        have session := (Registry.ranTo reachable present).sessionAt
          |>.session_of_finished (of_decide_eq_true finished)
        rcases history with ⟨sessions, complete, equal⟩
        refine ⟨sessions ++ [collectorEvents (ownEvents index past)], ?_, ?_⟩
        · intro other member
          rcases List.mem_append.mp member with member | member
          · exact complete other member
          · rw [List.mem_singleton.mp member]
            exact session
        · rw [collectorEventsOf_append, equal]
          simp [currentEvents, found, collectorEventsOf, Event.collectorEvent]
      · exact history.frame rfl (fun _ => rfl) (Finmap.lookup_erase_ne same)
  | run index action g moved runEvents present ran quiet =>
      exact SessionHistory.run reachable history present ran
  | send index g rest stoppedWorker present point deferred room sent =>
      have ran : g.Step (r.contextDone g) .runDeferred
          { g with deferred := rest } [.stoppedSent] :=
        .sendStopped rest point deferred
      exact SessionHistory.run reachable history present ran

private theorem sessionHistory {settings : Settings} {trace : List Event} {r : Registry}
    (reachable : (model settings).Reachable trace r) (id : WorkerID) :
    SessionHistory trace r id := by
  apply reachable.invariant fun past current => SessionHistory past current id
  · exact ⟨[], by simp, rfl⟩
  · intro past current action next events reached history stepped
    exact history.step reached (step_inversion stepped)

end Registry

private theorem sessionHistory {settings : Settings} {trace : List Event} {s : State}
    (reachable : (model settings).Reachable trace s) (id : WorkerID) :
    ∃ sessions : List (List RunEvent),
      (∀ session ∈ sessions, Session id.instanceGUID session) ∧
        collectorEventsOf id trace = sessions.flatten ++
          Registry.currentEvents (trace.filterMap Event.registryEvent) s.registry id := by
  rcases Registry.sessionHistory (registry_reachable reachable) id with
    ⟨sessions, complete, equal⟩
  rw [collectorEventsOf, filterMap_registryEvent] at equal
  · exact ⟨sessions, complete, equal⟩
  · intro event
    cases event <;> simp [Event.registryEvent, Event.collectorEvent]

private theorem collectorEventsOf_idle {trace : List Event}
    (idle : ∀ event ∈ trace, ¬event.IsWork) (id : WorkerID) :
    collectorEventsOf id trace = [] := by
  rw [collectorEventsOf, List.filterMap_eq_nil_iff]
  intro event member
  cases event with
  | worker => exact absurd trivial (idle _ member)
  | _ => rfl

/-- The current events of an id are the beginning of a session. -/
theorem Registry.exists_session_currentEvents {settings : Settings}
    {trace : List Event} {r : Registry}
    (reachable : (Registry.model settings).Reachable trace r) (id : WorkerID) :
    ∃ rest, Session id.instanceGUID (currentEvents trace r id ++ rest) := by
  unfold currentEvents
  cases found : r.workers.lookup id with
  | none => exact ⟨_, .failed { guid := id.instanceGUID, type := "" } ""⟩
  | some index =>
      rcases (consistent reachable).registered found with ⟨_, status⟩
      rcases exists_statusAt_iff.mp ⟨_, status⟩ with ⟨g, present, rfl⟩
      exact (Registry.ranTo reachable present).sessionAt.exists_session

/-- Without registered workers all sessions are complete. -/
theorem exists_sessions_of_empty {settings : Settings} {trace : List Event} {s : State}
    (reachable : (model settings).Reachable trace s)
    (empty : s.registry.workers = ∅) (id : WorkerID) :
    ∃ sessions : List (List RunEvent),
      (∀ session ∈ sessions, Session id.instanceGUID session) ∧
        collectorEventsOf id trace = sessions.flatten := by
  rcases sessionHistory reachable id with ⟨sessions, complete, equal⟩
  refine ⟨sessions, complete, ?_⟩
  rw [equal, Registry.currentEvents, empty, Finmap.lookup_empty, List.append_nil]

/-- In every run the collector events of an id are complete sessions one after
the other, and possibly the beginning of another one. Once the main loop has
returned all sessions are complete, and nothing follows. -/
theorem collector_sessions {settings : Settings} {trace : List Event} {s : State}
    (reachable : (model settings).Reachable trace s) (id : WorkerID) :
    (∃ (sessions : List (List RunEvent)) (current : List RunEvent),
      (∀ session ∈ sessions, Session id.instanceGUID session) ∧
        (∃ rest, Session id.instanceGUID (current ++ rest)) ∧
        collectorEventsOf id trace = sessions.flatten ++ current) ∧
    (s.main = .returned →
      (∃ sessions : List (List RunEvent),
        (∀ session ∈ sessions, Session id.instanceGUID session) ∧
        collectorEventsOf id trace = sessions.flatten) ∧
      ∀ actions later final,
        (model settings).Transitions s actions later final →
          collectorEventsOf id later = []) := by
  have registryReachable := registry_reachable reachable
  rcases sessionHistory reachable id with ⟨sessions, complete, equal⟩
  refine ⟨⟨sessions, _, complete,
    Registry.exists_session_currentEvents registryReachable id, equal⟩, ?_⟩
  intro returned
  have quiescent : Quiescent s :=
    ⟨by rw [returned]; trivial, (shutdownOrder reachable).empty returned⟩
  refine ⟨⟨sessions, complete, ?_⟩, ?_⟩
  · rw [equal, Registry.currentEvents, quiescent.empty, Finmap.lookup_empty,
      List.append_nil]
  · intro actions later final transitions
    exact collectorEventsOf_idle (quiescent.transitions reachable transitions).2 id

/-- The sample worker ends on a signal after one round, and the main loop
returns. -/
def sampleShutdown : List Action :=
  sampleRefresh ++
    [.run 0 .callNewCollector, .run 0 (.newCollectorReturns none),
      .run 0 .timerFires, .run 0 .receiveTick,
      .run 0 (.collectReturns [] none), .run 0 .finishEmitting,
      .receiveSignal, .cancelOnSignal, .run 0 .receiveDone,
      .run 0 .runDeferred, .run 0 .runDeferred, .drainReceive, .finishDraining]

theorem collector_sessions_sample :
    ∃ s trace, (model sampleSettings).run .initial sampleShutdown =
        some (s, trace) ∧
      s.main = .returned ∧ (collectorEventsOf sampleID trace).length = 5 ∧
      ∃ sessions : List (List RunEvent),
        (∀ session ∈ sessions, Session "instance-guid1" session) ∧
        collectorEventsOf sampleID trace = sessions.flatten := by
  refine ⟨_, _, rfl, rfl, rfl, ?_⟩
  have sessions := collector_sessions
    ((model sampleSettings).reachable_of_run sampleShutdown rfl) sampleID
  exact (sessions.2 rfl).1

end RdsMetricCollector.Scheduler
