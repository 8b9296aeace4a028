import RdsMetricCollector.Scheduler.Consistency

/-! # Stop messages

Which goroutine's stop message a deletion consumes is not written in the
message, which only names the worker id. It follows from the history of the
run: the channel keeps messages in order.
-/

namespace RdsMetricCollector.Scheduler

open RdsMetricCollector.Execution
open RdsMetricCollector.Runtime

def Event.stopSender : Event → Option Nat
  | .worker index _ .stoppedSent => some index
  | _ => none

def Event.deletedID : Event → Option WorkerID
  | .workerDeleted id => some id
  | _ => none

/-- The goroutines that have sent their stop message, in order. -/
def stopSenders (trace : List Event) : List Nat :=
  trace.filterMap Event.stopSender

/-- The ids with which `deleteWorker` was called, in order. -/
def deletedIDs (trace : List Event) : List WorkerID :=
  trace.filterMap Event.deletedID

/-- The goroutines whose stop message was consumed: the channel is first-in
first-out, so each deletion consumes the oldest message. -/
def consumedStops (trace : List Event) : List Nat :=
  (stopSenders trace).take (deletedIDs trace).length

def stopsInFlight (trace : List Event) : List Nat :=
  (stopSenders trace).drop (deletedIDs trace).length

theorem mem_stopSenders_iff (trace : List Event) (index : Nat) :
    index ∈ stopSenders trace ↔
      index ∈ consumedStops trace ∨ index ∈ stopsInFlight trace := by
  rw [consumedStops, stopsInFlight, ← List.mem_append, List.take_append_drop]

@[simp] theorem stopSenders_append (left right : List Event) :
    stopSenders (left ++ right) = stopSenders left ++ stopSenders right :=
  List.filterMap_append

@[simp] theorem deletedIDs_append (left right : List Event) :
    deletedIDs (left ++ right) = deletedIDs left ++ deletedIDs right :=
  List.filterMap_append

private theorem stopSenders_quiet (index : Nat) (id : WorkerID) {events : List RunEvent}
    (quiet : .stoppedSent ∉ events) :
    stopSenders (events.map (.worker index id)) = [] := by
  simp only [stopSenders, List.filterMap_map, List.filterMap_eq_nil_iff]
  intro event member
  cases event with
  | stoppedSent => exact absurd member quiet
  | _ => rfl

private theorem deletedIDs_map_worker (index : Nat) (id : WorkerID)
    (events : List RunEvent) : deletedIDs (events.map (.worker index id)) = [] := by
  simp only [deletedIDs, List.filterMap_map, List.filterMap_eq_nil_iff]
  intro event _
  rfl

namespace Registry

/-- The history of the stop messages agrees with the registry. -/
structure StopHistory (trace : List Event) (r : Registry) : Prop where
  bounded : (deletedIDs trace).length ≤ (stopSenders trace).length
  senders : ∀ {index}, index ∈ stopSenders trace ↔
    ∃ id, r.statusAt index = some (id, true)
  inFlight : r.stoppedWorker.buffer.map r.workers.lookup =
    (stopsInFlight trace).map some
  consumed : ∀ {index id}, index ∈ consumedStops trace →
    r.statusAt index = some (id, true) → r.workers.lookup id ≠ some index

private theorem StopHistory.frame {past events : List Event} {r next : Registry}
    (history : StopHistory past r) (sent : stopSenders events = [])
    (deleted : deletedIDs events = []) (status : next.statusAt = r.statusAt)
    (workers : next.workers = r.workers)
    (channel : next.stoppedWorker = r.stoppedWorker) :
    StopHistory (past ++ events) next := by
  have senders : stopSenders (past ++ events) = stopSenders past := by simp [sent]
  have ids : deletedIDs (past ++ events) = deletedIDs past := by simp [deleted]
  constructor
  · rw [senders, ids]
    exact history.bounded
  · rw [senders, status]
    exact history.senders
  · rw [stopsInFlight, senders, ids, workers, channel]
    exact history.inFlight
  · rw [consumedStops, senders, ids, workers, status]
    exact history.consumed

private theorem StopHistory.startWorker {past : List Event} {r : Registry}
    (history : StopHistory past r) (consistent : r.Consistent)
    (settings : Settings) {id : WorkerID} (missing : id ∉ r.workers)
    (instanceInfo : BrokerInfo.InstanceInfo) (worker : CollectorWorker) :
    StopHistory (past ++ [.workerStarted r.goroutines.length worker])
      (r.startWorker settings id instanceInfo) := by
  have senders : stopSenders
      (past ++ [.workerStarted r.goroutines.length worker]) = stopSenders past := by
    simp [stopSenders, Event.stopSender]
  have ids : deletedIDs
      (past ++ [.workerStarted r.goroutines.length worker]) = deletedIDs past := by
    simp [deletedIDs, Event.deletedID]
  have status_true : ∀ {index other},
      (r.startWorker settings id instanceInfo).statusAt index = some (other, true) ↔
        r.statusAt index = some (other, true) := by
    intro index other
    rw [statusAt_startWorker]
    split
    · constructor
      · intro impossible
        cases impossible
      · intro known
        exact absurd (lt_length_of_statusAt known) (by omega)
    · rfl
  constructor
  · rw [senders, ids]
    exact history.bounded
  · simp only [senders, status_true]
    exact history.senders
  · rw [stopsInFlight, senders, ids, ← stopsInFlight, ← history.inFlight]
    apply List.map_congr_left
    intro other member
    rcases consistent.message.mp member with ⟨index, found, _⟩
    exact (lookup_insert_of_missing missing found).trans found.symm
  · intro index other used known
    rw [consumedStops, senders, ids] at used
    rw [status_true] at known
    rw [startWorker_workers]
    by_cases same : other = id
    · subst other
      rw [Finmap.lookup_insert]
      intro equal
      exact absurd (lt_length_of_statusAt known) (by simpa using (Option.some.inj equal).le)
    · rw [Finmap.lookup_insert_of_ne _ same]
      exact history.consumed used known

private theorem StopHistory.deleteWorker {past : List Event} {r : Registry}
    (history : StopHistory past r) (consistent : r.Consistent) {id : WorkerID}
    {channel : Channel WorkerID 1}
    (received : r.stoppedWorker.buffer = id :: channel.buffer) :
    StopHistory (past ++ [.workerDeleted id])
      (Registry.deleteWorker { r with stoppedWorker := channel } id) := by
  have senders : stopSenders (past ++ [.workerDeleted id]) = stopSenders past := by
    simp [stopSenders, Event.stopSender]
  have ids : (deletedIDs (past ++ [.workerDeleted id])).length =
      (deletedIDs past).length + 1 := by
    simp [deletedIDs, Event.deletedID]
  have nodup := consistent.nodup
  rw [received] at nodup
  have notLater := (List.nodup_cons.mp nodup).1
  -- The oldest message in flight is the one that is received.
  have flight := history.inFlight
  rw [received, List.map_cons] at flight
  rcases List.map_eq_cons_iff.mp flight.symm with ⟨first, later, oldest, found, rest⟩
  have dropped : (stopSenders past).drop (deletedIDs past).length =
      first :: later := oldest
  have inRange : (deletedIDs past).length < (stopSenders past).length := by
    by_contra beyond
    rw [List.drop_eq_nil_of_le (by omega)] at dropped
    cases dropped
  have split := List.drop_eq_getElem_cons inRange
  rw [dropped, List.cons.injEq] at split
  have consumedNow : consumedStops (past ++ [.workerDeleted id]) =
      consumedStops past ++ [first] := by
    rw [consumedStops, senders, ids, consumedStops,
      List.take_succ_eq_append_getElem inRange, split.1]
  constructor
  · rw [senders, ids]
    exact inRange
  · rw [senders]
    exact history.senders
  · rw [stopsInFlight, senders, ids, ← split.2, rest]
    apply List.map_congr_left
    intro other member
    exact Finmap.lookup_erase_ne fun equal => notLater (equal ▸ member)
  · intro index other used known
    rw [consumedNow, List.mem_append, List.mem_singleton] at used
    rw [deleteWorker_workers]
    by_cases same : other = id
    · subst other
      rw [Finmap.lookup_erase]
      exact nofun
    · rw [Finmap.lookup_erase_ne same]
      rcases used with used | rfl
      · exact history.consumed used known
      · rcases consistent.registered found.symm with ⟨finished, status⟩
        have equal : r.statusAt index = some (other, true) := known
        rw [status] at equal
        exact absurd (Prod.mk.inj (Option.some.inj equal)).1.symm same

private theorem StopHistory.send {past : List Event} {r : Registry}
    (history : StopHistory past r) (consistent : r.Consistent)
    {index : Nat} {g next : Goroutine} {channel : Channel WorkerID 1}
    (present : r.goroutines[index]? = some g) (running : ¬g.Finished)
    (ended : next.Finished)
    (sent : channel.buffer = r.stoppedWorker.buffer ++ [g.worker.id]) :
    StopHistory (past ++ [.worker index g.worker.id .stoppedSent])
      { r with
        goroutines := r.goroutines.set index next
        stoppedWorker := channel } := by
  have senders : stopSenders (past ++ [.worker index g.worker.id .stoppedSent]) =
      stopSenders past ++ [index] := by
    simp [stopSenders, Event.stopSender]
  have ids : deletedIDs (past ++ [.worker index g.worker.id .stoppedSent]) =
      deletedIDs past := by
    simp [deletedIDs, Event.deletedID]
  have before : r.statusAt index = some (g.worker.id, false) := by
    simp [statusAt, present, running]
  have status := statusAt_set present next channel
  have unsent : index ∉ stopSenders past := by
    intro member
    rcases history.senders.mp member with ⟨id, known⟩
    rw [before] at known
    cases known
  constructor
  · rw [senders, ids, List.length_append]
    exact Nat.le_add_right_of_le history.bounded
  · intro other
    rw [senders, status, List.mem_append, List.mem_singleton]
    by_cases same : other = index
    · simp [same, ended]
    · simp [same, history.senders]
  · rw [stopsInFlight, senders, ids, List.drop_append_of_le_length history.bounded,
      sent, List.map_append, List.map_append, history.inFlight]
    simp [stopsInFlight, consistent.unfinished before]
  · intro other id used known
    rw [consumedStops, senders, ids,
      List.take_append_of_le_length history.bounded] at used
    have different : other ≠ index := by
      intro equal
      subst equal
      exact unsent (List.mem_of_mem_take used)
    rw [status, if_neg different] at known
    exact history.consumed used known

private theorem StopHistory.step {settings : Settings} {past : List Event}
    {r next : Registry} {action : Action} {events : List Event}
    (reachable : (model settings).Reachable past r)
    (history : StopHistory past r)
    (step : Step settings r action next events) :
    StopHistory (past ++ events) next := by
  have holds := consistent reachable
  cases step with
  | start id instanceInfo missing known =>
      exact history.startWorker holds settings missing instanceInfo _
  | cancel index =>
      exact history.frame rfl rfl (funext (r.statusAt_cancelWorker index)) rfl rfl
  | reap id stoppedWorker received => exact history.deleteWorker holds received
  | cancelContext => exact history.frame rfl rfl rfl rfl rfl
  | run index action g moved runEvents present ran quiet =>
      have formed := (Registry.ranTo reachable present).wellFormed
      exact history.frame (stopSenders_quiet _ _ quiet)
        (deletedIDs_map_worker _ _ _)
        (statusAt_run present ran formed quiet) rfl rfl
  | send index g rest stoppedWorker present point deferred room sent =>
      have formed := (Registry.ranTo reachable present).wellFormed
      have empty := Goroutine.rest_of_sendStopped formed.deferred point deferred
      apply history.send holds present
      · simp [Goroutine.Finished, deferred]
      · exact ⟨point, empty⟩
      · exact sent

private theorem stopHistory {settings : Settings} {trace : List Event} {r : Registry}
    (reachable : (model settings).Reachable trace r) : StopHistory trace r := by
  apply reachable.invariant StopHistory
  · constructor <;> simp [model, initial, statusAt, stopSenders, deletedIDs,
      stopsInFlight, consumedStops]
  · intro past current action next events reached history stepped
    exact history.step reached (step_inversion stepped)

/-- The entries of the worker map are the goroutines whose stop message has
not been consumed. -/
theorem lookup_workers_iff {settings : Settings} {trace : List Event}
    {r : Registry} (reachable : (model settings).Reachable trace r)
    {id : WorkerID} {index : Nat} :
    r.workers.lookup id = some index ↔
      (∃ finished, r.statusAt index = some (id, finished)) ∧
        index ∉ consumedStops trace := by
  have holds := consistent reachable
  have history := stopHistory reachable
  constructor
  · intro found
    rcases holds.registered found with ⟨finished, status⟩
    refine ⟨⟨finished, status⟩, fun used => ?_⟩
    rcases history.senders.mp ((mem_stopSenders_iff _ _).mpr (.inl used)) with
      ⟨other, ended⟩
    rw [status] at ended
    cases ended
    exact history.consumed used status found
  · intro started
    rcases started with ⟨⟨finished, status⟩, unused⟩
    cases finished with
    | false => exact holds.unfinished status
    | true =>
        have sent := history.senders.mpr ⟨id, status⟩
        have flying := ((mem_stopSenders_iff _ _).mp sent).resolve_left unused
        have member : some index ∈ r.stoppedWorker.buffer.map r.workers.lookup := by
          rw [history.inFlight]
          exact List.mem_map_of_mem flying
        rcases List.mem_map.mp member with ⟨other, _, found⟩
        rcases holds.registered found with ⟨_, known⟩
        rw [status] at known
        cases known
        exact found

end Registry

/-! ## The registry of the scheduler -/

theorem registry_reachable {settings : Settings} {trace : List Event} {s : State}
    (reachable : (model settings).Reachable trace s) :
    (Registry.model settings).Reachable (trace.filterMap Event.registryEvent)
      s.registry :=
  (registrySimulation settings).reachable reachable

theorem registry_consistent {settings : Settings} {trace : List Event} {s : State}
    (reachable : (model settings).Reachable trace s) : s.registry.Consistent :=
  Registry.consistent (registry_reachable reachable)

theorem lookup_workers_iff {settings : Settings} {trace : List Event} {s : State}
    (reachable : (model settings).Reachable trace s) {id : WorkerID} {index : Nat} :
    s.registry.workers.lookup id = some index ↔
      (∃ g, s.registry.goroutines[index]? = some g ∧ g.worker.id = id) ∧
        index ∉ consumedStops trace := by
  have consumed : consumedStops (trace.filterMap Event.registryEvent) =
      consumedStops trace := by
    rw [consumedStops, stopSenders, deletedIDs, filterMap_registryEvent,
      filterMap_registryEvent, consumedStops, stopSenders, deletedIDs]
    · intro event
      cases event <;> simp [Event.registryEvent, Event.stopSender]
    · intro event
      cases event <;> simp [Event.registryEvent, Event.deletedID]
  rw [Registry.lookup_workers_iff (registry_reachable reachable), consumed,
    Registry.exists_statusAt_iff]

/-- Only stop messages of registered workers are ever received. -/
theorem Step.mem_workers_of_deleted {settings : Settings} {s next : State}
    {action : Action} {events : List Event} {id : WorkerID}
    (step : Step settings s action next events)
    (consistent : s.registry.Consistent)
    (deleted : .workerDeleted id ∈ events) : id ∈ s.registry.workers := by
  have reaped : ∀ {registry events}, s.registry.reap = some (registry, events) →
      .workerDeleted id ∈ events → id ∈ s.registry.workers := by
    intro registry events reaped deleted
    rcases Registry.reap_eq_some reaped with ⟨other, channel, received, _, rfl⟩
    have same : id = other := by simpa using deleted
    subst same
    have member : id ∈ s.registry.stoppedWorker.buffer := by
      rw [received]
      exact List.mem_cons_self
    rcases consistent.message.mp member with ⟨index, found, _⟩
    exact Finmap.mem_of_lookup_eq_some found
  cases step with
  | receiveStopped registry events main received => exact reaped received deleted
  | drainReceive registry events main nonempty received =>
      exact reaped received deleted
  | run index action registry events ran =>
      rcases Registry.runWorker_eq_some ran with ⟨_, _, _, _, _, _, _, _, rfl⟩
      simp at deleted
  | _ => simp at deleted

/-- In every reachable state the registered workers are the goroutines that
were started and whose stop message was not consumed yet, one for each id. The
wait group counts them. -/
theorem workers_track_goroutines {settings : Settings} {trace : List Event}
    {s : State} (reachable : (model settings).Reachable trace s) :
    (∀ id, id ∈ s.registry.workers ↔
      ∃ index g, s.registry.goroutines[index]? = some g ∧ g.worker.id = id ∧
        index ∉ consumedStops trace) ∧
    (∀ (left right : Nat) (g h : Goroutine),
      s.registry.goroutines[left]? = some g → left ∉ consumedStops trace →
      s.registry.goroutines[right]? = some h → right ∉ consumedStops trace →
      g.worker.id = h.worker.id → left = right) ∧
    (∀ (left right : Nat) (g h : Goroutine),
      s.registry.goroutines[left]? = some g → ¬g.Finished →
      s.registry.goroutines[right]? = some h → ¬h.Finished →
      g.worker.id = h.worker.id → left = right) ∧
    (∀ action next events id, step settings s action = some (next, events) →
      .workerDeleted id ∈ events → id ∈ s.registry.workers) ∧
    s.registry.workersRunning = s.registry.workers.keys.card ∧
    0 ≤ s.registry.workersRunning := by
  have consistent := registry_consistent reachable
  refine ⟨?_, ?_, ?_, ?_, consistent.counter, ?_⟩
  · intro id
    rw [Finmap.mem_iff]
    simp only [lookup_workers_iff reachable]
    constructor
    · intro registered
      rcases registered with ⟨index, ⟨g, present, sameId⟩, unused⟩
      exact ⟨index, g, present, sameId, unused⟩
    · intro started
      rcases started with ⟨index, g, present, sameId, unused⟩
      exact ⟨index, ⟨g, present, sameId⟩, unused⟩
  · intro left right g h leftPresent leftUnused rightPresent rightUnused sameId
    have leftFound := (lookup_workers_iff reachable).mpr
      ⟨⟨g, leftPresent, sameId⟩, leftUnused⟩
    have rightFound := (lookup_workers_iff reachable).mpr
      ⟨⟨h, rightPresent, rfl⟩, rightUnused⟩
    exact Option.some.inj (leftFound.symm.trans rightFound)
  · intro left right g h leftPresent leftRuns rightPresent rightRuns sameId
    have leftFound : s.registry.workers.lookup g.worker.id = some left :=
      consistent.unfinished (by simp [Registry.statusAt, leftPresent, leftRuns])
    have rightFound : s.registry.workers.lookup h.worker.id = some right :=
      consistent.unfinished (by simp [Registry.statusAt, rightPresent, rightRuns])
    rw [sameId] at leftFound
    exact Option.some.inj (leftFound.symm.trans rightFound)
  · intro action next events id stepped deleted
    exact (step_inversion stepped).mem_workers_of_deleted consistent deleted
  · rw [consistent.counter]
    exact Int.natCast_nonneg _

/-- The worker stays registered while its stop message waits in the channel. -/
theorem workers_track_goroutines_sample :
    ∃ s trace, (model sampleSettings).run .initial sampleFailure =
        some (s, trace) ∧
      s.registry.stoppedWorker.buffer = [sampleID] ∧
      (∀ id, id ∈ s.registry.workers ↔
        ∃ index g, s.registry.goroutines[index]? = some g ∧
          g.worker.id = id ∧ index ∉ consumedStops trace) ∧
      s.registry.workersRunning = s.registry.workers.keys.card := by
  refine ⟨_, _, rfl, rfl, ?_⟩
  have tracked := workers_track_goroutines
    ((model sampleSettings).reachable_of_run sampleFailure rfl)
  exact ⟨tracked.1, tracked.2.2.2.2.1⟩

end RdsMetricCollector.Scheduler
