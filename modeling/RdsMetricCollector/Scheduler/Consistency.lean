import RdsMetricCollector.Scheduler.Refinement

/-! # Consistency of the registry

The worker map, the wait group, the goroutines and the stop messages between
them are updated at different moments by different parties. The invariant ties
them together: an entry of the map stands for exactly one goroutine, from its
start until the main loop consumes its stop message.
-/

namespace RdsMetricCollector.Scheduler

open RdsMetricCollector.Execution
open RdsMetricCollector.Runtime

namespace Registry

/-- What the registry knows of a goroutine: for whom it works, and whether it
has ended. -/
def statusAt (r : Registry) (index : Nat) : Option (WorkerID × Bool) :=
  r.goroutines[index]?.map fun g => (g.worker.id, decide g.Finished)

structure Consistent (r : Registry) : Prop where
  registered : ∀ {id index}, r.workers.lookup id = some index →
    ∃ finished, r.statusAt index = some (id, finished)
  unfinished : ∀ {id index}, r.statusAt index = some (id, false) →
    r.workers.lookup id = some index
  /-- The stop messages in the channel are those of the registered goroutines
  that have ended. -/
  message : ∀ {id}, id ∈ r.stoppedWorker.buffer ↔
    ∃ index, r.workers.lookup id = some index ∧
      r.statusAt index = some (id, true)
  nodup : r.stoppedWorker.buffer.Nodup
  counter : r.workersRunning = r.workers.keys.card

private theorem consistent_initial : initial.Consistent where
  registered found := by simp [initial] at found
  unfinished status := by simp [initial, statusAt] at status
  message := by simp [initial]
  nodup := by simp [initial]
  counter := by simp [initial]

/-! ## How the operations change a status -/

theorem getElem?_startWorker (settings : Settings) (r : Registry)
    (id : WorkerID) (instanceInfo : BrokerInfo.InstanceInfo) (index : Nat) :
    (r.startWorker settings id instanceInfo).goroutines[index]? =
      if index = r.goroutines.length then
        some (.start (newWorker settings id instanceInfo))
      else r.goroutines[index]? := by
  rw [startWorker_goroutines, List.getElem?_append]
  rcases lt_trichotomy index r.goroutines.length with before | rfl | after
  · rw [if_pos before, if_neg before.ne]
  · simp
  · rw [if_neg (by omega), if_neg after.ne', List.getElem?_eq_none after.le]
    simp only [List.getElem?_eq_none_iff, List.length_singleton]
    omega

theorem statusAt_startWorker (settings : Settings) (r : Registry)
    (id : WorkerID) (instanceInfo : BrokerInfo.InstanceInfo) (index : Nat) :
    (r.startWorker settings id instanceInfo).statusAt index =
      if index = r.goroutines.length then some (id, false)
      else r.statusAt index := by
  rw [statusAt, getElem?_startWorker]
  split
  · simp
  · rfl

theorem of_getElem?_cancelWorker {r : Registry} {cancelled index : Nat}
    {g : Goroutine}
    (present : (r.cancelWorker cancelled).goroutines[index]? = some g) :
    ∃ before, r.goroutines[index]? = some before ∧
      g = if cancelled = index then before.cancel else before := by
  rw [cancelWorker_goroutines, List.getElem?_modify] at present
  rcases Option.map_eq_some_iff.mp present with ⟨before, found, equal⟩
  exact ⟨before, found, equal.symm⟩

theorem statusAt_cancelWorker (r : Registry) (cancelled index : Nat) :
    (r.cancelWorker cancelled).statusAt index = r.statusAt index := by
  simp only [statusAt, cancelWorker_goroutines, List.getElem?_modify]
  cases r.goroutines[index]? with
  | none => rfl
  | some g => by_cases same : cancelled = index <;> simp [same]

theorem statusAt_set {r : Registry} {index : Nat} {g : Goroutine}
    (present : r.goroutines[index]? = some g) (next : Goroutine)
    (channel : Channel WorkerID 1) (other : Nat) :
    ({ r with
        goroutines := r.goroutines.set index next
        stoppedWorker := channel } : Registry).statusAt other =
      if other = index then some (next.worker.id, decide next.Finished)
      else r.statusAt other := by
  rcases List.getElem?_eq_some_iff.mp present with ⟨inRange, _⟩
  simp only [statusAt]
  by_cases same : other = index
  · subst other
    simp [inRange]
  · rw [List.getElem?_set_ne (Ne.symm same), if_neg same]

theorem statusAt_run {r : Registry} {index : Nat} {g next : Goroutine}
    {done : Bool} {action : RunAction} {events : List RunEvent}
    (present : r.goroutines[index]? = some g)
    (ran : g.Step done action next events) (formed : g.WellFormed)
    (quiet : .stoppedSent ∉ events) :
    ({ r with goroutines := r.goroutines.set index next } : Registry).statusAt =
      r.statusAt := by
  funext other
  rw [statusAt_set present next r.stoppedWorker other]
  split
  · subst other
    simp [statusAt, present, ran.worker_eq,
      ran.finished_iff formed.deferred quiet]
  · rfl

theorem exists_statusAt_iff {r : Registry} {index : Nat} {id : WorkerID} :
    (∃ finished, r.statusAt index = some (id, finished)) ↔
      ∃ g, r.goroutines[index]? = some g ∧ g.worker.id = id := by
  simp only [statusAt, Option.map_eq_some_iff, Prod.mk.injEq]
  constructor
  · intro known
    rcases known with ⟨finished, g, present, sameId, _⟩
    exact ⟨g, present, sameId⟩
  · intro known
    rcases known with ⟨g, present, sameId⟩
    exact ⟨_, g, present, sameId, rfl⟩

theorem lt_length_of_statusAt {r : Registry} {index : Nat}
    {status : WorkerID × Bool} (known : r.statusAt index = some status) :
    index < r.goroutines.length := by
  rcases Option.map_eq_some_iff.mp known with ⟨g, present, _⟩
  exact (List.getElem?_eq_some_iff.mp present).1

/-- Steps that keep every status keep the invariant. -/
theorem Consistent.of_statusAt {r next : Registry} (consistent : r.Consistent)
    (status : next.statusAt = r.statusAt) (workers : next.workers = r.workers)
    (running : next.workersRunning = r.workersRunning)
    (channel : next.stoppedWorker = r.stoppedWorker) : next.Consistent where
  registered := by rw [status, workers]; exact consistent.registered
  unfinished := by rw [status, workers]; exact consistent.unfinished
  message := by rw [status, workers, channel]; exact consistent.message
  nodup := channel ▸ consistent.nodup
  counter := by rw [running, workers]; exact consistent.counter

/-! ## Preservation -/

private theorem Consistent.startWorker {r : Registry} (consistent : r.Consistent)
    (settings : Settings) {id : WorkerID} (missing : id ∉ r.workers)
    (instanceInfo : BrokerInfo.InstanceInfo) :
    (r.startWorker settings id instanceInfo).Consistent where
  registered := by
    intro other index found
    rw [statusAt_startWorker]
    by_cases same : other = id
    · subst other
      simp only [startWorker_workers, Finmap.lookup_insert, Option.some.injEq] at found
      simp [found]
    · simp only [startWorker_workers, Finmap.lookup_insert_of_ne _ same] at found
      rcases consistent.registered found with ⟨finished, status⟩
      rw [if_neg (lt_length_of_statusAt status).ne]
      exact ⟨finished, status⟩
  unfinished := by
    intro other index status
    rw [statusAt_startWorker] at status
    simp only [startWorker_workers]
    split at status
    · rcases Prod.mk.inj (Option.some.inj status) with ⟨rfl, _⟩
      rw [Finmap.lookup_insert, ‹index = _›]
    · exact lookup_insert_of_missing missing (consistent.unfinished status)
  message := by
    intro other
    simp only [startWorker_stoppedWorker, consistent.message,
      statusAt_startWorker, startWorker_workers]
    constructor
    · intro message
      rcases message with ⟨index, found, status⟩
      refine ⟨index, lookup_insert_of_missing missing found, ?_⟩
      rw [if_neg (lt_length_of_statusAt status).ne, status]
    · intro message
      rcases message with ⟨index, found, status⟩
      split at status
      · cases status
      · refine ⟨index, ?_, status⟩
        rw [Finmap.lookup_insert_of_ne] at found
        · exact found
        · intro equal
          subst equal
          rw [Finmap.lookup_insert] at found
          exact ‹index ≠ _› (Option.some.inj found).symm
  nodup := consistent.nodup
  counter := by
    have keys : (r.workers.insert id r.goroutines.length).keys =
        insert id r.workers.keys := by
      ext other
      simp [Finmap.mem_keys, Finmap.mem_insert]
    have fresh : id ∉ r.workers.keys := by rwa [Finmap.mem_keys]
    simp only [startWorker_workersRunning, startWorker_workers, keys,
      Finset.card_insert_of_notMem fresh, consistent.counter]
    push_cast
    rfl

private theorem Consistent.deleteWorker {r : Registry} (consistent : r.Consistent)
    {id : WorkerID} {channel : Channel WorkerID 1}
    (received : r.stoppedWorker.buffer = id :: channel.buffer) :
    (Registry.deleteWorker { r with stoppedWorker := channel } id).Consistent := by
  have status : ∀ index,
      (Registry.deleteWorker { r with stoppedWorker := channel } id).statusAt
        index = r.statusAt index := fun _ => rfl
  have nodup := consistent.nodup
  rw [received] at nodup
  rcases List.nodup_cons.mp nodup with ⟨notLater, laterNodup⟩
  have mine : id ∈ r.stoppedWorker.buffer := by simp [received]
  rcases consistent.message.mp mine with ⟨stopped, found, ended⟩
  constructor
  · intro other index found
    rw [deleteWorker_workers, lookup_erase_eq_some_iff] at found
    exact consistent.registered found.2
  · intro other index running
    have registered := consistent.unfinished running
    -- The goroutine registered for `id` has ended, so it is another one.
    have different : other ≠ id := by
      intro equal
      subst equal
      rw [found] at registered
      cases registered
      rw [status, ended] at running
      cases running
    rw [deleteWorker_workers, lookup_erase_eq_some_iff]
    exact ⟨different, registered⟩
  · intro other
    have later : other ∈ channel.buffer ↔
        other ∈ r.stoppedWorker.buffer ∧ other ≠ id := by
      rw [received, List.mem_cons]
      constructor
      · intro member
        exact ⟨.inr member, fun equal => notLater (equal ▸ member)⟩
      · intro member
        rcases member with ⟨equal | member, different⟩
        · exact absurd equal different
        · exact member
    simp only [deleteWorker_stoppedWorker, deleteWorker_workers, later,
      consistent.message, lookup_erase_eq_some_iff]
    constructor
    · intro message
      rcases message with ⟨⟨index, found, ended⟩, different⟩
      exact ⟨index, ⟨different, found⟩, ended⟩
    · intro message
      rcases message with ⟨index, ⟨different, found⟩, ended⟩
      exact ⟨⟨index, found, ended⟩, different⟩
  · exact laterNodup
  · have member : id ∈ r.workers.keys :=
      Finmap.mem_keys.mpr (Finmap.mem_of_lookup_eq_some found)
    have positive : 0 < r.workers.keys.card := Finset.card_pos.mpr ⟨id, member⟩
    simp only [deleteWorker_workersRunning, deleteWorker_workers,
      Finmap.keys_erase, Finset.card_erase_of_mem member, consistent.counter]
    omega

private theorem Consistent.send {r : Registry} (consistent : r.Consistent)
    {index : Nat} {g next : Goroutine} {channel : Channel WorkerID 1}
    (present : r.goroutines[index]? = some g) (running : ¬g.Finished)
    (sameWorker : next.worker = g.worker) (ended : next.Finished)
    (sent : channel.buffer = r.stoppedWorker.buffer ++ [g.worker.id]) :
    ({ r with
        goroutines := r.goroutines.set index next
        stoppedWorker := channel } : Registry).Consistent := by
  have before : r.statusAt index = some (g.worker.id, false) := by
    simp [statusAt, present, running]
  have mine := consistent.unfinished before
  -- Only the goroutine at `index` is registered for its id.
  have unannounced : g.worker.id ∉ r.stoppedWorker.buffer := by
    intro member
    rcases consistent.message.mp member with ⟨other, found, otherEnded⟩
    rw [mine] at found
    cases found
    rw [before] at otherEnded
    cases otherEnded
  have status := statusAt_set present next channel
  constructor
  · intro id other found
    rw [status]
    rcases consistent.registered found with ⟨finished, known⟩
    by_cases same : other = index
    · subst other
      rw [before] at known
      cases known
      exact ⟨_, by rw [if_pos rfl, sameWorker]⟩
    · exact ⟨finished, by rw [if_neg same, known]⟩
  · intro id other known
    rw [status] at known
    split at known
    · simp [ended] at known
    · exact consistent.unfinished known
  · intro id
    simp only [sent, List.mem_append, List.mem_singleton, consistent.message, status]
    constructor
    · intro message
      rcases message with ⟨other, found, otherEnded⟩ | rfl
      · refine ⟨other, found, ?_⟩
        have different : other ≠ index := by
          intro equal
          subst equal
          rw [before] at otherEnded
          cases otherEnded
        rw [if_neg different, otherEnded]
      · exact ⟨index, mine, by simp [sameWorker, ended]⟩
    · intro message
      rcases message with ⟨other, found, known⟩
      split at known
      · simp only [sameWorker, Option.some.injEq, Prod.mk.injEq] at known
        exact .inr known.1.symm
      · exact .inl ⟨other, found, known⟩
  · simp only [sent]
    exact List.nodup_append.mpr ⟨consistent.nodup, by simp, by
      intro id member other single equal
      rw [List.mem_singleton.mp single] at equal
      exact unannounced (equal ▸ member)⟩
  · exact consistent.counter

private theorem Consistent.step {settings : Settings} {trace : List Event}
    {r next : Registry} {action : Action} {events : List Event}
    (reachable : (model settings).Reachable trace r) (consistent : r.Consistent)
    (step : Step settings r action next events) : next.Consistent := by
  cases step with
  | start id instanceInfo missing known =>
      exact consistent.startWorker settings missing instanceInfo
  | cancel index =>
      exact consistent.of_statusAt (funext (r.statusAt_cancelWorker index)) rfl rfl rfl
  | reap id stoppedWorker received => exact consistent.deleteWorker received
  | cancelContext => exact consistent.of_statusAt rfl rfl rfl rfl
  | run index action g moved runEvents present ran quiet =>
      have formed := (Registry.ranTo reachable present).wellFormed
      exact consistent.of_statusAt (statusAt_run present ran formed quiet) rfl rfl rfl
  | send index g rest stoppedWorker present point deferred room sent =>
      have formed := (Registry.ranTo reachable present).wellFormed
      have empty := Goroutine.rest_of_sendStopped formed.deferred point deferred
      apply consistent.send present
      · simp [Goroutine.Finished, deferred]
      · rfl
      · exact ⟨point, empty⟩
      · exact sent

theorem consistent {settings : Settings} {trace : List Event} {r : Registry}
    (reachable : (model settings).Reachable trace r) : r.Consistent := by
  apply reachable.invariant fun _ current => current.Consistent
  · exact consistent_initial
  · intro past current action next events reached holds stepped
    exact holds.step reached (step_inversion stepped)

end Registry

end RdsMetricCollector.Scheduler
