import RdsMetricCollector.Scheduler.History

/-! # The loops of a refresh

The two loops in which a refresh starts the missing workers and cancels those
that are no longer desired, as functions of the registry.
-/

namespace RdsMetricCollector.Scheduler.Registry

open RdsMetricCollector.BrokerInfo
open RdsMetricCollector.Runtime

/-! ## The loop that starts workers -/

variable {settings : Settings} {r : Registry}

/-- The body of the loop over the desired workers, with the events so far. -/
def startEntry (settings : Settings) (done : Registry × List Event)
    (entry : DesiredEntry) : Registry × List Event :=
  if entry.1 ∈ done.1.workers then
    done
  else
    (done.1.startWorker settings entry.1 entry.2,
      done.2 ++ [.workerStarted done.1.goroutines.length
        (newWorker settings entry.1 entry.2)])

def startDesired (settings : Settings) (r : Registry) (order : List DesiredEntry) :
    Registry × List Event :=
  order.foldl (startEntry settings) (r, [])

theorem startDesired_append (settings : Settings) (r : Registry)
    (order : List DesiredEntry) (entry : DesiredEntry) :
    startDesired settings r (order ++ [entry]) =
      startEntry settings (startDesired settings r order) entry := by
  rw [startDesired, List.foldl_append, ← startDesired, List.foldl_cons, List.foldl_nil]

/-- The desired workers that are not registered. -/
def missing (r : Registry) (order : List DesiredEntry) : List DesiredEntry :=
  order.filter fun entry => entry.1 ∉ r.workers

def startedEvent (settings : Settings) (numbered : DesiredEntry × Nat) : Event :=
  .workerStarted numbered.2 (newWorker settings numbered.1.1 numbered.1.2)

/-- What the loop has done after the entries `order`: the missing workers are
started in this order and numbered from the next free position on. -/
structure StartsMissing (settings : Settings) (r : Registry)
    (order : List DesiredEntry) (done : Registry × List Event) : Prop where
  goroutines : done.1.goroutines = r.goroutines ++
    (r.missing order).map fun entry => .start (newWorker settings entry.1 entry.2)
  workersRunning : done.1.workersRunning = r.workersRunning + (r.missing order).length
  stoppedWorker : done.1.stoppedWorker = r.stoppedWorker
  cancelled : done.1.cancelled = r.cancelled
  lookup : ∀ {id index}, done.1.workers.lookup id = some index ↔
    r.workers.lookup id = some index ∨
      ∃ entry, (entry, index) ∈ (r.missing order).zipIdx r.goroutines.length ∧
        entry.1 = id
  events : done.2 =
    ((r.missing order).zipIdx r.goroutines.length).map (startedEvent settings)

theorem mem_missing_iff {order : List DesiredEntry} {entry : DesiredEntry} :
    entry ∈ r.missing order ↔ entry ∈ order ∧ entry.1 ∉ r.workers := by
  simp [missing]

/-- Every missing worker has a number. -/
theorem exists_mem_zipIdx {α : Type} {items : List α} {item : α} (first : Nat) :
    (∃ index, (item, index) ∈ items.zipIdx first) ↔ item ∈ items := by
  have firsts : (items.zipIdx first).map Prod.fst = items := List.zipIdx_map_fst first items
  have mapped : item ∈ (items.zipIdx first).map Prod.fst ↔ _ := List.mem_map
  rw [firsts] at mapped
  rw [mapped]
  simp

variable {order : List DesiredEntry} {done : Registry × List Event}

theorem StartsMissing.mem_workers_iff (starts : StartsMissing settings r order done)
    {id : WorkerID} : id ∈ done.1.workers ↔ id ∈ r.workers ∨ id ∈ order.keys := by
  have missingEntry : (∃ index entry,
      (entry, index) ∈ (r.missing order).zipIdx r.goroutines.length ∧ entry.1 = id) ↔
      ∃ entry ∈ order, entry.1 ∉ r.workers ∧ entry.1 = id := by
    rw [exists_comm]
    simp only [exists_and_right, exists_mem_zipIdx, mem_missing_iff, and_assoc]
  have registeredEntry : (∃ index, r.workers.lookup id = some index) ↔
      id ∈ r.workers := by
    rw [Finmap.mem_iff]
  rw [Finmap.mem_iff]
  simp only [starts.lookup, exists_or, missingEntry, registeredEntry]
  rw [List.keys, List.mem_map]
  constructor
  · intro known
    rcases known with registered | ⟨entry, member, -, rfl⟩
    · exact .inl registered
    · exact .inr ⟨entry, member, rfl⟩
  · intro known
    rcases known with registered | ⟨entry, member, rfl⟩
    · exact .inl registered
    · by_cases registered : entry.1 ∈ r.workers
      · exact .inl registered
      · exact .inr ⟨entry, member, registered, rfl⟩

private theorem StartsMissing.startEntry (starts : StartsMissing settings r order done)
    {entry : DesiredEntry} (fresh : entry.1 ∉ order.keys) :
    StartsMissing settings r (order ++ [entry])
      (Registry.startEntry settings done entry) := by
  have known : entry.1 ∈ done.1.workers ↔ _ := starts.mem_workers_iff
  by_cases registered : entry.1 ∈ r.workers
  · have unchanged : r.missing (order ++ [entry]) = r.missing order := by
      simp [missing, registered]
    rw [Registry.startEntry, if_pos (known.mpr (.inl registered))]
    rcases starts with ⟨goroutines, running, channel, cancelled, lookup, events⟩
    exact ⟨by rwa [unchanged], by rwa [unchanged], channel, cancelled,
      by rwa [unchanged], by rwa [unchanged]⟩
  · have extended : r.missing (order ++ [entry]) = r.missing order ++ [entry] := by
      simp [missing, registered]
    have absent : entry.1 ∉ done.1.workers := by
      rw [known]
      tauto
    have free : done.1.goroutines.length =
        r.goroutines.length + (r.missing order).length := by
      rw [starts.goroutines]
      simp
    rw [Registry.startEntry, if_neg absent]
    constructor
    · simp [extended, starts.goroutines]
    · simp [extended, starts.workersRunning, add_assoc]
    · exact starts.stoppedWorker
    · exact starts.cancelled
    · intro id index
      rw [startWorker_workers, lookup_insert_eq_ite, extended, List.zipIdx_append, free]
      by_cases same : id = entry.1
      · subst same
        have before : done.1.workers.lookup entry.1 ≠ some index := by
          intro found
          exact absent (Finmap.mem_of_lookup_eq_some found)
        rw [Ne, starts.lookup, not_or] at before
        have unnumbered : ∀ other, (other, index) ∈
            (r.missing order).zipIdx r.goroutines.length → other.1 ≠ entry.1 :=
          fun other member equal => before.2 ⟨other, member, equal⟩
        rw [if_pos rfl]
        simp only [Option.some.injEq, before.1, false_or, List.mem_append,
          List.zipIdx_singleton, List.mem_singleton, Prod.mk.injEq]
        constructor
        · intro equal
          exact ⟨entry, .inr ⟨rfl, equal.symm⟩, rfl⟩
        · intro numbered
          rcases numbered with ⟨other, earlier | ⟨-, equal⟩, sameId⟩
          · exact absurd sameId (unnumbered other earlier)
          · exact equal.symm
      · rw [if_neg same, starts.lookup]
        simp only [List.mem_append, List.zipIdx_singleton, List.mem_singleton,
          Prod.mk.injEq, or_and_right, exists_or]
        have last : ¬∃ other : DesiredEntry, (other = entry ∧
            index = r.goroutines.length + (r.missing order).length) ∧ other.1 = id := by
          intro numbered
          rcases numbered with ⟨other, ⟨rfl, -⟩, sameId⟩
          exact same sameId.symm
        rw [or_iff_left last]
    · simp [extended, starts.events, free, List.zipIdx_append, startedEvent]

theorem startsMissing_startDesired {order : List DesiredEntry}
    (nodup : order.NodupKeys) :
    StartsMissing settings r order (startDesired settings r order) := by
  induction order using List.reverseRecOn with
  | nil =>
      constructor <;> simp [startDesired, missing]
  | append_singleton order entry induction =>
      rw [List.NodupKeys, List.keys_append, List.nodup_append] at nodup
      have fresh : entry.1 ∉ order.keys := by
        intro member
        exact nodup.2.2 entry.1 member entry.1 (by simp) rfl
      have earlier := induction nodup.1
      rw [startDesired_append]
      exact earlier.startEntry fresh

/-! ## The loop that cancels workers -/

/-- The body of the loop over the registered workers. -/
def cancelEntry (desired : DesiredWorkers) (done : Registry × List Event)
    (entry : WorkerEntry) : Registry × List Event :=
  if entry.1 ∈ desired then
    done
  else
    (done.1.cancelWorker entry.2, done.2 ++ [.workerCancelled entry.2])

def cancelUndesired (desired : DesiredWorkers) (r : Registry)
    (order : List WorkerEntry) : Registry × List Event :=
  order.foldl (cancelEntry desired) (r, [])

theorem cancelUndesired_append (desired : DesiredWorkers) (r : Registry)
    (order : List WorkerEntry) (entry : WorkerEntry) :
    cancelUndesired desired r (order ++ [entry]) =
      cancelEntry desired (cancelUndesired desired r order) entry := by
  rw [cancelUndesired, List.foldl_append, ← cancelUndesired, List.foldl_cons,
    List.foldl_nil]

/-- The goroutines of the registered workers that are not desired. -/
def undesired (desired : DesiredWorkers) (order : List WorkerEntry) : List Nat :=
  (order.filter fun entry => entry.1 ∉ desired).map Sigma.snd

structure Cancels (indices : List Nat) (r : Registry)
    (done : Registry × List Event) : Prop where
  goroutines : ∀ index, done.1.goroutines[index]? =
    r.goroutines[index]?.map fun g => if index ∈ indices then g.cancel else g
  length : done.1.goroutines.length = r.goroutines.length
  workers : done.1.workers = r.workers
  workersRunning : done.1.workersRunning = r.workersRunning
  stoppedWorker : done.1.stoppedWorker = r.stoppedWorker
  cancelled : done.1.cancelled = r.cancelled
  events : done.2 = indices.map .workerCancelled

private theorem Cancels.cancelWorker {indices : List Nat} {done : Registry × List Event}
    (cancels : Cancels indices r done) (index : Nat) :
    Cancels (indices ++ [index]) r
      (done.1.cancelWorker index, done.2 ++ [.workerCancelled index]) where
  goroutines := by
    intro other
    rw [cancelWorker_goroutines, List.getElem?_modify, cancels.goroutines]
    cases r.goroutines[other]? with
    | none => rfl
    | some g =>
        by_cases same : index = other
        · subst same
          by_cases again : index ∈ indices <;> simp [again, Goroutine.cancel]
        · simp [same, Ne.symm same]
  length := by simp [cancels.length]
  workers := cancels.workers
  workersRunning := cancels.workersRunning
  stoppedWorker := cancels.stoppedWorker
  cancelled := cancels.cancelled
  events := by simp [cancels.events]

theorem cancels_cancelUndesired (desired : DesiredWorkers) (r : Registry)
    (order : List WorkerEntry) :
    Cancels (undesired desired order) r (cancelUndesired desired r order) := by
  induction order using List.reverseRecOn with
  | nil => constructor <;> simp [cancelUndesired, undesired]
  | append_singleton order entry induction =>
      rw [cancelUndesired_append, cancelEntry]
      by_cases wanted : entry.1 ∈ desired
      · have unchanged : undesired desired (order ++ [entry]) =
            undesired desired order := by
          simp [undesired, wanted]
        rw [if_pos wanted, unchanged]
        exact induction
      · have extended : undesired desired (order ++ [entry]) =
            undesired desired order ++ [entry.2] := by
          simp [undesired, wanted]
        rw [if_neg wanted, extended]
        exact induction.cancelWorker entry.2

end RdsMetricCollector.Scheduler.Registry
