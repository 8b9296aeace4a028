import RdsMetricCollector.Foundation.Slices
import RdsMetricCollector.Scheduler.Progress
import RdsMetricCollector.Scheduler.StopMessages

/-! # The instances with workers

`ListIntanceGUIDs` is what the main loop logs when the workers take too long to
stop. It goes over two maps, each in an order of its own.
-/

namespace RdsMetricCollector.Scheduler

open RdsMetricCollector.Collector
open RdsMetricCollector.Execution
open RdsMetricCollector.Runtime

/-- The first loop, over the workers. -/
def instanceGUIDMap (workers : List (Sigma fun _ : WorkerID => Nat)) :
    Finmap fun _ : String => Bool :=
  insertAll ∅ (workers.map fun worker => (worker.1.instanceGUID, true))

/-- The second loop, over the map that the first one has filled. -/
def listIntanceGUIDs (instanceGUIDs : List (Sigma fun _ : String => Bool)) : List String :=
  instanceGUIDs.foldl (fun guids entry => guids ++ [entry.1]) []

variable {workers : List (Sigma fun _ : WorkerID => Nat)}
  {instanceGUIDs : List (Sigma fun _ : String => Bool)}

private theorem listIntanceGUIDs_eq : listIntanceGUIDs instanceGUIDs = instanceGUIDs.keys := by
  have loop : ∀ guids, instanceGUIDs.foldl (fun guids entry => guids ++ [entry.1]) guids =
      guids ++ instanceGUIDs.keys := by
    induction instanceGUIDs with
    | nil => simp
    | cons entry entries induction =>
        intro guids
        rw [List.foldl_cons, induction, List.keys_cons, List.append_assoc]
        rfl
  exact loop []

theorem mem_instanceGUIDMap {guid : String} :
    guid ∈ instanceGUIDMap workers ↔ ∃ worker ∈ workers, worker.1.instanceGUID = guid := by
  rw [instanceGUIDMap, mem_insertAll]
  simp [Finmap.notMem_empty]

theorem mem_listIntanceGUIDs
    (ranges : RangeOrder (instanceGUIDMap workers) instanceGUIDs) {guid : String} :
    guid ∈ listIntanceGUIDs instanceGUIDs ↔
      ∃ worker ∈ workers, worker.1.instanceGUID = guid := by
  rw [listIntanceGUIDs_eq, ← mem_instanceGUIDMap, Finmap.mem_iff, List.mem_keys]
  apply exists_congr
  intro value
  exact ranges.mem_iff

/-- In whatever orders the two maps are gone over, the instances that are listed
are those with a worker whose stop message has not been consumed, each once. When
the main loop logs them, there is one. -/
theorem unfinished_instances_listed {settings : Settings} {trace : List Event} {s : State}
    (reachable : (model settings).Reachable trace s)
    (workersRange : RangeOrder s.registry.workers workers)
    (ranges : RangeOrder (instanceGUIDMap workers) instanceGUIDs) :
    (listIntanceGUIDs instanceGUIDs).Nodup ∧
    (∀ guid, guid ∈ listIntanceGUIDs instanceGUIDs ↔
      ∃ index g, s.registry.goroutines[index]? = some g ∧
        g.worker.id.instanceGUID = guid ∧ index ∉ consumedStops trace) ∧
    ∀ next events, (model settings).step s .drainTimeout = some (next, events) →
      listIntanceGUIDs instanceGUIDs ≠ [] := by
  have listed : ∀ {guid}, guid ∈ listIntanceGUIDs instanceGUIDs ↔
      ∃ id index, s.registry.workers.lookup id = some index ∧ id.instanceGUID = guid := by
    intro guid
    rw [mem_listIntanceGUIDs ranges]
    constructor
    · intro found
      rcases found with ⟨⟨id, index⟩, member, sameGUID⟩
      exact ⟨id, index, workersRange.mem_iff.mp member, sameGUID⟩
    · intro found
      rcases found with ⟨id, index, found, sameGUID⟩
      exact ⟨⟨id, index⟩, workersRange.mem_iff.mpr found, sameGUID⟩
  refine ⟨?_, ?_, ?_⟩
  · rw [listIntanceGUIDs_eq]
    exact ranges.nodupKeys
  · intro guid
    rw [listed]
    constructor
    · intro found
      rcases found with ⟨id, index, found, sameGUID⟩
      rcases (lookup_workers_iff reachable).mp found with ⟨⟨g, present, rfl⟩, unused⟩
      exact ⟨index, g, present, sameGUID, unused⟩
    · intro found
      rcases found with ⟨index, g, present, sameGUID, unused⟩
      exact ⟨_, index, (lookup_workers_iff reachable).mpr ⟨⟨g, present, rfl⟩, unused⟩, sameGUID⟩
  · intro next events stepped empty
    cases step_inversion stepped with
    | drainTimeout timer main nonempty =>
        rcases exists_lookup_of_ne_empty nonempty with ⟨id, index, found⟩
        have member := listed.mpr ⟨id, index, found, rfl⟩
        rw [empty] at member
        cases member

/-! Two workers for the sample instance, one of which has failed. -/

def sampleAuditDriver : MetricsCollectorDriver :=
  { sampleDriver with getName := "audit" }

def sampleAuditSettings : Settings :=
  sampleSettings.withDriver [sampleAuditDriver]

def sampleAuditID : WorkerID :=
  { sampleID with driver := "audit" }

def sampleAuditFailure : List Action :=
  [.timerFires, .receiveTick, .resetTimer,
    .listInstancesSucceeds
      [(sampleInstance, [⟨"audit", sampleAuditDriver⟩, ⟨"fake", sampleDriver⟩])]
      [⟨sampleID, sampleInstance⟩, ⟨sampleAuditID, sampleInstance⟩],
    .startNext, .startNext, .finishStarting [⟨sampleAuditID, 1⟩, ⟨sampleID, 0⟩],
    .cancelNext, .cancelNext, .finishRefresh,
    .run 1 .callNewCollector, .run 1 (.newCollectorReturns (some "refused")),
    .run 1 .runDeferred]

theorem unfinished_instances_listed_sample :
    ∃ s trace, (model sampleAuditSettings).run .initial sampleAuditFailure = some (s, trace) ∧
      RangeOrder s.registry.workers [⟨sampleID, 0⟩, ⟨sampleAuditID, 1⟩] ∧
      (listIntanceGUIDs [⟨"instance-guid1", true⟩]).Nodup ∧
      ∀ guid, guid ∈ listIntanceGUIDs [⟨"instance-guid1", true⟩] ↔
        ∃ index g, s.registry.goroutines[index]? = some g ∧
          g.worker.id.instanceGUID = guid ∧ index ∉ consumedStops trace := by
  refine ⟨_, _, rfl, by decide, ?_⟩
  have listed := @unfinished_instances_listed [⟨sampleID, 0⟩, ⟨sampleAuditID, 1⟩]
    [⟨"instance-guid1", true⟩] sampleAuditSettings _ _
    ((model sampleAuditSettings).reachable_of_run sampleAuditFailure rfl)
    (by decide) (by decide)
  exact ⟨listed.1, listed.2.1⟩

end RdsMetricCollector.Scheduler
