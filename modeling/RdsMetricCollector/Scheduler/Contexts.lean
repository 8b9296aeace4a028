import RdsMetricCollector.Scheduler.StopMessages

/-! # Worker contexts

A context that `startWorker` created stays attached to the context of the
scheduler until one of them is cancelled. `deleteWorker` does not cancel it, so
a worker that ends on its own account leaves its context behind.
-/

namespace RdsMetricCollector.Scheduler

open RdsMetricCollector.Execution
open RdsMetricCollector.Runtime

namespace Registry

/-- The goroutines whose context has not been cancelled. -/
def liveContexts (r : Registry) : Finset Nat :=
  (Finset.range r.goroutines.length).filter fun index =>
    r.goroutines[index]?.any fun g => !r.contextDone g

/-- Live contexts belong to registered workers. -/
def ContextsRegistered (r : Registry) : Prop :=
  ∀ (index : Nat) (g : Goroutine), r.goroutines[index]? = some g →
    r.contextDone g = false → r.workers.lookup g.worker.id = some index

/-- Live contexts belong to registered workers, and are at most as many. -/
def NoLeak (r : Registry) : Prop :=
  r.ContextsRegistered ∧ r.liveContexts.card ≤ r.workers.keys.card

theorem mem_liveContexts {r : Registry} {index : Nat} :
    index ∈ r.liveContexts ↔
      ∃ g, r.goroutines[index]? = some g ∧ r.contextDone g = false := by
  simp only [liveContexts, Finset.mem_filter, Finset.mem_range,
    Option.any_eq_true, Bool.not_eq_true', and_iff_right_iff_imp]
  intro live
  rcases live with ⟨g, present, _⟩
  exact (List.getElem?_eq_some_iff.mp present).1

private theorem ContextsRegistered.card_le {r : Registry}
    (registered : r.ContextsRegistered) :
    r.liveContexts.card ≤ r.workers.keys.card := by
  have included : r.liveContexts ⊆
      r.workers.keys.image fun id => (r.workers.lookup id).getD 0 := by
    intro index member
    rcases mem_liveContexts.mp member with ⟨g, present, live⟩
    have found := registered index g present live
    apply Finset.mem_image.mpr
    refine ⟨g.worker.id, ?_, ?_⟩
    · exact Finmap.mem_keys.mpr (Finmap.mem_of_lookup_eq_some found)
    · rw [found, Option.getD_some]
  calc
    r.liveContexts.card ≤ _ := Finset.card_le_card included
    _ ≤ r.workers.keys.card := Finset.card_image_le

private theorem ContextsRegistered.noLeak {r : Registry}
    (registered : r.ContextsRegistered) : r.NoLeak :=
  ⟨registered, registered.card_le⟩

/-! ## How the operations treat contexts -/

private theorem ContextsRegistered.startWorker {r : Registry}
    (registered : r.ContextsRegistered) (settings : Settings) {id : WorkerID}
    (missing : id ∉ r.workers) (instanceInfo : BrokerInfo.InstanceInfo) :
    (r.startWorker settings id instanceInfo).ContextsRegistered := by
  intro index g present live
  rw [getElem?_startWorker] at present
  rw [startWorker_workers]
  split at present
  · cases present
    rw [‹index = _›]
    exact Finmap.lookup_insert _
  · exact lookup_insert_of_missing missing (registered index g present live)

private theorem ContextsRegistered.cancelWorker {r : Registry}
    (registered : r.ContextsRegistered) (cancelled : Nat) :
    (r.cancelWorker cancelled).ContextsRegistered := by
  intro index g present live
  rcases of_getElem?_cancelWorker present with ⟨before, found, equal⟩
  subst equal
  split at live
  case isTrue => simp [contextDone] at live
  case isFalse different =>
    rw [if_neg different]
    exact registered index before found live

private theorem contextsRegistered_cancelContext (r : Registry) :
    r.cancelContext.ContextsRegistered := by
  intro index g _ live
  simp [contextDone] at live

/-- A step of a goroutine changes neither its worker nor its context. -/
theorem ContextsRegistered.runWorker {r next : Registry} {index : Nat}
    {action : RunAction} {events : List Event}
    (registered : r.ContextsRegistered)
    (ran : r.runWorker index action = some (next, events)) :
    next.ContextsRegistered := by
  rcases runWorker_eq_some ran with
    ⟨before, after, _, channel, found, step, _, rfl, _⟩
  intro other g present live
  by_cases same : index = other
  · subst other
    have inRange := (List.getElem?_eq_some_iff.mp found).1
    rw [List.getElem?_set_self inRange] at present
    cases present
    rw [step.worker_eq]
    apply registered index before found
    simpa [contextDone, step.cancelled_eq] using live
  · rw [List.getElem?_set_ne same] at present
    exact registered other g present live

/-- The goroutine whose stop message is received next. -/
def nextStopped (r : Registry) : Option Goroutine :=
  (r.stoppedWorker.buffer.head?.bind fun id => r.workers.lookup id).bind
    fun index => r.goroutines[index]?

private theorem exists_nextStopped {r next : Registry} {events : List Event}
    (consistent : r.Consistent) (reaped : r.reap = some (next, events)) :
    ∃ g index, r.nextStopped = some g ∧ r.goroutines[index]? = some g ∧
      r.workers.lookup g.worker.id = some index ∧
      next.workers = r.workers.erase g.worker.id ∧
      next.goroutines = r.goroutines ∧ next.cancelled = r.cancelled := by
  rcases reap_eq_some reaped with ⟨id, channel, buffer, rfl, _⟩
  have member : id ∈ r.stoppedWorker.buffer := by simp [buffer]
  rcases consistent.message.mp member with ⟨index, found, status⟩
  rcases exists_statusAt_iff.mp ⟨_, status⟩ with ⟨g, present, rfl⟩
  refine ⟨g, index, ?_, present, found, rfl, rfl, rfl⟩
  simp [nextStopped, buffer, found, present]

/-- Deleting a worker keeps the invariant exactly when its context is
cancelled. -/
theorem ContextsRegistered.reap_iff {r next : Registry} {events : List Event}
    (registered : r.ContextsRegistered) (consistent : r.Consistent)
    (reaped : r.reap = some (next, events)) :
    next.ContextsRegistered ↔ r.nextStopped.all r.contextDone = true := by
  rcases exists_nextStopped consistent reaped with
    ⟨g, index, stopped, present, found, workers, goroutines, cancelled⟩
  have sameDone : ∀ h : Goroutine, next.contextDone h = r.contextDone h := by
    intro h
    rw [contextDone, contextDone, cancelled]
  rw [stopped, Option.all_some]
  constructor
  · intro holds
    by_contra live
    have kept := holds index g (by rw [goroutines, present])
      (by rw [sameDone]; simpa using live)
    rw [workers, Finmap.lookup_erase] at kept
    cases kept
  · intro done other h otherPresent live
    rw [goroutines] at otherPresent
    rw [sameDone] at live
    have otherFound := registered other h otherPresent live
    rw [workers, Finmap.lookup_erase_ne, otherFound]
    intro equal
    -- The other goroutine would be the one that is deleted.
    rw [equal, found] at otherFound
    cases otherFound
    rw [present] at otherPresent
    cases otherPresent
    rw [done] at live
    cases live

end Registry

/-! ## Runs of the scheduler -/

/-- The main loop receives a stop message. -/
def Action.receivesStop : Action → Bool
  | .receiveStopped | .drainReceive => true
  | _ => false

/-- The stop messages that the main loop receives come from workers whose
context is cancelled. -/
def StopsCancelled (s : State) (action : Action) : Prop :=
  action.receivesStop → s.registry.nextStopped.all s.registry.contextDone

instance (s : State) (action : Action) : Decidable (StopsCancelled s action) :=
  inferInstanceAs (Decidable (_ → _))

private theorem Step.contextsRegistered {settings : Settings} {s next : State}
    {action : Action} {events : List Event}
    (step : Step settings s action next events)
    (consistent : s.registry.Consistent)
    (registered : s.registry.ContextsRegistered)
    (stopsCancelled : StopsCancelled s action) :
    next.registry.ContextsRegistered := by
  cases step with
  | startMissing desired id instanceInfo remaining main missing =>
      exact registered.startWorker settings missing instanceInfo
  | cancelUndesired desired id index => exact registered.cancelWorker index
  | cancelOnSignal => exact Registry.contextsRegistered_cancelContext _
  | callStop => exact Registry.contextsRegistered_cancelContext _
  | receiveStopped registry events main reaped =>
      exact (registered.reap_iff consistent reaped).mpr (stopsCancelled rfl)
  | drainReceive registry events main nonempty reaped =>
      exact (registered.reap_iff consistent reaped).mpr (stopsCancelled rfl)
  | run index action registry events ran => exact registered.runWorker ran
  | _ => exact registered

/-- In every run in which every stop message that is received comes from a
worker with a cancelled context, no context is leaked in any state. -/
theorem contexts_not_leaked {settings : Settings} {trace : List Event} {s : State}
    (reachable : ((model settings).restrict StopsCancelled).Reachable trace s) :
    s.registry.NoLeak := by
  have strengthened := reachable.restrict_invariant
    (fun _ current => current.registry.ContextsRegistered)
    (by intro index g present; simp [model, State.initial, Registry.initial] at present)
    (by
      intro past current action next events reached registered condition stepped
      exact (step_inversion stepped).contextsRegistered
        (registry_consistent reached) registered condition)
  exact strengthened.2.noLeak

/-- The condition is exact: a step that violates it leaks a context. -/
theorem leaks_of_not_stopsCancelled {settings : Settings} {trace : List Event}
    {s next : State} {action : Action} {events : List Event}
    (reachable : (model settings).Reachable trace s)
    (registered : s.registry.ContextsRegistered)
    (stepped : step settings s action = some (next, events))
    (violated : ¬StopsCancelled s action) : ¬next.registry.NoLeak := by
  have consistent := registry_consistent reachable
  intro kept
  apply violated
  intro receives
  cases step_inversion stepped with
  | receiveStopped registry events main reaped =>
      exact (registered.reap_iff consistent reaped).mp kept.1
  | drainReceive registry events main nonempty reaped =>
      exact (registered.reap_iff consistent reaped).mp kept.1
  | _ => cases receives

/-- The sample worker fails to create its collector. When its stop message has
been received, nothing refers to its context any more. -/
theorem leaked_context :
    ∃ s trace, (model sampleSettings).run .initial
        (sampleFailure ++ [.receiveStopped]) = some (s, trace) ∧
      ¬s.registry.NoLeak := by
  refine ⟨_, _, rfl, ?_⟩
  intro noLeak
  exact absurd noLeak.2 (by decide)

/-- The sample worker is cancelled by a refresh before its message is
received. -/
theorem contexts_not_leaked_sample :
    ∃ s trace, ((model sampleSettings).restrict StopsCancelled).run .initial
        (sampleFailure ++ [.timerFires, .receiveTick, .resetTimer,
          .listInstancesSucceeds [] [], .finishStarting [⟨sampleID, 0⟩],
          .cancelNext, .finishRefresh, .receiveStopped]) = some (s, trace) ∧
      s.registry.workers = ∅ ∧ s.registry.goroutines.length = 1 ∧
      s.registry.NoLeak := by
  refine ⟨_, _, rfl, by decide, rfl, ?_⟩
  exact contexts_not_leaked
    (((model sampleSettings).restrict StopsCancelled).reachable_of_run
      (sampleFailure ++ [.timerFires, .receiveTick, .resetTimer,
        .listInstancesSucceeds [] [], .finishStarting [⟨sampleID, 0⟩],
        .cancelNext, .finishRefresh, .receiveStopped]) rfl)

end RdsMetricCollector.Scheduler
