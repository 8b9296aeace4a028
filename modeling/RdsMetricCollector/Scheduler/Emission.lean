import RdsMetricCollector.Scheduler.Refinement

/-! # Emission

What a worker hands to the emitter is what its successful collections returned.
-/

namespace RdsMetricCollector.Scheduler

open RdsMetricCollector.Execution

@[simp] def RunEvent.envelope? : RunEvent → Option MetricEnvelope
  | .emitted envelope => some envelope
  | _ => none

/-- The metrics of a `Collect` call that returned without an error. -/
@[simp] def RunEvent.collected? : RunEvent → Option (List Metric)
  | .collectReturned collected none => some collected
  | _ => none

def envelopes (events : List RunEvent) : List MetricEnvelope :=
  events.filterMap RunEvent.envelope?

def collections (events : List RunEvent) : List (List Metric) :=
  events.filterMap RunEvent.collected?

/-- The metrics, each in an envelope for the instance. -/
def wrap (guid : String) (collected : List Metric) : List MetricEnvelope :=
  collected.map fun metric => { instanceGUID := guid, metric := metric }

@[simp] theorem wrap_append (guid : String) (left right : List Metric) :
    wrap guid (left ++ right) = wrap guid left ++ wrap guid right :=
  List.map_append

@[simp] theorem envelopes_append (left right : List RunEvent) :
    envelopes (left ++ right) = envelopes left ++ envelopes right :=
  List.filterMap_append

@[simp] theorem collections_append (left right : List RunEvent) :
    collections (left ++ right) = collections left ++ collections right :=
  List.filterMap_append

/-- All collected metrics are emitted, except that the last collection may
still be on its way. -/
def Goroutine.EmittedAt (g : Goroutine) (events : List RunEvent) : Prop :=
  match g.point with
  | .emitting remaining =>
      ∃ earlier sent, collections events = earlier ++ [sent ++ remaining] ∧
        envelopes events =
          wrap g.worker.id.instanceGUID (earlier.flatten ++ sent)
  | _ =>
      envelopes events =
        wrap g.worker.id.instanceGUID (collections events).flatten

namespace Goroutine

/-- Steps that neither collect nor emit, between points outside the emitting
loop. -/
theorem EmittedAt.frame {g next : Goroutine} {past events : List RunEvent}
    (holds : envelopes past =
      wrap g.worker.id.instanceGUID (collections past).flatten)
    (worker : next.worker = g.worker)
    (outside : ∀ remaining, next.point ≠ .emitting remaining)
    (noEnvelope : envelopes events = []) (noCollection : collections events = []) :
    next.EmittedAt (past ++ events) := by
  unfold EmittedAt
  split
  · next remaining point => exact absurd point (outside remaining)
  · rw [envelopes_append, collections_append, noEnvelope, noCollection,
      List.append_nil, List.append_nil, worker]
    exact holds

private theorem Step.emittedAt {done : Bool} {g next : Goroutine} {action : RunAction}
    {past events : List RunEvent} (step : g.Step done action next events)
    (holds : g.EmittedAt past) : next.EmittedAt (past ++ events) := by
  have worker := step.worker_eq
  unfold EmittedAt at holds
  cases step with
  | timerFires =>
      rw [List.append_nil]
      exact holds
  | callNewCollector point => rw [point] at holds; exact .frame holds worker nofun rfl rfl
  | creationFails err point => rw [point] at holds; exact .frame holds worker nofun rfl rfl
  | created point => rw [point] at holds; exact .frame holds worker nofun rfl rfl
  | receiveTick timer point => rw [point] at holds; exact .frame holds worker nofun rfl rfl
  | receiveDone point => rw [point] at holds; exact .frame holds worker nofun rfl rfl
  | collectFails collected err point =>
      rw [point] at holds
      refine .frame holds worker ?_ rfl rfl
      rcases g.collectFailed_point with ⟨_, after, _⟩ | ⟨_, after⟩ <;> simp [after]
  | collected metrics point =>
      rw [point] at holds
      refine ⟨collections past, [], ?_, ?_⟩
      · simp [collections]
      · rw [envelopes_append, holds]
        simp [envelopes]
  | emit metric remaining point =>
      rw [point] at holds
      rcases holds with ⟨earlier, sent, collected, emitted⟩
      refine ⟨earlier, sent ++ [metric], ?_, ?_⟩
      · rw [collections_append, collected]
        simp [collections]
      · rw [envelopes_append, emitted]
        simp [envelopes, wrap]
  | finishEmitting driver point =>
      rw [point] at holds
      rcases holds with ⟨earlier, sent, collected, emitted⟩
      rw [List.append_nil] at collected ⊢
      simp only [EmittedAt, collected, emitted]
      simp
  | close rest point =>
      rw [point] at holds
      exact .frame holds worker (by simp [point]) rfl rfl
  | sendStopped rest point =>
      rw [point] at holds
      exact .frame holds worker (by simp [point]) rfl rfl

theorem RanTo.emittedAt {trace : List RunEvent} {g : Goroutine}
    (ran : RanTo trace g) : g.EmittedAt trace := by
  apply ran.invariant fun past current => current.EmittedAt past
  · intro worker _
    rfl
  · intro past current holds
    exact holds
  · intro past current done action next events _ holds step
    exact step.emittedAt holds

end Goroutine

/-! ## The emitter's view -/

def Event.emission? : Event → Option (Nat × MetricEnvelope)
  | .worker index _ (.emitted envelope) => some (index, envelope)
  | _ => none

/-- The `Emit` calls of the whole scheduler, each with the goroutine that made
it. -/
def emitCalls (trace : List Event) : List (Nat × MetricEnvelope) :=
  trace.filterMap Event.emission?

/-- The part of the `Emit` sequence that one goroutine produced. -/
def emittedBy (index : Nat) (trace : List Event) : List MetricEnvelope :=
  ((emitCalls trace).filter fun call => call.1 = index).map Prod.snd

def Event.collection? (index : Nat) : Event → Option (List Metric)
  | .worker other _ (.collectReturned collected none) =>
      if other = index then some collected else none
  | _ => none

/-- What the successful `Collect` calls of one goroutine returned, in order. -/
def collectedBy (index : Nat) (trace : List Event) : List (List Metric) :=
  trace.filterMap (Event.collection? index)

private theorem emittedBy_eq (index : Nat) (trace : List Event) :
    emittedBy index trace = envelopes (ownEvents index trace) := by
  rw [emittedBy, emitCalls, List.filter_filterMap, List.map_filterMap, envelopes,
    ownEvents, List.filterMap_filterMap]
  congr 1
  funext event
  cases event with
  | worker other id event =>
      by_cases same : other = index <;> cases event <;>
        simp [Event.emission?, Event.own, same]
  | _ => rfl

private theorem collectedBy_eq (index : Nat) (trace : List Event) :
    collectedBy index trace = collections (ownEvents index trace) := by
  rw [collectedBy, collections, ownEvents, List.filterMap_filterMap]
  congr 1
  funext event
  cases event with
  | worker other id event =>
      by_cases same : other = index <;>
        rcases event with _ | _ | _ | ⟨_, _ | _⟩ <;>
          simp [Event.collection?, Event.own, same]
  | _ => rfl

/-- For every worker, the emitted envelopes are its collected metrics in call
order, wrapped for its own instance. While the last collection is being
emitted, a first part `sent` of it is there. -/
theorem emitted_eq_collected {settings : Settings} {trace : List Event}
    {s : State} (reachable : (model settings).Reachable trace s)
    {index : Nat} {g : Goroutine}
    (present : s.registry.goroutines[index]? = some g) :
    match g.point with
    | .emitting remaining =>
        ∃ earlier sent, collectedBy index trace = earlier ++ [sent ++ remaining] ∧
          emittedBy index trace =
            wrap g.worker.id.instanceGUID (earlier.flatten ++ sent)
    | _ =>
        emittedBy index trace =
          wrap g.worker.id.instanceGUID (collectedBy index trace).flatten := by
  rw [emittedBy_eq, collectedBy_eq]
  exact (ranTo reachable present).emittedAt

def sampleMetric : Metric where
  key := "connections"
  timestamp := 0
  value := ⟨0⟩
  unit := "conn"
  tags := ∅

/-- A failed collection is followed by one of two metrics, the first of which
has been emitted. -/
def sampleEmission : List Action :=
  sampleRefresh ++
    [.run 0 .callNewCollector, .run 0 (.newCollectorReturns none),
      .run 0 .timerFires, .run 0 .receiveTick,
      .run 0 (.collectReturns [sampleMetric] (some "deadline exceeded")),
      .run 0 .timerFires, .run 0 .receiveTick,
      .run 0 (.collectReturns [sampleMetric, sampleMetric] none), .run 0 .emit]

theorem emitted_eq_collected_sample :
    ∃ s trace g, (model sampleSettings).run .initial sampleEmission =
        some (s, trace) ∧
      s.registry.goroutines[0]? = some g ∧
      g.point = .emitting [sampleMetric] ∧
      ∃ earlier sent, collectedBy 0 trace = earlier ++ [sent ++ [sampleMetric]] ∧
        emittedBy 0 trace = wrap "instance-guid1" (earlier.flatten ++ sent) := by
  refine ⟨_, _, _, rfl, rfl, rfl, ?_⟩
  exact @emitted_eq_collected _ _ _
    ((model sampleSettings).reachable_of_run sampleEmission rfl) 0 _ rfl

end RdsMetricCollector.Scheduler
