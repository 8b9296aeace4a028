import RdsMetricCollector.Scheduler.Worker

/-! # Runs of a single worker

`collectorWorker.run` on its own, against an environment that may cancel the
context at any moment. Facts about the history of one worker are proved here,
once and for all; a run of the scheduler contains such a run for each of its
goroutines.
-/

namespace RdsMetricCollector.Scheduler

open RdsMetricCollector.Execution
open RdsMetricCollector.Runtime

inductive LocalAction
  | start (worker : CollectorWorker)
  | cancel
  | act (done : Bool) (action : RunAction)

/-- A worker that has not been started is `none`. -/
def runModel : Model (Option Goroutine) LocalAction RunEvent where
  initial := none
  step
    | none, .start worker =>
        if worker.driver.isSome then some (some (.start worker), []) else none
    | some g, .cancel => some (some g.cancel, [])
    | some g, .act done action =>
        (g.step done action).map fun (next, events) => (some next, events)
    | _, _ => none

namespace Goroutine

/-- `g` is what a worker has become after doing `trace`. -/
def RanTo (trace : List RunEvent) (g : Goroutine) : Prop :=
  runModel.Reachable trace (some g)

/-- The induction rule for the history of a worker. -/
theorem RanTo.invariant {trace : List RunEvent} {g : Goroutine}
    (ran : RanTo trace g) (Invariant : List RunEvent → Goroutine → Prop)
    (started : ∀ {worker : CollectorWorker}, worker.driver.isSome →
      Invariant [] (.start worker))
    (cancelled : ∀ {past current}, Invariant past current →
      Invariant past current.cancel)
    (stepped : ∀ {past current done action next events},
      RanTo past current → Invariant past current →
      current.Step done action next events →
      Invariant (past ++ events) next) :
    Invariant trace g := by
  have strengthened : (some g = none → trace = []) ∧
      ∀ current, some g = some current → Invariant trace current := by
    apply Model.Reachable.invariant ran fun past state =>
      (state = none → past = []) ∧
        ∀ current, state = some current → Invariant past current
    · exact ⟨fun _ => rfl, nofun⟩
    · intro past state action next events reached holds moved
      -- A worker that is not started yet has no history.
      cases state with
      | none =>
          cases action with
          | start worker =>
              simp only [runModel] at moved
              split at moved
              case isTrue hasDriver =>
                cases moved
                refine ⟨nofun, fun current equal => ?_⟩
                cases equal
                rw [holds.1 rfl]
                exact started hasDriver
              case isFalse => cases moved
          | cancel => cases moved
          | act done action => cases moved
      | some current =>
          cases action with
          | start worker => cases moved
          | cancel =>
              cases moved
              refine ⟨nofun, fun state equal => ?_⟩
              cases equal
              rw [List.append_nil]
              exact cancelled (holds.2 current rfl)
          | act done action =>
              rcases Option.map_eq_some_iff.mp moved with ⟨⟨after, _⟩, ran, equal⟩
              cases equal
              refine ⟨nofun, fun state equal => ?_⟩
              cases equal
              exact stepped reached (holds.2 current rfl) (step_inversion ran)
  exact strengthened.2 g rfl

/-- A worker that is not started has done nothing. -/
theorem eq_nil_of_reachable_none {trace : List RunEvent}
    (reachable : runModel.Reachable trace none) : trace = [] := by
  apply reachable.invariant (fun past state => state = none → past = [])
  · exact fun _ => rfl
  · intro past state action next events _ holds moved absent
    subst next
    cases state with
    | none =>
        cases action with
        | start worker =>
            simp only [runModel] at moved
            split at moved <;> cases moved
        | cancel => cases moved
        | act done action => cases moved
    | some current =>
        cases action with
        | start worker => cases moved
        | cancel => cases moved
        | act done action =>
            rcases Option.map_eq_some_iff.mp moved with ⟨_, _, equal⟩
            cases equal
  · rfl

/-! ## Frame facts -/

@[simp] theorem collectFailed_worker (g : Goroutine) :
    g.collectFailed.worker = g.worker := by
  simp only [collectFailed]
  split <;> rfl

@[simp] theorem collectFailed_cancelled (g : Goroutine) :
    g.collectFailed.cancelled = g.cancelled := by
  simp only [collectFailed]
  split <;> rfl

@[simp] theorem collectFailed_deferred (g : Goroutine) :
    g.collectFailed.deferred = g.deferred := by
  simp only [collectFailed]
  split <;> rfl

@[simp] theorem collectFailed_errorCount (g : Goroutine) :
    g.collectFailed.errorCount = g.errorCount + 1 := by
  simp only [collectFailed]
  split <;> rfl

/-- After an error the worker waits on a running timer or gives up. -/
theorem collectFailed_point (g : Goroutine) :
    (g.errorCount + 1 ≤ g.worker.maxRetries ∧
      g.collectFailed.point = .selecting ∧ g.collectFailed.timer.Live) ∨
    (¬g.errorCount + 1 ≤ g.worker.maxRetries ∧
      g.collectFailed.point = .returning) := by
  simp only [collectFailed]
  split
  case isTrue retries => exact .inl ⟨retries, rfl, Timer.live_reset _ _⟩
  case isFalse exhausted => exact .inr ⟨exhausted, rfl⟩

theorem Step.worker_eq {done : Bool} {g next : Goroutine} {action : RunAction}
    {events : List RunEvent} (step : g.Step done action next events) :
    next.worker = g.worker := by
  cases step <;> simp

theorem Step.cancelled_eq {done : Bool} {g next : Goroutine}
    {action : RunAction} {events : List RunEvent}
    (step : g.Step done action next events) : next.cancelled = g.cancelled := by
  cases step <;> simp

/-! ## Deferred calls and timers -/

/-- The calls that are deferred at each point. Past a `return` some of them
have already run. -/
def DeferredFits (g : Goroutine) : Prop :=
  match g.point with
  | .entry => g.deferred = []
  | .creating => g.deferred = [.sendStopped]
  | .selecting | .collecting | .emitting _ =>
      g.deferred = [.closeCollector, .sendStopped]
  | .returning => g.deferred <:+ [.closeCollector, .sendStopped]

structure WellFormed (g : Goroutine) : Prop where
  driver : g.worker.driver.isSome
  deferred : g.DeferredFits
  /-- A worker never waits for a tick that cannot come. -/
  timer : g.point = .selecting → g.timer.Live

private theorem Step.deferredFits {done : Bool} {g next : Goroutine}
    {action : RunAction} {events : List RunEvent}
    (step : g.Step done action next events) (fits : g.DeferredFits) :
    next.DeferredFits := by
  unfold DeferredFits at fits
  cases step with
  | timerFires timer fired => exact fits
  | collectFails collected err point =>
      rw [point] at fits
      rcases g.collectFailed_point with ⟨_, after, _⟩ | ⟨_, after⟩
      · simp [DeferredFits, after, fits]
      · simp [DeferredFits, after, fits]
  | close rest point deferred =>
      rw [point, deferred] at fits
      simp only [DeferredFits, point]
      exact (List.suffix_cons _ _).trans fits
  | sendStopped rest point deferred =>
      rw [point, deferred] at fits
      simp only [DeferredFits, point]
      exact (List.suffix_cons _ _).trans fits
  | callNewCollector point => rw [point] at fits; simp [DeferredFits, fits]
  | creationFails err point => rw [point] at fits; simp [DeferredFits, fits]
  | created point => rw [point] at fits; simp [DeferredFits, fits]
  | receiveTick timer point => rw [point] at fits; simp [DeferredFits, fits]
  | receiveDone point => rw [point] at fits; simp [DeferredFits, fits]
  | collected metrics point => rw [point] at fits; simp [DeferredFits, fits]
  | emit metric remaining point => rw [point] at fits; simp [DeferredFits, fits]
  | finishEmitting driver point => rw [point] at fits; simp [DeferredFits, fits]

private theorem Step.timer_live {done : Bool} {g next : Goroutine}
    {action : RunAction} {events : List RunEvent}
    (step : g.Step done action next events)
    (selecting : next.point = .selecting) : next.timer.Live := by
  cases step with
  | timerFires timer fired => exact Timer.live_of_fire fired
  | created point => exact Timer.live_newTimer 0
  | finishEmitting driver point => exact Timer.live_reset _ _
  | collectFails collected err point =>
      rcases g.collectFailed_point with ⟨_, _, running⟩ | ⟨_, after⟩
      · exact running
      · rw [after] at selecting
        cases selecting
  | close rest point => rw [point] at selecting; cases selecting
  | sendStopped rest point => rw [point] at selecting; cases selecting
  | callNewCollector => cases selecting
  | creationFails => cases selecting
  | receiveTick => cases selecting
  | receiveDone => cases selecting
  | collected => cases selecting
  | emit => cases selecting

theorem RanTo.wellFormed {trace : List RunEvent} {g : Goroutine}
    (ran : RanTo trace g) : g.WellFormed := by
  apply ran.invariant fun _ current => current.WellFormed
  · intro worker hasDriver
    exact ⟨hasDriver, rfl, fun point => by cases point⟩
  · intro past current formed
    exact ⟨formed.driver, formed.deferred, formed.timer⟩
  · intro past current done action next events _ formed step
    exact ⟨step.worker_eq ▸ formed.driver, step.deferredFits formed.deferred,
      step.timer_live⟩

/-! ## Finishing -/

@[simp] theorem cancel_finished (g : Goroutine) :
    g.cancel.Finished ↔ g.Finished :=
  Iff.rfl

@[simp] theorem not_finished_start (worker : CollectorWorker) :
    ¬(start worker).Finished := by
  simp [Finished, start]

/-- The stop message is sent by the last deferred call. -/
theorem rest_of_sendStopped {g : Goroutine} {rest : List Deferred}
    (fits : g.DeferredFits) (point : g.point = .returning)
    (deferred : g.deferred = .sendStopped :: rest) : rest = [] := by
  simp only [DeferredFits, point, deferred] at fits
  simp only [List.suffix_cons_iff, List.cons.injEq, reduceCtorEq, false_and,
    true_and, List.suffix_nil, false_or, or_false] at fits
  exact fits

/-- A worker cannot end without sending its stop message. -/
theorem Step.finished_iff {done : Bool} {g next : Goroutine}
    {action : RunAction} {events : List RunEvent}
    (step : g.Step done action next events) (fits : g.DeferredFits)
    (quiet : .stoppedSent ∉ events) : next.Finished ↔ g.Finished := by
  unfold DeferredFits at fits
  cases step with
  | timerFires timer fired => rfl
  | sendStopped rest point deferred => simp at quiet
  | close rest point deferred =>
      rw [point, deferred] at fits
      have nonempty : rest ≠ [] := by
        intro equal
        subst equal
        simp [List.suffix_cons_iff] at fits
      simp [Finished, point, deferred, nonempty]
  | collectFails collected err point =>
      rw [point] at fits
      simp [Finished, point, fits]
  | callNewCollector point => simp [Finished, point]
  | creationFails err point => rw [point] at fits; simp [Finished, point, fits]
  | created point => simp [Finished, point]
  | receiveTick timer point => simp [Finished, point]
  | receiveDone point => rw [point] at fits; simp [Finished, point, fits]
  | collected metrics point => simp [Finished, point]
  | emit metric remaining point => simp [Finished, point]
  | finishEmitting driver point => simp [Finished, point]

/-- All that can still happen to a finished worker is that its timer fires. -/
theorem Step.events_of_finished {done : Bool} {g next : Goroutine}
    {action : RunAction} {events : List RunEvent}
    (step : g.Step done action next events) (finished : g.Finished) :
    events = [] := by
  rcases finished with ⟨point, deferred⟩
  cases step <;> simp_all

end Goroutine

end RdsMetricCollector.Scheduler
