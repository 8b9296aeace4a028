import Mathlib.Tactic.Tauto
import RdsMetricCollector.Scheduler.Causes

/-! # Retries

When a worker gives up, and how long it waits before its next attempt, in terms
of the outcomes of its `Collect` calls.
-/

namespace RdsMetricCollector.Scheduler

open RdsMetricCollector.Execution
open RdsMetricCollector.Runtime

/-! ## Sequences of outcomes -/

/-- The number of failures at the end of a sequence of outcomes. -/
def trailingFailures (outcomes : List (Option String)) : Nat :=
  (outcomes.reverse.takeWhile Option.isSome).length

@[simp] theorem trailingFailures_failure (outcomes : List (Option String))
    (err : String) :
    trailingFailures (outcomes ++ [some err]) = trailingFailures outcomes + 1 := by
  simp [trailingFailures]

@[simp] theorem trailingFailures_success (outcomes : List (Option String)) :
    trailingFailures (outcomes ++ [none]) = 0 := by
  simp [trailingFailures]

/-- At no point were there more consecutive failures than `limit`. -/
def Within (limit : Int) (outcomes : List (Option String)) : Prop :=
  ∀ earlier, earlier <+: outcomes → trailingFailures earlier ≤ limit

/-- The last outcome completes one consecutive failure more than `limit`, and
none before it does. -/
structure Exceeds (limit : Int) (outcomes : List (Option String)) : Prop where
  completes : trailingFailures outcomes = limit + 1
  first : ∀ earlier, earlier <+: outcomes → earlier ≠ outcomes →
    trailingFailures earlier ≤ limit

variable {limit : Int} {outcomes : List (Option String)}

theorem within_nil (nonneg : 0 ≤ limit) : Within limit [] := by
  intro earlier isPrefix
  rw [List.prefix_nil.mp isPrefix]
  exact nonneg

private theorem Within.concat (within : Within limit outcomes) {outcome : Option String}
    (bounded : trailingFailures (outcomes ++ [outcome]) ≤ limit) :
    Within limit (outcomes ++ [outcome]) := by
  intro earlier isPrefix
  rcases List.prefix_concat_iff.mp isPrefix with rfl | shorter
  · exact bounded
  · exact within earlier shorter

private theorem Within.not_exceeds (within : Within limit outcomes) : ¬Exceeds limit outcomes := by
  intro exceeds
  have bounded := within outcomes List.prefix_rfl
  have completes := exceeds.completes
  omega

/-- The outcomes before the one that completes too many failures. -/
theorem Within.exceeds (within : Within limit outcomes) {outcome : Option String}
    (completes : trailingFailures (outcomes ++ [outcome]) = limit + 1) :
    Exceeds limit (outcomes ++ [outcome]) where
  completes := completes
  first := by
    intro earlier isPrefix different
    rcases List.prefix_concat_iff.mp isPrefix with rfl | shorter
    · exact absurd rfl different
    · exact within earlier shorter

/-! ## The error counter -/

/-- The number of consecutive failures that a worker may retry. -/
def CollectorWorker.retryLimit (worker : CollectorWorker) : Int :=
  worker.maxRetries.toInt

/-- The retries are a number that an `int` can count past. -/
structure CollectorWorker.CountsRetries (worker : CollectorWorker) : Prop where
  nonneg : 0 ≤ worker.maxRetries.toInt
  countable : worker.maxRetries.toInt < 2 ^ 63 - 1

namespace Goroutine

variable {g next : Goroutine} {done : Bool} {action : RunAction}
  {past events trace : List RunEvent}

/-- What is known of the outcomes so far at each point of `run`. -/
def RetryAt (g : Goroutine) (trace : List RunEvent) : Prop :=
  match g.point with
  | .entry | .creating =>
      collectResults trace = [] ∧ .newCollectorReturned none ∉ trace
  | .selecting | .collecting =>
      g.errorCount = Int64.ofNat (trailingFailures (collectResults trace)) ∧
        Within g.worker.retryLimit (collectResults trace)
  | .emitting _ =>
      (collectResults trace).getLast? = some none ∧
        Within g.worker.retryLimit (collectResults trace)
  | .returning =>
      .newCollectorReturned none ∉ trace ∨ .doneReceived ∈ trace ∨
        Exceeds g.worker.retryLimit (collectResults trace)

theorem errorCount_add_one (counts : g.worker.CountsRetries) {count : Nat}
    (errorCount : g.errorCount = Int64.ofNat count)
    (bounded : count ≤ g.worker.retryLimit) :
    (g.errorCount + 1).toInt = count + 1 := by
  have countable := counts.countable
  rw [CollectorWorker.retryLimit] at bounded
  have next : g.errorCount + 1 = Int64.ofNat (count + 1) := by
    rw [errorCount, Int64.ofNat_add]
    rfl
  rw [next]
  exact Int64.toInt_ofNat_of_lt (by omega)

/-- The worker compares the number of consecutive failures with its limit. -/
theorem retries_iff (counts : g.worker.CountsRetries) {count : Nat}
    (errorCount : g.errorCount = Int64.ofNat count)
    (bounded : count ≤ g.worker.retryLimit) :
    g.errorCount + 1 ≤ g.worker.maxRetries ↔
      (count : Int) + 1 ≤ g.worker.retryLimit := by
  rw [Int64.le_iff_toInt_le, errorCount_add_one counts errorCount bounded,
    CollectorWorker.retryLimit]

@[simp] theorem collectResults_concat (past : List RunEvent) (event : RunEvent) :
    collectResults (past ++ [event]) =
      collectResults past ++ event.collectResult?.toList := by
  rw [collectResults_append]
  cases event <;> rfl

/-- Events of a worker past its loop. -/
theorem RetryAt.append_returning (retry : g.RetryAt past) (point : g.point = .returning)
    (nextPoint : next.point = .returning) (sameWorker : next.worker = g.worker)
    {event : RunEvent} (noCollection : event.collectResult? = none)
    (noCreation : event ≠ .newCollectorReturned none) :
    next.RetryAt (past ++ [event]) := by
  simp only [RetryAt, point] at retry
  simp only [RetryAt, nextPoint, collectResults_concat, noCollection, Option.toList_none,
    List.append_nil, sameWorker, List.mem_append, List.mem_singleton, noCreation.symm,
    or_false]
  tauto

private theorem RetryAt.collectFails (retry : g.RetryAt past) (counts : g.worker.CountsRetries)
    (point : g.point = .collecting) {err : String}
    (results : collectResults (past ++ events) = collectResults past ++ [some err]) :
    g.collectFailed.RetryAt (past ++ events) := by
  simp only [RetryAt, point] at retry
  rcases retry with ⟨errorCount, within⟩
  have bounded := within _ List.prefix_rfl
  have compared := retries_iff counts errorCount bounded
  rcases g.collectFailed_point with ⟨retries, after, _⟩ | ⟨tooMany, after⟩
  · simp only [RetryAt, after, results, collectFailed_errorCount, collectFailed_worker,
      trailingFailures_failure]
    refine ⟨?_, within.concat ?_⟩
    · rw [errorCount, Int64.ofNat_add]
      rfl
    · rw [trailingFailures_failure]
      exact_mod_cast compared.mp retries
  · simp only [RetryAt, after, results, collectFailed_worker]
    refine .inr (.inr (within.exceeds ?_))
    rw [trailingFailures_failure]
    rw [compared] at tooMany
    push_cast
    omega

private theorem Step.retryAt (step : g.Step done action next events)
    (counts : g.worker.CountsRetries) (retry : g.RetryAt past) :
    next.RetryAt (past ++ events) := by
  have known := retry
  unfold RetryAt at retry
  cases step with
  | timerFires =>
      rw [List.append_nil]
      exact retry
  | callNewCollector point =>
      rw [point] at retry
      simpa [RetryAt] using retry
  | creationFails err point =>
      rw [point] at retry
      refine .inl ?_
      simpa using retry.2
  | created point =>
      rw [point] at retry
      have results : collectResults (past ++ [.newCollectorReturned none]) = [] := by
        simpa using retry.1
      simp only [RetryAt, results]
      exact ⟨rfl, within_nil counts.nonneg⟩
  | receiveTick timer point =>
      rw [point] at retry
      simpa [RetryAt] using retry
  | receiveDone point =>
      exact .inr (.inl (List.mem_append_right _ List.mem_cons_self))
  | collectFails collected err point =>
      exact known.collectFails counts point (collectResults_concat past _)
  | collected collected point =>
      rw [point] at retry
      have results : collectResults (past ++ [.collectReturned collected none]) =
          collectResults past ++ [none] :=
        collectResults_concat past _
      simp only [RetryAt, results]
      refine ⟨List.getLast?_concat, retry.2.concat ?_⟩
      rw [trailingFailures_success]
      exact counts.nonneg
  | emit metric remaining point =>
      rw [point] at retry
      simpa [RetryAt] using retry
  | finishEmitting driver point =>
      rw [point] at retry
      rcases List.getLast?_eq_some_iff.mp retry.1 with ⟨earlier, results⟩
      simp only [RetryAt, List.append_nil]
      refine ⟨?_, retry.2⟩
      rw [results, trailingFailures_success]
      rfl
  | close rest point => exact known.append_returning point point rfl rfl (by simp)
  | sendStopped rest point => exact known.append_returning point point rfl rfl (by simp)

theorem RanTo.retryAt (ran : RanTo trace g) (counts : g.worker.CountsRetries) :
    g.RetryAt trace := by
  have strengthened : g.worker.CountsRetries → g.RetryAt trace := by
    apply ran.invariant fun past current =>
      current.worker.CountsRetries → current.RetryAt past
    · intro worker _ _
      exact ⟨rfl, by simp⟩
    · intro past current holds counts
      exact holds counts
    · intro past current done action next events _ holds step counts
      rw [step.worker_eq] at counts
      exact step.retryAt counts (holds counts)
  exact strengthened counts

/-- The worker has given up exactly when its last attempt was the first to
complete too many failures. -/
theorem RanTo.gives_up_iff (ran : RanTo trace g) (counts : g.worker.CountsRetries)
    (created : .newCollectorReturned none ∈ trace)
    (uncancelled : .doneReceived ∉ trace) :
    (g.point = .returning ↔ Exceeds g.worker.retryLimit (collectResults trace)) ∧
      (g.point ≠ .returning ↔ Within g.worker.retryLimit (collectResults trace)) := by
  have retry := ran.retryAt counts
  have cases :
      (g.point = .returning ∧ Exceeds g.worker.retryLimit (collectResults trace)) ∨
      (g.point ≠ .returning ∧ Within g.worker.retryLimit (collectResults trace)) := by
    unfold RetryAt at retry
    cases point : g.point with
    | entry | creating =>
        rw [point] at retry
        exact absurd created retry.2
    | selecting | collecting | emitting =>
        rw [point] at retry
        exact .inr ⟨nofun, retry.2⟩
    | returning =>
        rw [point] at retry
        rcases retry with notCreated | done | exceeds
        · exact absurd created notCreated
        · exact absurd done uncancelled
        · exact .inl ⟨rfl, exceeds⟩
  rcases cases with ⟨returning, exceeds⟩ | ⟨looping, within⟩
  · have notWithin : ¬Within g.worker.retryLimit (collectResults trace) :=
      fun within => within.not_exceeds exceeds
    tauto
  · have notExceeds := within.not_exceeds
    tauto

/-! ## The delay before the next attempt -/

/-- How long a worker waits after the outcomes so far, in nanoseconds. -/
def nextDelay (worker : CollectorWorker) (outcomes : List (Option String)) : Int64 :=
  match outcomes.getLast? with
  | none => 0
  | some (some _) =>
      powFour (Int64.ofNat (trailingFailures outcomes)) * worker.retryInterval *
        millisecond
  | some none =>
      match worker.driver with
      | some driver => driver.getCollectInterval * second
      | none => 0

def TimerAt (g : Goroutine) (trace : List RunEvent) : Prop :=
  match g.point with
  | .selecting => g.timer.Awaits (nextDelay g.worker (collectResults trace))
  | .collecting | .emitting _ => g.timer = .stopped
  | _ => True

private theorem TimerAt.collectFails (timer : g.TimerAt past) (retry : g.RetryAt past)
    (point : g.point = .collecting) {err : String}
    (results : collectResults (past ++ events) = collectResults past ++ [some err]) :
    g.collectFailed.TimerAt (past ++ events) := by
  simp only [TimerAt, point] at timer
  simp only [RetryAt, point] at retry
  rcases g.collectFailed_point with ⟨retries, after, _⟩ | ⟨_, after⟩
  · have count : g.errorCount + 1 =
        Int64.ofNat (trailingFailures (collectResults past) + 1) := by
      rw [retry.1, Int64.ofNat_add]
      rfl
    simp only [TimerAt, after, results, nextDelay, List.getLast?_concat,
      collectFailed_worker, trailingFailures_failure, ← count]
    rw [collectFailed, if_pos retries, timer]
    exact Timer.awaits_newTimer _
  · simp only [TimerAt, after]

private theorem Step.timerAt (step : g.Step done action next events) (retry : g.RetryAt past)
    (timer : g.TimerAt past) : next.TimerAt (past ++ events) := by
  have known := timer
  unfold TimerAt at timer
  cases step with
  | timerFires fired fires =>
      rw [List.append_nil]
      cases point : g.point with
      | selecting =>
          rw [point] at timer
          simp only [TimerAt]
          exact timer.fire fires
      | collecting | emitting =>
          rw [point] at timer
          simp only at timer
          rw [timer] at fires
          cases fires
      | entry | creating | returning => simp only [TimerAt]
  | created point =>
      simp only [RetryAt, point] at retry
      simp only [TimerAt, collectResults_concat, retry.1]
      exact Timer.awaits_newTimer 0
  | receiveTick received point receives =>
      rw [point] at timer
      exact timer.receive receives
  | collectFails collected err point =>
      exact known.collectFails retry point (collectResults_concat past _)
  | collected collected point =>
      rw [point] at timer
      exact timer
  | emit metric remaining point =>
      rw [point] at timer
      exact timer
  | finishEmitting driver point hasDriver =>
      simp only [RetryAt, point] at retry
      rw [point] at timer
      simp only [TimerAt, List.append_nil, nextDelay, retry.1, hasDriver, timer]
      exact Timer.awaits_newTimer _
  | close rest point => simp only [TimerAt, point]
  | sendStopped rest point => simp only [TimerAt, point]
  | callNewCollector | creationFails | receiveDone => trivial

theorem RanTo.timerAt (ran : RanTo trace g) (counts : g.worker.CountsRetries) :
    g.TimerAt trace := by
  have strengthened : g.worker.CountsRetries → g.TimerAt trace := by
    apply ran.invariant fun past current =>
      current.worker.CountsRetries → current.TimerAt past
    · intro worker _ _
      trivial
    · intro past current holds counts
      exact holds counts
    · intro past current done action next events reached holds step counts
      rw [step.worker_eq] at counts
      exact step.timerAt (reached.retryAt counts) (holds counts)
  exact strengthened counts

theorem collectFailed_armed (g : Goroutine)
    (point : g.collectFailed.point = .selecting) :
    g.collectFailed.timer.armed.isSome := by
  simp only [collectFailed] at point ⊢
  split
  · rfl
  · rw [if_neg ‹_›] at point
    cases point

/-- A worker comes to its `select` with a timer that it has just started. -/
theorem Step.armed (step : g.Step done action next events)
    (point : g.point ≠ .selecting) (nextPoint : next.point = .selecting) :
    next.timer.armed.isSome := by
  cases step with
  | timerFires => exact absurd nextPoint point
  | created => rfl
  | collectFails => exact g.collectFailed_armed nextPoint
  | finishEmitting => rfl
  | callNewCollector | creationFails | receiveDone | receiveTick | collected | emit =>
      cases nextPoint
  | close rest atReturn | sendStopped rest atReturn => exact absurd nextPoint point

/-- Each return to the `select` starts the timer with the delay that belongs to
the outcomes so far. -/
theorem Step.newTimer (step : g.Step done action next events)
    (ran : RanTo past g) (counts : g.worker.CountsRetries)
    (point : g.point ≠ .selecting) (nextPoint : next.point = .selecting) :
    next.timer = .newTimer (nextDelay g.worker (collectResults (past ++ events))) := by
  have timer := step.timerAt (ran.retryAt counts) (ran.timerAt counts)
  simp only [TimerAt, nextPoint, step.worker_eq] at timer
  exact timer.eq_newTimer (step.armed point nextPoint)

end Goroutine

end RdsMetricCollector.Scheduler
