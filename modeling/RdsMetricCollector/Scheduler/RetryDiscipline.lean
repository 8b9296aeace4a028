import Mathlib.Tactic.Linarith
import Mathlib.Tactic.Positivity
import RdsMetricCollector.Foundation.Integers
import RdsMetricCollector.Scheduler.Retries

/-! # The retry discipline

The delays of a worker as integers, the runs that realise given outcomes, and
the contract of the retry loop.
-/

namespace RdsMetricCollector.Scheduler

open RdsMetricCollector.Collector
open RdsMetricCollector.Execution
open RdsMetricCollector.Integers
open RdsMetricCollector.Runtime

/-! ## Delays as integers -/

/-- The nanoseconds are a `Duration`. -/
def IsDuration (nanoseconds : Int) : Prop :=
  -2 ^ 63 ≤ nanoseconds ∧ nanoseconds < 2 ^ 63

/-- The retries and the interval are in the range that the configuration allows. -/
structure CollectorWorker.RetriesConfigured (worker : CollectorWorker) : Prop where
  retryInterval_nonneg : 0 ≤ worker.retryInterval.toInt
  retryInterval_le : worker.retryInterval.toInt ≤ 10000
  maxRetries_nonneg : 0 ≤ worker.maxRetries.toInt
  maxRetries_le : worker.maxRetries.toInt ≤ 10

/-- The other durations of a worker are in the range that the configuration
allows. -/
structure CollectorWorker.DurationsConfigured (worker : CollectorWorker) : Prop where
  timeout_nonneg : 0 ≤ worker.timeout.toInt
  timeout_le : worker.timeout.toInt ≤ 15000
  interval_nonneg : ∀ driver, worker.driver = some driver →
    0 ≤ driver.getCollectInterval.toInt
  interval_le : ∀ driver, worker.driver = some driver →
    driver.getCollectInterval.toInt ≤ 3600

variable {worker : CollectorWorker} {outcomes : List (Option String)}

private theorem CollectorWorker.DurationsConfigured.toInt_timeout
    (configured : worker.DurationsConfigured) :
    (worker.timeout * millisecond).toInt = worker.timeout.toInt * 10 ^ 6 := by
  apply toInt_mul_of_le configured.timeout_nonneg configured.timeout_le
  · decide
  · decide

private theorem CollectorWorker.DurationsConfigured.toInt_interval
    (configured : worker.DurationsConfigured) {driver : MetricsCollectorDriver}
    (hasDriver : worker.driver = some driver) :
    (driver.getCollectInterval * second).toInt =
      driver.getCollectInterval.toInt * 10 ^ 9 := by
  apply toInt_mul_of_le (configured.interval_nonneg driver hasDriver)
    (configured.interval_le driver hasDriver)
  · decide
  · decide

theorem CollectorWorker.RetriesConfigured.countsRetries (configured : worker.RetriesConfigured) :
    worker.CountsRetries where
  nonneg := configured.maxRetries_nonneg
  countable := lt_of_le_of_lt configured.maxRetries_le (by norm_num)

/-- Ten retries of ten seconds are far from the end of the range. -/
theorem CollectorWorker.RetriesConfigured.isDuration (configured : worker.RetriesConfigured)
    {count : Nat} (bounded : count ≤ 10) :
    IsDuration (4 ^ count * worker.retryInterval.toInt * 10 ^ 6) := by
  have nonneg := configured.retryInterval_nonneg
  have power : (4 : Int) ^ count ≤ 4 ^ 10 := pow_le_pow_right₀ (by norm_num) bounded
  have waitTime : 4 ^ count * worker.retryInterval.toInt ≤ 4 ^ 10 * 10000 :=
    mul_le_mul power configured.retryInterval_le nonneg (by norm_num)
  have waitTime_nonneg : 0 ≤ 4 ^ count * worker.retryInterval.toInt := by positivity
  constructor
  · omega
  · omega

namespace Goroutine

variable {g next : Goroutine} {done : Bool} {action : RunAction}
  {past events trace : List RunEvent}

private theorem toInt_powFour {count : Nat} (small : count < 32) :
    (powFour (Int64.ofNat count)).toInt = 4 ^ count := by
  have toInt : (Int64.ofNat count).toInt = count := Int64.toInt_ofNat_of_lt (by omega)
  have zero : (0 : Int64).toInt = 0 := rfl
  have bound : (32 : Int64).toInt = 32 := rfl
  have power : (4 : Int) ^ count ≤ 4 ^ 31 := pow_le_pow_right₀ (by norm_num) (by omega)
  have positive : (0 : Int) < 4 ^ count := by positivity
  rw [powFour, if_neg, if_pos, toInt, Int.toNat_natCast, Int64.toInt_ofInt_of_le]
  · omega
  · norm_num at power
    omega
  · rw [Int64.lt_iff_toInt_lt, toInt, bound]
    omega
  · rw [Int64.lt_iff_toInt_lt, toInt, zero]
    omega

/-- A power of four with a non-zero multiple that fits into 64 bits is small. -/
theorem count_lt_of_fits {count : Nat} {factor : Int} (nonzero : factor ≠ 0)
    (low : -2 ^ 63 ≤ 4 ^ count * factor) (high : 4 ^ count * factor < 2 ^ 63) :
    count < 32 := by
  by_contra large
  have power : (4 : Int) ^ 32 ≤ 4 ^ count := pow_le_pow_right₀ (by norm_num) (by omega)
  rcases lt_or_gt_of_ne nonzero with negative | positive
  · nlinarith
  · nlinarith

/-- The delay after `count` failures is exact whenever it is a `Duration`. -/
theorem toInt_retryDelay {count : Nat} {retryInterval : Int64}
    (fits : IsDuration (4 ^ count * retryInterval.toInt * 10 ^ 6)) :
    (powFour (Int64.ofNat count) * retryInterval).toInt =
        4 ^ count * retryInterval.toInt ∧
      (powFour (Int64.ofNat count) * retryInterval * millisecond).toInt =
        4 ^ count * retryInterval.toInt * 10 ^ 6 := by
  rcases fits with ⟨low, high⟩
  have million : millisecond.toInt = 10 ^ 6 := rfl
  have waitTime : (powFour (Int64.ofNat count) * retryInterval).toInt =
      4 ^ count * retryInterval.toInt := by
    by_cases zero : retryInterval.toInt = 0
    · have none : retryInterval = 0 := Int64.toInt_inj.mp zero
      rw [zero, none, Int64.mul_zero, mul_zero]
      rfl
    · have small : count < 32 := count_lt_of_fits zero (by omega) (by omega)
      have power := toInt_powFour small
      have product := @toInt_mul_eq (powFour (Int64.ofNat count)) retryInterval
      rw [power] at product
      exact product (by omega) (by omega)
  refine ⟨waitTime, ?_⟩
  have product := @toInt_mul_eq (powFour (Int64.ofNat count) * retryInterval) millisecond
  rw [waitTime, million] at product
  exact product low high

theorem toInt_nextDelay_failure {err : String}
    (fits : IsDuration
      (4 ^ (trailingFailures outcomes + 1) * worker.retryInterval.toInt * 10 ^ 6)) :
    (nextDelay worker (outcomes ++ [some err])).toInt =
      4 ^ (trailingFailures outcomes + 1) * worker.retryInterval.toInt * 10 ^ 6 := by
  simp only [nextDelay, List.getLast?_concat, trailingFailures_failure]
  exact (toInt_retryDelay fits).2

theorem toInt_nextDelay_success {driver : MetricsCollectorDriver}
    (hasDriver : worker.driver = some driver)
    (fits : IsDuration (driver.getCollectInterval.toInt * 10 ^ 9)) :
    (nextDelay worker (outcomes ++ [none])).toInt =
      driver.getCollectInterval.toInt * 10 ^ 9 := by
  simp only [nextDelay, List.getLast?_concat, hasDriver]
  exact toInt_mul_eq fits.1 fits.2

/-- The arithmetic of the error branch, over the integers and not negative. -/
structure FailsExactly (g : Goroutine) : Prop where
  counts : (g.errorCount + 1).toInt = g.errorCount.toInt + 1
  errorCount_nonneg : 0 ≤ g.errorCount.toInt
  power : g.errorCount + 1 ≤ g.worker.maxRetries →
    (powFour (g.errorCount + 1)).toInt = 4 ^ (g.errorCount.toInt.toNat + 1)
  waitTime : g.errorCount + 1 ≤ g.worker.maxRetries →
    (powFour (g.errorCount + 1) * g.worker.retryInterval).toInt =
      4 ^ (g.errorCount.toInt.toNat + 1) * g.worker.retryInterval.toInt
  delay : g.errorCount + 1 ≤ g.worker.maxRetries →
    (powFour (g.errorCount + 1) * g.worker.retryInterval * millisecond).toInt =
      4 ^ (g.errorCount.toInt.toNat + 1) * g.worker.retryInterval.toInt * 10 ^ 6
  delay_nonneg : g.errorCount + 1 ≤ g.worker.maxRetries →
    0 ≤ (powFour (g.errorCount + 1) * g.worker.retryInterval).toInt ∧
      0 ≤ (powFour (g.errorCount + 1) * g.worker.retryInterval * millisecond).toInt

private theorem RanTo.failsExactly (ran : RanTo trace g) (point : g.point = .collecting)
    (configured : g.worker.RetriesConfigured) : g.FailsExactly := by
  have counts := configured.countsRetries
  have maxRetries := configured.maxRetries_le
  have retry := ran.retryAt counts
  simp only [RetryAt, point] at retry
  rcases retry with ⟨errorCount, within⟩
  have bounded := within _ List.prefix_rfl
  have limit : g.worker.retryLimit = g.worker.maxRetries.toInt := rfl
  have exact : g.errorCount.toInt = trailingFailures (collectResults trace) := by
    rw [errorCount]
    exact Int64.toInt_ofNat_of_lt (by omega)
  have next : g.errorCount + 1 =
      Int64.ofNat (trailingFailures (collectResults trace) + 1) := by
    rw [errorCount, Int64.ofNat_add]
    rfl
  have toNat : g.errorCount.toInt.toNat = trailingFailures (collectResults trace) := by
    rw [exact, Int.toNat_natCast]
  have small : g.errorCount + 1 ≤ g.worker.maxRetries →
      trailingFailures (collectResults trace) + 1 ≤ 10 := by
    intro retries
    have compared := (retries_iff counts errorCount bounded).mp retries
    omega
  have nonneg := configured.retryInterval_nonneg
  have exactDelay := fun retries =>
    toInt_retryDelay (configured.isDuration (small retries))
  rw [← next] at exactDelay
  refine ⟨?_, ?_, ?_, ?_, ?_, ?_⟩
  · rw [exact]
    exact errorCount_add_one counts errorCount bounded
  · omega
  · intro retries
    have few := small retries
    rw [next, toNat]
    exact toInt_powFour (by omega)
  · intro retries
    rw [toNat]
    exact (exactDelay retries).1
  · intro retries
    rw [toNat]
    exact (exactDelay retries).2
  · intro retries
    rw [(exactDelay retries).1, (exactDelay retries).2]
    constructor <;> positivity

/-! ## Runs for given outcomes -/

private theorem RanTo.step (ran : RanTo past g) (step : g.Step done action next events) :
    RanTo (past ++ events) next := by
  have moved : runModel.step (some g) (.act done action) = some (some next, events) := by
    simp [runModel, step.step_eq]
  exact Model.Reachable.step ran moved

private theorem ranTo_start {worker : CollectorWorker} (hasDriver : worker.driver.isSome) :
    RanTo [] (.start worker) := by
  have started : runModel.step none (.start worker) = some (some (.start worker), []) :=
    if_pos hasDriver
  exact Model.Reachable.step Model.Reachable.initial started

/-- A worker in its loop whose context was never cancelled, with the outcomes of
its attempts so far. -/
structure Attempted (worker : CollectorWorker) (outcomes : List (Option String))
    (trace : List RunEvent) (g : Goroutine) : Prop where
  ran : RanTo trace g
  worker : g.worker = worker
  cancelled : g.cancelled = false
  created : .newCollectorReturned none ∈ trace
  uncancelled : .doneReceived ∉ trace
  outcomes : collectResults trace = outcomes

private theorem Attempted.step (attempted : Attempted worker outcomes trace g)
    (step : g.Step false action next events) :
    Attempted worker (outcomes ++ collectResults events) (trace ++ events) next where
  ran := attempted.ran.step step
  worker := step.worker_eq.trans attempted.worker
  cancelled := step.cancelled_eq.trans attempted.cancelled
  created := List.mem_append_left _ attempted.created
  uncancelled := by
    rw [List.mem_append, not_or]
    refine ⟨attempted.uncancelled, ?_⟩
    cases step <;> simp at *
  outcomes := by
    rw [collectResults_append, attempted.outcomes]

private theorem exists_attempted (hasDriver : worker.driver.isSome) :
    ∃ trace g, Attempted worker [] trace g ∧ g.point = .selecting ∧
      g.timer.armed.isSome := by
  have calls : (start worker).Step false .callNewCollector _ _ :=
    .callNewCollector rfl hasDriver
  have creates : ({ start worker with
      point := .creating, deferred := [.sendStopped] } : Goroutine).Step false
        (.newCollectorReturns none) _ _ := .created rfl
  have created := ((ranTo_start hasDriver).step calls).step creates
  exact ⟨_, _, ⟨created, rfl, rfl, by simp, by simp, rfl⟩, rfl, rfl⟩

private theorem Attempted.receiveTick (attempted : Attempted worker outcomes trace g)
    (point : g.point = .selecting) (tick : g.timer.tick = true) :
    ∃ later next, Attempted worker outcomes later next ∧ next.point = .collecting ∧
      next.errorCount = g.errorCount := by
  have receives : g.Step false .receiveTick _ _ := .receiveTick _ point (if_pos tick)
  have received := attempted.step receives
  rw [show collectResults [.collectCalled _] = [] from rfl, List.append_nil] at received
  exact ⟨_, _, received, rfl, rfl⟩

/-- A waiting worker comes to its next attempt. -/
theorem Attempted.exists_collecting (attempted : Attempted worker outcomes trace g)
    (point : g.point = .selecting) :
    ∃ later next, Attempted worker outcomes later next ∧ next.point = .collecting ∧
      next.errorCount = g.errorCount := by
  rcases attempted.ran.wellFormed.timer point with armed | tick
  · rcases Option.isSome_iff_exists.mp armed with ⟨delay, running⟩
    have fires : g.Step false .timerFires _ _ :=
      .timerFires { armed := none, tick := true } (by rw [Timer.fire, running])
    have fired := attempted.step fires
    rw [show collectResults [] = [] from rfl, List.append_nil] at fired
    exact fired.receiveTick point rfl
  · exact attempted.receiveTick point tick

/-- Every outcome of the next attempt is possible; after it the worker waits
again or has given up. -/
theorem Attempted.exists_outcome (attempted : Attempted worker outcomes trace g)
    (point : g.point = .selecting) (outcome : Option String) :
    ∃ later next, Attempted worker (outcomes ++ [outcome]) later next ∧
      (next.point = .selecting ∧ next.timer.armed.isSome ∨
        next.point = .returning ∧ ¬g.errorCount + 1 ≤ worker.maxRetries) := by
  rcases attempted.exists_collecting point with
    ⟨later, current, collecting, atCollect, sameCount⟩
  cases outcome with
  | some err =>
      have fails : current.Step false (.collectReturns [] (some err)) _ _ :=
        .collectFails [] err atCollect
      refine ⟨_, _, collecting.step fails, ?_⟩
      rcases current.collectFailed_point with ⟨_, after, _⟩ | ⟨tooMany, after⟩
      · exact .inl ⟨after, current.collectFailed_armed after⟩
      · rw [sameCount, collecting.worker] at tooMany
        exact .inr ⟨after, tooMany⟩
  | none =>
      have succeeds : current.Step false (.collectReturns [] none) _ _ :=
        .collected [] atCollect
      have succeeded := collecting.step succeeds
      rcases Option.isSome_iff_exists.mp succeeded.ran.wellFormed.driver with
        ⟨driver, hasDriver⟩
      have finishes : ({ current with point := .emitting [] } : Goroutine).Step false
          .finishEmitting _ _ := .finishEmitting driver rfl hasDriver
      have finished := succeeded.step finishes
      rw [show collectResults [] = [] from rfl, List.append_nil] at finished
      exact ⟨_, _, finished, .inl ⟨rfl, rfl⟩⟩

private theorem Attempted.looping (attempted : Attempted worker outcomes trace g)
    (counts : worker.CountsRetries) (within : Within worker.retryLimit outcomes) :
    g.point ≠ .returning := by
  rw [(attempted.ran.gives_up_iff (attempted.worker ▸ counts) attempted.created
    attempted.uncancelled).2, attempted.worker, attempted.outcomes]
  exact within

/-- Every sequence of outcomes in which the worker has not given up before the
last one belongs to a run. -/
theorem exists_outcomes (hasDriver : worker.driver.isSome)
    (counts : worker.CountsRetries)
    (first : ∀ earlier, earlier <+: outcomes → earlier ≠ outcomes →
      trailingFailures earlier ≤ worker.retryLimit) :
    ∃ trace g, Attempted worker outcomes trace g ∧
      (g.point = .selecting ∧ g.timer.armed.isSome ∨ g.point = .returning) := by
  induction outcomes using List.reverseRecOn with
  | nil =>
      rcases exists_attempted hasDriver with ⟨trace, g, attempted, point, armed⟩
      exact ⟨trace, g, attempted, .inl ⟨point, armed⟩⟩
  | append_singleton outcomes outcome induction =>
      have within : Within worker.retryLimit outcomes := by
        intro earlier isPrefix
        apply first earlier (isPrefix.trans (List.prefix_append _ _))
        intro equal
        rw [equal] at isPrefix
        simpa using isPrefix.length_le
      rcases induction fun earlier isPrefix _ => within earlier isPrefix with
        ⟨trace, g, attempted, stands⟩
      have looping := attempted.looping counts within
      have selecting : g.point = .selecting := by tauto
      rcases attempted.exists_outcome selecting outcome with
        ⟨later, next, continued, after⟩
      exact ⟨later, next, continued, after.imp_right And.left⟩

/-- Every sequence of outcomes with few consecutive failures leaves some worker
with a timer that it has just started. -/
theorem exists_waiting (hasDriver : worker.driver.isSome)
    (counts : worker.CountsRetries) (within : Within worker.retryLimit outcomes) :
    ∃ trace g, Attempted worker outcomes trace g ∧
      g.timer = .newTimer (nextDelay worker outcomes) := by
  rcases exists_outcomes hasDriver counts fun earlier isPrefix _ =>
    within earlier isPrefix with ⟨trace, g, attempted, stands⟩
  have looping := attempted.looping counts within
  rcases stands with ⟨selecting, armed⟩ | returning
  · have timer := attempted.ran.timerAt (attempted.worker ▸ counts)
    simp only [TimerAt, selecting, attempted.worker, attempted.outcomes] at timer
    exact ⟨trace, g, attempted, timer.eq_newTimer armed⟩
  · exact absurd returning looping

end Goroutine

/-! ## The contract -/

open Goroutine

/-- Along every run of a worker whose context is not cancelled: it gives up
exactly at the first outcome that completes one consecutive failure more than it
may retry; whenever it comes back to its `select` it has started the timer with
the delay that belongs to the outcomes so far, and waits for no other tick; that
delay is `4 ^ k` retry intervals after the `k`-th consecutive failure and the
interval of the driver after a success, as long as these are a `Duration`; and in
the range of the configuration no computation overflows or becomes negative.
Every sequence of outcomes up to the point of giving up occurs. -/
theorem retry_discipline {trace : List RunEvent} {g : Goroutine}
    (ran : RanTo trace g) (counts : g.worker.CountsRetries)
    (created : .newCollectorReturned none ∈ trace)
    (uncancelled : .doneReceived ∉ trace) :
    ((g.point = .returning ↔ Exceeds g.worker.retryLimit (collectResults trace)) ∧
      (g.point ≠ .returning ↔ Within g.worker.retryLimit (collectResults trace))) ∧
    (∀ outcomes, (∀ earlier, earlier <+: outcomes → earlier ≠ outcomes →
        trailingFailures earlier ≤ g.worker.retryLimit) →
      ∃ later next, Attempted g.worker outcomes later next ∧
        (next.point = .selecting ∨ next.point = .returning)) ∧
    ((∀ done action next events, g.Step done action next events →
        g.point ≠ .selecting → next.point = .selecting →
        next.timer =
          .newTimer (nextDelay g.worker (collectResults (trace ++ events)))) ∧
      (g.point = .selecting →
        g.timer.Awaits (nextDelay g.worker (collectResults trace)))) ∧
    (∀ outcomes err,
      IsDuration (4 ^ (trailingFailures outcomes + 1) *
        g.worker.retryInterval.toInt * 10 ^ 6) →
      (nextDelay g.worker (outcomes ++ [some err])).toInt =
        4 ^ (trailingFailures outcomes + 1) *
          g.worker.retryInterval.toInt * 10 ^ 6) ∧
    (∀ outcomes driver, g.worker.driver = some driver →
      IsDuration (driver.getCollectInterval.toInt * 10 ^ 9) →
      (nextDelay g.worker (outcomes ++ [none])).toInt =
        driver.getCollectInterval.toInt * 10 ^ 9) ∧
    (g.worker.RetriesConfigured → g.point = .collecting → g.FailsExactly) ∧
    (g.worker.DurationsConfigured →
      (g.worker.timeout * millisecond).toInt = g.worker.timeout.toInt * 10 ^ 6 ∧
      ∀ driver, g.worker.driver = some driver →
        (driver.getCollectInterval * second).toInt =
          driver.getCollectInterval.toInt * 10 ^ 9) := by
  refine ⟨ran.gives_up_iff counts created uncancelled, ?_, ⟨?_, ?_⟩, ?_, ?_, ?_, ?_⟩
  · intro outcomes first
    rcases exists_outcomes ran.wellFormed.driver counts first with
      ⟨later, next, attempted, stands⟩
    exact ⟨later, next, attempted, stands.imp_left And.left⟩
  · intro done action next events step point nextPoint
    exact step.newTimer ran counts point nextPoint
  · intro point
    have timer := ran.timerAt counts
    simpa only [TimerAt, point] using timer
  · intro outcomes err fits
    exact toInt_nextDelay_failure fits
  · intro outcomes driver hasDriver fits
    exact toInt_nextDelay_success hasDriver fits
  · intro configured point
    exact ran.failsExactly point configured
  · intro configured
    exact ⟨configured.toInt_timeout, fun driver => configured.toInt_interval⟩

/-- A worker of the sample driver that may retry twice. -/
def sampleWorker : CollectorWorker where
  id := sampleID
  instanceInfo := sampleInstance
  driver := some sampleDriver
  retryInterval := 100
  maxRetries := 2
  timeout := 1000

/-- The actions of one attempt of a worker that is not cancelled. -/
def attempt (err : Option String) : List LocalAction :=
  [.act false .timerFires, .act false .receiveTick,
    .act false (.collectReturns [] err)]

/-- A failure, a success and three failures. -/
def sampleAttempts : List LocalAction :=
  [.start sampleWorker, .act false .callNewCollector,
    .act false (.newCollectorReturns none)] ++
    attempt (some "timeout") ++ attempt none ++ [.act false .finishEmitting] ++
    attempt (some "timeout") ++ attempt (some "timeout") ++ attempt (some "timeout")

theorem retry_discipline_sample :
    ∃ trace g, runModel.run none sampleAttempts = some (some g, trace) ∧
      g.point = .returning ∧ Exceeds 2 (collectResults trace) := by
  refine ⟨_, _, rfl, rfl, ?_⟩
  have ran : RanTo _ _ := runModel.reachable_of_run sampleAttempts rfl
  exact (retry_discipline ran ⟨by decide, by decide⟩ (by decide) (by decide)).1.1.mp rfl

/-! ## Beyond the range of an integer -/

private theorem trailingFailures_replicate (count : Nat) (err : String) :
    trailingFailures (List.replicate count (some err)) = count := by
  induction count with
  | zero => rfl
  | succ count induction =>
      rw [List.replicate_succ', trailingFailures_failure, induction]

private theorem within_replicate {limit : Int} {count : Nat} (bounded : count ≤ limit)
    (err : String) : Within limit (List.replicate count (some err)) := by
  intro earlier isPrefix
  rcases List.prefix_replicate_iff.mp isPrefix with ⟨shorter, equal⟩
  rw [equal, trailingFailures_replicate]
  omega

private theorem exceeds_replicate {limit : Int} {count : Nat} (counted : count = limit)
    (err : String) : Exceeds limit (List.replicate (count + 1) (some err)) := by
  rw [List.replicate_succ']
  apply (within_replicate (le_of_eq counted) err).exceeds
  rw [trailingFailures_failure, trailingFailures_replicate]
  omega

/-- A worker that may retry as often as an `int` can count never gives up. -/
theorem exists_failures (hasDriver : worker.driver.isSome)
    (largest : worker.maxRetries = Int64.maxValue) (count : Nat) (err : String) :
    ∃ trace g, Attempted worker (List.replicate count (some err)) trace g ∧
      g.point = .selecting := by
  induction count with
  | zero =>
      rcases exists_attempted hasDriver with ⟨trace, g, attempted, point, _⟩
      exact ⟨trace, g, attempted, point⟩
  | succ count induction =>
      rcases induction with ⟨trace, g, attempted, point⟩
      rcases attempted.exists_outcome point (some err) with
        ⟨later, next, continued, ⟨selecting, _⟩ | ⟨_, tooMany⟩⟩
      · rw [List.replicate_succ']
        exact ⟨later, next, continued, selecting⟩
      · rw [largest] at tooMany
        exact absurd (Int64.le_maxValue _) tooMany

/-- A worker in the range of the configuration whose other durations are not. -/
def longWorker : CollectorWorker :=
  { sampleWorker with
    driver := some { sampleDriver with getCollectInterval := 10000000000 }
    timeout := 10000000000000 }

/-- Outside of these ranges the arithmetic overflows. A worker whose limit is the
largest `int` goes on after one failure more; the delay after 22 failures is not
`4 ^ 22` retry intervals; and with few retries at a short interval the timeout of
a `Collect` call and the delay after a success can still be negative. -/
theorem retry_arithmetic_overflows :
    (∃ worker outcomes trace g, 0 ≤ worker.maxRetries.toInt ∧
      Attempted worker outcomes trace g ∧ Exceeds worker.retryLimit outcomes ∧
      g.point = .selecting) ∧
    (∃ worker outcomes trace g delay, worker.CountsRetries ∧
      Attempted worker outcomes trace g ∧ trailingFailures outcomes = 22 ∧
      Within worker.retryLimit outcomes ∧ g.timer = .newTimer delay ∧
      delay.toInt ≠ 4 ^ 22 * worker.retryInterval.toInt * 10 ^ 6) ∧
    (longWorker.RetriesConfigured ∧ ∃ trace g timeout delay,
      runModel.run none ([.start longWorker, .act false .callNewCollector,
        .act false (.newCollectorReturns none)] ++ attempt none ++
        [.act false .finishEmitting]) = some (some g, trace) ∧
      .collectCalled timeout ∈ trace ∧ timeout.toInt < 0 ∧
      g.timer = .newTimer delay ∧ delay.toInt < 0) := by
  refine ⟨?_, ?_, ⟨by decide, by decide, by decide, by decide⟩, _, _, _, _, rfl,
    List.mem_cons_of_mem _ (List.mem_cons_of_mem _ List.mem_cons_self), by decide, rfl,
    by decide⟩
  · rcases exists_failures
      (show ({ sampleWorker with maxRetries := Int64.maxValue }).driver.isSome from rfl)
      rfl (2 ^ 63 - 1 + 1) "timeout" with ⟨trace, g, attempted, point⟩
    exact ⟨_, _, trace, g, by decide, attempted, exceeds_replicate rfl _, point⟩
  · have counts : ({ sampleWorker with
        retryInterval := 1000, maxRetries := 30 }).CountsRetries :=
      ⟨by decide, by decide⟩
    have few := within_replicate (show ((22 : Nat) : Int) ≤ 30 by decide) "timeout"
    rcases exists_waiting rfl counts few with ⟨trace, g, attempted, timer⟩
    exact ⟨_, _, trace, g, _, counts, attempted, trailingFailures_replicate _ _, few,
      timer, by decide⟩

end RdsMetricCollector.Scheduler
