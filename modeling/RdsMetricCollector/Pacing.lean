import RdsMetricCollector.Deployment
import RdsMetricCollector.LoadConfig
import RdsMetricCollector.Scheduler.Options
import RdsMetricCollector.Scheduler.Provenance
import RdsMetricCollector.Scheduler.RetryDiscipline

/-! # The pace of the collector

The timers of the scheduler that `main` makes from a loaded configuration. The
first refresh and the first collection of a worker come at once; between later
ones there is a second at least and an hour at most.
-/

namespace RdsMetricCollector.Deployment

open RdsMetricCollector.Collector
open RdsMetricCollector.Configuration
open RdsMetricCollector.Execution
open RdsMetricCollector.Integers
open RdsMetricCollector.Runtime
open RdsMetricCollector.Scheduler

/-- Between a second and an hour, in nanoseconds. -/
def Paced (delay : Int64) : Prop :=
  10 ^ 9 ≤ delay.toInt ∧ delay.toInt ≤ 3600 * 10 ^ 9

/-! ## Loaded configurations -/

/-- The settings that a loaded configuration can have. -/
structure Pacing (cfg : SchedulerConfig) : Prop where
  refresh : 1 ≤ cfg.instanceRefreshInterval.toInt ∧ cfg.instanceRefreshInterval.toInt ≤ 3600
  sql : 1 ≤ cfg.sqlMetricCollectorInterval.toInt ∧
    cfg.sqlMetricCollectorInterval.toInt ≤ 3600
  cloudwatch : 1 ≤ cfg.cwMetricCollectorInterval.toInt ∧
    cfg.cwMetricCollectorInterval.toInt ≤ 3600
  options : NoOptions cfg

private theorem interval_of_othersValid {c : Config} (others : c.OthersValid) (path : String)
    {least value : Int64} (first : least = 0 ∨ least = 1)
    (member : intervalField path least value ∈ c.fields) :
    1 ≤ value.toInt ∧ value.toInt ≤ 3600 := by
  have tags := others _ member trivial
  have holds : value ≠ 0 ∧ least ≤ value ∧ value ≤ 3600 := by
    simpa [intervalField, Tag.Holds] using tags
  have range := (interval_iff first).mp holds
  rw [Int64.le_iff_toInt_le, Int64.le_iff_toInt_le] at range
  exact range

private theorem pacing_of_loadConfig {File : Type} {packages : Packages File}
    (documented : Documented packages.validator) {configFile : String} {config : Config}
    (loaded : loadConfig packages configFile = (config, none)) :
    Pacing config.scheduler := by
  have accepted := validate_of_loadConfig loaded
  rcases (documented.validate_eq_none_iff config).mp accepted with ⟨others, options⟩
  refine ⟨?_, ?_, ?_, options⟩
  · apply interval_of_othersValid others "Config.Scheduler.InstanceRefreshInterval" (.inr rfl)
    simp [Config.fields]
  · apply interval_of_othersValid others "Config.Scheduler.SQLMetricCollectorInterval" (.inl rfl)
    simp [Config.fields]
  · apply interval_of_othersValid others "Config.Scheduler.CWMetricCollectorInterval" (.inl rfl)
    simp [Config.fields]

private theorem paced_seconds {interval : Int64}
    (range : 1 ≤ interval.toInt ∧ interval.toInt ≤ 3600) : Paced (interval * second) := by
  have product : (interval * second).toInt = interval.toInt * 10 ^ 9 :=
    toInt_mul_of_le (by omega) range.2 (by decide) (by decide)
  rw [Paced, product]
  omega

/-! ## Workers -/

variable {cfg : SchedulerConfig} {trace : List Scheduler.Event} {s : Scheduler.State}

/-- What the workers of such a configuration have in common. -/
structure PacedWorker (worker : CollectorWorker) : Prop where
  retryInterval : worker.retryInterval = 1000
  maxRetries : worker.maxRetries = 3
  timeout : worker.timeout = 15000
  interval : ∀ driver, worker.driver = some driver →
    1 ≤ driver.getCollectInterval.toInt ∧ driver.getCollectInterval.toInt ≤ 3600

private theorem pacedWorker_newWorker (pacing : Pacing cfg) (id : WorkerID)
    (instanceInfo : BrokerInfo.InstanceInfo) :
    PacedWorker (Registry.newWorker (scheduler cfg) id instanceInfo) := by
  rcases pacing.options with ⟨timeout, retryInterval, maxRetries⟩
  constructor
  · show cfg.collectorRetryIntervalMs.getD defaultRetryInterval = 1000
    rw [retryInterval]
    rfl
  · show cfg.collectorMaxRetries.getD defaultMaxRetries = 3
    rw [maxRetries]
    rfl
  · show cfg.collectorTimeoutMs.getD defaultCollectorTimeout = 15000
    rw [timeout]
    rfl
  · intro driver found
    rw [Registry.newWorker_driver, lookup_drivers] at found
    split_ifs at found
    · cases found
      exact pacing.cloudwatch
    · cases found
      exact pacing.sql
    · cases found
      exact pacing.sql

private theorem PacedWorker.retriesConfigured {worker : CollectorWorker}
    (paced : PacedWorker worker) :
    worker.RetriesConfigured where
  retryInterval_nonneg := by rw [paced.retryInterval]; decide
  retryInterval_le := by rw [paced.retryInterval]; decide
  maxRetries_nonneg := by rw [paced.maxRetries]; decide
  maxRetries_le := by rw [paced.maxRetries]; decide

private theorem pacedWorker (pacing : Pacing cfg)
    (reachable : (model (scheduler cfg)).Reachable trace s) {index : Nat} {g : Goroutine}
    (present : s.registry.goroutines[index]? = some g) : PacedWorker g.worker := by
  have found : s.registry.workerAt index = some g.worker := by
    simp [Registry.workerAt, present]
  rcases Registry.madeFrom (registry_reachable reachable) found with ⟨id, instanceInfo, made⟩
  rw [made]
  exact pacedWorker_newWorker pacing id instanceInfo

/-- The delay after some outcomes, the last failures of which were retried. -/
theorem PacedWorker.nextDelay {worker : CollectorWorker} (paced : PacedWorker worker)
    {outcomes : List (Option String)} (within : Within worker.retryLimit outcomes)
    (hasDriver : worker.driver.isSome) :
    (Goroutine.nextDelay worker outcomes = 0 ∧ outcomes = []) ∨
      Paced (Goroutine.nextDelay worker outcomes) := by
  rcases Option.isSome_iff_exists.mp hasDriver with ⟨driver, found⟩
  induction outcomes using List.reverseRecOn with
  | nil => exact .inl ⟨rfl, rfl⟩
  | append_singleton earlier last _ =>
      right
      cases last with
      | none =>
          have range := paced.interval driver found
          have delay := @Goroutine.toInt_nextDelay_success worker earlier driver found
            ⟨by omega, by omega⟩
          rw [Paced, delay]
          omega
      | some err =>
          have bounded := within _ List.prefix_rfl
          have limit : worker.retryLimit = 3 := by
            rw [CollectorWorker.retryLimit, paced.maxRetries]
            rfl
          rw [trailingFailures_failure, limit] at bounded
          have delay := @Goroutine.toInt_nextDelay_failure worker earlier err
            (paced.retriesConfigured.isDuration (by omega))
          have thousand : (1000 : Int64).toInt = 1000 := by decide
          rw [paced.retryInterval, thousand] at delay
          have least : (4 : Int) ^ 1 ≤ 4 ^ (trailingFailures earlier + 1) :=
            pow_le_pow_right₀ (by norm_num) (by omega)
          have most : (4 : Int) ^ (trailingFailures earlier + 1) ≤ 4 ^ 3 :=
            pow_le_pow_right₀ (by norm_num) (by omega)
          rw [Paced, delay]
          omega

private theorem hasDriver_of_ranTo {events : List RunEvent} {g : Goroutine}
    (ran : g.RanTo events) : g.worker.driver.isSome := by
  apply ran.invariant fun _ current => current.worker.driver.isSome
  · intro worker hasDriver
    exact hasDriver
  · intro past current holds
    exact holds
  · intro past current done action next events _ holds step
    rw [step.worker_eq]
    exact holds

/-- A worker in its `select` waits for a paced timer, unless it is to collect for
the first time. -/
theorem worker_paced (pacing : Pacing cfg)
    (reachable : (model (scheduler cfg)).Reachable trace s) {index : Nat} {g : Goroutine}
    (present : s.registry.goroutines[index]? = some g) (point : g.point = .selecting)
    {delay : Int64} (armed : g.timer.armed = some delay) :
    (delay = 0 ∧ collectResults (ownEvents index trace) = []) ∨ Paced delay := by
  have ran := ranTo reachable present
  have paced := pacedWorker pacing reachable present
  have counts := paced.retriesConfigured.countsRetries
  have timer := ran.timerAt counts
  have retry := ran.retryAt counts
  simp only [Goroutine.TimerAt, point] at timer
  simp only [Goroutine.RetryAt, point] at retry
  have equal := timer.eq_newTimer (by rw [armed]; rfl)
  rw [equal] at armed
  cases armed
  exact paced.nextDelay retry.2 (hasDriver_of_ranTo ran)

/-! ## The main loop -/

/-- The refresh timer runs for the refresh interval, once it has been reset. -/
def RefreshPaced (settings : Settings) (trace : List Scheduler.Event)
    (s : Scheduler.State) : Prop :=
  ∀ delay, s.timer.armed = some delay →
    (delay = 0 ∧ .listInstancesCalled ∉ trace) ∨
      delay = settings.instanceRefreshInterval * second

private theorem RefreshPaced.frame {settings : Settings} {past events : List Scheduler.Event}
    {next : Scheduler.State} (paced : RefreshPaced settings past s)
    (timer : next.timer = s.timer) (quiet : .listInstancesCalled ∉ events) :
    RefreshPaced settings (past ++ events) next := by
  intro delay armed
  rw [timer] at armed
  rcases paced delay armed with ⟨zero, never⟩ | equal
  · refine .inl ⟨zero, ?_⟩
    rw [List.mem_append, not_or]
    exact ⟨never, quiet⟩
  · exact .inr equal

private theorem step_refreshPaced {settings : Settings} {past events : List Scheduler.Event}
    {next : Scheduler.State} {action : Scheduler.Action}
    (step : Scheduler.Step settings s action next events)
    (paced : RefreshPaced settings past s) :
    RefreshPaced settings (past ++ events) next := by
  cases step with
  | timerFires timer fired =>
      intro delay armed
      unfold Timer.fire at fired
      split at fired
      · cases fired
        cases armed
      · cases fired
  | receiveTick timer main received =>
      intro delay armed
      unfold Timer.receive at received
      split_ifs at received
      cases received
      rw [List.append_nil]
      exact paced delay armed
  | resetTimer main =>
      intro delay armed
      cases armed
      exact .inr rfl
  | run index action registry events ran =>
      apply paced.frame rfl
      rcases Registry.runWorker_eq_some ran with ⟨_, _, _, _, _, _, _, _, rfl⟩
      simp
  | receiveStopped registry events main reaped =>
      apply paced.frame rfl
      rcases Registry.reap_eq_some reaped with ⟨_, _, _, _, rfl⟩
      simp
  | drainReceive registry events main busy reaped =>
      apply paced.frame rfl
      rcases Registry.reap_eq_some reaped with ⟨_, _, _, _, rfl⟩
      simp
  | listInstancesFails | listInstancesSucceeds | startMissing | skipRegistered
  | finishStarting | skipDesired | cancelUndesired | finishRefresh | receiveSignal
  | cancelOnSignal | receiveDone | workersStopTimeoutFires | drainTimeout
  | finishDraining | callStop | stopReturns =>
      apply paced.frame rfl
      simp

private theorem refreshPaced {settings : Settings}
    (reachable : (model settings).Reachable trace s) : RefreshPaced settings trace s := by
  apply reachable.invariant (RefreshPaced settings)
  · intro delay armed
    cases armed
    exact .inl ⟨rfl, List.not_mem_nil⟩
  · intro past current action next events _ paced step
    exact step_refreshPaced (Scheduler.step_inversion step) paced

/-! ## Timeouts -/

private theorem timeout_of_collectCalled {events : List RunEvent} {g : Goroutine}
    (ran : g.RanTo events) {timeout : Int64} (called : .collectCalled timeout ∈ events) :
    timeout = g.worker.timeout * millisecond := by
  revert called
  apply ran.invariant fun past current =>
    .collectCalled timeout ∈ past → timeout = current.worker.timeout * millisecond
  · intro worker _ none
    cases none
  · intro past current holds
    exact holds
  · intro past current done action next events _ holds step called
    rw [step.worker_eq]
    rcases List.mem_append.mp called with earlier | now
    · exact holds earlier
    · cases step with
      | receiveTick =>
          cases List.mem_singleton.mp now
          rfl
      | callNewCollector | creationFails | created | timerFires | receiveDone
      | collectFails | collected | emit | finishEmitting | close | sendStopped =>
          simp at now

/-- With a configuration that was loaded, every timer that the scheduler waits for
is due at once and for the first time, or after a second at least and an hour at
most. Every collection has fifteen seconds. -/
theorem loaded_timers_paced {File : Type} {packages : Packages File}
    (documented : Documented packages.validator) {configFile : String} {config : Config}
    (loaded : loadConfig packages configFile = (config, none))
    (reachable : (model (scheduler config.scheduler)).Reachable trace s) :
    (∀ delay, s.timer.armed = some delay →
      (delay = 0 ∧ .listInstancesCalled ∉ trace) ∨ Paced delay) ∧
    (∀ index g, s.registry.goroutines[index]? = some g → g.point = .selecting →
      ∀ delay, g.timer.armed = some delay →
        (delay = 0 ∧ collectResults (ownEvents index trace) = []) ∨ Paced delay) ∧
    ∀ index id timeout, .worker index id (.collectCalled timeout) ∈ trace →
      timeout.toInt = 15 * 10 ^ 9 := by
  have pacing := pacing_of_loadConfig documented loaded
  refine ⟨?_, ?_, ?_⟩
  · intro delay armed
    rcases refreshPaced reachable delay armed with first | equal
    · exact .inl first
    · rw [equal]
      exact .inr (paced_seconds pacing.refresh)
  · intro index g present point delay armed
    exact worker_paced pacing reachable present point armed
  · intro index id timeout called
    rcases exists_goroutine reachable called with ⟨g, present, _⟩
    have own := mem_ownEvents.mpr ⟨id, called⟩
    rw [timeout_of_collectCalled (ranTo reachable present) own,
      (pacedWorker pacing reachable present).timeout]
    rfl

/-- The first worker is started, and its first collection fails. -/
def pacingSampleActions : List Scheduler.Action :=
  [.timerFires, .receiveTick, .resetTimer,
    .listInstancesSucceeds [(sampleInfo, sampleDriverOrder sampleDocument.config.scheduler)]
      [⟨samplePostgresID, sampleInfo⟩, ⟨sampleCloudwatchID, sampleInfo⟩],
    .startNext, .run 0 .callNewCollector, .run 0 (.newCollectorReturns none),
    .run 0 .timerFires, .run 0 .receiveTick, .run 0 (.collectReturns [] (some "failed"))]

theorem loaded_timers_paced_sample :
    loadConfig samplePackages "config.json" = (sampleDocument.config, none) ∧
      ∃ trace s g, (model (scheduler sampleDocument.config.scheduler)).Reachable trace s ∧
        s.registry.goroutines[0]? = some g ∧ g.timer.armed = some (4000 * millisecond) ∧
        Paced (4000 * millisecond) := by
  have loaded : loadConfig samplePackages "config.json" = (sampleDocument.config, none) := rfl
  have reachable := (model (scheduler sampleDocument.config.scheduler)).reachable_of_run
    pacingSampleActions rfl
  have paced := (loaded_timers_paced documented_sampleValidator loaded reachable).2.1
    0 _ rfl rfl (4000 * millisecond) rfl
  refine ⟨loaded, _, _, _, reachable, rfl, rfl, ?_⟩
  rcases paced with ⟨zero, _⟩ | paced
  · exact absurd zero (by decide)
  · exact paced

end RdsMetricCollector.Deployment
