import RdsMetricCollector.Configuration
import RdsMetricCollector.Scheduler.History

/-! # Options of the scheduler

The three optional settings of the collectors, from the configuration to the
workers that use them. Workers run with the settings of an accepted
configuration, but no configuration that sets an option is accepted.
-/

namespace RdsMetricCollector.Scheduler

open RdsMetricCollector.BrokerInfo
open RdsMetricCollector.Collector
open RdsMetricCollector.Configuration
open RdsMetricCollector.Execution

/-! ## The settings of the workers -/

/-- The worker was made from the settings. -/
def CollectorWorker.MadeFrom (worker : CollectorWorker) (settings : Settings) : Prop :=
  ∃ id instanceInfo, worker = Registry.newWorker settings id instanceInfo

theorem Registry.madeFrom {settings : Settings} {trace : List Event} {r : Registry}
    (reachable : (model settings).Reachable trace r) {index : Nat}
    {worker : CollectorWorker} (present : r.workerAt index = some worker) :
    worker.MadeFrom settings := by
  have started := (mem_started_iff reachable index worker).mpr present
  suffices made : .workerStarted index worker ∈ trace → worker.MadeFrom settings from
    made started
  apply reachable.invariant fun past _ =>
    .workerStarted index worker ∈ past → worker.MadeFrom settings
  · intro none
    cases none
  · intro past current action next events _ holds stepped member
    rcases List.mem_append.mp member with earlier | now
    · exact holds earlier
    · cases step_inversion stepped with
      | start id instanceInfo missing known =>
          cases List.mem_singleton.mp now
          exact ⟨id, instanceInfo, rfl⟩
      | cancel | reap | cancelContext | run | send => simp at now

/-- The worker retries and times out as configured, or by default. -/
structure CollectorWorker.UsesOptions (worker : CollectorWorker) (cfg : SchedulerConfig) :
    Prop where
  timeout : worker.timeout = match cfg.collectorTimeoutMs with
    | some timeout => timeout
    | none => defaultCollectorTimeout
  retryInterval : worker.retryInterval = match cfg.collectorRetryIntervalMs with
    | some retryInterval => retryInterval
    | none => defaultRetryInterval
  maxRetries : worker.maxRetries = match cfg.collectorMaxRetries with
    | some maxRetries => maxRetries
    | none => defaultMaxRetries

private theorem CollectorWorker.MadeFrom.usesOptions {worker : CollectorWorker}
    {cfg : SchedulerConfig} {drivers : List MetricsCollectorDriver}
    (made : worker.MadeFrom ((newScheduler cfg).withDriver drivers)) :
    worker.UsesOptions cfg := by
  rcases made with ⟨id, instanceInfo, rfl⟩
  refine ⟨?_, ?_, ?_⟩
  · cases timeout : cfg.collectorTimeoutMs <;> simp [Settings.withDriver, newScheduler, timeout]
  · cases retryInterval : cfg.collectorRetryIntervalMs <;>
      simp [Settings.withDriver, newScheduler, retryInterval]
  · cases maxRetries : cfg.collectorMaxRetries <;>
      simp [Settings.withDriver, newScheduler, maxRetries]

/-- All workers of all runs of a scheduler use the options of its configuration. -/
def RunsWithOptions (cfg : SchedulerConfig) : Prop :=
  ∀ drivers trace s,
    (model ((newScheduler cfg).withDriver drivers)).Reachable trace s →
    ∀ index worker, s.registry.workerAt index = some worker → worker.UsesOptions cfg

private theorem runsWithOptions (cfg : SchedulerConfig) : RunsWithOptions cfg := by
  intro drivers trace s reachable index worker present
  exact (Registry.madeFrom (registry_reachable reachable) present).usesOptions

/-! ## Options that can be set -/

/-- The validation accepts the options of a configuration exactly in their
declared ranges, and the workers of an accepted one use them. -/
def OptionsUsable (validator : List Field → Option String) (c : Config) : Prop :=
  (c.validate validator = none ↔ OptionsInRange c.scheduler) ∧
    (c.validate validator = none → RunsWithOptions c.scheduler)

/-- The options of a configuration are only usable by not setting them: an option
in its range is rejected like one outside of it. -/
theorem optionsUsable_iff (validator : List Field → Option String)
    (documented : Documented validator) (c : Config) (others : c.OthersValid) :
    OptionsUsable validator c ↔
      NoOptions c.scheduler ∨ ¬OptionsInRange c.scheduler := by
  have accepted := documented.validate_iff others
  constructor
  · intro usable
    by_cases unset : NoOptions c.scheduler
    · exact .inl unset
    · refine .inr fun inRange => unset ?_
      rw [← accepted, usable.1]
      exact inRange
  · intro condition
    refine ⟨?_, fun _ => runsWithOptions c.scheduler⟩
    rw [accepted]
    rcases condition with unset | outside
    · exact iff_of_true unset unset.optionsInRange
    · exact iff_of_false (fun unset => outside unset.optionsInRange) outside

def sampleConfiguration : Config where
  logLevel := "INFO"
  aws := { region := "eu-west-1", awsPartition := "aws" }
  rdsBrokerInfo := {
    dbPrefix := "rdsbroker"
    brokerName := "broker"
    masterPasswordSeed := "seed" }
  scheduler := {
    instanceRefreshInterval := 120
    collectorTimeoutMs := none
    collectorRetryIntervalMs := none
    collectorMaxRetries := none
    sqlMetricCollectorInterval := 180
    cwMetricCollectorInterval := 300 }
  loggregatorEmitter := {
    metronURL := "localhost:3458"
    caCertPath := "ca.crt"
    certPath := "client.crt"
    keyPath := "client.key" }

/-- The sample configuration with five retries. -/
def tunedConfiguration : Config :=
  { sampleConfiguration with
    scheduler := { sampleConfiguration.scheduler with collectorMaxRetries := some 5 } }

theorem optionsUsable_iff_sample :
    sampleConfiguration.validate sampleValidator = none ∧
      OptionsUsable sampleValidator sampleConfiguration := by
  refine ⟨by decide, ?_⟩
  exact (optionsUsable_iff sampleValidator documented_sampleValidator sampleConfiguration
    (by decide)).mpr (.inl ⟨rfl, rfl, rfl⟩)

/-- Five retries are in the declared range and are rejected. -/
theorem tuned_configuration_rejected :
    Documented sampleValidator ∧ tunedConfiguration.OthersValid ∧
      OptionsInRange tunedConfiguration.scheduler ∧
      tunedConfiguration.validate sampleValidator =
        some "Field validation for 'Config.Scheduler.CollectorMaxRetries' failed" ∧
      ¬OptionsUsable sampleValidator tunedConfiguration := by
  have inRange : OptionsInRange tunedConfiguration.scheduler := by
    refine ⟨nofun, nofun, ?_⟩
    intro target set
    cases set
    decide
  have rejected : tunedConfiguration.validate sampleValidator =
      some "Field validation for 'Config.Scheduler.CollectorMaxRetries' failed" := rfl
  refine ⟨documented_sampleValidator, by decide, inRange, rejected, ?_⟩
  intro usable
  have accepted := usable.1.mpr inRange
  rw [rejected] at accepted
  cases accepted

end RdsMetricCollector.Scheduler
