import Mathlib.Data.Finmap
import RdsMetricCollector.Collector.Driver

/-! # Scheduler settings

The part of a `Scheduler` that is fixed before it runs: the intervals and
limits taken from the configuration, and the registered drivers.
-/

namespace RdsMetricCollector.Scheduler

open RdsMetricCollector.Collector

/-- The scheduler's section of the configuration file. The three collector
options are pointers there, so each of them may be absent. -/
structure SchedulerConfig where
  instanceRefreshInterval : Int64
  collectorTimeoutMs : Option Int64
  collectorRetryIntervalMs : Option Int64
  collectorMaxRetries : Option Int64
  sqlMetricCollectorInterval : Int64
  cwMetricCollectorInterval : Int64
  deriving DecidableEq, Repr

def defaultRetryInterval : Int64 := 1000
def defaultMaxRetries : Int64 := 3
def defaultCollectorTimeout : Int64 := 15000

structure Settings where
  instanceRefreshInterval : Int64
  collectorRetryInterval : Int64
  collectorMaxRetries : Int64
  collectorTimeout : Int64
  metricsCollectorDrivers : Finmap fun _ : String => MetricsCollectorDriver

def newScheduler (schedulerConfig : SchedulerConfig) : Settings where
  instanceRefreshInterval := schedulerConfig.instanceRefreshInterval
  collectorRetryInterval :=
    schedulerConfig.collectorRetryIntervalMs.getD defaultRetryInterval
  collectorMaxRetries :=
    schedulerConfig.collectorMaxRetries.getD defaultMaxRetries
  collectorTimeout :=
    schedulerConfig.collectorTimeoutMs.getD defaultCollectorTimeout
  metricsCollectorDrivers := ∅

/-- Drivers are registered under their own names; a later driver replaces an
earlier one of the same name. -/
def Settings.withDriver (s : Settings) (drivers : List MetricsCollectorDriver) :
    Settings :=
  { s with
    metricsCollectorDrivers := drivers.foldl
      (fun registered driver => registered.insert driver.getName driver)
      s.metricsCollectorDrivers }

end RdsMetricCollector.Scheduler
