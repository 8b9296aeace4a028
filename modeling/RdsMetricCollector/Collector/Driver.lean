import Mathlib.Data.List.Basic

/-! # Collector drivers

A driver creates the collectors of one kind of metrics. Creating a collector
and collecting with it talk to services outside the program, so the scheduler
takes their outcomes from its environment; what it reads of a driver itself is
the following.
-/

namespace RdsMetricCollector.Collector

structure MetricsCollectorDriver where
  getName : String
  supportedTypes : List String
  getCollectInterval : Int64
  deriving DecidableEq, Repr

/-- The SQL drivers differ in their name, which is also the one type of
instance they support. -/
def sqlMetricsCollectorDriver (name : String) (collectInterval : Int64) :
    MetricsCollectorDriver where
  getName := name
  supportedTypes := [name]
  getCollectInterval := collectInterval

def newPostgresMetricsCollectorDriver (intervalSeconds : Int64) :
    MetricsCollectorDriver :=
  sqlMetricsCollectorDriver "postgres" intervalSeconds

def newMysqlMetricsCollectorDriver (intervalSeconds : Int64) :
    MetricsCollectorDriver :=
  sqlMetricsCollectorDriver "mysql" intervalSeconds

def newCloudWatchCollectorDriver (intervalSeconds : Int64) :
    MetricsCollectorDriver where
  getName := "cloudwatch"
  supportedTypes := ["postgres", "mysql"]
  getCollectInterval := intervalSeconds

end RdsMetricCollector.Collector
