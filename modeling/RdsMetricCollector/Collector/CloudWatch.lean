import RdsMetricCollector.BrokerInfo
import RdsMetricCollector.Foundation.NamedValues
import RdsMetricCollector.Foundation.Runtime
import RdsMetricCollector.Foundation.Sorting
import RdsMetricCollector.Metrics

/-! # The CloudWatch collector

`CloudWatchCollector.Collect` over what the AWS client answers for each metric.
The answer of a call, the order of the range over the metrics, what `sort.Slice`
does with equal elements and how the AWS client reads its pointers are parameters.
-/

namespace RdsMetricCollector.Collector

open RdsMetricCollector.BrokerInfo
open RdsMetricCollector.Runtime

/-! ## Answers of the client -/

/-- A `time.Time`: seconds since the Unix epoch and nanoseconds in the second. -/
structure Time where
  unixSec : Int64
  nsec : Fin 1000000000
  deriving DecidableEq

namespace Time

/-- The zero value, which is the first second of year 1. -/
def zero : Time where
  unixSec := -62135596800
  nsec := 0

/-- `UnixNano`, in 64 bits. -/
def unixNano (t : Time) : Int64 :=
  t.unixSec * 1000000000 + Int64.ofNat t.nsec

example : zero.unixNano = -6795364578871345152 := by decide

end Time

/-- The fields of a datapoint that are read. They are optional pointers of the
AWS client. -/
structure Datapoint where
  timestamp : Option Time
  average : Option Float64
  unit : Option String
  deriving DecidableEq

/-- The functions of the AWS client that read an optional pointer, with what it
documents about them. -/
structure AWS where
  timeValue : Option Time → Time
  timeValue_some : ∀ value, timeValue (some value) = value
  timeValue_none : timeValue none = .zero
  float64Value : Option Float64 → Float64
  float64Value_some : ∀ value, float64Value (some value) = value
  float64Value_none : float64Value none = ⟨0⟩

attribute [simp] AWS.timeValue_some AWS.timeValue_none AWS.float64Value_some
  AWS.float64Value_none

structure Dimension where
  name : String
  value : String
  deriving DecidableEq, Repr

/-- A `GetMetricStatisticsInput` without its time window, which is the last ten
minutes. -/
structure GetMetricStatisticsInput where
  dimensions : List Dimension
  metricName : String
  metricNamespace : String
  period : Int64
  statistics : List String
  deriving DecidableEq, Repr

/-- What `GetMetricStatisticsWithContext` returns during one collection. -/
abbrev CloudWatchAPI := GetMetricStatisticsInput → Except String (List Datapoint)

/-! ## Collecting -/

def metricLabels : List (String × String) :=
  [("CPUUtilization", "cpu"),
    ("CPUCreditUsage", "cpu_credit_usage"),
    ("CPUCreditBalance", "cpu_credit_balance"),
    ("FreeableMemory", "freeable_memory"),
    ("FreeStorageSpace", "free_storage_space"),
    ("SwapUsage", "swap_usage"),
    ("ReadIOPS", "read_iops"),
    ("WriteIOPS", "write_iops")]

def metricNamesToLabels : Finmap fun _ : String => String :=
  insertAll ∅ metricLabels

structure CloudWatchCollector where
  client : CloudWatchAPI
  instanceName : String

/-- `NewCollector` of the driver, for a client that is already connected. -/
def newCloudWatchCollector (brokerInfo : RDSBrokerInfo) (client : CloudWatchAPI)
    (instanceInfo : InstanceInfo) : CloudWatchCollector where
  client := client
  instanceName := brokerInfo.getInstanceName instanceInfo

/-- The comparator of the sort. -/
def Earlier (aws : AWS) (a b : Datapoint) : Prop :=
  (aws.timeValue a.timestamp).unixNano < (aws.timeValue b.timestamp).unixNano

instance (aws : AWS) (a b : Datapoint) : Decidable (Earlier aws a b) :=
  inferInstanceAs (Decidable (_ < _))

namespace CloudWatchCollector

def input (cw : CloudWatchCollector) (metricName : String) :
    GetMetricStatisticsInput where
  dimensions := [{ name := "DBInstanceIdentifier", value := cw.instanceName }]
  metricName := metricName
  metricNamespace := "AWS/RDS"
  period := 60
  statistics := ["Average"]

section Collect

variable (aws : AWS) (toLower : String → String)
variable (sortSlice : String → List Datapoint → List Datapoint)

/-- The metric of the last of the sorted datapoints. -/
def lastMetric (label : String) (datapoints : List Datapoint) :
    Except Panic Metric := do
  let d ← element datapoints (datapoints.length - 1)
  let unit ← dereference d.unit
  return {
    key := label
    timestamp := (aws.timeValue d.timestamp).unixNano
    value := aws.float64Value d.average
    unit := toLower unit
    tags := (∅ : Finmap fun _ : String => String).insert "source" "cloudwatch" }

/-- The loop over the metric names. `sortSlice` is what `sort.Slice` does in the
round of a metric name. -/
def collectMetrics (cw : CloudWatchCollector) (m : List Metric) :
    List (Sigma fun _ : String => String) → Except Panic (List Metric)
  | [] => .ok m
  | ⟨metricName, label⟩ :: rest =>
      match cw.client (cw.input metricName) with
      | .error _ => cw.collectMetrics m rest
      | .ok datapoints =>
          if datapoints.length > 0 then do
            let metric ← lastMetric aws toLower label (sortSlice metricName datapoints)
            cw.collectMetrics (m ++ [metric]) rest
          else
            cw.collectMetrics m rest

/-- `order` is the order in which the range visits `metricNamesToLabels`. -/
def collect (cw : CloudWatchCollector) (order : List (Sigma fun _ : String => String)) :
    Except Panic (List Metric × Option String) := do
  let m ← cw.collectMetrics aws toLower sortSlice [] order
  return (m, none)

end Collect

end CloudWatchCollector

end RdsMetricCollector.Collector
