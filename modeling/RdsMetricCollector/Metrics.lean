import Mathlib.Data.Finmap

/-! The metrics that collectors return and the emitter receives. -/

namespace RdsMetricCollector

/-- A `float64`, kept as its bit pattern: metric values are scanned, stored and
emitted, and nothing in the collector computes with them. -/
structure Float64 where
  bits : BitVec 64
  deriving DecidableEq, Repr

structure Metric where
  key : String
  timestamp : Int64
  value : Float64
  unit : String
  tags : Finmap fun _ : String => String
  deriving DecidableEq

structure MetricEnvelope where
  instanceGUID : String
  metric : Metric
  deriving DecidableEq

end RdsMetricCollector
