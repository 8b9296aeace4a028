import RdsMetricCollector.Collector.CloudWatchMetrics

/-! # Isolation of CloudWatch metrics

Two collections whose answers differ for one metric only. They report the same
for all others, unless a datapoint without a unit ends one of them in a panic.
-/

namespace RdsMetricCollector.Collector

open RdsMetricCollector.Runtime

namespace CloudWatchCollector

/-- Two collectors of one instance, with the same answers for all metrics but one. -/
structure DifferOnlyFor (first second : CloudWatchCollector) (odd : String) : Prop where
  sameInstance : first.instanceName = second.instanceName
  sameAnswers : ∀ metricName, metricName ≠ odd →
    first.client (first.input metricName) = second.client (second.input metricName)

/-- The metric has the label of another metric than `odd`. -/
def OfOther (odd : String) (metric : Metric) : Prop :=
  ∃ entry ∈ metricLabels, entry.1 ≠ odd ∧ entry.2 = metric.key

instance (odd : String) (metric : Metric) : Decidable (OfOther odd metric) :=
  inferInstanceAs (Decidable (∃ entry ∈ metricLabels, _ ∧ _))

def otherMetrics (odd : String) (metrics : List Metric) : List Metric :=
  metrics.filter (OfOther odd ·)

/-- Both collections finish and report the same metrics for all other names,
whatever the orders of their ranges are and however equal timestamps are sorted. -/
def Isolates (aws : AWS) (toLower : String → String)
    (first second : CloudWatchCollector) (odd : String) : Prop :=
  ∀ sortSlice, (∀ metricName, Sorts (Earlier aws) (sortSlice metricName)) →
    ∀ firstOrder secondOrder, RangeOrder metricNamesToLabels firstOrder →
      RangeOrder metricNamesToLabels secondOrder →
      ∃ firstMetrics secondMetrics,
        first.collect aws toLower sortSlice firstOrder = .ok (firstMetrics, none) ∧
        second.collect aws toLower sortSlice secondOrder = .ok (secondMetrics, none) ∧
        (otherMetrics odd firstMetrics).Perm (otherMetrics odd secondMetrics)

variable {aws : AWS} {toLower : String → String}
  {sortSlice : String → List Datapoint → List Datapoint}
  {first second : CloudWatchCollector} {odd : String}

private theorem DifferOnlyFor.reported_eq (differ : DifferOnlyFor first second odd)
    {entry : Sigma fun _ : String => String} (other : entry.1 ≠ odd) :
    first.reported aws toLower sortSlice entry = second.reported aws toLower sortSlice entry := by
  rw [reported, reported, metricOf, metricOf, differ.sameAnswers entry.1 other]

private theorem otherMetrics_filterMap (cw : CloudWatchCollector)
    (order : List (Sigma fun _ : String => String)) :
    otherMetrics odd (order.filterMap (cw.reported aws toLower sortSlice)) =
      order.filterMap fun entry =>
        (cw.reported aws toLower sortSlice entry).filter (OfOther odd ·) :=
  List.filter_filterMap

/-- The round of the odd metric adds nothing to the metrics of the others. -/
theorem Completes.filter_eq_none {cw : CloudWatchCollector} {label : String}
    (completes : cw.Completes aws toLower sortSlice ⟨odd, label⟩)
    (labelled : metricNamesToLabels.lookup odd = some label) :
    (cw.reported aws toLower sortSlice ⟨odd, label⟩).filter (OfOther odd ·) = none := by
  rw [Option.filter_eq_none_iff]
  intro metric found
  rcases completes.reports metric found with ⟨_, d, unit, _, _, _, rfl⟩
  rw [decide_eq_true_iff]
  intro ofOther
  rcases ofOther with ⟨entry, member, other, sameLabel⟩
  have entryLabel : metricNamesToLabels.lookup entry.1 = some label := by
    rw [lookup_metricNamesToLabels_iff, ← show entry.2 = label from sameLabel]
    exact member
  exact other (metricName_eq_of_label entryLabel labelled)

private theorem DifferOnlyFor.isolates (differ : DifferOnlyFor first second odd)
    (firstUnits : first.LatestHaveUnit aws) (secondUnits : second.LatestHaveUnit aws) :
    Isolates aws toLower first second odd := by
  intro sortSlice sorts firstOrder secondOrder firstRanges secondRanges
  refine ⟨_, _, collect_eq_ok firstRanges sorts firstUnits,
    collect_eq_ok secondRanges sorts secondUnits, ?_⟩
  rw [otherMetrics_filterMap, otherMetrics_filterMap]
  have perm : firstOrder.Perm secondOrder :=
    Multiset.coe_eq_coe.mp (firstRanges.trans secondRanges.symm)
  have same : (firstOrder.filterMap fun entry =>
        (first.reported aws toLower sortSlice entry).filter (OfOther odd ·)) =
      firstOrder.filterMap fun entry =>
        (second.reported aws toLower sortSlice entry).filter (OfOther odd ·) := by
    apply List.filterMap_congr
    intro entry member
    have known := mem_metricNamesToLabels firstRanges member
    have labelled := firstRanges.mem_iff.mp member
    rcases entry with ⟨metricName, label⟩
    by_cases isOdd : metricName = odd
    · subst isOdd
      rw [(completes sorts firstUnits known).filter_eq_none labelled,
        (completes sorts secondUnits known).filter_eq_none labelled]
    · rw [differ.reported_eq isOdd]
  rw [same]
  exact perm.filterMap _

/-- Collections are isolated exactly if the latest datapoints of every answer
have a unit. -/
theorem isolates_iff_latestHaveUnit (aws : AWS) (toLower : String → String)
    (first second : CloudWatchCollector) (odd : String)
    (differ : DifferOnlyFor first second odd) :
    Isolates aws toLower first second odd ↔
      first.LatestHaveUnit aws ∧ second.LatestHaveUnit aws := by
  constructor
  · intro isolates
    rcases exists_rangeOrder metricNamesToLabels with ⟨order, ranges⟩
    constructor
    · by_contra missing
      rcases @exists_collect_error aws toLower first order ranges missing with
        ⟨sortSlice, panic, sorts, failed⟩
      rcases isolates sortSlice sorts order order ranges ranges with ⟨_, _, collected, _⟩
      rw [failed] at collected
      cases collected
    · by_contra missing
      rcases @exists_collect_error aws toLower second order ranges missing with
        ⟨sortSlice, panic, sorts, failed⟩
      rcases isolates sortSlice sorts order order ranges ranges with ⟨_, _, _, collected, _⟩
      rw [failed] at collected
      cases collected
  · intro units
    exact differ.isolates units.1 units.2

end CloudWatchCollector

/-- The sample collector when one of its calls fails. -/
def sampleThrottled : CloudWatchCollector :=
  { sampleCloudWatch with
    client := fun input =>
      if input.metricName = "SwapUsage" then .error "throttled"
      else sampleCloudWatch.client input }

/-- The sample collector when one of its answers has a datapoint without a unit. -/
def sampleUnitless : CloudWatchCollector :=
  { sampleCloudWatch with
    client := fun input =>
      if input.metricName = "SwapUsage" then
        .ok [{ sampleDatapoint 1500000000 3 with unit := none }]
      else sampleCloudWatch.client input }

theorem isolates_iff_latestHaveUnit_sample :
    CloudWatchCollector.Isolates sampleAWS sampleUnitToLower sampleCloudWatch sampleThrottled
      "SwapUsage" := by
  have differ : CloudWatchCollector.DifferOnlyFor sampleCloudWatch sampleThrottled
      "SwapUsage" :=
    ⟨rfl, fun metricName other => (if_neg other).symm⟩
  have complete : sampleThrottled.AnswersComplete := by
    intro metricName known datapoints answer
    simp only [sampleThrottled] at answer
    split at answer
    · cases answer
    · exact sampleCloudWatch_complete metricName known datapoints answer
  exact (CloudWatchCollector.isolates_iff_latestHaveUnit _ _ _ _ _ differ).mpr
    ⟨sampleCloudWatch_complete.latestHaveUnit, complete.latestHaveUnit⟩

/-- A datapoint without a unit ends the whole collection in a panic. -/
theorem unitless_datapoint_panics :
    CloudWatchCollector.DifferOnlyFor sampleCloudWatch sampleUnitless "SwapUsage" ∧
      (∃ metric, sampleCloudWatch.collect sampleAWS sampleUnitToLower sampleSort sampleRange =
        .ok ([metric], none) ∧ metric.key = "cpu") ∧
      sampleUnitless.collect sampleAWS sampleUnitToLower sampleSort sampleRange =
        .error .nilDereference ∧
      ¬CloudWatchCollector.Isolates sampleAWS sampleUnitToLower sampleCloudWatch sampleUnitless
        "SwapUsage" := by
  have failed : sampleUnitless.collect sampleAWS sampleUnitToLower sampleSort sampleRange =
      .error .nilDereference := rfl
  refine ⟨⟨rfl, fun metricName other => (if_neg other).symm⟩, ⟨_, rfl, rfl⟩, failed, ?_⟩
  intro isolates
  rcases isolates sampleSort sampleSort_sorts sampleRange sampleRange sampleRange_ranges
    sampleRange_ranges with ⟨_, _, _, collected, _⟩
  rw [failed] at collected
  cases collected

end RdsMetricCollector.Collector
