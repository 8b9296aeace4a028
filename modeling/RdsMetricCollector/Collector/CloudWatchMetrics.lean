import RdsMetricCollector.Collector.CloudWatch

/-! # Metrics from CloudWatch

The rounds of `Collect` do not depend on each other. Each takes one of the
datapoints with the latest timestamp, and cannot be completed if this one has no
unit.
-/

namespace RdsMetricCollector.Collector

open RdsMetricCollector.Runtime

/-! ## Labels -/

private theorem nodup_metricNames : (metricLabels.map Prod.fst).Nodup := by
  decide

theorem lookup_metricNamesToLabels_iff {metricName label : String} :
    metricNamesToLabels.lookup metricName = some label ↔
      (metricName, label) ∈ metricLabels := by
  rw [metricNamesToLabels, lookup_insertAll, Finmap.lookup_empty, Option.or_none,
    lastNamed_eq_some_iff nodup_metricNames]

/-- Different metrics have different labels. -/
theorem metricName_eq_of_label {left right label : String}
    (leftLabel : metricNamesToLabels.lookup left = some label)
    (rightLabel : metricNamesToLabels.lookup right = some label) : left = right := by
  rw [lookup_metricNamesToLabels_iff] at leftLabel rightLabel
  have distinct : (metricLabels.map Prod.snd).Nodup := by decide
  have same := List.inj_on_of_nodup_map distinct leftLabel rightLabel rfl
  exact congrArg Prod.fst same

/-! ## One round -/

private theorem AWS.float64Value_eq (aws : AWS) (pointer : Option Float64) :
    aws.float64Value pointer = pointer.getD ⟨0⟩ := by
  cases pointer <;> simp

private theorem not_earlier_self {aws : AWS} (d : Datapoint) : ¬Earlier aws d d :=
  Int64.lt_irrefl

/-- The number that the comparator compares. -/
def Datapoint.sortKey (aws : AWS) (d : Datapoint) : Int :=
  (aws.timeValue d.timestamp).unixNano.toInt

theorem earlier_iff {aws : AWS} {a b : Datapoint} :
    Earlier aws a b ↔ a.sortKey aws < b.sortKey aws :=
  Int64.lt_iff_toInt_lt

private theorem earlier_eq (aws : AWS) :
    Earlier aws = fun a b => a.sortKey aws < b.sortKey aws :=
  funext fun _ => funext fun _ => propext earlier_iff

/-- The metric made from a datapoint. -/
def Datapoint.metric (aws : AWS) (toLower : String → String) (label unit : String)
    (d : Datapoint) : Metric where
  key := label
  timestamp := (aws.timeValue d.timestamp).unixNano
  value := aws.float64Value d.average
  unit := toLower unit
  tags := (∅ : Finmap fun _ : String => String).insert "source" "cloudwatch"

namespace CloudWatchCollector

variable {aws : AWS} {toLower : String → String}
  {sortSlice : String → List Datapoint → List Datapoint}
  {cw : CloudWatchCollector} {order : List (Sigma fun _ : String => String)}

private theorem lastMetric_eq {label : String} {datapoints : List Datapoint} {d : Datapoint}
    (isLast : datapoints.getLast? = some d) :
    lastMetric aws toLower label datapoints =
      (dereference d.unit).map fun unit => d.metric aws toLower label unit := by
  rw [List.getLast?_eq_getElem?] at isLast
  rw [lastMetric, element_eq_ok isLast]
  simp only [bind, Except.bind]
  cases d.unit <;> rfl

/-- What the round of a metric adds. -/
def metricOf (aws : AWS) (toLower : String → String)
    (sortSlice : String → List Datapoint → List Datapoint) (cw : CloudWatchCollector)
    (entry : Sigma fun _ : String => String) : Except Panic (Option Metric) :=
  match cw.client (cw.input entry.1) with
  | .error _ => .ok none
  | .ok datapoints =>
      if datapoints.length > 0 then
        (lastMetric aws toLower entry.2 (sortSlice entry.1 datapoints)).map some
      else
        .ok none

theorem collectMetrics_cons (m : List Metric) (entry : Sigma fun _ : String => String) :
    cw.collectMetrics aws toLower sortSlice m (entry :: order) =
      (cw.metricOf aws toLower sortSlice entry).bind fun metric =>
        cw.collectMetrics aws toLower sortSlice (m ++ metric.toList) order := by
  rcases entry with ⟨metricName, label⟩
  rw [collectMetrics, metricOf]
  cases cw.client (cw.input metricName) with
  | error err => simp [Except.bind]
  | ok datapoints =>
      simp only
      split
      · cases lastMetric aws toLower label (sortSlice metricName datapoints) <;> rfl
      · simp [Except.bind]

private theorem collectMetrics_eq_ok {found : (Sigma fun _ : String => String) → Option Metric}
    (each : ∀ entry ∈ order, cw.metricOf aws toLower sortSlice entry = .ok (found entry))
    (m : List Metric) :
    cw.collectMetrics aws toLower sortSlice m order = .ok (m ++ order.filterMap found) := by
  induction order generalizing m with
  | nil => simp [collectMetrics]
  | cons entry order induction =>
      have rest := induction
        (fun other member => each other (List.mem_cons_of_mem entry member))
        (m ++ (found entry).toList)
      rw [collectMetrics_cons, each entry List.mem_cons_self]
      simp only [Except.bind, rest, List.append_assoc]
      cases isFound : found entry <;> simp [isFound]

private theorem collectMetrics_eq_error {panic : Panic} {entry : Sigma fun _ : String => String}
    (member : entry ∈ order) (fails : cw.metricOf aws toLower sortSlice entry = .error panic)
    (m : List Metric) :
    ∃ panic, cw.collectMetrics aws toLower sortSlice m order = .error panic := by
  induction order generalizing m with
  | nil => cases member
  | cons head order induction =>
      rw [collectMetrics_cons]
      cases round : cw.metricOf aws toLower sortSlice head with
      | error other => exact ⟨other, rfl⟩
      | ok metric =>
          have later : entry ∈ order := by
            rcases List.mem_cons.mp member with rfl | later
            · rw [fails] at round
              cases round
            · exact later
          exact induction later _

/-- A call that gives no datapoint. -/
def Empty (cw : CloudWatchCollector) (metricName : String) : Prop :=
  ∀ datapoints, cw.client (cw.input metricName) = .ok datapoints → datapoints = []

private theorem metricOf_eq_none {entry : Sigma fun _ : String => String}
    (empty : cw.Empty entry.1) : cw.metricOf aws toLower sortSlice entry = .ok none := by
  rw [metricOf]
  cases answer : cw.client (cw.input entry.1) with
  | error err => rfl
  | ok datapoints =>
      rw [empty datapoints answer]
      rfl

private theorem metricOf_eq {entry : Sigma fun _ : String => String} {datapoints : List Datapoint}
    {d : Datapoint} (answer : cw.client (cw.input entry.1) = .ok datapoints)
    (nonempty : datapoints ≠ [])
    (isLast : (sortSlice entry.1 datapoints).getLast? = some d) :
    cw.metricOf aws toLower sortSlice entry =
      (dereference d.unit).map fun unit => some (d.metric aws toLower entry.2 unit) := by
  rw [metricOf, answer]
  simp only [List.length_pos_of_ne_nil nonempty, if_true, lastMetric_eq isLast]
  cases d.unit <;> rfl

/-- The metric is made from one of the latest datapoints of the answer. -/
def Reports (aws : AWS) (toLower : String → String) (cw : CloudWatchCollector)
    (metricName label : String) (metric : Metric) : Prop :=
  ∃ datapoints d unit, cw.client (cw.input metricName) = .ok datapoints ∧
    Greatest (Earlier aws) datapoints d ∧ d.unit = some unit ∧
    metric = d.metric aws toLower label unit

/-- The latest datapoints of each answer have a unit. -/
def LatestHaveUnit (aws : AWS) (cw : CloudWatchCollector) : Prop :=
  ∀ metricName ∈ metricNamesToLabels, ∀ datapoints,
    cw.client (cw.input metricName) = .ok datapoints →
    ∀ d, Greatest (Earlier aws) datapoints d → d.unit.isSome

/-- What the round of a metric reports, if it can be completed. -/
def reported (aws : AWS) (toLower : String → String)
    (sortSlice : String → List Datapoint → List Datapoint) (cw : CloudWatchCollector)
    (entry : Sigma fun _ : String => String) : Option Metric :=
  (cw.metricOf aws toLower sortSlice entry).toOption.join

/-- A completed round. -/
structure Completes (aws : AWS) (toLower : String → String)
    (sortSlice : String → List Datapoint → List Datapoint) (cw : CloudWatchCollector)
    (entry : Sigma fun _ : String => String) : Prop where
  ok : cw.metricOf aws toLower sortSlice entry = .ok (cw.reported aws toLower sortSlice entry)
  empty : cw.reported aws toLower sortSlice entry = none ↔ cw.Empty entry.1
  reports : ∀ metric, cw.reported aws toLower sortSlice entry = some metric →
    cw.Reports aws toLower entry.1 entry.2 metric

theorem completes (sorts : ∀ metricName, Sorts (Earlier aws) (sortSlice metricName))
    (units : cw.LatestHaveUnit aws) {entry : Sigma fun _ : String => String}
    (known : entry.1 ∈ metricNamesToLabels) :
    cw.Completes aws toLower sortSlice entry := by
  by_cases empty : cw.Empty entry.1
  · have round := @metricOf_eq_none aws toLower sortSlice cw entry empty
    have nothing : cw.reported aws toLower sortSlice entry = none := by
      rw [reported, round]
      rfl
    refine ⟨round.trans (congrArg _ nothing.symm), iff_of_true nothing empty, ?_⟩
    intro metric found
    rw [nothing] at found
    cases found
  · have answered : ∃ datapoints,
        cw.client (cw.input entry.1) = .ok datapoints ∧ datapoints ≠ [] := by
      rw [Empty] at empty
      push Not at empty
      exact empty
    rcases answered with ⟨datapoints, answer, nonempty⟩
    rcases (sorts entry.1).exists_last nonempty with ⟨d, isLast⟩
    have greatest := (sorts entry.1).greatest_last not_earlier_self isLast
    rcases Option.isSome_iff_exists.mp (units entry.1 known datapoints answer d greatest)
      with ⟨unit, hasUnit⟩
    have round := @metricOf_eq aws toLower sortSlice cw entry datapoints d answer nonempty isLast
    rw [hasUnit] at round
    have something : cw.reported aws toLower sortSlice entry =
        some (d.metric aws toLower entry.2 unit) := by
      rw [reported, round]
      rfl
    refine ⟨round.trans (congrArg _ something.symm), ?_, ?_⟩
    · exact iff_of_false (by rw [something]; nofun) empty
    · intro metric found
      rw [something] at found
      cases found
      exact ⟨datapoints, d, unit, answer, greatest, hasUnit, rfl⟩

/-! ## Whole collections -/

section Collections

variable (ranges : RangeOrder metricNamesToLabels order)
include ranges

theorem mem_metricNamesToLabels {entry : Sigma fun _ : String => String}
    (member : entry ∈ order) : entry.1 ∈ metricNamesToLabels :=
  Finmap.mem_of_lookup_eq_some (ranges.mem_iff.mp member)

theorem collect_eq_ok (sorts : ∀ metricName, Sorts (Earlier aws) (sortSlice metricName))
    (units : cw.LatestHaveUnit aws) :
    cw.collect aws toLower sortSlice order =
      .ok (order.filterMap (cw.reported aws toLower sortSlice), none) := by
  have rounds : ∀ entry ∈ order, cw.metricOf aws toLower sortSlice entry =
      .ok (cw.reported aws toLower sortSlice entry) := by
    intro entry member
    exact (completes sorts units (mem_metricNamesToLabels ranges member)).ok
  rw [collect, collectMetrics_eq_ok rounds]
  rfl

/-- A latest datapoint without a unit ends some collection in a panic. -/
theorem exists_collect_error (missing : ¬cw.LatestHaveUnit aws) :
    ∃ sortSlice panic, (∀ metricName, Sorts (Earlier aws) (sortSlice metricName)) ∧
      cw.collect aws toLower sortSlice order = .error panic := by
  rw [LatestHaveUnit] at missing
  push Not at missing
  rcases missing with ⟨metricName, known, datapoints, answer, d, greatest, noUnit⟩
  rcases Finmap.mem_iff.mp known with ⟨label, found⟩
  have member : ⟨metricName, label⟩ ∈ order := ranges.mem_iff.mpr found
  have noUnit : d.unit = none := Option.not_isSome_iff_eq_none.mp noUnit
  have nonempty := List.ne_nil_of_mem greatest.1
  rw [earlier_eq] at greatest
  rcases exists_sorts_last (Datapoint.sortKey aws) greatest with ⟨sortSlice, sorts, isLast⟩
  rw [← earlier_eq] at sorts
  have fails : cw.metricOf aws toLower (fun _ => sortSlice) ⟨metricName, label⟩ =
      .error .nilDereference := by
    rw [metricOf_eq answer nonempty isLast, noUnit]
    rfl
  rcases collectMetrics_eq_error member fails [] with ⟨panic, collected⟩
  refine ⟨fun _ => sortSlice, panic, fun _ => sorts, ?_⟩
  rw [collect, collected]
  rfl

end Collections

end CloudWatchCollector

/-! ## The latest datapoint of each metric -/

namespace Time

/-- The nanoseconds since the Unix epoch. -/
def nanoseconds (t : Time) : Int :=
  t.unixSec.toInt * 10 ^ 9 + t.nsec.val

/-- The time is in the range of `UnixNano`. -/
def Representable (t : Time) : Prop :=
  -2 ^ 63 ≤ t.nanoseconds ∧ t.nanoseconds < 2 ^ 63

private theorem toInt_unixNano {t : Time} (representable : t.Representable) :
    t.unixNano.toInt = t.nanoseconds := by
  have billion : (1000000000 : Int64).toInt = 10 ^ 9 := rfl
  have nsec : (Int64.ofNat t.nsec.val).toInt = t.nsec.val :=
    Int64.toInt_ofNat_of_lt (lt_trans t.nsec.isLt (by decide))
  rw [unixNano, Int64.toInt_add, Int64.toInt_mul, Int.bmod_add_bmod, billion, nsec]
  exact Int.bmod_eq_of_le representable.1 representable.2

end Time

/-- A datapoint with a unit and a timestamp that `UnixNano` can represent. -/
structure Datapoint.Complete (d : Datapoint) : Prop where
  unit : d.unit.isSome
  timestamp : ∃ t, d.timestamp = some t ∧ t.Representable

/-- The metric is that of `d`, which has the greatest timestamp. -/
structure LatestOf (toLower : String → String) (label : String)
    (datapoints : List Datapoint) (d : Datapoint) (metric : Metric) : Prop where
  mem : d ∈ datapoints
  key : metric.key = label
  timestamp : ∃ t, d.timestamp = some t ∧ metric.timestamp.toInt = t.nanoseconds ∧
    ∀ other ∈ datapoints, ∀ earlier, other.timestamp = some earlier →
      earlier.nanoseconds ≤ t.nanoseconds
  value : metric.value = d.average.getD ⟨0⟩
  unit : ∃ unit, d.unit = some unit ∧ metric.unit = toLower unit
  tags : metric.tags = (∅ : Finmap fun _ : String => String).insert "source" "cloudwatch"

namespace CloudWatchCollector

variable {aws : AWS} {toLower : String → String}
  {sortSlice : String → List Datapoint → List Datapoint}
  {cw : CloudWatchCollector} {order : List (Sigma fun _ : String => String)}

/-- All datapoints of all answers are complete. -/
def AnswersComplete (cw : CloudWatchCollector) : Prop :=
  ∀ metricName ∈ metricNamesToLabels, ∀ datapoints,
    cw.client (cw.input metricName) = .ok datapoints →
    ∀ d ∈ datapoints, d.Complete

theorem AnswersComplete.latestHaveUnit (complete : cw.AnswersComplete) :
    cw.LatestHaveUnit aws :=
  fun metricName known datapoints answer d greatest =>
    (complete metricName known datapoints answer d greatest.1).unit

private theorem Reports.latestOf {metricName label : String} {metric : Metric}
    (reports : cw.Reports aws toLower metricName label metric)
    (complete : ∀ datapoints, cw.client (cw.input metricName) = .ok datapoints →
      ∀ d ∈ datapoints, d.Complete) :
    ∃ datapoints d, cw.client (cw.input metricName) = .ok datapoints ∧
      LatestOf toLower label datapoints d metric := by
  rcases reports with ⟨datapoints, d, unit, answer, greatest, hasUnit, rfl⟩
  rcases (complete datapoints answer d greatest.1).timestamp with ⟨t, stamped, representable⟩
  have nanoseconds : (aws.timeValue d.timestamp).unixNano.toInt = t.nanoseconds := by
    rw [stamped, aws.timeValue_some]
    exact Time.toInt_unixNano representable
  refine ⟨datapoints, d, answer, greatest.1, rfl, ⟨t, stamped, nanoseconds, ?_⟩,
    aws.float64Value_eq d.average, ⟨unit, hasUnit, rfl⟩, rfl⟩
  intro other member earlier otherStamped
  rcases (complete datapoints answer other member).timestamp with
    ⟨_, sameStamp, otherRepresentable⟩
  rw [otherStamped] at sameStamp
  cases sameStamp
  have notEarlier := greatest.2 other member
  rw [earlier_iff, Datapoint.sortKey, Datapoint.sortKey, nanoseconds, otherStamped,
    aws.timeValue_some, Time.toInt_unixNano otherRepresentable] at notEarlier
  exact not_lt.mp notEarlier

/-- The metrics by the name of the metric they are for. -/
def reports (aws : AWS) (toLower : String → String)
    (sortSlice : String → List Datapoint → List Datapoint) (cw : CloudWatchCollector)
    (order : List (Sigma fun _ : String => String)) : List (String × Metric) :=
  order.filterMap fun entry =>
    (cw.reported aws toLower sortSlice entry).map fun metric => (entry.1, metric)

private theorem map_snd_reports :
    (cw.reports aws toLower sortSlice order).map Prod.snd =
      order.filterMap (cw.reported aws toLower sortSlice) := by
  rw [reports, List.map_filterMap]
  congr
  funext entry
  cases cw.reported aws toLower sortSlice entry <;> rfl

private theorem nodup_reports (ranges : RangeOrder metricNamesToLabels order) :
    ((cw.reports aws toLower sortSlice order).map Prod.fst).Nodup := by
  have keys := List.nodupKeys_iff_pairwise.mp ranges.nodupKeys
  rw [List.Nodup, List.pairwise_map, reports, List.pairwise_filterMap]
  apply keys.imp
  intro left right different leftReport leftFound rightReport rightFound
  rcases Option.map_eq_some_iff.mp leftFound with ⟨_, _, rfl⟩
  rcases Option.map_eq_some_iff.mp rightFound with ⟨_, _, rfl⟩
  exact different

/-- However the range visits the metrics and the sort orders equal timestamps,
`Collect` succeeds and returns, for exactly those metrics whose call gave a
datapoint, one metric with their label and the data of one of the datapoints with
the greatest timestamp. -/
theorem collect_latest (aws : AWS) (toLower : String → String)
    (sortSlice : String → List Datapoint → List Datapoint) (cw : CloudWatchCollector)
    (order : List (Sigma fun _ : String => String))
    (sorts : ∀ metricName, Sorts (Earlier aws) (sortSlice metricName))
    (ranges : RangeOrder metricNamesToLabels order) (complete : cw.AnswersComplete) :
    ∃ reports : List (String × Metric),
      cw.collect aws toLower sortSlice order = .ok (reports.map Prod.snd, none) ∧
      (reports.map Prod.fst).Nodup ∧
      (∀ metricName, metricName ∈ reports.map Prod.fst ↔
        metricName ∈ metricNamesToLabels ∧ ∃ datapoints,
          cw.client (cw.input metricName) = .ok datapoints ∧ datapoints ≠ []) ∧
      ∀ report ∈ reports, ∃ label datapoints d,
        metricNamesToLabels.lookup report.1 = some label ∧
        cw.client (cw.input report.1) = .ok datapoints ∧
        LatestOf toLower label datapoints d report.2 := by
  have units : cw.LatestHaveUnit aws := complete.latestHaveUnit
  have rounds : ∀ entry ∈ order, cw.Completes aws toLower sortSlice entry :=
    fun entry member => completes sorts units (mem_metricNamesToLabels ranges member)
  refine ⟨cw.reports aws toLower sortSlice order, ?_, nodup_reports ranges, ?_, ?_⟩
  · rw [collect_eq_ok ranges sorts units, map_snd_reports]
  · intro metricName
    simp only [reports, List.map_filterMap, List.mem_filterMap, Option.map_map,
      Option.map_eq_some_iff, Function.comp_apply]
    constructor
    · intro found
      rcases found with ⟨entry, member, metric, reported, rfl⟩
      refine ⟨mem_metricNamesToLabels ranges member, ?_⟩
      rcases (rounds entry member).reports metric reported with
        ⟨datapoints, d, _, answer, greatest, _⟩
      exact ⟨datapoints, answer, List.ne_nil_of_mem greatest.1⟩
    · intro answered
      rcases answered with ⟨known, datapoints, answer, nonempty⟩
      rcases Finmap.mem_iff.mp known with ⟨label, found⟩
      have member : ⟨metricName, label⟩ ∈ order := ranges.mem_iff.mpr found
      have reported : cw.reported aws toLower sortSlice ⟨metricName, label⟩ ≠ none := by
        intro nothing
        exact nonempty ((rounds _ member).empty.mp nothing datapoints answer)
      rcases Option.ne_none_iff_exists'.mp reported with ⟨metric, reported⟩
      exact ⟨⟨metricName, label⟩, member, metric, reported, rfl⟩
  · intro report reportMember
    rcases List.mem_filterMap.mp reportMember with ⟨entry, member, found⟩
    rcases Option.map_eq_some_iff.mp found with ⟨metric, reported, rfl⟩
    have labelled : metricNamesToLabels.lookup entry.1 = some entry.2 :=
      ranges.mem_iff.mp member
    rcases ((rounds entry member).reports metric reported).latestOf
      (complete entry.1 (mem_metricNamesToLabels ranges member)) with
      ⟨datapoints, d, answer, latest⟩
    exact ⟨entry.2, datapoints, d, labelled, answer, latest⟩

end CloudWatchCollector

/-- A range over the metrics, from the last to the first. -/
def sampleRange : List (Sigma fun _ : String => String) :=
  metricLabels.reverse.map fun entry => ⟨entry.1, entry.2⟩

theorem sampleRange_ranges : RangeOrder metricNamesToLabels sampleRange :=
  rfl

def sampleAWS : AWS where
  timeValue pointer := pointer.getD .zero
  timeValue_some _ := rfl
  timeValue_none := rfl
  float64Value pointer := pointer.getD ⟨0⟩
  float64Value_some _ := rfl
  float64Value_none := rfl

def sampleSort : String → List Datapoint → List Datapoint :=
  fun _ => sortByKey (Datapoint.sortKey sampleAWS)

theorem sampleSort_sorts (metricName : String) :
    Sorts (Earlier sampleAWS) (sampleSort metricName) := by
  rw [earlier_eq]
  exact sorts_sortByKey (Datapoint.sortKey sampleAWS)

/-- Lowering of the unit of the sample. -/
def sampleUnitToLower (text : String) : String :=
  if text = "Percent" then "percent" else text

def sampleDatapoint (seconds : Int64) (value : BitVec 64) : Datapoint where
  timestamp := some { Time.zero with unixSec := seconds }
  average := some ⟨value⟩
  unit := some "Percent"

/-- One metric comes with its latest datapoint first, one call fails, and the
others give nothing. -/
def sampleCloudWatch : CloudWatchCollector where
  client := fun input =>
    if input.metricName = "CPUUtilization" then
      .ok [sampleDatapoint 1500000060 2, sampleDatapoint 1500000000 1]
    else if input.metricName = "ReadIOPS" then .error "throttled"
    else .ok []
  instanceName := "rdsbroker-instance-guid1"

theorem sampleCloudWatch_complete : sampleCloudWatch.AnswersComplete := by
  intro metricName known datapoints answer d member
  simp only [sampleCloudWatch, CloudWatchCollector.input] at answer
  split at answer
  · cases answer
    simp only [List.mem_cons, List.not_mem_nil, or_false] at member
    rcases member with rfl | rfl
    · exact ⟨rfl, _, rfl, by decide, by decide⟩
    · exact ⟨rfl, _, rfl, by decide, by decide⟩
  · split at answer
    · cases answer
    · cases answer
      cases member

theorem collect_latest_sample :
    ∃ metric, sampleCloudWatch.collect sampleAWS sampleUnitToLower sampleSort sampleRange =
        .ok ([metric], none) ∧
      metric.key = "cpu" ∧ metric.unit = "percent" ∧
      metric.timestamp = 1500000060000000000 ∧
      ∃ reports : List (String × Metric), reports.map Prod.snd = [metric] ∧
        ∀ metricName, metricName ∈ reports.map Prod.fst ↔
          metricName ∈ metricNamesToLabels ∧ ∃ datapoints,
            sampleCloudWatch.client (sampleCloudWatch.input metricName) =
              .ok datapoints ∧ datapoints ≠ [] := by
  rcases CloudWatchCollector.collect_latest sampleAWS sampleUnitToLower sampleSort
    sampleCloudWatch sampleRange sampleSort_sorts sampleRange_ranges sampleCloudWatch_complete with
    ⟨reports, collected, _, names, _⟩
  refine ⟨_, rfl, rfl, rfl, by decide, reports, ?_, names⟩
  exact (Prod.mk.inj (Except.ok.inj collected)).1.symm

end RdsMetricCollector.Collector
