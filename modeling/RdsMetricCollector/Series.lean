import RdsMetricCollector.Collector.CloudWatchMetrics
import RdsMetricCollector.Collector.MetricQueries
import RdsMetricCollector.Deployment
import RdsMetricCollector.Scheduler.Provenance

/-! # Metric series

A series is the metrics of one instance under one key. In the deployed
collector each series has a single reporter, although every instance has two
workers, and its metrics carry the source they come from.
-/

namespace RdsMetricCollector.Deployment

open RdsMetricCollector.BrokerInfo
open RdsMetricCollector.Collector
open RdsMetricCollector.Runtime
open RdsMetricCollector.Scheduler
open RdsMetricCollector.Execution

/-! ## What the drivers' collectors return -/

/-- What a `Collect` call can return for the driver of this name, when it returns
no error. -/
inductive Returns (toLower : String → String) : String → List Metric → Prop
  | postgres {dbConn : DBConn} {collected : List Metric}
      (returned : SqlMetricsCollector.collect toLower ⟨postgresMetricQueries⟩ dbConn =
        .ok (collected, none)) :
      Returns toLower "postgres" collected
  | mysql {dbConn : DBConn} {collected : List Metric}
      (returned : SqlMetricsCollector.collect toLower ⟨mysqlMetricQueries⟩ dbConn =
        .ok (collected, none)) :
      Returns toLower "mysql" collected
  | cloudwatch {aws : AWS} {cw : CloudWatchCollector}
      {sortSlice : String → List Datapoint → List Datapoint}
      {order : List (Sigma fun _ : String => String)} {collected : List Metric}
      (ranges : RangeOrder metricNamesToLabels order)
      (returned : cw.collect aws toLower sortSlice order = .ok (collected, none)) :
      Returns toLower "cloudwatch" collected

def postgresKeys : List String :=
  (declared postgresMetricQueries).map MetricQueryMeta.key

def mysqlKeys : List String :=
  (declared mysqlMetricQueries).map MetricQueryMeta.key

def cloudwatchKeys : List String :=
  metricLabels.map Prod.snd

/-- The keys under which a driver reports, and its source tag. -/
inductive IsSeriesOf : String → String → String → Prop
  | postgres {key : String} (known : key ∈ postgresKeys) : IsSeriesOf "postgres" key "sql"
  | mysql {key : String} (known : key ∈ mysqlKeys) : IsSeriesOf "mysql" key "sql"
  | cloudwatch {key : String} (known : key ∈ cloudwatchKeys) :
      IsSeriesOf "cloudwatch" key "cloudwatch"

theorem mem_declared_of_mem_expectedMetrics {dbConn : DBConn} {index : Nat}
    {queries : List MetricQuery} {m : MetricQueryMeta}
    (member : m ∈ SqlMetricsCollector.expectedMetrics dbConn index queries) :
    m ∈ declared queries := by
  induction queries generalizing index with
  | nil => exact member
  | cons q queries induction =>
      rw [declared, List.flatMap_cons]
      rw [SqlMetricsCollector.expectedMetrics] at member
      rcases List.mem_append.mp member with first | rest
      · apply List.mem_append_left
        cases answer : dbConn.queryContext index q.query with
        | error err =>
            rw [answer] at first
            cases first
        | ok rows =>
            rw [answer] at first
            exact MetricQuery.mem_metrics_of_mem_expected first
      · exact List.mem_append_right _ (induction rest)

/-- Every metric of a collection is one that the queries declare. -/
theorem isSqlMetric_of_collected {toLower : String → String} {queries : List MetricQuery}
    {dbConn : DBConn} {collected : List Metric}
    (returned : SqlMetricsCollector.collect toLower ⟨queries⟩ dbConn =
      .ok (collected, none)) {metric : Metric} (member : metric ∈ collected) :
    ∃ m ∈ declared queries, IsSqlMetric m metric := by
  have each := SqlMetricsCollector.collect_expected returned
  rcases exists_meta_of_mem each member with ⟨m, expected, isMetric⟩
  exact ⟨m, mem_declared_of_mem_expectedMetrics expected, isMetric⟩

/-! ## CloudWatch -/

private theorem cloudwatch_of_lastMetric {aws : AWS} {toLower : String → String} {label : String}
    {datapoints : List Datapoint} {metric : Metric}
    (made : CloudWatchCollector.lastMetric aws toLower label datapoints = .ok metric) :
    metric.key = label ∧ metric.tags.lookup "source" = some "cloudwatch" := by
  unfold CloudWatchCollector.lastMetric at made
  cases last : element datapoints (datapoints.length - 1) with
  | error panic =>
      rw [last] at made
      cases made
  | ok d =>
      cases unit : dereference d.unit with
      | error panic =>
          simp only [last, unit, bind, Except.bind] at made
          cases made
      | ok text =>
          simp only [last, unit, bind, Except.bind] at made
          cases made
          exact ⟨rfl, Finmap.lookup_insert _⟩

private theorem cloudwatch_of_metricOf {aws : AWS} {toLower : String → String}
    {sortSlice : String → List Datapoint → List Datapoint} {cw : CloudWatchCollector}
    {entry : Sigma fun _ : String => String} {metric : Metric}
    (round : cw.metricOf aws toLower sortSlice entry = .ok (some metric)) :
    metric.key = entry.2 ∧ metric.tags.lookup "source" = some "cloudwatch" := by
  unfold CloudWatchCollector.metricOf at round
  split at round
  · cases round
  · split_ifs at round
    · cases made : CloudWatchCollector.lastMetric aws toLower entry.2 (sortSlice entry.1 _) with
      | error panic =>
          rw [made] at round
          cases round
      | ok last =>
          rw [made] at round
          cases round
          exact cloudwatch_of_lastMetric made
    · cases round

private theorem cloudwatch_of_collectMetrics {aws : AWS} {toLower : String → String}
    {sortSlice : String → List Datapoint → List Datapoint} {cw : CloudWatchCollector}
    {order : List (Sigma fun _ : String => String)} {before collected : List Metric}
    (returned : cw.collectMetrics aws toLower sortSlice before order = .ok collected)
    {metric : Metric} (member : metric ∈ collected) :
    metric ∈ before ∨
      metric.tags.lookup "source" = some "cloudwatch" ∧
        ∃ metricName, ⟨metricName, metric.key⟩ ∈ order := by
  induction order generalizing before with
  | nil =>
      cases returned
      exact .inl member
  | cons entry order induction =>
      rw [CloudWatchCollector.collectMetrics_cons] at returned
      cases round : cw.metricOf aws toLower sortSlice entry with
      | error panic =>
          rw [round] at returned
          cases returned
      | ok found =>
          rw [round] at returned
          rcases induction returned with earlier | ⟨source, metricName, later⟩
          · rcases List.mem_append.mp earlier with inBefore | now
            · exact .inl inBefore
            · cases Option.mem_toList.mp now
              rcases cloudwatch_of_metricOf round with ⟨key, source⟩
              refine .inr ⟨source, entry.1, ?_⟩
              rw [key]
              exact List.mem_cons_self
          · exact .inr ⟨source, metricName, List.mem_cons_of_mem entry later⟩

private theorem cloudwatch_of_collected {aws : AWS} {toLower : String → String}
    {sortSlice : String → List Datapoint → List Datapoint} {cw : CloudWatchCollector}
    {order : List (Sigma fun _ : String => String)} {collected : List Metric}
    (ranges : RangeOrder metricNamesToLabels order)
    (returned : cw.collect aws toLower sortSlice order = .ok (collected, none))
    {metric : Metric} (member : metric ∈ collected) :
    metric.key ∈ cloudwatchKeys ∧ metric.tags.lookup "source" = some "cloudwatch" := by
  rw [CloudWatchCollector.collect] at returned
  cases ran : cw.collectMetrics aws toLower sortSlice [] order with
  | error panic =>
      rw [ran] at returned
      cases returned
  | ok m =>
      rw [ran] at returned
      cases returned
      rcases cloudwatch_of_collectMetrics ran member with none | ⟨source, metricName, visited⟩
      · cases none
      · have labelled := lookup_metricNamesToLabels_iff.mp (ranges.mem_iff.mp visited)
        exact ⟨List.mem_map.mpr ⟨_, labelled, rfl⟩, source⟩

/-! ## Series of a run -/

private theorem isSeriesOf_of_returns {toLower : String → String} {driver : String}
    {collected : List Metric} (returns : Returns toLower driver collected)
    {metric : Metric} (member : metric ∈ collected) :
    ∃ source, metric.tags.lookup "source" = some source ∧
      IsSeriesOf driver metric.key source := by
  cases returns with
  | postgres returned =>
      rcases isSqlMetric_of_collected returned member with ⟨m, declared, isMetric⟩
      exact ⟨"sql", isMetric.source,
        .postgres (List.mem_map.mpr ⟨m, declared, isMetric.key.symm⟩)⟩
  | mysql returned =>
      rcases isSqlMetric_of_collected returned member with ⟨m, declared, isMetric⟩
      exact ⟨"sql", isMetric.source,
        .mysql (List.mem_map.mpr ⟨m, declared, isMetric.key.symm⟩)⟩
  | cloudwatch ranges returned =>
      rcases cloudwatch_of_collected ranges returned member with ⟨key, source⟩
      exact ⟨"cloudwatch", source, .cloudwatch key⟩

private theorem sqlKeys_disjoint {key : String} (sql : key ∈ postgresKeys ∨ key ∈ mysqlKeys) :
    key ∉ cloudwatchKeys := by
  have separate : ∀ key ∈ cloudwatchKeys, key ∉ postgresKeys ∧ key ∉ mysqlKeys := by
    decide
  intro member
  rcases sql with postgres | mysql
  · exact (separate key member).1 postgres
  · exact (separate key member).2 mysql

/-- No SQL driver reports under a key of the cloudwatch driver. -/
theorem IsSeriesOf.cloudwatch_iff {driver other key source otherSource : String}
    (series : IsSeriesOf driver key source) (same : IsSeriesOf other key otherSource) :
    driver = "cloudwatch" ↔ other = "cloudwatch" := by
  cases series with
  | postgres known | mysql known =>
      cases same with
      | postgres | mysql => simp
      | cloudwatch both => exact absurd both (sqlKeys_disjoint (by simp [known]))
  | cloudwatch known =>
      cases same with
      | postgres both | mysql both => exact absurd known (sqlKeys_disjoint (by simp [both]))
      | cloudwatch => simp

/-- What surrounds a run: collections return what the drivers' collectors make
of the answers they get, listings come from the broker information, and the
engine of a database does not change. -/
structure Surroundings (toLower : String → String) (r : RDSBrokerInfo)
    (engineOf : String → String) (trace : List Scheduler.Event) : Prop where
  collections : ∀ index id collected,
    .worker index id (.collectReturned collected none) ∈ trace →
      Returns toLower id.driver collected
  listings : ∀ instanceInfos, .listInstancesReturned (.ok instanceInfos) ∈ trace →
    ∃ dbs : List DBInstance, instanceInfos = dbs.filterMap r.listedInstance ∧
      ∀ db ∈ dbs, engineOf (guid r db) = stringValue db.engine

variable {toLower : String → String} {r : RDSBrokerInfo} {engineOf : String → String}
  {trace : List Scheduler.Event} {cfg : SchedulerConfig} {s : Scheduler.State}

/-- Workers are for the engine of their instance, or for cloudwatch. -/
theorem Surroundings.driver_of_listedFor (surroundings : Surroundings toLower r engineOf trace)
    {id : WorkerID} (listed : ListedFor (scheduler cfg) trace id) :
    id.driver = engineOf id.instanceGUID ∨ id.driver = "cloudwatch" := by
  rcases listed with ⟨instanceInfos, returned, info, member, wants⟩
  rcases surroundings.listings instanceInfos returned with ⟨dbs, listing, engines⟩
  rw [listing, filterMap_listedInstance] at member
  rcases List.mem_map.mp member with ⟨db, dbMember, rfl⟩
  rcases List.mem_filter.mp dbMember with ⟨described, monitored⟩
  have monitored : Monitored db := of_decide_eq_true monitored
  rcases mem_workerIDs_iff.mp ((wants_instanceInfo_iff monitored).mp wants) with
    ⟨sameGUID, driver⟩
  rw [← sameGUID, engines db described]
  exact driver

theorem series_of_emitted (reachable : (model (scheduler cfg)).Reachable trace s)
    (surroundings : Surroundings toLower r engineOf trace) {index : Nat} {id : WorkerID}
    {envelope : MetricEnvelope} (emitted : .worker index id (.emitted envelope) ∈ trace) :
    envelope.instanceGUID = id.instanceGUID ∧
      ∃ source, envelope.metric.tags.lookup "source" = some source ∧
        IsSeriesOf id.driver envelope.metric.key source := by
  rcases collection_of_emitted reachable emitted with ⟨sameGUID, collected, returned, metric⟩
  exact ⟨sameGUID,
    isSeriesOf_of_returns (surroundings.collections index id collected returned) metric⟩

theorem reporter_eq (reachable : (model (scheduler cfg)).Reachable trace s)
    (surroundings : Surroundings toLower r engineOf trace) {index otherIndex : Nat}
    {id otherId : WorkerID} {envelope otherEnvelope : MetricEnvelope}
    (emitted : .worker index id (.emitted envelope) ∈ trace)
    (otherEmitted : .worker otherIndex otherId (.emitted otherEnvelope) ∈ trace)
    (guids : envelope.instanceGUID = otherEnvelope.instanceGUID)
    (keys : envelope.metric.key = otherEnvelope.metric.key) : id = otherId := by
  rcases series_of_emitted reachable surroundings emitted with ⟨guid, source, _, ofDriver⟩
  rcases series_of_emitted reachable surroundings otherEmitted with
    ⟨otherGUID, otherSource, _, ofOther⟩
  have sameGUID : id.instanceGUID = otherId.instanceGUID := by
    rw [← guid, guids, otherGUID]
  rw [keys] at ofDriver
  have cloudwatchIff := ofDriver.cloudwatch_iff ofOther
  have driver := surroundings.driver_of_listedFor (listedFor_of_worker reachable emitted)
  have other := surroundings.driver_of_listedFor (listedFor_of_worker reachable otherEmitted)
  have sameDriver : id.driver = otherId.driver := by
    by_cases isCloudwatch : id.driver = "cloudwatch"
    · rw [isCloudwatch, cloudwatchIff.mp isCloudwatch]
    · have notOther := mt cloudwatchIff.mpr isCloudwatch
      rw [driver.resolve_right isCloudwatch, other.resolve_right notOther, sameGUID]
  rcases id with ⟨name, instanceGUID⟩
  rcases otherId with ⟨otherName, otherInstanceGUID⟩
  cases sameDriver
  cases sameGUID
  rfl

/-- Every emitted metric carries the instance and the source of its worker, under
one of the keys of its driver. No two workers report under the same key for the
same instance. -/
theorem series_have_one_reporter
    (reachable : (model (scheduler cfg)).Reachable trace s)
    (surroundings : Surroundings toLower r engineOf trace) :
    (∀ index id envelope, .worker index id (.emitted envelope) ∈ trace →
      envelope.instanceGUID = id.instanceGUID ∧
        ∃ source, envelope.metric.tags.lookup "source" = some source ∧
          IsSeriesOf id.driver envelope.metric.key source) ∧
    ∀ index id envelope otherIndex otherId otherEnvelope,
      .worker index id (.emitted envelope) ∈ trace →
      .worker otherIndex otherId (.emitted otherEnvelope) ∈ trace →
      envelope.instanceGUID = otherEnvelope.instanceGUID →
      envelope.metric.key = otherEnvelope.metric.key → id = otherId := by
  refine ⟨?_, ?_⟩
  · intro index id envelope emitted
    exact series_of_emitted reachable surroundings emitted
  · intro index id envelope otherIndex otherId otherEnvelope emitted otherEmitted guids keys
    exact reporter_eq reachable surroundings emitted otherEmitted guids keys

/-! A run in which one Postgres database is found and queried. -/

def samplePostgresMetrics : List Metric :=
  match SqlMetricsCollector.collect id ⟨postgresMetricQueries⟩
      SqlMetricsCollector.samplePostgres with
  | .ok (collected, none) => collected
  | _ => []

def sampleEnvelope : MetricEnvelope where
  instanceGUID := "1"
  metric := {
    key := "connections"
    timestamp := 0
    value := ⟨0x3ff0000000000000⟩
    unit := "conn"
    tags := (∅ : Tags).insert "source" "sql" }

def sampleSeriesActions : List Scheduler.Action :=
  [.timerFires, .receiveTick, .resetTimer,
    .listInstancesSucceeds [(sampleInfo, sampleDriverOrder sampleConfig)]
      [⟨samplePostgresID, sampleInfo⟩, ⟨sampleCloudwatchID, sampleInfo⟩],
    .startNext, .startNext,
    .run 0 .callNewCollector, .run 0 (.newCollectorReturns none),
    .run 0 .timerFires, .run 0 .receiveTick,
    .run 0 (.collectReturns samplePostgresMetrics none), .run 0 .emit]

def sampleSeriesTrace : List Scheduler.Event :=
  [.listInstancesCalled, .listInstancesReturned (.ok [sampleInfo]),
    .workerStarted 0 (Registry.newWorker (scheduler sampleConfig) samplePostgresID sampleInfo),
    .workerStarted 1 (Registry.newWorker (scheduler sampleConfig) sampleCloudwatchID sampleInfo),
    .worker 0 samplePostgresID (.newCollectorCalled sampleInfo),
    .worker 0 samplePostgresID (.newCollectorReturned none),
    .worker 0 samplePostgresID (.collectCalled (15000 * millisecond)),
    .worker 0 samplePostgresID (.collectReturned samplePostgresMetrics none),
    .worker 0 samplePostgresID (.emitted sampleEnvelope)]

theorem reachable_sampleSeriesTrace :
    ∃ s, (model (scheduler sampleConfig)).Reachable sampleSeriesTrace s :=
  ⟨_, (model (scheduler sampleConfig)).reachable_of_run sampleSeriesActions rfl⟩

theorem surroundings_sampleSeriesTrace :
    Surroundings id sampleBroker (fun _ => "postgres") sampleSeriesTrace where
  collections := by
    intro index worker collected member
    simp only [sampleSeriesTrace, List.mem_cons, List.not_mem_nil, reduceCtorEq,
      Event.worker.injEq, RunEvent.collectReturned.injEq, false_or, or_false,
      and_false, and_true] at member
    rcases member with ⟨rfl, rfl, rfl⟩
    exact @Returns.postgres _ SqlMetricsCollector.samplePostgres _ rfl
  listings := by
    intro instanceInfos member
    simp only [sampleSeriesTrace, List.mem_cons, List.not_mem_nil, reduceCtorEq,
      Event.listInstancesReturned.injEq, Except.ok.injEq, false_or, or_false] at member
    subst member
    refine ⟨[sampleDB "rds-broker-1" "postgres"], by decide, ?_⟩
    simp [sampleDB, stringValue]

theorem series_have_one_reporter_sample :
    ∃ s, (model (scheduler sampleConfig)).Reachable sampleSeriesTrace s ∧
      ∃ source, sampleEnvelope.metric.tags.lookup "source" = some source ∧
        IsSeriesOf "postgres" "connections" source := by
  rcases reachable_sampleSeriesTrace with ⟨s, reachable⟩
  have both := series_have_one_reporter reachable surroundings_sampleSeriesTrace
  have emitted : .worker 0 samplePostgresID (.emitted sampleEnvelope) ∈ sampleSeriesTrace := by
    simp [sampleSeriesTrace]
  exact ⟨s, reachable, (both.1 0 samplePostgresID sampleEnvelope emitted).2⟩

end RdsMetricCollector.Deployment
