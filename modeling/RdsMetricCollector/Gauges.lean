import RdsMetricCollector.Series

/-! # Gauges

The emitter sends every metric to Loggregator as a gauge. The client and the
options for its envelopes come from another package; its functions are a
parameter, and what it documents about them is assumed under a name. A panic is an
error with its message.
-/

namespace RdsMetricCollector.Emitter

structure GaugeValue where
  unit : String
  value : Float64
  deriving DecidableEq

/-- An envelope with a gauge. -/
structure Envelope where
  timestamp : Int64
  sourceId : String
  instanceId : String
  tags : Finmap fun _ : String => String
  metrics : Finmap fun _ : String => GaugeValue
  deriving DecidableEq

inductive Message
  | envelope (e : Envelope)
  | other (typeName : String)
  deriving DecidableEq

abbrev EmitGaugeOption := Message → Except String Message

/-- Overrides the timestamp of an envelope. -/
def withTimestamp (timestamp : Int64) : EmitGaugeOption
  | .envelope e => .ok (.envelope { e with timestamp })
  | .other typeName => .error ("unsupported Message type: " ++ typeName)

/-- The part of `go-loggregator` that `Emit` uses. `emitGauge` gives the message
that is sent, for an envelope that the client makes at the given time. -/
structure Loggregator where
  IngressClient : Type
  emitGauge : IngressClient → Int64 → List EmitGaugeOption → Except String Message
  withGaugeValue : String → Float64 → String → EmitGaugeOption
  withGaugeSourceInfo : String → String → EmitGaugeOption
  withEnvelopeTags : (Finmap fun _ : String => String) → EmitGaugeOption

/-- What `go-loggregator` documents: the client applies the options in order to an
envelope with an empty gauge, and each option sets what it is named for. -/
structure Loggregator.Documented (l : Loggregator) : Prop where
  emitGauge : ∀ client created, ∃ fresh : Envelope, fresh.metrics = ∅ ∧
    ∀ options, l.emitGauge client created options =
      options.foldlM (fun message option => option message) (.envelope fresh)
  withGaugeValue : ∀ name value unit (e : Envelope),
    l.withGaugeValue name value unit (.envelope e) =
      .ok (.envelope { e with metrics := e.metrics.insert name { unit, value } })
  withGaugeSourceInfo : ∀ sourceId instanceId (e : Envelope),
    l.withGaugeSourceInfo sourceId instanceId (.envelope e) =
      .ok (.envelope { e with sourceId, instanceId })
  withEnvelopeTags : ∀ tags (e : Envelope), ∃ all,
    l.withEnvelopeTags tags (.envelope e) = .ok (.envelope { e with tags := all }) ∧
      ∀ name value, tags.lookup name = some value → all.lookup name = some value

structure LoggregatorEmitter (l : Loggregator) where
  loggregatorIngressClient : l.IngressClient

/-- `now` is the time that `Emit` reads. -/
def LoggregatorEmitter.emit {l : Loggregator} (e : LoggregatorEmitter l)
    (now created : Int64) (me : MetricEnvelope) : Except String Message :=
  let timestamp := if me.metric.timestamp ≠ 0 then me.metric.timestamp else now
  l.emitGauge e.loggregatorIngressClient created
    [l.withGaugeValue me.metric.key me.metric.value me.metric.unit,
      l.withGaugeSourceInfo me.instanceGUID "0",
      withTimestamp timestamp,
      l.withEnvelopeTags me.metric.tags]

/-- The envelope is the gauge of a metric that is emitted at the time `now`. -/
structure IsGauge (now : Int64) (me : MetricEnvelope) (e : Envelope) : Prop where
  timestamp : e.timestamp = if me.metric.timestamp ≠ 0 then me.metric.timestamp else now
  sourceId : e.sourceId = me.instanceGUID
  instanceId : e.instanceId = "0"
  tags : ∀ name value, me.metric.tags.lookup name = some value →
    e.tags.lookup name = some value
  metrics : e.metrics = (∅ : Finmap fun _ : String => GaugeValue).insert me.metric.key
    { unit := me.metric.unit, value := me.metric.value }

private theorem Loggregator.Documented.exists_tagged {l : Loggregator}
    (documented : l.Documented) {tags : Finmap fun _ : String => String} {e : Envelope}
    {P : Envelope → Prop}
    (holds : ∀ all : Finmap fun _ : String => String,
      (∀ name value, tags.lookup name = some value → all.lookup name = some value) →
      P { e with tags := all }) :
    ∃ tagged, l.withEnvelopeTags tags (.envelope e) = .ok (.envelope tagged) ∧ P tagged := by
  rcases documented.withEnvelopeTags tags e with ⟨all, tagged, kept⟩
  exact ⟨_, tagged, holds all kept⟩

private theorem Loggregator.Documented.exists_gauge {l : Loggregator} (documented : l.Documented)
    (emitter : LoggregatorEmitter l) (now created : Int64) (me : MetricEnvelope) :
    ∃ e, emitter.emit now created me = .ok (.envelope e) ∧ IsGauge now me e := by
  rcases documented.emitGauge emitter.loggregatorIngressClient created with
    ⟨fresh, empty, sent⟩
  unfold LoggregatorEmitter.emit
  simp only [sent, List.foldlM_cons, List.foldlM_nil, bind_pure]
  simp only [documented.withGaugeValue, documented.withGaugeSourceInfo, withTimestamp, bind,
    Except.bind]
  apply documented.exists_tagged
  intro all kept
  exact ⟨rfl, rfl, rfl, kept, by rw [empty]⟩

theorem IsGauge.mem_metrics {now : Int64} {me : MetricEnvelope} {e : Envelope}
    (gauge : IsGauge now me e) {name : String} : name ∈ e.metrics ↔ name = me.metric.key := by
  simp [gauge.metrics, Finmap.mem_insert, Finmap.notMem_empty]

end RdsMetricCollector.Emitter

namespace RdsMetricCollector.Deployment

open RdsMetricCollector.BrokerInfo
open RdsMetricCollector.Emitter
open RdsMetricCollector.Execution
open RdsMetricCollector.Scheduler

variable {toLower : String → String} {r : RDSBrokerInfo} {engineOf : String → String}
  {trace : List Scheduler.Event} {cfg : SchedulerConfig} {s : Scheduler.State}

private theorem timestamp_of_returns {driver : String} {collected : List Metric}
    (returns : Returns toLower driver collected) (sql : driver ≠ "cloudwatch")
    {metric : Metric} (member : metric ∈ collected) : metric.timestamp = 0 := by
  cases returns with
  | postgres returned | mysql returned =>
      rcases isSqlMetric_of_collected returned member with ⟨m, _, isMetric⟩
      exact isMetric.timestamp
  | cloudwatch => exact absurd rfl sql

/-- A gauge as Loggregator should receive it from the worker `id`, if it is sent at
the time `now`. -/
structure IsGaugeOf (id : WorkerID) (now : Int64) (e : Envelope) : Prop where
  source : e.sourceId = id.instanceGUID
  series : ∃ name value source, e.metrics = (∅ : Finmap fun _ => GaugeValue).insert name value ∧
    e.tags.lookup "source" = some source ∧ IsSeriesOf id.driver name source
  timestamp : id.driver ≠ "cloudwatch" → e.timestamp = now

private theorem isGaugeOf_of_emitted (reachable : (model (scheduler cfg)).Reachable trace s)
    (surroundings : Surroundings toLower r engineOf trace) {index : Nat} {id : WorkerID}
    {me : MetricEnvelope} (emitted : .worker index id (.emitted me) ∈ trace) {now : Int64}
    {e : Envelope} (gauge : IsGauge now me e) : IsGaugeOf id now e := by
  rcases collection_of_emitted reachable emitted with ⟨_, collected, returned, member⟩
  rcases series_of_emitted reachable surroundings emitted with ⟨guid, source, tagged, series⟩
  refine ⟨gauge.sourceId.trans guid,
    ⟨_, _, source, gauge.metrics, gauge.tags "source" source tagged, series⟩, ?_⟩
  intro sql
  have zero := timestamp_of_returns (surroundings.collections index id collected returned)
    sql member
  simp [gauge.timestamp, zero]

/-- Every metric that is emitted reaches Loggregator as a gauge, without a panic.
The gauge names the instance and the source of its worker, and metrics from SQL
carry the time at which they were sent. Two gauges of one source with a metric in
common come from the same worker. -/
theorem gauges_identify_series
    (reachable : (model (scheduler cfg)).Reachable trace s)
    (surroundings : Surroundings toLower r engineOf trace)
    {l : Loggregator} (documented : l.Documented) (emitter : LoggregatorEmitter l) :
    (∀ index id me, .worker index id (.emitted me) ∈ trace → ∀ now created,
      ∃ e, emitter.emit now created me = .ok (.envelope e) ∧ IsGaugeOf id now e) ∧
    ∀ index id me otherIndex otherId otherMe now created otherNow otherCreated e other name,
      .worker index id (.emitted me) ∈ trace →
      .worker otherIndex otherId (.emitted otherMe) ∈ trace →
      emitter.emit now created me = .ok (.envelope e) →
      emitter.emit otherNow otherCreated otherMe = .ok (.envelope other) →
      e.sourceId = other.sourceId → name ∈ e.metrics → name ∈ other.metrics →
      id = otherId := by
  refine ⟨?_, ?_⟩
  · intro index id me emitted now created
    rcases documented.exists_gauge emitter now created me with ⟨e, sent, gauge⟩
    exact ⟨e, sent, isGaugeOf_of_emitted reachable surroundings emitted gauge⟩
  · intro index id me otherIndex otherId otherMe now created otherNow otherCreated e other name
      emitted otherEmitted sent otherSent sources member otherMember
    rcases documented.exists_gauge emitter now created me with ⟨_, sameSent, gauge⟩
    rcases documented.exists_gauge emitter otherNow otherCreated otherMe with
      ⟨_, sameOther, otherGauge⟩
    rw [sent] at sameSent
    rw [otherSent] at sameOther
    cases sameSent
    cases sameOther
    rw [gauge.sourceId, otherGauge.sourceId] at sources
    have keys := (gauge.mem_metrics.mp member).symm.trans (otherGauge.mem_metrics.mp otherMember)
    exact reporter_eq reachable surroundings emitted otherEmitted sources keys

/-- A client that adds a tag of its own to every envelope. -/
def sampleLoggregator : Loggregator where
  IngressClient := String × String
  emitGauge client created options :=
    options.foldlM (fun message option => option message) <|
      .envelope {
        timestamp := created
        sourceId := ""
        instanceId := ""
        tags := (∅ : Finmap fun _ : String => String).insert client.1 client.2
        metrics := ∅ }
  withGaugeValue name value unit
    | .envelope e => .ok (.envelope { e with metrics := e.metrics.insert name { unit, value } })
    | .other typeName => .error typeName
  withGaugeSourceInfo sourceId instanceId
    | .envelope e => .ok (.envelope { e with sourceId, instanceId })
    | .other typeName => .error typeName
  withEnvelopeTags tags
    | .envelope e => .ok (.envelope { e with tags := tags ∪ e.tags })
    | .other typeName => .error typeName

private theorem documented_sampleLoggregator : sampleLoggregator.Documented where
  emitGauge client created := ⟨_, rfl, fun _ => rfl⟩
  withGaugeValue name value unit e := rfl
  withGaugeSourceInfo sourceId instanceId e := rfl
  withEnvelopeTags tags e := by
    refine ⟨_, rfl, ?_⟩
    intro name value tagged
    rw [Finmap.lookup_union_left (Finmap.mem_of_lookup_eq_some tagged)]
    exact tagged

theorem gauges_identify_series_sample :
    ∃ e, (⟨("origin", "rds-metrics-collector")⟩ : LoggregatorEmitter sampleLoggregator).emit
        7 8 sampleEnvelope = .ok (.envelope e) ∧ IsGaugeOf samplePostgresID 7 e := by
  rcases reachable_sampleSeriesTrace with ⟨s, reachable⟩
  have emitted : .worker 0 samplePostgresID (.emitted sampleEnvelope) ∈ sampleSeriesTrace := by
    simp [sampleSeriesTrace]
  exact (gauges_identify_series reachable surroundings_sampleSeriesTrace
    documented_sampleLoggregator ⟨("origin", "rds-metrics-collector")⟩).1 0 samplePostgresID
    sampleEnvelope emitted 7 8

end RdsMetricCollector.Deployment
