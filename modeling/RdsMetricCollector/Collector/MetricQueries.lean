import RdsMetricCollector.Collector.SqlQueries

/-! # The queries of the SQL drivers

The queries that the Postgres and the MySQL driver run, and which metrics a
collection with such queries reports.
-/

namespace RdsMetricCollector.Collector

open RdsMetricCollector.Runtime

/-! ## Tables -/

def postgresMetricQueries : List MetricQuery :=
  [.column {
      query := "\n\t\t\tSELECT\n" ++
        "\t\t\t\tSUM(numbackends) AS connections\n" ++
        "\t\t\tFROM pg_stat_database\n" ++
        "\t\t"
      metrics := [
        ⟨"connections", "conn"⟩] },
    .column {
      query := "\n\t\t\tSELECT\n" ++
        "\t\t\t\t\tsetting::float as max_connections\n" ++
        "\t\t\tFROM pg_settings\n" ++
        "\t\t\tWHERE name = 'max_connections'\n" ++
        "\t\t"
      metrics := [
        ⟨"max_connections", "conn"⟩] },
    .column {
      query := "\n\t\t\tSELECT\n" ++
        "\t\t\t\tpg_database_size(pg_database.datname) as dbsize,\n" ++
        "\t\t\t\tcurrent_database() as dbname\n" ++
        "\t\t\tFROM pg_database\n" ++
        "\t\t\tWHERE datname = current_database()\n" ++
        "\t\t"
      metrics := [
        ⟨"dbsize", "byte"⟩] },
    .column {
      query := "\n\t\t\tSELECT\n" ++
        "\t\t\t\tdeadlocks as deadlocks,\n" ++
        "\t\t\t\txact_commit as commits,\n" ++
        "\t\t\t\txact_rollback as rollbacks,\n" ++
        "\t\t\t\tblks_read as blocks_read,\n" ++
        "\t\t\t\tblks_hit as blocks_hit,\n" ++
        "\t\t\t\tblk_read_time as read_time,\n" ++
        "\t\t\t\tblk_write_time as write_time,\n" ++
        "\t\t\t\ttemp_bytes as temp_bytes,\n" ++
        "\t\t\t\tcurrent_database() as dbname\n" ++
        "\t\t\tFROM pg_stat_database\n" ++
        "\t\t\tWHERE datname = current_database()\n" ++
        "\t\t"
      metrics := [
        ⟨"deadlocks", "lock"⟩,
        ⟨"commits", "tx"⟩,
        ⟨"rollbacks", "tx"⟩,
        ⟨"blocks_read", "block"⟩,
        ⟨"blocks_hit", "block"⟩,
        ⟨"read_time", "ms"⟩,
        ⟨"write_time", "ms"⟩,
        ⟨"temp_bytes", "byte"⟩] },
    .column {
      query := "\n\t\t\tSELECT\n" ++
        "\t\t\t\tCOALESCE(SUM(seq_scan), 0) as seq_scan,\n" ++
        "\t\t\t\tCOALESCE(SUM(idx_scan), 0) as idx_scan,\n" ++
        "\t\t\t\tcurrent_database() as dbname\n" ++
        "\t\t\tFROM pg_stat_user_tables\n" ++
        "\t\t"
      metrics := [
        ⟨"seq_scan", "scan"⟩,
        ⟨"idx_scan", "scan"⟩] },
    .column {
      query := "\n\t\t\tSELECT\n" ++
        "\t\t\t\tcount(distinct pid) as blocked_connections\n" ++
        "\t\t\tFROM pg_locks\n" ++
        "\t\t\tWHERE granted = false\n" ++
        "\t\t"
      metrics := [
        ⟨"blocked_connections", "conn"⟩] },
    .column {
      query := "\n\t\t\tSELECT\n" ++
        "\t\t\t\tCOALESCE(EXTRACT(epoch FROM MAX(now() - a.xact_start))::FLOAT, 0) " ++
        "as max_tx_age\n" ++
        "\t\t\tFROM pg_stat_activity a\n" ++
        "\t\t\tINNER JOIN pg_roles r ON r.rolname = a.usename\n" ++
        "\t\t\tINNER JOIN pg_group g ON r.oid = ANY (g.grolist)\n" ++
        "\t\t\tWHERE\n" ++
        "\t\t\t\tg.groname LIKE 'rdsbroker_%_manager'\n" ++
        "\t\t\tAND state IN ('idle in transaction', 'active')\n" ++
        "\t\t"
      metrics := [
        ⟨"max_tx_age", "s"⟩] },
    .column {
      query := "\n\t\t\tSELECT\n" ++
        "\t\t\t\tCOALESCE(EXTRACT(epoch FROM MAX(now() - xact_start))::FLOAT, 0) " ++
        "as max_system_tx_age\n" ++
        "\t\t\tFROM pg_stat_activity a\n" ++
        "\t\t\tINNER JOIN pg_roles r ON r.rolname = a.usename\n" ++
        "\t\t\tLEFT JOIN pg_group g ON r.oid = ANY (g.grolist)\n" ++
        "\t\t\tWHERE\n" ++
        "\t\t\t\t(g.groname NOT LIKE 'rdsbroker_%_manager' OR g.groname IS NULL)\n" ++
        "\t\t\tAND state IN ('idle in transaction', 'active')\n" ++
        "\t\t"
      metrics := [
        ⟨"max_system_tx_age", "s"⟩] }]

def mysqlMetricQueries : List MetricQuery :=
  [.row {
      query := "\n\t\t\tSELECT *\n" ++
        "\t\t\tFROM performance_schema.global_status\n" ++
        "\t\t\tWHERE variable_name IN (\n" ++
        "\t\t\t   'Threads_connected'\n" ++
        "\t\t\t  ,'Threads_running'\n" ++
        "\t\t\t  ,'Threads_created'\n" ++
        "\t\t\t  ,'Connections'\n" ++
        "\t\t\t  ,'Queries'\n" ++
        "\t\t\t  ,'Questions'\n" ++
        "\t\t\t  ,'Aborted_clients'\n" ++
        "\t\t\t  ,'Aborted_connects'\n" ++
        "\t\t\t);\n" ++
        "\t\t"
      metrics := [
        ⟨"threads_connected", "conn"⟩,
        ⟨"threads_running", "conn"⟩,
        ⟨"threads_created", "conn"⟩,
        ⟨"queries", "conn"⟩,
        ⟨"questions", "conn"⟩,
        ⟨"aborted_clients", "conn"⟩,
        ⟨"aborted_connects", "conn"⟩] },
    .row {
      query := "\n\t\t\tSELECT *\n" ++
        "\t\t\tFROM performance_schema.global_status\n" ++
        "\t\t\tWHERE variable_name IN (\n" ++
        "\t\t\t   'Innodb_row_lock_waits'\n" ++
        "\t\t\t  ,'Innodb_row_lock_time'\n" ++
        "\t\t\t  ,'Innodb_num_open_files'\n" ++
        "\t\t\t  ,'Innodb_log_waits'\n" ++
        "\t\t\t  ,'Innodb_buffer_pool_bytes_data'\n" ++
        "\t\t\t  ,'Innodb_buffer_pool_bytes_dirty'\n" ++
        "\t\t\t  ,'Innodb_buffer_pool_pages_data'\n" ++
        "\t\t\t  ,'Innodb_buffer_pool_pages_dirty'\n" ++
        "\t\t\t  ,'Innodb_buffer_pool_pages_flushed'\n" ++
        "\t\t\t  ,'Innodb_buffer_pool_pages_free'\n" ++
        "\t\t\t  ,'Innodb_buffer_pool_pages_misc'\n" ++
        "\t\t\t  ,'Innodb_buffer_pool_pages_total'\n" ++
        "\t\t\t  ,'Innodb_buffer_pool_read_ahead'\n" ++
        "\t\t\t  ,'Innodb_buffer_pool_read_ahead_evicted'\n" ++
        "\t\t\t  ,'Innodb_buffer_pool_read_ahead_rnd'\n" ++
        "\t\t\t  ,'Innodb_buffer_pool_read_requests'\n" ++
        "\t\t\t  ,'Innodb_buffer_pool_reads'\n" ++
        "\t\t\t  ,'Innodb_buffer_pool_wait_free'\n" ++
        "\t\t\t  ,'Innodb_buffer_pool_write_requests'\n" ++
        "\t\t\t);\n" ++
        "\t\t"
      metrics := [
        ⟨"innodb_row_lock_waits", "guage"⟩,
        ⟨"innodb_row_lock_time", "ms"⟩,
        ⟨"innodb_num_open_files", "files"⟩,
        ⟨"innodb_log_waits", "guage"⟩,
        ⟨"innodb_buffer_pool_bytes_data", "bytes"⟩,
        ⟨"innodb_buffer_pool_bytes_dirty", "bytes"⟩,
        ⟨"innodb_buffer_pool_pages_data", "pages"⟩,
        ⟨"innodb_buffer_pool_pages_dirty", "pages"⟩,
        ⟨"innodb_buffer_pool_pages_flushed", "pages"⟩,
        ⟨"innodb_buffer_pool_pages_free", "pages"⟩,
        ⟨"innodb_buffer_pool_pages_misc", "pages"⟩,
        ⟨"innodb_buffer_pool_pages_total", "pages"⟩,
        ⟨"innodb_buffer_pool_read_ahead", "pages"⟩,
        ⟨"innodb_buffer_pool_read_ahead_evicted", "pages"⟩,
        ⟨"innodb_buffer_pool_read_ahead_rnd", "guage"⟩,
        ⟨"innodb_buffer_pool_read_requests", "conn"⟩,
        ⟨"innodb_buffer_pool_reads", "guage"⟩,
        ⟨"innodb_buffer_pool_wait_free", "guage"⟩,
        ⟨"innodb_buffer_pool_write_requests", "guage"⟩] },
    .column {
      query := "\n\t\t\tSELECT\n" ++
        "\t\t\t\t\tvariable_value as max_connections\n" ++
        "\t\t\tFROM performance_schema.global_variables\n" ++
        "\t\t\tWHERE variable_name = 'max_connections';\n" ++
        "\t\t"
      metrics := [
        ⟨"max_connections", "conn"⟩] },
    .column {
      query := "\n\t\t\tSELECT\n" ++
        "\t\t\t\t\tSUM(variable_value) as connection_errors\n" ++
        "\t\t\tFROM performance_schema.global_status\n" ++
        "\t\t\tWHERE variable_name like 'Connection_errors_%';\n" ++
        "\t\t"
      metrics := [
        ⟨"connection_errors", "err"⟩] }]

/-! ## What a collection reports -/

/-- A metric as the SQL collectors report it for a declared key. -/
structure IsSqlMetric (m : MetricQueryMeta) (metric : Metric) : Prop where
  key : metric.key = m.key
  unit : metric.unit = m.unit
  timestamp : metric.timestamp = 0
  source : metric.tags.lookup "source" = some "sql"

theorem exists_meta_of_mem {metas : List MetricQueryMeta} {metrics : List Metric}
    (each : List.Forall₂ IsSqlMetric metas metrics) {metric : Metric}
    (member : metric ∈ metrics) : ∃ m ∈ metas, IsSqlMetric m metric := by
  induction each with
  | nil => cases member
  | @cons m first metas metrics isFirst _ induction =>
      rcases List.mem_cons.mp member with rfl | later
      · exact ⟨m, List.mem_cons_self, isFirst⟩
      · rcases induction later with ⟨other, otherMember, isOther⟩
        exact ⟨other, List.mem_cons_of_mem m otherMember, isOther⟩

namespace MetricQuery

def metrics : MetricQuery → List MetricQueryMeta
  | .column q => q.metrics
  | .row q => q.metrics

/-- The metrics that a result amounts to: those of the query for every row, or
once for all rows. -/
def expected (q : MetricQuery) (rows : Rows) : List MetricQueryMeta :=
  match q with
  | .column q => rows.rows.flatMap fun _ => q.metrics
  | .row q => q.metrics

theorem mem_metrics_of_mem_expected {q : MetricQuery} {rows : Rows} {m : MetricQueryMeta}
    (member : m ∈ q.expected rows) : m ∈ q.metrics := by
  cases q with
  | row q => exact member
  | column q =>
      rcases List.mem_flatMap.mp member with ⟨_, _, found⟩
      exact found

/-- A query that does not fail reports what its result amounts to. -/
theorem getMetrics_expected {toLower : String → String} {q : MetricQuery}
    {answer : Except String Rows} {metrics : List Metric}
    (got : q.getMetrics toLower answer = .ok (metrics, none)) :
    ∃ rows, answer = .ok rows ∧ List.Forall₂ IsSqlMetric (q.expected rows) metrics := by
  have fine : ¬q.Fails toLower answer := by
    rcases q.getMetrics_fails_iff toLower answer with ⟨_, err, returned, failsIff⟩
    rw [got] at returned
    cases returned
    simpa using failsIff
  cases answer with
  | error err => exact absurd trivial fine
  | ok rows =>
      refine ⟨rows, rfl, ?_⟩
      cases q with
      | column q =>
          have rowsFine : ∀ row ∈ rows.rows, ¬q.FailsOn rows.columns row :=
            fun row member fails => fine ⟨row, member, fails⟩
          rcases ColumnMetricQuery.readRows_eq_ok [] rows.width rowsFine with
            ⟨found, read, each⟩
          have same : metrics = found := by
            have both := got.symm.trans read
            simpa using both
          have seconds : (rows.rows ×ˢ q.metrics).map Prod.snd =
              rows.rows.flatMap fun _ => q.metrics := by
            simp [SProd.sprod, List.product, List.map_flatMap, Function.comp_def]
          rw [same, expected, ← seconds, List.forall₂_map_left_iff]
          exact each.imp fun _ _ metric =>
            ⟨metric.key, metric.unit, metric.timestamp, metric.tags.source⟩
      | row q =>
          have readable : ∀ row ∈ rows.rows, RowReadable rows.columns row := by
            by_contra unreadable
            push Not at unreadable
            exact fine (.inl unreadable)
          have keys : ∀ m ∈ q.metrics, RowMetricQuery.HasKey toLower rows.rows m.key := by
            by_contra missing
            push Not at missing
            exact fine (.inr missing)
          rcases @RowMetricQuery.getMetrics_eq toLower q rows readable with
            ⟨acumMetrics, gathers, read⟩
          have present : ∀ m ∈ q.metrics, m.key ∈ acumMetrics :=
            fun m member => gathers.mem_iff.mpr (keys m member)
          rcases @RowMetricQuery.selectMetrics_eq_ok q _ _ [] present with
            ⟨selected, selects, each⟩
          have same : metrics = selected := by
            have both := got.symm.trans read
            rw [selects] at both
            simpa using both
          rw [same]
          refine each.imp ?_
          intro m metric found
          rcases found with ⟨gathered, lookup, rfl⟩
          have isMetric := gathers.isRowMetric lookup
          rcases isMetric.last with ⟨_, _, _, tags⟩
          exact ⟨isMetric.key, isMetric.unit, isMetric.timestamp, tags.source⟩

end MetricQuery

/-- The metrics that queries declare. -/
def declared (queries : List MetricQuery) : List MetricQueryMeta :=
  queries.flatMap MetricQuery.metrics

namespace SqlMetricsCollector

/-- The metrics that the answers to the queries from `index` on amount to. -/
def expectedMetrics (dbConn : DBConn) (index : Nat) : List MetricQuery → List MetricQueryMeta
  | [] => []
  | q :: queries =>
      (match dbConn.queryContext index q.query with
        | .ok rows => q.expected rows
        | .error _ => []) ++ expectedMetrics dbConn (index + 1) queries

private theorem runQueries_expected {toLower : String → String} {dbConn : DBConn} {index : Nat}
    {queries : List MetricQuery} {before collected : List Metric}
    (ran : runQueries toLower dbConn index before queries = .ok (collected, none)) :
    ∃ added, collected = before ++ added ∧
      List.Forall₂ IsSqlMetric (expectedMetrics dbConn index queries) added := by
  induction queries generalizing index before with
  | nil =>
      cases ran
      exact ⟨[], (List.append_nil _).symm, .nil⟩
  | cons q queries induction =>
      rw [runQueries] at ran
      rcases q.getMetrics_fails_iff toLower (dbConn.queryContext index q.query) with
        ⟨newMetrics, err, got, -⟩
      cases err with
      | some err =>
          rw [got] at ran
          cases ran
      | none =>
          rcases MetricQuery.getMetrics_expected got with ⟨rows, answered, each⟩
          rw [got] at ran
          rcases induction ran with ⟨added, equal, rest⟩
          refine ⟨newMetrics ++ added, by rw [equal, List.append_assoc], ?_⟩
          rw [expectedMetrics, answered]
          exact List.rel_append each rest

theorem collect_expected {toLower : String → String} {mc : SqlMetricsCollector}
    {dbConn : DBConn} {collected : List Metric}
    (returned : mc.collect toLower dbConn = .ok (collected, none)) :
    List.Forall₂ IsSqlMetric (expectedMetrics dbConn 0 mc.queries) collected := by
  rw [collect] at returned
  split at returned
  · cases returned
  · rcases runQueries_expected returned with ⟨added, equal, each⟩
    rw [equal]
    exact each

/-- Every column query is answered with a single row, as aggregates are. -/
def SingleRows (dbConn : DBConn) (queries : List MetricQuery) : Prop :=
  ∀ index q rows, queries[index]? = some (.column q) →
    dbConn.queryContext index q.query = .ok rows → rows.rows.length = 1

private theorem expectedMetrics_eq {dbConn : DBConn} {index : Nat} {queries : List MetricQuery}
    (answers : ∀ offset q, queries[offset]? = some q → ∃ rows,
      dbConn.queryContext (index + offset) q.query = .ok rows ∧
        q.expected rows = q.metrics) :
    expectedMetrics dbConn index queries = declared queries := by
  induction queries generalizing index with
  | nil => rfl
  | cons q queries induction =>
      rcases answers 0 q rfl with ⟨rows, answered, expected⟩
      rw [Nat.add_zero] at answered
      rw [expectedMetrics, answered, declared, List.flatMap_cons, induction]
      · simp only [expected, declared]
      · intro offset other found
        rcases answers (offset + 1) other found with ⟨otherRows, otherAnswered, equal⟩
        refine ⟨otherRows, ?_, equal⟩
        rwa [show index + 1 + offset = index + (offset + 1) by omega]

private theorem expected_of_single {q : MetricQuery} {rows : Rows}
    (single : ∀ c, q = .column c → rows.rows.length = 1) :
    q.expected rows = q.metrics := by
  cases q with
  | row q => rfl
  | column q =>
      rcases List.length_eq_one_iff.mp (single q rfl) with ⟨row, equal⟩
      simp [MetricQuery.expected, MetricQuery.metrics, equal]

private theorem answered_of_collect {toLower : String → String} {mc : SqlMetricsCollector}
    {dbConn : DBConn} {collected : List Metric}
    (returned : mc.collect toLower dbConn = .ok (collected, none)) {index : Nat}
    {q : MetricQuery} (found : mc.queries[index]? = some q) :
    ∃ rows, dbConn.queryContext index q.query = .ok rows := by
  rcases mc.collect_fails_iff toLower dbConn with ⟨_, err, returned', -, failsIff⟩
  rw [returned] at returned'
  cases returned'
  have fine : ¬q.Fails toLower (dbConn.queryContext index q.query) := by
    intro fails
    have failed := failsIff.mpr (.inr ⟨index, q, found, fails⟩)
    simp at failed
  cases answer : dbConn.queryContext index q.query with
  | ok rows => exact ⟨rows, rfl⟩
  | error err =>
      rw [answer] at fine
      exact absurd trivial fine

private theorem collect_single {toLower : String → String} {mc : SqlMetricsCollector}
    {dbConn : DBConn} {collected : List Metric} (single : SingleRows dbConn mc.queries)
    (returned : mc.collect toLower dbConn = .ok (collected, none)) :
    List.Forall₂ IsSqlMetric (declared mc.queries) collected := by
  rw [← @expectedMetrics_eq dbConn 0]
  · exact collect_expected returned
  · intro offset q found
    rcases answered_of_collect returned found with ⟨rows, answered⟩
    rw [Nat.zero_add]
    refine ⟨rows, answered, expected_of_single ?_⟩
    intro c equal
    subst equal
    exact single offset c rows found answered

/-! ## The drivers' queries -/

private theorem map_key_eq {metas : List MetricQueryMeta} {metrics : List Metric}
    (each : List.Forall₂ IsSqlMetric metas metrics) :
    metrics.map Metric.key = metas.map MetricQueryMeta.key := by
  induction each with
  | nil => rfl
  | cons first _ induction => rw [List.map_cons, List.map_cons, first.key, induction]

/-- No deployed query table declares a metric twice. -/
theorem nodup_declaredKeys :
    ∀ queries ∈ [postgresMetricQueries, mysqlMetricQueries],
      ((declared queries).map MetricQueryMeta.key).Nodup := by
  decide

/-- A successful collection of either SQL driver reports the metrics that its
queries declare, in their order and each of them once. -/
theorem reports_each_once {toLower : String → String} {queries : List MetricQuery}
    (deployed : queries = postgresMetricQueries ∨ queries = mysqlMetricQueries)
    {dbConn : DBConn} (single : SingleRows dbConn queries) {collected : List Metric}
    (returned : collect toLower ⟨queries⟩ dbConn = .ok (collected, none)) :
    List.Forall₂ IsSqlMetric (declared queries) collected ∧
      (collected.map Metric.key).Nodup := by
  have each := collect_single single returned
  refine ⟨each, ?_⟩
  rw [map_key_eq each]
  exact nodup_declaredKeys queries (by simpa using deployed)

def sampleCell : Cell where
  float64 := .ok (Float64.mk 0x3ff0000000000000)
  string := .ok "1"

/-- A database that has the value one for everything. -/
def sampleAnswer (columns : List String) : Rows where
  columns := columns
  rows := [{ cells := columns.map fun _ => sampleCell, columnsErr := none, scanErr := none }]
  err := none
  width := by simp
  undisturbed := by simp

def samplePostgres : DBConn where
  pingContext := none
  queryContext index _ :=
    match postgresMetricQueries[index]? with
    | some q => .ok (sampleAnswer (q.metrics.map MetricQueryMeta.key))
    | none => .error "syntax error"

theorem reports_each_once_sample :
    ∃ collected,
      collect id ⟨postgresMetricQueries⟩ samplePostgres = .ok (collected, none) ∧
      List.Forall₂ IsSqlMetric (declared postgresMetricQueries) collected ∧
      (collected.map Metric.key).Nodup := by
  have single : SingleRows samplePostgres postgresMetricQueries := by
    intro index q rows found answered
    simp only [samplePostgres, found, Except.ok.injEq] at answered
    rw [← answered]
    rfl
  have succeeds : ∃ collected,
      collect id ⟨postgresMetricQueries⟩ samplePostgres = .ok (collected, none) :=
    ⟨_, rfl⟩
  rcases succeeds with ⟨collected, returned⟩
  exact ⟨collected, returned, reports_each_once (.inl rfl) single returned⟩

end SqlMetricsCollector

end RdsMetricCollector.Collector
