import RdsMetricCollector.Collector.RowMetrics

/-! # When queries fail

Neither kind of query ever panics, and both fail exactly on the results given
by `Fails`. A collection fails when one of its queries does.
-/

namespace RdsMetricCollector.Collector

open RdsMetricCollector.Runtime

/-! ## Queries with a metric per column -/

namespace ColumnMetricQuery

theorem readRows_fails_iff {q : ColumnMetricQuery} {columnNames : List String}
    {rows : List Row} (rowMetrics : List Metric)
    (width : ∀ row ∈ rows, row.cells.length = columnNames.length) :
    ∃ metrics err, q.readRows columnNames rowMetrics rows = .ok (metrics, err) ∧
      (err.isSome ↔ ∃ row ∈ rows, q.FailsOn columnNames row) := by
  by_cases fails : ∃ row ∈ rows, q.FailsOn columnNames row
  · rcases readRows_eq_error rowMetrics width fails with ⟨err, read⟩
    exact ⟨[], some err, read, by simp [fails]⟩
  · have fine : ∀ row ∈ rows, ¬q.FailsOn columnNames row := by
      push Not at fails
      exact fails
    rcases readRows_eq_ok rowMetrics width fine with ⟨metrics, read, _⟩
    exact ⟨_, none, read, by simp [fails]⟩

end ColumnMetricQuery

/-! ## Collections -/

namespace MetricQuery

/-- The query cannot be executed, or its result cannot be made into metrics.
How the result ended plays no role. -/
def Fails (toLower : String → String) (q : MetricQuery)
    (answer : Except String Rows) : Prop :=
  match answer, q with
  | .error _, _ => True
  | .ok rows, .column q => ∃ row ∈ rows.rows, q.FailsOn rows.columns row
  | .ok rows, .row q =>
      (∃ row ∈ rows.rows, ¬RowReadable rows.columns row) ∨
        ∃ m ∈ q.metrics, ¬RowMetricQuery.HasKey toLower rows.rows m.key

theorem getMetrics_fails_iff (toLower : String → String) (q : MetricQuery)
    (answer : Except String Rows) :
    ∃ metrics err, q.getMetrics toLower answer = .ok (metrics, err) ∧
      (err.isSome ↔ q.Fails toLower answer) := by
  cases answer with
  | error err =>
      cases q with
      | column q => exact ⟨_, _, rfl, by simp [Fails]⟩
      | row q => exact ⟨_, _, rfl, by simp [Fails]⟩
  | ok rows =>
      cases q with
      | column q => exact ColumnMetricQuery.readRows_fails_iff [] rows.width
      | row q => exact q.getMetrics_fails_iff toLower rows

end MetricQuery

namespace SqlMetricsCollector

/-- The loop fails when some query from `index` on does. -/
theorem runQueries_fails_iff (toLower : String → String) (dbConn : DBConn)
    (index : Nat) (metrics : List Metric) (queries : List MetricQuery) :
    ∃ collected err,
      runQueries toLower dbConn index metrics queries = .ok (collected, err) ∧
      (err.isSome → collected = []) ∧
      (err.isSome ↔ ∃ (offset : Nat) (q : MetricQuery), queries[offset]? = some q ∧
        q.Fails toLower (dbConn.queryContext (index + offset) q.query)) := by
  induction queries generalizing index metrics with
  | nil => exact ⟨metrics, none, rfl, by simp, by simp⟩
  | cons q queries induction =>
      rcases q.getMetrics_fails_iff toLower (dbConn.queryContext index q.query) with
        ⟨newMetrics, err, got, failsIff⟩
      cases err with
      | some err =>
          refine ⟨[], some err, by rw [runQueries, got]; rfl, fun _ => rfl, ?_⟩
          simp only [Option.isSome_some, true_iff] at failsIff ⊢
          exact ⟨0, q, rfl, failsIff⟩
      | none =>
          rcases induction (index + 1) (metrics ++ newMetrics) with
            ⟨collected, err, rest, nothing, restIff⟩
          refine ⟨collected, err, by rw [runQueries, got]; exact rest, nothing, ?_⟩
          have fine : ¬q.Fails toLower (dbConn.queryContext index q.query) :=
            fun fails => absurd (failsIff.mpr fails) (by simp)
          rw [restIff]
          constructor
          · intro later
            rcases later with ⟨offset, other, found, fails⟩
            refine ⟨offset + 1, other, found, ?_⟩
            rwa [show index + (offset + 1) = index + 1 + offset by omega]
          · intro fails
            rcases fails with ⟨offset, other, found, fails⟩
            cases offset with
            | zero =>
                cases found
                exact absurd fails fine
            | succ offset =>
                refine ⟨offset, other, found, ?_⟩
                rwa [show index + 1 + offset = index + (offset + 1) by omega]

/-- The query at `index` fails on what it gets during the collection. -/
def QueryFails (toLower : String → String) (mc : SqlMetricsCollector)
    (dbConn : DBConn) (index : Nat) : Prop :=
  ∃ q, mc.queries[index]? = some q ∧
    q.Fails toLower (dbConn.queryContext index q.query)

/-- A collection fails when the connection or one of the queries does, and
returns no metrics then. -/
theorem collect_fails_iff (toLower : String → String) (mc : SqlMetricsCollector)
    (dbConn : DBConn) :
    ∃ collected err, mc.collect toLower dbConn = .ok (collected, err) ∧
      (err.isSome → collected = []) ∧
      (err.isSome ↔ dbConn.pingContext.isSome ∨
        ∃ index, mc.QueryFails toLower dbConn index) := by
  cases ping : dbConn.pingContext with
  | some err => exact ⟨[], some err, by rw [collect, ping], fun _ => rfl, by simp⟩
  | none =>
      rcases runQueries_fails_iff toLower dbConn 0 [] mc.queries with
        ⟨collected, err, ran, nothing, failsIff⟩
      refine ⟨collected, err, by rw [collect, ping]; exact ran, nothing, ?_⟩
      simpa [QueryFails] using failsIff

end SqlMetricsCollector

end RdsMetricCollector.Collector
