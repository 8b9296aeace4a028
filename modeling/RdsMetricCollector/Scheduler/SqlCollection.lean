import RdsMetricCollector.Collector.SqlQueries
import RdsMetricCollector.Scheduler.WorkerRun

/-! # Results that are cut short

`Next` returns false at the end of a result and also when the result is cut
short, and no query asks `Err` which of the two it was. A result that is cut
short is therefore taken for a short result.
-/

namespace RdsMetricCollector.Scheduler

open RdsMetricCollector.Collector
open RdsMetricCollector.Runtime

/-- A worker given this result of `Collect` counts a failure and goes back to
waiting, or returns. It has nothing to emit in either case. -/
def CountsFailure (collected : List Metric) (err : Option String) : Prop :=
  ∀ done (g : Goroutine), g.point = .collecting →
    ∃ next, g.step done (.collectReturns collected err) =
        some (next, [.collectReturned collected err]) ∧
      next.errorCount = g.errorCount + 1 ∧
      (next.point = .selecting ∨ next.point = .returning)

private theorem countsFailure_of_error (collected : List Metric) (err : String) :
    CountsFailure collected (some err) := by
  intro done g point
  refine ⟨g.collectFailed, (Goroutine.Step.collectFails collected err point).step_eq,
    g.collectFailed_errorCount, ?_⟩
  rcases g.collectFailed_point with ⟨_, after, _⟩ | ⟨_, after⟩
  · exact .inl after
  · exact .inr after

/-- `Collect` gets as far as the query at `index`, and `rows` is its result. -/
structure Executes (toLower : String → String) (mc : SqlMetricsCollector)
    (dbConn : DBConn) (index : Nat) (rows : Rows) : Prop where
  connected : dbConn.pingContext = none
  executed : ∃ q, mc.queries[index]? = some q ∧
    dbConn.queryContext index q.query = .ok rows
  earlier : ∀ i < index, ∀ q, mc.queries[i]? = some q →
    ∃ metrics, q.getMetrics toLower (dbConn.queryContext i q.query) =
      .ok (metrics, none)

/-- If the result of some executed query is cut short, then `Collect` returns
an error and no metrics, and the worker takes that for a failed collection. -/
def AllOrNothing (toLower : String → String) (mc : SqlMetricsCollector)
    (dbConn : DBConn) : Prop :=
  (∃ index rows, Executes toLower mc dbConn index rows ∧ rows.err.isSome) →
    ∃ err, mc.collect toLower dbConn = .ok ([], some err) ∧
      CountsFailure [] (some err)

/-- Some query is answered with a result that is cut short. -/
def CutShort (mc : SqlMetricsCollector) (dbConn : DBConn) : Prop :=
  ∃ (index : Nat) (q : MetricQuery) (rows : Rows),
    mc.queries[index]? = some q ∧
    dbConn.queryContext index q.query = .ok rows ∧ rows.err.isSome

/-- The connection is down, or a query fails on the rows it does get. -/
def FailsAnyway (toLower : String → String) (mc : SqlMetricsCollector)
    (dbConn : DBConn) : Prop :=
  dbConn.pingContext.isSome ∨ ∃ index, mc.QueryFails toLower dbConn index

private theorem allOrNothing_of_failsAnyway {toLower : String → String}
    {mc : SqlMetricsCollector} {dbConn : DBConn}
    (fails : FailsAnyway toLower mc dbConn) : AllOrNothing toLower mc dbConn := by
  intro _
  rcases mc.collect_fails_iff toLower dbConn with
    ⟨collected, err, returned, nothing, failsIff⟩
  have failed : err.isSome := failsIff.mpr fails
  rcases Option.isSome_iff_exists.mp failed with ⟨message, equal⟩
  subst equal
  rw [nothing failed] at returned
  exact ⟨message, returned, countsFailure_of_error [] message⟩

/-- A collection that does not fail executes every query. -/
theorem executes_of_not_failsAnyway {toLower : String → String}
    {mc : SqlMetricsCollector} {dbConn : DBConn} {index : Nat} {q : MetricQuery}
    {rows : Rows} (fine : ¬FailsAnyway toLower mc dbConn)
    (found : mc.queries[index]? = some q)
    (answered : dbConn.queryContext index q.query = .ok rows) :
    Executes toLower mc dbConn index rows := by
  refine ⟨?connected, ⟨q, found, answered⟩, ?earlier⟩
  case connected =>
    apply Option.not_isSome_iff_eq_none.mp
    exact fun down => fine (.inl down)
  case earlier =>
    intro i _ other otherFound
    rcases other.getMetrics_fails_iff toLower (dbConn.queryContext i other.query)
      with ⟨metrics, err, got, failsIff⟩
    have none : err = none := by
      apply Option.not_isSome_iff_eq_none.mp
      exact fun failed => fine (.inr ⟨i, other, otherFound, failsIff.mp failed⟩)
    exact ⟨metrics, none ▸ got⟩

/-- A result that is cut short goes unnoticed unless the collection fails for
another reason. -/
theorem allOrNothing_iff (toLower : String → String) (mc : SqlMetricsCollector)
    (dbConn : DBConn) :
    AllOrNothing toLower mc dbConn ↔
      FailsAnyway toLower mc dbConn ∨ ¬CutShort mc dbConn := by
  constructor
  · intro allOrNothing
    by_cases fails : FailsAnyway toLower mc dbConn
    · exact .inl fails
    · refine .inr fun cut => fails ?_
      rcases cut with ⟨index, q, rows, found, answered, ended⟩
      rcases allOrNothing ⟨index, rows,
        executes_of_not_failsAnyway fails found answered, ended⟩ with
        ⟨message, failed, _⟩
      rcases mc.collect_fails_iff toLower dbConn with
        ⟨collected, err, returned, _, failsIff⟩
      rw [failed] at returned
      cases returned
      exact failsIff.mp rfl
  · intro condition
    rcases condition with fails | whole
    · exact allOrNothing_of_failsAnyway fails
    · intro cut
      rcases cut with ⟨index, rows, executes, ended⟩
      rcases executes.executed with ⟨q, found, answered⟩
      exact absurd ⟨index, q, rows, found, answered, ended⟩ whole

/-! The first queries of the postgres driver. The database answers the first
with a row, and the connection is lost before the row of the second. -/

def connectionsQuery : ColumnMetricQuery where
  query := "SELECT SUM(numbackends) AS connections FROM pg_stat_database"
  metrics := [{ key := "connections", unit := "conn" }]

def maxConnectionsQuery : ColumnMetricQuery where
  query := "SELECT setting::float as max_connections FROM pg_settings " ++
    "WHERE name = 'max_connections'"
  metrics := [{ key := "max_connections", unit := "conn" }]

def connectionsRow : Row where
  cells := [{ float64 := .ok (Float64.mk 0x3ff0000000000000), string := .ok "1" }]
  columnsErr := none
  scanErr := none

def lostConnection : DBConn where
  pingContext := none
  queryContext
    | 0, _ => .ok {
        columns := ["connections"]
        rows := [connectionsRow]
        err := none
        width := by simp [connectionsRow]
        undisturbed := by simp [connectionsRow] }
    | _, _ => .ok {
        columns := ["max_connections"]
        rows := []
        err := some "driver: bad connection"
        width := by simp
        undisturbed := by simp }

def postgresCollector : SqlMetricsCollector where
  queries := [.column connectionsQuery, .column maxConnectionsQuery]

/-- The collection succeeds with the metric of the first query only. -/
theorem collect_lostConnection (toLower : String → String) :
    postgresCollector.collect toLower lostConnection =
      .ok ([{ key := "connections", timestamp := 0,
              value := Float64.mk 0x3ff0000000000000, unit := "conn",
              tags := Finmap.singleton "source" "sql" }], none) := by
  rfl

theorem lostConnection_unnoticed :
    ¬AllOrNothing String.toLower postgresCollector lostConnection := by
  intro allOrNothing
  have executes : Executes String.toLower postgresCollector lostConnection 1 _ := {
    connected := rfl
    executed := ⟨.column maxConnectionsQuery, rfl, rfl⟩
    earlier := by
      intro i before q found
      have first : i = 0 := by omega
      subst first
      cases found
      exact ⟨_, rfl⟩ }
  rcases allOrNothing ⟨1, _, executes, rfl⟩ with ⟨err, failed, _⟩
  rw [collect_lostConnection] at failed
  cases failed

end RdsMetricCollector.Scheduler
