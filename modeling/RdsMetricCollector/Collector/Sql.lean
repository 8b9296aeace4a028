import RdsMetricCollector.Foundation.Slices
import RdsMetricCollector.Metrics

/-! # The SQL collector

`sqlMetricsCollector` and its two kinds of queries, over what `database/sql`
answers to them.
-/

namespace RdsMetricCollector.Collector

open RdsMetricCollector.Runtime

/-! ## Results of queries -/

/-- What `Scan` makes of a cell for each kind of destination, or its error. -/
structure Cell where
  float64 : Except String Float64
  string : Except String String

/-- A row on which `Next` returned true. When the rows are closed under the
loop that reads them, `Columns` or `Scan` fails. -/
structure Row where
  cells : List Cell
  columnsErr : Option String
  scanErr : Option String

/-- The rows that `Next` delivers before it returns false, and what `Err`
reports then: `err` is `none` only at the normal end of the result. -/
structure Rows where
  columns : List String
  rows : List Row
  err : Option String
  width : ∀ row ∈ rows, row.cells.length = columns.length
  undisturbed : err = none →
    ∀ row ∈ rows, row.columnsErr = none ∧ row.scanErr = none

/-- A pointer to one of the variables `Vars` that `Scan` fills. -/
inductive Destination (Vars : Type)
  | float64 (assign : Float64 → Vars → Vars)
  | string (assign : String → Vars → Vars)

variable {Vars : Type}

/-- Fill the destinations one after the other, up to the first error. -/
def scanCells : List (Destination Vars × Cell) → Vars → Vars × Option String
  | [], vars => (vars, none)
  | (.float64 assign, cell) :: rest, vars =>
      match cell.float64 with
      | .ok value => scanCells rest (assign value vars)
      | .error err => (vars, some err)
  | (.string assign, cell) :: rest, vars =>
      match cell.string with
      | .ok value => scanCells rest (assign value vars)
      | .error err => (vars, some err)

/-- `Rows.Scan` on the current row. -/
def scan (row : Row) (scanArgs : List (Destination Vars)) (vars : Vars) :
    Vars × Option String :=
  match row.scanErr with
  | some err => (vars, some err)
  | none =>
      if scanArgs.length = row.cells.length then
        scanCells (scanArgs.zip row.cells) vars
      else
        (vars, some ("sql: expected " ++ toString row.cells.length ++
          " destination arguments in Scan, not " ++ toString scanArgs.length))

/-! ## Queries with a metric per column -/

structure MetricQueryMeta where
  key : String
  unit : String
  deriving DecidableEq, Repr

structure ColumnMetricQuery where
  query : String
  metrics : List MetricQueryMeta
  deriving DecidableEq, Repr

abbrev Tags := Finmap fun _ : String => String
abbrev Values := Finmap fun _ : String => Float64

def tagDestination (index : Nat) : Destination (Vars × List String) :=
  .string fun value (vars, tagsData) => (vars, tagsData.set index value)

def valueDestination (index : Nat) :
    Destination (List Float64 × List String) :=
  .float64 fun value (valuesData, tagsData) =>
    (valuesData.set index value, tagsData)

/-- The pointer to an element of `tagsData`. -/
def tagPointer (length index : Nat) :
    Except Panic (Destination (Vars × List String)) :=
  checkIndex length index (tagDestination index)

/-- The pointer to an element of `valuesData`. -/
def valuePointer (length index : Nat) :
    Except Panic (Destination (List Float64 × List String)) :=
  checkIndex length index (valueDestination index)

def getRowDataAsMaps (numberOfValues : Nat) (columnNames : List String)
    (row : Row) : Except Panic (Values × Tags × Option String) :=
  match row.columnsErr with
  | some err => .ok (∅, ∅, some err)
  | none =>
      if columnNames.length < numberOfValues then
        .ok (∅, ∅, some ("Expected " ++ toString numberOfValues ++
          " values but the row only has " ++ toString columnNames.length ++
          " columns"))
      else do
        let valuesData ← makeSlice numberOfValues (Float64.mk 0)
        let tagsData ← makeSlice ((columnNames.length : Int) - numberOfValues) ""
        let scanArgs ← (List.range columnNames.length).mapM fun i =>
          if i < numberOfValues then valuePointer valuesData.length i
          else tagPointer tagsData.length (i - numberOfValues)
        match scan row scanArgs (valuesData, tagsData) with
        | (_, some err) => return (∅, ∅, some err)
        | ((valuesData, tagsData), none) =>
            let valuesMap ← fillMap columnNames 0 ∅ valuesData
            let tagsMap ← fillMap columnNames numberOfValues ∅ tagsData
            return (valuesMap, tagsMap, none)

def missingKey (key query : String) : String :=
  "unable to find key '" ++ key ++ "' in the query '" ++ query ++ "'"

namespace ColumnMetricQuery

/-- The metrics of one row, appended to those of the rows before. -/
def addMetrics (q : ColumnMetricQuery) (rowMap : Values) (tags : Tags)
    (rowMetrics : List Metric) :
    List MetricQueryMeta → List Metric × Option String
  | [] => (rowMetrics, none)
  | m :: metas =>
      match rowMap.lookup m.key with
      | none => ([], some (missingKey m.key q.query))
      | some v =>
          q.addMetrics rowMap tags
            (rowMetrics ++
              [{ key := m.key, timestamp := 0, value := v, unit := m.unit,
                 tags := tags }])
            metas

/-- The loop over the rows. It ends when `Next` returns false, for whatever
reason. -/
def readRows (q : ColumnMetricQuery) (columnNames : List String)
    (rowMetrics : List Metric) :
    List Row → Except Panic (List Metric × Option String)
  | [] => .ok (rowMetrics, none)
  | row :: rows => do
      match ← getRowDataAsMaps q.metrics.length columnNames row with
      | (_, _, some err) => return ([], some err)
      | (rowMap, tags, none) =>
          match q.addMetrics rowMap (tags.insert "source" "sql") rowMetrics
              q.metrics with
          | (_, some err) => return ([], some err)
          | (rowMetrics, none) => q.readRows columnNames rowMetrics rows

/-- `answer` is what `QueryContext` returns. -/
def getMetrics (q : ColumnMetricQuery) (answer : Except String Rows) :
    Except Panic (List Metric × Option String) :=
  match answer with
  | .error err => .ok ([], some ("unable to execute query: " ++ err))
  | .ok rows => q.readRows rows.columns [] rows.rows

end ColumnMetricQuery

/-! ## Queries with a metric per row -/

structure RowMetricQuery where
  query : String
  metrics : List MetricQueryMeta
  deriving DecidableEq, Repr

abbrev AcumMetrics := Finmap fun _ : String => Metric

namespace RowMetricQuery

/-- The key and the metric of one row. -/
def readRow (q : RowMetricQuery) (columnNames : List String) (row : Row) :
    Except Panic (Except String (String × Metric)) :=
  match row.columnsErr with
  | some err => .ok (.error err)
  | none =>
      if columnNames.length < 2 then
        .ok (.error ("query '" ++ q.query ++ "' must return at least 2 columns"))
      else do
        let tagsData ← makeSlice ((columnNames.length : Int) - 2) ""
        let tagArgs ← (List.range tagsData.length).mapM fun i =>
          tagPointer tagsData.length i
        let scanArgs : List (Destination ((String × Float64) × List String)) :=
          [.string fun value vars => ((value, vars.1.2), vars.2),
            .float64 fun value vars => ((vars.1.1, value), vars.2)] ++ tagArgs
        match scan row scanArgs (("", Float64.mk 0), tagsData) with
        | (_, some err) => return .error err
        | (((metricKey, metricValue), tagsData), none) =>
            let tags ← fillMap columnNames 2 ∅ tagsData
            return .ok (metricKey,
              { key := "", timestamp := 0, value := metricValue, unit := "",
                tags := tags.insert "source" "sql" })

/-- The loop over the rows. `toLower` is `strings.ToLower`. -/
def readRows (toLower : String → String) (q : RowMetricQuery)
    (columnNames : List String) (acumMetrics : AcumMetrics) :
    List Row → Except Panic (Except String AcumMetrics)
  | [] => .ok (.ok acumMetrics)
  | row :: rows => do
      match ← q.readRow columnNames row with
      | .error err => return .error err
      | .ok (metricKey, metric) =>
          q.readRows toLower columnNames
            (acumMetrics.insert (toLower metricKey) metric) rows

/-- The loop over the wanted metrics. -/
def selectMetrics (q : RowMetricQuery) (acumMetrics : AcumMetrics)
    (resultMetrics : List Metric) :
    List MetricQueryMeta → List Metric × Option String
  | [] => (resultMetrics, none)
  | m :: metas =>
      match acumMetrics.lookup m.key with
      | none => (resultMetrics, some (missingKey m.key q.query))
      | some v =>
          q.selectMetrics acumMetrics
            (resultMetrics ++
              [{ key := m.key, timestamp := 0, value := v.value, unit := m.unit,
                 tags := v.tags }])
            metas

def getMetrics (toLower : String → String) (q : RowMetricQuery)
    (answer : Except String Rows) : Except Panic (List Metric × Option String) :=
  match answer with
  | .error err => .ok ([], some ("unable to execute query: " ++ err))
  | .ok rows => do
      match ← q.readRows toLower rows.columns ∅ rows.rows with
      | .error err => return ([], some err)
      | .ok acumMetrics => return q.selectMetrics acumMetrics [] q.metrics

end RowMetricQuery

/-! ## Collecting -/

inductive MetricQuery
  | column (q : ColumnMetricQuery)
  | row (q : RowMetricQuery)
  deriving DecidableEq, Repr

namespace MetricQuery

def query : MetricQuery → String
  | .column q => q.query
  | .row q => q.query

def getMetrics (toLower : String → String) (q : MetricQuery)
    (answer : Except String Rows) : Except Panic (List Metric × Option String) :=
  match q with
  | .column q => q.getMetrics answer
  | .row q => q.getMetrics toLower answer

end MetricQuery

/-- What the database answers during one collection. Queries are numbered in
the order in which they are made. -/
structure DBConn where
  pingContext : Option String
  queryContext : Nat → String → Except String Rows

structure SqlMetricsCollector where
  queries : List MetricQuery

namespace SqlMetricsCollector

/-- The loop over the queries. -/
def runQueries (toLower : String → String) (dbConn : DBConn) (index : Nat)
    (metrics : List Metric) :
    List MetricQuery → Except Panic (List Metric × Option String)
  | [] => .ok (metrics, none)
  | q :: queries => do
      match ← q.getMetrics toLower (dbConn.queryContext index q.query) with
      | (_, some err) => return ([], some err)
      | (newMetrics, none) =>
          runQueries toLower dbConn (index + 1) (metrics ++ newMetrics) queries

def collect (toLower : String → String) (mc : SqlMetricsCollector)
    (dbConn : DBConn) : Except Panic (List Metric × Option String) :=
  match dbConn.pingContext with
  | some err => .ok ([], some err)
  | none => runQueries toLower dbConn 0 [] mc.queries

end SqlMetricsCollector

end RdsMetricCollector.Collector
