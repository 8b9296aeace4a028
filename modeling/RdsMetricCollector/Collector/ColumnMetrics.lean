import Mathlib.Data.List.ProdSigma
import RdsMetricCollector.Collector.SqlRows
import RdsMetricCollector.Foundation.NamedValues

/-! # Metrics from columns

What a query with a metric per column makes of a result: the metrics of each
row, in the order of the rows, with their values and tags found by name.
-/

namespace RdsMetricCollector.Collector

open RdsMetricCollector.Runtime

/-! ## Cells found by name -/

private theorem lastNamed_converted {Value : Type} {convert : Cell → Except String Value}
    {names : List String} {cells : List Cell} {values : List Value}
    (converted : cells.map convert = values.map .ok) {name : String} {value : Value} :
    lastNamed name (names.zip values) = some value ↔
      ∃ cell, lastNamed name (names.zip cells) = some cell ∧ convert cell = .ok value := by
  have same : (lastNamed name (names.zip cells)).map convert =
      (lastNamed name (names.zip values)).map .ok := by
    rw [← lastNamed_map, ← lastNamed_map, ← List.zip_map_right, ← List.zip_map_right,
      converted]
  cases found : lastNamed name (names.zip values) with
  | none =>
      rw [found, Option.map_none, Option.map_eq_none_iff] at same
      simp [same]
  | some other =>
      rw [found, Option.map_some, Option.map_eq_some_iff] at same
      rcases same with ⟨cell, last, converts⟩
      simp [last, converts]

/-- The tags of a row are the texts of its named cells, and the source. -/
structure TagsOf (names : List String) (cells : List Cell) (tags : Tags) : Prop where
  source : tags.lookup "source" = some "sql"
  named : ∀ name, name ≠ "source" → ∀ text, tags.lookup name = some text ↔
    ∃ cell, lastNamed name (names.zip cells) = some cell ∧ cell.string = .ok text

theorem tagsOf_insertAll {names : List String} {cells : List Cell}
    {values : List String} (strings : cells.map Cell.string = values.map .ok) :
    TagsOf names cells ((insertAll ∅ (names.zip values)).insert "source" "sql") where
  source := Finmap.lookup_insert _
  named := by
    intro name other text
    rw [Finmap.lookup_insert_of_ne _ other, lookup_insertAll, Finmap.lookup_empty,
      Option.or_none]
    exact lastNamed_converted strings

/-! ## The metrics of a result -/

/-- The metric for a wanted key, with the value and the tags found for it. -/
def MetricQueryMeta.metric (m : MetricQueryMeta) (value : Float64) (tags : Tags) :
    Metric where
  key := m.key
  timestamp := 0
  value := value
  unit := m.unit
  tags := tags

/-- The metric of a row for one of the wanted keys. -/
structure IsColumnMetric (numberOfValues : Nat) (columnNames : List String) (row : Row)
    (m : MetricQueryMeta) (metric : Metric) : Prop where
  key : metric.key = m.key
  timestamp : metric.timestamp = 0
  value : ∃ cell, lastNamed m.key ((columnNames.take numberOfValues).zip
    (row.cells.take numberOfValues)) = some cell ∧ cell.float64 = .ok metric.value
  unit : metric.unit = m.unit
  tags : TagsOf (columnNames.drop numberOfValues) (row.cells.drop numberOfValues)
    metric.tags

private theorem ColumnReadable.length_values {numberOfValues : Nat} {columnNames : List String}
    {row : Row} (readable : ColumnReadable numberOfValues columnNames row)
    (width : row.cells.length = columnNames.length) {values : List Float64}
    (floats : (row.cells.take numberOfValues).map Cell.float64 = values.map .ok) :
    values.length = numberOfValues := by
  rw [length_converted floats, List.length_take, width]
  exact Nat.min_eq_left readable.enough

namespace ColumnMetricQuery

/-- The row cannot be read, or it has no value for a metric. -/
def FailsOn (q : ColumnMetricQuery) (columnNames : List String) (row : Row) :
    Prop :=
  ¬ColumnReadable q.metrics.length columnNames row ∨
    ∃ m ∈ q.metrics, m.key ∉ columnNames.take q.metrics.length

private theorem addMetrics_eq_ok (q : ColumnMetricQuery) {rowMap : Values} {tags : Tags}
    {metas : List MetricQueryMeta} (rowMetrics : List Metric)
    (present : ∀ m ∈ metas, m.key ∈ rowMap) :
    ∃ added, q.addMetrics rowMap tags rowMetrics metas = (rowMetrics ++ added, none) ∧
      List.Forall₂ (fun (m : MetricQueryMeta) (metric : Metric) =>
        ∃ value, rowMap.lookup m.key = some value ∧ metric = m.metric value tags)
        metas added := by
  induction metas generalizing rowMetrics with
  | nil => exact ⟨[], by rw [addMetrics, List.append_nil], .nil⟩
  | cons m metas induction =>
      rcases Finmap.mem_iff.mp (present m List.mem_cons_self) with ⟨value, found⟩
      rcases induction (rowMetrics ++ [m.metric value tags])
        (fun other member => present other (List.mem_cons_of_mem m member)) with
        ⟨added, rest, each⟩
      refine ⟨_ :: added, ?_, .cons ⟨value, found, rfl⟩ each⟩
      rw [addMetrics, found, List.append_cons]
      exact rest

private theorem addMetrics_eq_error (q : ColumnMetricQuery) {rowMap : Values} {tags : Tags}
    {metas : List MetricQueryMeta} (rowMetrics : List Metric)
    (missing : ∃ m ∈ metas, m.key ∉ rowMap) :
    ∃ err, q.addMetrics rowMap tags rowMetrics metas = ([], some err) := by
  induction metas generalizing rowMetrics with
  | nil => simp at missing
  | cons m metas induction =>
      rw [addMetrics]
      cases found : rowMap.lookup m.key with
      | none => exact ⟨_, rfl⟩
      | some value =>
          have present : m.key ∈ rowMap := Finmap.mem_of_lookup_eq_some found
          have later : ∃ m ∈ metas, m.key ∉ rowMap := by
            simpa [present] using missing
          exact induction _ later

/-- The values of a readable row by name. -/
theorem lookup_rowMap {columnNames : List String} {cells : List Cell}
    {values : List Float64} {numberOfValues : Nat}
    (floats : (cells.take numberOfValues).map Cell.float64 = values.map .ok)
    (count : values.length = numberOfValues) {key : String} {value : Float64} :
    (insertAll ∅ (columnNames.zip values)).lookup key = some value ↔
      ∃ cell, lastNamed key ((columnNames.take numberOfValues).zip
        (cells.take numberOfValues)) = some cell ∧ cell.float64 = .ok value := by
  rw [lookup_insertAll, Finmap.lookup_empty, Option.or_none, zip_eq_take_zip count]
  exact lastNamed_converted floats

/-- A row on which the query does not fail adds one metric for each key. -/
theorem readRow_adds {q : ColumnMetricQuery} {columnNames : List String} {row : Row}
    (width : row.cells.length = columnNames.length) (fine : ¬q.FailsOn columnNames row) :
    ∃ rowMap tags, getRowDataAsMaps q.metrics.length columnNames row =
        .ok (rowMap, tags, none) ∧
      ∀ rowMetrics, ∃ added,
        q.addMetrics rowMap (tags.insert "source" "sql") rowMetrics q.metrics =
          (rowMetrics ++ added, none) ∧
        List.Forall₂ (IsColumnMetric q.metrics.length columnNames row) q.metrics added := by
  rw [FailsOn, not_or, not_not] at fine
  rcases fine with ⟨readable, present⟩
  rcases getRowDataAsMaps_eq_ok width readable with ⟨values, tags, floats, strings, read⟩
  have count := readable.length_values width floats
  refine ⟨_, _, read, fun rowMetrics => ?_⟩
  have keys : ∀ m ∈ q.metrics, m.key ∈ insertAll ∅ (columnNames.zip values) := by
    intro m member
    rw [mem_insertAll_zip, count]
    by_contra missing
    exact present ⟨m, member, missing⟩
  rcases q.addMetrics_eq_ok rowMetrics keys with ⟨added, adds, each⟩
  refine ⟨added, adds, each.imp ?_⟩
  intro m metric found
  rcases found with ⟨value, lookup, rfl⟩
  exact ⟨rfl, rfl, (lookup_rowMap floats count).mp lookup, rfl, tagsOf_insertAll strings⟩

/-- A row on which the query fails ends the loop. -/
theorem readRows_fails {q : ColumnMetricQuery} {columnNames : List String} {row : Row}
    (width : row.cells.length = columnNames.length) (fails : q.FailsOn columnNames row)
    (rowMetrics : List Metric) (rows : List Row) :
    ∃ err, q.readRows columnNames rowMetrics (row :: rows) = .ok ([], some err) := by
  by_cases readable : ColumnReadable q.metrics.length columnNames row
  · rcases getRowDataAsMaps_eq_ok width readable with ⟨values, tags, floats, _, read⟩
    have count := readable.length_values width floats
    have missing : ∃ m ∈ q.metrics, m.key ∉ insertAll ∅ (columnNames.zip values) := by
      simp only [mem_insertAll_zip, count]
      exact fails.resolve_left (not_not_intro readable)
    rcases @addMetrics_eq_error q _ ((insertAll ∅
      ((columnNames.drop q.metrics.length).zip tags)).insert "source" "sql") _ rowMetrics
      missing with ⟨err, added⟩
    refine ⟨err, ?_⟩
    rw [readRows, read]
    simp only [bind, Except.bind, added]
    rfl
  · rcases getRowDataAsMaps_eq_error width readable with ⟨err, read⟩
    exact ⟨err, by rw [readRows, read]; rfl⟩

theorem readRows_eq_ok {q : ColumnMetricQuery} {columnNames : List String}
    {rows : List Row} (rowMetrics : List Metric)
    (width : ∀ row ∈ rows, row.cells.length = columnNames.length)
    (fine : ∀ row ∈ rows, ¬q.FailsOn columnNames row) :
    ∃ metrics, q.readRows columnNames rowMetrics rows = .ok (rowMetrics ++ metrics, none) ∧
      List.Forall₂ (fun pair => IsColumnMetric q.metrics.length columnNames pair.1 pair.2)
        (rows ×ˢ q.metrics) metrics := by
  induction rows generalizing rowMetrics with
  | nil => exact ⟨[], by rw [readRows, List.append_nil], .nil⟩
  | cons row rows induction =>
      rcases readRow_adds (width row List.mem_cons_self) (fine row List.mem_cons_self) with
        ⟨rowMap, tags, read, adds⟩
      rcases adds rowMetrics with ⟨added, addsTo, each⟩
      rcases induction (rowMetrics ++ added)
          (fun other member => width other (List.mem_cons_of_mem row member))
          (fun other member => fine other (List.mem_cons_of_mem row member)) with
        ⟨metrics, rest, others⟩
      refine ⟨added ++ metrics, ?_, ?_⟩
      · rw [readRows, read]
        simp only [bind, Except.bind, addsTo, rest, List.append_assoc]
      · rw [List.product_cons]
        have ofRow : List.Forall₂
            (fun pair => IsColumnMetric q.metrics.length columnNames pair.1 pair.2)
            (q.metrics.map fun m => (row, m)) added :=
          List.forall₂_map_left_iff.mpr each
        exact List.rel_append ofRow others

theorem readRows_eq_error {q : ColumnMetricQuery} {columnNames : List String}
    {rows : List Row} (rowMetrics : List Metric)
    (width : ∀ row ∈ rows, row.cells.length = columnNames.length)
    (fails : ∃ row ∈ rows, q.FailsOn columnNames row) :
    ∃ err, q.readRows columnNames rowMetrics rows = .ok ([], some err) := by
  induction rows generalizing rowMetrics with
  | nil => simp at fails
  | cons row rows induction =>
      have rowWidth := width row List.mem_cons_self
      by_cases failsHere : q.FailsOn columnNames row
      · exact readRows_fails rowWidth failsHere rowMetrics rows
      · rcases readRow_adds rowWidth failsHere with ⟨rowMap, tags, read, adds⟩
        rcases adds rowMetrics with ⟨added, addsTo, _⟩
        have later : ∃ row ∈ rows, q.FailsOn columnNames row := by
          simpa [failsHere] using fails
        rcases induction (rowMetrics ++ added)
            (fun other member => width other (List.mem_cons_of_mem row member)) later with
          ⟨err, rest⟩
        refine ⟨err, ?_⟩
        rw [readRows, read]
        simp only [bind, Except.bind, addsTo, rest]

end ColumnMetricQuery

/-! ## Results with their columns in another order -/

def Row.reorderCells (order : List Nat) (row : Row) : Row :=
  { row with cells := reorder order row.cells }

/-- The same result with its first columns in the given order. -/
def Rows.reorderColumns (rows : Rows) {order : List Nat} {count : Nat}
    (arranges : order.Perm (List.range count)) : Rows where
  columns := reorder order rows.columns
  rows := rows.rows.map (Row.reorderCells order)
  err := rows.err
  width := by
    intro row member
    rcases List.mem_map.mp member with ⟨original, present, rfl⟩
    rw [length_reorder arranges, Row.reorderCells, length_reorder arranges]
    exact rows.width original present
  undisturbed := by
    intro ended row member
    rcases List.mem_map.mp member with ⟨original, present, rfl⟩
    exact rows.undisturbed ended original present

variable {order : List Nat} {numberOfValues : Nat} {columnNames : List String} {row : Row}

theorem columnReadable_reorder_iff (arranges : order.Perm (List.range numberOfValues)) :
    ColumnReadable numberOfValues (reorder order columnNames) (row.reorderCells order) ↔
      ColumnReadable numberOfValues columnNames row := by
  have values : (∀ cell ∈ (reorder order row.cells).take numberOfValues, cell.IsFloat64) ↔
      ∀ cell ∈ row.cells.take numberOfValues, cell.IsFloat64 := by
    rw [take_reorder arranges]
    exact forall_congr' fun cell =>
      imp_congr_left (filterMap_order_perm arranges row.cells).mem_iff
  constructor
  · intro readable
    refine ⟨readable.columns, ?_, readable.scan, values.mp readable.values, ?_⟩
    · rw [← length_reorder arranges columnNames]
      exact readable.enough
    · rw [← drop_reorder arranges row.cells]
      exact readable.tags
  · intro readable
    refine ⟨readable.columns, ?_, readable.scan, values.mpr readable.values, ?_⟩
    · rw [length_reorder arranges]
      exact readable.enough
    · rw [Row.reorderCells, drop_reorder arranges]
      exact readable.tags

/-- The maps of a row do not depend on the order of its values. -/
theorem getRowDataAsMaps_reorder (arranges : order.Perm (List.range numberOfValues))
    (width : row.cells.length = columnNames.length)
    (distinct : (columnNames.take numberOfValues).Nodup)
    (readable : ColumnReadable numberOfValues columnNames row) :
    getRowDataAsMaps numberOfValues (reorder order columnNames) (row.reorderCells order) =
      getRowDataAsMaps numberOfValues columnNames row := by
  have reordered := (columnReadable_reorder_iff arranges).mpr readable
  have reorderedWidth : (row.reorderCells order).cells.length =
      (reorder order columnNames).length := by
    rw [length_reorder arranges, Row.reorderCells, length_reorder arranges, width]
  rcases getRowDataAsMaps_eq_ok width readable with ⟨values, tags, floats, strings, read⟩
  rcases getRowDataAsMaps_eq_ok reorderedWidth reordered with
    ⟨otherValues, otherTags, otherFloats, otherStrings, otherRead⟩
  have sameValues : insertAll ∅ ((reorder order columnNames).zip otherValues) =
      insertAll ∅ (columnNames.zip values) := by
    apply Finmap.ext_lookup
    intro key
    apply Option.ext
    intro value
    rw [ColumnMetricQuery.lookup_rowMap floats (readable.length_values width floats),
      ColumnMetricQuery.lookup_rowMap otherFloats
        (reordered.length_values reorderedWidth otherFloats),
      Row.reorderCells, lastNamed_reorder arranges width.symm distinct]
  have sameTags : otherTags = tags := by
    rw [Row.reorderCells, drop_reorder arranges, strings] at otherStrings
    exact List.map_injective_iff.mpr (fun _ _ => Except.ok.inj) otherStrings.symm
  rw [read, otherRead, sameValues, sameTags, drop_reorder arranges]

namespace ColumnMetricQuery

variable {q : ColumnMetricQuery}

private theorem readRows_reorder (arranges : order.Perm (List.range q.metrics.length))
    (distinct : (columnNames.take q.metrics.length).Nodup) {rows : List Row}
    (width : ∀ row ∈ rows, row.cells.length = columnNames.length)
    (readable : ∀ row ∈ rows, ColumnReadable q.metrics.length columnNames row)
    (rowMetrics : List Metric) :
    q.readRows (reorder order columnNames) rowMetrics
        (rows.map (Row.reorderCells order)) =
      q.readRows columnNames rowMetrics rows := by
  induction rows generalizing rowMetrics with
  | nil => rfl
  | cons row rows induction =>
      have rowWidth := width row List.mem_cons_self
      have rowReadable := readable row List.mem_cons_self
      have rest := induction
        (fun other member => width other (List.mem_cons_of_mem row member))
        (fun other member => readable other (List.mem_cons_of_mem row member))
      rcases getRowDataAsMaps_eq_ok rowWidth rowReadable with ⟨values, tags, _, _, read⟩
      rw [List.map_cons, readRows, readRows,
        getRowDataAsMaps_reorder arranges rowWidth distinct rowReadable, read]
      simp only [bind, Except.bind, rest]

theorem failsOn_reorder_iff (arranges : order.Perm (List.range q.metrics.length)) :
    q.FailsOn (reorder order columnNames) (row.reorderCells order) ↔
      q.FailsOn columnNames row := by
  have keys : ∀ key, key ∈ (reorder order columnNames).take q.metrics.length ↔
      key ∈ columnNames.take q.metrics.length := by
    intro key
    rw [take_reorder arranges]
    exact (filterMap_order_perm arranges columnNames).mem_iff
  rw [FailsOn, FailsOn, columnReadable_reorder_iff arranges]
  simp only [keys]

/-- The failure of a query on a result that ended normally. -/
theorem exists_failsOn_iff (rows : Rows) (ended : rows.err = none) :
    (∃ row ∈ rows.rows, q.FailsOn rows.columns row) ↔
      rows.rows ≠ [] ∧
        (rows.columns.length < q.metrics.length ∨
          (∃ m ∈ q.metrics, m.key ∉ rows.columns.take q.metrics.length) ∨
          ∃ row ∈ rows.rows,
            (∃ cell ∈ row.cells.take q.metrics.length, ¬cell.IsFloat64) ∨
            ∃ cell ∈ row.cells.drop q.metrics.length, ¬cell.IsString) := by
  constructor
  · intro fails
    rcases fails with ⟨row, member, unreadable | missing⟩
    · refine ⟨List.ne_nil_of_mem member, ?_⟩
      by_contra fine
      rw [not_or, not_or] at fine
      rcases fine with ⟨enough, _, converts⟩
      have undisturbed := rows.undisturbed ended row member
      apply unreadable
      refine ⟨undisturbed.1, Nat.le_of_not_lt enough, undisturbed.2, ?_, ?_⟩
      · intro cell inRow
        by_contra refused
        exact converts ⟨row, member, .inl ⟨cell, inRow, refused⟩⟩
      · intro cell inRow
        by_contra refused
        exact converts ⟨row, member, .inr ⟨cell, inRow, refused⟩⟩
    · exact ⟨List.ne_nil_of_mem member, .inr (.inl missing)⟩
  · intro fails
    rcases fails with ⟨nonempty, few | missing | ⟨row, member, refused⟩⟩
    · rcases List.exists_mem_of_ne_nil _ nonempty with ⟨row, member⟩
      refine ⟨row, member, .inl fun readable => ?_⟩
      exact absurd readable.enough (Nat.not_le_of_lt few)
    · rcases List.exists_mem_of_ne_nil _ nonempty with ⟨row, member⟩
      exact ⟨row, member, .inr missing⟩
    · refine ⟨row, member, .inl fun readable => ?_⟩
      rcases refused with ⟨cell, inRow, refused⟩ | ⟨cell, inRow, refused⟩
      · exact refused (readable.values cell inRow)
      · exact refused (readable.tags cell inRow)

/-- On a result that ended normally the query never leaves the bounds of a slice.
It fails, without metrics, exactly if there are rows and they have too few
columns, or no column for a wanted key, or a cell that does not convert; and else
gives the metrics of each row for each key, row after row. The order of the
columns with the values plays no role; only the error that a cell gives may be
that of another cell. -/
theorem getMetrics_columns (q : ColumnMetricQuery) (rows : Rows)
    (ended : rows.err = none) :
    ∃ metrics err, q.getMetrics (.ok rows) = .ok (metrics, err) ∧
      (err.isSome ↔ rows.rows ≠ [] ∧
        (rows.columns.length < q.metrics.length ∨
          (∃ m ∈ q.metrics, m.key ∉ rows.columns.take q.metrics.length) ∨
          ∃ row ∈ rows.rows,
            (∃ cell ∈ row.cells.take q.metrics.length, ¬cell.IsFloat64) ∨
            ∃ cell ∈ row.cells.drop q.metrics.length, ¬cell.IsString)) ∧
      (err.isSome → metrics = []) ∧
      (err = none → metrics.length = rows.rows.length * q.metrics.length ∧
        List.Forall₂
          (fun pair => IsColumnMetric q.metrics.length rows.columns pair.1 pair.2)
          (rows.rows ×ˢ q.metrics) metrics) ∧
      ∀ (order : List Nat) (arranges : order.Perm (List.range q.metrics.length)),
        (rows.columns.take q.metrics.length).Nodup →
        (∃ reorderedErr, q.getMetrics (.ok (rows.reorderColumns arranges)) =
            .ok (metrics, reorderedErr) ∧ (reorderedErr.isSome ↔ err.isSome)) ∧
        ((∀ row ∈ rows.rows, ColumnReadable q.metrics.length rows.columns row) →
          q.getMetrics (.ok (rows.reorderColumns arranges)) =
            q.getMetrics (.ok rows)) := by
  have same : ∀ (order : List Nat) (arranges : order.Perm (List.range q.metrics.length)),
      (rows.columns.take q.metrics.length).Nodup →
      (∀ row ∈ rows.rows, ColumnReadable q.metrics.length rows.columns row) →
      q.getMetrics (.ok (rows.reorderColumns arranges)) = q.getMetrics (.ok rows) :=
    fun order arranges distinct readable =>
      readRows_reorder arranges distinct rows.width readable []
  rw [← exists_failsOn_iff rows ended]
  by_cases fails : ∃ row ∈ rows.rows, q.FailsOn rows.columns row
  · rcases readRows_eq_error [] rows.width fails with ⟨err, read⟩
    refine ⟨[], some err, read, by simp [fails], fun _ => rfl, nofun, ?_⟩
    intro order arranges distinct
    refine ⟨?_, same order arranges distinct⟩
    rcases fails with ⟨row, member, failsOn⟩
    have reordered : ∃ row ∈ (rows.reorderColumns arranges).rows,
        q.FailsOn (rows.reorderColumns arranges).columns row :=
      ⟨_, List.mem_map_of_mem member, (failsOn_reorder_iff arranges).mpr failsOn⟩
    rcases readRows_eq_error [] (rows.reorderColumns arranges).width reordered with
      ⟨reorderedErr, reorderedRead⟩
    exact ⟨some reorderedErr, reorderedRead, by simp⟩
  · have fine : ∀ row ∈ rows.rows, ¬q.FailsOn rows.columns row := by
      push Not at fails
      exact fails
    rcases readRows_eq_ok [] rows.width fine with ⟨metrics, read, each⟩
    have length : metrics.length = rows.rows.length * q.metrics.length := by
      rw [← each.length_eq, List.length_product]
    refine ⟨metrics, none, read, by simp [fails], nofun, fun _ => ⟨length, each⟩, ?_⟩
    intro order arranges distinct
    refine ⟨⟨none, ?_, Iff.rfl⟩, same order arranges distinct⟩
    rw [same order arranges distinct]
    · exact read
    · intro row member
      by_contra unreadable
      exact fine row member (.inl unreadable)

end ColumnMetricQuery

/-- A cell with a number, which is also a text. -/
def numberCell (bits : BitVec 64) (text : String) : Cell where
  float64 := .ok ⟨bits⟩
  string := .ok text

def textCell (text : String) : Cell where
  float64 := .error "invalid syntax"
  string := .ok text

def sampleColumnQuery : ColumnMetricQuery where
  query := "SELECT connections, max_connections, dbname"
  metrics := [⟨"connections", "conn"⟩, ⟨"max_connections", "conn"⟩]

/-- Two rows with their values the other way round and a tag. -/
def sampleColumnRows : Rows where
  columns := ["max_connections", "connections", "dbname"]
  rows :=
    [⟨[numberCell 5 "5", numberCell 1 "1", textCell "a"], none, none⟩,
      ⟨[numberCell 6 "6", numberCell 2 "2", textCell "b"], none, none⟩]
  err := none
  width := by simp
  undisturbed := by simp

private theorem sampleOrder : [1, 0].Perm (List.range 2) :=
  List.Perm.swap 0 1 []

theorem getMetrics_columns_sample :
    ∃ metrics, sampleColumnQuery.getMetrics (.ok sampleColumnRows) =
        .ok (metrics, none) ∧
      metrics.map Metric.value = [⟨1⟩, ⟨5⟩, ⟨2⟩, ⟨6⟩] ∧
      sampleColumnQuery.getMetrics
          (.ok (sampleColumnRows.reorderColumns sampleOrder)) =
        .ok (metrics, none) := by
  rcases sampleColumnQuery.getMetrics_columns sampleColumnRows rfl with
    ⟨metrics, err, got, _, _, _, reordered⟩
  cases got
  rcases (reordered [1, 0] sampleOrder (by decide)).1 with
    ⟨reorderedErr, same, noErr⟩
  cases reorderedErr with
  | none => exact ⟨_, rfl, rfl, same⟩
  | some reorderedErr => simp at noErr

end RdsMetricCollector.Collector
