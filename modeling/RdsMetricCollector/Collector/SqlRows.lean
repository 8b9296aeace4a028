import RdsMetricCollector.Collector.Sql

/-! # Reading rows

What `Scan` leaves in the variables of a query. The two kinds of queries read a
row without ever leaving the bounds of a slice, and fail exactly on rows that
cannot be read.
-/

namespace RdsMetricCollector.Collector

open RdsMetricCollector.Runtime

variable {Vars : Type}

def Cell.IsFloat64 (cell : Cell) : Prop :=
  ∃ value, cell.float64 = .ok value

def Cell.IsString (cell : Cell) : Prop :=
  ∃ value, cell.string = .ok value

/-- The cell converts to what the destination points to. -/
def Destination.Accepts (destination : Destination Vars) (cell : Cell) : Prop :=
  match destination with
  | .float64 _ => cell.IsFloat64
  | .string _ => cell.IsString

private theorem exists_converted {Value : Type} {convert : Cell → Except String Value}
    {cells : List Cell} (converts : ∀ cell ∈ cells, ∃ value, convert cell = .ok value) :
    ∃ values : List Value, cells.map convert = values.map .ok := by
  induction cells with
  | nil => exact ⟨[], rfl⟩
  | cons cell cells induction =>
      rcases converts cell List.mem_cons_self with ⟨value, converted⟩
      rcases induction fun other member =>
        converts other (List.mem_cons_of_mem cell member) with ⟨values, rest⟩
      exact ⟨value :: values, by rw [List.map_cons, List.map_cons, converted, rest]⟩

/-! ## Scanning -/

theorem scanCells_append {left right : List (Destination Vars × Cell)}
    {vars middle : Vars} (scanned : scanCells left vars = (middle, none)) :
    scanCells (left ++ right) vars = scanCells right middle := by
  induction left generalizing vars with
  | nil =>
      cases scanned
      rfl
  | cons pair left induction =>
      rcases pair with ⟨destination, cell⟩
      cases destination with
      | float64 assign =>
          rw [List.cons_append, scanCells]
          rw [scanCells] at scanned
          split at scanned
          · exact induction scanned
          · cases scanned
      | string assign =>
          rw [List.cons_append, scanCells]
          rw [scanCells] at scanned
          split at scanned
          · exact induction scanned
          · cases scanned

/-- Scanning fails at a cell that does not convert, and only there. -/
theorem scanCells_isSome_iff {pairs : List (Destination Vars × Cell)}
    {vars : Vars} :
    (scanCells pairs vars).2.isSome ↔ ∃ pair ∈ pairs, ¬pair.1.Accepts pair.2 := by
  induction pairs generalizing vars with
  | nil => simp [scanCells]
  | cons pair pairs induction =>
      rcases pair with ⟨destination, cell⟩
      rw [List.exists_mem_cons_iff]
      cases destination with
      | float64 assign =>
          rw [scanCells]
          split
          · next value converts =>
              rw [induction]
              simp [Destination.Accepts, Cell.IsFloat64, converts]
          · next err converts =>
              simp [Destination.Accepts, Cell.IsFloat64, converts]
      | string assign =>
          rw [scanCells]
          split
          · next value converts =>
              rw [induction]
              simp [Destination.Accepts, Cell.IsString, converts]
          · next err converts =>
              simp [Destination.Accepts, Cell.IsString, converts]

/-- Filling consecutive elements of a slice, when each destination assigns the
element at its own index. -/
theorem scanCells_slice {Value : Type} {convert : Cell → Except String Value}
    {destination : Nat → Destination Vars} {zero : Value} (slice : List Value → Vars)
    (assigns : ∀ before after cell value rest, convert cell = .ok value →
      scanCells ((destination before.length, cell) :: rest) (slice (before ++ zero :: after)) =
        scanCells rest (slice (before ++ value :: after)))
    {cells : List Cell} {values : List Value} (converted : cells.map convert = values.map .ok)
    (before : List Value) :
    scanCells (((List.range' before.length cells.length).map destination).zip cells)
        (slice (before ++ List.replicate cells.length zero)) =
      (slice (before ++ values), none) := by
  induction cells generalizing before values with
  | nil =>
      cases values with
      | nil => simp [scanCells]
      | cons value values => cases converted
  | cons cell cells induction =>
      cases values with
      | nil => cases converted
      | cons value values =>
          rw [List.map_cons, List.map_cons, List.cons.injEq] at converted
          have rest := induction converted.2 (before ++ [value])
          rw [List.length_append, List.length_singleton, List.append_assoc,
            List.append_assoc, List.singleton_append, List.singleton_append] at rest
          rw [List.length_cons, List.range'_succ, List.map_cons, List.zip_cons_cons,
            List.replicate_succ, assigns _ _ _ _ _ converted.1, rest]

private theorem scanCells_values {cells : List Cell} {values : List Float64}
    (converted : cells.map Cell.float64 = values.map .ok)
    (before : List Float64) (zero : Float64) (tagsData : List String) :
    scanCells (((List.range' before.length cells.length).map valueDestination).zip cells)
        (before ++ List.replicate cells.length zero, tagsData) =
      ((before ++ values, tagsData), none) := by
  refine scanCells_slice (fun valuesData => (valuesData, tagsData)) ?_ converted before
  intro before after cell value rest converts
  simp [valueDestination, scanCells, converts]

private theorem scanCells_tags {cells : List Cell} {values : List String}
    (converted : cells.map Cell.string = values.map .ok)
    (before : List String) (vars : Vars) :
    scanCells (((List.range' before.length cells.length).map tagDestination).zip cells)
        (vars, before ++ List.replicate cells.length "") =
      ((vars, before ++ values), none) := by
  refine scanCells_slice (Prod.mk vars) ?_ converted before
  intro before after cell value rest converts
  simp [tagDestination, scanCells, converts]

theorem length_converted {Value : Type} {convert : Cell → Except String Value}
    {cells : List Cell} {values : List Value}
    (converted : cells.map convert = values.map .ok) :
    values.length = cells.length := by
  have lengths := congrArg List.length converted
  rw [List.length_map, List.length_map] at lengths
  exact lengths.symm

/-- Destinations that all accept the same cells. -/
theorem accepts_zip_iff {destination : Nat → Destination Vars}
    {Converts : Cell → Prop}
    (accepts : ∀ index cell, (destination index).Accepts cell ↔ Converts cell)
    {cells : List Cell} {count : Nat} (width : cells.length = count) :
    (∀ pair ∈ ((List.range count).map destination).zip cells,
        pair.1.Accepts pair.2) ↔
      ∀ cell ∈ cells, Converts cell := by
  have seconds : (((List.range count).map destination).zip cells).map Prod.snd =
      cells := by
    apply List.map_snd_zip
    rw [List.length_map, List.length_range, width]
  constructor
  · intro all cell member
    rw [← seconds] at member
    rcases List.mem_map.mp member with ⟨pair, inZip, rfl⟩
    rcases List.mem_map.mp (List.of_mem_zip inZip).1 with ⟨index, _, equal⟩
    have accepted := all pair inZip
    rwa [← equal, accepts] at accepted
  · intro all pair inZip
    rcases List.mem_map.mp (List.of_mem_zip inZip).1 with ⟨index, _, equal⟩
    rw [← equal, accepts]
    exact all pair.2 (List.of_mem_zip inZip).2

/-- `Scan` fails on rows that are closed or have a cell that does not convert. -/
theorem exists_scan_error {row : Row} {scanArgs : List (Destination Vars)} (vars : Vars)
    (width : scanArgs.length = row.cells.length)
    (refused : row.scanErr = none →
      ¬∀ pair ∈ scanArgs.zip row.cells, pair.1.Accepts pair.2) :
    ∃ filled err, scan row scanArgs vars = (filled, some err) := by
  cases closed : row.scanErr with
  | some err => exact ⟨vars, err, by rw [scan, closed]⟩
  | none =>
      have failed : (scanCells (scanArgs.zip row.cells) vars).2.isSome := by
        rw [scanCells_isSome_iff]
        simpa using refused closed
      rcases Option.isSome_iff_exists.mp failed with ⟨err, equal⟩
      refine ⟨(scanCells (scanArgs.zip row.cells) vars).1, err, ?_⟩
      rw [scan, closed]
      simp only [if_pos width]
      rw [← equal]

/-! ## Rows with a metric per column -/

/-- The row converts to as many values as the query has metrics, followed by
tags. -/
structure ColumnReadable (numberOfValues : Nat) (columnNames : List String)
    (row : Row) : Prop where
  columns : row.columnsErr = none
  enough : numberOfValues ≤ columnNames.length
  scan : row.scanErr = none
  values : ∀ cell ∈ row.cells.take numberOfValues, cell.IsFloat64
  tags : ∀ cell ∈ row.cells.drop numberOfValues, cell.IsString

/-- The pointers that a column query scans into. -/
def columnArgs (numberOfValues numberOfTags : Nat) :
    List (Destination (List Float64 × List String)) :=
  (List.range numberOfValues).map valueDestination ++
    (List.range numberOfTags).map tagDestination

private theorem mapM_columnArgs (numberOfValues numberOfTags : Nat) :
    (List.range (numberOfValues + numberOfTags)).mapM (fun i =>
        if i < numberOfValues then valuePointer numberOfValues i
        else tagPointer numberOfTags (i - numberOfValues)) =
      .ok (columnArgs numberOfValues numberOfTags) := by
  have safe : ∀ i ∈ List.range (numberOfValues + numberOfTags),
      (if i < numberOfValues then valuePointer numberOfValues i
        else tagPointer numberOfTags (i - numberOfValues)) =
      .ok (if i < numberOfValues then valueDestination i
        else tagDestination (i - numberOfValues)) := by
    intro i member
    have inRange := List.mem_range.mp member
    split
    · exact checkIndex_eq_ok ‹_› _
    · exact checkIndex_eq_ok (by omega) _
  rw [mapM_eq_ok safe, columnArgs, List.range_add, List.map_append, List.map_map]
  congr 2
  · apply List.map_congr_left
    intro i member
    exact if_pos (List.mem_range.mp member)
  · apply List.map_congr_left
    intro i _
    simp

private theorem columnArgs_zip {numberOfValues numberOfTags : Nat} {cells : List Cell}
    (width : cells.length = numberOfValues + numberOfTags) :
    (columnArgs numberOfValues numberOfTags).zip cells =
      ((List.range numberOfValues).map valueDestination).zip
          (cells.take numberOfValues) ++
        ((List.range numberOfTags).map tagDestination).zip
          (cells.drop numberOfValues) := by
  rw [columnArgs]
  nth_rewrite 1 [← List.take_append_drop numberOfValues cells]
  apply List.zip_append
  rw [List.length_map, List.length_range, List.length_take]
  omega

/-- The part of `getRowDataAsMaps` behind its checks. -/
theorem getRowDataAsMaps_eq {numberOfValues numberOfTags : Nat}
    {columnNames : List String} {row : Row} (columns : row.columnsErr = none)
    (width : columnNames.length = numberOfValues + numberOfTags) :
    getRowDataAsMaps numberOfValues columnNames row =
      match scan row (columnArgs numberOfValues numberOfTags)
        (List.replicate numberOfValues (Float64.mk 0),
          List.replicate numberOfTags "") with
      | (_, some err) => .ok (∅, ∅, some err)
      | ((valuesData, tagsData), none) => do
          let valuesMap ← fillMap columnNames 0 ∅ valuesData
          let tagsMap ← fillMap columnNames numberOfValues ∅ tagsData
          return (valuesMap, tagsMap, none) := by
  have enough : ¬columnNames.length < numberOfValues := by omega
  have tagsLength : ((columnNames.length : Int) - numberOfValues).toNat =
      numberOfTags := by omega
  have tagsNonneg : 0 ≤ (columnNames.length : Int) - numberOfValues := by omega
  rw [getRowDataAsMaps, columns]
  simp only [if_neg enough, makeSlice_eq_ok (Int.natCast_nonneg numberOfValues),
    makeSlice_eq_ok tagsNonneg, tagsLength, Int.toNat_natCast]
  rw [width]
  simp only [bind, Except.bind, List.length_replicate, mapM_columnArgs]
  rfl

private theorem length_columnArgs (numberOfValues numberOfTags : Nat) :
    (columnArgs numberOfValues numberOfTags).length =
      numberOfValues + numberOfTags := by
  simp [columnArgs]

private theorem scan_columnArgs {numberOfValues numberOfTags : Nat} {row : Row}
    {values : List Float64} {tags : List String} (notClosed : row.scanErr = none)
    (width : row.cells.length = numberOfValues + numberOfTags)
    (floats : (row.cells.take numberOfValues).map Cell.float64 = values.map .ok)
    (strings : (row.cells.drop numberOfValues).map Cell.string = tags.map .ok) :
    scan row (columnArgs numberOfValues numberOfTags)
        (List.replicate numberOfValues (Float64.mk 0),
          List.replicate numberOfTags "") =
      ((values, tags), none) := by
  have valuesLength : (row.cells.take numberOfValues).length = numberOfValues := by
    rw [List.length_take]
    omega
  have tagsLength : (row.cells.drop numberOfValues).length = numberOfTags := by
    rw [List.length_drop]
    omega
  have scannedValues := scanCells_values floats [] (Float64.mk 0)
    (List.replicate numberOfTags "")
  have scannedTags := scanCells_tags strings [] values
  simp only [List.length_nil, List.nil_append, valuesLength, tagsLength,
    ← List.range_eq_range'] at scannedValues scannedTags
  rw [scan, notClosed]
  simp only [if_pos ((length_columnArgs _ _).trans width.symm)]
  rw [columnArgs_zip width, scanCells_append scannedValues, scannedTags]

/-- A readable row gives the maps of its values and tags. -/
theorem getRowDataAsMaps_eq_ok {numberOfValues : Nat} {columnNames : List String}
    {row : Row} (width : row.cells.length = columnNames.length)
    (readable : ColumnReadable numberOfValues columnNames row) :
    ∃ values tags,
      (row.cells.take numberOfValues).map Cell.float64 = values.map .ok ∧
      (row.cells.drop numberOfValues).map Cell.string = tags.map .ok ∧
      getRowDataAsMaps numberOfValues columnNames row =
        .ok (insertAll ∅ (columnNames.zip values),
          insertAll ∅ ((columnNames.drop numberOfValues).zip tags), none) := by
  rcases exists_converted readable.values with ⟨values, floats⟩
  rcases exists_converted readable.tags with ⟨tags, strings⟩
  rcases Nat.exists_eq_add_of_le readable.enough with ⟨numberOfTags, split⟩
  have valuesFit : 0 + values.length ≤ columnNames.length := by
    rw [length_converted floats, List.length_take]
    omega
  have tagsFit : numberOfValues + tags.length ≤ columnNames.length := by
    rw [length_converted strings, List.length_drop]
    omega
  refine ⟨values, tags, floats, strings, ?_⟩
  rw [getRowDataAsMaps_eq readable.columns split,
    scan_columnArgs readable.scan (width.trans split) floats strings]
  simp only [bind, Except.bind, fillMap_eq_ok valuesFit, fillMap_eq_ok tagsFit,
    List.drop_zero]
  rfl

theorem accepts_columnArgs_iff {numberOfValues numberOfTags : Nat}
    {cells : List Cell} (width : cells.length = numberOfValues + numberOfTags) :
    (∀ pair ∈ (columnArgs numberOfValues numberOfTags).zip cells,
        pair.1.Accepts pair.2) ↔
      (∀ cell ∈ cells.take numberOfValues, cell.IsFloat64) ∧
        ∀ cell ∈ cells.drop numberOfValues, cell.IsString := by
  rw [columnArgs_zip width, List.forall_mem_append]
  apply and_congr
  · apply accepts_zip_iff
    · intro index cell
      rfl
    · rw [List.length_take]
      omega
  · apply accepts_zip_iff
    · intro index cell
      rfl
    · rw [List.length_drop]
      omega

/-- A row that is not readable gives an error. -/
theorem getRowDataAsMaps_eq_error {numberOfValues : Nat}
    {columnNames : List String} {row : Row}
    (width : row.cells.length = columnNames.length)
    (unreadable : ¬ColumnReadable numberOfValues columnNames row) :
    ∃ err, getRowDataAsMaps numberOfValues columnNames row =
      .ok (∅, ∅, some err) := by
  cases columns : row.columnsErr with
  | some err => exact ⟨err, by rw [getRowDataAsMaps, columns]⟩
  | none =>
      by_cases few : columnNames.length < numberOfValues
      · exact ⟨_, by rw [getRowDataAsMaps, columns]; exact if_pos few⟩
      · rcases Nat.exists_eq_add_of_le (Nat.le_of_not_lt few) with
          ⟨numberOfTags, split⟩
        have argsWidth := (length_columnArgs numberOfValues numberOfTags).trans
          (width.trans split).symm
        have refused : row.scanErr = none →
            ¬∀ pair ∈ (columnArgs numberOfValues numberOfTags).zip row.cells,
              pair.1.Accepts pair.2 := by
          intro notClosed accepted
          have converts := (accepts_columnArgs_iff (width.trans split)).mp accepted
          exact unreadable
            ⟨columns, Nat.le_of_not_lt few, notClosed, converts.1, converts.2⟩
        rcases exists_scan_error
          (List.replicate numberOfValues (Float64.mk 0), List.replicate numberOfTags "")
          argsWidth refused with ⟨filled, err, scanned⟩
        exact ⟨err, by rw [getRowDataAsMaps_eq columns split, scanned]⟩

/-! ## Rows with one metric -/

/-- A key, a value and tags. -/
def RowConverts : List Cell → Prop
  | key :: value :: tags =>
      key.IsString ∧ value.IsFloat64 ∧ ∀ tag ∈ tags, tag.IsString
  | _ => False

private theorem RowConverts.exists_cells {cells : List Cell} (converts : RowConverts cells) :
    ∃ keyCell valueCell tagCells key value, ∃ tags : List String,
      cells = keyCell :: valueCell :: tagCells ∧
      keyCell.string = .ok key ∧ valueCell.float64 = .ok value ∧
      tagCells.map Cell.string = tags.map .ok := by
  cases cells with
  | nil => cases converts
  | cons keyCell rest =>
      cases rest with
      | nil => cases converts
      | cons valueCell tagCells =>
          rcases converts with ⟨⟨key, keyEq⟩, ⟨value, valueEq⟩, tagsConvert⟩
          rcases exists_converted tagsConvert with ⟨tags, strings⟩
          exact ⟨keyCell, valueCell, tagCells, key, value, tags, rfl, keyEq,
            valueEq, strings⟩

/-- The row converts to a key, a value and tags. -/
structure RowReadable (columnNames : List String) (row : Row) : Prop where
  columns : row.columnsErr = none
  enough : 2 ≤ columnNames.length
  scan : row.scanErr = none
  cells : RowConverts row.cells

/-- The key of a row, before it is lowered. -/
def Row.key (row : Row) : Option String :=
  row.cells.head?.bind fun cell => cell.string.toOption

/-- The pointers that a row query scans into. -/
def rowArgs (numberOfTags : Nat) :
    List (Destination ((String × Float64) × List String)) :=
  [.string fun value vars => ((value, vars.1.2), vars.2),
    .float64 fun value vars => ((vars.1.1, value), vars.2)] ++
    (List.range numberOfTags).map tagDestination

private theorem mapM_tagPointer (numberOfTags : Nat) :
    (List.range numberOfTags).mapM (fun i =>
        (tagPointer numberOfTags i :
          Except Panic (Destination (Vars × List String)))) =
      .ok ((List.range numberOfTags).map tagDestination) := by
  apply mapM_eq_ok
  intro i member
  exact checkIndex_eq_ok (List.mem_range.mp member) _

private theorem readRow_eq {q : RowMetricQuery} {numberOfTags : Nat}
    {columnNames : List String} {row : Row} (columns : row.columnsErr = none)
    (width : columnNames.length = 2 + numberOfTags) :
    q.readRow columnNames row =
      match scan row (rowArgs numberOfTags)
        (("", Float64.mk 0), List.replicate numberOfTags "") with
      | (_, some err) => .ok (.error err)
      | (((metricKey, metricValue), tagsData), none) => do
          let tags ← fillMap columnNames 2 ∅ tagsData
          return .ok (metricKey,
            { key := "", timestamp := 0, value := metricValue, unit := "",
              tags := tags.insert "source" "sql" }) := by
  have enough : ¬columnNames.length < 2 := by omega
  have tagsLength : ((columnNames.length : Int) - 2).toNat = numberOfTags := by
    omega
  have tagsNonneg : 0 ≤ (columnNames.length : Int) - 2 := by omega
  rw [RowMetricQuery.readRow, columns]
  simp only [if_neg enough, makeSlice_eq_ok tagsNonneg, tagsLength]
  simp only [bind, Except.bind, List.length_replicate, mapM_tagPointer]
  rfl

private theorem length_rowArgs (numberOfTags : Nat) :
    (rowArgs numberOfTags).length = 2 + numberOfTags := by
  simp [rowArgs]
  omega

private theorem scan_rowArgs {numberOfTags : Nat} {row : Row} {keyCell valueCell : Cell}
    {tagCells : List Cell} {key : String} {value : Float64} {tags : List String}
    (notClosed : row.scanErr = none)
    (cells : row.cells = keyCell :: valueCell :: tagCells)
    (width : tagCells.length = numberOfTags) (keyEq : keyCell.string = .ok key)
    (valueEq : valueCell.float64 = .ok value)
    (strings : tagCells.map Cell.string = tags.map .ok) :
    scan row (rowArgs numberOfTags)
        (("", Float64.mk 0), List.replicate numberOfTags "") =
      (((key, value), tags), none) := by
  have scannedTags := scanCells_tags strings [] (key, value)
  simp only [List.length_nil, List.nil_append, width,
    ← List.range_eq_range'] at scannedTags
  have argsLength : (rowArgs numberOfTags).length = row.cells.length := by
    rw [length_rowArgs, cells, List.length_cons, List.length_cons]
    omega
  rw [scan, notClosed]
  simp only [if_pos argsLength]
  rw [cells, rowArgs, List.cons_append, List.cons_append, List.nil_append,
    List.zip_cons_cons, List.zip_cons_cons, scanCells, keyEq]
  simp only [scanCells, valueEq]
  exact scannedTags

/-- The metric of a readable row. -/
def rowMetric (columnNames : List String) (value : Float64) (tags : List String) :
    Metric where
  key := ""
  timestamp := 0
  value := value
  unit := ""
  tags := (insertAll ∅ ((columnNames.drop 2).zip tags)).insert "source" "sql"

/-- The value and the tags in the cells of a row. -/
structure Row.Holds (row : Row) (value : Float64) (tags : List String) : Prop where
  value : ∃ cell, row.cells[1]? = some cell ∧ cell.float64 = .ok value
  tags : (row.cells.drop 2).map Cell.string = tags.map .ok

theorem Row.Holds.unique {row : Row} {value otherValue : Float64}
    {tags otherTags : List String} (holds : row.Holds value tags)
    (others : row.Holds otherValue otherTags) :
    value = otherValue ∧ tags = otherTags := by
  rcases holds.value with ⟨cell, found, converts⟩
  rcases others.value with ⟨otherCell, otherFound, otherConverts⟩
  rw [found] at otherFound
  cases otherFound
  rw [converts] at otherConverts
  have sameTags := holds.tags.symm.trans others.tags
  exact ⟨Except.ok.inj otherConverts,
    List.map_injective_iff.mpr (fun _ _ => Except.ok.inj) sameTags⟩

theorem readRow_eq_ok {q : RowMetricQuery} {columnNames : List String} {row : Row}
    (width : row.cells.length = columnNames.length)
    (readable : RowReadable columnNames row) :
    ∃ key value tags, row.key = some key ∧ row.Holds value tags ∧
      q.readRow columnNames row =
        .ok (.ok (key, rowMetric columnNames value tags)) := by
  rcases Nat.exists_eq_add_of_le readable.enough with ⟨numberOfTags, split⟩
  rcases readable.cells.exists_cells with
    ⟨keyCell, valueCell, tagCells, key, value, tags, cells, keyEq, valueEq, strings⟩
  have tagsLength : tagCells.length = numberOfTags := by
    rw [cells, List.length_cons, List.length_cons] at width
    omega
  have tagsFit : 2 + tags.length ≤ columnNames.length := by
    rw [length_converted strings]
    omega
  refine ⟨key, value, tags, ?_, ⟨⟨valueCell, ?_, valueEq⟩, ?_⟩, ?_⟩
  · rw [Row.key, cells, List.head?_cons, Option.bind_some, keyEq]
    rfl
  · rw [cells]
    rfl
  · rw [cells]
    exact strings
  · rw [readRow_eq readable.columns split,
      scan_rowArgs readable.scan cells tagsLength keyEq valueEq strings]
    simp only [bind, Except.bind, fillMap_eq_ok tagsFit]
    rfl

theorem accepts_rowArgs_iff {numberOfTags : Nat} {cells : List Cell}
    (width : cells.length = 2 + numberOfTags) :
    (∀ pair ∈ (rowArgs numberOfTags).zip cells, pair.1.Accepts pair.2) ↔
      RowConverts cells := by
  cases cells with
  | nil =>
      rw [List.length_nil] at width
      omega
  | cons key rest =>
      cases rest with
      | nil =>
          rw [List.length_singleton] at width
          omega
      | cons value tags =>
          have tagsLength : tags.length = numberOfTags := by
            rw [List.length_cons, List.length_cons] at width
            omega
          rw [rowArgs, List.cons_append, List.cons_append, List.nil_append,
            List.zip_cons_cons, List.zip_cons_cons, List.forall_mem_cons,
            List.forall_mem_cons]
          apply and_congr Iff.rfl
          apply and_congr Iff.rfl
          apply accepts_zip_iff _ tagsLength
          intro index cell
          rfl

theorem readRow_eq_error {q : RowMetricQuery} {columnNames : List String}
    {row : Row} (width : row.cells.length = columnNames.length)
    (unreadable : ¬RowReadable columnNames row) :
    ∃ err, q.readRow columnNames row = .ok (.error err) := by
  cases columns : row.columnsErr with
  | some err => exact ⟨err, by rw [RowMetricQuery.readRow, columns]⟩
  | none =>
      by_cases few : columnNames.length < 2
      · exact ⟨_, by rw [RowMetricQuery.readRow, columns]; exact if_pos few⟩
      · rcases Nat.exists_eq_add_of_le (Nat.le_of_not_lt few) with
          ⟨numberOfTags, split⟩
        have argsWidth :=
          (length_rowArgs numberOfTags).trans (width.trans split).symm
        have refused : row.scanErr = none →
            ¬∀ pair ∈ (rowArgs numberOfTags).zip row.cells, pair.1.Accepts pair.2 := by
          intro notClosed accepted
          exact unreadable ⟨columns, Nat.le_of_not_lt few, notClosed,
            (accepts_rowArgs_iff (width.trans split)).mp accepted⟩
        rcases exists_scan_error (("", Float64.mk 0), List.replicate numberOfTags "")
          argsWidth refused with ⟨filled, err, scanned⟩
        exact ⟨err, by rw [readRow_eq columns split, scanned]⟩

end RdsMetricCollector.Collector
