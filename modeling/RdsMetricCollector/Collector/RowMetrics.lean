import RdsMetricCollector.Collector.ColumnMetrics

/-! # Metrics from rows

What a query with a metric per row makes of a result: for each wanted key the
value and the tags of the last row with that key, once lowered.
-/

namespace RdsMetricCollector.Collector

open RdsMetricCollector.Runtime

namespace RowMetricQuery

variable {toLower : String → String} {q : RowMetricQuery} {columnNames : List String}
  {rows : List Row} {key : String}

/-! ## Rows found by key -/

/-- The key of some row is `key`, once lowered. -/
def HasKey (toLower : String → String) (rows : List Row) (key : String) : Prop :=
  ∃ row ∈ rows, ∃ metricKey, row.key = some metricKey ∧ toLower metricKey = key

/-- The rows under their lowered keys. -/
def keyedRows (toLower : String → String) (rows : List Row) : List (String × Row) :=
  rows.filterMap fun row => row.key.map fun metricKey => (toLower metricKey, row)

theorem lastNamed_keyedRows_eq_none_iff :
    lastNamed key (keyedRows toLower rows) = none ↔ ¬HasKey toLower rows key := by
  rw [lastNamed_eq_none_iff, not_iff_not]
  simp only [keyedRows, HasKey, List.mem_map, List.mem_filterMap, Option.map_eq_some_iff]
  constructor
  · intro found
    rcases found with ⟨entry, ⟨row, member, metricKey, rowKey, rfl⟩, lowered⟩
    exact ⟨row, member, metricKey, rowKey, lowered⟩
  · intro found
    rcases found with ⟨row, member, metricKey, rowKey, lowered⟩
    exact ⟨(toLower metricKey, row), ⟨row, member, metricKey, rowKey, rfl⟩, lowered⟩

theorem keyedRows_cons {row : Row} {metricKey : String} (rowKey : row.key = some metricKey) :
    keyedRows toLower (row :: rows) =
      (toLower metricKey, row) :: keyedRows toLower rows :=
  List.filterMap_cons_some (by rw [rowKey]; rfl)

/-! ## The accumulated metrics -/

/-- What the loop over readable rows has gathered: the metric of the last row
under each key, over what was there before. -/
structure Gathers (toLower : String → String) (columnNames : List String)
    (rows : List Row) (before final : AcumMetrics) : Prop where
  last : ∀ {key row}, lastNamed key (keyedRows toLower rows) = some row →
    ∃ value tags, row.Holds value tags ∧
      final.lookup key = some (rowMetric columnNames value tags)
  other : ∀ {key}, lastNamed key (keyedRows toLower rows) = none →
    final.lookup key = before.lookup key

private theorem readRows_eq_ok (acumMetrics : AcumMetrics)
    (width : ∀ row ∈ rows, row.cells.length = columnNames.length)
    (readable : ∀ row ∈ rows, RowReadable columnNames row) :
    ∃ final, q.readRows toLower columnNames acumMetrics rows = .ok (.ok final) ∧
      Gathers toLower columnNames rows acumMetrics final := by
  induction rows generalizing acumMetrics with
  | nil => exact ⟨acumMetrics, rfl, nofun, fun _ => rfl⟩
  | cons row rows induction =>
      rcases @readRow_eq_ok q columnNames row (width row List.mem_cons_self)
        (readable row List.mem_cons_self) with
        ⟨metricKey, value, tags, rowKey, holds, read⟩
      rcases induction
          (acumMetrics.insert (toLower metricKey) (rowMetric columnNames value tags))
          (fun other member => width other (List.mem_cons_of_mem row member))
          (fun other member => readable other (List.mem_cons_of_mem row member)) with
        ⟨final, rest, gathers⟩
      refine ⟨final, by rw [readRows, read]; exact rest, ?_, ?_⟩
      · intro key found isLast
        rw [keyedRows_cons rowKey, lastNamed_cons] at isLast
        cases later : lastNamed key (keyedRows toLower rows) with
        | some other =>
            rw [later, Option.some_or] at isLast
            cases isLast
            exact gathers.last later
        | none =>
            rw [later, Option.none_or, Option.ite_none_right_eq_some] at isLast
            rcases isLast with ⟨rfl, same⟩
            cases same
            refine ⟨value, tags, holds, ?_⟩
            rw [gathers.other later, Finmap.lookup_insert]
      · intro key missing
        rw [keyedRows_cons rowKey, lastNamed_cons, Option.or_eq_none_iff] at missing
        have different : key ≠ toLower metricKey := by
          intro same
          simp [same] at missing
        rw [gathers.other missing.1, Finmap.lookup_insert_of_ne _ different]

private theorem readRows_eq_error (acumMetrics : AcumMetrics)
    (width : ∀ row ∈ rows, row.cells.length = columnNames.length)
    (unreadable : ∃ row ∈ rows, ¬RowReadable columnNames row) :
    ∃ err, q.readRows toLower columnNames acumMetrics rows = .ok (.error err) := by
  induction rows generalizing acumMetrics with
  | nil => simp at unreadable
  | cons row rows induction =>
      have rowWidth := width row List.mem_cons_self
      by_cases readable : RowReadable columnNames row
      · rcases @readRow_eq_ok q columnNames row rowWidth readable with
          ⟨metricKey, value, tags, _, _, read⟩
        have later : ∃ row ∈ rows, ¬RowReadable columnNames row := by
          simpa [readable] using unreadable
        rcases induction
            (acumMetrics.insert (toLower metricKey) (rowMetric columnNames value tags))
            (fun other member => width other (List.mem_cons_of_mem row member))
            later with ⟨err, rest⟩
        exact ⟨err, by rw [readRows, read]; exact rest⟩
      · rcases @readRow_eq_error q columnNames row rowWidth readable with ⟨err, read⟩
        exact ⟨err, by rw [readRows, read]; rfl⟩

theorem Gathers.mem_iff {final : AcumMetrics}
    (gathers : Gathers toLower columnNames rows ∅ final) :
    key ∈ final ↔ HasKey toLower rows key := by
  cases found : lastNamed key (keyedRows toLower rows) with
  | none =>
      have missing : key ∉ final :=
        Finmap.lookup_eq_none.mp ((gathers.other found).trans (Finmap.lookup_empty key))
      have noKey := lastNamed_keyedRows_eq_none_iff.mp found
      exact iff_of_false missing noKey
  | some row =>
      rcases gathers.last found with ⟨value, tags, _, lookup⟩
      have hasKey : HasKey toLower rows key := by
        by_contra noKey
        rw [lastNamed_keyedRows_eq_none_iff.mpr noKey] at found
        cases found
      exact iff_of_true (Finmap.mem_of_lookup_eq_some lookup) hasKey

/-- The rows determine what is gathered. -/
theorem Gathers.unique {others : List Row} {final otherFinal : AcumMetrics}
    (gathers : Gathers toLower columnNames rows ∅ final)
    (otherGathers : Gathers toLower columnNames others ∅ otherFinal)
    (same : ∀ key, lastNamed key (keyedRows toLower others) =
      lastNamed key (keyedRows toLower rows)) :
    otherFinal = final := by
  apply Finmap.ext_lookup
  intro key
  cases found : lastNamed key (keyedRows toLower rows) with
  | none => rw [gathers.other found, otherGathers.other ((same key).trans found)]
  | some row =>
      rcases gathers.last found with ⟨value, tags, holds, lookup⟩
      rcases otherGathers.last ((same key).trans found) with
        ⟨otherValue, otherTags, otherHolds, otherLookup⟩
      rcases holds.unique otherHolds with ⟨rfl, rfl⟩
      rw [lookup, otherLookup]

/-! ## The wanted metrics -/

theorem selectMetrics_eq_ok {acumMetrics : AcumMetrics} {metas : List MetricQueryMeta}
    (resultMetrics : List Metric) (present : ∀ m ∈ metas, m.key ∈ acumMetrics) :
    ∃ selected, q.selectMetrics acumMetrics resultMetrics metas =
        (resultMetrics ++ selected, none) ∧
      List.Forall₂ (fun (m : MetricQueryMeta) (metric : Metric) =>
        ∃ found, acumMetrics.lookup m.key = some found ∧
          metric = m.metric found.value found.tags) metas selected := by
  induction metas generalizing resultMetrics with
  | nil => exact ⟨[], by rw [selectMetrics, List.append_nil], .nil⟩
  | cons m metas induction =>
      rcases Finmap.mem_iff.mp (present m List.mem_cons_self) with ⟨found, lookup⟩
      rcases induction (resultMetrics ++ [m.metric found.value found.tags])
        (fun other member => present other (List.mem_cons_of_mem m member)) with
        ⟨selected, rest, each⟩
      refine ⟨_ :: selected, ?_, .cons ⟨found, lookup, rfl⟩ each⟩
      rw [selectMetrics, lookup, List.append_cons]
      exact rest

theorem selectMetrics_isSome_iff {acumMetrics : AcumMetrics}
    {resultMetrics : List Metric} {metas : List MetricQueryMeta} :
    (q.selectMetrics acumMetrics resultMetrics metas).2.isSome ↔
      ∃ m ∈ metas, m.key ∉ acumMetrics := by
  induction metas generalizing resultMetrics with
  | nil => simp [selectMetrics]
  | cons m metas induction =>
      rw [selectMetrics, List.exists_mem_cons_iff]
      cases found : acumMetrics.lookup m.key with
      | none => simp [Finmap.lookup_eq_none.mp found]
      | some v =>
          have present : m.key ∈ acumMetrics := Finmap.mem_of_lookup_eq_some found
          simp only [induction, present, not_true_eq_false, false_or]

theorem Gathers.selectMetrics_isSome_iff {acumMetrics : AcumMetrics}
    (gathers : Gathers toLower columnNames rows ∅ acumMetrics) :
    (q.selectMetrics acumMetrics [] q.metrics).2.isSome ↔
      ∃ m ∈ q.metrics, ¬HasKey toLower rows m.key := by
  rw [RowMetricQuery.selectMetrics_isSome_iff]
  simp only [gathers.mem_iff]

/-- A result whose rows can all be read. -/
theorem getMetrics_eq (rows : Rows)
    (readable : ∀ row ∈ rows.rows, RowReadable rows.columns row) :
    ∃ acumMetrics, Gathers toLower rows.columns rows.rows ∅ acumMetrics ∧
      q.getMetrics toLower (.ok rows) =
        .ok (q.selectMetrics acumMetrics [] q.metrics) := by
  rcases @readRows_eq_ok toLower q _ _ ∅ rows.width readable with
    ⟨acumMetrics, read, gathers⟩
  refine ⟨acumMetrics, gathers, ?_⟩
  rw [getMetrics, read]
  rfl

private theorem getMetrics_eq_error (rows : Rows)
    (unreadable : ∃ row ∈ rows.rows, ¬RowReadable rows.columns row) :
    ∃ err, q.getMetrics toLower (.ok rows) = .ok ([], some err) := by
  rcases @readRows_eq_error toLower q _ _ ∅ rows.width unreadable with ⟨err, read⟩
  exact ⟨err, by rw [getMetrics, read]; rfl⟩

theorem getMetrics_fails_iff (toLower : String → String) (q : RowMetricQuery)
    (rows : Rows) :
    ∃ metrics err, q.getMetrics toLower (.ok rows) = .ok (metrics, err) ∧
      (err.isSome ↔ (∃ row ∈ rows.rows, ¬RowReadable rows.columns row) ∨
        ∃ m ∈ q.metrics, ¬HasKey toLower rows.rows m.key) := by
  by_cases unreadable : ∃ row ∈ rows.rows, ¬RowReadable rows.columns row
  · rcases @getMetrics_eq_error toLower q rows unreadable with ⟨err, got⟩
    exact ⟨[], some err, got, by simp [unreadable]⟩
  · have readable : ∀ row ∈ rows.rows, RowReadable rows.columns row := by
      push Not at unreadable
      exact unreadable
    rcases @getMetrics_eq toLower q rows readable with ⟨acumMetrics, gathers, got⟩
    refine ⟨_, _, got, ?_⟩
    simp only [gathers.selectMetrics_isSome_iff, unreadable, false_or]

/-- The metric of a result for a wanted key. -/
structure IsRowMetric (toLower : String → String) (columnNames : List String)
    (rows : List Row) (m : MetricQueryMeta) (metric : Metric) : Prop where
  key : metric.key = m.key
  timestamp : metric.timestamp = 0
  unit : metric.unit = m.unit
  last : ∃ row, lastNamed m.key (keyedRows toLower rows) = some row ∧
    (∃ cell, row.cells[1]? = some cell ∧ cell.float64 = .ok metric.value) ∧
    TagsOf (columnNames.drop 2) (row.cells.drop 2) metric.tags

theorem Gathers.isRowMetric {acumMetrics : AcumMetrics} {m : MetricQueryMeta}
    (gathers : Gathers toLower columnNames rows ∅ acumMetrics) {found : Metric}
    (lookup : acumMetrics.lookup m.key = some found) :
    IsRowMetric toLower columnNames rows m (m.metric found.value found.tags) := by
  cases isLast : lastNamed m.key (keyedRows toLower rows) with
  | none =>
      rw [gathers.other isLast, Finmap.lookup_empty] at lookup
      cases lookup
  | some row =>
      rcases gathers.last isLast with ⟨value, tags, holds, gathered⟩
      rw [gathered] at lookup
      cases lookup
      exact ⟨rfl, rfl, rfl, row, isLast, holds.value, tagsOf_insertAll holds.tags⟩

private theorem keyedRows_perm {others : List Row} (perm : others.Perm rows) :
    (keyedRows toLower others).Perm (keyedRows toLower rows) :=
  perm.filterMap _

/-- The order of readable rows with different keys plays no role. -/
theorem getMetrics_perm {rows others : Rows} (columns : others.columns = rows.columns)
    (perm : others.rows.Perm rows.rows)
    (distinct : ((keyedRows toLower rows.rows).map Prod.fst).Nodup)
    (readable : ∀ row ∈ rows.rows, RowReadable rows.columns row) :
    q.getMetrics toLower (.ok others) = q.getMetrics toLower (.ok rows) := by
  have othersReadable : ∀ row ∈ others.rows, RowReadable others.columns row := by
    intro row member
    rw [columns]
    exact readable row (perm.mem_iff.mp member)
  rcases @getMetrics_eq toLower q rows readable with ⟨final, gathers, got⟩
  rcases @getMetrics_eq toLower q others othersReadable with
    ⟨otherFinal, otherGathers, otherGot⟩
  rw [columns] at otherGathers
  have keyed := @keyedRows_perm toLower _ _ perm
  have same : otherFinal = final := by
    apply gathers.unique otherGathers
    intro key
    apply lastNamed_perm keyed
    rw [(keyed.map Prod.fst).nodup_iff]
    exact distinct
  rw [got, otherGot, same]

/-- The failure of a query on a result that ended normally. -/
theorem exists_unreadable_iff (rows : Rows) (ended : rows.err = none) :
    (∃ row ∈ rows.rows, ¬RowReadable rows.columns row) ↔
      (rows.rows ≠ [] ∧ rows.columns.length < 2) ∨
        ∃ row ∈ rows.rows, ¬RowConverts row.cells := by
  constructor
  · intro unreadable
    rcases unreadable with ⟨row, member, unreadable⟩
    by_cases few : rows.columns.length < 2
    · exact .inl ⟨List.ne_nil_of_mem member, few⟩
    · have undisturbed := rows.undisturbed ended row member
      refine .inr ⟨row, member, fun converts => unreadable ?_⟩
      exact ⟨undisturbed.1, Nat.le_of_not_lt few, undisturbed.2, converts⟩
  · intro fails
    rcases fails with ⟨nonempty, few⟩ | ⟨row, member, refused⟩
    · rcases List.exists_mem_of_ne_nil _ nonempty with ⟨row, member⟩
      exact ⟨row, member, fun readable => absurd readable.enough (Nat.not_le_of_lt few)⟩
    · exact ⟨row, member, fun readable => refused readable.cells⟩

/-- On a result that ended normally the query never leaves the bounds of a slice.
It fails exactly if there are rows with too few columns, or a row that does not
convert, or no row for a wanted key; and else gives one metric for each key, from
the last row with that key. Rows with different keys may come in any order; only
the error that a row gives may be that of another row. -/
theorem getMetrics_rows (toLower : String → String) (q : RowMetricQuery) (rows : Rows)
    (ended : rows.err = none) :
    ∃ metrics err, q.getMetrics toLower (.ok rows) = .ok (metrics, err) ∧
      (err.isSome ↔
        ((rows.rows ≠ [] ∧ rows.columns.length < 2) ∨
          ∃ row ∈ rows.rows, ¬RowConverts row.cells) ∨
        ∃ m ∈ q.metrics, ¬HasKey toLower rows.rows m.key) ∧
      (err = none → metrics.length = q.metrics.length ∧
        List.Forall₂ (IsRowMetric toLower rows.columns rows.rows) q.metrics metrics) ∧
      ∀ permuted : Rows, permuted.columns = rows.columns →
        permuted.rows.Perm rows.rows →
        ((keyedRows toLower rows.rows).map Prod.fst).Nodup →
        (∃ permutedErr, q.getMetrics toLower (.ok permuted) = .ok (metrics, permutedErr) ∧
          (permutedErr.isSome ↔ err.isSome)) ∧
        ((∀ row ∈ rows.rows, RowReadable rows.columns row) →
          q.getMetrics toLower (.ok permuted) = q.getMetrics toLower (.ok rows)) := by
  rw [← exists_unreadable_iff rows ended]
  by_cases unreadable : ∃ row ∈ rows.rows, ¬RowReadable rows.columns row
  · rcases @getMetrics_eq_error toLower q rows unreadable with ⟨err, got⟩
    refine ⟨[], some err, got, by simp [unreadable], nofun, ?_⟩
    intro permuted columns perm distinct
    refine ⟨?_, getMetrics_perm columns perm distinct⟩
    have permutedUnreadable : ∃ row ∈ permuted.rows, ¬RowReadable permuted.columns row := by
      rcases unreadable with ⟨row, member, unreadable⟩
      rw [columns]
      exact ⟨row, perm.mem_iff.mpr member, unreadable⟩
    rcases @getMetrics_eq_error toLower q permuted permutedUnreadable with
      ⟨permutedErr, permutedGot⟩
    exact ⟨some permutedErr, permutedGot, by simp⟩
  · have readable : ∀ row ∈ rows.rows, RowReadable rows.columns row := by
      push Not at unreadable
      exact unreadable
    rcases @getMetrics_eq toLower q rows readable with ⟨acumMetrics, gathers, got⟩
    refine ⟨_, _, got,
      by simp only [gathers.selectMetrics_isSome_iff, unreadable, false_or], ?_, ?_⟩
    · intro noErr
      have present : ∀ m ∈ q.metrics, m.key ∈ acumMetrics := by
        by_contra missing
        push Not at missing
        have failed := (@selectMetrics_isSome_iff q acumMetrics [] q.metrics).mpr missing
        rw [noErr] at failed
        cases failed
      rcases @selectMetrics_eq_ok q _ _ [] present with ⟨metrics, selected, each⟩
      rw [selected]
      refine ⟨each.length_eq.symm, each.imp ?_⟩
      intro m metric found
      rcases found with ⟨found, lookup, rfl⟩
      exact gathers.isRowMetric lookup
    · intro permuted columns perm distinct
      have same := getMetrics_perm columns perm distinct readable (q := q)
      exact ⟨⟨_, same.trans got, Iff.rfl⟩, fun _ => same⟩

end RowMetricQuery

def sampleRowQuery : RowMetricQuery where
  query := "SHOW STATUS"
  metrics := [⟨"queries", "1"⟩, ⟨"threads_connected", "conn"⟩]

/-- Rows for both keys, of which one comes again in other letters, and a row
that is not wanted. -/
def sampleRowRows : Rows where
  columns := ["Variable_name", "Value"]
  rows :=
    [⟨[textCell "Queries", numberCell 7 "7"], none, none⟩,
      ⟨[textCell "Uptime", numberCell 9 "9"], none, none⟩,
      ⟨[textCell "Threads_connected", numberCell 1 "1"], none, none⟩,
      ⟨[textCell "queries", numberCell 8 "8"], none, none⟩]
  err := none
  width := by simp
  undisturbed := by simp

/-- Lowering of the keys of the sample. -/
def sampleToLower (text : String) : String :=
  if text = "Queries" then "queries"
  else if text = "Threads_connected" then "threads_connected"
  else if text = "Uptime" then "uptime"
  else text

theorem getMetrics_rows_sample :
    ∃ metrics, sampleRowQuery.getMetrics sampleToLower (.ok sampleRowRows) =
        .ok (metrics, none) ∧
      metrics.map Metric.value = [⟨8⟩, ⟨1⟩] ∧
      List.Forall₂ (RowMetricQuery.IsRowMetric sampleToLower sampleRowRows.columns
        sampleRowRows.rows) sampleRowQuery.metrics metrics := by
  rcases RowMetricQuery.getMetrics_rows sampleToLower sampleRowQuery sampleRowRows rfl with
    ⟨metrics, err, got, _, each, _⟩
  cases got
  exact ⟨_, rfl, rfl, (each rfl).2⟩

end RdsMetricCollector.Collector
