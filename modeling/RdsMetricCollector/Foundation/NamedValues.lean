import Mathlib.Data.List.Nodup
import RdsMetricCollector.Foundation.Slices

/-! # Named values

Values that stand under names in a list, where a name may be repeated and its
last value counts. This is what a map that is filled from the list holds.
-/

namespace RdsMetricCollector.Runtime

variable {α β : Type} {name : String}

/-- The last value under a name. -/
def lastNamed (name : String) (entries : List (String × α)) : Option α :=
  (entries.filterMap fun entry => if entry.1 = name then some entry.2 else none).getLast?

example : lastNamed "a" [("a", 1), ("b", 2), ("a", 3)] = some 3 := by decide

@[simp] theorem lastNamed_nil : lastNamed name ([] : List (String × α)) = none :=
  rfl

theorem lastNamed_cons (entry : String × α) (entries : List (String × α)) :
    lastNamed name (entry :: entries) =
      (lastNamed name entries).or (if entry.1 = name then some entry.2 else none) := by
  rw [lastNamed, lastNamed, List.filterMap_cons]
  split_ifs with same
  · rw [List.getLast?_cons]
    cases (entries.filterMap _).getLast? <;> rfl
  · rw [Option.or_none]

theorem lastNamed_concat (entries : List (String × α)) (entry : String × α) :
    lastNamed name (entries ++ [entry]) =
      if entry.1 = name then some entry.2 else lastNamed name entries := by
  rw [lastNamed, lastNamed, List.filterMap_append, List.filterMap_cons]
  split_ifs with same
  · rw [List.filterMap_nil, List.getLast?_concat]
  · rw [List.filterMap_nil, List.append_nil]

theorem lastNamed_map (convert : α → β) (entries : List (String × α)) :
    lastNamed name (entries.map (Prod.map id convert)) =
      (lastNamed name entries).map convert := by
  induction entries with
  | nil => rfl
  | cons entry entries induction =>
      rw [List.map_cons, lastNamed_cons, lastNamed_cons, induction, Option.map_or]
      congr 1
      simp only [Prod.map_fst, id_eq, Prod.map_snd]
      split_ifs <;> rfl

theorem lastNamed_eq_none_iff {entries : List (String × α)} :
    lastNamed name entries = none ↔ name ∉ entries.map Prod.fst := by
  simp only [lastNamed, List.getLast?_eq_none_iff, List.filterMap_eq_nil_iff,
    List.mem_map, not_exists, not_and, ite_eq_right_iff, reduceCtorEq, imp_false]

/-- Among different names, the last value under a name is the only one. -/
theorem lastNamed_eq_some_iff {entries : List (String × α)}
    (distinct : (entries.map Prod.fst).Nodup) {value : α} :
    lastNamed name entries = some value ↔ (name, value) ∈ entries := by
  induction entries with
  | nil => simp
  | cons entry entries induction =>
      rw [List.map_cons, List.nodup_cons] at distinct
      rw [lastNamed_cons, List.mem_cons, ← induction distinct.2, Prod.ext_iff]
      by_cases same : entry.1 = name
      · have missing : lastNamed name entries = none :=
          lastNamed_eq_none_iff.mpr (same ▸ distinct.1)
        simp [missing, same, eq_comm]
      · simp [same, Ne.symm same]

theorem lastNamed_perm {left right : List (String × α)} (perm : left.Perm right)
    (distinct : (left.map Prod.fst).Nodup) :
    lastNamed name left = lastNamed name right := by
  have distinctRight := (perm.map Prod.fst).nodup_iff.mp distinct
  apply Option.ext
  intro value
  rw [lastNamed_eq_some_iff distinct, lastNamed_eq_some_iff distinctRight, perm.mem_iff]

/-- A map that is filled from a list. -/
theorem lookup_insertAll (map : Finmap fun _ : String => α)
    (entries : List (String × α)) :
    (insertAll map entries).lookup name =
      (lastNamed name entries).or (map.lookup name) := by
  induction entries using List.reverseRecOn with
  | nil => rfl
  | append_singleton entries entry induction =>
      rw [insertAll, List.foldl_concat, ← insertAll, lastNamed_concat]
      by_cases same : entry.1 = name
      · rw [if_pos same, same, Finmap.lookup_insert]
        rfl
      · rw [if_neg same, Finmap.lookup_insert_of_ne _ (Ne.symm same), induction]

private theorem take_zip (left : List α) (right : List β) (count : Nat) :
    (left.zip right).take count = (left.take count).zip (right.take count) := by
  rw [List.zip_eq_zipWith, List.take_zipWith, ← List.zip_eq_zipWith]

theorem zip_eq_take_zip {left : List α} {right : List β} {count : Nat}
    (length : right.length = count) :
    left.zip right = (left.take count).zip right := by
  have enough : (left.zip right).length ≤ count := by
    rw [List.length_zip]
    omega
  rw [← List.take_of_length_le enough, take_zip,
    List.take_of_length_le (le_of_eq length)]

/-! ## Columns in another order -/

/-- The first elements in the given order, followed by the others. -/
def reorder (order : List Nat) (items : List α) : List α :=
  order.filterMap (fun index => items[index]?) ++ items.drop order.length

example : reorder [2, 0, 1] ["a", "b", "c", "d"] = ["c", "a", "b", "d"] := by decide

variable {order : List Nat} {count : Nat}

private theorem filterMap_range_getElem? (items : List α) (count : Nat) :
    (List.range count).filterMap (fun index => items[index]?) = items.take count := by
  induction count with
  | zero => rfl
  | succ count induction =>
      rw [List.range_succ, List.filterMap_append, induction, List.take_add_one]
      rfl

theorem filterMap_order_perm (arranges : order.Perm (List.range count)) (items : List α) :
    (order.filterMap fun index => items[index]?).Perm (items.take count) := by
  rw [← filterMap_range_getElem?]
  exact arranges.filterMap _

private theorem length_order (arranges : order.Perm (List.range count)) :
    order.length = count := by
  rw [arranges.length_eq, List.length_range]

private theorem reorder_perm (arranges : order.Perm (List.range count)) (items : List α) :
    (reorder order items).Perm items := by
  rw [reorder, length_order arranges]
  nth_rewrite 3 [← List.take_append_drop count items]
  exact (filterMap_order_perm arranges items).append_right _

theorem length_reorder (arranges : order.Perm (List.range count)) (items : List α) :
    (reorder order items).length = items.length :=
  (reorder_perm arranges items).length_eq

private theorem length_filterMap_order (arranges : order.Perm (List.range count))
    (items : List α) :
    (order.filterMap fun index => items[index]?).length = min count items.length := by
  rw [(filterMap_order_perm arranges items).length_eq, List.length_take]

theorem take_reorder (arranges : order.Perm (List.range count)) (items : List α) :
    (reorder order items).take count =
      order.filterMap fun index => items[index]? := by
  have length := length_filterMap_order arranges items
  rw [reorder, length_order arranges, List.take_append, List.take_of_length_le (by omega)]
  -- Either the first part is long enough or there is no other.
  have nothing : (items.drop count).take (count - min count items.length) = [] := by
    rw [List.take_eq_nil_iff, List.drop_eq_nil_iff]
    omega
  rw [length, nothing, List.append_nil]

theorem drop_reorder (arranges : order.Perm (List.range count)) (items : List α) :
    (reorder order items).drop count = items.drop count := by
  have length := length_filterMap_order arranges items
  rw [reorder, length_order arranges, List.drop_append, List.drop_of_length_le (by omega),
    List.nil_append, length, List.drop_drop]
  by_cases enough : count ≤ items.length
  · rw [Nat.min_eq_left enough, Nat.sub_self, Nat.add_zero]
  · rw [List.drop_of_length_le (by omega), List.drop_of_length_le (by omega)]

private theorem zip_filterMap_getElem? {left : List α} {right : List β}
    (width : left.length = right.length) (order : List Nat) :
    (order.filterMap fun index => left[index]?).zip
        (order.filterMap fun index => right[index]?) =
      order.filterMap fun index => (left.zip right)[index]? := by
  induction order with
  | nil => rfl
  | cons index order induction =>
      by_cases inRange : index < left.length
      · have inRight : index < right.length := width ▸ inRange
        have inZip : index < (left.zip right).length := by
          rw [List.length_zip]
          omega
        rw [List.filterMap_cons_some (List.getElem?_eq_getElem inRange),
          List.filterMap_cons_some (List.getElem?_eq_getElem inRight),
          List.filterMap_cons_some (List.getElem?_eq_getElem inZip),
          List.zip_cons_cons, induction, List.getElem_zip]
      · have outRight : right.length ≤ index := by omega
        have outZip : (left.zip right).length ≤ index := by
          rw [List.length_zip]
          omega
        rw [List.filterMap_cons_none (List.getElem?_eq_none (Nat.le_of_not_lt inRange)),
          List.filterMap_cons_none (List.getElem?_eq_none outRight),
          List.filterMap_cons_none (List.getElem?_eq_none outZip), induction]

/-- Reordering the names and the values alike keeps the last value under each
name, if the names in front are different. -/
theorem lastNamed_reorder (arranges : order.Perm (List.range count))
    {names : List String} {values : List α} (width : names.length = values.length)
    (distinct : (names.take count).Nodup) :
    lastNamed name (((reorder order names).take count).zip
        ((reorder order values).take count)) =
      lastNamed name ((names.take count).zip (values.take count)) := by
  rw [take_reorder arranges, take_reorder arranges, zip_filterMap_getElem? width]
  have perm := filterMap_order_perm arranges (names.zip values)
  have firsts : ((names.zip values).take count).map Prod.fst = names.take count := by
    rw [List.map_take, List.map_fst_zip (le_of_eq width)]
  rw [← take_zip]
  apply lastNamed_perm perm
  rw [(perm.map Prod.fst).nodup_iff, firsts]
  exact distinct

end RdsMetricCollector.Runtime
