import Mathlib.Data.Finmap

/-! # Slices

Slices are lists with checked indices, and pointers are options. Code that may
leave the bounds of a slice or follow a nil pointer runs in `Except Panic`; a
program that never does has an `ok` result on every input.
-/

namespace RdsMetricCollector.Runtime

inductive Panic
  | indexOutOfRange (index length : Nat)
  | makesliceLenOutOfRange (length : Int)
  | nilDereference
  deriving DecidableEq, Repr

variable {α β : Type}

/-- A new slice of zero values. -/
def makeSlice (length : Int) (zero : α) : Except Panic (List α) :=
  if 0 ≤ length then .ok (List.replicate length.toNat zero)
  else .error (.makesliceLenOutOfRange length)

/-- Pass on what depends on an element of a slice, if the element exists. -/
def checkIndex (length index : Nat) (value : β) : Except Panic β :=
  if index < length then .ok value else .error (.indexOutOfRange index length)

def element (slice : List α) (index : Nat) : Except Panic α :=
  match slice[index]? with
  | some value => .ok value
  | none => .error (.indexOutOfRange index slice.length)

def dereference (pointer : Option α) : Except Panic α :=
  match pointer with
  | some value => .ok value
  | none => .error .nilDereference

theorem makeSlice_eq_ok {length : Int} (nonneg : 0 ≤ length) (zero : α) :
    makeSlice length zero = .ok (List.replicate length.toNat zero) :=
  if_pos nonneg

theorem checkIndex_eq_ok {length index : Nat} (inRange : index < length)
    (value : β) : checkIndex length index value = .ok value :=
  if_pos inRange

theorem element_eq_ok {slice : List α} {index : Nat} {value : α}
    (present : slice[index]? = some value) : element slice index = .ok value := by
  rw [element, present]

/-! ## Loops without panics -/

theorem mapM_eq_ok {items : List α} {body : α → Except Panic β} {value : α → β}
    (safe : ∀ item ∈ items, body item = .ok (value item)) :
    items.mapM body = .ok (items.map value) := by
  induction items with
  | nil => rfl
  | cons item items induction =>
      have head := safe item List.mem_cons_self
      have rest := induction fun other member =>
        safe other (List.mem_cons_of_mem item member)
      rw [List.mapM_cons, head, rest]
      rfl

/-! ## Maps filled from a slice -/

/-- Insert the values of a slice under the names from `index` on. -/
def fillMap (names : List String) (index : Nat)
    (map : Finmap fun _ : String => α) :
    List α → Except Panic (Finmap fun _ : String => α)
  | [] => .ok map
  | value :: values =>
      (element names index).bind fun name =>
        fillMap names (index + 1) (map.insert name value) values

/-- The map in which each key has the last of its values. -/
def insertAll (map : Finmap fun _ : String => α) (entries : List (String × α)) :
    Finmap fun _ : String => α :=
  entries.foldl (fun map entry => map.insert entry.1 entry.2) map

theorem fillMap_eq_ok {names : List String} {index : Nat} {values : List α}
    (fits : index + values.length ≤ names.length)
    (map : Finmap fun _ : String => α) :
    fillMap names index map values =
      .ok (insertAll map ((names.drop index).zip values)) := by
  induction values generalizing index map with
  | nil => simp [fillMap, insertAll]
  | cons value values induction =>
      rw [List.length_cons] at fits
      have inRange : index < names.length := by omega
      have rest := induction (show index + 1 + values.length ≤ names.length by omega)
        (map.insert names[index] value)
      rw [fillMap, element_eq_ok (List.getElem?_eq_getElem inRange),
        List.drop_eq_getElem_cons inRange]
      exact rest

theorem mem_insertAll {map : Finmap fun _ : String => α}
    {entries : List (String × α)} {key : String} :
    key ∈ insertAll map entries ↔ key ∈ map ∨ key ∈ entries.map Prod.fst := by
  induction entries generalizing map with
  | nil => simp [insertAll]
  | cons entry entries induction =>
      have rest := @induction (map.insert entry.1 entry.2)
      rw [insertAll, List.foldl_cons, ← insertAll, rest, Finmap.mem_insert,
        List.map_cons, List.mem_cons]
      tauto

/-- Each value of a slice has its name as a key. -/
theorem mem_insertAll_zip {names : List String} {values : List α} {key : String} :
    key ∈ insertAll ∅ (names.zip values) ↔ key ∈ names.take values.length := by
  have firsts : (names.zip values).map Prod.fst = names.take values.length := by
    induction names generalizing values with
    | nil => simp
    | cons name names induction =>
        cases values with
        | nil => simp
        | cons value values => simp [induction]
  rw [mem_insertAll, firsts]
  exact or_iff_right Finmap.notMem_empty

end RdsMetricCollector.Runtime
