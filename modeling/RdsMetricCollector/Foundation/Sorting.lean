import Mathlib.Data.List.Sort
import Mathlib.Order.Basic

/-! # Sorting with a comparator

A sort that is only known to permute a slice so that no element is less than one
before it. Elements that the comparator does not tell apart may come in any
order.
-/

namespace RdsMetricCollector.Runtime

variable {α : Type}

/-- What is documented of a sort. -/
structure Sorts (less : α → α → Prop) (sortSlice : List α → List α) : Prop where
  perm : ∀ slice, (sortSlice slice).Perm slice
  sorted : ∀ slice, (sortSlice slice).Pairwise fun left right => ¬less right left

/-- No element of the slice is greater. -/
def Greatest (less : α → α → Prop) (slice : List α) (item : α) : Prop :=
  item ∈ slice ∧ ∀ other ∈ slice, ¬less item other

variable {less : α → α → Prop} {sortSlice : List α → List α} {slice : List α} {item : α}

theorem Sorts.exists_last (sorts : Sorts less sortSlice) (nonempty : slice ≠ []) :
    ∃ last, (sortSlice slice).getLast? = some last := by
  have sortedNonempty : sortSlice slice ≠ [] := by
    intro empty
    have perm := sorts.perm slice
    rw [empty] at perm
    exact nonempty (List.nil_perm.mp perm)
  exact ⟨_, List.getLast?_eq_some_getLast sortedNonempty⟩

theorem Sorts.greatest_last (sorts : Sorts less sortSlice)
    (irreflexive : ∀ item, ¬less item item)
    (isLast : (sortSlice slice).getLast? = some item) : Greatest less slice item := by
  rcases List.getLast?_eq_some_iff.mp isLast with ⟨before, split⟩
  have perm := sorts.perm slice
  have sorted := sorts.sorted slice
  rw [split] at perm sorted
  refine ⟨perm.mem_iff.mp (by simp), ?_⟩
  intro other member
  rcases List.mem_append.mp (perm.mem_iff.mpr member) with earlier | last
  · exact (List.pairwise_append.mp sorted).2.2 other earlier item List.mem_cons_self
  · rw [List.mem_singleton.mp last]
    exact irreflexive item

/-! ## Sorting by a key -/

variable {Key : Type} [LinearOrder Key] (key : α → Key)

/-- The elements in the order of their keys. -/
def sortByKey (slice : List α) : List α :=
  slice.insertionSort fun left right => key left ≤ key right

theorem sorts_sortByKey :
    Sorts (fun left right => key left < key right) (sortByKey key) where
  perm := fun slice => List.perm_insertionSort _ slice
  sorted := by
    intro slice
    have total : Std.Total fun left right : α => key left ≤ key right :=
      ⟨fun left right => le_total (key left) (key right)⟩
    have trans : IsTrans α fun left right : α => key left ≤ key right :=
      ⟨fun _ _ _ => le_trans⟩
    apply (List.pairwise_insertionSort (fun left right => key left ≤ key right) slice).imp
    intro left right ordered
    exact not_lt_of_ge ordered

/-- Some sort ends with any given one of the greatest elements. -/
theorem exists_sorts_last
    (greatest : Greatest (fun left right => key left < key right) slice item) :
    ∃ sortSlice, Sorts (fun left right => key left < key right) sortSlice ∧
      (sortSlice slice).getLast? = some item := by
  classical
  refine ⟨fun other => if other = slice then sortByKey key (slice.erase item) ++ [item]
    else sortByKey key other, ⟨?_, ?_⟩, by simp⟩
  · intro other
    split_ifs with same
    · rw [same]
      have rest := (sorts_sortByKey key).perm (slice.erase item)
      exact ((rest.append_right _).trans (List.perm_append_singleton _ _)).trans
        (List.perm_cons_erase greatest.1).symm
    · exact (sorts_sortByKey key).perm other
  · intro other
    split_ifs with same
    · rw [List.pairwise_append]
      refine ⟨(sorts_sortByKey key).sorted _, List.pairwise_singleton _ _, ?_⟩
      intro left leftMember right rightMember
      rw [List.mem_singleton.mp rightMember]
      apply greatest.2
      have inRest := ((sorts_sortByKey key).perm (slice.erase item)).mem_iff.mp leftMember
      exact List.mem_of_mem_erase inRest
    · exact (sorts_sortByKey key).sorted other

end RdsMetricCollector.Runtime
