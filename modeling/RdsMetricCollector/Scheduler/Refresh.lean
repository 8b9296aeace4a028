import RdsMetricCollector.Scheduler.Worker

/-! # Desired workers

What a refresh of the main loop wants to run, computed from a listing of the
instances. Ranging over the driver map visits it in any order, and in another
one for every instance, so each listed instance comes with the order used.
-/

namespace RdsMetricCollector.Scheduler

open RdsMetricCollector.BrokerInfo
open RdsMetricCollector.Collector
open RdsMetricCollector.Runtime

abbrev Drivers := Finmap fun _ : String => MetricsCollectorDriver
abbrev DriverEntry := Σ _ : String, MetricsCollectorDriver
abbrev DesiredWorkers := Finmap fun _ : WorkerID => InstanceInfo
abbrev Listing := List (InstanceInfo × List DriverEntry)

def sliceContainsString (s : List String) (v : String) : Bool :=
  match s with
  | [] => false
  | value :: rest => if value = v then true else sliceContainsString rest v

@[simp] theorem sliceContainsString_iff (s : List String) (v : String) :
    sliceContainsString s v = true ↔ v ∈ s := by
  induction s with
  | nil => simp [sliceContainsString]
  | cons value rest induction =>
      rw [sliceContainsString, List.mem_cons]
      split
      · simp [*]
      · rw [induction]
        exact ⟨.inr, fun member => member.resolve_left (Ne.symm ‹_›)⟩

/-- The body of the inner loop. -/
def addDesired (instanceInfo : InstanceInfo) (desired : DesiredWorkers)
    (entry : DriverEntry) : DesiredWorkers :=
  if sliceContainsString entry.2.supportedTypes instanceInfo.type then
    desired.insert ⟨entry.1, instanceInfo.guid⟩ instanceInfo
  else
    desired

def desiredWorkerIDs (listing : Listing) : DesiredWorkers :=
  listing.foldl
    (fun desired (instanceInfo, order) =>
      order.foldl (addDesired instanceInfo) desired)
    ∅

/-! ## What is desired -/

/-- `id` is desired because of `instanceInfo`. -/
def Wants (drivers : Drivers) (id : WorkerID) (instanceInfo : InstanceInfo) :
    Prop :=
  instanceInfo.guid = id.instanceGUID ∧
    ∃ driver, drivers.lookup id.driver = some driver ∧
      instanceInfo.type ∈ driver.supportedTypes

/-- Some listed instance has a type that the driver of `id` supports. -/
def Desires (drivers : Drivers) (instanceInfos : List InstanceInfo)
    (id : WorkerID) : Prop :=
  ∃ instanceInfo ∈ instanceInfos, Wants drivers id instanceInfo

instance (drivers : Drivers) (id : WorkerID) (instanceInfo : InstanceInfo) :
    Decidable (Wants drivers id instanceInfo) :=
  match equal : drivers.lookup id.driver with
  | none => .isFalse fun wants => by
      rcases wants with ⟨_, driver, found, _⟩
      rw [equal] at found
      cases found
  | some driver =>
      decidable_of_iff
        (instanceInfo.guid = id.instanceGUID ∧
          instanceInfo.type ∈ driver.supportedTypes)
        (by simp [Wants, equal])

instance (drivers : Drivers) (instanceInfos : List InstanceInfo) (id : WorkerID) :
    Decidable (Desires drivers instanceInfos id) :=
  inferInstanceAs (Decidable (∃ instanceInfo ∈ instanceInfos, _))

/-- Visiting `entry` makes `instanceInfo` ask for `id`. -/
def Asks (id : WorkerID) (instanceInfo : InstanceInfo) (entry : DriverEntry) :
    Prop :=
  entry.1 = id.driver ∧ instanceInfo.guid = id.instanceGUID ∧
    instanceInfo.type ∈ entry.2.supportedTypes

instance (id : WorkerID) (instanceInfo : InstanceInfo) (entry : DriverEntry) :
    Decidable (Asks id instanceInfo entry) :=
  inferInstanceAs (Decidable (_ ∧ _))

private theorem lookup_addDesired (id : WorkerID) (instanceInfo : InstanceInfo)
    (desired : DesiredWorkers) (entry : DriverEntry) :
    (addDesired instanceInfo desired entry).lookup id =
      if Asks id instanceInfo entry then some instanceInfo
      else desired.lookup id := by
  by_cases asks : Asks id instanceInfo entry
  · have sameId : (⟨entry.1, instanceInfo.guid⟩ : WorkerID) = id := by
      rw [asks.1, asks.2.1]
    rw [if_pos asks, addDesired,
      if_pos ((sliceContainsString_iff _ _).mpr asks.2.2), sameId,
      Finmap.lookup_insert]
  · rw [if_neg asks, addDesired]
    split
    · apply Finmap.lookup_insert_of_ne
      intro equal
      subst equal
      exact asks ⟨rfl, rfl, (sliceContainsString_iff _ _).mp ‹_›⟩
    · rfl

private theorem lookup_foldl_addDesired (id : WorkerID) (instanceInfo : InstanceInfo)
    (order : List DriverEntry) (desired : DesiredWorkers) :
    (order.foldl (addDesired instanceInfo) desired).lookup id =
      if ∃ entry ∈ order, Asks id instanceInfo entry then some instanceInfo
      else desired.lookup id := by
  induction order generalizing desired with
  | nil => simp
  | cons entry order induction =>
      rw [List.foldl_cons, induction, lookup_addDesired]
      by_cases later : ∃ entry ∈ order, Asks id instanceInfo entry
      · rcases later with ⟨asking, member, asks⟩
        rw [if_pos ⟨asking, member, asks⟩,
          if_pos ⟨asking, List.mem_cons_of_mem _ member, asks⟩]
      · simp only [later, List.exists_mem_cons_iff, or_false, if_false]

theorem exists_asks_iff {drivers : Drivers} {order : List DriverEntry}
    (ranges : RangeOrder drivers order) (id : WorkerID)
    (instanceInfo : InstanceInfo) :
    (∃ entry ∈ order, Asks id instanceInfo entry) ↔
      Wants drivers id instanceInfo := by
  constructor
  · intro asking
    rcases asking with ⟨⟨name, driver⟩, member, rfl, guid, supported⟩
    exact ⟨guid, driver, ranges.mem_iff.mp member, supported⟩
  · intro wants
    rcases wants with ⟨guid, driver, found, supported⟩
    exact ⟨⟨id.driver, driver⟩, ranges.mem_iff.mpr found, rfl, guid, supported⟩

/-- The entry of a desired id is the last listed instance that asks for it,
whatever the orders in which the drivers were visited. -/
theorem lookup_desiredWorkerIDs {drivers : Drivers} {listing : Listing}
    (ranges : ∀ listed ∈ listing, RangeOrder drivers listed.2) (id : WorkerID) :
    (desiredWorkerIDs listing).lookup id =
      ((listing.map Prod.fst).filter (Wants drivers id ·)).getLast? := by
  induction listing using List.reverseRecOn with
  | nil => rfl
  | append_singleton listing listed induction =>
      rcases listed with ⟨instanceInfo, order⟩
      have range : RangeOrder drivers order :=
        ranges (instanceInfo, order) (by simp)
      have rest := induction fun listed member =>
        ranges listed (List.mem_append_left _ member)
      rw [desiredWorkerIDs, List.foldl_append, List.foldl_cons, List.foldl_nil,
        lookup_foldl_addDesired, ← desiredWorkerIDs, rest]
      simp only [exists_asks_iff range, List.map_append, List.map_cons,
        List.map_nil, List.filter_append]
      by_cases wanted : Wants drivers id instanceInfo
      · simp [wanted]
      · simp [wanted]

/-- A desired worker is for a listed instance that its driver supports. -/
theorem wants_of_lookup {drivers : Drivers} {listing : Listing}
    (ranges : ∀ listed ∈ listing, RangeOrder drivers listed.2) {id : WorkerID}
    {instanceInfo : InstanceInfo}
    (found : (desiredWorkerIDs listing).lookup id = some instanceInfo) :
    instanceInfo ∈ listing.map Prod.fst ∧ Wants drivers id instanceInfo := by
  rw [lookup_desiredWorkerIDs ranges] at found
  have member := List.mem_filter.mp (List.mem_of_getLast? found)
  exact ⟨member.1, by simpa using member.2⟩

theorem mem_desiredWorkerIDs {drivers : Drivers} {listing : Listing}
    (ranges : ∀ listed ∈ listing, RangeOrder drivers listed.2) (id : WorkerID) :
    id ∈ desiredWorkerIDs listing ↔
      Desires drivers (listing.map Prod.fst) id := by
  rw [← Finmap.lookup_isSome, lookup_desiredWorkerIDs ranges, Desires,
    List.getLast?_isSome, Ne, List.filter_eq_nil_iff]
  simp

end RdsMetricCollector.Scheduler
