import Mathlib.Data.Finmap

/-! # Runtime primitives

Buffered channels, timers and map iteration, as a concurrent program observes
them. Blocking operations are partial: they are undefined exactly where the
caller would have to wait.
-/

namespace RdsMetricCollector.Runtime

/-! ## Channels -/

/-- A first-in first-out channel that holds at most `capacity` values. -/
structure Channel (α : Type) (capacity : Nat) where
  buffer : List α
  bounded : buffer.length ≤ capacity

namespace Channel

variable {α : Type} {capacity : Nat}

def make (α : Type) (capacity : Nat) : Channel α capacity where
  buffer := []
  bounded := Nat.zero_le capacity

@[simp] theorem make_buffer : (make α capacity).buffer = [] := rfl

/-- Sending waits while the channel is full. -/
def send (channel : Channel α capacity) (value : α) :
    Option (Channel α capacity) :=
  if room : channel.buffer.length < capacity then
    some ⟨channel.buffer ++ [value], by rw [List.length_append]; exact room⟩
  else
    none

/-- Receiving waits while the channel is empty. -/
def receive (channel : Channel α capacity) :
    Option (α × Channel α capacity) :=
  match channel with
  | ⟨[], _⟩ => none
  | ⟨value :: rest, bounded⟩ =>
      some (value, ⟨rest, by simp only [List.length_cons] at bounded; omega⟩)

theorem send_eq_some {channel next : Channel α capacity} {value : α}
    (sent : channel.send value = some next) :
    channel.buffer.length < capacity ∧
      next.buffer = channel.buffer ++ [value] := by
  unfold send at sent
  split at sent
  · cases sent
    exact ⟨‹_›, rfl⟩
  · cases sent

theorem exists_send {channel : Channel α capacity}
    (room : channel.buffer.length < capacity) (value : α) :
    ∃ next, channel.send value = some next := by
  simp [send, room]

theorem receive_eq_some {channel next : Channel α capacity} {value : α}
    (received : channel.receive = some (value, next)) :
    channel.buffer = value :: next.buffer := by
  rcases channel with ⟨buffer, bounded⟩
  cases buffer with
  | nil => cases received
  | cons head rest =>
      cases received
      rfl

theorem ne_nil_of_receive {channel next : Channel α capacity} {value : α}
    (received : channel.receive = some (value, next)) : channel.buffer ≠ [] := by
  rw [receive_eq_some received]
  exact List.cons_ne_nil _ _

theorem exists_receive {channel : Channel α capacity}
    (nonempty : channel.buffer ≠ []) :
    ∃ value next, channel.receive = some (value, next) := by
  rcases channel with ⟨buffer, bounded⟩
  cases buffer with
  | nil => exact absurd rfl nonempty
  | cons head rest => exact ⟨head, _, rfl⟩

end Channel

/-! ## Timers -/

/-- Durations in nanoseconds. -/
def millisecond : Int64 := 1000000
def second : Int64 := 1000000000

/-- A timer with a one-slot tick channel. Resetting a timer does not remove a
tick that was sent before. -/
structure Timer where
  /-- The delay the timer was last started with, while it is running. -/
  armed : Option Int64
  tick : Bool
  deriving DecidableEq

namespace Timer

def stopped : Timer where
  armed := none
  tick := false

def newTimer (delay : Int64) : Timer where
  armed := some delay
  tick := false

def reset (timer : Timer) (delay : Int64) : Timer :=
  { timer with armed := some delay }

def fire (timer : Timer) : Option Timer :=
  match timer.armed with
  | some _ => some { armed := none, tick := true }
  | none => none

def receive (timer : Timer) : Option Timer :=
  if timer.tick then some { timer with tick := false } else none

/-- A timer that is running or whose tick waits to be received. A loop that
waits for a timer which is not live waits forever. -/
def Live (timer : Timer) : Prop :=
  timer.armed.isSome ∨ timer.tick

theorem live_newTimer (delay : Int64) : (newTimer delay).Live :=
  .inl rfl

theorem live_reset (timer : Timer) (delay : Int64) : (timer.reset delay).Live :=
  .inl rfl

theorem live_of_fire {timer next : Timer} (fired : timer.fire = some next) :
    next.Live := by
  unfold fire at fired
  split at fired
  · cases fired
    exact .inr rfl
  · cases fired

/-- The next tick comes `delay` after the timer was started, or has come. -/
def Awaits (timer : Timer) (delay : Int64) : Prop :=
  timer = newTimer delay ∨ timer = { armed := none, tick := true }

theorem awaits_newTimer (delay : Int64) : (newTimer delay).Awaits delay :=
  .inl rfl

theorem Awaits.eq_newTimer {timer : Timer} {delay : Int64}
    (awaits : timer.Awaits delay) (running : timer.armed.isSome) :
    timer = newTimer delay := by
  rcases awaits with rfl | rfl
  · rfl
  · cases running

theorem Awaits.fire {timer next : Timer} {delay : Int64} (awaits : timer.Awaits delay)
    (fired : timer.fire = some next) : next.Awaits delay := by
  rcases awaits with rfl | rfl
  · cases fired
    exact .inr rfl
  · cases fired

theorem Awaits.receive {timer next : Timer} {delay : Int64}
    (awaits : timer.Awaits delay) (received : timer.receive = some next) :
    next = stopped := by
  rcases awaits with rfl | rfl
  · cases received
  · cases received
    rfl

end Timer

/-! ## Map iteration -/

section Maps

variable {Key : Type} [DecidableEq Key]

theorem lookup_insert_eq_ite {Value : Type} (map : Finmap fun _ : Key => Value)
    (key other : Key) (value : Value) :
    (map.insert key value).lookup other =
      if other = key then some value else map.lookup other := by
  split
  case isTrue same => rw [same, Finmap.lookup_insert]
  case isFalse different => rw [Finmap.lookup_insert_of_ne _ different]

/-- Inserting a new key changes nothing for the keys that are there. -/
theorem lookup_insert_of_missing {Value : Type} {map : Finmap fun _ : Key => Value}
    {key other : Key} {value kept : Value} (missing : key ∉ map)
    (found : map.lookup other = some kept) :
    (map.insert key value).lookup other = some kept := by
  rw [lookup_insert_eq_ite, if_neg, found]
  intro equal
  subst equal
  exact missing (Finmap.mem_of_lookup_eq_some found)

theorem lookup_erase_eq_some_iff {Value : Key → Type} {map : Finmap Value}
    {key other : Key} {value : Value other} :
    (map.erase key).lookup other = some value ↔
      other ≠ key ∧ map.lookup other = some value := by
  by_cases same : other = key
  · subst same
    simp [Finmap.lookup_erase]
  · simp [Finmap.lookup_erase_ne same, same]

end Maps

section RangeOrder

variable {Key : Type} {Value : Key → Type}

/-- The orders in which a loop may visit the entries of a map. -/
def RangeOrder (map : Finmap Value) (order : List (Sigma Value)) : Prop :=
  (order : Multiset (Sigma Value)) = map.entries

instance [DecidableEq Key] [∀ key, DecidableEq (Value key)]
    (map : Finmap Value) (order : List (Sigma Value)) :
    Decidable (RangeOrder map order) :=
  inferInstanceAs (Decidable ((order : Multiset (Sigma Value)) = map.entries))

theorem exists_rangeOrder (map : Finmap Value) :
    ∃ order, RangeOrder map order :=
  ⟨map.entries.toList, Multiset.coe_toList _⟩

theorem RangeOrder.mem_iff [DecidableEq Key] {map : Finmap Value}
    {order : List (Sigma Value)} (ranges : RangeOrder map order)
    {key : Key} {value : Value key} :
    ⟨key, value⟩ ∈ order ↔ map.lookup key = some value := by
  rw [← Multiset.mem_coe, ranges, ← Finmap.lookup_eq_some_iff]

theorem RangeOrder.nodupKeys {map : Finmap Value}
    {order : List (Sigma Value)} (ranges : RangeOrder map order) :
    order.NodupKeys := by
  rw [← Multiset.coe_nodupKeys, ranges]
  exact map.nodupKeys

end RangeOrder

end RdsMetricCollector.Runtime
