import Mathlib.Algebra.Order.BigOperators.Group.List
import Mathlib.Algebra.Order.Ring.Nat
import RdsMetricCollector.Foundation.Execution

/-! # Ordered groups

A group of named members that starts them one after the other and stops them in
reverse order. The group itself is not defined: what it may do after a history is
a parameter, and the laws of an ordered group are assumptions about it. The
members do as they like.
-/

namespace RdsMetricCollector.OrderedGroup

inductive Event (Name : Type)
  /-- The group is sent a signal. -/
  | interrupted
  | invoked (name : Name)
  | ready (name : Name)
  /-- A member is sent its first signal. -/
  | signalled (name : Name)
  | exited (name : Name) (err : Option String)
  /-- The group has exited. -/
  | ended (err : Option String)
  deriving DecidableEq, Repr

/-- Whether an event is brought about by the group, and not by a member or from
outside. -/
def Event.ofGroup {Name : Type} : Event Name → Bool
  | .invoked _ | .signalled _ | .ended _ => true
  | .interrupted | .ready _ | .exited _ _ => false

/-- Whether a group may do something after a history. -/
abbrev Behaviour (Name : Type) := List (Event Name) → Event Name → Bool

variable {Name : Type}

/-! ## Histories -/

section Histories

variable {past later : List (Event Name)} {name : Name}

def Exited (past : List (Event Name)) (name : Name) : Prop :=
  ∃ err, .exited name err ∈ past

def Ended (past : List (Event Name)) : Prop :=
  ∃ err, .ended err ∈ past

/-- There is a reason to stop the members. -/
def Disturbed (past : List (Event Name)) : Prop :=
  .interrupted ∈ past ∨ ∃ name, Exited past name

/-- A member has exited with an error. -/
def Failed (past : List (Event Name)) : Prop :=
  ∃ name failure, .exited name (some failure) ∈ past

private theorem Exited.append (exited : Exited past name) : Exited (past ++ later) name :=
  exited.imp fun _ member => List.mem_append_left later member

private theorem Ended.append (ended : Ended past) : Ended (past ++ later) :=
  ended.imp fun _ member => List.mem_append_left later member

theorem Disturbed.append (disturbed : Disturbed past) : Disturbed (past ++ later) :=
  disturbed.imp (List.mem_append_left later) fun exits => exits.imp fun _ => Exited.append

def Event.isExitOf [DecidableEq Name] (name : Name) : Event Name → Bool
  | .exited other _ => other = name
  | _ => false

def Event.isEnd : Event Name → Bool
  | .ended _ => true
  | _ => false

def Event.isExit : Event Name → Bool
  | .exited _ _ => true
  | _ => false

def Event.isFailure : Event Name → Bool
  | .exited _ (some _) => true
  | _ => false

/-- Events of one form can be found by a test for that form. -/
@[reducible] def decidableExistsMem {α β : Type} {form : β → α} (test : α → Bool)
    (recognizes : ∀ a, test a = true ↔ ∃ b, form b = a) (list : List α) :
    Decidable (∃ b, form b ∈ list) :=
  decidable_of_iff (list.any test = true) <| by
    rw [List.any_eq_true]
    constructor
    · intro found
      rcases found with ⟨a, member, passes⟩
      rcases (recognizes a).mp passes with ⟨b, rfl⟩
      exact ⟨b, member⟩
    · intro occurs
      rcases occurs with ⟨b, member⟩
      exact ⟨form b, member, (recognizes _).mpr ⟨b, rfl⟩⟩

instance [DecidableEq Name] : Decidable (Exited past name) :=
  decidableExistsMem (Event.isExitOf name)
    (by intro event; cases event <;> simp [Event.isExitOf, eq_comm]) past

instance : Decidable (Ended past) :=
  decidableExistsMem Event.isEnd (by intro event; cases event <;> simp [Event.isEnd]) past

instance [DecidableEq Name] : Decidable (Disturbed past) :=
  have : Decidable (∃ exit : Name × Option String, .exited exit.1 exit.2 ∈ past) :=
    decidableExistsMem Event.isExit (by intro event; cases event <;> simp [Event.isExit]) past
  decidable_of_iff (.interrupted ∈ past ∨ ∃ exit : Name × Option String,
    .exited exit.1 exit.2 ∈ past) (or_congr_right Prod.exists)

instance : Decidable (Failed past) :=
  have : Decidable (∃ exit : Name × String, .exited exit.1 (some exit.2) ∈ past) :=
    decidableExistsMem Event.isFailure
      (by
        intro event
        cases event with
        | exited name err => cases err <;> simp [Event.isFailure]
        | _ => simp [Event.isFailure]) past
  decidable_of_iff (∃ exit : Name × String, .exited exit.1 (some exit.2) ∈ past) Prod.exists

end Histories

/-! ## The laws of an ordered group -/

/-- What holds of a group that starts its members in order and stops them in
reverse order. -/
structure Ordered (members : List Name) (may : Behaviour Name) : Prop where
  startsInOrder : ∀ {past earlier name}, may past (.invoked name) = true →
    List.Sublist [earlier, name] members → .ready earlier ∈ past
  startsOnce : ∀ {past name}, may past (.invoked name) = true → .invoked name ∉ past
  startsBeforeStopping : ∀ {past name other}, may past (.invoked name) = true →
    .signalled other ∉ past
  stopsStarted : ∀ {past name}, may past (.signalled name) = true → .invoked name ∈ past
  stopsOnce : ∀ {past name}, may past (.signalled name) = true → .signalled name ∉ past
  stopsInReverse : ∀ {past name later}, may past (.signalled name) = true →
    List.Sublist [name, later] members → .invoked later ∈ past → Exited past later
  stopsDisturbed : ∀ {past name}, may past (.signalled name) = true → Disturbed past
  endsDisturbed : ∀ {past err}, may past (.ended err) = true → Disturbed past
  endsStopped : ∀ {past err name}, may past (.ended err) = true → name ∈ members →
    .invoked name ∈ past → Exited past name
  endsLast : ∀ {past event}, may past event = true → ¬Ended past
  result : ∀ {past err}, may past (.ended err) = true → (err.isSome ↔ Failed past)

/-- The group does not get stuck: once there is a reason to stop, and unless it
waits for a member that it has signalled, there is something that it may do. -/
def Responsive (may : Behaviour Name) : Prop :=
  ∀ past, Disturbed past → ¬Ended past →
    (∀ name, .signalled name ∈ past → Exited past name) →
    ∃ event : Event Name, event.ofGroup = true ∧ may past event = true

/-- The histories in which the group does only what it may do. -/
inductive Allowed (may : Behaviour Name) : List (Event Name) → Prop
  | nil : Allowed may []
  | snoc {past event} : Allowed may past →
      (event.ofGroup = true → may past event = true) → Allowed may (past ++ [event])

section Laws

variable {members : List Name} {may : Behaviour Name} {history : List (Event Name)}
  {name other : Name}

/-- Whatever the group has done, it was allowed to do then. -/
theorem Allowed.exists_past (allowed : Allowed may history) {event : Event Name}
    (own : event.ofGroup = true) (member : event ∈ history) :
    ∃ past later, history = past ++ later ∧ may past event = true := by
  induction allowed with
  | nil => cases member
  | @snoc past last allowed permitted induction =>
      rcases List.mem_append.mp member with earlier | now
      · rcases induction earlier with ⟨before, later, rfl, may⟩
        exact ⟨before, later ++ [last], List.append_assoc before later [last], may⟩
      · cases List.mem_singleton.mp now
        exact ⟨past, [event], rfl, permitted own⟩

namespace Ordered

theorem ready_of_invoked (ordered : Ordered members may) (allowed : Allowed may history)
    (invoked : .invoked name ∈ history) (before : List.Sublist [other, name] members) :
    .ready other ∈ history := by
  rcases allowed.exists_past rfl invoked with ⟨past, later, rfl, may⟩
  exact List.mem_append_left later (ordered.startsInOrder may before)

theorem invoked_of_signalled (ordered : Ordered members may)
    (allowed : Allowed may history) (signalled : .signalled name ∈ history) :
    .invoked name ∈ history := by
  rcases allowed.exists_past rfl signalled with ⟨past, later, rfl, may⟩
  exact List.mem_append_left later (ordered.stopsStarted may)

/-- When a member is signalled, those after it have exited for good. -/
theorem exited_of_signalled (ordered : Ordered members may) (allowed : Allowed may history)
    (signalled : .signalled name ∈ history) (before : List.Sublist [name, other] members)
    (invoked : .invoked other ∈ history) : Exited history other := by
  induction allowed with
  | nil => cases signalled
  | @snoc past last allowed permitted induction =>
      rcases List.mem_append.mp signalled with earlier | now
      · rcases List.mem_append.mp invoked with invokedEarlier | invokedNow
        · exact (induction earlier invokedEarlier).append
        · cases List.mem_singleton.mp invokedNow
          exact absurd earlier (ordered.startsBeforeStopping (permitted rfl))
      · cases List.mem_singleton.mp now
        have invokedEarlier : .invoked other ∈ past := by simpa using invoked
        exact (ordered.stopsInReverse (permitted rfl) before invokedEarlier).append

theorem exited_of_ended (ordered : Ordered members may) (allowed : Allowed may history)
    (ended : Ended history) (member : name ∈ members) (invoked : .invoked name ∈ history) :
    Exited history name := by
  rcases ended with ⟨err, ended⟩
  induction allowed with
  | nil => cases ended
  | @snoc past last allowed permitted induction =>
      rcases List.mem_append.mp ended with earlier | now
      · rcases List.mem_append.mp invoked with invokedEarlier | invokedNow
        · exact (induction invokedEarlier earlier).append
        · cases List.mem_singleton.mp invokedNow
          exact absurd ⟨err, earlier⟩ (ordered.endsLast (permitted rfl))
      · cases List.mem_singleton.mp now
        have invokedEarlier : .invoked name ∈ past := by simpa using invoked
        exact (ordered.endsStopped (permitted rfl) member invokedEarlier).append

end Ordered

end Laws

/-! ## Coming to an end -/

section Progress

variable [DecidableEq Name] {members : List Name} {past later : List (Event Name)}
  {name : Name}

/-- One, as long as something is still to happen. -/
def pending (done : Prop) [Decidable done] : Nat :=
  if done then 0 else 1

private theorem pending_le {before after : Prop} [Decidable before] [Decidable after]
    (kept : before → after) : pending after ≤ pending before := by
  unfold pending
  split_ifs with now earlier earlier
  · exact le_rfl
  · exact Nat.zero_le 1
  · exact absurd (kept earlier) now
  · exact le_rfl

private theorem pending_lt {before after : Prop} [Decidable before] [Decidable after]
    (undone : ¬before) (done : after) : pending after < pending before := by
  unfold pending
  rw [if_pos done, if_neg undone]
  exact Nat.zero_lt_one

/-- What can still happen to a member. -/
def weight (past : List (Event Name)) (name : Name) : Nat :=
  pending (.invoked name ∈ past) + pending (.signalled name ∈ past) +
    pending (Exited past name)

def remaining (members : List Name) (past : List (Event Name)) : Nat :=
  (members.map (weight past)).sum + pending (Ended past)

private theorem weight_append_le : weight (past ++ later) name ≤ weight past name :=
  Nat.add_le_add
    (Nat.add_le_add (pending_le (List.mem_append_left later))
      (pending_le (List.mem_append_left later)))
    (pending_le Exited.append)

private theorem remaining_lt_of_weight (member : name ∈ members)
    (lower : weight (past ++ later) name < weight past name) :
    remaining members (past ++ later) < remaining members past :=
  Nat.add_lt_add_of_lt_of_le
    (List.sum_lt_sum _ _ (fun _ _ => weight_append_le) ⟨name, member, lower⟩)
    (pending_le Ended.append)

private theorem remaining_lt_of_exited (member : name ∈ members) (running : ¬Exited past name)
    (exited : Exited (past ++ later) name) :
    remaining members (past ++ later) < remaining members past := by
  apply remaining_lt_of_weight member
  apply Nat.add_lt_add_of_le_of_lt _ (pending_lt running exited)
  exact Nat.add_le_add (pending_le (List.mem_append_left later))
    (pending_le (List.mem_append_left later))

/-- The group does nothing twice. -/
theorem Ordered.remaining_lt {may : Behaviour Name} (ordered : Ordered members may)
    (complete : ∀ name, name ∈ members) {event : Event Name} (own : event.ofGroup = true)
    (permitted : may past event = true) :
    remaining members (past ++ [event]) < remaining members past := by
  cases event with
  | invoked name =>
      apply remaining_lt_of_weight (complete name)
      apply Nat.add_lt_add_of_lt_of_le _ (pending_le Exited.append)
      exact Nat.add_lt_add_of_lt_of_le
        (pending_lt (ordered.startsOnce permitted) List.mem_concat_self)
        (pending_le (List.mem_append_left _))
  | signalled name =>
      apply remaining_lt_of_weight (complete name)
      apply Nat.add_lt_add_of_lt_of_le _ (pending_le Exited.append)
      exact Nat.add_lt_add_of_le_of_lt (pending_le (List.mem_append_left _))
        (pending_lt (ordered.stopsOnce permitted) List.mem_concat_self)
  | ended err =>
      exact Nat.add_lt_add_of_le_of_lt (List.sum_le_sum fun _ _ => weight_append_le)
        (pending_lt (ordered.endsLast permitted) ⟨err, List.mem_concat_self⟩)
  | interrupted | ready name | exited name err => cases own

/-- In a machine around a responsive ordered group, a disturbed group comes to its
end if the machine lets it act and lets the members exit that it has signalled. -/
theorem Ordered.exists_ended {State Action E : Type} {model : Execution.Model State Action E}
    {allowed : Action → Prop} {may : Behaviour Name} (ordered : Ordered members may)
    (responsive : Responsive may) (complete : ∀ name, name ∈ members)
    (history : State → List (Event Name)) (Invariant : State → Prop)
    (acts : ∀ s event, Invariant s → event.ofGroup = true → may (history s) event = true →
      ∃ next, model.Reaches allowed s next ∧ Invariant next ∧
        history next = history s ++ [event])
    (exits : ∀ s name, Invariant s → .signalled name ∈ history s →
      ¬Exited (history s) name → ∃ next later, model.Reaches allowed s next ∧
        Invariant next ∧ history next = history s ++ later ∧ Exited (history next) name)
    {start : State} (holds : Invariant start) (disturbed : Disturbed (history start)) :
    ∃ final, model.Reaches allowed start final ∧ Ended (history final) := by
  apply Execution.Model.Reaches.of_rank (fun s => remaining members (history s))
    (fun s => Invariant s ∧ Disturbed (history s)) (fun s => Ended (history s)) _
    ⟨holds, disturbed⟩
  intro s current
  rcases current with ⟨holds, disturbed⟩
  by_cases ended : Ended (history s)
  · exact .inl ended
  · refine .inr ?_
    by_cases waits : ∃ name, .signalled name ∈ history s ∧ ¬Exited (history s) name
    · rcases waits with ⟨name, signalled, running⟩
      rcases exits s name holds signalled running with
        ⟨next, later, reaches, holdsNext, grows, exited⟩
      rw [grows] at exited
      refine ⟨next, reaches, ⟨holdsNext, grows ▸ disturbed.append⟩, ?_⟩
      simp only [grows]
      exact remaining_lt_of_exited (complete name) running exited
    · push Not at waits
      rcases responsive (history s) disturbed ended waits with ⟨event, own, permitted⟩
      rcases acts s event holds own permitted with ⟨next, reaches, holdsNext, grows⟩
      refine ⟨next, reaches, ⟨holdsNext, grows ▸ disturbed.append⟩, ?_⟩
      simp only [grows]
      exact ordered.remaining_lt complete own permitted

end Progress

/-! ## The freest ordered group -/

section Free

variable {members : List Name}

/-- Among the members of one kind there is a last one. -/
private theorem exists_last {P : Name → Prop} (nodup : members.Nodup)
    (occurs : ∃ name ∈ members, P name) :
    ∃ name ∈ members, P name ∧ ∀ later, List.Sublist [name, later] members → ¬P later := by
  induction members with
  | nil => simp at occurs
  | cons first rest induction =>
      rw [List.nodup_cons] at nodup
      by_cases inRest : ∃ name ∈ rest, P name
      · rcases induction nodup.2 inRest with ⟨name, member, holds, isLast⟩
        refine ⟨name, List.mem_cons_of_mem first member, holds, ?_⟩
        intro later after
        rcases List.sublist_cons_iff.mp after with inner | ⟨_, equal, _⟩
        · exact isLast later inner
        · cases equal
          exact absurd member nodup.1
      · push Not at inRest
        rcases occurs with ⟨name, member, holds⟩
        rcases List.mem_cons.mp member with rfl | member
        · refine ⟨name, List.mem_cons_self, holds, ?_⟩
          intro later after
          apply inRest
          rcases List.sublist_cons_iff.mp after with inner | ⟨_, equal, inner⟩
          · exact inner.subset (by simp)
          · cases equal
            exact inner.subset (by simp)
        · exact absurd holds (inRest name member)

variable [DecidableEq Name]

/-- A group that may do whatever the laws leave open. -/
def free (members : List Name) (past : List (Event Name)) : Event Name → Bool
  | .invoked name => ¬Ended past ∧ .invoked name ∉ past ∧
      (past.any fun event => event matches .signalled _) = false ∧
      ∀ earlier ∈ members, List.Sublist [earlier, name] members → .ready earlier ∈ past
  | .signalled name => ¬Ended past ∧ Disturbed past ∧ .invoked name ∈ past ∧
      .signalled name ∉ past ∧ ∀ later ∈ members, List.Sublist [name, later] members →
        .invoked later ∈ past → Exited past later
  | .ended err => ¬Ended past ∧ Disturbed past ∧ (err.isSome ↔ Failed past) ∧
      ∀ name ∈ members, .invoked name ∈ past → Exited past name
  | .interrupted | .ready _ | .exited _ _ => false

theorem ordered_free : Ordered members (free members) where
  startsInOrder may before :=
    (of_decide_eq_true may).2.2.2 _ (before.subset List.mem_cons_self) before
  startsOnce may := (of_decide_eq_true may).2.1
  startsBeforeStopping may signalled := by
    have none := (of_decide_eq_true may).2.2.1
    rw [List.any_eq_false] at none
    exact none _ signalled rfl
  stopsStarted may := (of_decide_eq_true may).2.2.1
  stopsOnce may := (of_decide_eq_true may).2.2.2.1
  stopsInReverse may after :=
    (of_decide_eq_true may).2.2.2.2 _ (after.subset (by simp)) after
  stopsDisturbed may := (of_decide_eq_true may).2.1
  endsDisturbed may := (of_decide_eq_true may).2.1
  endsStopped may := (of_decide_eq_true may).2.2.2 _
  endsLast {past event} may := by
    cases event with
    | invoked | signalled | ended => exact (of_decide_eq_true may).1
    | interrupted | ready | exited => cases may
  result may := (of_decide_eq_true may).2.2.1

theorem responsive_free (nodup : members.Nodup) : Responsive (free members) := by
  intro past disturbed running waits
  by_cases stopped : ∀ name ∈ members, .invoked name ∈ past → Exited past name
  · by_cases failed : Failed past
    · exact ⟨.ended (some ""), rfl,
        decide_eq_true ⟨running, disturbed, iff_of_true rfl failed, stopped⟩⟩
    · exact ⟨.ended none, rfl,
        decide_eq_true ⟨running, disturbed, iff_of_false (by simp) failed, stopped⟩⟩
  · push Not at stopped
    rcases exists_last nodup stopped with ⟨name, _, ⟨invoked, out⟩, isLast⟩
    refine ⟨.signalled name, rfl, decide_eq_true ⟨running, disturbed, invoked, ?_, ?_⟩⟩
    · exact fun signalled => out (waits name signalled)
    · intro later _ after laterInvoked
      by_contra laterOut
      exact isLast later after ⟨laterInvoked, laterOut⟩

end Free

end RdsMetricCollector.OrderedGroup
