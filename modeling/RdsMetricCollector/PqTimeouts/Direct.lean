import RdsMetricCollector.PqTimeouts.Conn

/-! # Using a connection without a wrapper

What goroutines see of a connection that they use directly, and that is closed
at some point. It says what the wrapper is to do besides handling deadlines.
-/

namespace RdsMetricCollector.PqTimeouts.Direct

open RdsMetricCollector.Execution

inductive Point
  | idle
  | called (method : Method)
  /-- In the method of the connection. -/
  | inside (method : Method)
  | answered (method : Method) (result : Result)
  | failed (method : Method)
  deriving DecidableEq, Repr

structure State (Caller : Type) where
  closed : Bool
  point : Caller → Point

inductive Action (Caller : Type)
  | call (caller : Caller) (method : Method)
  | refuse (caller : Caller)
  | start (caller : Caller)
  | answer (caller : Caller) (result : Result)
  | markClosed (caller : Caller)
  | return (caller : Caller)
  | fail (caller : Caller)

section Traces

variable {Caller : Type}

/-- The caller to whose call an event belongs. -/
def owner : TimeoutConn.Event Caller → Option Caller
  | .called caller _ | .started caller _ | .answered caller _ _ | .returned caller _ _
  | .panicked caller => some caller
  | .dropped _ => none

/-- What comes after the connection was given up does not use it. -/
def StopsUse (earlier later : TimeoutConn.Event Caller) : Prop :=
  ∀ closer, earlier = .dropped closer → ∀ caller method, later ≠ .started caller method

/-- Whether a `Close` that succeeded has given the connection up. -/
def GivenUp (trace : List (TimeoutConn.Event Caller)) : Prop :=
  ∃ closer, .dropped closer ∈ trace

private theorem givenUp_append_singleton {trace : List (TimeoutConn.Event Caller)}
    {event : TimeoutConn.Event Caller} (owned : owner event ≠ none) :
    GivenUp (trace ++ [event]) ↔ GivenUp trace := by
  unfold GivenUp
  apply exists_congr
  intro closer
  have different : .dropped closer ≠ event := by
    intro equal
    rw [← equal] at owned
    exact owned rfl
  simp [different]

private theorem pairwise_append_singleton {trace : List (TimeoutConn.Event Caller)}
    {event : TimeoutConn.Event Caller} (stops : trace.Pairwise StopsUse)
    (allowed : (∃ caller method, event = .started caller method) → ¬GivenUp trace) :
    (trace ++ [event]).Pairwise StopsUse := by
  refine List.pairwise_append.mpr ⟨stops, List.pairwise_singleton _ _, ?_⟩
  intro earlier member later last closer given caller method starts
  rw [List.mem_singleton.mp last] at starts
  rw [given] at member
  exact allowed ⟨caller, method, starts⟩ ⟨closer, member⟩

end Traces

section Machine

variable {Caller : Type} [DecidableEq Caller]

def State.setPoint (s : State Caller) (caller : Caller) (point : Point) : State Caller :=
  { s with point := Function.update s.point caller point }

/-- Goroutines that use a connection without a wrapper. Once it is marked as
closed, no method is started on it any more, and calls are refused or fail. -/
def step (s : State Caller) :
    Action Caller → Option (State Caller × List (TimeoutConn.Event Caller))
  | .call caller method =>
      match s.point caller with
      | .idle => some (s.setPoint caller (.called method), [.called caller method])
      | _ => none
  | .refuse caller =>
      match s.point caller, s.closed with
      | .called method, true =>
          some (s.setPoint caller .idle, [.returned caller method (nilResult method)])
      | _, _ => none
  | .start caller =>
      match s.point caller, s.closed with
      | .called method, false =>
          some (s.setPoint caller (.inside method), [.started caller method])
      | _, _ => none
  | .answer caller result =>
      match s.point caller with
      | .inside method =>
          some (s.setPoint caller (.answered method result),
            [.answered caller method result])
      | _ => none
  | .markClosed caller =>
      match s.point caller with
      | .answered .close result =>
          if result.err = none then
            some ({ s with closed := true }, [.dropped caller])
          else
            none
      | _ => none
  | .return caller =>
      match s.point caller with
      | .answered method result =>
          some (s.setPoint caller .idle, [.returned caller method result])
      | _ => none
  | .fail caller =>
      match s.point caller, s.closed with
      | .called method, true | .answered method _, true =>
          some (s.setPoint caller (.failed method), [.panicked caller])
      | _, _ => none

def model (closed : Bool) (Caller : Type) [DecidableEq Caller] :
    Model (State Caller) (Action Caller) (TimeoutConn.Event Caller) where
  initial := { closed := closed, point := fun _ => .idle }
  step := step

inductive Step (s : State Caller) : State Caller → List (TimeoutConn.Event Caller) → Prop
  | call {caller : Caller} {method : Method} (at' : s.point caller = .idle) :
      Step s (s.setPoint caller (.called method)) [.called caller method]
  | refuse {caller : Caller} {method : Method} (at' : s.point caller = .called method)
      (closed : s.closed = true) :
      Step s (s.setPoint caller .idle) [.returned caller method (nilResult method)]
  | start {caller : Caller} {method : Method} (at' : s.point caller = .called method)
      (opened : s.closed = false) :
      Step s (s.setPoint caller (.inside method)) [.started caller method]
  | answer {caller : Caller} {method : Method} {result : Result}
      (at' : s.point caller = .inside method) :
      Step s (s.setPoint caller (.answered method result))
        [.answered caller method result]
  | markClosed {caller : Caller} {result : Result}
      (at' : s.point caller = .answered .close result) (succeeded : result.err = none) :
      Step s { s with closed := true } [.dropped caller]
  | return {caller : Caller} {method : Method} {result : Result}
      (at' : s.point caller = .answered method result) :
      Step s (s.setPoint caller .idle) [.returned caller method result]
  | failBefore {caller : Caller} {method : Method} (at' : s.point caller = .called method)
      (closed : s.closed = true) :
      Step s (s.setPoint caller (.failed method)) [.panicked caller]
  | failAfter {caller : Caller} {method : Method} {result : Result}
      (at' : s.point caller = .answered method result) (closed : s.closed = true) :
      Step s (s.setPoint caller (.failed method)) [.panicked caller]

private theorem step_inversion {s next : State Caller} {action : Action Caller}
    {events : List (TimeoutConn.Event Caller)}
    (stepped : step s action = some (next, events)) : Step s next events := by
  cases action with
  | call caller method =>
      simp only [step] at stepped
      split at stepped
      · cases stepped
        exact .call ‹_›
      · cases stepped
  | refuse caller =>
      simp only [step] at stepped
      split at stepped
      · cases stepped
        exact .refuse ‹_› ‹_›
      · cases stepped
  | start caller =>
      simp only [step] at stepped
      split at stepped
      · cases stepped
        exact .start ‹_› ‹_›
      · cases stepped
  | answer caller result =>
      simp only [step] at stepped
      split at stepped
      · cases stepped
        exact .answer ‹_›
      · cases stepped
  | markClosed caller =>
      simp only [step] at stepped
      split at stepped
      · split_ifs at stepped with succeeded
        cases stepped
        exact .markClosed ‹_› succeeded
      · cases stepped
  | «return» caller =>
      simp only [step] at stepped
      split at stepped
      · cases stepped
        exact .return ‹_›
      · cases stepped
  | fail caller =>
      simp only [step] at stepped
      split at stepped
      · cases stepped
        exact .failBefore ‹_› ‹_›
      · cases stepped
        exact .failAfter ‹_› ‹_›
      · cases stepped

/-! ## Histories of a caller -/

/-- A call that has returned: the connection answered it, or it was refused. -/
inductive Exchange
  | passed (method : Method) (result : Result)
  | refused (method : Method)
  deriving DecidableEq, Repr

def Exchange.events (caller : Caller) : Exchange → List (TimeoutConn.Event Caller)
  | .passed method result =>
      [.called caller method, .started caller method, .answered caller method result,
        .returned caller method result]
  | .refused method =>
      [.called caller method, .returned caller method (nilResult method)]

/-- The events of a call that has not returned. -/
def Point.Open (caller : Caller) : Point → List (TimeoutConn.Event Caller) → Prop
  | .idle, events => events = []
  | .called method, events => events = [.called caller method]
  | .inside method, events => events = [.called caller method, .started caller method]
  | .answered method result, events =>
      events = [.called caller method, .started caller method,
        .answered caller method result]
  | .failed method, events =>
      events = [.called caller method, .panicked caller] ∨
        ∃ result, events = [.called caller method, .started caller method,
          .answered caller method result, .panicked caller]

def concerns (caller : Caller) (event : TimeoutConn.Event Caller) : Bool :=
  owner event = some caller

/-- The calls of a caller are exchanges, the last of which may be pending. Calls
are refused, or fail, only when the connection is closed. -/
def History (caller : Caller) (closed : Bool) (trace : List (TimeoutConn.Event Caller))
    (point : Point) : Prop :=
  ∃ exchanges pending, point.Open caller pending ∧
    trace.filter (concerns caller) =
      List.flatMap (Exchange.events caller) exchanges ++ pending ∧
    ∀ method, .refused method ∈ exchanges ∨ point = .failed method → closed = true

section Histories

variable {s next : State Caller} {caller : Caller} {closed : Bool}
  {trace events : List (TimeoutConn.Event Caller)} {point later : Point}

private theorem History.extend (history : History caller closed trace point)
    (grows : ∀ pending, point.Open caller pending →
      later.Open caller (pending ++ events.filter (concerns caller)))
    (fails : ∀ method, later = .failed method → closed = true) :
    History caller closed (trace ++ events) later := by
  rcases history with ⟨exchanges, pending, opened, equal, refusals⟩
  refine ⟨exchanges, _, grows pending opened, ?_, ?_⟩
  · rw [List.filter_append, equal, List.append_assoc]
  · intro method cause
    exact cause.elim (fun refused => refusals method (.inl refused)) (fails method)

private theorem History.finish (history : History caller closed trace point) (exchange : Exchange)
    (finishes : ∀ pending, point.Open caller pending →
      pending ++ events.filter (concerns caller) = exchange.events caller)
    (refuses : ∀ method, exchange = .refused method → closed = true) :
    History caller closed (trace ++ events) .idle := by
  rcases history with ⟨exchanges, pending, opened, equal, refusals⟩
  refine ⟨exchanges ++ [exchange], [], rfl, ?_, ?_⟩
  · rw [List.filter_append, equal, List.append_assoc, finishes pending opened]
    simp
  · intro method cause
    rcases cause with member | failed
    · rcases List.mem_append.mp member with member | last
      · exact refusals method (.inl member)
      · exact refuses method (List.mem_singleton.mp last).symm
    · cases failed

private theorem History.other (history : History caller closed trace point)
    (foreign : ∀ event ∈ events, owner event ≠ some caller) :
    History caller closed (trace ++ events) point := by
  have none : events.filter (concerns caller) = [] := by
    simpa [List.filter_eq_nil_iff, concerns] using foreign
  rcases history with ⟨exchanges, pending, opened, equal, refusals⟩
  refine ⟨exchanges, pending, opened, ?_, refusals⟩
  rw [List.filter_append, none, List.append_nil, equal]

private theorem History.close (history : History caller closed trace point) :
    History caller true trace point := by
  rcases history with ⟨exchanges, pending, opened, equal, -⟩
  exact ⟨exchanges, pending, opened, equal, fun _ _ => rfl⟩

/-- A step of one caller leaves the histories of the others as they are. -/
theorem histories_setPoint {mover : Caller}
    (histories : ∀ caller, History caller s.closed trace (s.point caller))
    (owned : ∀ event ∈ events, owner event = some mover)
    (own : History mover s.closed trace (s.point mover) →
      History mover s.closed (trace ++ events) point)
    (caller : Caller) :
    History caller s.closed (trace ++ events) ((s.setPoint mover point).point caller) := by
  by_cases same : caller = mover
  · subst same
    simp only [State.setPoint, Function.update_self]
    exact own (histories caller)
  · simp only [State.setPoint, Function.update_of_ne same]
    apply (histories caller).other
    intro event member equal
    rw [owned event member] at equal
    exact same (Option.some.inj equal).symm

private theorem Step.histories (step : Step s next events)
    (histories : ∀ caller, History caller s.closed trace (s.point caller))
    (caller : Caller) :
    History caller next.closed (trace ++ events) (next.point caller) := by
  cases step with
  | markClosed at' succeeded =>
      exact ((histories caller).other (by simp [owner])).close
  | call at' | start at' opened | answer at' =>
      refine histories_setPoint histories (by simp [owner]) ?_ caller
      intro history
      rw [at'] at history
      apply history.extend
      · intro pending opened
        simp_all [Point.Open, concerns, owner]
      · intro method failed
        cases failed
  | @refuse mover method at' closed =>
      refine histories_setPoint histories (by simp [owner]) ?_ caller
      intro history
      rw [at'] at history
      apply history.finish (.refused method)
      · intro pending opened
        simp_all [Point.Open, concerns, owner, Exchange.events]
      · exact fun _ _ => closed
  | @«return» mover method result at' =>
      refine histories_setPoint histories (by simp [owner]) ?_ caller
      intro history
      rw [at'] at history
      apply history.finish (.passed method result)
      · intro pending opened
        simp_all [Point.Open, concerns, owner, Exchange.events]
      · intro other refused
        cases refused
  | failBefore at' closed | failAfter at' closed =>
      refine histories_setPoint histories (by simp [owner]) ?_ caller
      intro history
      rw [at'] at history
      apply history.extend
      · intro pending opened
        simp_all [Point.Open, concerns, owner]
      · exact fun _ _ => closed

end Histories

/-! ## After closing -/

/-- What a run of the direct use amounts to. -/
structure Account (initially : Bool) (trace : List (TimeoutConn.Event Caller))
    (s : State Caller) : Prop where
  histories : ∀ caller, History caller s.closed trace (s.point caller)
  closed : s.closed = true ↔ initially = true ∨ GivenUp trace
  stops : trace.Pairwise StopsUse

private theorem Step.account {s next : State Caller} {initially : Bool}
    {trace events : List (TimeoutConn.Event Caller)} (step : Step s next events)
    (account : Account initially trace s) :
    Account initially (trace ++ events) next := by
  refine ⟨step.histories account.histories, ?_, ?_⟩
  · cases step with
    | markClosed at' succeeded => exact iff_of_true rfl (.inr ⟨_, List.mem_concat_self⟩)
    | call | refuse | start | answer | «return» | failBefore | failAfter =>
        rw [givenUp_append_singleton (by simp [owner])]
        exact account.closed
  · cases step with
    | start at' opened =>
        apply pairwise_append_singleton account.stops
        intro _ given
        have closed := account.closed.mpr (.inr given)
        rw [opened] at closed
        contradiction
    | call | refuse | answer | markClosed | «return» | failBefore | failAfter =>
        apply pairwise_append_singleton account.stops
        simp

theorem account {initially : Bool} {trace : List (TimeoutConn.Event Caller)}
    {s : State Caller} (reachable : (model initially Caller).Reachable trace s) :
    Account initially trace s := by
  apply reachable.invariant (Account initially)
  · refine ⟨?_, by simp [model, GivenUp], .nil⟩
    intro caller
    refine ⟨[], [], rfl, rfl, ?_⟩
    simp [model]
  · intro past current action next events _ holds step
    exact (step_inversion step).account holds

end Machine

end RdsMetricCollector.PqTimeouts.Direct
