import Mathlib.Data.Fintype.Basic
import RdsMetricCollector.Foundation.Execution
import RdsMetricCollector.PqTimeouts.Driver

/-! # Connections with timeouts

A `timeoutConn` wraps a connection and sets a deadline around every read and
every write. Goroutines may be in its methods at the same time, and each
statement of a method reads the field `conn` afresh. What the wrapped
connection answers, and when, is up to the environment.
-/

namespace RdsMetricCollector.PqTimeouts

open RdsMetricCollector.Execution

inductive Direction
  | read
  | write
  deriving DecidableEq, Repr

/-- The methods of `net.Conn`. `Read` and `Write` are the two transfers. A time
is in nanoseconds, and the zero time, which means no deadline, is `none`. -/
inductive Method
  | transfer (direction : Direction)
  | close
  | localAddr
  | remoteAddr
  | setDeadline (time : Option Int)
  | setTransferDeadline (direction : Direction) (time : Option Int)
  deriving DecidableEq, Repr

inductive ConnErr
  | nilConnErr
  | other (message : String)
  deriving DecidableEq, Repr

def ConnErr.error : ConnErr → String
  | .nilConnErr => "Connection is nil"
  | .other message => message

/-- What a method returns; a method without a count or an address leaves it at
its zero value. -/
structure Result where
  n : Int64
  err : Option ConnErr
  addr : Option String
  deriving DecidableEq, Repr

/-- What the methods of a `timeoutConn` return when `conn` is nil. -/
def nilResult : Method → Result
  | .localAddr | .remoteAddr => { n := 0, err := none, addr := none }
  | .setTransferDeadline .write _ =>
      { n := 0, err := some (.other "Connection is nil"), addr := none }
  | .transfer _ | .close | .setDeadline _ | .setTransferDeadline .read _ =>
      { n := 0, err := some .nilConnErr, addr := none }

structure TimeoutConn (Conn : Type) where
  conn : Option Conn
  readTimeout : Int64
  writeTimeout : Int64
  deriving DecidableEq, Repr

namespace TimeoutConn

variable {Conn : Type}

def timeout (t : TimeoutConn Conn) : Direction → Int64
  | .read => t.readTimeout
  | .write => t.writeTimeout

/-- The direction whose deadline a method sets before and clears after its call. -/
def manages (t : TimeoutConn Conn) : Method → Option Direction
  | .transfer direction => if t.timeout direction ≠ 0 then some direction else none
  | _ => none

theorem manages_eq_some {t : TimeoutConn Conn} {method : Method} {direction : Direction}
    (managed : t.manages method = some direction) :
    method = .transfer direction ∧ t.timeout direction ≠ 0 := by
  unfold manages at managed
  split at managed
  case h_1 other =>
    split_ifs at managed with given
    cases managed
    exact ⟨rfl, given⟩
  case h_2 => cases managed

theorem manages_transfer {t : TimeoutConn Conn} {direction : Direction}
    (given : t.timeout direction ≠ 0) :
    t.manages (.transfer direction) = some direction :=
  if_pos given

/-! ## The machine -/

/-- A call of a method of the wrapper, and when it was made. -/
structure Call where
  method : Method
  since : Int
  deriving DecidableEq, Repr

/-- Where a call stands. All methods have this shape: a check that `conn` is not
nil, the same method of `conn`, and around a transfer with a timeout the
setting and the clearing of its deadline. -/
inductive Position
  /-- Before the check. -/
  | entry
  | arm
  /-- In the call that sets the deadline. -/
  | arming (deadline : Int)
  | forward
  /-- In the method of the connection. -/
  | forwarding
  | clear (result : Result)
  /-- In the call that clears the deadline. -/
  | clearing (result : Result)
  /-- In `Close`, before `conn` is set to nil. -/
  | drop (result : Result)
  | exit (result : Result)
  deriving DecidableEq, Repr

/-- Whether the next statement calls a method of `conn`. -/
def Position.calls : Position → Bool
  | .arm | .forward | .clear _ => true
  | .entry | .arming _ | .forwarding | .clearing _ | .drop _ | .exit _ => false

inductive Point
  | idle
  | running (call : Call) (position : Position)
  /-- A method of the nil connection was called. -/
  | panicked (call : Call)
  deriving DecidableEq, Repr

structure State (Caller : Type) where
  now : Int
  /-- Whether the field `conn` still holds the connection. -/
  conn : Bool
  /-- The deadlines of the wrapped connection. -/
  deadline : Direction → Option Int
  point : Caller → Point

inductive Event (Caller : Type)
  | called (caller : Caller) (method : Method)
  /-- A method of the connection is called on behalf of a caller. -/
  | started (caller : Caller) (method : Method)
  | answered (caller : Caller) (method : Method) (result : Result)
  | dropped (caller : Caller)
  | returned (caller : Caller) (method : Method) (result : Result)
  | panicked (caller : Caller)
  deriving DecidableEq, Repr

inductive Action (Caller : Type)
  | advance (duration : Nat)
  | call (caller : Caller) (method : Method)
  | proceed (caller : Caller)
  /-- The connection returns from the call that it is in for the caller. -/
  | connReturns (caller : Caller) (result : Result)
  deriving DecidableEq, Repr

section Machine

variable {Caller : Type}

namespace State

/-- The deadlines after a call that sets one. -/
def withDeadline (s : State Caller) (direction : Direction) (time : Option Int)
    (result : Result) : State Caller :=
  if result.err = none then
    { s with deadline := Function.update s.deadline direction time }
  else
    s

/-- The deadlines after a method of the connection has returned. -/
def afterMethod (s : State Caller) (method : Method) (result : Result) : State Caller :=
  match method with
  | .setDeadline time =>
      (s.withDeadline .read time result).withDeadline .write time result
  | .setTransferDeadline direction time => s.withDeadline direction time result
  | .transfer _ | .close | .localAddr | .remoteAddr => s

section Deadlines

variable (s : State Caller) (direction : Direction) (time : Option Int) (method : Method)
  (result : Result)

@[simp] theorem withDeadline_now :
    (s.withDeadline direction time result).now = s.now := by
  unfold withDeadline
  split <;> rfl

@[simp] theorem withDeadline_conn :
    (s.withDeadline direction time result).conn = s.conn := by
  unfold withDeadline
  split <;> rfl

@[simp] theorem withDeadline_point :
    (s.withDeadline direction time result).point = s.point := by
  unfold withDeadline
  split <;> rfl

theorem withDeadline_deadline_of_ne {other : Direction} (different : other ≠ direction) :
    (s.withDeadline direction time result).deadline other = s.deadline other := by
  unfold withDeadline
  split
  · exact Function.update_of_ne different _ _
  · rfl

theorem withDeadline_deadline_self {result : Result} (accepted : result.err = none) :
    (s.withDeadline direction time result).deadline direction = time := by
  rw [withDeadline, if_pos accepted]
  exact Function.update_self direction time s.deadline

@[simp] theorem afterMethod_conn : (s.afterMethod method result).conn = s.conn := by
  cases method <;> simp [afterMethod]

@[simp] theorem afterMethod_point : (s.afterMethod method result).point = s.point := by
  cases method <;> simp [afterMethod]

end Deadlines

variable [DecidableEq Caller]

def setPoint (s : State Caller) (caller : Caller) (point : Point) : State Caller :=
  { s with point := Function.update s.point caller point }

section Points

variable (s : State Caller) (caller : Caller) (point : Point)

@[simp] theorem setPoint_now : (s.setPoint caller point).now = s.now := rfl

@[simp] theorem setPoint_conn : (s.setPoint caller point).conn = s.conn := rfl

@[simp] theorem setPoint_deadline :
    (s.setPoint caller point).deadline = s.deadline := rfl

@[simp] theorem setPoint_point :
    (s.setPoint caller point).point = Function.update s.point caller point := rfl

end Points

/-- Call a method of `conn`. -/
def invoke (s : State Caller) (caller : Caller) (call : Call) (position : Position)
    (events : List (Event Caller)) : State Caller × List (Event Caller) :=
  if s.conn then
    (s.setPoint caller (.running call position), events)
  else
    (s.setPoint caller (.panicked call), [.panicked caller])

end State

variable [DecidableEq Caller]

def afterCheck (t : TimeoutConn Conn) (method : Method) : Position :=
  if (t.manages method).isSome then .arm else .forward

def afterForward (t : TimeoutConn Conn) (method : Method) (result : Result) : Position :=
  if (t.manages method).isSome then .clear result
  else if method = .close then .drop result
  else .exit result

/-- The next statement of a call. -/
def proceed (t : TimeoutConn Conn) (s : State Caller) (caller : Caller) (call : Call) :
    Position → Option (State Caller × List (Event Caller))
  | .entry =>
      if s.conn then
        some (s.setPoint caller (.running call (t.afterCheck call.method)), [])
      else
        some (s.setPoint caller .idle,
          [.returned caller call.method (nilResult call.method)])
  | .arm =>
      (t.manages call.method).map fun direction =>
        s.invoke caller call (.arming (s.now + (t.timeout direction).toInt)) []
  | .forward => some (s.invoke caller call .forwarding [.started caller call.method])
  | .clear result => some (s.invoke caller call (.clearing result) [])
  | .drop result =>
      if result.err = none then
        some ({ s with conn := false }.setPoint caller (.running call (.exit result)),
          [.dropped caller])
      else
        some (s.setPoint caller (.running call (.exit result)), [])
  | .exit result =>
      some (s.setPoint caller .idle, [.returned caller call.method result])
  | .arming _ | .forwarding | .clearing _ => none

/-- The connection returns. The errors of the two calls that the wrapper makes
on its own account are dropped. -/
def connReturns (t : TimeoutConn Conn) (s : State Caller) (caller : Caller) (call : Call)
    (result : Result) : Position → Option (State Caller × List (Event Caller))
  | .arming deadline =>
      (t.manages call.method).map fun direction =>
        ((s.withDeadline direction (some deadline) result).setPoint caller
          (.running call .forward), [])
  | .forwarding =>
      some ((s.afterMethod call.method result).setPoint caller
        (.running call (t.afterForward call.method result)),
        [.answered caller call.method result])
  | .clearing kept =>
      (t.manages call.method).map fun direction =>
        ((s.withDeadline direction none result).setPoint caller
          (.running call (.exit kept)), [])
  | .entry | .arm | .forward | .clear _ | .drop _ | .exit _ => none

def step (t : TimeoutConn Conn) (s : State Caller) :
    Action Caller → Option (State Caller × List (Event Caller))
  | .advance duration => some ({ s with now := s.now + duration }, [])
  | .call caller method =>
      if s.point caller = .idle then
        some (s.setPoint caller (.running ⟨method, s.now⟩ .entry), [.called caller method])
      else
        none
  | .proceed caller =>
      match s.point caller with
      | .running call position => t.proceed s caller call position
      | .idle | .panicked _ => none
  | .connReturns caller result =>
      match s.point caller with
      | .running call position => t.connReturns s caller call result position
      | .idle | .panicked _ => none

/-- The runs of a `timeoutConn` from its creation around a connection without
deadlines. -/
def model (t : TimeoutConn Conn) (Caller : Type) [DecidableEq Caller] :
    Model (State Caller) (Action Caller) (Event Caller) where
  initial :=
    { now := 0
      conn := t.conn.isSome
      deadline := fun _ => none
      point := fun _ => .idle }
  step := t.step

/-! ## What a step can do -/

/-- The next statement of a call that stands at a position. -/
inductive Proceeds (t : TimeoutConn Conn) (s : State Caller) (caller : Caller)
    (call : Call) : Position → State Caller → List (Event Caller) → Prop
  | enter (held : s.conn = true) :
      Proceeds t s caller call .entry
        (s.setPoint caller (.running call (t.afterCheck call.method))) []
  | refuse (missing : s.conn = false) :
      Proceeds t s caller call .entry (s.setPoint caller .idle)
        [.returned caller call.method (nilResult call.method)]
  | arm {direction : Direction} (held : s.conn = true)
      (managed : t.manages call.method = some direction) :
      Proceeds t s caller call .arm
        (s.setPoint caller (.running call
          (.arming (s.now + (t.timeout direction).toInt)))) []
  | forward (held : s.conn = true) :
      Proceeds t s caller call .forward (s.setPoint caller (.running call .forwarding))
        [.started caller call.method]
  | clear {result : Result} (held : s.conn = true) :
      Proceeds t s caller call (.clear result)
        (s.setPoint caller (.running call (.clearing result))) []
  | panic {position : Position} (missing : s.conn = false)
      (calls : position.calls = true) :
      Proceeds t s caller call position (s.setPoint caller (.panicked call))
        [.panicked caller]
  | dropped {result : Result} (closed : result.err = none) :
      Proceeds t s caller call (.drop result)
        ({ s with conn := false }.setPoint caller (.running call (.exit result)))
        [.dropped caller]
  | keep {result : Result} (failed : result.err ≠ none) :
      Proceeds t s caller call (.drop result)
        (s.setPoint caller (.running call (.exit result))) []
  | exit {result : Result} :
      Proceeds t s caller call (.exit result) (s.setPoint caller .idle)
        [.returned caller call.method result]

/-- What a call does with an answer of the connection. -/
inductive Answers (t : TimeoutConn Conn) (s : State Caller) (caller : Caller)
    (call : Call) (result : Result) :
    Position → State Caller → List (Event Caller) → Prop
  | armed {deadline : Int} {direction : Direction}
      (managed : t.manages call.method = some direction) :
      Answers t s caller call result (.arming deadline)
        ((s.withDeadline direction (some deadline) result).setPoint caller
          (.running call .forward)) []
  | answered :
      Answers t s caller call result .forwarding
        ((s.afterMethod call.method result).setPoint caller
          (.running call (t.afterForward call.method result)))
        [.answered caller call.method result]
  | cleared {direction : Direction} {kept : Result}
      (managed : t.manages call.method = some direction) :
      Answers t s caller call result (.clearing kept)
        ((s.withDeadline direction none result).setPoint caller
          (.running call (.exit kept))) []

inductive Step (t : TimeoutConn Conn) (s : State Caller) :
    Action Caller → State Caller → List (Event Caller) → Prop
  | advance {duration : Nat} :
      Step t s (.advance duration) { s with now := s.now + duration } []
  | call {caller : Caller} {method : Method} (idle : s.point caller = .idle) :
      Step t s (.call caller method)
        (s.setPoint caller (.running ⟨method, s.now⟩ .entry)) [.called caller method]
  | proceed {caller : Caller} {call : Call} {position : Position} {next : State Caller}
      {events : List (Event Caller)} (running : s.point caller = .running call position)
      (proceeds : Proceeds t s caller call position next events) :
      Step t s (.proceed caller) next events
  | connReturns {caller : Caller} {call : Call} {position : Position} {result : Result}
      {next : State Caller} {events : List (Event Caller)}
      (running : s.point caller = .running call position)
      (answers : Answers t s caller call result position next events) :
      Step t s (.connReturns caller result) next events

variable {t : TimeoutConn Conn} {s next : State Caller} {action : Action Caller}
  {events : List (Event Caller)} {caller : Caller} {call : Call} {position : Position}

private theorem proceeds_of_invoke {inside : Position} {emitted : List (Event Caller)}
    (calls : position.calls = true)
    (held : s.conn = true → Proceeds t s caller call position
      (s.setPoint caller (.running call inside)) emitted)
    (invoked : s.invoke caller call inside emitted = (next, events)) :
    Proceeds t s caller call position next events := by
  unfold State.invoke at invoked
  split_ifs at invoked with present
  · cases invoked
    exact held present
  · cases invoked
    exact .panic (by simpa using present) calls

private theorem proceeds_inversion
    (stepped : t.proceed s caller call position = some (next, events)) :
    Proceeds t s caller call position next events := by
  cases position with
  | entry =>
      simp only [proceed] at stepped
      split_ifs at stepped with present
      · cases stepped
        exact .enter present
      · cases stepped
        exact .refuse (by simpa using present)
  | arm =>
      simp only [proceed, Option.map_eq_some_iff] at stepped
      rcases stepped with ⟨direction, managed, invoked⟩
      exact proceeds_of_invoke rfl (fun held => .arm held managed) invoked
  | forward =>
      simp only [proceed, Option.some.injEq] at stepped
      exact proceeds_of_invoke rfl (fun held => .forward held) stepped
  | clear result =>
      simp only [proceed, Option.some.injEq] at stepped
      exact proceeds_of_invoke rfl (fun held => .clear held) stepped
  | drop result =>
      simp only [proceed] at stepped
      split_ifs at stepped with closed
      · cases stepped
        exact .dropped closed
      · cases stepped
        exact .keep closed
  | exit result =>
      cases stepped
      exact .exit
  | arming deadline | forwarding | clearing result => cases stepped

private theorem answers_inversion {result : Result}
    (stepped : t.connReturns s caller call result position = some (next, events)) :
    Answers t s caller call result position next events := by
  cases position with
  | arming deadline =>
      simp only [connReturns, Option.map_eq_some_iff] at stepped
      rcases stepped with ⟨direction, managed, equal⟩
      cases equal
      exact .armed managed
  | forwarding =>
      cases stepped
      exact .answered
  | clearing kept =>
      simp only [connReturns, Option.map_eq_some_iff] at stepped
      rcases stepped with ⟨direction, managed, equal⟩
      cases equal
      exact .cleared managed
  | entry | arm | forward | clear result | drop result | exit result => cases stepped

theorem step_inversion (stepped : t.step s action = some (next, events)) :
    Step t s action next events := by
  cases action with
  | advance duration =>
      cases stepped
      exact .advance
  | call caller method =>
      simp only [step] at stepped
      split_ifs at stepped with idle
      cases stepped
      exact .call idle
  | proceed caller =>
      simp only [step] at stepped
      split at stepped
      · exact .proceed ‹_› (proceeds_inversion stepped)
      · cases stepped
      · cases stepped
  | connReturns caller result =>
      simp only [step] at stepped
      split at stepped
      · exact .connReturns ‹_› (answers_inversion stepped)
      · cases stepped
      · cases stepped

end Machine

end TimeoutConn

end RdsMetricCollector.PqTimeouts
