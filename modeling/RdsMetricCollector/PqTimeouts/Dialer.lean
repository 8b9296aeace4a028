import RdsMetricCollector.PqTimeouts.Deadlines

/-! # Dialing with timeouts

The dialer that the driver hands to `lib/pq`. The functions of the `net` package
that it calls are a parameter.
-/

namespace RdsMetricCollector.PqTimeouts

open RdsMetricCollector.Execution

/-- A connection and an error, either of which may be nil. -/
abbrev Dialed (Conn : Type) := Option Conn × Option String

structure Net (Conn : Type) where
  netDial : String → String → Dialed Conn
  netDialTimeout : String → String → Int64 → Dialed Conn

/-- The connections that the dialer returns. -/
inductive NetConn (Conn : Type)
  | direct (conn : Conn)
  | timeoutConn (conn : TimeoutConn Conn)

namespace TimeoutDialer

variable {Conn : Type}

/-- What both functions of the dialer make of the connection they dialed. -/
def wrap (t : TimeoutDialer) (dialed : Dialed Conn) : Dialed (NetConn Conn) :=
  if t.readTimeout = 0 ∧ t.writeTimeout = 0 then
    (dialed.1.map .direct, dialed.2)
  else
    match dialed with
    | (none, err) => (none, err)
    | (some c, some err) => (some (.direct c), some err)
    | (some c, none) =>
        (some (.timeoutConn
          { conn := some c, readTimeout := t.readTimeout, writeTimeout := t.writeTimeout }), none)

def dial (t : TimeoutDialer) (net : Net Conn) (network address : String) :
    Dialed (NetConn Conn) :=
  t.wrap (net.netDial network address)

def dialTimeout (t : TimeoutDialer) (net : Net Conn) (network address : String)
    (timeout : Int64) : Dialed (NetConn Conn) :=
  t.wrap (net.netDialTimeout network address timeout)

/-- The connections that a dialer can return without an error. -/
inductive Connects (t : TimeoutDialer) (net : Net Conn) (conn : NetConn Conn) : Prop
  | dial (network address : String) (dialed : t.dial net network address = (some conn, none))
  | dialTimeout (network address : String) (timeout : Int64)
      (dialed : t.dialTimeout net network address timeout = (some conn, none))

private theorem wrap_eq {t : TimeoutDialer} {dialed : Dialed Conn} {conn : NetConn Conn}
    (given : ¬(t.readTimeout = 0 ∧ t.writeTimeout = 0))
    (wrapped : t.wrap dialed = (some conn, none)) :
    ∃ c, dialed = (some c, none) ∧ conn = .timeoutConn ⟨some c, t.readTimeout, t.writeTimeout⟩ := by
  unfold wrap at wrapped
  rw [if_neg given] at wrapped
  rcases dialed with ⟨c, err⟩
  cases c with
  | none => cases wrapped
  | some c =>
      cases err with
      | none =>
          cases wrapped
          exact ⟨c, rfl, rfl⟩
      | some err => cases wrapped

/-- Every connection that a dialer with a timeout returns is a wrapper around one
that the network gave it. -/
theorem Connects.exists_timeoutConn {t : TimeoutDialer} {net : Net Conn}
    {conn : NetConn Conn} (connects : t.Connects net conn)
    (given : ¬(t.readTimeout = 0 ∧ t.writeTimeout = 0)) :
    ∃ c, conn = .timeoutConn ⟨some c, t.readTimeout, t.writeTimeout⟩ := by
  cases connects with
  | dial network address dialed =>
      rcases wrap_eq given dialed with ⟨c, _, wrapped⟩
      exact ⟨c, wrapped⟩
  | dialTimeout network address timeout dialed =>
      rcases wrap_eq given dialed with ⟨c, _, wrapped⟩
      exact ⟨c, wrapped⟩

/-- The connection is a wrapper, and each transfer on it is passed on under a
deadline that many nanoseconds after a moment since the transfer was begun. -/
def HasDeadlines (nanoseconds : Int) (conn : NetConn Conn) : Prop :=
  ∃ (c : Conn) (wrapped : TimeoutConn Conn),
    wrapped.conn = some c ∧ conn = .timeoutConn wrapped ∧
    ∀ {Caller : Type} [Fintype Caller] [DecidableEq Caller]
      (trace : List (TimeoutConn.Event Caller)) (state : TimeoutConn.State Caller),
      ((wrapped.model Caller).restrict TimeoutConn.Disciplined).Reachable trace state →
      ∀ direction caller since,
        state.point caller = .running ⟨.transfer direction, since⟩ .forwarding →
        ∃ deadline, state.deadline direction = some deadline ∧
          since + nanoseconds ≤ deadline ∧ deadline ≤ state.now + nanoseconds

theorem Connects.hasDeadlines {t : TimeoutDialer} {net : Net Conn} {conn : NetConn Conn}
    (connects : t.Connects net conn) {nanoseconds : Int} (positive : nanoseconds ≠ 0)
    (read : t.readTimeout.toInt = nanoseconds) (write : t.writeTimeout.toInt = nanoseconds) :
    HasDeadlines nanoseconds conn := by
  have given : ¬(t.readTimeout = 0 ∧ t.writeTimeout = 0) := by
    intro zero
    rw [zero.1] at read
    exact positive read.symm
  rcases connects.exists_timeoutConn given with ⟨c, rfl⟩
  refine ⟨c, _, rfl, rfl, ?_⟩
  intro Caller _ _ trace state reachable direction caller since running
  have timeout : (TimeoutConn.timeout ⟨some c, t.readTimeout, t.writeTimeout⟩
      direction).toInt = nanoseconds := by
    cases direction with
    | read => exact read
    | write => exact write
  rw [← timeout]
  refine (TimeoutConn.guarded reachable).deadline ?_ running
  intro zero
  rw [zero] at timeout
  exact positive timeout.symm

end TimeoutDialer

end RdsMetricCollector.PqTimeouts
