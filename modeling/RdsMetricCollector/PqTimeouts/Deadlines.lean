import Mathlib.Data.Fintype.Basic
import RdsMetricCollector.PqTimeouts.Conn

/-! # The deadlines of reads and writes

As long as reads do not overlap with reads and writes not with writes, and the
callers set no deadline of a transfer that is under way, each transfer with a
timeout runs under a deadline that it has set itself, whatever else happens on the
connection in the meantime.
-/

namespace RdsMetricCollector.PqTimeouts.TimeoutConn

open RdsMetricCollector.Execution

variable {Conn Caller : Type}

/-- A goroutine that is in a transfer, or has panicked in one. -/
def InTransfer (direction : Direction) : Point → Prop
  | .idle => False
  | .running call _ | .panicked call => call.method = .transfer direction

instance (direction : Direction) (point : Point) :
    Decidable (InTransfer direction point) :=
  match point with
  | .idle => .isFalse id
  | .running _ _ | .panicked _ => inferInstanceAs (Decidable (_ = _))

/-- The methods by which a caller sets the deadline of a direction. -/
def SetsDeadline (direction : Direction) : Method → Prop
  | .setDeadline _ => True
  | .setTransferDeadline other _ => other = direction
  | .transfer _ | .close | .localAddr | .remoteAddr => False

instance (direction : Direction) (method : Method) :
    Decidable (SetsDeadline direction method) :=
  match method with
  | .setDeadline _ => .isTrue trivial
  | .setTransferDeadline _ _ => inferInstanceAs (Decidable (_ = _))
  | .transfer _ | .close | .localAddr | .remoteAddr => .isFalse id

/-- A goroutine that is in a method which sets the deadline of the direction. -/
def SettingDeadline (direction : Direction) : Point → Prop
  | .running call _ => SetsDeadline direction call.method
  | .idle | .panicked _ => False

instance (direction : Direction) (point : Point) :
    Decidable (SettingDeadline direction point) :=
  match point with
  | .running call _ => inferInstanceAs (Decidable (SetsDeadline direction call.method))
  | .idle | .panicked _ => .isFalse id

/-- Whether a goroutine waits for a call that sets or clears a deadline for the
wrapper. -/
def awaitsDeadlineCall : Point → Bool
  | .running _ (.arming _) | .running _ (.clearing _) => true
  | _ => false

def MayCall (s : State Caller) : Method → Prop
  | .transfer direction => ∀ other, ¬InTransfer direction (s.point other) ∧
      ¬SettingDeadline direction (s.point other)
  | .setDeadline _ => ∀ other, ¬InTransfer .read (s.point other) ∧
      ¬InTransfer .write (s.point other)
  | .setTransferDeadline direction _ => ∀ other, ¬InTransfer direction (s.point other)
  | .close | .localAddr | .remoteAddr => True

/-- The use of a connection that the wrapper is made for: at most one read and
one write at a time, and a caller sets a deadline only outside the transfers that
it is for, as `lib/pq` does around the start of a session. The connection accepts
the deadlines that the wrapper gives it. -/
def Disciplined (s : State Caller) : Action Caller → Prop
  | .call _ method => MayCall s method
  | .connReturns caller result =>
      awaitsDeadlineCall (s.point caller) = true → result.err = none
  | .advance _ | .proceed _ => True

instance [Fintype Caller] (s : State Caller) (method : Method) :
    Decidable (MayCall s method) :=
  match method with
  | .transfer _ | .setDeadline _ => inferInstanceAs (Decidable (∀ _, _ ∧ _))
  | .setTransferDeadline direction _ =>
      inferInstanceAs (Decidable (∀ other, ¬InTransfer direction (s.point other)))
  | .close | .localAddr | .remoteAddr => .isTrue trivial

instance [Fintype Caller] (s : State Caller) (action : Action Caller) :
    Decidable (Disciplined s action) :=
  match action with
  | .call _ method => inferInstanceAs (Decidable (MayCall s method))
  | .connReturns caller result =>
      inferInstanceAs (Decidable
        (awaitsDeadlineCall (s.point caller) = true → result.err = none))
  | .advance _ | .proceed _ => .isTrue trivial

/-! ## What a transfer keeps -/

/-- The deadline lies a timeout after a moment of the call. -/
def DuringCall (timeout since now time : Int) : Prop :=
  since + timeout ≤ time ∧ time ≤ now + timeout

/-- What holds of the deadline of its direction while a transfer with a timeout
is at a position; `free` means that no caller has set one. -/
def Position.Guards (timeout since now : Int) (free : Prop) (deadline : Option Int) :
    Position → Prop
  | .entry | .arm | .drop _ | .exit _ => free → deadline = none
  | .arming time => DuringCall timeout since now time
  | .forward | .forwarding | .clear _ | .clearing _ =>
      ∃ time, deadline = some time ∧ DuringCall timeout since now time

def Point.Guards (timeout now : Int) (free : Prop) (deadline : Option Int) :
    Point → Prop
  | .idle => free → deadline = none
  | .running call position =>
      call.since ≤ now ∧ position.Guards timeout call.since now free deadline
  | .panicked _ => True

private theorem Point.Guards.mono {timeout now later : Int} {free stillFree : Prop}
    {deadline : Option Int} {point : Point}
    (guards : point.Guards timeout now free deadline) (passes : now ≤ later)
    (before : stillFree → free) : point.Guards timeout later stillFree deadline := by
  cases point with
  | idle => exact fun still => guards (before still)
  | panicked call => exact guards
  | running call position =>
      rcases guards with ⟨since, guards⟩
      refine ⟨by omega, ?_⟩
      cases position with
      | entry | arm | drop result | exit result => exact fun still => guards (before still)
      | arming time =>
          rcases guards with ⟨lower, upper⟩
          exact ⟨lower, by omega⟩
      | forward | forwarding | clear result | clearing result =>
          rcases guards with ⟨time, set, lower, upper⟩
          exact ⟨time, set, lower, by omega⟩

/-- No caller has called a method that sets the deadline of the direction. -/
def Free (direction : Direction) (past : List (Event Caller)) : Prop :=
  ∀ caller method, .called caller method ∈ past → ¬SetsDeadline direction method

theorem Free.of_append {direction : Direction} {past events : List (Event Caller)}
    (free : Free direction (past ++ events)) : Free direction past := by
  intro caller method called
  exact free caller method (List.mem_append_left events called)

structure Guarded (t : TimeoutConn Conn) (past : List (Event Caller))
    (s : State Caller) : Prop where
  called : ∀ {caller call position},
    s.point caller = .running call position → .called caller call.method ∈ past
  exclusive : ∀ {direction first second}, InTransfer direction (s.point first) →
    InTransfer direction (s.point second) → first = second
  apart : ∀ {direction first second}, InTransfer direction (s.point first) →
    ¬SettingDeadline direction (s.point second)
  guards : ∀ {direction}, t.timeout direction ≠ 0 → ∀ {caller},
    InTransfer direction (s.point caller) →
      (s.point caller).Guards (t.timeout direction).toInt s.now (Free direction past)
        (s.deadline direction)
  clear : ∀ {direction}, t.timeout direction ≠ 0 → Free direction past →
    (∀ caller, ¬InTransfer direction (s.point caller)) → s.deadline direction = none

variable {t : TimeoutConn Conn} {s next : State Caller} {action : Action Caller}
  {past events : List (Event Caller)} {caller : Caller} {call : Call}
  {position : Position}

private theorem afterMethod_now (method : Method) (result : Result) :
    (s.afterMethod method result).now = s.now := by
  cases method <;> simp [State.afterMethod]

private theorem afterMethod_deadline {direction : Direction} {method : Method} (result : Result)
    (leaves : ¬SetsDeadline direction method) :
    (s.afterMethod method result).deadline direction = s.deadline direction := by
  cases method with
  | transfer other | close | localAddr | remoteAddr => rfl
  | setDeadline time => exact absurd trivial leaves
  | setTransferDeadline other time =>
      exact s.withDeadline_deadline_of_ne other time result (Ne.symm leaves)

private theorem MayCall.alone {method : Method} (may : MayCall s method) {direction : Direction}
    (transfer : method = .transfer direction) (other : Caller) :
    ¬InTransfer direction (s.point other) ∧ ¬SettingDeadline direction (s.point other) := by
  subst transfer
  exact may other

private theorem MayCall.outside {method : Method} (may : MayCall s method) {direction : Direction}
    (sets : SetsDeadline direction method) (other : Caller) :
    ¬InTransfer direction (s.point other) := by
  cases method with
  | setDeadline time =>
      cases direction with
      | read => exact (may other).1
      | write => exact (may other).2
  | setTransferDeadline set time =>
      cases sets
      exact may other
  | transfer set | close | localAddr | remoteAddr => exact sets.elim

private theorem Guarded.append (guarded : Guarded t past s) (events : List (Event Caller)) :
    Guarded t (past ++ events) s where
  called running := List.mem_append_left events (guarded.called running)
  exclusive := guarded.exclusive
  apart := guarded.apart
  guards given _ inside := (guarded.guards given inside).mono le_rfl Free.of_append
  clear given free := guarded.clear given free.of_append

theorem Guarded.deadline {state : State Caller} (guarded : Guarded t past state)
    {direction : Direction} (given : t.timeout direction ≠ 0) {caller : Caller} {since : Int}
    (running : state.point caller = .running ⟨.transfer direction, since⟩ .forwarding) :
    ∃ deadline, state.deadline direction = some deadline ∧
      since + (t.timeout direction).toInt ≤ deadline ∧
      deadline ≤ state.now + (t.timeout direction).toInt := by
  have inside : InTransfer direction (state.point caller) := by
    rw [running]
    rfl
  have guards := guarded.guards given inside
  rw [running] at guards
  exact guards.2

private theorem Guarded.managed (guarded : Guarded t past s)
    (running : s.point caller = .running call position) {direction : Direction}
    (given : t.timeout direction ≠ 0) (method : call.method = .transfer direction) :
    t.manages call.method = some direction ∧
      (Point.running call position).Guards (t.timeout direction).toInt s.now
        (Free direction past) (s.deadline direction) := by
  have inside : InTransfer direction (s.point caller) := by
    rw [running]
    exact method
  have guards := guarded.guards given inside
  rw [running] at guards
  refine ⟨?_, guards⟩
  rw [method]
  exact manages_transfer given

/-- The points at which a call can be next. -/
def Follows (call : Call) : Point → Prop
  | .idle => True
  | .running later _ | .panicked later => later = call

private theorem Follows.method_eq {point : Point} (follows : Follows call point)
    {direction : Direction} (inside : InTransfer direction point) :
    call.method = .transfer direction := by
  cases point with
  | idle => exact inside.elim
  | running later _ | panicked later =>
      cases follows
      exact inside

private theorem Follows.setsDeadline {point : Point} (follows : Follows call point)
    {direction : Direction} (setting : SettingDeadline direction point) :
    SetsDeadline direction call.method := by
  cases point with
  | idle | panicked later => exact setting.elim
  | running later _ =>
      cases follows
      exact setting

/-- A call moves to a point, as the state becomes `moved`. Only the deadline that the
call manages and those that it sets for its caller may change. -/
structure Moves (t : TimeoutConn Conn) (past : List (Event Caller)) (s moved : State Caller)
    (caller : Caller) (call : Call) (position : Position) (point : Point) : Prop where
  running : s.point caller = .running call position
  follows : Follows call point
  points : moved.point = s.point
  now : moved.now = s.now
  others : ∀ {direction}, t.manages call.method ≠ some direction →
    ¬SetsDeadline direction call.method → moved.deadline direction = s.deadline direction
  own : ∀ {direction}, t.manages call.method = some direction →
    (Point.running call position).Guards (t.timeout direction).toInt s.now
      (Free direction past) (s.deadline direction) →
    point.Guards (t.timeout direction).toInt s.now (Free direction past)
      (moved.deadline direction)

private theorem Moves.deadline_eq {moved : State Caller} {point : Point}
    {direction : Direction} (moves : Moves t past s moved caller call position point)
    (different : call.method ≠ .transfer direction)
    (leaves : ¬SetsDeadline direction call.method) :
    moved.deadline direction = s.deadline direction := by
  refine moves.others ?_ leaves
  intro managed
  exact different (manages_eq_some managed).1

variable [DecidableEq Caller]

private theorem guarded_initial : Guarded t [] (t.model Caller).initial where
  called running := by cases running
  exclusive first := first.elim
  apart first := first.elim
  guards _ _ inside := inside.elim
  clear _ _ _ := rfl

/-- What holds of a caller after a call has moved held before, if that is so for the
call itself. -/
private theorem of_update {P : Point → Prop} {point : Point} {other : Caller}
    (running : s.point caller = .running call position)
    (before : P point → P (.running call position))
    (holds : P (Function.update s.point caller point other)) : P (s.point other) := by
  by_cases same : other = caller
  · subst same
    rw [Function.update_self] at holds
    rw [running]
    exact before holds
  · rwa [Function.update_of_ne same] at holds

namespace Moves

variable {moved : State Caller} {point : Point} {direction : Direction} {other : Caller}

private theorem inTransfer (moves : Moves t past s moved caller call position point)
    (inside : InTransfer direction (Function.update s.point caller point other)) :
    InTransfer direction (s.point other) :=
  of_update moves.running moves.follows.method_eq inside

private theorem point_eq (moves : Moves t past s moved caller call position point) :
    (moved.setPoint caller point).point = Function.update s.point caller point := by
  rw [State.setPoint_point, moves.points]

private theorem called (moves : Moves t past s moved caller call position point)
    (guarded : Guarded t past s) {otherCall : Call} {otherPosition : Position}
    (running : (moved.setPoint caller point).point other = .running otherCall otherPosition) :
    .called other otherCall.method ∈ past := by
  rw [moves.point_eq] at running
  by_cases same : other = caller
  · subst same
    rw [Function.update_self] at running
    have follows := moves.follows
    rw [running] at follows
    cases follows
    exact guarded.called moves.running
  · rw [Function.update_of_ne same] at running
    exact guarded.called running

private theorem guards (moves : Moves t past s moved caller call position point)
    (guarded : Guarded t past s) (given : t.timeout direction ≠ 0)
    (inside : InTransfer direction ((moved.setPoint caller point).point other)) :
    ((moved.setPoint caller point).point other).Guards (t.timeout direction).toInt s.now
      (Free direction past) (moved.deadline direction) := by
  rw [moves.point_eq] at inside ⊢
  have insideBefore := moves.inTransfer inside
  by_cases same : other = caller
  · subst same
    rw [Function.update_self] at inside ⊢
    have managed := guarded.managed moves.running given (moves.follows.method_eq inside)
    exact moves.own managed.1 managed.2
  · rw [Function.update_of_ne same, moves.deadline_eq]
    · exact guarded.guards given insideBefore
    · intro method
      apply same
      apply guarded.exclusive insideBefore
      rw [moves.running]
      exact method
    · have apart : ¬SettingDeadline direction (s.point caller) := guarded.apart insideBefore
      rwa [moves.running] at apart

private theorem clear (moves : Moves t past s moved caller call position point)
    (guarded : Guarded t past s) (given : t.timeout direction ≠ 0)
    (free : Free direction past)
    (outside : ∀ other, ¬InTransfer direction ((moved.setPoint caller point).point other)) :
    moved.deadline direction = none := by
  rw [moves.point_eq] at outside
  by_cases method : call.method = .transfer direction
  · -- The call has ended its own transfer.
    have managed := guarded.managed moves.running given method
    have guards := moves.own managed.1 managed.2
    have left := outside caller
    rw [Function.update_self] at left
    have follows := moves.follows
    cases point with
    | idle => exact guards free
    | running later _ | panicked later =>
        cases follows
        exact absurd method left
  · rw [moves.deadline_eq method (free caller call.method (guarded.called moves.running))]
    apply guarded.clear given free
    intro other inside
    by_cases same : other = caller
    · subst same
      rw [moves.running] at inside
      exact method inside
    · have left := outside other
      rw [Function.update_of_ne same] at left
      exact left inside

end Moves

private theorem Guarded.move {moved : State Caller} {point : Point}
    (guarded : Guarded t past s)
    (moves : Moves t past s moved caller call position point) :
    Guarded t past (moved.setPoint caller point) where
  called running := moves.called guarded running
  exclusive insideFirst insideSecond := by
    rw [moves.point_eq] at insideFirst insideSecond
    exact guarded.exclusive (moves.inTransfer insideFirst) (moves.inTransfer insideSecond)
  apart inside setting := by
    rw [moves.point_eq] at inside setting
    exact guarded.apart (moves.inTransfer inside)
      (of_update moves.running moves.follows.setsDeadline setting)
  guards given _ inside := by
    rw [State.setPoint_now, State.setPoint_deadline, moves.now]
    exact moves.guards guarded given inside
  clear given free outside := by
    rw [State.setPoint_deadline]
    exact moves.clear guarded given free outside

/-! ## Steps -/

private theorem Proceeds.guarded (proceeds : Proceeds t s caller call position next events)
    (running : s.point caller = .running call position) (guarded : Guarded t past s) :
    Guarded t past next := by
  cases proceeds with
  | enter held =>
      refine guarded.move ⟨running, rfl, rfl, rfl, fun _ _ => rfl, ?_⟩
      intro direction managed guards
      rw [afterCheck, managed]
      exact guards
  | refuse missing =>
      exact guarded.move ⟨running, trivial, rfl, rfl, fun _ _ => rfl, fun _ guards => guards.2⟩
  | arm held managed =>
      refine guarded.move ⟨running, rfl, rfl, rfl, fun _ _ => rfl, ?_⟩
      intro direction managed' guards
      rw [managed] at managed'
      cases managed'
      have since := guards.1
      exact ⟨since, by omega, by omega⟩
  | forward held | clear held =>
      exact guarded.move ⟨running, rfl, rfl, rfl, fun _ _ => rfl, fun _ guards => guards⟩
  | panic missing calls =>
      exact guarded.move ⟨running, rfl, rfl, rfl, fun _ _ => rfl, fun _ _ => trivial⟩
  | dropped closed | keep failed =>
      exact guarded.move ⟨running, rfl, rfl, rfl, fun _ _ => rfl, fun _ guards => guards⟩
  | exit =>
      exact guarded.move ⟨running, trivial, rfl, rfl, fun _ _ => rfl, fun _ guards => guards.2⟩

private theorem Answers.guarded {result : Result}
    (answers : Answers t s caller call result position next events)
    (running : s.point caller = .running call position)
    (accepted : awaitsDeadlineCall (s.point caller) = true → result.err = none)
    (guarded : Guarded t past s) : Guarded t past next := by
  rw [running] at accepted
  cases answers with
  | @armed deadline direction managed =>
      refine guarded.move ⟨running, rfl, s.withDeadline_point _ _ _,
        s.withDeadline_now _ _ _, ?_, ?_⟩
      · intro other different _
        rw [managed] at different
        exact s.withDeadline_deadline_of_ne direction (some deadline) result
          fun equal => different (congrArg some equal.symm)
      · intro other managed' guards
        rw [managed] at managed'
        cases managed'
        rcases guards with ⟨since, during⟩
        exact ⟨since, deadline,
          s.withDeadline_deadline_self direction (some deadline) (accepted rfl), during⟩
  | answered =>
      refine guarded.move ⟨running, rfl, s.afterMethod_point _ _, afterMethod_now _ _, ?_, ?_⟩
      · intro other _ leaves
        exact afterMethod_deadline result leaves
      · intro direction managed guards
        rw [afterForward, managed, (manages_eq_some managed).1]
        exact guards
  | @cleared direction kept managed =>
      refine guarded.move ⟨running, rfl, s.withDeadline_point _ _ _,
        s.withDeadline_now _ _ _, ?_, ?_⟩
      · intro other different _
        rw [managed] at different
        exact s.withDeadline_deadline_of_ne direction none result
          fun equal => different (congrArg some equal.symm)
      · intro other managed' guards
        rw [managed] at managed'
        cases managed'
        exact ⟨guards.1, fun _ =>
          s.withDeadline_deadline_self direction none (accepted rfl)⟩

private theorem Guarded.entered (guarded : Guarded t past s) {method : Method}
    (idle : s.point caller = .idle) (may : MayCall s method) :
    Guarded t (past ++ [.called caller method])
      (s.setPoint caller (.running ⟨method, s.now⟩ .entry)) := by
  constructor
  case called =>
    intro other otherCall otherPosition at'
    by_cases same : other = caller
    · subst same
      rw [State.setPoint_point, Function.update_self] at at'
      cases at'
      exact List.mem_concat_self
    · rw [State.setPoint_point, Function.update_of_ne same] at at'
      exact List.mem_append_left _ (guarded.called at')
  case exclusive =>
    intro direction first second insideFirst insideSecond
    simp only [State.setPoint_point, Function.update_apply] at insideFirst insideSecond
    split_ifs at insideFirst insideSecond with firstSame secondSame secondSame
    · rw [firstSame, secondSame]
    · exact absurd insideSecond (may.alone insideFirst second).1
    · exact absurd insideFirst (may.alone insideSecond first).1
    · exact guarded.exclusive insideFirst insideSecond
  case apart =>
    intro direction first second inside setting
    simp only [State.setPoint_point, Function.update_apply] at inside setting
    split_ifs at inside setting with firstSame secondSame secondSame
    · -- The new call would both transfer and set a deadline.
      have transfer : method = .transfer direction := inside
      rw [transfer] at setting
      exact setting
    · exact (may.alone inside second).2 setting
    · exact may.outside setting first inside
    · exact guarded.apart inside setting
  case guards =>
    intro direction given other inside
    by_cases same : other = caller
    · subst same
      rw [State.setPoint_point, Function.update_self] at inside ⊢
      refine ⟨le_refl s.now, ?_⟩
      intro free
      exact guarded.clear given free.of_append fun other => (may.alone inside other).1
    · rw [State.setPoint_point, Function.update_of_ne same] at inside ⊢
      exact (guarded.guards given inside).mono le_rfl Free.of_append
  case clear =>
    intro direction given free outside
    apply guarded.clear given free.of_append
    intro other inside
    have left := outside other
    by_cases same : other = caller
    · subst same
      rw [idle] at inside
      exact inside
    · rw [State.setPoint_point, Function.update_of_ne same] at left
      exact left inside

private theorem Step.guarded (step : Step t s action next events)
    (disciplined : Disciplined s action) (guarded : Guarded t past s) :
    Guarded t (past ++ events) next := by
  cases step with
  | advance =>
      rw [List.append_nil]
      refine ⟨guarded.called, guarded.exclusive, guarded.apart, ?_, guarded.clear⟩
      intro direction given caller inside
      exact (guarded.guards given inside).mono (by simp) id
  | call idle => exact guarded.entered idle disciplined
  | proceed running proceeds => exact (proceeds.guarded running guarded).append events
  | connReturns running answers =>
      exact (answers.guarded running disciplined guarded).append events

theorem guarded [Fintype Caller] {trace : List (Event Caller)} {state : State Caller}
    (reachable : ((t.model Caller).restrict Disciplined).Reachable trace state) :
    Guarded t trace state := by
  refine (reachable.restrict_invariant (fun past current => Guarded t past current)
    guarded_initial ?_).2
  intro past current action next events _ holds disciplined step
  exact (step_inversion step).guarded disciplined holds

/-- While a read or a write with a timeout is under way, the deadline of the
connection lies one timeout after a moment since that call was made, whatever
deadlines the callers have set before. Between the transfers there is no deadline,
unless a caller has called a method that sets one. -/
theorem transfers_under_own_deadline [Fintype Caller]
    {trace : List (Event Caller)} {state : State Caller}
    (reachable : ((t.model Caller).restrict Disciplined).Reachable trace state)
    {direction : Direction} (given : t.timeout direction ≠ 0) :
    (∀ caller since, state.point caller = .running ⟨.transfer direction, since⟩ .forwarding →
      ∃ deadline, state.deadline direction = some deadline ∧
        since + (t.timeout direction).toInt ≤ deadline ∧
        deadline ≤ state.now + (t.timeout direction).toInt) ∧
    ((∀ caller method, .called caller method ∈ trace → ¬SetsDeadline direction method) →
      (∀ caller, ¬InTransfer direction (state.point caller)) →
      state.deadline direction = none) := by
  have holds := guarded reachable
  refine ⟨?_, holds.clear given⟩
  intro caller since running
  exact holds.deadline given running

def sampleConn : TimeoutConn Unit where
  conn := some ()
  readTimeout := 10000000000
  writeTimeout := 5000000000

def sampleOk : Result where
  n := 0
  err := none
  addr := none

/-- A caller sets a deadline of its own. Then a write begins while a read waits
for its data. -/
def sampleTransfers : List (Action Bool) :=
  [.call true (.setDeadline (some 30)), .proceed true, .proceed true,
    .connReturns true sampleOk, .proceed true,
    .call true (.transfer .read), .proceed true, .advance 7, .proceed true,
    .connReturns true sampleOk, .proceed true, .advance 20,
    .call false (.transfer .write), .proceed false, .proceed false,
    .connReturns false sampleOk]

theorem transfers_under_own_deadline_sample :
    ∃ trace state,
      ((sampleConn.model Bool).restrict Disciplined).Reachable trace state ∧
      state.point true = .running ⟨.transfer .read, 0⟩ .forwarding ∧
      state.now = 27 ∧
      ∃ deadline, state.deadline .read = some deadline ∧
        0 + 10000000000 ≤ deadline ∧ deadline ≤ 27 + 10000000000 := by
  have reachable := Model.reachable_of_run
    ((sampleConn.model Bool).restrict Disciplined) sampleTransfers rfl
  have given : sampleConn.timeout .read ≠ 0 := by decide
  exact ⟨_, _, reachable, rfl, rfl,
    (transfers_under_own_deadline reachable given).1 true 0 rfl⟩

/-- Of two overlapping reads, the first one clears the deadline of the second. -/
example : ((sampleConn.model Bool).run (sampleConn.model Bool).initial
    [.call true (.transfer .read), .proceed true, .proceed true,
      .connReturns true sampleOk, .proceed true, .connReturns true sampleOk,
      .call false (.transfer .read), .proceed false, .proceed false,
      .connReturns false sampleOk, .proceed false,
      .proceed true, .connReturns true sampleOk]).map
      (fun reached => (reached.1.point false, reached.1.deadline .read)) =
    some (.running ⟨.transfer .read, 0⟩ .forwarding, none) :=
  rfl

end RdsMetricCollector.PqTimeouts.TimeoutConn
