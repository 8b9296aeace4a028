import RdsMetricCollector.PqTimeouts.Direct

/-! # Passing calls on, and closing

Apart from the deadlines, a `timeoutConn` passes each call on to its connection
once and returns the answer. `Close` is the exception: once it has succeeded,
calls are refused, and a call that is under way may find the connection gone.
-/

namespace RdsMetricCollector.PqTimeouts

open RdsMetricCollector.Execution

namespace TimeoutConn

variable {Conn Caller : Type}

/-- The call as it looks without the handling of deadlines. -/
def Point.direct : Point → Direct.Point
  | .idle => .idle
  | .running call .entry | .running call .arm | .running call (.arming _)
  | .running call .forward => .called call.method
  | .running call .forwarding => .inside call.method
  | .running call (.clear result) | .running call (.clearing result)
  | .running call (.drop result) | .running call (.exit result) =>
      .answered call.method result
  | .panicked call => .failed call.method

def State.direct (s : State Caller) : Direct.State Caller where
  closed := !s.conn
  point caller := (s.point caller).direct

variable {t : TimeoutConn Conn} {s next : State Caller}
  {action : Action Caller} {events : List (Event Caller)} {caller : Caller} {call : Call}
  {position : Position}

private theorem direct_point_of_running (running : s.point caller = .running call position) :
    s.direct.point caller = (Point.running call position).direct :=
  congrArg Point.direct running

private theorem direct_withDeadline (direction : Direction) (time : Option Int) (result : Result) :
    (s.withDeadline direction time result).direct = s.direct := by
  simp [State.direct]

private theorem direct_afterMethod (method : Method) (result : Result) :
    (s.afterMethod method result).direct = s.direct := by
  simp [State.direct]

variable [DecidableEq Caller]

@[simp] theorem direct_setPoint (point : Point) :
    (s.setPoint caller point).direct = s.direct.setPoint caller point.direct := by
  simp only [State.direct, Direct.State.setPoint, State.setPoint, Direct.State.mk.injEq,
    true_and]
  funext other
  by_cases same : other = caller
  · subst same
    simp only [Function.update_self]
  · simp only [Function.update_of_ne same]

private theorem setPoint_direct_of_eq (s : State Caller) {point : Point}
    (same : point.direct = (s.point caller).direct) :
    s.direct.setPoint caller point.direct = s.direct := by
  simp only [Direct.State.setPoint, same]
  congr
  exact Function.update_eq_self caller s.direct.point

private theorem afterCheck_eq (t : TimeoutConn Conn) (method : Method) :
    t.afterCheck method = .arm ∨ t.afterCheck method = .forward := by
  unfold afterCheck
  split
  · exact .inl rfl
  · exact .inr rfl

private theorem direct_afterCheck :
    (Point.running call (t.afterCheck call.method)).direct = .called call.method := by
  rcases t.afterCheck_eq call.method with arms | forwards
  · rw [arms]
    rfl
  · rw [forwards]
    rfl

private theorem direct_afterForward (result : Result) :
    (Point.running call (t.afterForward call.method result)).direct =
      .answered call.method result := by
  unfold afterForward
  split_ifs <;> rfl

private theorem direct_of_calls {position : Position} (calls : position.calls = true) :
    (Point.running call position).direct = .called call.method ∨
      ∃ result, (Point.running call position).direct = .answered call.method result := by
  cases position with
  | arm | forward => exact .inl rfl
  | clear result => exact .inr ⟨result, rfl⟩
  | entry | arming deadline | forwarding | clearing result | drop result | exit result =>
      cases calls

/-- Only `Close` gives up the connection. -/
def DropsInClose (s : State Caller) : Prop :=
  ∀ {caller call result}, s.point caller = .running call (.drop result) →
    call.method = .close

private theorem DropsInClose.setPoint (drops : DropsInClose s) {moved : State Caller}
    (points : moved.point = s.point) {point : Point}
    (closes : ∀ {later result}, point = .running later (.drop result) →
      later.method = .close) :
    DropsInClose (moved.setPoint caller point) := by
  intro other later result running
  by_cases same : other = caller
  · subst same
    rw [State.setPoint_point, Function.update_self] at running
    exact closes running
  · rw [State.setPoint_point, Function.update_of_ne same, points] at running
    exact drops running

private theorem method_of_afterForward {method : Method} {result kept : Result}
    (drops : t.afterForward method result = .drop kept) : method = .close := by
  unfold afterForward at drops
  split_ifs at drops with managed closes
  exact closes

private theorem Step.dropsInClose (step : Step t s action next events) (drops : DropsInClose s) :
    DropsInClose next := by
  cases step with
  | advance => exact drops
  | call idle =>
      apply drops.setPoint rfl
      intro later result equal
      cases equal
  | @proceed caller call position _ _ running proceeds =>
      cases proceeds with
      | enter held =>
          apply drops.setPoint rfl
          intro later result equal
          rcases t.afterCheck_eq call.method with arms | forwards
          · rw [arms] at equal
            cases equal
          · rw [forwards] at equal
            cases equal
      | refuse | arm | forward | clear | panic | dropped | keep | exit =>
          apply drops.setPoint rfl
          intro later result equal
          cases equal
  | @connReturns caller call position answer _ _ running answers =>
      cases answers with
      | armed | cleared =>
          apply drops.setPoint (by simp)
          intro later result equal
          cases equal
      | answered =>
          apply drops.setPoint (by simp)
          intro later result equal
          simp only [Point.running.injEq] at equal
          rcases equal with ⟨rfl, position⟩
          exact method_of_afterForward position

private theorem dropsInClose {trace : List (Event Caller)}
    (reachable : (t.model Caller).Reachable trace s) : DropsInClose s := by
  apply reachable.invariant fun _ current => DropsInClose current
  · intro caller call result running
    cases running
  · intro past current action next events _ drops step
    exact (step_inversion step).dropsInClose drops

/-- One step of the wrapper is at most one step of the direct use. -/
def Matches (s next : State Caller) (events : List (Event Caller)) : Prop :=
  (next.direct = s.direct ∧ events = []) ∨
    ∃ action, Direct.step s.direct action = some (next.direct, events)

private theorem matches_setPoint {moved : State Caller} {point : Point}
    (deadlines : moved.direct = s.direct)
    (same : point.direct = (s.point caller).direct) :
    Matches s (moved.setPoint caller point) [] := by
  refine .inl ⟨?_, rfl⟩
  rw [direct_setPoint, deadlines]
  exact setPoint_direct_of_eq s same

private theorem Proceeds.matches (proceeds : Proceeds t s caller call position next events)
    (running : s.point caller = .running call position) (drops : DropsInClose s) :
    Matches s next events := by
  have point := direct_point_of_running running
  cases proceeds with
  | enter held =>
      apply matches_setPoint rfl
      rw [direct_afterCheck, running]
      rfl
  | arm held managed | clear held | keep failed =>
      apply matches_setPoint rfl
      rw [running]
      rfl
  | refuse missing =>
      have closed : s.direct.closed = true := by simp [State.direct, missing]
      refine .inr ⟨.refuse caller, ?_⟩
      simp [Direct.step, point, closed, Point.direct]
  | forward held =>
      have opened : s.direct.closed = false := by simp [State.direct, held]
      refine .inr ⟨.start caller, ?_⟩
      simp [Direct.step, point, opened, Point.direct]
  | panic missing calls =>
      have closed : s.direct.closed = true := by simp [State.direct, missing]
      refine .inr ⟨.fail caller, ?_⟩
      rcases @direct_of_calls call position calls with called | ⟨result, answered⟩
      · rw [called] at point
        simp [Direct.step, point, closed, Point.direct]
      · rw [answered] at point
        simp [Direct.step, point, closed, Point.direct]
  | dropped closed =>
      have method := drops running
      rw [Point.direct, method] at point
      refine .inr ⟨.markClosed caller, ?_⟩
      rw [direct_setPoint, setPoint_direct_of_eq { s with conn := false }]
      swap
      · rw [running]
        rfl
      simp only [Direct.step, point, if_pos closed]
      rfl
  | exit =>
      refine .inr ⟨.return caller, ?_⟩
      simp [Direct.step, point, Point.direct]

private theorem Answers.matches {result : Result}
    (answers : Answers t s caller call result position next events)
    (running : s.point caller = .running call position) : Matches s next events := by
  have point := direct_point_of_running running
  cases answers with
  | armed managed | cleared managed =>
      apply matches_setPoint (direct_withDeadline _ _ _)
      rw [running]
      rfl
  | answered =>
      refine .inr ⟨.answer caller result, ?_⟩
      rw [direct_setPoint, direct_afterMethod, direct_afterForward]
      simp [Direct.step, point, Point.direct]

private theorem Step.matches (step : Step t s action next events) (drops : DropsInClose s) :
    Matches s next events := by
  cases step with
  | advance => exact .inl ⟨rfl, rfl⟩
  | @call caller method idle =>
      have point : s.direct.point caller = .idle := congrArg Point.direct idle
      refine .inr ⟨.call caller method, ?_⟩
      simp [Direct.step, point, Point.direct]
  | proceed running proceeds => exact proceeds.matches running drops
  | connReturns running answers => exact answers.matches running

def sampleAnswer : Result where
  n := 3
  err := none
  addr := none

def sampleWrapper : TimeoutConn Unit where
  conn := some ()
  readTimeout := 10000000000
  writeTimeout := 0

/-- A write, a `Close`, and a write after it. -/
def sampleCalls : List (Action Bool) :=
  [.call true (.transfer .write), .proceed true, .proceed true,
    .connReturns true sampleAnswer, .proceed true,
    .call false .close, .proceed false, .proceed false,
    .connReturns false sampleAnswer, .proceed false, .proceed false,
    .call true (.transfer .write), .proceed true]

section Exclusive

variable {Caller : Type} {s : State Caller} {caller : Caller} {call : Call}
  {position : Position}

def InClose : Point → Prop
  | .running call _ => call.method = .close
  | .idle | .panicked _ => False

instance (point : Point) : Decidable (InClose point) :=
  match point with
  | .running _ _ => inferInstanceAs (Decidable (_ = _))
  | .idle | .panicked _ => .isFalse id

/-- `Close` is called while no other method is running, and no method is called
while it is running. -/
def ClosesAlone (s : State Caller) : Action Caller → Prop
  | .call _ method =>
      (method = .close → ∀ other, s.point other = .idle) ∧
        ∀ other, ¬InClose (s.point other)
  | .advance _ | .proceed _ | .connReturns _ _ => True

instance [Fintype Caller] (s : State Caller) (action : Action Caller) :
    Decidable (ClosesAlone s action) :=
  match action with
  | .call _ _ => inferInstanceAs (Decidable (_ ∧ _))
  | .advance _ | .proceed _ | .connReturns _ _ => .isTrue trivial

/-- The positions at which a call no longer needs the connection, or does not
yet. -/
def Position.Outside : Position → Prop
  | .entry | .exit _ => True
  | .arm | .arming _ | .forward | .forwarding | .clear _ | .clearing _ | .drop _ => False

structure Exclusive (s : State Caller) : Prop where
  intact : ∀ caller call, s.point caller ≠ .panicked call
  alone : ∀ {caller call position}, s.point caller = .running call position →
    call.method = .close → ∀ other, other ≠ caller → s.point other = .idle
  outside : s.conn = false → ∀ {caller call position},
    s.point caller = .running call position → position.Outside

private theorem Exclusive.held (exclusive : Exclusive s)
    (running : s.point caller = .running call position) (inside : ¬position.Outside) :
    s.conn ≠ false :=
  fun gone => inside (exclusive.outside gone running)

end Exclusive

/-- A call goes on, or ends. -/
theorem Exclusive.move (exclusive : Exclusive s)
    (running : s.point caller = .running call position) {moved : State Caller}
    {point : Point} (points : moved.point = s.point)
    (continues : point = .idle ∨ ∃ later, point = .running call later)
    (conn : moved.conn = false → ∀ {later}, point = .running call later → later.Outside)
    (others : moved.conn = false → s.conn = false ∨ call.method = .close) :
    Exclusive (moved.setPoint caller point) := by
  constructor
  case intact =>
    intro other otherCall panicked
    by_cases same : other = caller
    · subst same
      rw [State.setPoint_point, Function.update_self] at panicked
      rw [panicked] at continues
      simp at continues
    · rw [State.setPoint_point, Function.update_of_ne same, points] at panicked
      exact exclusive.intact other otherCall panicked
  case alone =>
    intro first firstCall firstPosition firstRunning closes other different
    rw [State.setPoint_point, points] at firstRunning ⊢
    by_cases same : first = caller
    · subst same
      rw [Function.update_self] at firstRunning
      rw [Function.update_of_ne different]
      rw [firstRunning] at continues
      rcases continues with idle | ⟨later, continued⟩
      · cases idle
      · cases continued
        exact exclusive.alone running closes other different
    · rw [Function.update_of_ne same] at firstRunning
      have idle := exclusive.alone firstRunning closes caller (Ne.symm same)
      rw [running] at idle
      cases idle
  case outside =>
    intro gone other otherCall otherPosition otherRunning
    rw [State.setPoint_conn] at gone
    by_cases same : other = caller
    · subst same
      rw [State.setPoint_point, Function.update_self] at otherRunning
      rcases continues with idle | ⟨later, continued⟩
      · rw [idle] at otherRunning
        cases otherRunning
      · rw [continued] at otherRunning
        cases otherRunning
        exact conn gone continued
    · rw [State.setPoint_point, Function.update_of_ne same, points] at otherRunning
      rcases others gone with before | closes
      · exact exclusive.outside before otherRunning
      · rw [exclusive.alone running closes other same] at otherRunning
        cases otherRunning

private theorem Position.not_outside_of_calls {position : Position}
    (calls : position.calls = true) : ¬position.Outside := by
  cases position with
  | arm | forward | clear result => exact id
  | entry | arming deadline | forwarding | clearing result | drop result | exit result =>
      cases calls

private theorem Proceeds.exclusive (proceeds : Proceeds t s caller call position next events)
    (running : s.point caller = .running call position) (drops : DropsInClose s)
    (exclusive : Exclusive s) : Exclusive next := by
  cases proceeds with
  | enter held | arm held managed | forward held | clear held =>
      refine exclusive.move running rfl (.inr ⟨_, rfl⟩) ?_ ?_
      · intro gone
        rw [held] at gone
        contradiction
      · exact .inl
  | refuse missing | exit =>
      exact exclusive.move running rfl (.inl rfl) nofun .inl
  | panic missing calls =>
      exact absurd missing (exclusive.held running (Position.not_outside_of_calls calls))
  | dropped closed | keep failed =>
      refine exclusive.move running rfl (.inr ⟨_, rfl⟩) ?_ fun _ => .inr (drops running)
      intro _ later equal
      cases equal
      exact trivial

private theorem Answers.exclusive {result : Result}
    (answers : Answers t s caller call result position next events)
    (running : s.point caller = .running call position) (exclusive : Exclusive s) :
    Exclusive next := by
  cases answers with
  | armed managed | answered | cleared managed =>
      have held := exclusive.held running id
      refine exclusive.move running (by simp) (.inr ⟨_, rfl⟩) ?_ ?_
      · intro gone
        simp only [State.withDeadline_conn, State.afterMethod_conn] at gone
        exact absurd gone held
      · intro gone
        simp only [State.withDeadline_conn, State.afterMethod_conn] at gone
        exact .inl gone

private theorem Exclusive.entered (exclusive : Exclusive s) {method : Method}
    (idle : s.point caller = .idle)
    (closing : method = .close → ∀ other, s.point other = .idle)
    (free : ∀ other, ¬InClose (s.point other)) :
    Exclusive (s.setPoint caller (.running ⟨method, s.now⟩ .entry)) := by
  constructor
  case intact =>
    intro other otherCall panicked
    by_cases same : other = caller
    · subst same
      rw [State.setPoint_point, Function.update_self] at panicked
      cases panicked
    · rw [State.setPoint_point, Function.update_of_ne same] at panicked
      exact exclusive.intact other otherCall panicked
  case alone =>
    intro first firstCall firstPosition firstRunning closes other different
    rw [State.setPoint_point] at firstRunning ⊢
    by_cases same : first = caller
    · subst same
      rw [Function.update_self] at firstRunning
      cases firstRunning
      rw [Function.update_of_ne different]
      exact closing closes other
    · rw [Function.update_of_ne same] at firstRunning
      have inClose : InClose (s.point first) := by
        rw [firstRunning]
        exact closes
      exact absurd inClose (free first)
  case outside =>
    intro gone other otherCall otherPosition otherRunning
    by_cases same : other = caller
    · subst same
      rw [State.setPoint_point, Function.update_self] at otherRunning
      cases otherRunning
      exact trivial
    · rw [State.setPoint_point, Function.update_of_ne same] at otherRunning
      exact exclusive.outside gone otherRunning

private theorem Step.exclusive (step : Step t s action next events)
    (condition : ClosesAlone s action) (drops : DropsInClose s)
    (exclusive : Exclusive s) : Exclusive next := by
  cases step with
  | advance => exact ⟨exclusive.intact, exclusive.alone, exclusive.outside⟩
  | call idle => exact exclusive.entered idle condition.1 condition.2
  | proceed running proceeds => exact proceeds.exclusive running drops exclusive
  | connReturns running answers => exact answers.exclusive running exclusive

private theorem exclusive_initial : Exclusive (t.model Caller).initial where
  intact _ _ panicked := by cases panicked
  alone running := by cases running
  outside _ := by
    intro caller call position running
    cases running

private theorem Step.panicked (step : Step t s action next events)
    (member : .panicked caller ∈ events) : ∃ call, next.point caller = .panicked call := by
  cases step with
  | advance | call => simp at member
  | proceed running proceeds =>
      cases proceeds with
      | panic missing calls =>
          cases List.mem_singleton.mp member
          exact ⟨_, Function.update_self _ _ _⟩
      | enter | refuse | arm | forward | clear | dropped | keep | exit => simp at member
  | connReturns running answers =>
      cases answers with
      | armed | answered | cleared => simp at member

/-- A connection whose `Close` does not overlap with other calls is never used
after it is gone, however the other calls overlap. -/
theorem never_panics [Fintype Caller] (t : TimeoutConn Conn) {trace : List (Event Caller)}
    {state : State Caller}
    (reachable : ((t.model Caller).restrict ClosesAlone).Reachable trace state) :
    (∀ caller, .panicked caller ∉ trace) ∧
    ∀ caller call, state.point caller ≠ .panicked call := by
  have holds : (∀ caller, .panicked caller ∉ trace) ∧ Exclusive state := by
    refine (reachable.restrict_invariant
      (fun past current => (∀ caller, .panicked caller ∉ past) ∧ Exclusive current)
      ⟨fun _ => List.not_mem_nil, exclusive_initial⟩ ?_).2
    intro past current action next events before holds condition step
    have stepped := step_inversion step
    have exclusive := stepped.exclusive condition (dropsInClose before) holds.2
    refine ⟨?_, exclusive⟩
    intro caller member
    rcases List.mem_append.mp member with member | member
    · exact holds.1 caller member
    · rcases stepped.panicked member with ⟨call, panicked⟩
      exact exclusive.intact caller call panicked
  exact ⟨holds.1, holds.2.intact⟩

theorem never_panics_sample :
    ∃ trace state, ((sampleWrapper.model Bool).restrict ClosesAlone).Reachable trace state ∧
      Direct.GivenUp trace ∧ ∀ caller, .panicked caller ∉ trace := by
  have reachable := Model.reachable_of_run
    ((sampleWrapper.model Bool).restrict ClosesAlone) sampleCalls rfl
  exact ⟨_, _, reachable, ⟨false, by decide⟩, (never_panics sampleWrapper reachable).1⟩

/-- A `Close` during a read makes the read panic when it clears its deadline. -/
example : ((sampleWrapper.model Bool).run (sampleWrapper.model Bool).initial
    [.call true (.transfer .read), .proceed true, .proceed true,
      .connReturns true sampleAnswer, .proceed true,
      .call false .close, .proceed false, .proceed false,
      .connReturns false sampleAnswer, .proceed false,
      .connReturns true sampleAnswer, .proceed true]).map
      (fun reached => reached.1.point true) =
    some (.panicked ⟨.transfer .read, 0⟩) :=
  rfl

end TimeoutConn

end RdsMetricCollector.PqTimeouts
