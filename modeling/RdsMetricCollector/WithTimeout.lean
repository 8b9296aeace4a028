import RdsMetricCollector.Foundation.Execution
import RdsMetricCollector.Foundation.Runtime

/-! # Calls with a timeout

`utils.WithTimeout` runs a payload in a goroutine of its own and waits for it or
for a timer. Every statement that touches what the two goroutines share is a step.
The variable `timeoutHappened` is read and written without synchronisation; its
accesses are taken in some order, each seeing the last write before it.
-/

namespace RdsMetricCollector.Utils

open RdsMetricCollector.Execution
open RdsMetricCollector.Runtime

/-- Where the goroutine of the payload is. -/
inductive PayloadPoint
  | running
  | checking
  | sending
  | finished
  | panicked
  deriving DecidableEq, Repr

/-- Where the caller is. It closes the channel and stops the timer on its way out. -/
inductive CallerPoint
  | starting
  | selecting
  | timedOut
  | stopping (result : Bool)
  | closing (result : Bool)
  | returned (result : Bool)
  deriving DecidableEq, Repr

inductive Event
  | payloadReturned
  | sent
  | panicked
  | timerFired
  | returned (result : Bool)
  deriving DecidableEq, Repr

inductive Action
  | payloadReturns
  | check
  | send
  | startTimer
  | timerFires
  | receive
  | receiveTick
  | setTimeoutHappened
  | stopTimer
  | closeChannel
  deriving DecidableEq, Repr

structure State where
  payload : PayloadPoint
  caller : CallerPoint
  ch : Channel Bool 1
  closed : Bool
  timer : Timer
  timeoutHappened : Bool

def State.initial : State where
  payload := .running
  caller := .starting
  ch := .make Bool 1
  closed := false
  timer := .stopped
  timeoutHappened := false

/-- Stopping a timer leaves a tick that was sent before. -/
def stopTimer (timer : Timer) : Timer :=
  { timer with armed := none }

/-- The send of the payload's goroutine, which panics on a closed channel. -/
def sendTrue (s : State) : Option (State × List Event) :=
  if s.closed then
    some ({ s with payload := .panicked }, [.panicked])
  else
    (s.ch.send true).map fun ch => ({ s with payload := .finished, ch }, [.sent])

def perform (timeout : Int64) (s : State) : Action → Option (State × List Event)
  | .payloadReturns =>
      if s.payload = .running then
        some ({ s with payload := .checking }, [.payloadReturned])
      else none
  | .check =>
      if s.payload = .checking then
        some ({ s with payload := if s.timeoutHappened then .finished else .sending }, [])
      else none
  | .send => if s.payload = .sending then sendTrue s else none
  | .startTimer =>
      if s.caller = .starting then
        some ({ s with caller := .selecting, timer := .newTimer timeout }, [])
      else none
  | .timerFires => s.timer.fire.map fun timer => ({ s with timer }, [.timerFired])
  | .receive =>
      if s.caller = .selecting then
        s.ch.receive.map fun received =>
          ({ s with caller := .stopping false, ch := received.2 }, [])
      else none
  | .receiveTick =>
      if s.caller = .selecting then
        s.timer.receive.map fun timer => ({ s with caller := .timedOut, timer }, [])
      else none
  | .setTimeoutHappened =>
      if s.caller = .timedOut then
        some ({ s with caller := .stopping true, timeoutHappened := true }, [])
      else none
  | .stopTimer =>
      match s.caller with
      | .stopping result =>
          some ({ s with caller := .closing result, timer := stopTimer s.timer }, [])
      | _ => none
  | .closeChannel =>
      match s.caller with
      | .closing result =>
          some ({ s with caller := .returned result, closed := true }, [.returned result])
      | _ => none

/-- A panic ends the program, and with it both goroutines. -/
def step (timeout : Int64) (s : State) (action : Action) : Option (State × List Event) :=
  if s.payload = .panicked then none else perform timeout s action

def model (timeout : Int64) : Model State Action Event where
  initial := .initial
  step := step timeout

/-! ## Steps -/

inductive Step (timeout : Int64) (s : State) : Action → State → List Event → Prop
  | payloadReturns (payload : s.payload = .running) :
      Step timeout s .payloadReturns { s with payload := .checking } [.payloadReturned]
  | skipSend (payload : s.payload = .checking) (happened : s.timeoutHappened = true) :
      Step timeout s .check { s with payload := .finished } []
  | decideSend (payload : s.payload = .checking) (happened : s.timeoutHappened = false) :
      Step timeout s .check { s with payload := .sending } []
  | sendPanics (payload : s.payload = .sending) (closed : s.closed = true) :
      Step timeout s .send { s with payload := .panicked } [.panicked]
  | send (ch : Channel Bool 1) (payload : s.payload = .sending) (closed : s.closed = false)
      (sent : s.ch.send true = some ch) :
      Step timeout s .send { s with payload := .finished, ch } [.sent]
  | startTimer (caller : s.caller = .starting) :
      Step timeout s .startTimer
        { s with caller := .selecting, timer := .newTimer timeout } []
  | timerFires (timer : Timer) (fired : s.timer.fire = some timer) :
      Step timeout s .timerFires { s with timer } [.timerFired]
  | receive (value : Bool) (ch : Channel Bool 1) (caller : s.caller = .selecting)
      (received : s.ch.receive = some (value, ch)) :
      Step timeout s .receive { s with caller := .stopping false, ch } []
  | receiveTick (timer : Timer) (caller : s.caller = .selecting)
      (received : s.timer.receive = some timer) :
      Step timeout s .receiveTick { s with caller := .timedOut, timer } []
  | setTimeoutHappened (caller : s.caller = .timedOut) :
      Step timeout s .setTimeoutHappened
        { s with caller := .stopping true, timeoutHappened := true } []
  | stopTimer (result : Bool) (caller : s.caller = .stopping result) :
      Step timeout s .stopTimer
        { s with caller := .closing result, timer := stopTimer s.timer } []
  | closeChannel (result : Bool) (caller : s.caller = .closing result) :
      Step timeout s .closeChannel
        { s with caller := .returned result, closed := true } [.returned result]

variable {timeout : Int64} {s next : State} {action : Action} {events : List Event}

private theorem step_inversion (stepped : (model timeout).step s action = some (next, events)) :
    Step timeout s action next events ∧ s.payload ≠ .panicked := by
  simp only [model, step] at stepped
  split_ifs at stepped with running
  refine ⟨?_, running⟩
  cases action with
  | payloadReturns =>
      simp only [perform] at stepped
      split_ifs at stepped with payload
      cases stepped
      exact .payloadReturns payload
  | check =>
      simp only [perform] at stepped
      split_ifs at stepped with payload happened
      · cases stepped
        exact .skipSend payload happened
      · cases stepped
        exact .decideSend payload (Bool.eq_false_of_not_eq_true happened)
  | send =>
      simp only [perform, sendTrue] at stepped
      split_ifs at stepped with payload closed
      · cases stepped
        exact .sendPanics payload closed
      · rcases Option.map_eq_some_iff.mp stepped with ⟨ch, sent, equal⟩
        cases equal
        exact .send ch payload (Bool.eq_false_of_not_eq_true closed) sent
  | startTimer =>
      simp only [perform] at stepped
      split_ifs at stepped with caller
      cases stepped
      exact .startTimer caller
  | timerFires =>
      rcases Option.map_eq_some_iff.mp stepped with ⟨timer, fired, equal⟩
      cases equal
      exact .timerFires timer fired
  | receive =>
      simp only [perform] at stepped
      split_ifs at stepped with caller
      rcases Option.map_eq_some_iff.mp stepped with ⟨received, from_, equal⟩
      cases equal
      exact .receive received.1 received.2 caller from_
  | receiveTick =>
      simp only [perform] at stepped
      split_ifs at stepped with caller
      rcases Option.map_eq_some_iff.mp stepped with ⟨timer, received, equal⟩
      cases equal
      exact .receiveTick timer caller received
  | setTimeoutHappened =>
      simp only [perform] at stepped
      split_ifs at stepped with caller
      cases stepped
      exact .setTimeoutHappened caller
  | stopTimer =>
      simp only [perform] at stepped
      split at stepped
      · cases stepped
        exact .stopTimer _ ‹_›
      · cases stepped
  | closeChannel =>
      simp only [perform] at stepped
      split at stepped
      · cases stepped
        exact .closeChannel _ ‹_›
      · cases stepped

private theorem Step.step_eq (taken : Step timeout s action next events)
    (running : s.payload ≠ .panicked) :
    (model timeout).step s action = some (next, events) := by
  simp only [model, step, if_neg running]
  cases taken with
  | payloadReturns payload => simp [perform, payload]
  | skipSend payload happened => simp [perform, payload, happened]
  | decideSend payload happened => simp [perform, payload, happened]
  | sendPanics payload closed => simp [perform, payload, sendTrue, closed]
  | send ch payload closed sent => simp [perform, payload, sendTrue, closed, sent]
  | startTimer caller => simp [perform, caller]
  | timerFires timer fired => simp [perform, fired]
  | receive value ch caller received => simp [perform, caller, received]
  | receiveTick timer caller received => simp [perform, caller, received]
  | setTimeoutHappened caller => simp [perform, caller]
  | stopTimer result caller => simp [perform, caller]
  | closeChannel result caller => simp [perform, caller]

/-! ## What a run has done -/

/-- The result that the caller is about to return or has returned. -/
def CallerPoint.result : CallerPoint → Option Bool
  | .starting | .selecting => none
  | .timedOut => some true
  | .stopping result | .closing result | .returned result => some result

/-- What the goroutine of the payload has done. -/
structure PayloadAccount (past : List Event) (s : State) : Prop where
  returned : s.payload ≠ .running → .payloadReturned ∈ past
  sent : .sent ∈ past → s.payload = .finished
  buffered : s.ch.buffer ≠ [] → .sent ∈ past
  panicked : .panicked ∈ past ↔ s.payload = .panicked

private theorem Step.payloadAccount {past : List Event} (taken : Step timeout s action next events)
    (running : s.payload ≠ .panicked) (account : PayloadAccount past s) :
    PayloadAccount (past ++ events) next := by
  rcases account with ⟨returned, sent, buffered, panicked⟩
  have unpanicked : .panicked ∉ past := fun member => running (panicked.mp member)
  have unsent : s.payload ≠ .finished → .sent ∉ past := fun other member =>
    other (sent member)
  cases taken with
  | payloadReturns payload =>
      have unsent := unsent (by simp [payload])
      exact ⟨by simp, by simp [unsent], by simpa using buffered, by simp [unpanicked]⟩
  | skipSend payload | decideSend payload =>
      have unsent := unsent (by simp [payload])
      have returned := returned (by simp [payload])
      exact ⟨by simp [returned], by simp [unsent], by simpa using buffered,
        by simp [unpanicked]⟩
  | sendPanics payload =>
      have unsent := unsent (by simp [payload])
      have returned := returned (by simp [payload])
      exact ⟨by simp [returned], by simp [unsent], by simpa using buffered, by simp⟩
  | send ch payload _ _ =>
      have returned := returned (by simp [payload])
      exact ⟨by simp [returned], by simp, by simp, by simp [unpanicked]⟩
  | receive value ch caller received =>
      have nonempty := Channel.ne_nil_of_receive received
      exact ⟨by simpa using returned, by simpa using sent,
        by simp [buffered nonempty], by simpa using panicked⟩
  | timerFires | startTimer | receiveTick | setTimeoutHappened | stopTimer | closeChannel =>
      exact ⟨by simpa using returned, by simpa using sent, by simpa using buffered,
        by simpa using panicked⟩

/-- What the caller has done, and its timer. -/
structure CallerAccount (past : List Event) (s : State) : Prop where
  received : s.caller.result = some false → .sent ∈ past
  timedOut : s.caller.result = some true → .timerFired ∈ past
  ticked : s.timer.tick = true → .timerFired ∈ past
  live : s.caller = .selecting → s.timer.Live
  closed : s.closed = true → ∃ result, s.caller = .returned result
  returned : ∀ result, .returned result ∈ past ↔ s.caller = .returned result

private theorem CallerAccount.frame {past : List Event} (account : CallerAccount past s)
    (caller : next.caller = s.caller) (timer : next.timer = s.timer)
    (closed : next.closed = s.closed) (silent : ∀ result, .returned result ∉ events) :
    CallerAccount (past ++ events) next := by
  rcases account with ⟨received, timedOut, ticked, live, closes, returned⟩
  constructor
  · intro result
    rw [caller] at result
    exact List.mem_append_left _ (received result)
  · intro result
    rw [caller] at result
    exact List.mem_append_left _ (timedOut result)
  · intro tick
    rw [timer] at tick
    exact List.mem_append_left _ (ticked tick)
  · rw [caller, timer]
    exact live
  · rw [caller, closed]
    exact closes
  · intro result
    rw [caller, List.mem_append, returned]
    simp [silent]

/-- A caller that goes on to a point before its return. -/
theorem CallerAccount.advance {past : List Event} (account : CallerAccount past s)
    (before : ∀ result, s.caller ≠ .returned result)
    (after : ∀ result, next.caller ≠ .returned result) (closed : next.closed = s.closed)
    (received : next.caller.result = some false → .sent ∈ past)
    (timedOut : next.caller.result = some true → .timerFired ∈ past)
    (ticked : next.timer.tick = true → .timerFired ∈ past)
    (live : next.caller = .selecting → next.timer.Live) :
    CallerAccount (past ++ []) next := by
  rw [List.append_nil]
  refine ⟨received, timedOut, ticked, live, ?_, ?_⟩
  · intro isClosed
    rw [closed] at isClosed
    rcases account.closed isClosed with ⟨result, returned⟩
    exact absurd returned (before result)
  · intro result
    rw [account.returned]
    exact iff_of_false (before result) (after result)

private theorem Step.callerAccount {past : List Event} (taken : Step timeout s action next events)
    (payload : PayloadAccount past s) (account : CallerAccount past s) :
    CallerAccount (past ++ events) next := by
  cases taken with
  | payloadReturns | skipSend | decideSend | sendPanics | send =>
      exact account.frame rfl rfl rfl (by simp)
  | startTimer caller =>
      refine account.advance (by simp [caller]) (by simp) rfl ?_ ?_ ?_ ?_
      · simp [CallerPoint.result]
      · simp [CallerPoint.result]
      · simp [Timer.newTimer]
      · intro _
        exact Timer.live_newTimer timeout
  | timerFires timer fired =>
      refine ⟨?_, by simp, by simp, fun _ => Timer.live_of_fire fired, account.closed, ?_⟩
      · intro result
        exact List.mem_append_left _ (account.received result)
      · intro result
        simpa using account.returned result
  | receive value ch caller received =>
      have nonempty := Channel.ne_nil_of_receive received
      refine account.advance (by simp [caller]) (by simp) rfl ?_ ?_ ?_ ?_
      · intro _
        exact payload.buffered nonempty
      · simp [CallerPoint.result]
      · exact account.ticked
      · simp
  | receiveTick timer caller received =>
      unfold Timer.receive at received
      split_ifs at received with tick
      cases received
      refine account.advance (by simp [caller]) (by simp) rfl ?_ ?_ ?_ ?_
      · simp [CallerPoint.result]
      · intro _
        exact account.ticked tick
      · simp
      · simp
  | setTimeoutHappened caller =>
      have timedOut := account.timedOut (by rw [caller]; rfl)
      refine account.advance (by simp [caller]) (by simp) rfl ?_ ?_ ?_ ?_
      · simp [CallerPoint.result]
      · intro _
        exact timedOut
      · exact account.ticked
      · simp
  | stopTimer result caller =>
      have received := account.received
      have timedOut := account.timedOut
      rw [caller] at received timedOut
      exact account.advance (by simp [caller]) (by simp) rfl received timedOut
        account.ticked (by simp)
  | closeChannel result caller =>
      have received := account.received
      have timedOut := account.timedOut
      rw [caller] at received timedOut
      refine ⟨?_, ?_, ?_, by simp, fun _ => ⟨result, rfl⟩, ?_⟩
      · intro isResult
        exact List.mem_append_left _ (received isResult)
      · intro isResult
        exact List.mem_append_left _ (timedOut isResult)
      · intro tick
        exact List.mem_append_left _ (account.ticked tick)
      · intro other
        simp [account.returned, caller, eq_comm]

/-- The caller has noted the timeout. -/
def CallerPoint.Noted : CallerPoint → Prop
  | .stopping result | .closing result | .returned result => result = true
  | .starting | .selecting | .timedOut => False

private theorem Step.noted (taken : Step timeout s action next events)
    (noted : s.caller.Noted → s.timeoutHappened = true) :
    next.caller.Noted → next.timeoutHappened = true := by
  cases taken with
  | payloadReturns | skipSend | decideSend | sendPanics | send | timerFires => exact noted
  | startTimer | receive | receiveTick =>
      intro isNoted
      cases isNoted
  | setTimeoutHappened => exact fun _ => rfl
  | stopTimer result caller | closeChannel result caller =>
      rw [caller] at noted
      exact noted

/-- What is known of the run so far. A goroutine that decided to send before the
caller returned has its payload's return before that of the caller. -/
structure Account (past : List Event) (s : State) : Prop where
  payload : PayloadAccount past s
  caller : CallerAccount past s
  noted : s.caller.Noted → s.timeoutHappened = true
  window : s.payload = .sending → ∀ result, s.caller = .returned result →
    List.Sublist [.payloadReturned, .returned result] past
  late : s.payload = .panicked → List.Sublist [.payloadReturned, .returned true, .panicked] past

private theorem account_initial : Account [] State.initial where
  payload := by constructor <;> simp [State.initial]
  caller := by constructor <;> simp [State.initial, CallerPoint.result, Timer.stopped]
  noted := by simp [State.initial, CallerPoint.Noted]
  window := by simp [State.initial]
  late := by simp [State.initial]

/-- A caller that returned while the goroutine has nothing to send yet, or will not
send, has noted the timeout. -/
theorem Account.noted_of_returned {past : List Event} (account : Account past s)
    (unfinished : s.payload ≠ .finished) {result : Bool}
    (returned : s.caller = .returned result) : result = true := by
  cases result with
  | true => rfl
  | false =>
      have sent := account.caller.received (by rw [returned]; rfl)
      exact absurd (account.payload.sent sent) unfinished

private theorem Step.window {past : List Event} (taken : Step timeout s action next events)
    (account : Account past s) (sending : next.payload = .sending) {result : Bool}
    (returned : next.caller = .returned result) :
    List.Sublist [.payloadReturned, .returned result] (past ++ events) := by
  cases taken with
  | payloadReturns | skipSend | sendPanics | send => cases sending
  | startTimer | receive | receiveTick | setTimeoutHappened | stopTimer => cases returned
  | decideSend checking happened =>
      -- the timeout was noted before this goroutine looked
      have unfinished : s.payload ≠ .finished := by simp [checking]
      have isTrue := account.noted_of_returned unfinished returned
      have noted := account.noted (by rw [returned]; exact isTrue)
      rw [happened] at noted
      cases noted
  | timerFires => exact (account.window sending result returned).trans (by simp)
  | closeChannel result =>
      cases returned
      have before := account.payload.returned (by simp [show s.payload = .sending from sending])
      exact (List.singleton_sublist.mpr before).append (List.Sublist.refl _)

private theorem Step.account {past : List Event} (taken : Step timeout s action next events)
    (running : s.payload ≠ .panicked) (account : Account past s) :
    Account (past ++ events) next := by
  refine ⟨taken.payloadAccount running account.payload,
    taken.callerAccount account.payload account.caller, taken.noted account.noted, ?_, ?_⟩
  · intro sending result returned
    exact taken.window account sending returned
  · intro panicked
    cases taken with
    | sendPanics sending closed =>
        rcases account.caller.closed closed with ⟨result, returned⟩
        have isTrue := account.noted_of_returned (by simp [sending]) returned
        subst isTrue
        exact (account.window sending true returned).append (List.Sublist.refl [Event.panicked])
    | payloadReturns | skipSend | decideSend | send => cases panicked
    | startTimer | timerFires | receive | receiveTick | setTimeoutHappened | stopTimer
    | closeChannel => exact absurd panicked running

private theorem account {trace : List Event} (reachable : (model timeout).Reachable trace s) :
    Account trace s := by
  apply reachable.invariant Account account_initial
  intro past current action next events _ holds stepped
  rcases step_inversion stepped with ⟨taken, running⟩
  exact taken.account running holds

/-! ## Returning without the payload -/

/-- The payload ends just before the timeout is noted and sends after the return. -/
example : ∃ s, (model 5).Reachable
    [.timerFired, .payloadReturned, .returned true, .panicked] s :=
  ⟨_, (model 5).reachable_of_run
    [.startTimer, .timerFires, .receiveTick, .payloadReturns, .check,
      .setTimeoutHappened, .stopTimer, .closeChannel, .send] rfl⟩

end RdsMetricCollector.Utils
