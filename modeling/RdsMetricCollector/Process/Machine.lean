import RdsMetricCollector.Foundation.OrderedGroup
import RdsMetricCollector.Scheduler.Sessions

/-! # The process

`main` runs two members in an ordered group: the locket runner, which is to hold
the lock of the collector, and the scheduler. The group and the locket runner come
from other packages. What they may do is a parameter, and what these packages
document is assumed under a name.
-/

namespace RdsMetricCollector.Process

open RdsMetricCollector.Execution
open RdsMetricCollector.OrderedGroup

inductive Member
  | locketRunner
  | scheduleRunner
  deriving DecidableEq, Repr

/-- The members in the order in which `main` appends them. -/
def members : List Member :=
  [.locketRunner, .scheduleRunner]

/-- What the locket runner learns from the lock service and asks of it. -/
inductive LocketEvent
  | acquired
  | lost (err : String)
  | releaseCalled
  deriving DecidableEq, Repr

inductive Event
  | group (event : OrderedGroup.Event Member)
  | locket (event : LocketEvent)
  | scheduler (event : Scheduler.Event)

/-- The events that the locket runner brings about. -/
def Event.ofLocketRunner : Event → Bool
  | .locket _ | .group (.ready .locketRunner) | .group (.exited .locketRunner _) => true
  | _ => false

def Event.groupEvent : Event → Option (OrderedGroup.Event Member)
  | .group event => some event
  | _ => none

def Event.locketEvent : Event → Option LocketEvent
  | .locket event => some event
  | _ => none

def Event.schedulerEvent : Event → Option Scheduler.Event
  | .scheduler event => some event
  | _ => none

def groupEvents (past : List Event) : List (OrderedGroup.Event Member) :=
  past.filterMap Event.groupEvent

def locketEvents (past : List Event) : List LocketEvent :=
  past.filterMap Event.locketEvent

def schedulerEvents (past : List Event) : List Scheduler.Event :=
  past.filterMap Event.schedulerEvent

@[simp] theorem mem_groupEvents {past : List Event} {event : OrderedGroup.Event Member} :
    event ∈ groupEvents past ↔ .group event ∈ past := by
  apply mem_filterMap_view
  intro event seen
  cases event <;> simp [Event.groupEvent]

@[simp] theorem mem_locketEvents {past : List Event} {event : LocketEvent} :
    event ∈ locketEvents past ↔ .locket event ∈ past := by
  apply mem_filterMap_view
  intro event seen
  cases event <;> simp [Event.locketEvent]

@[simp] theorem groupEvents_append (past later : List Event) :
    groupEvents (past ++ later) = groupEvents past ++ groupEvents later :=
  List.filterMap_append

@[simp] theorem groupEvents_locket (event : LocketEvent) : groupEvents [.locket event] = [] :=
  rfl

/-! ## The packages around the scheduler -/

/-- What the packages may do, given everything that has happened in the process. -/
structure Packages where
  /-- The group of `grouper.NewOrdered`. -/
  group : Behaviour Member
  /-- The runner of `lock.NewLockRunner`. -/
  locketRunner : List Event → Event → Bool

/-- The locket runner has been invoked and has not exited. -/
def LocketRunning (past : List Event) : Prop :=
  .invoked .locketRunner ∈ groupEvents past ∧ ¬Exited (groupEvents past) .locketRunner

instance (past : List Event) : Decidable (LocketRunning past) :=
  inferInstanceAs (Decidable (_ ∧ _))

/-- What the packages document. The group is ordered. The locket runner is ready
only with the lock and calls `Release` only when it is signalled. It exits with an
error only if it has lost the lock, and otherwise only after that call, which may
have failed. -/
structure Packages.Documented (packages : Packages) : Prop where
  ordered : Ordered members packages.group
  running : ∀ {past event}, packages.locketRunner past event = true → LocketRunning past
  readyWithLock : ∀ {past},
    packages.locketRunner past (.group (.ready .locketRunner)) = true →
    .locket .acquired ∈ past
  releasesOnSignal : ∀ {past},
    packages.locketRunner past (.locket .releaseCalled) = true →
    .group (.signalled .locketRunner) ∈ past
  exitsReleased : ∀ {past},
    packages.locketRunner past (.group (.exited .locketRunner none)) = true →
    .locket .releaseCalled ∈ past ∧ ∀ err, .locket (.lost err) ∉ past
  exitsLost : ∀ {past err},
    packages.locketRunner past (.group (.exited .locketRunner (some err))) = true →
    .locket (.lost err) ∈ past

/-- The packages do not get stuck. The locket runner can exit when it has lost the
lock or has called `Release`, which it can do when it is signalled. -/
structure Packages.Responsive (packages : Packages) : Prop where
  group : OrderedGroup.Responsive packages.group
  exitsAfterLoss : ∀ {past err}, LocketRunning past → .locket (.lost err) ∈ past →
    ∃ failure, packages.locketRunner past (.group (.exited .locketRunner failure)) = true
  releases : ∀ {past}, LocketRunning past → .group (.signalled .locketRunner) ∈ past →
    (∀ err, .locket (.lost err) ∉ past) → .locket .releaseCalled ∉ past →
    packages.locketRunner past (.locket .releaseCalled) = true
  exitsAfterRelease : ∀ {past}, LocketRunning past → .locket .releaseCalled ∈ past →
    ∃ failure, packages.locketRunner past (.group (.exited .locketRunner failure)) = true

/-! ## The machine -/

structure State where
  /-- Everything that has happened. -/
  past : List Event
  scheduler : Scheduler.State

inductive Action
  /-- The process is sent a signal, which `sigmon` passes on to the group. -/
  | interrupt
  | group (event : OrderedGroup.Event Member)
  | locketRunner (event : Event)
  | schedulerRuns
  | scheduler (action : Scheduler.Action)
  | schedulerReturns

namespace State

def initial : State where
  past := []
  scheduler := .initial

def emit (p : State) (events : List Event) : State × List Event :=
  ({ p with past := p.past ++ events }, events)

abbrev history (p : State) : List (OrderedGroup.Event Member) :=
  groupEvents p.past

/-- The scheduler receives the signals of the group, and nothing calls its
`Stop` method. -/
def Permits (p : State) : Scheduler.Action → Prop
  | .receiveSignal => .signalled .scheduleRunner ∈ p.history
  | .callStop | .stopReturns => False
  | _ => True

instance (p : State) (action : Scheduler.Action) : Decidable (p.Permits action) :=
  match action with
  | .receiveSignal => inferInstanceAs (Decidable (_ ∈ _))
  | .callStop | .stopReturns => .isFalse id
  | .timerFires | .receiveTick | .resetTimer | .listInstancesFails _
  | .listInstancesSucceeds _ _ | .startNext | .finishStarting _ | .cancelNext
  | .finishRefresh | .receiveStopped | .cancelOnSignal | .receiveDone
  | .drainReceive | .workersStopTimeoutFires | .drainTimeout | .finishDraining
  | .run _ _ => .isTrue trivial

end State

/-- One step. The goroutines of the scheduler may go on after its `Run` has
returned. -/
def step (packages : Packages) (settings : Scheduler.Settings) (p : State) :
    Action → Option (State × List Event)
  | .interrupt => some (p.emit [.group .interrupted])
  | .group event =>
      if event.ofGroup = true ∧ packages.group p.history event = true then
        some (p.emit [.group event])
      else
        none
  | .locketRunner event =>
      if event.ofLocketRunner = true ∧ packages.locketRunner p.past event = true then
        some (p.emit [event])
      else
        none
  | .schedulerRuns =>
      if .invoked .scheduleRunner ∈ p.history ∧ .ready .scheduleRunner ∉ p.history then
        some (p.emit [.group (.ready .scheduleRunner)])
      else
        none
  | .scheduler action =>
      if .ready .scheduleRunner ∈ p.history ∧ p.Permits action then
        (Scheduler.step settings p.scheduler action).map fun (next, events) =>
          { p with scheduler := next }.emit (events.map .scheduler)
      else
        none
  | .schedulerReturns =>
      if .ready .scheduleRunner ∈ p.history ∧ ¬Exited p.history .scheduleRunner then
        match p.scheduler.main with
        | .returned => some (p.emit [.group (.exited .scheduleRunner none)])
        | _ => none
      else
        none

def model (packages : Packages) (settings : Scheduler.Settings) :
    Model State Action Event where
  initial := .initial
  step := step packages settings

/-- The exit status of `main`, by the error that the group returns. -/
def exitStatus (err : Option String) : Nat :=
  if err ≠ none then 1 else 0

/-- The steps of the process, one constructor for each way it can go on. -/
inductive Step (packages : Packages) (settings : Scheduler.Settings) (p : State) :
    Action → State → List Event → Prop
  | interrupt :
      Step packages settings p .interrupt
        { p with past := p.past ++ [.group .interrupted] } [.group .interrupted]
  | group (event) :
      event.ofGroup = true → packages.group p.history event = true →
      Step packages settings p (.group event)
        { p with past := p.past ++ [.group event] } [.group event]
  | locketRunner (event) :
      event.ofLocketRunner = true → packages.locketRunner p.past event = true →
      Step packages settings p (.locketRunner event)
        { p with past := p.past ++ [event] } [event]
  | schedulerRuns :
      .invoked .scheduleRunner ∈ p.history → .ready .scheduleRunner ∉ p.history →
      Step packages settings p .schedulerRuns
        { p with past := p.past ++ [.group (.ready .scheduleRunner)] }
        [.group (.ready .scheduleRunner)]
  | scheduler (action next events) :
      .ready .scheduleRunner ∈ p.history → p.Permits action →
      Scheduler.Step settings p.scheduler action next events →
      Step packages settings p (.scheduler action)
        { past := p.past ++ events.map .scheduler, scheduler := next }
        (events.map .scheduler)
  | schedulerReturns :
      .ready .scheduleRunner ∈ p.history → ¬Exited p.history .scheduleRunner →
      p.scheduler.main = .returned →
      Step packages settings p .schedulerReturns
        { p with past := p.past ++ [.group (.exited .scheduleRunner none)] }
        [.group (.exited .scheduleRunner none)]

variable {packages : Packages} {settings : Scheduler.Settings} {p next : State}
  {action : Action} {events : List Event}

theorem step_inversion (stepped : step packages settings p action = some (next, events)) :
    Step packages settings p action next events := by
  cases action with
  | interrupt =>
      cases stepped
      exact .interrupt
  | group event =>
      simp only [step] at stepped
      split at stepped
      case isTrue enabled => cases stepped; exact .group event enabled.1 enabled.2
      case isFalse => cases stepped
  | locketRunner event =>
      simp only [step] at stepped
      split at stepped
      case isTrue enabled => cases stepped; exact .locketRunner event enabled.1 enabled.2
      case isFalse => cases stepped
  | schedulerRuns =>
      simp only [step] at stepped
      split at stepped
      case isTrue enabled => cases stepped; exact .schedulerRuns enabled.1 enabled.2
      case isFalse => cases stepped
  | scheduler action =>
      simp only [step] at stepped
      split at stepped
      case isTrue enabled =>
        rcases Option.map_eq_some_iff.mp stepped with ⟨⟨final, _⟩, moved, equal⟩
        cases equal
        exact .scheduler action final _ enabled.1 enabled.2
          (Scheduler.step_inversion moved)
      case isFalse => cases stepped
  | schedulerReturns =>
      simp only [step] at stepped
      split at stepped
      case isTrue enabled =>
        split at stepped
        case h_1 main => cases stepped; exact .schedulerReturns enabled.1 enabled.2 main
        case h_2 => cases stepped
      case isFalse => cases stepped

theorem Step.step_eq (stepped : Step packages settings p action next events) :
    step packages settings p action = some (next, events) := by
  cases stepped with
  | interrupt => rfl
  | group event own permitted => exact if_pos ⟨own, permitted⟩
  | locketRunner event own permitted => exact if_pos ⟨own, permitted⟩
  | schedulerRuns invoked unready => exact if_pos ⟨invoked, unready⟩
  | scheduler action final events ready permitted moved =>
      simp only [step]
      rw [if_pos ⟨ready, permitted⟩, moved.step_eq]
      rfl
  | schedulerReturns ready running returned =>
      simp only [step]
      rw [if_pos ⟨ready, running⟩, returned]
      rfl

theorem Step.past_eq (step : Step packages settings p action next events) :
    next.past = p.past ++ events := by
  cases step <;> rfl

theorem past_eq {trace : List Event}
    (reachable : (model packages settings).Reachable trace p) : p.past = trace := by
  apply reachable.invariant fun past current => current.past = past
  · rfl
  · intro past current action next events _ same stepped
    rw [(step_inversion stepped).past_eq, same]

/-! ## The scheduler inside the process -/

private theorem schedulerEvents_map (events : List Scheduler.Event) :
    schedulerEvents (events.map .scheduler) = events := by
  have same : Event.schedulerEvent ∘ Event.scheduler = some := rfl
  rw [schedulerEvents, List.filterMap_map, same, List.filterMap_some]

theorem groupEvents_map (events : List Scheduler.Event) :
    groupEvents (events.map .scheduler) = [] := by
  rw [groupEvents, List.filterMap_map]
  exact List.filterMap_eq_nil_iff.mpr fun _ _ => rfl

/-- The process runs the scheduler as it is. -/
def schedulerSimulation (packages : Packages) (settings : Scheduler.Settings) :
    Simulation (model packages settings) (Scheduler.model settings) where
  abstraction := State.scheduler
  view := Event.schedulerEvent
  initial := rfl
  step := by
    intro past current action next events _ stepped
    cases step_inversion stepped with
    | scheduler action final events ready permitted moved =>
        rw [← schedulerEvents, schedulerEvents_map]
        exact ⟨[action], moved.transitions⟩
    | locketRunner event own permitted =>
        have quiet : event.schedulerEvent = none := by
          cases event <;> first | rfl | cases own
        rw [List.filterMap_cons_none quiet]
        exact ⟨[], .nil⟩
    | interrupt | group | schedulerRuns | schedulerReturns => exact ⟨[], .nil⟩

theorem scheduler_reachable {trace : List Event}
    (reachable : (model packages settings).Reachable trace p) :
    (Scheduler.model settings).Reachable (schedulerEvents trace) p.scheduler :=
  (schedulerSimulation packages settings).reachable reachable

/-! ## Sample packages

A group and a locket runner that may do whatever is documented. -/

def sampleLocketRunner (past : List Event) : Event → Bool
  | .locket .acquired | .locket (.lost _) => LocketRunning past
  | .locket .releaseCalled =>
      LocketRunning past ∧ .signalled .locketRunner ∈ groupEvents past
  | .group (.ready .locketRunner) => LocketRunning past ∧ .acquired ∈ locketEvents past
  | .group (.exited .locketRunner none) =>
      LocketRunning past ∧ .releaseCalled ∈ locketEvents past ∧
        (locketEvents past).any (fun event => event matches .lost _) = false
  | .group (.exited .locketRunner (some err)) =>
      LocketRunning past ∧ .lost err ∈ locketEvents past
  | _ => false

def samplePackages : Packages where
  group := free members
  locketRunner := sampleLocketRunner

private theorem any_lost_eq_false {past : List Event} :
    (locketEvents past).any (fun event => event matches .lost _) = false ↔
      ∀ err, .locket (.lost err) ∉ past := by
  rw [List.any_eq_false]
  constructor
  · intro none err lost
    exact none _ (mem_locketEvents.mpr lost) rfl
  · intro none event member
    cases event with
    | lost err => exact absurd (mem_locketEvents.mp member) (none err)
    | acquired | releaseCalled => exact Bool.false_ne_true

theorem documented_samplePackages : samplePackages.Documented where
  ordered := ordered_free
  running {past event} may := by
    change sampleLocketRunner past event = true at may
    unfold sampleLocketRunner at may
    split at may
    case h_1 | h_2 => exact of_decide_eq_true may
    case h_3 | h_4 | h_5 | h_6 => exact (of_decide_eq_true may).1
    case h_7 => cases may
  readyWithLock may := mem_locketEvents.mp (of_decide_eq_true may).2
  releasesOnSignal may := mem_groupEvents.mp (of_decide_eq_true may).2
  exitsReleased may := by
    have exits := (of_decide_eq_true may).2
    exact ⟨mem_locketEvents.mp exits.1, any_lost_eq_false.mp exits.2⟩
  exitsLost may := mem_locketEvents.mp (of_decide_eq_true may).2

theorem responsive_samplePackages : samplePackages.Responsive where
  group := responsive_free (by decide)
  exitsAfterLoss {past err} running lost :=
    ⟨some err, decide_eq_true ⟨running, mem_locketEvents.mpr lost⟩⟩
  releases running signalled _ _ :=
    decide_eq_true ⟨running, mem_groupEvents.mpr signalled⟩
  exitsAfterRelease {past} running released := by
    by_cases lost : ∃ err, .locket (.lost err) ∈ past
    · rcases lost with ⟨err, lost⟩
      exact ⟨some err, decide_eq_true ⟨running, mem_locketEvents.mpr lost⟩⟩
    · push Not at lost
      exact ⟨none, decide_eq_true
        ⟨running, mem_locketEvents.mpr released, any_lost_eq_false.mpr lost⟩⟩

end RdsMetricCollector.Process
