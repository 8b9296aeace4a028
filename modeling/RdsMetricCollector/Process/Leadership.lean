import RdsMetricCollector.Process.Machine
import RdsMetricCollector.Scheduler.Progress

/-! # Leadership

The lock of the collector encloses all work: nothing happens in the scheduler
before the lock was acquired, and on an orderly stop it is only released when
the scheduler has come to rest for good.
-/

namespace RdsMetricCollector.Process

open RdsMetricCollector.Execution
open RdsMetricCollector.OrderedGroup

variable {packages : Packages} {settings : Scheduler.Settings}
  {past trace events : List Event} {p next : State} {action : Action}

/-! ## The members along a run -/

/-- What the locket runner has done so far. -/
structure LockOrder (past : List Event) : Prop where
  ready : .group (.ready .locketRunner) ∈ past → .locket .acquired ∈ past
  released : .locket .releaseCalled ∈ past → .group (.signalled .locketRunner) ∈ past
  invoked : ∀ {event}, .locket event ∈ past → .group (.invoked .locketRunner) ∈ past
  exitedReleased : .group (.exited .locketRunner none) ∈ past →
    .locket .releaseCalled ∈ past ∧ ∀ err, .locket (.lost err) ∉ past
  exitedLost : ∀ {err}, .group (.exited .locketRunner (some err)) ∈ past →
    .locket (.lost err) ∈ past

structure SchedulerOrder (past : List Event) (s : Scheduler.State) : Prop where
  idle : .group (.ready .scheduleRunner) ∉ past → s = .initial
  invoked : .group (.ready .scheduleRunner) ∈ past →
    .group (.invoked .scheduleRunner) ∈ past
  exited : ∀ {err}, .group (.exited .scheduleRunner err) ∈ past →
    err = none ∧ s.main = .returned
  signalled : Scheduler.ShutdownBegun s → .group (.signalled .scheduleRunner) ∈ past

/-- Events that the locket runner does not bring about leave its order alone. -/
theorem LockOrder.append (order : LockOrder past)
    (quiet : ∀ event ∈ events, event.ofLocketRunner = false) : LockOrder (past ++ events) := by
  have kept : ∀ {event : Event}, event.ofLocketRunner = true →
      (event ∈ past ++ events ↔ event ∈ past) := by
    intro event own
    rw [List.mem_append, or_iff_left]
    intro member
    rw [quiet event member] at own
    cases own
  constructor
  · intro ready
    exact (kept rfl).mpr (order.ready ((kept rfl).mp ready))
  · intro released
    exact List.mem_append_left _ (order.released ((kept rfl).mp released))
  · intro event occurred
    exact List.mem_append_left _ (order.invoked ((kept rfl).mp occurred))
  · intro exited
    rcases order.exitedReleased ((kept rfl).mp exited) with ⟨released, notLost⟩
    refine ⟨(kept rfl).mpr released, ?_⟩
    intro err lost
    exact notLost err ((kept rfl).mp lost)
  · intro err exited
    exact (kept rfl).mpr (order.exitedLost ((kept rfl).mp exited))

/-- The locket runner does something, as its package documents. -/
theorem LockOrder.acts (order : LockOrder past) (documented : packages.Documented)
    {event : Event} (permitted : packages.locketRunner past event = true) :
    LockOrder (past ++ [event]) := by
  rcases documented.running permitted with ⟨invoked, running⟩
  have stillOut : ∀ err, .group (.exited .locketRunner err) ∉ past := by
    intro err exited
    exact running ⟨err, mem_groupEvents.mpr exited⟩
  have last : ∀ {other : Event}, other ∈ past ++ [event] → other ∈ past ∨ event = other := by
    intro other member
    simpa [eq_comm] using member
  constructor
  · intro ready
    apply List.mem_append_left
    rcases last ready with earlier | rfl
    · exact order.ready earlier
    · exact documented.readyWithLock permitted
  · intro released
    apply List.mem_append_left
    rcases last released with earlier | rfl
    · exact order.released earlier
    · exact documented.releasesOnSignal permitted
  · intro _ _
    exact List.mem_append_left _ (mem_groupEvents.mp invoked)
  · intro exited
    cases (last exited).resolve_left (stillOut none)
    rcases documented.exitsReleased permitted with ⟨released, notLost⟩
    exact ⟨List.mem_append_left _ released, by simpa using notLost⟩
  · intro err exited
    cases (last exited).resolve_left (stillOut (some err))
    exact List.mem_append_left _ (documented.exitsLost permitted)

private theorem Step.lockOrder (step : Step packages settings p action next events)
    (documented : packages.Documented) (order : LockOrder p.past) : LockOrder next.past := by
  cases step with
  | locketRunner event own permitted => exact order.acts documented permitted
  | group event own =>
      apply order.append
      intro other member
      cases List.mem_singleton.mp member
      cases event <;> first | rfl | cases own
  | scheduler =>
      apply order.append
      intro event member
      rcases List.mem_map.mp member with ⟨inner, _, rfl⟩
      rfl
  | interrupt | schedulerRuns | schedulerReturns =>
      exact order.append (by simp [Event.ofLocketRunner])

/-- The order of the scheduler is kept by events that are not its own. -/
theorem SchedulerOrder.append {s : Scheduler.State} (order : SchedulerOrder past s)
    (ready : .group (.ready .scheduleRunner) ∉ events)
    (exited : ∀ err, .group (.exited .scheduleRunner err) ∉ events) :
    SchedulerOrder (past ++ events) s := by
  constructor
  · intro unready
    exact order.idle fun earlier => unready (List.mem_append_left _ earlier)
  · intro isReady
    rw [List.mem_append, or_iff_left ready] at isReady
    exact List.mem_append_left _ (order.invoked isReady)
  · intro err hasExited
    rw [List.mem_append, or_iff_left (exited err)] at hasExited
    exact order.exited hasExited
  · intro begun
    exact List.mem_append_left _ (order.signalled begun)

private theorem Step.schedulerOrder (step : Step packages settings p action next events)
    (order : SchedulerOrder p.past p.scheduler) :
    SchedulerOrder next.past next.scheduler := by
  cases step with
  | interrupt => exact order.append (by simp) (by simp)
  | group event own =>
      cases event with
      | invoked | signalled | ended => exact order.append (by simp) (by simp)
      | interrupted | ready | exited => cases own
  | locketRunner event own =>
      apply order.append
      · intro member
        cases List.mem_singleton.mp member
        cases own
      · intro err member
        cases List.mem_singleton.mp member
        cases own
  | schedulerRuns invoked unready =>
      have initial := order.idle (by simpa using unready)
      rw [mem_groupEvents] at invoked
      refine ⟨by simp, fun _ => List.mem_append_left _ invoked, ?_, ?_⟩
      · intro err exited
        exact order.exited (by simpa using exited)
      · intro begun
        exact List.mem_append_left _ (order.signalled begun)
  | scheduler action final events ready permitted moved =>
      rw [mem_groupEvents] at ready
      refine ⟨?_, ?_, ?_, ?_⟩
      · intro unready
        exact absurd (List.mem_append_left _ ready) unready
      · intro _
        exact List.mem_append_left _ (order.invoked ready)
      · intro err exited
        rcases order.exited (by simpa using exited) with ⟨clean, returned⟩
        exact ⟨clean, moved.returned returned⟩
      · intro begun
        apply List.mem_append_left
        have notStopped : action ≠ .callStop := by
          intro stops
          rw [stops] at permitted
          exact permitted
        rcases moved.shutdownBegun notStopped begun with before | signal
        · exact order.signalled before
        · rw [signal] at permitted
          exact mem_groupEvents.mp permitted
  | schedulerReturns ready running returned =>
      rw [mem_groupEvents] at ready
      refine ⟨?_, ?_, ?_, ?_⟩
      · intro unready
        exact absurd (List.mem_append_left _ ready) unready
      · intro _
        exact List.mem_append_left _ (order.invoked ready)
      · intro err exited
        refine ⟨?_, returned⟩
        rcases List.mem_append.mp exited with earlier | now
        · exact (order.exited earlier).1
        · cases List.mem_singleton.mp now
          rfl
      · intro begun
        exact List.mem_append_left _ (order.signalled begun)

private theorem Step.allowed (step : Step packages settings p action next events)
    (allowed : Allowed packages.group p.history) : Allowed packages.group next.history := by
  cases step with
  | interrupt =>
      rw [State.history, groupEvents_append]
      exact allowed.snoc nofun
  | group event own permitted =>
      rw [State.history, groupEvents_append]
      exact allowed.snoc fun _ => permitted
  | locketRunner event own =>
      rw [State.history, groupEvents_append]
      cases event with
      | group event =>
          refine allowed.snoc ?_
          intro ofGroup
          cases event <;> first | cases own | cases ofGroup
      | locket event =>
          rw [groupEvents_locket, List.append_nil]
          exact allowed
      | scheduler event => cases own
  | schedulerRuns | schedulerReturns =>
      rw [State.history, groupEvents_append]
      exact allowed.snoc nofun
  | scheduler =>
      rw [State.history, groupEvents_append, groupEvents_map, List.append_nil]
      exact allowed

/-- What holds of the process along every run. -/
structure Composed (packages : Packages) (past : List Event) (s : Scheduler.State) :
    Prop where
  allowed : Allowed packages.group (groupEvents past)
  lock : LockOrder past
  scheduler : SchedulerOrder past s

theorem composed (documented : packages.Documented)
    (reachable : (model packages settings).Reachable trace p) :
    Composed packages trace p.scheduler := by
  have holds : Composed packages p.past p.scheduler := by
    apply reachable.invariant fun _ current =>
      Composed packages current.past current.scheduler
    · refine ⟨.nil, ⟨nofun, nofun, nofun, nofun, nofun⟩, fun _ => rfl, nofun, nofun, ?_⟩
      simp [Scheduler.ShutdownBegun, model, State.initial, Scheduler.State.initial,
        Scheduler.Registry.initial]
    · intro past current action next events _ holds stepped
      have step := step_inversion stepped
      exact ⟨step.allowed holds.allowed, step.lockOrder documented holds.lock,
        step.schedulerOrder holds.scheduler⟩
  rwa [past_eq reachable] at holds

/-- The lock has been acquired before the scheduler is started. -/
theorem Composed.acquired {s : Scheduler.State} (composed : Composed packages past s)
    (documented : packages.Documented)
    (ready : .group (.ready .scheduleRunner) ∈ past) : .locket .acquired ∈ past := by
  have invoked := mem_groupEvents.mpr (composed.scheduler.invoked ready)
  have before := documented.ordered.ready_of_invoked composed.allowed invoked
    (.refl [Member.locketRunner, Member.scheduleRunner])
  exact composed.lock.ready (mem_groupEvents.mp before)

/-! ## Rest -/

/-- A worker is started or a goroutine of the scheduler does something. -/
def Event.IsWork : Event → Prop
  | .scheduler event => event.IsWork
  | _ => False

/-- The group stops its members, and the scheduler has returned or was never
started. -/
structure Settled (p : State) : Prop where
  stopping : ∃ name, .signalled name ∈ p.history
  rests : .invoked .scheduleRunner ∉ p.history ∨ p.scheduler.main = .returned

theorem Composed.settled (composed : Composed packages p.past p.scheduler)
    (documented : packages.Documented)
    (signalled : .group (.signalled .locketRunner) ∈ p.past) : Settled p where
  stopping := ⟨_, mem_groupEvents.mpr signalled⟩
  rests := by
    by_cases invoked : .invoked .scheduleRunner ∈ p.history
    · rcases documented.ordered.exited_of_signalled composed.allowed
        (mem_groupEvents.mpr signalled) (.refl [Member.locketRunner, Member.scheduleRunner])
        invoked with ⟨err, exited⟩
      exact .inr (composed.scheduler.exited (mem_groupEvents.mp exited)).2
    · exact .inl invoked

private theorem Settled.workers_empty (settled : Settled p)
    (composed : Composed packages p.past p.scheduler)
    (reachable : (model packages settings).Reachable past p) :
    p.scheduler.registry.workers = ∅ := by
  rcases settled.rests with uninvoked | returned
  · rw [mem_groupEvents] at uninvoked
    rw [composed.scheduler.idle (mt composed.scheduler.invoked uninvoked)]
    rfl
  · exact (Scheduler.shutdownOrder (scheduler_reachable reachable)).empty returned

private theorem Settled.step (settled : Settled p) (documented : packages.Documented)
    (reachable : (model packages settings).Reachable past p)
    (step : Step packages settings p action next events) :
    Settled next ∧ ∀ event ∈ events, ¬event.IsWork := by
  have composed := composed documented reachable
  rw [← past_eq reachable] at composed
  have stopping : ∃ name, .signalled name ∈ next.history := by
    rw [State.history, step.past_eq, groupEvents_append]
    exact settled.stopping.imp fun _ => List.mem_append_left _
  -- Nothing but the group invokes a member, and it no longer does.
  have uninvoked : .invoked .scheduleRunner ∉ p.history →
      .invoked .scheduleRunner ∉ events.filterMap Event.groupEvent →
      .invoked .scheduleRunner ∉ next.history := by
    rw [State.history, State.history, step.past_eq, groupEvents_append]
    intro before now member
    exact (List.mem_append.mp member).elim before now
  cases step with
  | interrupt | schedulerRuns | schedulerReturns =>
      refine ⟨⟨stopping, settled.rests.imp_left fun before => uninvoked before ?_⟩, ?_⟩
      · simp [Event.groupEvent]
      · simp [Event.IsWork]
  | group event own permitted =>
      refine ⟨⟨stopping, settled.rests.imp_left fun before => uninvoked before ?_⟩, ?_⟩
      · intro invokes
        rcases settled.stopping with ⟨name, signalled⟩
        cases List.mem_singleton.mp (show _ ∈ [event] from invokes)
        exact documented.ordered.startsBeforeStopping permitted signalled
      · simp [Event.IsWork]
  | locketRunner event own =>
      refine ⟨⟨stopping, settled.rests.imp_left fun before => uninvoked before ?_⟩, ?_⟩
      · intro invokes
        have emitted := mem_groupEvents.mp (show _ ∈ groupEvents [event] from invokes)
        cases List.mem_singleton.mp emitted
        cases own
      · intro other member
        cases List.mem_singleton.mp member
        cases event <;> first | exact id | cases own
  | scheduler action final events ready permitted moved =>
      have invoked := composed.scheduler.invoked (mem_groupEvents.mp ready)
      have returned := settled.rests.resolve_left (by simpa using invoked)
      have quiescent : Scheduler.Quiescent p.scheduler :=
        ⟨by rw [returned]; trivial, settled.workers_empty composed reachable⟩
      refine ⟨⟨stopping, .inr (moved.returned returned)⟩, ?_⟩
      intro event member
      rcases List.mem_map.mp member with ⟨inner, emitted, rfl⟩
      exact (quiescent.step (scheduler_reachable reachable) moved).2 inner emitted

private theorem Settled.transitions {actions : List Action} {later : List Event} {final : State}
    (settled : Settled p) (documented : packages.Documented)
    (reachable : (model packages settings).Reachable past p)
    (transitions : (model packages settings).Transitions p actions later final) :
    Settled final ∧ ∀ event ∈ later, ¬event.IsWork := by
  apply reachable.invariant_from transitions fun done current =>
    Settled current ∧ ∀ event ∈ done, ¬event.IsWork
  · exact ⟨settled, by simp⟩
  · intro done current action next events reached holds stepped
    have taken := holds.1.step documented reached (step_inversion stepped)
    refine ⟨taken.1, ?_⟩
    intro event member
    rcases List.mem_append.mp member with earlier | now
    · exact holds.2 event earlier
    · exact taken.2 event now

/-! ## The lock and the work -/

private theorem Step.ready_of_scheduler (step : Step packages settings p action next events)
    {event : Scheduler.Event} (emitted : .scheduler event ∈ events) :
    .group (.ready .scheduleRunner) ∈ p.past := by
  cases step with
  | scheduler action final events ready => exact mem_groupEvents.mp ready
  | locketRunner event own =>
      cases List.mem_singleton.mp emitted
      cases own
  | interrupt | group | schedulerRuns | schedulerReturns => simp at emitted

/-- In every run of the process the lock encloses the work of the scheduler, if the
group and the locket runner are as documented. The scheduler does nothing observable
before the lock was acquired. When the locket runner calls `Release`, every session
of every collector is complete, and no worker does anything afterwards. -/
theorem lock_encloses_work (documented : packages.Documented)
    (reachable : (model packages settings).Reachable past p)
    (stepped : (model packages settings).step p action = some (next, events)) :
    (∀ event, .scheduler event ∈ events → .locket .acquired ∈ past) ∧
    (.locket .releaseCalled ∈ events →
      (∀ id : Scheduler.WorkerID, ∃ sessions : List (List Scheduler.RunEvent),
        (∀ session ∈ sessions, Scheduler.Session id.instanceGUID session) ∧
        Scheduler.collectorEventsOf id (schedulerEvents (past ++ events)) =
          sessions.flatten) ∧
      ∀ actions later final,
        (model packages settings).Transitions next actions later final →
          ∀ event ∈ later, ¬event.IsWork) := by
  have step := step_inversion stepped
  have reached := reachable.step stepped
  refine ⟨?_, ?_⟩
  · intro event emitted
    have ready := step.ready_of_scheduler emitted
    rw [past_eq reachable] at ready
    exact (composed documented reachable).acquired documented ready
  · intro released
    have composed := composed documented reached
    have signalled := composed.lock.released (List.mem_append_right past released)
    rw [← past_eq reached] at composed signalled
    have settled := composed.settled documented signalled
    refine ⟨?_, ?_⟩
    · intro id
      exact Scheduler.exists_sessions_of_empty (scheduler_reachable reached)
        (settled.workers_empty composed reached) id
    · intro actions later final transitions
      exact (settled.transitions documented reached transitions).2

/-- The lock is acquired and the scheduler of the samples started. -/
def sampleLeader : List Action :=
  [.group (.invoked .locketRunner), .locketRunner (.locket .acquired),
    .locketRunner (.group (.ready .locketRunner)), .group (.invoked .scheduleRunner),
    .schedulerRuns]

/-- The sample worker runs until a signal stops the process. -/
def sampleService : List Action :=
  sampleLeader ++
    [.interrupt] ++ Scheduler.sampleRefresh.map .scheduler ++
    [.scheduler (.run 0 .callNewCollector),
      .scheduler (.run 0 (.newCollectorReturns none)),
      .group (.signalled .scheduleRunner), .scheduler .receiveSignal,
      .scheduler .cancelOnSignal, .scheduler (.run 0 .receiveDone),
      .scheduler (.run 0 .runDeferred), .scheduler (.run 0 .runDeferred),
      .scheduler .drainReceive, .scheduler .finishDraining, .schedulerReturns,
      .group (.signalled .locketRunner)]

theorem lock_encloses_work_sample :
    ∃ p trace next,
      (model samplePackages Scheduler.sampleSettings).run .initial sampleService =
        some (p, trace) ∧
      (model samplePackages Scheduler.sampleSettings).step p
        (.locketRunner (.locket .releaseCalled)) = some (next, [.locket .releaseCalled]) ∧
      ∀ actions later final,
        (model samplePackages Scheduler.sampleSettings).Transitions next actions later final →
          ∀ event ∈ later, ¬event.IsWork := by
  refine ⟨_, _, _, rfl, rfl, ?_⟩
  have encloses := lock_encloses_work documented_samplePackages
    ((model samplePackages Scheduler.sampleSettings).reachable_of_run sampleService rfl)
    (show (model samplePackages Scheduler.sampleSettings).step _
      (.locketRunner (.locket .releaseCalled)) = some (_, [.locket .releaseCalled]) from rfl)
  exact (encloses.2 (by simp)).2

end RdsMetricCollector.Process
