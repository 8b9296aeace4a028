import RdsMetricCollector.Process.Leadership

/-! # The end of the process

The process ends only on a signal or after it has lost the lock, it fails only
in the latter case, and once it has to end it can always do so.
-/

namespace RdsMetricCollector.Process

open RdsMetricCollector.Execution
open RdsMetricCollector.OrderedGroup

variable {packages : Packages} {settings : Scheduler.Settings}
  {past trace events : List Event} {p next : State} {action : Action}

/-! ## Causes -/

/-- The process has been sent a signal or has lost the lock. -/
def HasToEnd (past : List Event) : Prop :=
  .group .interrupted ∈ past ∨ ∃ err, .locket (.lost err) ∈ past

private theorem HasToEnd.append (hasToEnd : HasToEnd past) : HasToEnd (past ++ events) :=
  hasToEnd.imp (List.mem_append_left events)
    fun lost => lost.imp fun _ => List.mem_append_left events

/-- The group stops its members or has a reason to. -/
def Stopping (past : List Event) : Prop :=
  Disturbed (groupEvents past) ∨ ∃ name, .group (.signalled name) ∈ past

/-- Of all events, only these begin a stop. -/
theorem Stopping.of_append (stopping : Stopping (past ++ events)) :
    Stopping past ∨ .group .interrupted ∈ events ∨
      (∃ name err, .group (.exited name err) ∈ events) ∨
      ∃ name, .group (.signalled name) ∈ events := by
  rcases stopping with (interrupted | ⟨name, err, exited⟩) | ⟨name, signalled⟩
  · rw [mem_groupEvents, List.mem_append] at interrupted
    rcases interrupted with earlier | now
    · exact .inl (.inl (.inl (mem_groupEvents.mpr earlier)))
    · exact .inr (.inl now)
  · rw [mem_groupEvents, List.mem_append] at exited
    rcases exited with earlier | now
    · exact .inl (.inl (.inr ⟨name, err, mem_groupEvents.mpr earlier⟩))
    · exact .inr (.inr (.inl ⟨name, err, now⟩))
  · rcases List.mem_append.mp signalled with earlier | now
    · exact .inl (.inr ⟨name, earlier⟩)
    · exact .inr (.inr (.inr ⟨name, now⟩))

/-- A member exits only if the group stops it or the lock is lost. -/
theorem Step.cause_of_exit (step : Step packages settings p action next events)
    (documented : packages.Documented) (composed : Composed packages p.past p.scheduler)
    (reachable : (model packages settings).Reachable past p) {name : Member}
    {err : Option String} (exits : .group (.exited name err) ∈ events) :
    Stopping p.past ∨ HasToEnd p.past := by
  cases step with
  | locketRunner event own permitted =>
      cases List.mem_singleton.mp exits
      cases name with
      | scheduleRunner => cases own
      | locketRunner =>
          cases err with
          | none =>
              have released := (documented.exitsReleased permitted).1
              exact .inl (.inr ⟨_, composed.lock.released released⟩)
          | some err => exact .inr (.inr ⟨err, documented.exitsLost permitted⟩)
  | schedulerReturns ready running returned =>
      have cancelled :=
        (Scheduler.shutdownOrder (scheduler_reachable reachable)).cancelled (.inr returned)
      exact .inl (.inr ⟨_, composed.scheduler.signalled (.inr cancelled)⟩)
  | group event own =>
      cases List.mem_singleton.mp exits
      cases own
  | interrupt | schedulerRuns | scheduler => simp at exits

private theorem Step.cause_of_signal (step : Step packages settings p action next events)
    (documented : packages.Documented) {name : Member}
    (signals : .group (.signalled name) ∈ events) : Stopping p.past := by
  cases step with
  | group event own permitted =>
      cases List.mem_singleton.mp signals
      exact .inl (documented.ordered.stopsDisturbed permitted)
  | locketRunner event own =>
      cases List.mem_singleton.mp signals
      cases own
  | interrupt | schedulerRuns | scheduler | schedulerReturns => simp at signals

private theorem hasToEnd_of_stopping (documented : packages.Documented)
    (reachable : (model packages settings).Reachable trace p) (stopping : Stopping trace) :
    HasToEnd trace := by
  have caused : Stopping trace → HasToEnd trace := by
    apply reachable.invariant fun past _ => Stopping past → HasToEnd past
    · intro stopping
      rcases stopping with (none | ⟨_, _, none⟩) | ⟨_, none⟩ <;> cases none
    · intro past current action next events reached holds stepped stopping
      have step := step_inversion stepped
      have composed := composed documented reached
      rw [← past_eq reached] at holds composed
      rcases stopping.of_append with earlier | interrupted | ⟨_, _, exits⟩ | ⟨_, signals⟩
      · rw [← past_eq reached] at earlier ⊢
        exact (holds earlier).append
      · exact .inl (List.mem_append_right past interrupted)
      · rw [← past_eq reached]
        rcases step.cause_of_exit documented composed reached exits with earlier | lost
        · exact (holds earlier).append
        · exact lost.append
      · rw [← past_eq reached]
        exact (holds (step.cause_of_signal documented signals)).append
  exact caused stopping

/-! ## The result -/

theorem Composed.failed_iff {s : Scheduler.State} (composed : Composed packages past s)
    (stopped : .group (.invoked .locketRunner) ∈ past →
      Exited (groupEvents past) .locketRunner) :
    Failed (groupEvents past) ↔ ∃ err, .locket (.lost err) ∈ past := by
  constructor
  · intro failed
    rcases failed with ⟨name, failure, exited⟩
    rw [mem_groupEvents] at exited
    cases name with
    | locketRunner => exact ⟨failure, composed.lock.exitedLost exited⟩
    | scheduleRunner => cases (composed.scheduler.exited exited).1
  · intro lost
    rcases lost with ⟨err, lost⟩
    rcases stopped (composed.lock.invoked lost) with ⟨failure, exited⟩
    cases failure with
    | none =>
        have notLost := (composed.lock.exitedReleased (mem_groupEvents.mp exited)).2
        exact absurd lost (notLost err)
    | some failure => exact ⟨_, failure, exited⟩

/-- Once the group has ended, the locket runner has exited. -/
theorem Composed.locket_exited {s : Scheduler.State} (composed : Composed packages past s)
    (documented : packages.Documented) {err : Option String}
    (ended : .group (.ended err) ∈ past)
    (invoked : .group (.invoked .locketRunner) ∈ past) :
    Exited (groupEvents past) .locketRunner :=
  documented.ordered.exited_of_ended composed.allowed ⟨err, mem_groupEvents.mpr ended⟩
    List.mem_cons_self (mem_groupEvents.mpr invoked)

private theorem result_of_ended (documented : packages.Documented)
    (reachable : (model packages settings).Reachable trace p) {err : Option String}
    (ended : .group (.ended err) ∈ trace) :
    err.isSome ↔ ∃ cause, .locket (.lost cause) ∈ trace := by
  have results : .group (.ended err) ∈ trace →
      (err.isSome ↔ ∃ cause, .locket (.lost cause) ∈ trace) := by
    apply reachable.invariant fun past _ => .group (.ended err) ∈ past →
      (err.isSome ↔ ∃ cause, .locket (.lost cause) ∈ past)
    · intro none
      cases none
    · intro past current action next events reached holds stepped ended
      have composed := composed documented reached
      have same := past_eq reached
      -- Nothing is lost after the end.
      have kept : (∀ cause, .locket (.lost cause) ∉ events) →
          ((∃ cause, .locket (.lost cause) ∈ past ++ events) ↔
            ∃ cause, .locket (.lost cause) ∈ past) := by
        intro none
        simp only [List.mem_append, none, or_false]
      rcases List.mem_append.mp ended with earlier | now
      · rw [holds earlier, kept]
        intro cause lost
        cases step_inversion stepped with
        | locketRunner event own permitted =>
            rw [same] at permitted
            rcases documented.running permitted with ⟨invoked, running⟩
            exact running (composed.locket_exited documented earlier
              (mem_groupEvents.mp invoked))
        | interrupt | group | schedulerRuns | scheduler | schedulerReturns => simp at lost
      · cases step_inversion stepped with
        | group event own permitted =>
            cases List.mem_singleton.mp now
            rw [State.history, same] at permitted
            rw [kept (by simp), documented.ordered.result permitted, composed.failed_iff]
            intro invoked
            exact documented.ordered.endsStopped permitted List.mem_cons_self
              (mem_groupEvents.mpr invoked)
        | locketRunner event own =>
            cases List.mem_singleton.mp now
            cases own
        | interrupt | schedulerRuns | scheduler | schedulerReturns => simp at now
  exact results ended

/-! ## Coming to an end -/

/-- Steps that need no answer of the lock service, no signal from outside and no
timer. -/
def Action.IsInternal : Action → Prop
  | .interrupt | .locketRunner (.locket .acquired) | .locketRunner (.locket (.lost _)) => False
  | .scheduler .receiveSignal => True
  | .scheduler action => action.IsInternal
  | _ => True

abbrev ReachesInternally (packages : Packages) (settings : Scheduler.Settings) :
    State → State → Prop :=
  (model packages settings).Reaches Action.IsInternal

private theorem Step.reaches (step : Step packages settings p action next events)
    (internal : action.IsInternal) : ReachesInternally packages settings p next :=
  .single internal step.step_eq

private theorem reachable_of_reaches
    (reachable : ∃ past, (model packages settings).Reachable past p)
    (reaches : ReachesInternally packages settings p next) :
    ∃ past, (model packages settings).Reachable past next := by
  rcases reachable with ⟨past, reachable⟩
  rcases reaches with ⟨actions, later, _, transitions⟩
  exact ⟨_, reachable.transitions transitions⟩

private theorem permits_of_isInternal {action : Scheduler.Action} (internal : action.IsInternal) :
    p.Permits action ∧ (Action.scheduler action).IsInternal := by
  cases action with
  | receiveSignal | callStop | stopReturns => cases internal
  | run index action => exact ⟨trivial, internal⟩
  | timerFires | workersStopTimeoutFires => cases internal
  | receiveTick | resetTimer | listInstancesFails | listInstancesSucceeds | startNext
  | finishStarting | cancelNext | finishRefresh | receiveStopped | cancelOnSignal
  | receiveDone | drainReceive | drainTimeout | finishDraining =>
      exact ⟨trivial, trivial⟩

/-- A run of the scheduler is a run of the process. -/
theorem reaches_scheduler (ready : .ready .scheduleRunner ∈ p.history)
    {final : Scheduler.State}
    (reaches : Scheduler.ReachesInternally settings p.scheduler final) :
    ∃ later : List Scheduler.Event, ReachesInternally packages settings p
      { past := p.past ++ later.map .scheduler, scheduler := final } := by
  rcases reaches with ⟨actions, trace, internal, transitions⟩
  refine ⟨trace, ?_⟩
  induction transitions with
  | nil =>
      rw [List.map_nil, List.append_nil]
      exact .refl p
  | @snoc _ trace middle action events _ _ moved induction =>
      have earlier := induction fun action member =>
        internal action (List.mem_append_left _ member)
      have last : action.IsInternal := internal action (by simp)
      let current : State := ⟨p.past ++ trace.map .scheduler, middle⟩
      have stillReady : .ready .scheduleRunner ∈ current.history := by
        rw [State.history, groupEvents_append]
        exact List.mem_append_left _ ready
      have step : Step packages settings current (.scheduler action) _ _ :=
        .scheduler action _ _ stillReady (permits_of_isInternal last).1
          (Scheduler.step_inversion moved)
      rw [List.map_append, ← List.append_assoc]
      exact earlier.trans (step.reaches (@permits_of_isInternal p action last).2)

private theorem exists_scheduler_returned {s : Scheduler.State} {trace : List Scheduler.Event}
    (reachable : (Scheduler.model settings).Reachable trace s)
    (begun : Scheduler.ShutdownBegun s) :
    ∃ final, Scheduler.ReachesInternally settings s final ∧ final.main = .returned := by
  by_cases left : s.main.LeftLoop
  · rcases left with draining | returned
    · rcases Scheduler.reaches_returned reachable draining with ⟨final, reaches, ended, _⟩
      exact ⟨final, reaches, ended⟩
    · exact ⟨s, .refl s, returned⟩
  · rcases Scheduler.reaches_draining settings begun left with ⟨middle, reaches, draining⟩
    rcases id reaches with ⟨actions, later, _, transitions⟩
    rcases Scheduler.reaches_returned (reachable.transitions transitions) draining with
      ⟨final, rest, ended, _⟩
    exact ⟨final, reaches.trans rest, ended⟩

/-- A continuation by internal steps, with what has happened since. -/
def Continues (packages : Packages) (settings : Scheduler.Settings) (p next : State) : Prop :=
  ReachesInternally packages settings p next ∧ ∃ later, next.past = p.past ++ later

namespace Continues

private theorem refl (p : State) : Continues packages settings p p :=
  ⟨.refl p, [], (List.append_nil p.past).symm⟩

private theorem trans {middle : State} (first : Continues packages settings p middle)
    (second : Continues packages settings middle next) : Continues packages settings p next := by
  rcases first with ⟨reaches, earlier, grown⟩
  rcases second with ⟨rest, later, grownLater⟩
  refine ⟨reaches.trans rest, earlier ++ later, ?_⟩
  rw [grownLater, grown, List.append_assoc]

private theorem step (step : Step packages settings p action next events)
    (internal : action.IsInternal) : Continues packages settings p next :=
  ⟨step.reaches internal, events, step.past_eq⟩

private theorem mem (continues : Continues packages settings p next)
    {event : OrderedGroup.Event Member} (member : event ∈ p.history) :
    event ∈ next.history := by
  rcases continues with ⟨_, later, grown⟩
  rw [State.history, grown, groupEvents_append]
  exact List.mem_append_left _ member

end Continues

/-- A scheduler that has been signalled can return, whatever it is doing. -/
theorem exists_scheduler_end (reachable : ∃ past, (model packages settings).Reachable past p)
    (ready : .ready .scheduleRunner ∈ p.history)
    (signalled : .signalled .scheduleRunner ∈ p.history) :
    ∃ next, Continues packages settings p next ∧ next.scheduler.main = .returned := by
  rcases reachable with ⟨past, reachable⟩
  have inner := scheduler_reachable reachable
  have toEnd : ∀ {q : State}, (∃ past, (model packages settings).Reachable past q) →
      .ready .scheduleRunner ∈ q.history → Scheduler.ShutdownBegun q.scheduler →
      ∃ next, Continues packages settings q next ∧ next.scheduler.main = .returned := by
    intro q reached stillReady begun
    rcases reached with ⟨past, reached⟩
    rcases exists_scheduler_returned (scheduler_reachable reached) begun with
      ⟨final, reaches, ended⟩
    rcases @reaches_scheduler packages _ q stillReady _ reaches with ⟨later, reaches⟩
    exact ⟨_, ⟨reaches, _, rfl⟩, ended⟩
  by_cases begun : Scheduler.ShutdownBegun p.scheduler
  · exact toEnd ⟨past, reachable⟩ ready begun
  · have looping : ¬p.scheduler.main.LeftLoop := fun left =>
      begun (.inr ((Scheduler.shutdownOrder inner).cancelled left))
    have unsignalled : p.scheduler.main ≠ .signalled := fun main => begun (.inl main)
    rcases Scheduler.reaches_selecting settings looping unsignalled with
      ⟨selecting, reaches, main, _⟩
    rcases @reaches_scheduler packages _ p ready _ reaches with ⟨later, toSelecting⟩
    have selects : Continues packages settings p
        { past := p.past ++ later.map .scheduler, scheduler := selecting } :=
      ⟨toSelecting, _, rfl⟩
    have receives : Step packages settings
        { past := p.past ++ later.map .scheduler, scheduler := selecting }
        (.scheduler .receiveSignal) _ _ :=
      .scheduler _ _ _ (selects.mem ready) (selects.mem signalled) (.receiveSignal main)
    have received := selects.trans (.step receives trivial)
    rcases toEnd (reachable_of_reaches ⟨past, reachable⟩ received.1) (received.mem ready)
      (.inl rfl) with ⟨next, rest, ended⟩
    exact ⟨next, received.trans rest, ended⟩

private theorem exists_scheduler_exit
    (reachable : ∃ past, (model packages settings).Reachable past p)
    (invoked : .invoked .scheduleRunner ∈ p.history)
    (signalled : .signalled .scheduleRunner ∈ p.history) :
    ∃ next, Continues packages settings p next ∧ Exited next.history .scheduleRunner := by
  have started : ∃ middle, Continues packages settings p middle ∧
      .ready .scheduleRunner ∈ middle.history := by
    by_cases ready : .ready .scheduleRunner ∈ p.history
    · exact ⟨p, .refl p, ready⟩
    · have step : Step packages settings p .schedulerRuns _ _ := .schedulerRuns invoked ready
      exact ⟨_, .step step trivial, by simp⟩
  rcases started with ⟨middle, starts, ready⟩
  rcases exists_scheduler_end (reachable_of_reaches reachable starts.1) ready
    (starts.mem signalled) with ⟨returned, rest, ended⟩
  have returns := starts.trans rest
  by_cases exited : Exited returned.history .scheduleRunner
  · exact ⟨returned, returns, exited⟩
  · have step : Step packages settings returned .schedulerReturns _ _ :=
      .schedulerReturns (rest.mem ready) exited ended
    exact ⟨_, returns.trans (.step step trivial), none, by simp⟩

/-- The locket runner can exit when it may. -/
theorem exists_locket_exit_of_may {failure : Option String}
    (permitted : packages.locketRunner p.past (.group (.exited .locketRunner failure)) = true) :
    ∃ next, Continues packages settings p next ∧ Exited next.history .locketRunner := by
  have step : Step packages settings p
      (.locketRunner (.group (.exited .locketRunner failure))) _ _ :=
    .locketRunner _ rfl permitted
  exact ⟨_, .step step trivial, failure, by simp⟩

private theorem exists_locket_exit (responsive : packages.Responsive)
    (running : LocketRunning p.past)
    (ends : .group (.signalled .locketRunner) ∈ p.past ∨ ∃ err, .locket (.lost err) ∈ p.past) :
    ∃ next, Continues packages settings p next ∧ Exited next.history .locketRunner := by
  by_cases lost : ∃ err, .locket (.lost err) ∈ p.past
  · rcases lost with ⟨err, lost⟩
    rcases responsive.exitsAfterLoss running lost with ⟨failure, may⟩
    exact exists_locket_exit_of_may may
  · have signalled := ends.resolve_right lost
    push Not at lost
    by_cases released : .locket .releaseCalled ∈ p.past
    · rcases responsive.exitsAfterRelease running released with ⟨failure, may⟩
      exact exists_locket_exit_of_may may
    · have releases : Step packages settings p (.locketRunner (.locket .releaseCalled)) _ _ :=
        .locketRunner _ rfl (responsive.releases running signalled lost released)
      have stillRunning : LocketRunning (p.past ++ [.locket .releaseCalled]) := by
        rwa [LocketRunning, groupEvents_append, groupEvents_locket, List.append_nil]
      rcases responsive.exitsAfterRelease stillRunning (by simp) with ⟨failure, may⟩
      rcases exists_locket_exit_of_may (p := ⟨_, p.scheduler⟩) may with ⟨next, rest, exited⟩
      exact ⟨next, (Continues.step releases trivial).trans rest, exited⟩

private theorem exists_end (documented : packages.Documented) (responsive : packages.Responsive)
    (reachable : (model packages settings).Reachable past p) (hasToEnd : HasToEnd past) :
    ∃ final, ReachesInternally packages settings p final ∧ Ended final.history := by
  have complete : ∀ name, name ∈ members := by
    intro name
    cases name <;> decide
  have ends : ∀ {q : State}, (∃ past, (model packages settings).Reachable past q) →
      Disturbed q.history →
      ∃ final, ReachesInternally packages settings q final ∧ Ended final.history := by
    intro q reached disturbed
    refine documented.ordered.exists_ended responsive.group complete State.history
      (fun q => ∃ past, (model packages settings).Reachable past q) ?_ ?_ reached disturbed
    · intro q event reached own permitted
      have step : Step packages settings q (.group event) _ _ := .group event own permitted
      have reaches := step.reaches trivial
      exact ⟨_, reaches, reachable_of_reaches reached reaches, groupEvents_append _ _⟩
    · intro q name reached signalled running
      rcases reached with ⟨past, reached⟩
      have composed := composed documented reached
      rw [← past_eq reached] at composed
      have invoked := documented.ordered.invoked_of_signalled composed.allowed signalled
      have exits : ∃ next, Continues packages settings q next ∧ Exited next.history name := by
        cases name with
        | locketRunner =>
            exact exists_locket_exit responsive ⟨invoked, running⟩
              (.inl (mem_groupEvents.mp signalled))
        | scheduleRunner => exact exists_scheduler_exit ⟨past, reached⟩ invoked signalled
      rcases exits with ⟨next, ⟨reaches, later, grown⟩, exited⟩
      refine ⟨next, groupEvents later, reaches, reachable_of_reaches ⟨past, reached⟩ reaches,
        ?_, exited⟩
      rw [State.history, grown, groupEvents_append]
  have composed := composed documented reachable
  rw [← past_eq reachable] at hasToEnd composed
  rcases hasToEnd with interrupted | ⟨err, lost⟩
  · exact ends ⟨past, reachable⟩ (.inl (mem_groupEvents.mpr interrupted))
  · by_cases exited : Exited p.history .locketRunner
    · exact ends ⟨past, reachable⟩ (.inr ⟨_, exited⟩)
    · have running : LocketRunning p.past :=
        ⟨mem_groupEvents.mpr (composed.lock.invoked lost), exited⟩
      rcases @exists_locket_exit _ settings _ responsive running (.inr ⟨err, lost⟩) with
        ⟨next, exits, exited⟩
      rcases ends (reachable_of_reaches ⟨past, reachable⟩ exits.1) (.inr ⟨_, exited⟩) with
        ⟨final, rest, ended⟩
      exact ⟨final, exits.1.trans rest, ended⟩

/-- With a group and a locket runner as documented, the group signals its members
only after a signal or a lost lock, and once either has happened the process can
always come to its end. Its exit status then is 1 exactly if the lock was lost;
and if it is 0, there was a signal, and a lock that was acquired is released by a
call of `Release`. -/
theorem process_ends (documented : packages.Documented) (responsive : packages.Responsive)
    (reachable : (model packages settings).Reachable trace p) :
    (∀ name, .group (.signalled name) ∈ trace → HasToEnd trace) ∧
    (HasToEnd trace →
      ∃ final, ReachesInternally packages settings p final ∧ Ended final.history) ∧
    ∀ err, .group (.ended err) ∈ trace →
      (exitStatus err = 1 ↔ ∃ cause, .locket (.lost cause) ∈ trace) ∧
      (exitStatus err = 0 → .group .interrupted ∈ trace ∧
        (.locket .acquired ∈ trace → .locket .releaseCalled ∈ trace)) := by
  refine ⟨?_, exists_end documented responsive reachable, ?_⟩
  · intro name signalled
    exact hasToEnd_of_stopping documented reachable (.inr ⟨name, signalled⟩)
  · intro err ended
    have composed := composed documented reachable
    have result := result_of_ended documented reachable ended
    rcases composed.allowed.exists_past rfl (mem_groupEvents.mpr ended) with
      ⟨before, later, history, may⟩
    have disturbed : Disturbed (groupEvents trace) := by
      rw [history]
      exact (documented.ordered.endsDisturbed may).append
    have hasToEnd := hasToEnd_of_stopping documented reachable (.inl disturbed)
    cases err with
    | some failure =>
        exact ⟨iff_of_true rfl (result.mp rfl), fun zero => by cases zero⟩
    | none =>
        have notLost : ¬∃ cause, .locket (.lost cause) ∈ trace :=
          fun lost => Bool.false_ne_true (result.mpr lost)
        refine ⟨iff_of_false (by decide) notLost, fun _ => ⟨hasToEnd.resolve_right notLost, ?_⟩⟩
        intro acquired
        rcases composed.locket_exited documented ended (composed.lock.invoked acquired) with
          ⟨failure, exited⟩
        rw [mem_groupEvents] at exited
        cases failure with
        | none => exact (composed.lock.exitedReleased exited).1
        | some failure => exact absurd ⟨failure, composed.lock.exitedLost exited⟩ notLost

/-- The lock is lost while the scheduler of the samples waits. -/
theorem process_ends_sample :
    ∃ p trace, (model samplePackages Scheduler.sampleSettings).run .initial
        (sampleLeader ++ [.locketRunner (.locket (.lost "collision"))]) = some (p, trace) ∧
      .locket (.lost "collision") ∈ trace ∧
      ∃ final, ReachesInternally samplePackages Scheduler.sampleSettings p final ∧
        Ended final.history := by
  refine ⟨_, _, rfl, by simp, ?_⟩
  have ends := process_ends documented_samplePackages responsive_samplePackages
    ((model samplePackages Scheduler.sampleSettings).reachable_of_run
      (sampleLeader ++ [.locketRunner (.locket (.lost "collision"))]) rfl)
  exact ends.2.1 (.inr ⟨"collision", by simp⟩)

end RdsMetricCollector.Process
