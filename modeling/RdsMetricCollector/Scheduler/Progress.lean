import Mathlib.Algebra.Ring.Nat
import RdsMetricCollector.Scheduler.Shutdown

/-! # Progress

Nothing waits forever. Before shutdown every loop waits on a timer that will
fire; after it the main loop and the workers can always go on until all of them
have returned.
-/

namespace RdsMetricCollector.Scheduler

open RdsMetricCollector.Execution
open RdsMetricCollector.Runtime

/-! ## The refresh timer -/

/-- The refresh timer is live, except after its tick was received and before it
is reset, and when the loop is over. -/
def RefreshTimerLive (s : State) : Prop :=
  match s.main with
  | .ticked | .signalled | .draining | .returned => True
  | _ => s.timer.Live

private theorem RefreshTimerLive.frame {s next : State} (live : RefreshTimerLive s)
    (main : next.main = s.main) (timer : next.timer = s.timer) :
    RefreshTimerLive next := by
  unfold RefreshTimerLive at live ⊢
  rwa [main, timer]

private theorem Step.refreshTimerLive {settings : Settings} {s next : State}
    {action : Action} {events : List Event}
    (step : Step settings s action next events) (live : RefreshTimerLive s) :
    RefreshTimerLive next := by
  cases step with
  | timerFires timer fired =>
      have running := Timer.live_of_fire fired
      unfold RefreshTimerLive
      split <;> trivial
  | resetTimer main => exact Timer.live_reset _ _
  | listInstancesFails err main => simpa [RefreshTimerLive, main] using live
  | listInstancesSucceeds listing order main =>
      simpa [RefreshTimerLive, main] using live
  | skipRegistered desired id instanceInfo remaining main =>
      simpa [RefreshTimerLive, main] using live
  | startMissing desired id instanceInfo remaining main =>
      simpa [RefreshTimerLive, main] using live
  | finishStarting desired order main => simpa [RefreshTimerLive, main] using live
  | skipDesired desired id index remaining main =>
      simpa [RefreshTimerLive, main] using live
  | cancelUndesired desired id index remaining main =>
      simpa [RefreshTimerLive, main] using live
  | finishRefresh desired main => simpa [RefreshTimerLive, main] using live
  | receiveTick | receiveSignal | cancelOnSignal | receiveDone
  | finishDraining => trivial
  | receiveStopped | drainReceive | workersStopTimeoutFires | drainTimeout
  | callStop | stopReturns | run => exact live.frame rfl rfl

theorem refreshTimerLive {settings : Settings} {trace : List Event} {s : State}
    (reachable : (model settings).Reachable trace s) : RefreshTimerLive s := by
  apply reachable.invariant fun _ current => RefreshTimerLive current
  · exact Timer.live_newTimer 0
  · intro past current action next events _ live stepped
    exact (step_inversion stepped).refreshTimerLive live

/-! ## Leaving the loop -/

/-- Steps of the main loop and the workers. No timer fires, no signal comes and
`Stop` is not called. -/
def Action.IsInternal : Action → Prop
  | .timerFires | .workersStopTimeoutFires | .run _ .timerFires => False
  | .receiveSignal | .callStop | .stopReturns => False
  | _ => True

/-- Reachable by steps of the main loop and the workers alone. -/
abbrev ReachesInternally (settings : Settings) : State → State → Prop :=
  (model settings).Reaches Action.IsInternal

private theorem Step.reaches {settings : Settings} {s next : State} {action : Action}
    {events : List Event} (step : Step settings s action next events)
    (internal : action.IsInternal) : ReachesInternally settings s next :=
  .single internal step.step_eq

private theorem reaches_started (settings : Settings) {desired : DesiredWorkers}
    {remaining : List DesiredEntry} {s : State}
    (main : s.main = .starting desired remaining) :
    ∃ next, ReachesInternally settings s next ∧
      next.main = .starting desired [] ∧
      next.registry.cancelled = s.registry.cancelled := by
  induction remaining generalizing s with
  | nil => exact ⟨s, .refl s, main, rfl⟩
  | cons entry remaining induction =>
      rcases entry with ⟨id, instanceInfo⟩
      have first : ∃ middle, ReachesInternally settings s middle ∧
          middle.main = .starting desired remaining ∧
          middle.registry.cancelled = s.registry.cancelled := by
        by_cases registered : id ∈ s.registry.workers
        · exact ⟨_, (Step.skipRegistered desired id instanceInfo remaining main
            registered).reaches trivial, rfl, rfl⟩
        · exact ⟨_, (Step.startMissing desired id instanceInfo remaining main
            registered).reaches trivial, rfl, rfl⟩
      rcases first with ⟨middle, reaches, middleMain, middleCancelled⟩
      rcases induction middleMain with ⟨next, later, nextMain, nextCancelled⟩
      exact ⟨next, reaches.trans later, nextMain, nextCancelled.trans middleCancelled⟩

private theorem reaches_cancelled (settings : Settings) {desired : DesiredWorkers}
    {remaining : List WorkerEntry} {s : State}
    (main : s.main = .cancelling desired remaining) :
    ∃ next, ReachesInternally settings s next ∧ next.main = .selecting ∧
      next.registry.cancelled = s.registry.cancelled := by
  induction remaining generalizing s with
  | nil => exact ⟨_, (Step.finishRefresh desired main).reaches trivial, rfl, rfl⟩
  | cons entry remaining induction =>
      rcases entry with ⟨id, index⟩
      have first : ∃ middle, ReachesInternally settings s middle ∧
          middle.main = .cancelling desired remaining ∧
          middle.registry.cancelled = s.registry.cancelled := by
        by_cases wanted : id ∈ desired
        · exact ⟨_, (Step.skipDesired desired id index remaining main
            wanted).reaches trivial, rfl, rfl⟩
        · exact ⟨_, (Step.cancelUndesired desired id index remaining main
            wanted).reaches trivial, rfl, rfl⟩
      rcases first with ⟨middle, reaches, middleMain, middleCancelled⟩
      rcases induction middleMain with ⟨next, later, nextMain, nextCancelled⟩
      exact ⟨next, reaches.trans later, nextMain, nextCancelled.trans middleCancelled⟩

/-- A refresh that has begun can be completed. -/
theorem reaches_selecting_of_listing (settings : Settings) {s : State}
    (main : s.main = .listing) :
    ∃ next, ReachesInternally settings s next ∧ next.main = .selecting ∧
      next.registry.cancelled = s.registry.cancelled :=
  ⟨_, (Step.listInstancesFails "" main).reaches trivial, rfl, rfl⟩

theorem reaches_selecting (settings : Settings) {s : State}
    (looping : ¬s.main.LeftLoop) (unsignalled : s.main ≠ .signalled) :
    ∃ next, ReachesInternally settings s next ∧ next.main = .selecting ∧
      next.registry.cancelled = s.registry.cancelled := by
  cases main : s.main with
  | selecting => exact ⟨s, .refl s, main, rfl⟩
  | ticked =>
      let reset : State := { s with
        main := .listing
        timer := s.timer.reset (settings.instanceRefreshInterval * second) }
      rcases reaches_selecting_of_listing settings (show reset.main = .listing from rfl) with
        ⟨next, later, nextMain, nextCancelled⟩
      exact ⟨next, ((Step.resetTimer main).reaches trivial).trans later,
        nextMain, nextCancelled⟩
  | listing => exact reaches_selecting_of_listing settings main
  | starting desired remaining =>
      rcases reaches_started settings main with
        ⟨started, reaches, startedMain, startedCancelled⟩
      rcases exists_rangeOrder started.registry.workers with ⟨order, visits⟩
      rcases reaches_cancelled settings (show
          { started with main := .cancelling desired order }.main = _ from rfl) with
        ⟨next, later, nextMain, nextCancelled⟩
      exact ⟨next, reaches.trans
          (((Step.finishStarting desired order startedMain visits).reaches
            trivial).trans later),
        nextMain, nextCancelled.trans startedCancelled⟩
  | cancelling desired remaining => exact reaches_cancelled settings main
  | signalled => exact absurd main unsignalled
  | draining => exact absurd (.inl main) looping
  | returned => exact absurd (.inr main) looping

/-- A signal was received or the context of the scheduler is cancelled. -/
def ShutdownBegun (s : State) : Prop :=
  s.main = .signalled ∨ s.registry.cancelled = true

/-- Without a call of `Stop`, shutdown begins with a signal. -/
theorem Step.shutdownBegun {settings : Settings} {s next : State} {action : Action}
    {events : List Event} (step : Step settings s action next events)
    (notStopped : action ≠ .callStop) (begun : ShutdownBegun next) :
    ShutdownBegun s ∨ action = .receiveSignal := by
  unfold ShutdownBegun at begun
  cases step with
  | receiveSignal => exact .inr rfl
  | callStop => exact absurd rfl notStopped
  | cancelOnSignal main => exact .inl (.inl main)
  | receiveDone main cancelled => exact .inl (.inr cancelled)
  | run index action registry events ran =>
      rw [(Registry.runWorker_frame ran).2.2] at begun
      exact .inl begun
  | receiveStopped registry events main reaped =>
      rw [(reap_frame reaped).1] at begun
      exact .inl begun
  | drainReceive registry events main nonempty reaped =>
      rw [(reap_frame reaped).1] at begun
      exact .inl begun
  | timerFires | workersStopTimeoutFires | drainTimeout | stopReturns =>
      exact .inl begun
  | receiveTick | resetTimer | listInstancesFails | listInstancesSucceeds
  | skipRegistered | startMissing | finishStarting | skipDesired | cancelUndesired
  | finishRefresh | finishDraining =>
      exact .inl (.inr (begun.resolve_left nofun))

theorem reaches_draining (settings : Settings) {s : State}
    (begun : ShutdownBegun s) (looping : ¬s.main.LeftLoop) :
    ∃ next, ReachesInternally settings s next ∧ next.main = .draining := by
  by_cases signalled : s.main = .signalled
  · exact ⟨_, (Step.cancelOnSignal signalled).reaches trivial, rfl⟩
  · have cancelled := begun.resolve_left signalled
    rcases reaches_selecting settings looping signalled with
      ⟨selecting, reaches, main, same⟩
    exact ⟨_, reaches.trans
      ((Step.receiveDone main (same.trans cancelled)).reaches trivial), rfl⟩

/-! ## Draining -/

/-- An upper bound for the steps that a cancelled worker still needs. Sending
the stop message counts twice, since the message has to be received as well. -/
def Goroutine.weight (g : Goroutine) : Nat :=
  match g.point with
  | .entry => 4
  | .creating => 3
  | .selecting => 5
  | .collecting => 7
  | .emitting remaining => 6 + remaining.length
  | .returning => 2 * g.deferred.length

/-- With a cancelled context an unfinished worker can come closer to its end. -/
theorem Goroutine.exists_step {g : Goroutine} (formed : g.WellFormed)
    (running : ¬g.Finished) :
    ∃ action next events, g.Step true action next events ∧ action ≠ .timerFires ∧
      next.weight + events.count .stoppedSent < g.weight := by
  have fits := formed.deferred
  rcases Option.isSome_iff_exists.mp formed.driver with ⟨driver, registered⟩
  unfold DeferredFits at fits
  cases point : g.point with
  | entry =>
      exact ⟨_, _, _, .callNewCollector point formed.driver, nofun,
        by simp [weight, point]⟩
  | creating =>
      rw [point] at fits
      exact ⟨_, _, _, .creationFails "" point, nofun, by simp [weight, point, fits]⟩
  | selecting =>
      rw [point] at fits
      exact ⟨_, _, _, .receiveDone point rfl, nofun, by simp [weight, point, fits]⟩
  | collecting =>
      exact ⟨_, _, _, .collected [] point, nofun, by simp [weight, point]⟩
  | emitting remaining =>
      cases remaining with
      | nil =>
          exact ⟨_, _, _, .finishEmitting driver point registered, nofun,
            by simp [weight, point]⟩
      | cons metric remaining =>
          exact ⟨_, _, _, .emit metric remaining point, nofun,
            by simp [weight, point]⟩
  | returning =>
      cases deferred : g.deferred with
      | nil => exact absurd ⟨point, deferred⟩ running
      | cons call rest =>
          cases call with
          | closeCollector =>
              exact ⟨_, _, _, .close rest point deferred, nofun,
                by simp [weight, point, deferred]⟩
          | sendStopped =>
              exact ⟨_, _, _, .sendStopped rest point deferred, nofun,
                by simp [weight, point, deferred]; omega⟩

def Registry.rank (r : Registry) : Nat :=
  (r.goroutines.map Goroutine.weight).sum + r.stoppedWorker.buffer.length

private theorem sum_weight_set {goroutines : List Goroutine} {index : Nat}
    {g : Goroutine} (present : goroutines[index]? = some g) (next : Goroutine) :
    ((goroutines.set index next).map Goroutine.weight).sum + g.weight =
      (goroutines.map Goroutine.weight).sum + next.weight := by
  induction goroutines generalizing index with
  | nil => simp at present
  | cons head tail induction =>
      cases index with
      | zero =>
          have same : head = g := by simpa using present
          subst same
          simp only [List.set_cons_zero, List.map_cons, List.sum_cons]
          omega
      | succ index =>
          have rest := induction (by simpa using present)
          simp only [List.set_cons_succ, List.map_cons, List.sum_cons]
          omega

/-- A worker step with a cancelled context, when the channel has room. -/
theorem Registry.exists_runWorker {r : Registry} {index : Nat} {g : Goroutine}
    (present : r.goroutines[index]? = some g) (formed : g.WellFormed)
    (running : ¬g.Finished) (cancelled : r.cancelled = true)
    (room : r.stoppedWorker.buffer = []) :
    ∃ action next events, r.runWorker index action = some (next, events) ∧
      action ≠ .timerFires ∧ next.rank < r.rank := by
  have done : r.contextDone g = true := by simp [contextDone, cancelled]
  rcases Goroutine.exists_step formed running with
    ⟨action, moved, events, step, notTimer, lower⟩
  rw [← done] at step
  have total := sum_weight_set present moved
  by_cases sends : .stoppedSent ∈ events
  · rcases Channel.exists_send
      (show r.stoppedWorker.buffer.length < 1 by simp [room]) g.worker.id with
      ⟨channel, sent⟩
    have buffer := (Channel.send_eq_some sent).2
    have positive := List.count_pos_iff.mpr sends
    refine ⟨action, _, _, runWorker_eq present step ((if_pos sends).trans sent),
      notTimer, ?_⟩
    simp only [rank, buffer, List.length_append, List.length_singleton]
    omega
  · refine ⟨action, _, _, runWorker_eq present step (if_neg sends), notTimer, ?_⟩
    simp only [rank]
    omega

theorem exists_lookup_of_ne_empty {workers : Finmap fun _ : WorkerID => Nat}
    (nonempty : workers ≠ ∅) : ∃ id index, workers.lookup id = some index := by
  by_contra absent
  apply nonempty
  apply Finmap.ext_lookup
  intro id
  rw [Finmap.lookup_empty, Option.eq_none_iff_forall_ne_some]
  intro index found
  exact absent ⟨id, index, found⟩

/-- While workers are registered, a stop message can be received or a worker
can go on. -/
theorem drain_lowers {settings : Settings} {trace : List Event} {s : State}
    (reachable : (model settings).Reachable trace s) (main : s.main = .draining)
    (nonempty : s.registry.workers ≠ ∅) :
    ∃ action next events, action.IsInternal ∧
      step settings s action = some (next, events) ∧ next.main = .draining ∧
      next.registry.rank < s.registry.rank := by
  have cancelled := (shutdownOrder reachable).cancelled (.inl main)
  have consistent := registry_consistent reachable
  by_cases waiting : s.registry.stoppedWorker.buffer = []
  · rcases exists_lookup_of_ne_empty nonempty with ⟨id, index, found⟩
    rcases consistent.registered found with ⟨finished, status⟩
    rcases Registry.exists_statusAt_iff.mp ⟨_, status⟩ with ⟨g, present, rfl⟩
    have running : ¬g.Finished := by
      intro ended
      have announced := consistent.message.mpr ⟨index, found, by
        simp [Registry.statusAt, present, ended]⟩
      simp [waiting] at announced
    rcases Registry.exists_runWorker present (ranTo reachable present).wellFormed running
        cancelled waiting with ⟨action, next, events, ran, notTimer, lower⟩
    refine ⟨.run index action, _, _, ?_,
      (Step.run index action next events ran).step_eq, main, lower⟩
    cases action with
    | timerFires => exact absurd rfl notTimer
    | _ => trivial
  · rcases Channel.exists_receive waiting with ⟨id, channel, received⟩
    have reaped : s.registry.reap = some
        (Registry.deleteWorker { s.registry with stoppedWorker := channel } id,
          [.workerDeleted id]) := by
      simp [Registry.reap, received]
    refine ⟨.drainReceive, _, _, trivial,
      (Step.drainReceive _ _ main nonempty reaped).step_eq, main, ?_⟩
    simp [Registry.rank, Channel.receive_eq_some received]

theorem reaches_returned {settings : Settings} {trace : List Event} {s : State}
    (reachable : (model settings).Reachable trace s) (main : s.main = .draining) :
    ∃ final, ReachesInternally settings s final ∧ final.main = .returned ∧
      final.registry.workers = ∅ := by
  have lowers : ∀ current, ((∃ trace, (model settings).Reachable trace current) ∧
        current.main = .draining) →
      (current.main = .draining ∧ current.registry.workers = ∅) ∨
        ∃ next, ReachesInternally settings current next ∧
          ((∃ trace, (model settings).Reachable trace next) ∧
            next.main = .draining) ∧
          next.registry.rank < current.registry.rank := by
    intro current draining
    rcases draining with ⟨⟨trace, reached⟩, main⟩
    by_cases empty : current.registry.workers = ∅
    · exact .inl ⟨main, empty⟩
    · rcases drain_lowers reached main empty with
        ⟨action, next, events, internal, stepped, nextMain, lower⟩
      exact .inr ⟨next, .single internal stepped,
        ⟨⟨_, reached.step stepped⟩, nextMain⟩, lower⟩
  rcases Model.Reaches.of_rank _ _ _ lowers ⟨⟨trace, reachable⟩, main⟩ with
    ⟨drained, reaches, drainedMain, empty⟩
  exact ⟨_, reaches.trans ((Step.finishDraining drainedMain empty).reaches trivial),
    rfl, empty⟩

/-- No loop is ever stuck: the timers that the main loop and the workers wait
for are live, and once shutdown has begun the main loop and the workers can
always go on until no worker is left and the main loop has returned. -/
theorem never_stuck {settings : Settings} {trace : List Event} {s : State}
    (reachable : (model settings).Reachable trace s) :
    (s.main = .selecting → s.timer.Live) ∧
    (∀ (index : Nat) (g : Goroutine), s.registry.goroutines[index]? = some g →
      g.point = .selecting → g.timer.Live) ∧
    (ShutdownBegun s →
      ∃ final, ReachesInternally settings s final ∧ final.main = .returned ∧
        final.registry.workers = ∅) := by
  refine ⟨?_, ?_, ?_⟩
  · intro main
    simpa [RefreshTimerLive, main] using refreshTimerLive reachable
  · intro index g present
    exact (ranTo reachable present).wellFormed.timer
  · intro begun
    by_cases left : s.main.LeftLoop
    · rcases left with draining | returned
      · exact reaches_returned reachable draining
      · exact ⟨s, .refl s, returned, (shutdownOrder reachable).empty returned⟩
    · rcases reaches_draining settings begun left with ⟨draining, reaches, main⟩
      have reaches' := reaches
      rcases reaches' with ⟨actions, later, _, transitions⟩
      rcases reaches_returned (reachable.transitions transitions) main with
        ⟨final, rest, finished⟩
      exact ⟨final, reaches.trans rest, finished⟩

/-- `Stop` is called while the sample worker runs. -/
theorem never_stuck_sample :
    ∃ s trace, (model sampleSettings).run .initial (sampleRefresh ++ [.callStop]) =
        some (s, trace) ∧
      s.registry.workers.keys = {sampleID} ∧ s.main = .selecting ∧ s.timer.Live ∧
      ∃ final, ReachesInternally sampleSettings s final ∧ final.main = .returned ∧
        final.registry.workers = ∅ := by
  refine ⟨_, _, rfl, by decide, rfl, ?_⟩
  have progress := never_stuck
    ((model sampleSettings).reachable_of_run (sampleRefresh ++ [.callStop]) rfl)
  exact ⟨progress.1 rfl, progress.2.2 (.inr rfl)⟩

end RdsMetricCollector.Scheduler
