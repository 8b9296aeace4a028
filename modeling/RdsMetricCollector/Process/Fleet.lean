import RdsMetricCollector.Process.Leadership

/-! # Several processes

Any number of processes that share the lock. The lock service is a parameter: it is
assumed to answer the request of a process only when every process that it has
answered before has called `Release` or has let its lease expire. Two schedulers run
at the same time only after such an expiry.
-/

namespace RdsMetricCollector.Process

open RdsMetricCollector.Execution
open RdsMetricCollector.OrderedGroup

variable {packages : Packages} {settings : Scheduler.Settings}

/-- The scheduler of the process runs. -/
def State.MayWork (p : State) : Prop :=
  .group (.ready .scheduleRunner) ∈ p.past ∧ p.scheduler.main ≠ .returned

/-- While its scheduler runs, a process has acquired the lock and has not called
`Release`. -/
theorem Composed.holds_of_mayWork {p : State}
    (composed : Composed packages p.past p.scheduler) (documented : packages.Documented)
    (mayWork : p.MayWork) :
    .locket .acquired ∈ p.past ∧ .locket .releaseCalled ∉ p.past := by
  refine ⟨composed.acquired documented mayWork.1, ?_⟩
  intro released
  have settled := composed.settled documented (composed.lock.released released)
  have invoked := mem_groupEvents.mpr (composed.scheduler.invoked mayWork.1)
  exact mayWork.2 (settled.rests.resolve_left (not_not_intro invoked))

private theorem Step.mayWork {past events : List Event} {p next : State} {action : Action}
    (step : Step packages settings p action next events)
    (reachable : (model packages settings).Reachable past p) {event : Event}
    (emitted : event ∈ events) (work : event.IsWork) : p.MayWork := by
  cases step with
  | scheduler action final events ready permitted moved =>
      refine ⟨mem_groupEvents.mp ready, fun returned => ?_⟩
      have inner := scheduler_reachable reachable
      have quiescent : Scheduler.Quiescent p.scheduler :=
        ⟨by rw [returned]; trivial, (Scheduler.shutdownOrder inner).empty returned⟩
      rcases List.mem_map.mp emitted with ⟨own, member, rfl⟩
      exact (quiescent.step inner moved).2 own member work
  | locketRunner event own =>
      cases List.mem_singleton.mp emitted
      cases event with
      | scheduler event => cases own
      | group event | locket event => cases work
  | interrupt | group | schedulerRuns | schedulerReturns =>
      rw [List.mem_singleton.mp emitted] at work
      cases work

namespace Fleet

inductive Event
  /-- The lease of a process expires. -/
  | expired (index : Nat)
  | replica (index : Nat) (event : Process.Event)

/-- Whether the lock service may give the lock to a process after a history. -/
abbrev LockService := List Event → Nat → Bool

/-- A process learns that it has the lock only if every other one that has had it
has called `Release` or one of the two leases has expired. -/
def LockService.Exclusive (service : LockService) : Prop :=
  ∀ past index other, service past index = true → other ≠ index →
    .replica other (.locket .acquired) ∈ past →
    .replica other (.locket .releaseCalled) ∈ past ∨
      .expired other ∈ past ∨ .expired index ∈ past

structure State where
  past : List Event
  replica : Nat → Process.State

inductive Action
  | expire (index : Nat)
  | replica (index : Nat) (action : Process.Action)

def initial : State where
  past := []
  replica _ := .initial

def isAcquired : Process.Event → Bool
  | .locket .acquired => true
  | _ => false

def step (packages : Packages) (service : LockService) (settings : Scheduler.Settings)
    (s : State) : Action → Option (State × List Event)
  | .expire index => some ({ s with past := s.past ++ [.expired index] }, [.expired index])
  | .replica index action =>
      (Process.step packages settings (s.replica index) action).bind fun (next, events) =>
        if events.any isAcquired = true → service s.past index = true then
          some ({ past := s.past ++ events.map (.replica index)
                  replica := Function.update s.replica index next },
            events.map (.replica index))
        else
          none

def model (packages : Packages) (service : LockService) (settings : Scheduler.Settings) :
    Model State Action Event where
  initial := initial
  step := step packages service settings

inductive Step (packages : Packages) (service : LockService) (settings : Scheduler.Settings)
    (s : State) : Action → State → List Event → Prop
  | expire (index) :
      Step packages service settings s (.expire index)
        { s with past := s.past ++ [.expired index] } [.expired index]
  | replica (index action next events) :
      Process.Step packages settings (s.replica index) action next events →
      (.locket .acquired ∈ events → service s.past index = true) →
      Step packages service settings s (.replica index action)
        { past := s.past ++ events.map (.replica index)
          replica := Function.update s.replica index next }
        (events.map (.replica index))

variable {service : LockService} {s next : State} {action : Action}
  {past trace events : List Event}

private theorem step_inversion
    (stepped : step packages service settings s action = some (next, events)) :
    Step packages service settings s action next events := by
  cases action with
  | expire index =>
      cases stepped
      exact .expire index
  | replica index action =>
      rcases Option.bind_eq_some_iff.mp stepped with ⟨⟨moved, inner⟩, inside, agreed⟩
      simp only at agreed
      split at agreed
      case isTrue served =>
        cases agreed
        refine .replica index action moved inner (Process.step_inversion inside) ?_
        intro acquired
        exact served (List.any_eq_true.mpr ⟨_, acquired, rfl⟩)
      case isFalse => cases agreed

private theorem past_eq (reachable : (model packages service settings).Reachable trace s) :
    s.past = trace := by
  apply reachable.invariant fun past current => current.past = past
  · rfl
  · intro past current action next events _ same stepped
    cases step_inversion stepped with
    | expire | replica => simp only [same]

/-! ## One process among the others -/

def Event.ofReplica (index : Nat) : Event → Option Process.Event
  | .replica other event => if other = index then some event else none
  | .expired _ => none

private theorem filterMap_ofReplica (index other : Nat) (events : List Process.Event) :
    (events.map (Event.replica other)).filterMap (Event.ofReplica index) =
      if other = index then events else [] := by
  rw [List.filterMap_map]
  split
  case isTrue same =>
    have identity : Event.ofReplica index ∘ Event.replica other = some := by
      funext event
      exact if_pos same
    rw [identity, List.filterMap_some]
  case isFalse different =>
    rw [List.filterMap_eq_nil_iff]
    intro event _
    exact if_neg different

theorem mem_ofReplica {index : Nat} {event : Process.Event} :
    event ∈ trace.filterMap (Event.ofReplica index) ↔ .replica index event ∈ trace := by
  apply mem_filterMap_view
  intro seen own
  cases seen with
  | expired other => simp [Event.ofReplica]
  | replica other inner =>
      by_cases same : other = index
      · simp [Event.ofReplica, same]
      · simp [Event.ofReplica, same]

/-- Each process of the fleet is a process. -/
def replicaSimulation (packages : Packages) (service : LockService)
    (settings : Scheduler.Settings) (index : Nat) :
    Simulation (model packages service settings) (Process.model packages settings) where
  abstraction s := s.replica index
  view := Event.ofReplica index
  initial := rfl
  step := by
    intro past current action next events _ stepped
    cases step_inversion stepped with
    | expire other => exact ⟨[], .nil⟩
    | replica other action moved inner step served =>
        rw [filterMap_ofReplica]
        by_cases same : other = index
        · subst other
          rw [if_pos rfl]
          simp only [Function.update_self]
          exact ⟨[action], .single step.step_eq⟩
        · rw [if_neg same]
          simp only [Function.update_of_ne (Ne.symm same)]
          exact ⟨[], .nil⟩

private theorem replica_reachable (reachable : (model packages service settings).Reachable trace s)
    (index : Nat) :
    (Process.model packages settings).Reachable (trace.filterMap (Event.ofReplica index))
      (s.replica index) :=
  (replicaSimulation packages service settings index).reachable reachable

/-! ## Exclusion -/

/-- A process that runs its scheduler has acquired the lock and not yet called
`Release`. -/
theorem holds_of_mayWork (documented : packages.Documented)
    (reachable : (model packages service settings).Reachable trace s) {index : Nat}
    (mayWork : (s.replica index).MayWork) :
    .replica index (.locket .acquired) ∈ trace ∧
      .replica index (.locket .releaseCalled) ∉ trace := by
  have own := replica_reachable reachable index
  have composed := composed documented own
  rw [← Process.past_eq own] at composed
  have holds := composed.holds_of_mayWork documented mayWork
  rwa [Process.past_eq own, mem_ofReplica, mem_ofReplica] at holds

/-- Of two processes, one has called `Release` or has let its lease expire. -/
def Parted (past : List Event) (left right : Nat) : Prop :=
  (.replica left (.locket .releaseCalled) ∈ past ∨
    .replica right (.locket .releaseCalled) ∈ past) ∨
  .expired left ∈ past ∨ .expired right ∈ past

private theorem Parted.append {left right : Nat} (parted : Parted past left right) :
    Parted (past ++ events) left right :=
  parted.imp
    (Or.imp (List.mem_append_left events) (List.mem_append_left events))
    (Or.imp (List.mem_append_left events) (List.mem_append_left events))

/-- Two processes that have acquired the lock did so one after the other. -/
theorem parted_of_acquired (exclusive : service.Exclusive)
    (reachable : (model packages service settings).Reachable trace s) {left right : Nat}
    (different : left ≠ right)
    (leftAcquired : .replica left (.locket .acquired) ∈ trace)
    (rightAcquired : .replica right (.locket .acquired) ∈ trace) :
    Parted trace left right := by
  have holds : .replica left (.locket .acquired) ∈ trace →
      .replica right (.locket .acquired) ∈ trace → Parted trace left right := by
    apply reachable.invariant fun past _ => .replica left (.locket .acquired) ∈ past →
      .replica right (.locket .acquired) ∈ past → Parted past left right
    · intro none
      cases none
    · intro past current action next events reached before stepped hasLeft hasRight
      -- The later of the two acquisitions is the one that the service permits.
      have granted : ∀ {index}, .replica index (.locket .acquired) ∈ events →
          service past index = true ∧ ∀ other event, .replica other event ∈ events →
            other = index := by
        intro index acquired
        cases step_inversion stepped with
        | expire other => simp at acquired
        | replica stepping action moved inner step served =>
            rcases List.mem_map.mp acquired with ⟨own, member, equal⟩
            cases equal
            rw [← past_eq reached]
            refine ⟨served member, ?_⟩
            intro other event emitted
            rcases List.mem_map.mp emitted with ⟨_, _, same⟩
            cases same
            rfl
      rcases List.mem_append.mp hasLeft with leftBefore | leftNow
      · rcases List.mem_append.mp hasRight with rightBefore | rightNow
        · exact (before leftBefore rightBefore).append
        · rcases exclusive past right left (granted rightNow).1 different leftBefore with
            released | expired
          · exact Parted.append (.inl (.inl released))
          · exact Parted.append (.inr expired)
      · rcases List.mem_append.mp hasRight with rightBefore | rightNow
        · rcases exclusive past left right (granted leftNow).1 different.symm rightBefore with
            released | expired
          · exact Parted.append (.inl (.inr released))
          · exact Parted.append (.inr expired.symm)
        · exact absurd ((granted rightNow).2 left _ leftNow) different
  exact holds leftAcquired rightAcquired

/-- Exclusion: in every run of any number of processes, with packages as documented
and a lock service that is exclusive, a worker of a process does something only after
that process acquired the lock and before it calls `Release`; and two schedulers only
run at the same time if the lease of one of them has expired. -/
theorem work_excluded (documented : packages.Documented) (exclusive : service.Exclusive)
    (reachable : (model packages service settings).Reachable trace s) :
    (∀ action next events index event,
      (model packages service settings).step s action = some (next, events) →
      .replica index event ∈ events → event.IsWork →
      .replica index (.locket .acquired) ∈ trace ∧
        .replica index (.locket .releaseCalled) ∉ trace ∧
        ∀ other, other ≠ index → (s.replica other).MayWork →
          .expired index ∈ trace ∨ .expired other ∈ trace) ∧
    ∀ left right, left ≠ right → (s.replica left).MayWork → (s.replica right).MayWork →
      .expired left ∈ trace ∨ .expired right ∈ trace := by
  have excludes : ∀ left right, left ≠ right → (s.replica left).MayWork →
      (s.replica right).MayWork → .expired left ∈ trace ∨ .expired right ∈ trace := by
    intro left right different leftWorks rightWorks
    have leftHolds := holds_of_mayWork documented reachable leftWorks
    have rightHolds := holds_of_mayWork documented reachable rightWorks
    refine (parted_of_acquired exclusive reachable different leftHolds.1
      rightHolds.1).resolve_left ?_
    intro released
    exact released.elim leftHolds.2 rightHolds.2
  refine ⟨?_, excludes⟩
  intro action next events index event stepped emitted work
  cases step_inversion stepped with
  | expire => simp at emitted
  | replica stepping action moved inner step served =>
      rcases List.mem_map.mp emitted with ⟨own, member, equal⟩
      cases equal
      have mayWork := step.mayWork (replica_reachable reachable index) member work
      have holds := holds_of_mayWork documented reachable mayWork
      refine ⟨holds.1, holds.2, ?_⟩
      intro other different otherWorks
      exact excludes index other different.symm mayWork otherWorks

/-- A service that waits for the leases of the other processes to expire. -/
def sampleLockService : LockService := fun past index =>
  past.all fun
    | .replica other (.locket .acquired) => other = index ∨ past.any fun
        | .expired lease => lease = other
        | _ => false
    | _ => true

private theorem exclusive_sampleLockService : sampleLockService.Exclusive := by
  intro past index other granted different acquired
  have checked := of_decide_eq_true (List.all_eq_true.mp granted _ acquired)
  rcases List.any_eq_true.mp (checked.resolve_left different) with ⟨event, member, expires⟩
  cases event with
  | expired lease =>
      cases of_decide_eq_true expires
      exact .inr (.inl member)
  | replica lease event => cases expires

/-- The lease of the first process expires, and the second one takes over. -/
def sampleTakeover : List Action :=
  sampleLeader.map (.replica 0) ++ [.expire 0] ++ sampleLeader.map (.replica 1)

theorem work_excluded_sample :
    ∃ s trace, (model samplePackages sampleLockService Scheduler.sampleSettings).run initial
        sampleTakeover = some (s, trace) ∧
      (s.replica 0).MayWork ∧ (s.replica 1).MayWork ∧
      (.expired 0 ∈ trace ∨ .expired 1 ∈ trace) := by
  refine ⟨_, _, rfl, ⟨by simp, nofun⟩, ⟨by simp, nofun⟩, ?_⟩
  have excluded := work_excluded documented_samplePackages exclusive_sampleLockService
    ((model samplePackages sampleLockService Scheduler.sampleSettings).reachable_of_run
      sampleTakeover rfl)
  exact excluded.2 0 1 (by decide) ⟨by simp, nofun⟩ ⟨by simp, nofun⟩

end Fleet

end RdsMetricCollector.Process
