import OpticalPathPlanner.CancelledPlans
import OpticalPathPlanner.ConcurrentIngests
import OpticalPathPlanner.GrownStores
import OpticalPathPlanner.LateCancellation
import OpticalPathPlanner.Runs

/-!
# Plans beside other workers

A worker plans over the snapshot that it copied when it took up its frame, and
the other workers may ingest, plan, store and cancel in between.  Its polls are
all answered with no, so the search that stands still at every poll is the
search of a caller that is never disturbed.
-/

namespace OpticalPathPlanner

variable {K : Type} [Field K] [LinearOrder K] {runtime : Runtime K}
  {numbers : DoubleText runtime.formatDouble} {options : ServiceOptions}

/-! ### Replayed polls -/

/-- A caller that never asks for cancellation and counts its polls. -/
def SearchDriver.counting : SearchDriver Nat where
  isRequested polls := (false, polls + 1)
  observer _ polls := polls

/-- The answers that are left are those to the polls not made yet. -/
def Recorded (total : Nat) (recorded : Option (List Bool)) (polls : Nat) : Prop :=
  ∃ rest, recorded = some rest ∧ (∀ answer ∈ rest, answer = false) ∧
    rest.length + polls = total

theorem recordedPolls_inStep (total : Nat) :
    recordedPolls.InStep .counting (Recorded total) (fun polls => total < polls) where
  observer _ _ _ same := same
  waits _ := rfl
  continues := by
    rintro _ polls ⟨answers, rfl, quiet, length⟩ unasked
    cases answers with
    | nil => cases unasked
    | cons answer rest =>
        refine ⟨rest, rfl, fun other member =>
          quiet other (List.mem_cons_of_mem answer member), ?_⟩
        change rest.length + (polls + 1) = total
        rw [List.length_cons] at length
        omega
  asks := by
    rintro _ polls ⟨answers, rfl, quiet, length⟩ asked
    cases answers with
    | nil =>
        change total < polls + 1
        rw [List.length_nil] at length
        omega
    | cons answer rest =>
        have no := quiet answer List.mem_cons_self
        simp [recordedPolls, no] at asked
  stays := ⟨fun _ _ late => late, fun _ late _ => Nat.lt_succ_of_lt late⟩

/-- A poll that asked for cancellation was the pending one. -/
theorem recordedPolls_stops {last : Option (List Bool)}
    (stops : recordedPolls.Stops NoRequest last) : last = none := by
  obtain ⟨asked, ⟨recorded, rfl, silent⟩, stopped⟩ := stops
  cases recorded with
  | nil => exact (congrArg Prod.snd stopped).symm
  | cons answer others =>
      have no := silent answer List.mem_cons_self
      simp [recordedPolls, no] at stopped

section Replays

variable (runtime options) (snapshot : Option (TopologySnapshot K))
  (request : PlanningRequest K)

/-- How often undisturbed planning polls its token. -/
def pollsOf : Nat :=
  match snapshot with
  | none => 0
  | some snapshot => (plan runtime { expansionCeiling := options.expansionCeiling }
      .counting snapshot request 0).2

/-- A caller that counts its polls gets what an idle one gets. -/
theorem plan_counting (planner : PlannerOptions) (snapshot : TopologySnapshot K) :
    (plan runtime planner .counting snapshot request 0).1 =
      (plan runtime planner .idle snapshot request ()).1 := by
  have inStep : SearchDriver.idle.InStep .counting (fun _ _ => True)
      (fun _ => False) :=
    { observer := fun _ _ _ _ => trivial
      waits := fun _ => rfl
      continues := fun _ _ _ _ => trivial
      asks := fun _ _ _ asked => by cases asked
      stays := ⟨fun _ _ late => late, fun _ late _ => late⟩ }
  rcases plan_inStep runtime planner snapshot request inStep trivial with
    ⟨same, -⟩ | ⟨-, never⟩
  · exact same.symm
  · exact never.elim

variable {runtime options snapshot request}

/-- Planning that was answered no so many times stands at its next poll, or has
the result of undisturbed planning. -/
theorem planSoFar_cases {answers : List Bool}
    (quiet : ∀ answer ∈ answers, answer = false) :
    (answers.length < pollsOf runtime options snapshot request ∧
        (planSoFar runtime options snapshot request answers).2 = none) ∨
      ∃ rest, rest.length + pollsOf runtime options snapshot request =
          answers.length ∧
        planSoFar runtime options snapshot request answers =
          (ServiceState.planAnswer runtime options snapshot request, some rest) := by
  cases snapshot with
  | none => exact .inr ⟨answers, rfl, rfl⟩
  | some snapshot =>
      have beside := plan_inStep runtime
        { expansionCeiling := options.expansionCeiling } snapshot request
        (recordedPolls_inStep answers.length)
        ⟨answers, rfl, quiet, Nat.add_zero answers.length⟩
      rcases beside with ⟨same, rest, left, -, length⟩ | ⟨cancelled, late⟩
      · right
        refine ⟨rest, length, Prod.ext (same.trans ?_) left⟩
        exact plan_counting runtime request _ snapshot
      · left
        refine ⟨late, ?_⟩
        have kept := @plan_kept K _ _ _ runtime
          { expansionCeiling := options.expansionCeiling } recordedPolls snapshot
          request NoRequest (some answers) recordedPolls_keeps ⟨answers, rfl, quiet⟩
        rcases kept with ⟨-, uncancelled⟩ | stopped
        · exact absurd cancelled uncancelled
        · exact recordedPolls_stops stopped

theorem planSoFar_pending_iff {answers : List Bool}
    (quiet : ∀ answer ∈ answers, answer = false) :
    (planSoFar runtime options snapshot request answers).2 = none ↔
      answers.length < pollsOf runtime options snapshot request := by
  rcases @planSoFar_cases K _ _ runtime options snapshot request _ quiet with
    ⟨fewer, pending⟩ | ⟨rest, length, ended⟩
  · exact iff_of_true pending fewer
  · rw [ended]
    refine iff_of_false (by simp) ?_
    omega

theorem planSoFar_ended_iff {answers : List Bool}
    (quiet : ∀ answer ∈ answers, answer = false) :
    (planSoFar runtime options snapshot request answers).2 = some [] ↔
      answers.length = pollsOf runtime options snapshot request := by
  rcases @planSoFar_cases K _ _ runtime options snapshot request _ quiet with
    ⟨fewer, pending⟩ | ⟨rest, length, ended⟩
  · rw [pending]
    refine iff_of_false (by simp) ?_
    omega
  · rw [ended, Option.some.injEq, ← List.length_eq_zero_iff]
    omega

theorem planSoFar_result {answers rest : List Bool}
    (quiet : ∀ answer ∈ answers, answer = false)
    (ended : (planSoFar runtime options snapshot request answers).2 = some rest) :
    (planSoFar runtime options snapshot request answers).1 =
      ServiceState.planAnswer runtime options snapshot request := by
  rcases @planSoFar_cases K _ _ runtime options snapshot request _ quiet with
    ⟨-, pending⟩ | ⟨_, -, same⟩
  · rw [pending] at ended
    cases ended
  · rw [same]

end Replays

/-! ### The worker of a plan -/

section Plans

variable (runtime options) (snapshot : Option (TopologySnapshot K))
  (request : PlanningRequest K) (store : Directory)

/-- The worker is at the plan of the request over the snapshot.  It searches, or
it stores the candidates of the undisturbed result, of which it may only lose
those whose put it saw refused. -/
inductive Work.Plans : Work K → Prop
  | searching {token : UInt64} {flag : TokenFlag} {answers : List Bool}
      (quiet : ∀ answer ∈ answers, answer = false)
      (within : answers.length ≤ pollsOf runtime options snapshot request) :
      Plans (.searching token snapshot request flag answers)
  | storing {count : Nat} {stored : Bool}
      (within : count ≤ (ServiceState.planAnswer runtime options snapshot
        request).candidates.length)
      (held : stored = true → ∀ plan ∈ (ServiceState.planAnswer runtime options
        snapshot request).candidates.take count, PlanStore.Stored runtime store plan) :
      Plans (.storing (ServiceState.planAnswer runtime options snapshot request)
        count stored)

/-- The steps of the worker up to its answer: the polls, the end of the search,
the puts and the answer itself. -/
def planSteps : Nat :=
  pollsOf runtime options snapshot request +
    (ServiceState.planAnswer runtime options snapshot request).candidates.length + 2

/-- Those of the steps that are left. -/
def Work.stepsLeft (runtime : Runtime K) (options : ServiceOptions) : Work K → Nat
  | .searching _ snapshot request _ answers =>
      planSteps runtime options snapshot request - answers.length
  | .storing result count _ => result.candidates.length - count + 1
  | _ => 0

end Plans

def WorkerEvent.isStepOf (handle : SocketHandle) : WorkerEvent → Bool
  | .receive _ _ _ => false
  | .work other _ => other = handle

namespace WorkingService

variable {working next : WorkingService K} {snapshot : Option (TopologySnapshot K)}
  {request : PlanningRequest K} {handle : SocketHandle} {task : Task K}

/-- How the plan of a task is answered. -/
def planReply (runtime : Runtime K) (working : WorkingService K) (sequence : UInt64)
    (result : PlanningResult K) : Frame :=
  ⟨RequestKind.plan.ack, sequence, working.service.incarnation.epoch,
    ServiceState.planAck runtime.formatDouble result⟩

/-- What a step of the worker makes of its plan. -/
inductive PlanMove (runtime : Runtime K) (options : ServiceOptions)
    (snapshot : Option (TopologySnapshot K)) (request : PlanningRequest K)
    (working : WorkingService K) (handle : SocketHandle) (task : Task K)
    (step : WorkStep) (next : WorkingService K) : Prop
  | goesOn {work : Work K} (unanswered : step ≠ .answer)
      (busy : next.tasks handle = some { task with work := work })
      (plans : work.Plans runtime options snapshot request next.service.store)
      (closer : work.stepsLeft runtime options < task.work.stepsLeft runtime options)
  | answers (answered : step = .answer) (free : next.tasks handle = none)
      (replied : next.answers = working.answers ++ [(handle, planReply runtime working
        task.sequence (ServiceState.planAnswer runtime options snapshot request))])

theorem planMove_of_perform {step : WorkStep} (undisturbed : working.Undisturbed)
    (plans : task.work.Plans runtime options snapshot request working.service.store)
    (performed : working.perform options runtime handle task step = some next) :
    PlanMove runtime options snapshot request working handle task step next := by
  obtain ⟨sequence, work⟩ := task
  cases plans with
  | @searching token flag answers quiet within =>
      cases performs_of_perform performed with
      | create creating => cases creating
      | write writing _ => cases writing
      | rename writing _ _ => cases writing
      | refuse creating _ => cases creating
      | discard writing _ => cases writing
      | refuseRename writing _ _ => cases writing
      | install installing => cases installing
      | poll searching asks =>
          cases searching
          have fewer := (planSoFar_pending_iff quiet).mp asks
          have no : decide (flag ∈ working.service.requested) = false := by
            simp [undisturbed.requested]
          refine .goesOn (by simp) (Function.update_self handle _ _) ?_ ?_
          · rw [no]
            refine .searching ?_ ?_
            · intro answer member
              rcases List.mem_append.mp member with old | new
              · exact quiet answer old
              · exact List.mem_singleton.mp new
            · rw [List.length_append, List.length_singleton]
              exact fewer
          · simp only [Work.stepsLeft, planSteps, List.length_append,
              List.length_singleton]
            omega
      | finishSearch searching ended =>
          cases searching
          have all := (planSoFar_ended_iff quiet).mp ended
          rw [planSoFar_result quiet ended]
          refine .goesOn (by simp) (Function.update_self handle _ _) ?_ ?_
          · refine .storing (Nat.zero_le _) ?_
            simp
          · simp only [Work.stepsLeft, planSteps]
            omega
      | put storing _ _ => cases storing
      | answer storing _ => cases storing
  | storing within held =>
      cases performs_of_perform performed with
      | create creating => cases creating
      | write writing _ => cases writing
      | rename writing _ _ => cases writing
      | refuse creating _ => cases creating
      | discard writing _ => cases writing
      | refuseRename writing _ _ => cases writing
      | install installing => cases installing
      | poll searching _ => cases searching
      | finishSearch searching _ => cases searching
      | @put _ _ _ plan fault storing feasible listed =>
          cases storing
          have inside := (List.getElem?_eq_some_iff.mp listed).1
          refine .goesOn (by simp) (Function.update_self handle _ _) ?_ ?_
          · refine .storing inside fun stored other member => ?_
            rw [Bool.and_eq_true, Bool.not_eq_true'] at stored
            rw [List.take_add_one, List.mem_append, listed] at member
            rcases member with old | new
            · exact (held stored.1 other old).put plan fault
            · obtain rfl : other = plan := by simpa using new
              exact PlanStore.stored_of_put stored.2
          · simp only [Work.stepsLeft]
            omega
      | answer storing done =>
          cases storing
          exact .answers rfl (Function.update_self handle _ _) rfl

/-! ### All workers at once -/

omit [Field K] [LinearOrder K] in
theorem countAnswer_keeps (state : ServiceState K) (reply : Frame) :
    (state.countAnswer reply).store = state.store ∧
      (state.countAnswer reply).incarnation = state.incarnation := by
  unfold ServiceState.countAnswer
  split_ifs <;> exact ⟨rfl, rfl⟩

end WorkingService

theorem Work.Plans.grown {work : Work K} {snapshot : Option (TopologySnapshot K)}
    {request : PlanningRequest K} {store final : Directory}
    {such : PlanArtifact K → Prop}
    (plans : work.Plans runtime options snapshot request store)
    (grown : PlanStore.Grown runtime options.store such store final) :
    work.Plans runtime options snapshot request final := by
  cases plans with
  | searching quiet within => exact .searching quiet within
  | storing within held =>
      exact .storing within fun stored plan member =>
        grown.stored (held stored plan member)

/-- The worker ingests a snapshot, or is at some plan. -/
def Work.Faithful (runtime : Runtime K) (options : ServiceOptions)
    (store : Directory) (work : Work K) : Prop :=
  work.ingesting.isSome ∨
    ∃ snapshot request, work.Plans runtime options snapshot request store

namespace WorkingService

variable {working next : WorkingService K} {handle : SocketHandle} {task : Task K}

/-- Nothing is cancelled, and every worker is at an ingest or at a plan. -/
structure Faithful (runtime : Runtime K) (options : ServiceOptions)
    (working : WorkingService K) : Prop where
  undisturbed : working.Undisturbed
  works : ∀ handle task, working.tasks handle = some task →
    task.work.Faithful runtime options working.service.store

/-- What a step of a worker with an ingest leaves of it. -/
theorem perform_ingesting {step : WorkStep} (ingesting : task.work.ingesting.isSome)
    (performed : working.perform options runtime handle task step = some next) :
    next.service.store = working.service.store ∧
      ∀ left, next.tasks handle = some left → left.work.ingesting.isSome := by
  have own : ∀ {tasks : SocketHandle → Option (Task K)} {left : Option (Task K)},
      (∀ some_ ∈ left, some_.work.ingesting.isSome) →
        ∀ other, Function.update tasks handle left handle = some other →
          other.work.ingesting.isSome := by
    intro tasks left works other busy
    rw [Function.update_self] at busy
    exact works other busy
  cases performs_of_perform performed with
  | create creating => exact ⟨rfl, own (by simp [Work.ingesting])⟩
  | write writing within => exact ⟨rfl, own (by simp [Work.ingesting])⟩
  | rename writing complete exists_ => exact ⟨rfl, own (by simp [Work.ingesting])⟩
  | refuse creating failed => exact ⟨(countAnswer_keeps _ _).1, own (by simp)⟩
  | discard writing failed => exact ⟨(countAnswer_keeps _ _).1, own (by simp)⟩
  | refuseRename writing failed complete =>
      exact ⟨(countAnswer_keeps _ _).1, own (by simp)⟩
  | install installing => exact ⟨(countAnswer_keeps _ _).1, own (by simp)⟩
  | poll searching _ => simp [searching, Work.ingesting] at ingesting
  | finishSearch searching _ => simp [searching, Work.ingesting] at ingesting
  | put storing _ _ => simp [storing, Work.ingesting] at ingesting
  | answer storing _ => simp [storing, Work.ingesting] at ingesting

/-- A worker only puts candidates of undisturbed planning into the store. -/
theorem perform_grown {step : WorkStep}
    (faithful : task.work.Faithful runtime options working.service.store)
    (performed : working.perform options runtime handle task step = some next) :
    PlanStore.Grown runtime options.store (PlanArtifact.IsPlanned runtime options)
      working.service.store next.service.store := by
  rcases faithful with ingesting | ⟨snapshot, request, plans⟩
  · rw [(perform_ingesting ingesting performed).1]
    exact .start
  · cases performs_of_perform performed with
    | create | write | rename | poll | finishSearch => exact .start
    | refuse creating failed =>
        rw [replyFailure, reply, (countAnswer_keeps _ _).1]
        exact .start
    | discard writing failed =>
        rw [replyFailure, reply, (countAnswer_keeps _ _).1]
        exact .start
    | refuseRename writing failed complete =>
        rw [replyFailure, reply, (countAnswer_keeps _ _).1]
        exact .start
    | install installing =>
        rw [replyPayload, reply, (countAnswer_keeps _ _).1]
        exact .start
    | @put result _ _ plan fault storing feasible listed =>
        rw [storing] at plans
        cases plans with
        | storing within held =>
            exact PlanStore.Grown.start.put fault
              ⟨snapshot, request, List.mem_of_getElem? listed⟩
    | answer storing done =>
        rw [replyPayload, reply, (countAnswer_keeps _ _).1]
        exact .start

theorem faithful_of_taskOf {state : ServiceState K} {flag : TokenFlag}
    {frame : Frame} {work : Work K}
    (found : state.taskOf numbers options flag frame = some work) (store : Directory) :
    work.Faithful runtime options store := by
  unfold ServiceState.taskOf at found
  repeat' split at found
  all_goals cases found
  · exact .inl rfl
  · exact .inl rfl
  · exact .inr ⟨_, _, .searching (by simp) (Nat.zero_le _)⟩

theorem Faithful.after (faithful : working.Faithful runtime options)
    {event : WorkerEvent}
    (happened : working.after numbers options event = some next) :
    next.Faithful runtime options ∧ PlanStore.Grown runtime options.store
      (PlanArtifact.IsPlanned runtime options) working.service.store
      next.service.store := by
  have undisturbed := faithful.undisturbed.after happened
  have kept : ∀ {store}, PlanStore.Grown runtime options.store
      (PlanArtifact.IsPlanned runtime options) working.service.store store →
      ∀ other task, working.tasks other = some task →
        task.work.Faithful runtime options store := by
    intro store grown other task busy
    rcases faithful.works other task busy with ingesting | ⟨snapshot, request, plans⟩
    · exact .inl ingesting
    · exact .inr ⟨snapshot, request, plans.grown grown⟩
  cases event with
  | receive handle faults frame =>
      simp only [WorkingService.after, Option.ite_none_left_eq_some,
        Option.some.injEq] at happened
      obtain ⟨-, rfl⟩ := happened
      unfold receive at undisturbed ⊢
      cases found : working.service.taskOf numbers options working.nextFlag frame with
      | none =>
          have grown := ServiceState.serveFrame_grown numbers options working.service
            faults frame
          simp only [found] at undisturbed ⊢
          exact ⟨⟨undisturbed, kept grown⟩, grown⟩
      | some work =>
          have same : (work.begin_ working.service).store = working.service.store := by
            cases work <;> rfl
          simp only [found] at undisturbed ⊢
          refine ⟨⟨undisturbed, fun other task busy => ?_⟩, same ▸ .start⟩
          rw [same]
          by_cases own : other = handle
          · subst own
            simp only [Function.update_self, Option.some.injEq] at busy
            exact busy ▸ faithful_of_taskOf found _
          · simp only [Function.update_of_ne own] at busy
            exact faithful.works other task busy
  | work handle step =>
      obtain ⟨task, busy, performed⟩ := Option.bind_eq_some_iff.mp happened
      have own := faithful.works handle task busy
      have grown := perform_grown own performed
      refine ⟨⟨undisturbed, fun other left isTask => ?_⟩, grown⟩
      by_cases same : other = handle
      · subst same
        rcases own with ingesting | ⟨snapshot, request, plans⟩
        · exact .inl ((perform_ingesting ingesting performed).2 left isTask)
        · rcases planMove_of_perform faithful.undisturbed plans performed with
            ⟨-, goesOn, plans, -⟩ | ⟨-, free, -⟩
          · rw [goesOn, Option.some.injEq] at isTask
            exact .inr ⟨snapshot, request, isTask ▸ plans⟩
          · rw [free] at isTask
            cases isTask
      · rw [perform_tasks same performed] at isTask
        exact kept grown other left isTask

theorem Faithful.run (faithful : working.Faithful runtime options)
    {events : List WorkerEvent}
    (ran : working.run numbers options events = some next) :
    next.Faithful runtime options ∧ PlanStore.Grown runtime options.store
      (PlanArtifact.IsPlanned runtime options) working.service.store
      next.service.store :=
  Runs.related (fun before after : WorkingService K =>
      PlanStore.Grown runtime options.store (PlanArtifact.IsPlanned runtime options)
        before.service.store after.service.store)
    (fun _ => .start) (fun _ _ _ => .trans)
    (fun _ _ _ kept happened => kept.after happened) faithful ran

/-- A service that was just started. -/
theorem Faithful.started {faults : StartFaults} {incarnation : IncarnationState}
    {snapshotFile : Option Bytes} {store : Directory} {service : ServiceState K}
    (started : startService numbers options faults incarnation snapshotFile store =
      .ok service) (files : SnapshotFiles) :
    (⟨service, files, fun _ => none, 0, []⟩ :
      WorkingService K).Faithful runtime options := by
  obtain ⟨cancellations, requested⟩ := startService_flags started
  exact ⟨⟨cancellations, requested, by simp⟩, by simp⟩

/-! ### Runs -/

/-- A service stays in its incarnation. -/
theorem after_incarnation {event : WorkerEvent}
    (happened : working.after numbers options event = some next) :
    next.service.incarnation = working.service.incarnation := by
  cases event with
  | receive handle faults frame =>
      simp only [WorkingService.after, Option.ite_none_left_eq_some,
        Option.some.injEq] at happened
      obtain ⟨-, rfl⟩ := happened
      unfold receive
      cases working.service.taskOf numbers options working.nextFlag frame with
      | none =>
          exact (ServiceState.serveFrame_evolves numbers options working.service
            faults frame).incarnation
      | some work => cases work <;> rfl
  | work handle step =>
      obtain ⟨task, -, performed⟩ := Option.bind_eq_some_iff.mp happened
      cases performs_of_perform performed with
      | create | write | rename | poll | finishSearch | put => rfl
      | refuse | discard | refuseRename | install | answer =>
          exact (countAnswer_keeps _ _).2

theorem run_incarnation {events : List WorkerEvent}
    (ran : working.run numbers options events = some next) :
    next.service.incarnation = working.service.incarnation :=
  Runs.invariant (fun state : WorkingService K =>
      state.service.incarnation = working.service.incarnation)
    (fun _ _ _ same happened => (after_incarnation happened).trans same) rfl ran

variable {snapshot : Option (TopologySnapshot K)} {request : PlanningRequest K}

/-- Until it answers, the worker stays at its plan, and each of its own steps
brings it closer to the answer. -/
theorem run_plans {events : List WorkerEvent}
    (faithful : working.Faithful runtime options)
    (busy : working.tasks handle = some task)
    (plans : task.work.Plans runtime options snapshot request working.service.store)
    (ran : working.run numbers options events = some next)
    (unanswered : ∀ event ∈ events, event ≠ .work handle .answer) :
    ∃ work, next.tasks handle = some { task with work := work } ∧
      work.Plans runtime options snapshot request next.service.store ∧
      work.stepsLeft runtime options + events.countP (WorkerEvent.isStepOf handle) ≤
        task.work.stepsLeft runtime options := by
  induction events generalizing working task with
  | nil =>
      obtain rfl : working = next := Option.some.inj ran
      exact ⟨task.work, busy, plans, le_rfl⟩
  | cons event rest ih =>
      rw [WorkingService.run, List.foldlM_cons] at ran
      obtain ⟨middle, happened, later⟩ := Option.bind_eq_some_iff.mp ran
      rw [List.forall_mem_cons] at unanswered
      obtain ⟨kept, grown⟩ := faithful.after happened
      by_cases own : event.isStepOf handle = true
      · cases event with
        | receive other faults frame => cases own
        | work other step =>
            obtain rfl : other = handle := of_decide_eq_true own
            obtain ⟨found, isTask, performed⟩ := Option.bind_eq_some_iff.mp happened
            obtain rfl : task = found := Option.some.inj (busy.symm.trans isTask)
            rcases planMove_of_perform faithful.undisturbed plans performed with
              ⟨-, goesOn, plans, closer⟩ | ⟨answered, -, -⟩
            · obtain ⟨work, stays, plans, left⟩ := ih kept goesOn plans later
                unanswered.2
              refine ⟨work, stays, plans, ?_⟩
              rw [List.countP_cons_of_pos own]
              exact Nat.lt_of_le_of_lt left closer
            · exact absurd (congrArg (WorkerEvent.work other) answered) unanswered.1
      · have differ : handle ≠ event.handle := by
          intro same
          cases event with
          | receive other faults frame =>
              obtain rfl : handle = other := same
              simp [WorkingService.after, busy] at happened
          | work other step => exact own (decide_eq_true same.symm)
        have stays := (after_tasks differ happened).trans busy
        obtain ⟨work, stays, plans, left⟩ := ih kept stays (plans.grown grown) later
          unanswered.2
        refine ⟨work, stays, plans, ?_⟩
        rw [List.countP_cons_of_neg own]
        exact left

/-- The worker of a plan can always take a step. -/
theorem exists_perform {work : Work K} (sequence : UInt64)
    (plans : work.Plans runtime options snapshot request working.service.store) :
    ∃ step next,
      working.perform options runtime handle ⟨sequence, work⟩ step = some next := by
  cases plans with
  | @searching token flag answers quiet within =>
      rcases Nat.lt_or_eq_of_le within with fewer | all
      · refine ⟨.poll, ?_⟩
        simp only [perform]
        rw [if_pos ((planSoFar_pending_iff quiet).mpr fewer)]
        exact ⟨_, rfl⟩
      · refine ⟨.finishSearch, ?_⟩
        simp only [perform]
        rw [if_pos ((planSoFar_ended_iff quiet).mpr all)]
        exact ⟨_, rfl⟩
  | @storing count stored within held =>
      by_cases done : (ServiceState.planAnswer runtime options snapshot
          request).outcome ≠ .feasible ∨ count = (ServiceState.planAnswer runtime
            options snapshot request).candidates.length
      · refine ⟨.answer, ?_⟩
        simp only [perform]
        rw [if_pos done]
        exact ⟨_, rfl⟩
      · obtain ⟨feasible, more⟩ := not_or.mp done
        refine ⟨.put okStatus, ?_⟩
        simp only [perform]
        rw [if_pos (not_not.mp feasible),
          List.getElem?_eq_getElem (Nat.lt_of_le_of_ne within more)]
        exact ⟨_, rfl⟩

theorem stepsLeft_pos {work : Work K} {store : Directory}
    (plans : work.Plans runtime options snapshot request store) :
    0 < work.stepsLeft runtime options := by
  cases plans with
  | searching quiet within =>
      simp only [Work.stepsLeft, planSteps]
      omega
  | storing within held => exact Nat.succ_pos _

/-- A frame that asks for a plan gives its worker the plan over the snapshot of
the moment. -/
theorem receive_plan {faults : FrameFaults} {frame : Frame} {message : PlanMessage}
    (kind : frame.kind = RequestKind.plan.message)
    (here : working.service.pinnedElsewhere frame = false)
    (decoded : decodePlan frame.payload = .ok message)
    (parsed : parseRequestText numbers message.requestText = .ok request) :
    (working.receive numbers options handle faults frame).tasks handle =
        some ⟨frame.sequence, .searching message.cancelToken working.service.snapshot
          request working.nextFlag []⟩ ∧
      (working.receive numbers options handle faults frame).service =
        working.service.beginPlan := by
  have found : working.service.taskOf numbers options working.nextFlag frame =
      some (.searching message.cancelToken working.service.snapshot request
        working.nextFlag []) := by
    simp [ServiceState.taskOf, here, kind, RequestKind.request?_message, decoded,
      parsed]
  unfold receive
  rw [found]
  exact ⟨Function.update_self handle _ _, rfl⟩

/-- A plan is answered as if its worker were alone: with the result of planning
over the snapshot of the moment its frame was taken up, whatever is ingested,
planned, stored or cancelled in between.  No schedule keeps the worker from its
next step, and it answers within a fixed number of its own steps. -/
theorem plan_answered_alone (numbers : DoubleText runtime.formatDouble)
    (options : ServiceOptions) (startFaults : StartFaults)
    (incarnation : IncarnationState) (snapshotFile : Option Bytes)
    (store : Directory) (service : ServiceState K) (files : SnapshotFiles)
    (events later : List WorkerEvent) (before between : WorkingService K)
    (handle : SocketHandle) (faults : FrameFaults) (frame : Frame)
    (message : PlanMessage) (request : PlanningRequest K)
    (started : startService numbers options startFaults incarnation snapshotFile
      store = .ok service)
    (ran : run numbers options { service := service, files := files } events =
      some before)
    (free : before.tasks handle = none)
    (kind : frame.kind = RequestKind.plan.message)
    (here : before.service.pinnedElsewhere frame = false)
    (decoded : decodePlan frame.payload = .ok message)
    (parsed : parseRequestText numbers message.requestText = .ok request)
    (ranLater : run numbers options (before.receive numbers options handle faults frame)
      later = some between)
    (unanswered : ∀ event ∈ later, event ≠ .work handle .answer) :
    later.countP (WorkerEvent.isStepOf handle) <
        planSteps runtime options before.service.snapshot request ∧
      (∃ step next, between.after numbers options (.work handle step) = some next) ∧
      ∀ next, between.after numbers options (.work handle .answer) = some next →
        next.tasks handle = none ∧
        next.answers = between.answers ++ [(handle, ⟨RequestKind.plan.ack,
          frame.sequence, before.service.incarnation.epoch,
          ServiceState.planAck runtime.formatDouble (ServiceState.planAnswer runtime
            options before.service.snapshot request)⟩)] := by
  have faithful := ((Faithful.started started files).run ran).1
  have happened : before.after numbers options (.receive handle faults frame) =
      some (before.receive numbers options handle faults frame) := by
    simp [WorkingService.after, free]
  have taken := (faithful.after happened).1
  obtain ⟨busy, -⟩ := receive_plan kind here decoded parsed
  obtain ⟨work, stays, plans, left⟩ := run_plans taken busy
    (.searching (by simp) (Nat.zero_le _)) ranLater unanswered
  have latest := (taken.run ranLater).1
  refine ⟨?_, ?_, ?_⟩
  · have more := stepsLeft_pos plans
    have bounded : work.stepsLeft runtime options +
        later.countP (WorkerEvent.isStepOf handle) ≤
          planSteps runtime options before.service.snapshot request := left
    omega
  · obtain ⟨step, next, performed⟩ := exists_perform frame.sequence plans
    refine ⟨step, next, ?_⟩
    simp only [WorkingService.after, stays, Option.bind_some]
    exact performed
  · intro next answered
    simp only [WorkingService.after, stays, Option.bind_some] at answered
    rcases planMove_of_perform latest.undisturbed plans answered with
      ⟨unanswered, -, -, -⟩ | ⟨-, free, replied⟩
    · exact absurd rfl unanswered
    · have epoch : between.service.incarnation = before.service.incarnation :=
        (run_incarnation ranLater).trans (after_incarnation happened)
      refine ⟨free, ?_⟩
      rw [replied, planReply, epoch]

/-- A snapshot is ingested. -/
def ingestedEvents : List WorkerEvent :=
  [.receive 1 {} (WatchedService.ingestFrame (spanWithProfile "line")),
    .work 1 .install]

/-- While a plan is searched for, another snapshot is ingested and the plan is
cancelled. -/
def disturbedEvents : List WorkerEvent :=
  [.work 2 .poll, .receive 1 {} (WatchedService.ingestFrame WatchedService.soleSource),
    .work 1 .install, .receive 3 {} (cancelFrame 7), .work 2 .poll,
    .work 2 .finishSearch, .work 2 (.put okStatus)]

theorem plan_answered_alone_disturbed :
    ∃ before between next, fromNothing ingestedEvents = some before ∧
      (before.receive wholeNumbers memoryOptions 2 {} (planFrame 7 acrossSpan)).run
        wholeNumbers memoryOptions disturbedEvents = some between ∧
      between.after wholeNumbers memoryOptions (.work 2 .answer) = some next ∧
      before.service.snapshot ≠ between.service.snapshot ∧
      next.answers = between.answers ++ [(2, ⟨RequestKind.plan.ack, 2,
        before.service.incarnation.epoch,
        ServiceState.planAck rationalRuntime.formatDouble (ServiceState.planAnswer
          rationalRuntime memoryOptions before.service.snapshot acrossSpan)⟩)] := by
  have reached : ((fromNothing ingestedEvents).bind fun before =>
      ((before.receive wholeNumbers memoryOptions 2 {} (planFrame 7 acrossSpan)).run
        wholeNumbers memoryOptions disturbedEvents).bind fun between =>
      (between.after wholeNumbers memoryOptions (.work 2 .answer)).map fun _ =>
        ((before.tasks 2).isNone, before.service.pinnedElsewhere (planFrame 7 acrossSpan),
          before.service.snapshot.map TopologySnapshot.id ==
            between.service.snapshot.map TopologySnapshot.id)) =
      some (true, false, false) := by
    decide +kernel
  obtain ⟨before, start, reached⟩ := Option.bind_eq_some_iff.mp reached
  obtain ⟨between, later, reached⟩ := Option.bind_eq_some_iff.mp reached
  obtain ⟨next, answered, parts⟩ := Option.map_eq_some_iff.mp reached
  obtain ⟨service, started, ran⟩ := Option.bind_eq_some_iff.mp start
  simp only [Prod.mk.injEq, Option.isNone_iff_eq_none, beq_eq_false_iff_ne] at parts
  obtain ⟨-, -, alone⟩ := plan_answered_alone wholeNumbers memoryOptions {}
    ⟨⟨⟨1⟩, 0, 7⟩, 1, true⟩ none ∅ service noFiles ingestedEvents disturbedEvents before
    between 2 {} (planFrame 7 acrossSpan)
    ⟨7, requestToText rationalRuntime.formatDouble acrossSpan⟩ acrossSpan
    (toOption_eq_some_iff.mp started) ran parts.1 rfl parts.2.1
    (toOption_eq_some_iff.mp (by decide +kernel))
    (toOption_eq_some_iff.mp (by decide +kernel)) later
    (by simp [disturbedEvents])
  exact ⟨before, between, next, start, later, answered,
    fun same => parts.2.2 (congrArg _ same), (alone next answered).2⟩

end WorkingService

end OpticalPathPlanner
