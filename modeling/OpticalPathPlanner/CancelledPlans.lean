import OpticalPathPlanner.HardConstraints
import OpticalPathPlanner.RereadSnapshots
import OpticalPathPlanner.ServiceRuns
import OpticalPathPlanner.ServiceWorkers

/-!
# Cancelling a plan

A cancellation is looked up in a table that no handler ever adds to, and a plan
is searched for under a token that nobody else holds.  So a cancellation finds
nothing, no poll of a search asks for cancellation, and no plan is answered as
cancelled, however the workers take turns.
-/

namespace OpticalPathPlanner

variable {K : Type} [Field K] [LinearOrder K] {runtime : Runtime K}
  {numbers : DoubleText runtime.formatDouble} {options : ServiceOptions}

/-! ### What requests change -/

namespace ServiceState

variable {state : ServiceState K}

omit [Field K] [LinearOrder K] in
/-- Nothing is found in an empty table. -/
theorem cancelRequests_of_empty (none_ : state.cancellations = ∅)
    (cancelToken : UInt64) : state.cancelRequests cancelToken = (false, state) := by
  have missing : state.cancellations.lookup cancelToken = none := by
    rw [none_]
    exact AList.lookup_empty cancelToken
  unfold cancelRequests
  split_ifs
  · rw [none_]
    exact Prod.ext rfl (by cases state; cases none_; rfl)
  · rw [missing]

/-- As long as nothing is in the table, no request sets a flag. -/
theorem handleRequest_flags (numbers : DoubleText runtime.formatDouble)
    (options : ServiceOptions) (faults : FrameFaults) (kind : RequestKind)
    (payload : Bytes) (none_ : state.cancellations = ∅) :
    (handleRequest numbers options state faults kind payload).2.cancellations = ∅ ∧
      (handleRequest numbers options state faults kind payload).2.requested =
        state.requested := by
  cases kind with
  | hello =>
      simp only [handleRequest, handleHello]
      split
      · exact ⟨none_, rfl⟩
      · split_ifs <;> exact ⟨none_, rfl⟩
  | ingest =>
      simp only [handleRequest, handleIngest, saveSnapshot]
      repeat' split
      all_goals exact ⟨none_, rfl⟩
  | plan =>
      simp only [handleRequest, handlePlan, endPlan, beginPlan]
      repeat' split
      all_goals exact ⟨none_, rfl⟩
  | validate =>
      simp only [handleRequest, handleValidate]
      repeat' split
      all_goals exact ⟨none_, rfl⟩
  | getPlan =>
      simp only [handleRequest, handleGetPlan]
      repeat' split
      all_goals exact ⟨none_, rfl⟩
  | storeList => exact ⟨none_, rfl⟩
  | cancel =>
      simp only [handleRequest, handleCancel, cancelRequests_of_empty none_]
      split <;> exact ⟨none_, rfl⟩
  | stats => exact ⟨none_, rfl⟩
  | shutdown => exact ⟨none_, rfl⟩

theorem serveFrame_flags (numbers : DoubleText runtime.formatDouble)
    (options : ServiceOptions) (faults : FrameFaults) (frame : Frame)
    (none_ : state.cancellations = ∅) :
    (state.serveFrame numbers options faults frame).2.cancellations = ∅ ∧
      (state.serveFrame numbers options faults frame).2.requested =
        state.requested := by
  have handled : (state.handleFrame numbers options faults frame).2.cancellations =
        ∅ ∧ (state.handleFrame numbers options faults frame).2.requested =
        state.requested := by
    unfold handleFrame
    split_ifs
    · exact ⟨none_, rfl⟩
    · cases frame.kind.request? with
      | none => exact ⟨none_, rfl⟩
      | some kind =>
          have flags := handleRequest_flags numbers options faults kind
            frame.payload none_
          dsimp only
          split <;> exact flags
  unfold serveFrame
  split_ifs
  · exact ⟨none_, rfl⟩
  · dsimp only
    split_ifs <;> exact handled

/-- How a cancellation is answered. -/
theorem serveFrame_cancel (numbers : DoubleText runtime.formatDouble)
    (options : ServiceOptions) (faults : FrameFaults) {frame : Frame}
    {message : CancelMessage} (none_ : state.cancellations = ∅)
    (kind : frame.kind = RequestKind.cancel.message)
    (here : state.pinnedElsewhere frame = false)
    (decoded : decodeCancel frame.payload = .ok message) :
    (state.serveFrame numbers options faults frame).1 =
      ⟨RequestKind.cancel.ack, frame.sequence, state.incarnation.epoch,
        encodeCancelAck ⟨false⟩⟩ := by
  have notShutdown : frame.kind ≠ RequestKind.shutdown.message := by
    rw [kind]
    decide
  have acknowledged : RequestKind.cancel.ack ≠ .failure := by decide
  have handled : (state.handleFrame numbers options faults frame).1 =
      ⟨RequestKind.cancel.ack, frame.sequence, state.incarnation.epoch,
        encodeCancelAck ⟨false⟩⟩ := by
    simp only [handleFrame, here, Bool.false_eq_true, if_false, kind,
      RequestKind.request?_message, handleRequest, handleCancel, decoded,
      cancelRequests_of_empty none_]
  rw [serveFrame, if_neg notShutdown]
  simp only [handled, if_neg acknowledged]

end ServiceState

/-! ### Searches that are not cancelled -/

/-- Polls that were all answered with no. -/
def NoRequest (polls : Option (List Bool)) : Prop :=
  ∃ answers, polls = some answers ∧ ∀ answer ∈ answers, answer = false

theorem recordedPolls_keeps : recordedPolls.Keeps NoRequest where
  observer _ _ held := held
  poll := by
    rintro _ ⟨answers, rfl, quiet⟩ unasked
    cases answers with
    | nil => simp [recordedPolls] at unasked
    | cons answer rest =>
        exact ⟨rest, rfl, fun other member =>
          quiet other (List.mem_cons_of_mem answer member)⟩

/-- Planning that has come to its end without a request is not cancelled. -/
theorem planSoFar_ne_cancelled {snapshot : Option (TopologySnapshot K)}
    {request : PlanningRequest K} {answers rest : List Bool}
    (quiet : ∀ answer ∈ answers, answer = false)
    (ended : (planSoFar runtime options snapshot request answers).2 = some rest) :
    (planSoFar runtime options snapshot request answers).1.outcome ≠
      .cancelled := by
  cases snapshot with
  | none => simp [planSoFar, ServiceState.planAnswer, Runtime.sealResult]
  | some snapshot =>
      have kept : (NoRequest (planSoFar runtime options (some snapshot) request
            answers).2 ∧ (planSoFar runtime options (some snapshot) request
            answers).1.outcome ≠ .cancelled) ∨
          recordedPolls.Stops NoRequest (planSoFar runtime options (some snapshot)
            request answers).2 :=
        plan_kept recordedPolls_keeps ⟨answers, rfl, quiet⟩
      rcases kept with ⟨-, uncancelled⟩ | ⟨asked, ⟨recorded, rfl, silent⟩, stopped⟩
      · exact uncancelled
      · -- A poll that asked for cancellation was the pending one.
        rw [ended] at stopped
        cases recorded with
        | nil => simp [recordedPolls] at stopped
        | cons answer others =>
            have no := silent answer List.mem_cons_self
            simp [recordedPolls, no] at stopped

/-! ### Runs -/

/-- What the polls of a task were answered. -/
def Work.Undisturbed : Work K → Prop
  | .searching _ _ _ _ answers => ∀ answer ∈ answers, answer = false
  | .storing result _ _ => result.outcome ≠ .cancelled
  | _ => True

namespace WorkingService

variable {working next : WorkingService K}

/-- Nothing can be cancelled, and nothing was. -/
structure Undisturbed (working : WorkingService K) : Prop where
  cancellations : working.service.cancellations = ∅
  requested : working.service.requested = []
  tasks : ∀ handle task, working.tasks handle = some task → task.work.Undisturbed

omit [Field K] [LinearOrder K] in
theorem Undisturbed.update (undisturbed : working.Undisturbed)
    {handle : SocketHandle} {task : Option (Task K)}
    (cancellations : next.service.cancellations = working.service.cancellations)
    (requested : next.service.requested = working.service.requested)
    (tasks : next.tasks = Function.update working.tasks handle task)
    (works : ∀ some_ ∈ task, some_.work.Undisturbed) : next.Undisturbed := by
  refine ⟨cancellations.trans undisturbed.cancellations,
    requested.trans undisturbed.requested, fun other found isTask => ?_⟩
  rw [tasks] at isTask
  by_cases same : other = handle
  · subst same
    rw [Function.update_self] at isTask
    exact works found isTask
  · rw [Function.update_of_ne same] at isTask
    exact undisturbed.tasks other found isTask

omit [Field K] [LinearOrder K] in
theorem Undisturbed.reply (undisturbed : working.Undisturbed)
    (handle : SocketHandle) (frame : Frame) :
    (working.reply handle frame).Undisturbed := by
  refine @Undisturbed.update K working _ undisturbed handle none ?_ ?_ rfl
    (by simp)
  · unfold WorkingService.reply ServiceState.countAnswer
    split_ifs <;> rfl
  · unfold WorkingService.reply ServiceState.countAnswer
    split_ifs <;> rfl

omit [Field K] [LinearOrder K] in
theorem Undisturbed.withFiles (undisturbed : working.Undisturbed)
    (files : SnapshotFiles) : (working.withFiles files).Undisturbed :=
  ⟨undisturbed.cancellations, undisturbed.requested, undisturbed.tasks⟩

omit [Field K] [LinearOrder K] in
theorem Undisturbed.withService (undisturbed : working.Undisturbed)
    {service : ServiceState K}
    (cancellations : service.cancellations = working.service.cancellations)
    (requested : service.requested = working.service.requested) :
    (working.withService service).Undisturbed :=
  ⟨cancellations.trans undisturbed.cancellations,
    requested.trans undisturbed.requested, undisturbed.tasks⟩

theorem Undisturbed.perform (undisturbed : working.Undisturbed)
    {handle : SocketHandle} {task : Task K} {step : WorkStep}
    (busy : working.tasks handle = some task)
    (performed : working.perform options runtime handle task step = some next) :
    next.Undisturbed := by
  have own := undisturbed.tasks handle task busy
  cases WorkingService.performs_of_perform performed with
  | create creating =>
      exact undisturbed.update rfl rfl rfl (by simp [Work.Undisturbed])
  | write writing within =>
      exact undisturbed.update rfl rfl rfl (by simp [Work.Undisturbed])
  | rename writing complete exists_ =>
      exact undisturbed.update rfl rfl rfl (by simp [Work.Undisturbed])
  | refuse creating failed => exact undisturbed.reply handle _
  | discard writing failed => exact (undisturbed.withFiles _).reply handle _
  | refuseRename writing failed complete => exact undisturbed.reply handle _
  | @install snapshot installed installing =>
      have installed : (working.withService
          (working.service.install snapshot)).Undisturbed :=
        undisturbed.withService rfl rfl
      exact installed.reply handle _
  | poll searching asks =>
      rw [searching] at own
      refine undisturbed.update rfl rfl rfl ?_
      simpa [Work.Undisturbed, undisturbed.requested] using own
  | finishSearch searching ended =>
      rw [searching] at own
      refine undisturbed.update rfl rfl rfl ?_
      simpa [Work.Undisturbed] using planSoFar_ne_cancelled own ended
  | put storing feasible listed =>
      rw [storing] at own
      exact undisturbed.update rfl rfl rfl (by simpa [Work.Undisturbed] using own)
  | @answer result count stored storing done =>
      have ended : (working.withService
          (working.service.endPlan result.outcome stored)).Undisturbed :=
        undisturbed.withService rfl rfl
      exact ended.reply handle _

theorem undisturbed_of_taskOf {state : ServiceState K} {flag : TokenFlag}
    {frame : Frame} {work : Work K}
    (found : state.taskOf numbers options flag frame = some work) :
    work.Undisturbed := by
  unfold ServiceState.taskOf at found
  repeat' split at found
  all_goals cases found
  all_goals simp [Work.Undisturbed]

theorem Undisturbed.after (undisturbed : working.Undisturbed) {event : WorkerEvent}
    (happened : working.after numbers options event = some next) :
    next.Undisturbed := by
  cases event with
  | receive handle faults frame =>
      simp only [WorkingService.after, Option.ite_none_left_eq_some,
        Option.some.injEq] at happened
      obtain ⟨-, rfl⟩ := happened
      unfold WorkingService.receive
      cases found : working.service.taskOf numbers options working.nextFlag frame with
      | none =>
          have flags := ServiceState.serveFrame_flags numbers options faults frame
            undisturbed.cancellations
          exact ⟨flags.1, flags.2.trans undisturbed.requested, undisturbed.tasks⟩
      | some work =>
          refine undisturbed.update ?_ ?_ rfl
            (by simpa using undisturbed_of_taskOf found)
          · cases work <;> rfl
          · cases work <;> rfl
  | work handle step =>
      obtain ⟨task, busy, performed⟩ := Option.bind_eq_some_iff.mp happened
      exact undisturbed.perform busy performed

theorem startService_flags {faults : StartFaults} {incarnation : IncarnationState}
    {snapshotFile : Option Bytes} {store : Directory} {service : ServiceState K}
    (started : startService numbers options faults incarnation snapshotFile store =
      .ok service) :
    service.cancellations = ∅ ∧ service.requested = [] := by
  unfold startService at started
  split at started
  · cases started
  · cases started
    exact ⟨rfl, rfl⟩

/-- However the workers take turns, nothing is ever cancelled. -/
theorem Undisturbed.run {events : List WorkerEvent}
    (undisturbed : working.Undisturbed)
    (ran : working.run numbers options events = some next) : next.Undisturbed := by
  induction events generalizing working with
  | nil =>
      obtain rfl : working = next := Option.some.inj ran
      exact undisturbed
  | cons event rest ih =>
      rw [WorkingService.run, List.foldlM_cons] at ran
      obtain ⟨middle, happened, rest⟩ := Option.bind_eq_some_iff.mp ran
      exact ih (undisturbed.after happened) rest

/-! ### Cancellations -/

/-- The token that a frame named whose search will poll once more, before one
more label. -/
def pendingToken (runtime : Runtime K) (options : ServiceOptions)
    (working : WorkingService K) (planner : SocketHandle) : Option UInt64 :=
  match (working.tasks planner).map Task.work with
  | some (.searching token snapshot request _ answers) =>
      if (planSoFar runtime options snapshot request answers).2 = none then
        some token
      else none
  | _ => none

omit [Field K] [LinearOrder K] in
/-- The result that the worker is about to answer with. -/
def plannedResult (working : WorkingService K) (planner : SocketHandle) :
    Option (PlanningResult K) :=
  match (working.tasks planner).map Task.work with
  | some (.storing result _ _) => some result
  | _ => none

omit [Field K] [LinearOrder K] in
theorem Undisturbed.plannedResult (undisturbed : working.Undisturbed)
    {planner : SocketHandle} {result : PlanningResult K}
    (planned : working.plannedResult planner = some result) :
    result.outcome ≠ .cancelled := by
  unfold WorkingService.plannedResult at planned
  split at planned
  · next found count stored storing =>
      obtain ⟨task, busy, work⟩ := Option.map_eq_some_iff.mp storing
      have own := undisturbed.tasks planner task busy
      rw [work] at own
      exact Option.some.inj planned ▸ own
  · cases planned

/-- A cancellation is acknowledged as found, and the plan that was searched for
is answered as cancelled, without candidates and without a put. -/
structure CancelTakesEffect (numbers : DoubleText runtime.formatDouble)
    (options : ServiceOptions) (before : WorkingService K)
    (canceller planner : SocketHandle) (faults : FrameFaults) (frame : Frame) :
    Prop where
  found : (before.receive numbers options canceller faults frame).answers =
    before.answers ++ [(canceller, ⟨RequestKind.cancel.ack, frame.sequence,
      before.service.incarnation.epoch, encodeCancelAck ⟨true⟩⟩)]
  planned : ∀ later last result,
    (before.receive numbers options canceller faults frame).run numbers options
        later = some last →
    (∀ event ∈ later, event ≠ .work planner .answer) →
    last.plannedResult planner = some result →
      result.outcome = .cancelled ∧ result.candidates = [] ∧
        ∀ fault, WorkerEvent.work planner (.put fault) ∉ later

/-- A cancellation that names the token of a plan in the middle of its search is
answered as not found, the plan is answered as anything but cancelled, and so
the cancellation does not take effect. -/
theorem cancel_takes_no_effect (numbers : DoubleText runtime.formatDouble)
    (options : ServiceOptions) (startFaults : StartFaults)
    (incarnation : IncarnationState) (snapshotFile : Option Bytes)
    (store : Directory) (service : ServiceState K) (files : SnapshotFiles)
    (events : List WorkerEvent) (before : WorkingService K)
    (canceller planner : SocketHandle) (faults : FrameFaults) (frame : Frame)
    (message : CancelMessage)
    (started : startService numbers options startFaults incarnation snapshotFile
      store = .ok service)
    (ran : run numbers options { service := service, files := files } events =
      some before)
    (free : before.tasks canceller = none)
    (kind : frame.kind = RequestKind.cancel.message)
    (here : before.service.pinnedElsewhere frame = false)
    (decoded : decodeCancel frame.payload = .ok message)
    (searching : pendingToken runtime options before planner =
      some message.cancelToken) :
    ∃ next, before.after numbers options (.receive canceller faults frame) =
        some next ∧
      next.answers = before.answers ++ [(canceller, ⟨RequestKind.cancel.ack,
        frame.sequence, before.service.incarnation.epoch,
        encodeCancelAck ⟨false⟩⟩)] ∧
      pendingToken runtime options next planner = some message.cancelToken ∧
      (∀ later last result, next.run numbers options later = some last →
        last.plannedResult planner = some result → result.outcome ≠ .cancelled) ∧
      ¬ CancelTakesEffect numbers options before canceller planner faults frame := by
  have fresh : (⟨service, files, fun _ => none, 0, []⟩ :
      WorkingService K).Undisturbed := by
    obtain ⟨cancellations, requested⟩ := startService_flags started
    exact ⟨cancellations, requested, by simp⟩
  have undisturbed := fresh.run ran
  have atOnce : before.service.taskOf numbers options before.nextFlag frame =
      none := by
    simp [ServiceState.taskOf, here, kind, RequestKind.request?_message]
  have answered : (before.receive numbers options canceller faults frame).answers =
      before.answers ++ [(canceller, ⟨RequestKind.cancel.ack, frame.sequence,
        before.service.incarnation.epoch, encodeCancelAck ⟨false⟩⟩)] := by
    simp only [receive, atOnce]
    rw [ServiceState.serveFrame_cancel numbers options faults
      undisturbed.cancellations kind here decoded]
  have happened : before.after numbers options (.receive canceller faults frame) =
      some (before.receive numbers options canceller faults frame) := by
    simp [WorkingService.after, free]
  have same : (before.receive numbers options canceller faults frame).tasks =
      before.tasks := by
    simp only [receive, atOnce]
  refine ⟨_, happened, answered, ?_, ?_, ?_⟩
  · rw [pendingToken, same]
    exact searching
  · intro later last result ranLater planned
    exact ((undisturbed.after happened).run ranLater).plannedResult planned
  · intro effect
    have found := effect.found
    rw [answered] at found
    simp only [List.append_cancel_left_eq, List.cons.injEq, Prod.mk.injEq,
      Frame.mk.injEq, and_true, true_and] at found
    exact absurd found (by decide)

/-! ### A cancellation in the middle of a search -/

/-- A service that keeps its snapshot in memory only. -/
def memoryOptions : ServiceOptions :=
  { store := { root := text "state" }, persistSnapshots := false }

/-- A frame that asks for a plan under a token. -/
def planFrame (token : UInt64) (request : PlanningRequest ℚ) : Frame where
  kind := RequestKind.plan.message
  sequence := 2
  epochPin := 0
  payload := encodePlan ⟨token, requestToText rationalRuntime.formatDouble request⟩

def cancelFrame (token : UInt64) : Frame where
  kind := RequestKind.cancel.message
  sequence := 3
  epochPin := 0
  payload := encodeCancel ⟨token⟩

/-- A plan whose search has polled once. -/
def searchingEvents : List WorkerEvent :=
  [.receive 1 {} (WatchedService.ingestFrame (spanWithProfile "line")),
    .work 1 .install, .receive 2 {} (planFrame 7 acrossSpan), .work 2 .poll]

/-- A service that is started with nothing. -/
def fromNothing (events : List WorkerEvent) : Option (WorkingService ℚ) :=
  (startService wholeNumbers memoryOptions {} ⟨⟨⟨1⟩, 0, 7⟩, 1, true⟩ none
    ∅).toOption.bind fun service =>
      run wholeNumbers memoryOptions ⟨service, noFiles, fun _ => none, 0, []⟩ events

theorem cancel_takes_no_effect_searching :
    ∃ before next, fromNothing searchingEvents = some before ∧
      before.after wholeNumbers memoryOptions (.receive 3 {} (cancelFrame 7)) =
        some next ∧
      ¬ CancelTakesEffect wholeNumbers memoryOptions before 3 2 {}
        (cancelFrame 7) := by
  have searching : (fromNothing searchingEvents).map (fun before =>
      (pendingToken rationalRuntime memoryOptions before 2,
        (before.tasks 3).isNone,
        before.service.pinnedElsewhere (cancelFrame 7))) =
      some (some 7, true, false) := by
    decide +kernel
  obtain ⟨before, ran, parts⟩ := Option.map_eq_some_iff.mp searching
  obtain ⟨service, started, ran⟩ := Option.bind_eq_some_iff.mp ran
  simp only [Prod.mk.injEq, Option.isNone_iff_eq_none] at parts
  obtain ⟨next, happened, -, -, -, noEffect⟩ :=
    cancel_takes_no_effect wholeNumbers memoryOptions {} ⟨⟨⟨1⟩, 0, 7⟩, 1, true⟩
      none ∅ service noFiles searchingEvents before 3 2 {} (cancelFrame 7) ⟨7⟩
      (toOption_eq_some_iff.mp started) ran parts.2.1 rfl parts.2.2
      (by decide) parts.1
  refine ⟨before, next, ?_, happened, noEffect⟩
  exact Option.bind_eq_some_iff.mpr ⟨service, started, ran⟩

/-- The cancellation of a plan that is searched for is not found, and the plan
is answered as feasible and stored. -/
theorem cancelled_plan_feasible :
    ∃ before next last result, fromNothing searchingEvents = some before ∧
      pendingToken rationalRuntime memoryOptions before 2 = some 7 ∧
      before.after wholeNumbers memoryOptions (.receive 3 {} (cancelFrame 7)) =
        some next ∧
      next.run wholeNumbers memoryOptions
        [.work 2 .poll, .work 2 .finishSearch, .work 2 (.put okStatus)] = some last ∧
      last.plannedResult 2 = some result ∧ result.outcome = .feasible ∧
      ¬ CancelTakesEffect wholeNumbers memoryOptions before 3 2 {}
        (cancelFrame 7) := by
  have planned : ((fromNothing searchingEvents).bind fun before =>
      (before.after wholeNumbers memoryOptions
        (.receive 3 {} (cancelFrame 7))).bind fun next =>
        (next.run wholeNumbers memoryOptions
          [.work 2 .poll, .work 2 .finishSearch, .work 2 (.put okStatus)]).map
          fun last => (pendingToken rationalRuntime memoryOptions before 2,
            (before.receive wholeNumbers memoryOptions 3 {}
              (cancelFrame 7)).answers.getLast?.map fun answer => answer.2.payload,
            (last.plannedResult 2).map PlanningResult.outcome)) =
      some (some 7, some [0], some .feasible) := by
    decide +kernel
  obtain ⟨before, ran, planned⟩ := Option.bind_eq_some_iff.mp planned
  obtain ⟨next, happened, planned⟩ := Option.bind_eq_some_iff.mp planned
  obtain ⟨last, later, parts⟩ := Option.map_eq_some_iff.mp planned
  simp only [Prod.mk.injEq] at parts
  obtain ⟨searching, answered, outcome⟩ := parts
  obtain ⟨result, isResult, feasible⟩ := Option.map_eq_some_iff.mp outcome
  refine ⟨before, next, last, result, ran, searching, happened, later, isResult,
    feasible, fun effect => ?_⟩
  rw [effect.found] at answered
  simp only [List.getLast?_concat, Option.map_some, Option.some.injEq] at answered
  exact absurd answered (by decide)

end WorkingService

end OpticalPathPlanner
