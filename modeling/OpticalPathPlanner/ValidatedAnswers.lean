import OpticalPathPlanner.ServiceLives
import OpticalPathPlanner.UnrelatedChanges

/-!
# Validating plans that were answered

Whatever its workers do, a service only ever holds snapshots that a builder
sealed.  A plan it answered is bound to the snapshot of that moment, and it is
found valid again exactly while the service holds a snapshot with the same digest
and the same generations of its sources.
-/

namespace OpticalPathPlanner

variable {K : Type} [Field K] [LinearOrder K] {runtime : Runtime K}
  {numbers : DoubleText runtime.formatDouble} {options : ServiceOptions}

/-! ### Snapshots of a service -/

theorem isBuilt_of_parse {content : Bytes} {snapshot : TopologySnapshot K}
    (parsed : parseSnapshotText numbers content = .ok snapshot) :
    IsBuilt runtime snapshot := by
  unfold parseSnapshotText at parsed
  split_ifs at parsed with long
  obtain ⟨reader, _, parsed⟩ := bind_eq_ok_iff.mp parsed
  obtain ⟨opened, _, parsed⟩ := bind_eq_ok_iff.mp parsed
  obtain ⟨builder, _, built⟩ := bind_eq_ok_iff.mp parsed
  exact .sealed builder snapshot built

theorem isBuilt_of_ingestedFrom {payload : Bytes} {snapshot : TopologySnapshot K}
    (ingested : ServiceState.ingestedFrom numbers payload = some snapshot) :
    IsBuilt runtime snapshot := by
  obtain ⟨message, _, read⟩ := Option.bind_eq_some_iff.mp ingested
  unfold ServiceState.readIngested at read
  split at read
  · cases read
  · rename_i parsed
    split_ifs at read
    · cases read
    · cases read
      exact isBuilt_of_parse parsed

namespace WorkingService

variable {working next : WorkingService K} {handle : SocketHandle} {task : Task K}

/-- Every snapshot in memory, or on its way there, was sealed by a builder. -/
structure OnBuilt (runtime : Runtime K) (working : WorkingService K) : Prop where
  memory : ∀ snapshot, working.service.snapshot = some snapshot →
    IsBuilt runtime snapshot
  tasks : ∀ handle task, working.tasks handle = some task → ∀ snapshot,
    task.work.ingesting = some snapshot → IsBuilt runtime snapshot

/-- What a step of a worker makes of the snapshots. -/
theorem perform_snapshot {step : WorkStep}
    (performed : working.perform options runtime handle task step = some next) :
    (next.service.snapshot = working.service.snapshot ∨
        step = .install ∧ next.service.snapshot = task.work.ingesting) ∧
      ∀ left, next.tasks handle = some left →
        left.work.ingesting = task.work.ingesting ∨ left.work.ingesting = none := by
  have free : ∀ {tasks : SocketHandle → Option (Task K)} (left : Task K),
      Function.update tasks handle none handle = some left →
        left.work.ingesting = task.work.ingesting ∨ left.work.ingesting = none := by
    intro tasks left busy
    simp at busy
  have busy : ∀ {tasks : SocketHandle → Option (Task K)} {work : Work K},
      (work.ingesting = task.work.ingesting ∨ work.ingesting = none) →
      ∀ left, Function.update tasks handle (some { task with work := work }) handle =
          some left →
        left.work.ingesting = task.work.ingesting ∨ left.work.ingesting = none := by
    intro tasks work kept left same
    simp only [Function.update_self, Option.some.injEq] at same
    exact same ▸ kept
  cases performs_of_perform performed with
  | create creating => exact ⟨.inl rfl, busy (.inl (by simp [creating, Work.ingesting]))⟩
  | write writing _ => exact ⟨.inl rfl, busy (.inl (by simp [writing, Work.ingesting]))⟩
  | rename writing _ _ =>
      exact ⟨.inl rfl, busy (.inl (by simp [writing, Work.ingesting]))⟩
  | refuse | discard | refuseRename => exact ⟨.inl (countAnswer_snapshot _ _), free⟩
  | install installing =>
      refine ⟨.inr ⟨rfl, ?_⟩, free⟩
      rw [replyPayload, reply, countAnswer_snapshot, installing]
      rfl
  | poll | finishSearch | put => exact ⟨.inl rfl, busy (.inr rfl)⟩
  | answer =>
      refine ⟨.inl ?_, free⟩
      rw [replyPayload, reply, countAnswer_snapshot]
      rfl

theorem OnBuilt.after (onBuilt : working.OnBuilt runtime) {event : WorkerEvent}
    (happened : working.after numbers options event = some next) :
    next.OnBuilt runtime ∧ ((∀ worker, event ≠ .work worker .install) →
      next.service.snapshot = working.service.snapshot) := by
  cases event with
  | receive handle faults frame =>
      simp only [WorkingService.after, Option.ite_none_left_eq_some,
        Option.some.injEq] at happened
      obtain ⟨-, rfl⟩ := happened
      unfold receive
      cases found : working.service.taskOf numbers options working.nextFlag frame with
      | none =>
          have memory := serveFrame_snapshot faults found
          refine ⟨⟨fun snapshot held => ?_, onBuilt.tasks⟩, fun _ => memory⟩
          exact onBuilt.memory snapshot (memory ▸ held)
      | some work =>
          have memory := begin_snapshot work working.service
          refine ⟨⟨fun snapshot held => ?_, fun other task busy snapshot ingesting => ?_⟩,
            fun _ => memory⟩
          · exact onBuilt.memory snapshot (memory ▸ held)
          · by_cases own : other = handle
            · subst own
              simp only [Function.update_self, Option.some.injEq] at busy
              subst busy
              rcases ingests_of_taskOf found with ⟨read, ⟨-, ingested⟩, rfl⟩ | none_
              · have same : read = snapshot := by
                  split_ifs at ingesting <;> exact Option.some.inj ingesting
                exact same ▸ isBuilt_of_ingestedFrom ingested
              · rw [none_] at ingesting
                cases ingesting
            · simp only [Function.update_of_ne own] at busy
              exact onBuilt.tasks other task busy snapshot ingesting
  | work handle step =>
      obtain ⟨task, busy, performed⟩ := Option.bind_eq_some_iff.mp happened
      obtain ⟨memory, own⟩ := perform_snapshot performed
      refine ⟨⟨fun snapshot held => ?_, fun other left isTask snapshot ingesting => ?_⟩,
        fun keeps => ?_⟩
      · rcases memory with same | ⟨-, installed⟩
        · exact onBuilt.memory snapshot (same ▸ held)
        · exact onBuilt.tasks handle task busy snapshot (installed ▸ held)
      · by_cases same : other = handle
        · subst same
          rcases own left isTask with kept | none_
          · exact onBuilt.tasks other task busy snapshot (kept ▸ ingesting)
          · rw [none_] at ingesting
            cases ingesting
        · rw [perform_tasks same performed] at isTask
          exact onBuilt.tasks other left isTask snapshot ingesting
      · exact memory.resolve_right fun installs => keeps handle (installs.1 ▸ rfl)

theorem OnBuilt.run (onBuilt : working.OnBuilt runtime) {events : List WorkerEvent}
    (ran : working.run numbers options events = some next) : next.OnBuilt runtime :=
  Runs.invariant _ (fun _ _ _ kept happened => (kept.after happened).1) onBuilt ran

/-- As long as nothing is installed, the snapshot in memory stays. -/
theorem OnBuilt.run_snapshot (onBuilt : working.OnBuilt runtime)
    {events : List WorkerEvent}
    (keeps : ∀ event ∈ events, ∀ worker, event ≠ .work worker .install)
    (ran : working.run numbers options events = some next) :
    next.service.snapshot = working.service.snapshot :=
  (Runs.related_of_admitted (fun before after : WorkingService K =>
      after.service.snapshot = before.service.snapshot)
    (fun _ => rfl) (fun _ _ _ first second => second.trans first)
    (fun _ _ _ allowed kept happened =>
      (kept.after happened).imp_right fun same => same allowed)
    keeps onBuilt ran).2

theorem OnBuilt.started {faults : StartFaults} {incarnation : IncarnationState}
    {snapshotFile : Option Bytes} {store : Directory} {service : ServiceState K}
    (started : startService numbers options faults incarnation snapshotFile store =
      .ok service) (files : SnapshotFiles) :
    (⟨service, files, fun _ => none, 0, []⟩ : WorkingService K).OnBuilt runtime := by
  refine ⟨fun snapshot held => ?_, by simp⟩
  unfold startService at started
  split at started
  · cases started
  · cases started
    simp only at held
    split_ifs at held with persists
    obtain ⟨loaded, load, rfl⟩ := Option.map_eq_some_iff.mp held
    unfold loadSnapshot at load
    split at load
    · cases load
    · split_ifs at load
      exact .restored loaded _ _ (isBuilt_of_parse (toOption_eq_some_iff.mp load))

end WorkingService

/-! ### Answers -/

namespace WorkingService

variable {working : WorkingService K} {handle : SocketHandle}

theorem receive_validate {faults : FrameFaults} {frame : Frame}
    {message : ValidateMessage} {plan : PlanArtifact K}
    (kind : frame.kind = RequestKind.validate.message)
    (here : working.service.pinnedElsewhere frame = false)
    (decoded : decodeValidate frame.payload = .ok message)
    (read : parsePlanArtifact runtime numbers message.planText = .ok plan) :
    (working.receive numbers options handle faults frame).answers =
      working.answers ++ [(handle, ⟨RequestKind.validate.ack, frame.sequence,
        working.service.incarnation.epoch, encodeValidateAck
          (working.service.validateAck runtime plan message.policy)⟩)] := by
  have atOnce : working.service.taskOf numbers options working.nextFlag frame =
      none := by
    simp [ServiceState.taskOf, here, kind, RequestKind.request?_message]
  have handled : ServiceState.handleRequest numbers options working.service faults
      .validate frame.payload = (.ok (encodeValidateAck
        (working.service.validateAck runtime plan message.policy)),
          working.service) := by
    simp only [ServiceState.handleRequest, ServiceState.handleValidate, decoded, read]
  have notShutdown : frame.kind ≠ RequestKind.shutdown.message := by
    rw [kind]
    decide
  have asked : frame.kind.request? = some .validate := by
    rw [kind, RequestKind.request?_message]
  have served := ServiceState.serveFrame_of_ok notShutdown (by simp [here]) asked handled
  simp only [receive, atOnce, served]

/-- A plan that a service answers stays valid until other evidence is installed,
and is valid exactly while the evidence in memory stands for that it was planned
on.  In whatever order the workers plan, ingest, store and cancel, a Validate
frame about it is answered VALID if and only if the snapshot in memory at that
moment has the same digest and the same generations of the sources, and is fresh
or accepted as restored. -/
theorem answered_plan_validated (numbers : DoubleText runtime.formatDouble)
    (options : ServiceOptions) (startFaults : StartFaults)
    (incarnation : IncarnationState) (snapshotFile : Option Bytes)
    (store : Directory) (service : ServiceState K) (files : SnapshotFiles)
    (events later : List WorkerEvent) (before final : WorkingService K)
    (request : PlanningRequest K) (candidate : PlanArtifact K)
    (client : SocketHandle) (faults : FrameFaults) (frame : Frame)
    (message : ValidateMessage)
    (started : startService numbers options startFaults incarnation snapshotFile
      store = .ok service)
    (ran : run numbers options { service := service, files := files } events =
      some before)
    (offered : candidate ∈ (ServiceState.planAnswer runtime options
      before.service.snapshot request).candidates)
    (ranLater : run numbers options before later = some final)
    (kind : frame.kind = RequestKind.validate.message)
    (here : final.service.pinnedElsewhere frame = false)
    (decoded : decodeValidate frame.payload = .ok message)
    (read : parsePlanArtifact runtime numbers message.planText = .ok candidate) :
    ∃ planned report, before.service.snapshot = some planned ∧
      (final.receive numbers options client faults frame).answers =
        final.answers ++ [(client, ⟨RequestKind.validate.ack, frame.sequence,
          final.service.incarnation.epoch, encodeValidateAck report⟩)] ∧
      (report.validity = .valid ↔ ∃ current, final.service.snapshot = some current ∧
        current.StandsFor planned message.policy) ∧
      ((∀ event ∈ later, ∀ worker, event ≠ .work worker .install) →
        planned.freshness = .fresh ∨ message.policy.acceptRestoredEvidence = true →
        report.validity = .valid) := by
  have onBuilt := (OnBuilt.started started files).run ran
  cases memory : before.service.snapshot with
  | none =>
      rw [memory] at offered
      cases offered
  | some planned =>
      rw [memory] at offered
      have built := onBuilt.memory planned memory
      have iff : (final.service.validateAck runtime candidate
          message.policy).validity = .valid ↔
            ∃ current, final.service.snapshot = some current ∧
              current.StandsFor planned message.policy := by
        unfold ServiceState.validateAck
        cases held : final.service.snapshot with
        | none => simp
        | some current =>
            simp only [Option.some.injEq, exists_eq_left']
            exact candidate_bindings_iff offered message.policy
      refine ⟨planned, _, rfl, receive_validate kind here decoded read, iff,
        fun keeps admitted => iff.mpr ?_⟩
      exact ⟨planned, (onBuilt.run_snapshot keeps ranLater).trans memory,
        built.standsFor admitted⟩

def validateFrame (plan : PlanArtifact ℚ) : Frame where
  kind := RequestKind.validate.message
  sequence := 6
  epochPin := 0
  payload := encodeValidate ⟨{}, plan.canonicalBytes rationalRuntime.formatDouble⟩

/-- Another snapshot takes the place of the one in memory. -/
def replacedEvents : List WorkerEvent :=
  [.receive 1 {} (WatchedService.ingestFrame WatchedService.soleSource), .work 1 .install]

theorem answered_plan_validated_replaced :
    ∃ before final candidate report, fromNothing ingestedEvents = some before ∧
      candidate ∈ (ServiceState.planAnswer rationalRuntime memoryOptions
        before.service.snapshot acrossSpan).candidates ∧
      run wholeNumbers memoryOptions before replacedEvents = some final ∧
      (final.receive wholeNumbers memoryOptions 4 {} (validateFrame candidate)).answers =
        final.answers ++ [(4, ⟨RequestKind.validate.ack, 6,
          final.service.incarnation.epoch, encodeValidateAck report⟩)] ∧
      report.validity ≠ .valid := by
  have reached : (fromNothing ingestedEvents).bind (fun before =>
      (before.run wholeNumbers memoryOptions replacedEvents).bind fun final =>
      (ServiceState.planAnswer rationalRuntime memoryOptions before.service.snapshot
        acrossSpan).candidates.head?.map fun candidate =>
        (final.service.pinnedElsewhere (validateFrame candidate),
          decide (decodeValidate (validateFrame candidate).payload =
            .ok ⟨{}, candidate.canonicalBytes rationalRuntime.formatDouble⟩),
          decide (parsePlanArtifact rationalRuntime wholeNumbers
            (candidate.canonicalBytes rationalRuntime.formatDouble) = .ok candidate),
          before.service.snapshot.map TopologySnapshot.digest ==
            final.service.snapshot.map TopologySnapshot.digest)) =
      some (false, true, true, false) := by
    decide +kernel
  obtain ⟨before, start, reached⟩ := Option.bind_eq_some_iff.mp reached
  obtain ⟨final, replaced, reached⟩ := Option.bind_eq_some_iff.mp reached
  obtain ⟨candidate, first, parts⟩ := Option.map_eq_some_iff.mp reached
  obtain ⟨service, started, ran⟩ := Option.bind_eq_some_iff.mp start
  simp only [Prod.mk.injEq, decide_eq_true_eq, beq_eq_false_iff_ne] at parts
  obtain ⟨here, decoded, read, differ⟩ := parts
  have offered := List.mem_of_mem_head? first
  obtain ⟨planned, report, memory, answered, iff, -⟩ := answered_plan_validated
    wholeNumbers memoryOptions {} ⟨⟨⟨1⟩, 0, 7⟩, 1, true⟩ none ∅ service noFiles
    ingestedEvents replacedEvents before final acrossSpan candidate 4 {}
    (validateFrame candidate) _ (toOption_eq_some_iff.mp started) ran offered replaced rfl
    here decoded read
  refine ⟨before, final, candidate, report, start, offered, replaced, answered,
    fun valid => ?_⟩
  obtain ⟨current, held, stands⟩ := iff.mp valid
  rw [memory, held, Option.map_some, Option.map_some, stands.digest] at differ
  exact differ rfl

end WorkingService

end OpticalPathPlanner
