import OpticalPathPlanner.AtomicWrites
import OpticalPathPlanner.IsolatedPlans

/-!
# Lives of a service

A process serves with its workers until it ends or dies, perhaps in the middle
of a write to its store, and the next process starts over what is on disk.  An
artifact that was stored is there in every later life, and an artifact is never
anything but the whole file of a candidate that was planned.
-/

namespace OpticalPathPlanner

variable {K : Type} [Field K] [LinearOrder K] {runtime : Runtime K}
  {numbers : DoubleText runtime.formatDouble} {options : ServiceOptions}

/-! ### Artifacts on disk -/

namespace PlanStore

variable {such : PlanArtifact K → Prop} {start directory final : Directory}
  {plan : PlanArtifact K}

/-- No artifact is lost or changed, and a new one is the file of such a plan. -/
structure Retains (runtime : Runtime K) (such : PlanArtifact K → Prop)
    (start final : Directory) : Prop where
  kept : ∀ name bytes, hasSuffix kStoreFileSuffix name = true →
    start.lookup name = some bytes → final.lookup name = some bytes
  origin : ∀ name bytes, hasSuffix kStoreFileSuffix name = true →
    final.lookup name = some bytes → start.lookup name = some bytes ∨
      ∃ plan, such plan ∧ name = fileNameFor plan.digest ∧
        encodeStoreFile runtime plan = .ok bytes

theorem Retains.of_lookup
    (same : ∀ name, hasSuffix kStoreFileSuffix name = true →
      final.lookup name = start.lookup name) :
    Retains runtime such start final where
  kept name bytes isArtifact found := by rw [same name isArtifact, found]
  origin name bytes isArtifact found := by
    rw [same name isArtifact] at found
    exact .inl found

theorem Retains.trans (first : Retains runtime such start directory)
    (second : Retains runtime such directory final) :
    Retains runtime such start final where
  kept name bytes isArtifact found :=
    second.kept name bytes isArtifact (first.kept name bytes isArtifact found)
  origin name bytes isArtifact found :=
    (second.origin name bytes isArtifact found).elim
      (first.origin name bytes isArtifact) .inr

theorem Retains.of_grown {storeOptions : StoreOptions}
    (grown : Grown runtime storeOptions such start final) :
    Retains runtime such start final where
  kept _ _ _ found := grown.lookup found
  origin _ _ _ found := grown.origin found

theorem Retains.stored (retains : Retains runtime such start final)
    (stored : Stored runtime start plan) : Stored runtime final plan := by
  obtain ⟨bytes, encoded, found⟩ := stored
  exact ⟨bytes, encoded, retains.kept _ bytes (fileNameFor_hasSuffix plan.digest) found⟩

/-- Opening a store touches no artifact. -/
theorem Retains.of_open {storeOptions : StoreOptions} {faults : Bytes → Status}
    (opened : open_ storeOptions faults start = .ok final) :
    Retains runtime such start final := by
  unfold open_ at opened
  split_ifs at opened
  cases opened
  exact .of_lookup fun name isArtifact =>
    lookup_cleanTemporaries faults start (isTemporary_of_storeFile isArtifact)

theorem ne_tempNameFor {name : Bytes} (isArtifact : hasSuffix kStoreFileSuffix name = true)
    (other : Bytes) (processId : UInt64) : name ≠ tempNameFor other processId := by
  rintro rfl
  obtain ⟨digit, last, isDigit_⟩ := getLast?_tempNameFor other processId
  have ends : (tempNameFor other processId).getLast? = some 110 :=
    getLast?_of_hasSuffix isArtifact (by decide)
  rw [ends, Option.some.injEq] at last
  subst last
  revert isDigit_
  decide

/-- A write of a new artifact that breaks off anywhere leaves all of it or
nothing. -/
theorem Retains.of_interruptedWrite {chunks : List Bytes} (isSuch : such plan)
    (absent : fileNameFor plan.digest ∉ start)
    (encoded : encodeStoreFile runtime plan = .ok chunks.flatten)
    (processId : UInt64) (completes : Bool) (count : Nat) :
    Retains runtime such start (interruptedWrite (fileNameFor plan.digest) processId
      chunks completes count start) := by
  rcases count with _ | count
  · exact .of_lookup fun _ _ => rfl
  · rcases Nat.lt_or_ge chunks.length count with all | part
    · have whole := @lookup_interruptedWrite_all (fileNameFor plan.digest) processId
        chunks completes (count + 1) (by omega) start
      obtain ⟨-, own, others⟩ := whole
      have missing := AList.lookup_eq_none.mpr absent
      constructor
      · intro name bytes isArtifact found
        have differ : name ≠ fileNameFor plan.digest := by
          rintro rfl
          rw [missing] at found
          cases found
        rw [others name (ne_tempNameFor isArtifact _ _) differ, found]
      · intro name bytes isArtifact found
        by_cases isOwn : name = fileNameFor plan.digest
        · subst isOwn
          rw [own] at found
          split_ifs at found
          · exact .inr ⟨plan, isSuch, rfl, Option.some.inj found ▸ encoded⟩
          · exact .inl found
        · rw [others name (ne_tempNameFor isArtifact _ _) isOwn] at found
          exact .inl found
    · refine .of_lookup fun name isArtifact => ?_
      exact (lookup_interruptedWrite_part chunks completes part start).2 name
        (ne_tempNameFor isArtifact _ _)

end PlanStore

/-! ### Lives -/

namespace WorkingService

variable {first working next final : WorkingService K}

/-- What a process leaves in the directory of its store.  One worker at a time
writes there, and the process may die between any two operations of the write. -/
inductive Leaves (runtime : Runtime K) (working : WorkingService K) : Directory → Prop
  | idle : Leaves runtime working working.service.store
  | writing {handle : SocketHandle} {task : Task K} {result : PlanningResult K}
      {count : Nat} {stored : Bool} {plan : PlanArtifact K} {chunks : List Bytes}
      (busy : working.tasks handle = some task)
      (storing : task.work = .storing result count stored)
      (listed : result.candidates[count]? = some plan)
      (absent : fileNameFor plan.digest ∉ working.service.store)
      (encoded : encodeStoreFile runtime plan = .ok chunks.flatten)
      (processId : UInt64) (completes : Bool) (operations : Nat) :
      Leaves runtime working (interruptedWrite (fileNameFor plan.digest) processId
        chunks completes operations working.service.store)

/-- The service at a later time, after any events, deaths and starts. -/
inductive Lives (numbers : DoubleText runtime.formatDouble) (options : ServiceOptions)
    (first : WorkingService K) : WorkingService K → Prop
  | now : Lives numbers options first first
  | event {working next : WorkingService K} {event : WorkerEvent}
      (earlier : Lives numbers options first working)
      (happened : working.after numbers options event = some next) :
      Lives numbers options first next
  | restart {working : WorkingService K} {store : Directory} {faults : StartFaults}
      {incarnation : IncarnationState} {snapshotFile : Option Bytes}
      {service : ServiceState K} (earlier : Lives numbers options first working)
      (left : working.Leaves runtime store)
      (started : startService numbers options faults incarnation snapshotFile store =
        .ok service) (files : SnapshotFiles) :
      Lives numbers options first ⟨service, files, fun _ => none, 0, []⟩

theorem Leaves.retains (faithful : working.Faithful runtime options) {store : Directory}
    (left : working.Leaves runtime store) :
    PlanStore.Retains runtime (PlanArtifact.IsPlanned runtime options)
      working.service.store store := by
  cases left with
  | idle => exact .of_lookup fun _ _ => rfl
  | @writing handle task result count stored plan chunks busy storing listed absent
      encoded processId completes operations =>
      refine .of_interruptedWrite ?_ absent encoded processId completes operations
      have own := faithful.works handle task busy
      rw [storing] at own
      rcases own with ingesting | ⟨snapshot, request, plans⟩
      · cases ingesting
      · cases plans with
        | storing within held => exact ⟨snapshot, request, List.mem_of_getElem? listed⟩

theorem opened_of_start {faults : StartFaults} {incarnation : IncarnationState}
    {snapshotFile : Option Bytes} {store : Directory} {service : ServiceState K}
    (started : startService numbers options faults incarnation snapshotFile store =
      .ok service) :
    PlanStore.open_ options.store faults.remove store = .ok service.store := by
  unfold startService at started
  split at started
  · cases started
  · next opened =>
      cases started
      exact opened

theorem Lives.retains (faithful : first.Faithful runtime options)
    (lives : Lives numbers options first final) :
    final.Faithful runtime options ∧ PlanStore.Retains runtime
      (PlanArtifact.IsPlanned runtime options) first.service.store
      final.service.store := by
  induction lives with
  | now => exact ⟨faithful, .of_lookup fun _ _ => rfl⟩
  | event earlier happened ih =>
      obtain ⟨kept, grown⟩ := ih.1.after happened
      exact ⟨kept, ih.2.trans (.of_grown grown)⟩
  | restart earlier left started files ih =>
      exact ⟨.started started files, (ih.2.trans (left.retains ih.1)).trans
        (.of_open (opened_of_start started))⟩

theorem Lives.run {events : List WorkerEvent} (lives : Lives numbers options first working)
    (ran : working.run numbers options events = some next) :
    Lives numbers options first next :=
  Runs.invariant _ (fun _ _ _ earlier happened => earlier.event happened) lives ran

/-- Whatever its life was, a service that began with an empty store holds no
artifact but whole files of sealed candidates that were planned. -/
theorem artifacts_planned (numbers : DoubleText runtime.formatDouble)
    (options : ServiceOptions) (faults : StartFaults) (incarnation : IncarnationState)
    (snapshotFile : Option Bytes) (service : ServiceState K) (files : SnapshotFiles)
    (final : WorkingService K)
    (started : startService numbers options faults incarnation snapshotFile ∅ =
      .ok service)
    (lives : Lives numbers options ⟨service, files, fun _ => none, 0, []⟩ final)
    (name bytes : Bytes) (isArtifact : hasSuffix kStoreFileSuffix name = true)
    (found : final.service.store.lookup name = some bytes) :
    ∃ plan, plan.IsPlanned runtime options ∧
      runtime.computePlanDigest plan = plan.digest ∧
      name = fileNameFor plan.digest ∧ encodeStoreFile runtime plan = .ok bytes := by
  have opened : PlanStore.Retains runtime (PlanArtifact.IsPlanned runtime options) ∅
      service.store := .of_open (opened_of_start started)
  have retains := opened.trans (lives.retains (.started started files)).2
  rcases retains.origin name bytes isArtifact found with old | ⟨plan, planned, isName,
    encoded⟩
  · cases old
  · exact ⟨plan, planned, (encodeStoreFile_eq_ok_iff.mp encoded).1, isName, encoded⟩

/-- The search of one plan to its end, and its only put. -/
def plannedEvents : List WorkerEvent :=
  [.work 2 .poll, .work 2 .poll, .work 2 .finishSearch, .work 2 (.put okStatus)]

theorem artifacts_planned_acrossSpan :
    ∃ working name bytes, fromNothing (ingestedEvents ++
        .receive 2 {} (planFrame 7 acrossSpan) :: plannedEvents) = some working ∧
      working.service.store.lookup name = some bytes ∧
      ∃ plan, plan.IsPlanned rationalRuntime memoryOptions ∧
        rationalRuntime.computePlanDigest plan = plan.digest ∧
        name = fileNameFor plan.digest ∧
        encodeStoreFile rationalRuntime plan = .ok bytes := by
  have stored : (fromNothing (ingestedEvents ++
      .receive 2 {} (planFrame 7 acrossSpan) :: plannedEvents)).bind (fun working =>
        working.service.store.keys.head?.bind fun name =>
          (working.service.store.lookup name).map fun _ =>
            hasSuffix kStoreFileSuffix name) = some true := by
    decide +kernel
  obtain ⟨working, reached, stored⟩ := Option.bind_eq_some_iff.mp stored
  obtain ⟨name, -, stored⟩ := Option.bind_eq_some_iff.mp stored
  obtain ⟨bytes, found, isArtifact⟩ := Option.map_eq_some_iff.mp stored
  obtain ⟨service, started, ran⟩ := Option.bind_eq_some_iff.mp reached
  exact ⟨working, name, bytes, reached, found, artifacts_planned wholeNumbers
    memoryOptions {} ⟨⟨⟨1⟩, 0, 7⟩, 1, true⟩ none service noFiles working
    (toOption_eq_some_iff.mp started) (Lives.now.run ran) name bytes isArtifact found⟩

/-! ### Plans that were answered -/

variable {snapshot : Option (TopologySnapshot K)} {request : PlanningRequest K}
  {handle : SocketHandle} {task : Task K}

omit [Field K] [LinearOrder K] in
theorem countAnswer_plansRejected (state : ServiceState K) (reply : Frame) :
    (state.countAnswer reply).stats.plansRejected = state.stats.plansRejected := by
  unfold ServiceState.countAnswer
  split_ifs <;> rfl

theorem add_one_ne (counter : UInt64) : counter + 1 ≠ counter := by
  intro same
  have wrapped := congrArg UInt64.toNat same
  rw [UInt64.toNat_add] at wrapped
  have small := counter.toNat_lt
  have one : (1 : UInt64).toNat = 1 := rfl
  omega

omit [Field K] [LinearOrder K] in
/-- A plan that was not counted as rejected was feasible and stored. -/
theorem stored_of_endPlan {state : ServiceState K} {outcome : PlanOutcome} {stored : Bool}
    (uncancelled : outcome ≠ .cancelled)
    (accepted : (state.endPlan outcome stored).stats.plansRejected =
      state.stats.plansRejected) :
    outcome = .feasible ∧ stored = true := by
  simp only [ServiceState.endPlan, if_neg uncancelled] at accepted
  split_ifs at accepted with feasible isStored
  · exact ⟨feasible, isStored⟩
  · exact absurd accepted (add_one_ne _)
  · exact absurd accepted (add_one_ne _)

/-- The candidates of an answer that was not counted as rejected are stored. -/
theorem stored_of_answer (undisturbed : task.work.Undisturbed)
    (plans : task.work.Plans runtime options snapshot request working.service.store)
    (answered : working.perform options runtime handle task .answer = some next)
    (accepted : next.service.stats.plansRejected =
      working.service.stats.plansRejected) :
    ∀ plan ∈ (ServiceState.planAnswer runtime options snapshot request).candidates,
      PlanStore.Stored runtime next.service.store plan := by
  cases performs_of_perform answered with
  | @answer result count stored storing done =>
      rw [storing] at undisturbed plans
      cases plans with
      | storing within held =>
          have same : (working.service.endPlan (ServiceState.planAnswer runtime options
              snapshot request).outcome stored).stats.plansRejected =
              working.service.stats.plansRejected :=
            (countAnswer_plansRejected _ _).symm.trans accepted
          obtain ⟨feasible, isStored⟩ := stored_of_endPlan undisturbed same
          have all := done.resolve_left (not_not.mpr feasible)
          intro plan member
          rw [replyPayload, reply, (countAnswer_keeps _ _).1]
          refine held isStored plan ?_
          rw [all, List.take_length]
          exact member

/-- A stored plan that can be read is sent to whoever asks for its digest. -/
theorem receive_getPlan {plan : PlanArtifact K} {faults : FrameFaults} {frame : Frame}
    (zero : numbers.IsDouble 0)
    (stored : PlanStore.Stored runtime working.service.store plan)
    (readable : plan.Readable numbers)
    (kind : frame.kind = RequestKind.getPlan.message)
    (here : working.service.pinnedElsewhere frame = false)
    (decoded : decodeGetPlan frame.payload = .ok ⟨plan.digest⟩) :
    (working.receive numbers options handle faults frame).answers =
      working.answers ++ [(handle, ⟨RequestKind.getPlan.ack, frame.sequence,
        working.service.incarnation.epoch, encodeGetPlanAck
          ⟨plan.digest, plan.canonicalBytes runtime.formatDouble⟩⟩)] := by
  have atOnce : working.service.taskOf numbers options working.nextFlag frame =
      none := by
    simp [ServiceState.taskOf, here, kind, RequestKind.request?_message]
  have got : PlanStore.get runtime numbers options.store plan.digest
      working.service.store = .ok plan :=
    ((stored.readsBack_iff zero).mpr readable).got
  have handled : ServiceState.handleRequest numbers options working.service faults
      .getPlan frame.payload = (.ok (encodeGetPlanAck
        ⟨plan.digest, plan.canonicalBytes runtime.formatDouble⟩), working.service) := by
    simp only [ServiceState.handleRequest, ServiceState.handleGetPlan, decoded, got]
  have notShutdown : frame.kind ≠ RequestKind.shutdown.message := by
    rw [kind]
    decide
  have asked : frame.kind.request? = some .getPlan := by
    rw [kind, RequestKind.request?_message]
  have served := ServiceState.serveFrame_of_ok notShutdown (by simp [here]) asked handled
  simp only [receive, atOnce, served]

/-- A plan that was answered and not counted as rejected can be fetched by anyone
from then on: in every later life of the service, whatever its workers do in
between and wherever its processes die, the digest of each candidate is answered
with the artifact, as long as the reader of plans accepts it. -/
theorem answered_plan_fetched (numbers : DoubleText runtime.formatDouble)
    (options : ServiceOptions) (startFaults : StartFaults)
    (incarnation : IncarnationState) (snapshotFile : Option Bytes)
    (store : Directory) (service : ServiceState K) (files : SnapshotFiles)
    (before between next final : WorkingService K) (later : List WorkerEvent)
    (planner client : SocketHandle) (planFaults getFaults : FrameFaults)
    (asking fetching : Frame) (message : PlanMessage) (request : PlanningRequest K)
    (plan : PlanArtifact K) (zero : numbers.IsDouble 0)
    (started : startService numbers options startFaults incarnation snapshotFile
      store = .ok service)
    (lived : Lives numbers options ⟨service, files, fun _ => none, 0, []⟩ before)
    (free : before.tasks planner = none)
    (asks : asking.kind = RequestKind.plan.message)
    (here : before.service.pinnedElsewhere asking = false)
    (decoded : decodePlan asking.payload = .ok message)
    (parsed : parseRequestText numbers message.requestText = .ok request)
    (ran : run numbers options
      (before.receive numbers options planner planFaults asking) later = some between)
    (unanswered : ∀ event ∈ later, event ≠ .work planner .answer)
    (answered : between.after numbers options (.work planner .answer) = some next)
    (accepted : next.service.stats.plansRejected =
      between.service.stats.plansRejected)
    (candidate : plan ∈ (ServiceState.planAnswer runtime options
      before.service.snapshot request).candidates)
    (readable : plan.Readable numbers)
    (lives : Lives numbers options next final)
    (fetches : fetching.kind = RequestKind.getPlan.message)
    (there : final.service.pinnedElsewhere fetching = false)
    (named : decodeGetPlan fetching.payload = .ok ⟨plan.digest⟩) :
    (final.receive numbers options client getFaults fetching).answers =
      final.answers ++ [(client, ⟨RequestKind.getPlan.ack, fetching.sequence,
        final.service.incarnation.epoch, encodeGetPlanAck
          ⟨plan.digest, plan.canonicalBytes runtime.formatDouble⟩⟩)] := by
  have faithful := (lived.retains (.started started files)).1
  have happened : before.after numbers options (.receive planner planFaults asking) =
      some (before.receive numbers options planner planFaults asking) := by
    simp [WorkingService.after, free]
  have taken := (faithful.after happened).1
  obtain ⟨busy, -⟩ := receive_plan asks here decoded parsed
  obtain ⟨work, stays, plans, -⟩ := run_plans taken busy
    (.searching (by simp) (Nat.zero_le _)) ran unanswered
  have latest := (taken.run ran).1
  have own := latest.undisturbed.tasks planner _ stays
  have done := (latest.after answered).1
  simp only [WorkingService.after, stays, Option.bind_some] at answered
  have stored := stored_of_answer own plans answered accepted plan candidate
  have retains := (lives.retains done).2
  exact receive_getPlan zero (retains.stored stored) readable fetches there named

def fetchFrame (digest : Digest256) : Frame where
  kind := RequestKind.getPlan.message
  sequence := 5
  epochPin := 0
  payload := encodeGetPlan ⟨digest⟩

/-- The next process starts in the same directory. -/
def startAgain (store : Directory) : Except Status (ServiceState ℚ) :=
  startService wholeNumbers memoryOptions {} ⟨⟨⟨2⟩, 0, 8⟩, 2, true⟩ none store

theorem answered_plan_fetched_restarted :
    ∃ (before restarted : WorkingService ℚ) (plan : PlanArtifact ℚ),
      fromNothing ingestedEvents = some before ∧
      plan ∈ (ServiceState.planAnswer rationalRuntime memoryOptions
        before.service.snapshot acrossSpan).candidates ∧
      restarted.service.incarnation.epoch = 2 ∧
      (restarted.receive wholeNumbers memoryOptions 4 {} (fetchFrame plan.digest)).answers =
        restarted.answers ++ [(4, ⟨RequestKind.getPlan.ack, 5,
          restarted.service.incarnation.epoch, encodeGetPlanAck
            ⟨plan.digest, plan.canonicalBytes rationalRuntime.formatDouble⟩⟩)] := by
  have zero : wholeNumbers.IsDouble 0 := ⟨0, by decide, by norm_num⟩
  have reached : (fromNothing ingestedEvents).bind (fun before =>
      (before.receive wholeNumbers memoryOptions 2 {} (planFrame 7 acrossSpan)).run
        wholeNumbers memoryOptions plannedEvents |>.bind fun between =>
      (between.after wholeNumbers memoryOptions (.work 2 .answer)).bind fun next =>
      (startAgain next.service.store).toOption.bind fun service =>
      (ServiceState.planAnswer rationalRuntime memoryOptions before.service.snapshot
        acrossSpan).candidates.head?.map fun plan =>
        ((before.tasks 2).isNone, before.service.pinnedElsewhere (planFrame 7 acrossSpan),
          next.service.stats.plansRejected == between.service.stats.plansRejected,
          decide (parsePlanArtifact rationalRuntime wholeNumbers
            (plan.canonicalBytes rationalRuntime.formatDouble) = .ok plan),
          service.incarnation.epoch)) = some (true, false, true, true, 2) := by
    decide +kernel
  obtain ⟨before, start, reached⟩ := Option.bind_eq_some_iff.mp reached
  obtain ⟨between, ran, reached⟩ := Option.bind_eq_some_iff.mp reached
  obtain ⟨next, answered, reached⟩ := Option.bind_eq_some_iff.mp reached
  obtain ⟨again, restarted, reached⟩ := Option.bind_eq_some_iff.mp reached
  obtain ⟨plan, first, parts⟩ := Option.map_eq_some_iff.mp reached
  obtain ⟨service, started, ranBefore⟩ := Option.bind_eq_some_iff.mp start
  simp only [Prod.mk.injEq, Option.isNone_iff_eq_none, beq_iff_eq,
    decide_eq_true_eq] at parts
  obtain ⟨free, here, accepted, readable, epoch⟩ := parts
  have candidate := List.mem_of_mem_head? first
  refine ⟨before, ⟨again, noFiles, fun _ => none, 0, []⟩, plan, start, candidate, epoch,
    ?_⟩
  exact answered_plan_fetched wholeNumbers memoryOptions {} ⟨⟨⟨1⟩, 0, 7⟩, 1, true⟩ none ∅
    service noFiles before between next _ plannedEvents 2 4 {} {} (planFrame 7 acrossSpan)
    (fetchFrame plan.digest) ⟨7, requestToText rationalRuntime.formatDouble acrossSpan⟩
    acrossSpan plan zero (toOption_eq_some_iff.mp started) (Lives.now.run ranBefore) free
    rfl here (toOption_eq_some_iff.mp (by decide +kernel))
    (toOption_eq_some_iff.mp (by decide +kernel)) ran (by simp [plannedEvents]) answered
    accepted candidate ((PlanArtifact.readable_iff zero).mp readable)
    (Lives.now.restart .idle (toOption_eq_some_iff.mp restarted) noFiles) rfl
    (by simp [ServiceState.pinnedElsewhere, fetchFrame])
    (getPlan_exact ⟨plan.digest⟩).accepts

end WorkingService

end OpticalPathPlanner
