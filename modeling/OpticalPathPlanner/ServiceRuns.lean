import OpticalPathPlanner.AcceptedPlans
import OpticalPathPlanner.PlannerOutcomes
import OpticalPathPlanner.Service
import OpticalPathPlanner.SnapshotInvariants

/-!
# Runs of the inspection service

Frames that are handled one at a time, and restarts in between.  A frame that
is pinned to another epoch is refused without a trace, unless it asks for a
shutdown.  The service calls its snapshot fresh exactly from the first
acknowledged ingest on until it is restarted, and as long as it does not, it
offers no plan and validates none for a client that does not accept restored
evidence.
-/

namespace OpticalPathPlanner

variable {K : Type} [Field K] [LinearOrder K] {runtime : Runtime K}
  {numbers : DoubleText runtime.formatDouble} {options : ServiceOptions}

def stateOptions : ServiceOptions := { store := { root := text "state" } }

namespace ServiceState

variable {state : ServiceState K}

/-! ### Fencing -/

/-- The frame was refused as fenced, and nothing but two counters changed. -/
def Fenced (state : ServiceState K) (frame : Frame)
    (answered : Frame × ServiceState K) : Prop :=
  (∃ detail, answered.1 = makeFailureFrame frame.sequence state.incarnation.epoch
    (failure .fenced detail)) ∧
  answered.2 = { state with stats := { state.stats with
    fencedFrames := state.stats.fencedFrames + 1
    framesRejected := state.stats.framesRejected + 1 } }

theorem handleFrame_of_pinned (numbers : DoubleText runtime.formatDouble)
    (options : ServiceOptions) (faults : FrameFaults) {frame : Frame}
    (pinned : state.pinnedElsewhere frame = true) :
    handleFrame numbers options state faults frame =
      (makeFailureFrame frame.sequence state.incarnation.epoch state.fencedStatus,
        { state with stats := { state.stats with
          fencedFrames := state.stats.fencedFrames + 1 } }) :=
  if_pos pinned

/-- A frame that is pinned to another epoch is fenced, unless it is a
shutdown. -/
theorem serveFrame_fenced_iff (numbers : DoubleText runtime.formatDouble)
    (options : ServiceOptions) (state : ServiceState K) (faults : FrameFaults)
    (frame : Frame) (pinned : frame.epochPin ≠ 0)
    (elsewhere : frame.epochPin ≠ state.incarnation.epoch) :
    Fenced state frame (serveFrame numbers options state faults frame) ↔
      frame.kind ≠ RequestKind.shutdown.message := by
  unfold serveFrame
  by_cases shutdown : frame.kind = RequestKind.shutdown.message
  · rw [if_pos shutdown]
    refine iff_of_false ?_ (not_not.mpr shutdown)
    rintro ⟨⟨detail, same⟩, _⟩
    have kinds : RequestKind.shutdown.ack = MessageKind.failure :=
      congrArg Frame.kind same
    exact absurd kinds (by decide)
  · have fenced : state.pinnedElsewhere frame = true := by
      simp [pinnedElsewhere, pinned, elsewhere]
    rw [if_neg shutdown]
    refine iff_of_true ?_ shutdown
    rw [handleFrame_of_pinned numbers options faults fenced]
    exact ⟨⟨_, rfl⟩, rfl⟩

/-- A service of the second epoch that has seen no frame yet. -/
def secondEpoch : ServiceState ℚ := { incarnation := ⟨⟨⟨1⟩, 0, 7⟩, 2, true⟩ }

theorem serveFrame_fenced_iff_stats :
    Fenced secondEpoch ⟨RequestKind.stats.message, 1, 1, []⟩
      (serveFrame wholeNumbers stateOptions secondEpoch {}
        ⟨RequestKind.stats.message, 1, 1, []⟩) :=
  (serveFrame_fenced_iff wholeNumbers stateOptions secondEpoch {}
    ⟨RequestKind.stats.message, 1, 1, []⟩ (by decide) (by decide)).mpr (by decide)

/-- A shutdown that is pinned to the first epoch stops the second one. -/
theorem shutdown_not_fenced :
    ∃ answered : Frame × ServiceState ℚ,
      serveFrame wholeNumbers stateOptions secondEpoch {}
        ⟨RequestKind.shutdown.message, 1, 1, []⟩ = answered ∧
      (1 : UInt64) ≠ 0 ∧ (1 : UInt64) ≠ secondEpoch.incarnation.epoch ∧
      secondEpoch.stopping = false ∧ answered.2.stopping = true ∧
      answered.1.kind = RequestKind.shutdown.ack ∧
      ¬ Fenced secondEpoch ⟨RequestKind.shutdown.message, 1, 1, []⟩ answered := by
  refine ⟨_, rfl, by decide, by decide, rfl, rfl, rfl, ?_⟩
  rintro ⟨⟨detail, same⟩, _⟩
  have kinds : RequestKind.shutdown.ack = MessageKind.failure :=
    congrArg Frame.kind same
  exact absurd kinds (by decide)

/-! ### How a frame is served -/

theorem ack_injective {first second : RequestKind} (same : first.ack = second.ack) :
    first = second := by
  revert same
  cases first <;> cases second <;> decide

/-- The snapshot of an ingest payload that is accepted. -/
def ingestedFrom (numbers : DoubleText runtime.formatDouble) (payload : Bytes) :
    Option (TopologySnapshot K) :=
  (decodeIngest payload).toOption.bind fun message =>
    (readIngested numbers message).toOption

/-- The ways a frame can be served. -/
inductive Served (numbers : DoubleText runtime.formatDouble)
    (options : ServiceOptions) (state : ServiceState K) (faults : FrameFaults)
    (frame : Frame) : Frame × ServiceState K → Prop
  | refused (status : Status) (stats : ServiceStats) :
      Served numbers options state faults frame
        (makeFailureFrame frame.sequence state.incarnation.epoch status,
          { state with stats := stats })
  | stopped (stats : ServiceStats) :
      Served numbers options state faults frame
        (⟨RequestKind.shutdown.ack, frame.sequence, state.incarnation.epoch, []⟩,
          { state with stats := stats, stopping := true })
  | answered {kind : RequestKind} {payload : Bytes} {next : ServiceState K}
      (asked : frame.kind.request? = some kind)
      (handled : handleRequest numbers options state faults kind frame.payload =
        (.ok payload, next)) (stats : ServiceStats) :
      Served numbers options state faults frame
        (⟨kind.ack, frame.sequence, state.incarnation.epoch, payload⟩,
          { next with stats := stats })

/-- A request that fails leaves no trace. -/
theorem handleRequest_error {faults : FrameFaults} {kind : RequestKind}
    {payload : Bytes} {status : Status}
    (fails : (handleRequest numbers options state faults kind payload).1 =
      .error status) :
    (handleRequest numbers options state faults kind payload).2 = state := by
  cases kind with
  | hello =>
      simp only [handleRequest, handleHello] at fails ⊢
      split <;> try rfl
      split_ifs <;> rfl
  | ingest =>
      simp only [handleRequest, handleIngest] at fails ⊢
      cases decoded : decodeIngest payload with
      | error _ => rfl
      | ok message =>
          simp only [decoded] at fails ⊢
          cases read : readIngested numbers message with
          | error _ => rfl
          | ok snapshot =>
              simp only [read] at fails ⊢
              split_ifs at fails ⊢ with persists unsaved
              · unfold saveSnapshot at unsaved ⊢
                split_ifs at unsaved ⊢ with faulty
                · rfl
                · cases unsaved
  | plan =>
      simp only [handleRequest, handlePlan] at fails ⊢
      cases decoded : decodePlan payload with
      | error _ => rfl
      | ok message =>
          simp only [decoded] at fails ⊢
          cases read : parseRequestText numbers message.requestText with
          | error _ => rfl
          | ok request =>
              simp only [read] at fails
              cases fails
  | validate =>
      simp only [handleRequest, handleValidate]
      split <;> try rfl
      split <;> rfl
  | getPlan =>
      simp only [handleRequest, handleGetPlan]
      split <;> try rfl
      split <;> rfl
  | storeList => cases fails
  | cancel =>
      simp only [handleRequest, handleCancel] at fails ⊢
      cases decoded : decodeCancel payload with
      | error _ => rfl
      | ok message =>
          simp only [decoded] at fails
          cases fails
  | stats => cases fails
  | shutdown => cases fails

theorem serveFrame_served (numbers : DoubleText runtime.formatDouble)
    (options : ServiceOptions) (state : ServiceState K) (faults : FrameFaults)
    (frame : Frame) :
    Served numbers options state faults frame
      (serveFrame numbers options state faults frame) := by
  unfold serveFrame
  by_cases shutdown : frame.kind = RequestKind.shutdown.message
  · rw [if_pos shutdown]
    exact .stopped _
  rw [if_neg shutdown]
  by_cases pinned : state.pinnedElsewhere frame = true
  · rw [handleFrame_of_pinned numbers options faults pinned]
    exact .refused _ _
  unfold handleFrame
  rw [if_neg pinned]
  cases asked : frame.kind.request? with
  | none => exact .refused _ _
  | some kind =>
      simp only
      cases handled : handleRequest numbers options state faults kind
          frame.payload with
      | mk result next =>
          cases result with
          | error status =>
              obtain rfl : next = state := by
                simpa [handled] using handleRequest_error
                  (congrArg Prod.fst handled)
              exact .refused _ _
          | ok payload =>
              have answers : kind.ack ≠ MessageKind.failure := by
                cases kind <;> decide
              simp only [if_neg answers]
              exact .answered asked handled _

omit [Field K] [LinearOrder K] in
theorem cancelRequests_snapshot (state : ServiceState K) (cancelToken : UInt64) :
    (state.cancelRequests cancelToken).2.snapshot = state.snapshot ∧
      (state.cancelRequests cancelToken).2.snapshotFresh = state.snapshotFresh := by
  unfold cancelRequests
  split_ifs
  · exact ⟨rfl, rfl⟩
  · split <;> exact ⟨rfl, rfl⟩

/-- What a request does to the snapshot. -/
theorem handleRequest_snapshot {faults : FrameFaults} {kind : RequestKind}
    {payload result : Bytes} {next : ServiceState K}
    (handled : handleRequest numbers options state faults kind payload =
      (.ok result, next)) :
    if kind = .ingest then
      ∃ snapshot, ingestedFrom numbers payload = some snapshot ∧
        next.snapshot = some snapshot ∧ next.snapshotFresh = true
    else next.snapshot = state.snapshot ∧
      next.snapshotFresh = state.snapshotFresh := by
  cases kind with
  | ingest =>
      rw [if_pos rfl]
      simp only [handleRequest, handleIngest] at handled
      cases decoded : decodeIngest payload with
      | error _ => simp [decoded] at handled
      | ok message =>
          cases read : readIngested numbers message with
          | error _ => simp [decoded, read] at handled
          | ok snapshot =>
              refine ⟨snapshot, by simp [ingestedFrom, decoded, read,
                Except.toOption], ?_⟩
              simp only [decoded, read] at handled
              split_ifs at handled with persists unsaved
              · cases handled
              · cases handled
                exact ⟨rfl, rfl⟩
              · cases handled
                exact ⟨rfl, rfl⟩
  | hello =>
      rw [if_neg (by decide)]
      simp only [handleRequest, handleHello] at handled
      split at handled
      · cases handled
      · split_ifs at handled
        · cases handled
        · cases handled
          exact ⟨rfl, rfl⟩
  | plan =>
      rw [if_neg (by decide)]
      simp only [handleRequest, handlePlan] at handled
      split at handled
      · cases handled
      · split at handled
        · cases handled
        · cases handled
          exact ⟨rfl, rfl⟩
  | validate =>
      rw [if_neg (by decide)]
      simp only [handleRequest, handleValidate] at handled
      split at handled
      · cases handled
      · split at handled
        · cases handled
        · cases handled
          exact ⟨rfl, rfl⟩
  | getPlan =>
      rw [if_neg (by decide)]
      simp only [handleRequest, handleGetPlan] at handled
      split at handled
      · cases handled
      · split at handled
        · cases handled
        · cases handled
          exact ⟨rfl, rfl⟩
  | cancel =>
      rw [if_neg (by decide)]
      simp only [handleRequest, handleCancel] at handled
      split at handled
      · cases handled
      · cases handled
        exact state.cancelRequests_snapshot _
  | storeList | stats | shutdown =>
      rw [if_neg (by decide)]
      cases handled
      exact ⟨rfl, rfl⟩

theorem handlePlan_ok {faults : FrameFaults} {payload result : Bytes}
    {next : ServiceState K}
    (handled : handlePlan numbers options state faults payload =
      (.ok result, next)) :
    ∃ (message : PlanMessage) (request : PlanningRequest K),
      decodePlan payload = .ok message ∧
      parseRequestText numbers message.requestText = .ok request ∧
      result = planAck runtime.formatDouble
        (planAnswer runtime options state.snapshot request) := by
  unfold handlePlan at handled
  cases decoded : decodePlan payload with
  | error _ => simp [decoded] at handled
  | ok message =>
      cases read : parseRequestText numbers message.requestText with
      | error _ => simp [decoded, read] at handled
      | ok request =>
          simp only [decoded, read] at handled
          cases handled
          exact ⟨message, request, rfl, read, rfl⟩

theorem handleValidate_ok {payload result : Bytes} {next : ServiceState K}
    (handled : handleValidate numbers state payload = (.ok result, next)) :
    ∃ (message : ValidateMessage) (plan : PlanArtifact K),
      decodeValidate payload = .ok message ∧
      parsePlanArtifact runtime numbers message.planText = .ok plan ∧
      result = encodeValidateAck
        (state.validateAck runtime plan message.policy) := by
  unfold handleValidate at handled
  cases decoded : decodeValidate payload with
  | error _ => simp [decoded] at handled
  | ok message =>
      cases read : parsePlanArtifact runtime numbers message.planText with
      | error _ => simp [decoded, read] at handled
      | ok plan =>
          simp only [decoded, read] at handled
          cases handled
          exact ⟨message, plan, rfl, read, rfl⟩

end ServiceState

/-! ### Sequences of frames and restarts -/

/-- A service, and the snapshot of the last ingest it acknowledged since it was
started. -/
structure WatchedService (K : Type) where
  service : ServiceState K
  acknowledged : Option (TopologySnapshot K) := none

inductive ServiceEvent
  | frame (faults : FrameFaults) (frame : Frame)
  | restart (faults : StartFaults) (incarnation : IncarnationState)
  /-- A service that was stopped half way, or somebody else, changed the files. -/
  | disturb (snapshotFile : Option Bytes) (store : Directory)

namespace WatchedService

variable (numbers options) (watched : WatchedService K)

/-- What is acknowledged once a frame was answered. -/
def acknowledge (frame reply : Frame) : Option (TopologySnapshot K) :=
  if reply.kind = RequestKind.ingest.ack then
    ServiceState.ingestedFrom numbers frame.payload
  else watched.acknowledged

/-- The service after an event, unless it could not be started. -/
def after : ServiceEvent → Option (WatchedService K)
  | .frame faults frame =>
      let served := watched.service.serveFrame numbers options faults frame
      some ⟨served.2, watched.acknowledge numbers frame served.1⟩
  | .restart faults incarnation =>
      (startService numbers options faults incarnation
        watched.service.snapshotFile watched.service.store).toOption.map
          fun service => ⟨service, none⟩
  | .disturb snapshotFile store =>
      some { watched with service := { watched.service with
        snapshotFile := snapshotFile
        store := store } }

def run (events : List ServiceEvent) : Option (WatchedService K) :=
  events.foldlM (after numbers options) watched

/-- Freshness is kept in the same way wherever it is kept. -/
structure Honest (watched : WatchedService K) : Prop where
  /-- The flag and the field of the snapshot. -/
  flag_iff : watched.service.snapshotFresh = true ↔
    ∃ snapshot, watched.service.snapshot = some snapshot ∧
      snapshot.freshness = .fresh
  acknowledged_iff : watched.service.snapshotFresh = true ↔
    watched.acknowledged.isSome = true
  last : ∀ snapshot, watched.acknowledged = some snapshot →
    watched.service.snapshot = some snapshot

variable {numbers options watched}

theorem freshness_of_parse {content : Bytes} {snapshot : TopologySnapshot K}
    (parsed : parseSnapshotText numbers content = .ok snapshot) :
    snapshot.freshness = .fresh := by
  unfold parseSnapshotText at parsed
  split_ifs at parsed with long
  obtain ⟨reader, _, parsed⟩ := bind_eq_ok_iff.mp parsed
  obtain ⟨opened, _, parsed⟩ := bind_eq_ok_iff.mp parsed
  obtain ⟨builder, _, built⟩ := bind_eq_ok_iff.mp parsed
  rw [← SnapshotBuilder.eq_finished built]
  rfl

theorem freshness_of_ingestedFrom {payload : Bytes} {snapshot : TopologySnapshot K}
    (ingested : ServiceState.ingestedFrom numbers payload = some snapshot) :
    snapshot.freshness = .fresh := by
  obtain ⟨message, _, read⟩ := Option.bind_eq_some_iff.mp ingested
  unfold ServiceState.readIngested at read
  split at read
  · cases read
  · rename_i parsed
    split_ifs at read
    · cases read
    · cases read
      exact freshness_of_parse parsed

omit [Field K] [LinearOrder K] in
/-- What leaves the snapshot and its flag alone keeps freshness honest. -/
theorem Honest.of_same (honest : watched.Honest) {next : WatchedService K}
    (snapshot : next.service.snapshot = watched.service.snapshot)
    (flag : next.service.snapshotFresh = watched.service.snapshotFresh)
    (acknowledged : next.acknowledged = watched.acknowledged) : next.Honest := by
  obtain ⟨flag_iff, acknowledged_iff, last⟩ := honest
  constructor
  case flag_iff => rw [flag, snapshot, flag_iff]
  case acknowledged_iff => rw [flag, acknowledged, acknowledged_iff]
  case last => rw [acknowledged, snapshot]; exact last

theorem Honest.of_ingested {payload : Bytes} {service : ServiceState K}
    {snapshot : TopologySnapshot K}
    (ingested : ServiceState.ingestedFrom numbers payload = some snapshot)
    (present : service.snapshot = some snapshot)
    (flag : service.snapshotFresh = true) :
    Honest ⟨service, ServiceState.ingestedFrom numbers payload⟩ := by
  constructor
  case flag_iff =>
    exact iff_of_true flag ⟨snapshot, present, freshness_of_ingestedFrom ingested⟩
  case acknowledged_iff => exact iff_of_true flag (by simp [ingested])
  case last =>
    intro other same
    rw [present, ← ingested, ← same]

theorem Honest.of_reply (honest : watched.Honest) {frame reply : Frame}
    {service : ServiceState K} (other : reply.kind ≠ RequestKind.ingest.ack)
    (snapshot : service.snapshot = watched.service.snapshot)
    (flag : service.snapshotFresh = watched.service.snapshotFresh) :
    Honest ⟨service, watched.acknowledge numbers frame reply⟩ :=
  honest.of_same snapshot flag (if_neg other)

theorem Honest.frame (honest : watched.Honest) (faults : FrameFaults)
    (frame : Frame) :
    Honest ⟨(watched.service.serveFrame numbers options faults frame).2,
      watched.acknowledge numbers frame
        (watched.service.serveFrame numbers options faults frame).1⟩ := by
  have ways := ServiceState.serveFrame_served numbers options watched.service faults frame
  generalize watched.service.serveFrame numbers options faults frame = served
    at ways ⊢
  cases ways with
  | refused status stats =>
      have other : MessageKind.failure ≠ RequestKind.ingest.ack := by decide
      exact honest.of_reply other rfl rfl
  | stopped stats =>
      have other : RequestKind.shutdown.ack ≠ RequestKind.ingest.ack := by decide
      exact honest.of_reply other rfl rfl
  | @answered kind payload next asked handled stats =>
      have changed := ServiceState.handleRequest_snapshot handled
      split_ifs at changed with ingests
      · subst ingests
        obtain ⟨snapshot, ingested, present, flag⟩ := changed
        have acknowledged : watched.acknowledge numbers frame
            ⟨RequestKind.ingest.ack, frame.sequence,
              watched.service.incarnation.epoch, payload⟩ =
            ServiceState.ingestedFrom numbers frame.payload := if_pos rfl
        rw [acknowledged]
        exact .of_ingested ingested present flag
      · refine honest.of_reply ?_ changed.1 changed.2
        exact fun same => ingests (ServiceState.ack_injective same)

/-- No service starts with a fresh snapshot. -/
theorem Honest.started {faults : StartFaults} {incarnation : IncarnationState}
    {snapshotFile : Option Bytes} {store : Directory} {service : ServiceState K}
    (started : startService numbers options faults incarnation snapshotFile store =
      .ok service) : Honest ⟨service, none⟩ := by
  unfold startService at started
  split at started
  · cases started
  cases started
  constructor
  case flag_iff =>
    refine iff_of_false (by simp) ?_
    rintro ⟨snapshot, restored, fresh⟩
    simp only at restored
    split_ifs at restored
    obtain ⟨original, _, rfl⟩ := Option.map_eq_some_iff.mp restored
    cases fresh
  case acknowledged_iff => simp
  case last => simp

theorem Honest.after (honest : watched.Honest) {event : ServiceEvent}
    {next : WatchedService K}
    (happened : watched.after numbers options event = some next) : next.Honest := by
  cases event with
  | frame faults frame =>
      obtain rfl := Option.some.inj happened
      exact honest.frame faults frame
  | restart faults incarnation =>
      obtain ⟨service, started, rfl⟩ := Option.map_eq_some_iff.mp happened
      exact .started (toOption_eq_some_iff.mp started)
  | disturb snapshotFile store =>
      obtain rfl := Option.some.inj happened
      exact honest.of_same rfl rfl rfl

theorem Honest.run {final : WatchedService K} (honest : watched.Honest)
    {events : List ServiceEvent}
    (ran : watched.run numbers options events = some final) : final.Honest := by
  induction events generalizing watched with
  | nil =>
      obtain rfl := Option.some.inj ran
      exact honest
  | cons event rest ih =>
      obtain ⟨next, happened, ranRest⟩ := Option.bind_eq_some_iff.mp ran
      exact ih (honest.after happened) ranRest

/-! ### What stale evidence is good for -/

theorem plan_of_stale {plannerOptions : PlannerOptions} {E : Type}
    {driver : SearchDriver E} {env : E} {snapshot : TopologySnapshot K}
    {request : PlanningRequest K} (stale : snapshot.freshness ≠ .fresh)
    (strict : request.acceptRestoredEvidence = false) :
    (plan runtime plannerOptions driver snapshot request env).1.outcome ≠
      .feasible := by
  unfold plan
  cases ends : earlyOutcome snapshot request with
  | some early => exact (earlyOutcome_outcome ends).1
  | none =>
      have fresh := (earlyOutcome_eq_none_iff.mp ends).2.1
      rw [freshnessOutcome, if_pos ⟨stale, by simp [strict]⟩] at fresh
      cases fresh

theorem planAnswer_of_stale {snapshot : Option (TopologySnapshot K)}
    {request : PlanningRequest K}
    (stale : ∀ present, snapshot = some present → present.freshness ≠ .fresh)
    (strict : request.acceptRestoredEvidence = false) :
    (ServiceState.planAnswer runtime options snapshot request).outcome ≠
      .feasible := by
  cases snapshot with
  | none => exact PlanOutcome.noConfusion
  | some present => exact plan_of_stale (stale present rfl) strict

theorem validateAck_of_stale {service : ServiceState K} {plan : PlanArtifact K}
    {policy : ValidationPolicy}
    (stale : ∀ present, service.snapshot = some present →
      present.freshness ≠ .fresh)
    (strict : policy.acceptRestoredEvidence = false) :
    (service.validateAck runtime plan policy).validity ≠ .valid := by
  unfold ServiceState.validateAck
  cases found : service.snapshot with
  | none => exact PlanValidity.noConfusion
  | some present => exact validatePlanBindings_stale runtime (stale present found) strict

/-- What a service may answer to a frame. -/
structure AnswersHonestly (numbers : DoubleText runtime.formatDouble)
    (options : ServiceOptions) (service : ServiceState K) (frame : Frame)
    (served : Frame × ServiceState K) : Prop where
  planned : service.snapshotFresh = false →
    served.1.kind = RequestKind.plan.ack →
    ∃ (message : PlanMessage) (request : PlanningRequest K),
      decodePlan frame.payload = .ok message ∧
      parseRequestText numbers message.requestText = .ok request ∧
      let result := ServiceState.planAnswer runtime options service.snapshot request
      served.1.payload = ServiceState.planAck runtime.formatDouble result ∧
      (request.acceptRestoredEvidence = false → result.outcome ≠ .feasible)
  validated : service.snapshotFresh = false →
    served.1.kind = RequestKind.validate.ack →
    ∃ (message : ValidateMessage) (plan : PlanArtifact K),
      decodeValidate frame.payload = .ok message ∧
      parsePlanArtifact runtime numbers message.planText = .ok plan ∧
      let ack := service.validateAck runtime plan message.policy
      served.1.payload = encodeValidateAck ack ∧
      (message.policy.acceptRestoredEvidence = false → ack.validity ≠ .valid)
  failed : served.1.kind = .failure →
    served.2.snapshot = service.snapshot ∧
    served.2.snapshotFresh = service.snapshotFresh ∧
    served.2.snapshotFile = service.snapshotFile ∧
    served.2.store = service.store

omit [Field K] [LinearOrder K] in
theorem Honest.stale (honest : watched.Honest)
    (flag : watched.service.snapshotFresh = false)
    (present : TopologySnapshot K) (found : watched.service.snapshot = some present) :
    present.freshness ≠ .fresh := by
  intro fresh
  rw [honest.flag_iff.mpr ⟨present, found, fresh⟩] at flag
  cases flag

theorem Honest.answers (honest : watched.Honest) (faults : FrameFaults)
    (frame : Frame) :
    AnswersHonestly numbers options watched.service frame
      (watched.service.serveFrame numbers options faults frame) := by
  have ways := ServiceState.serveFrame_served numbers options watched.service
    faults frame
  generalize watched.service.serveFrame numbers options faults frame = served
    at ways ⊢
  cases ways with
  | refused status stats =>
      constructor
      case planned =>
        exact fun _ (asked : MessageKind.failure = _) => absurd asked (by decide)
      case validated =>
        exact fun _ (asked : MessageKind.failure = _) => absurd asked (by decide)
      case failed => exact fun _ => ⟨rfl, rfl, rfl, rfl⟩
  | stopped stats =>
      constructor
      case planned =>
        exact fun _ (asked : RequestKind.shutdown.ack = _) => absurd asked (by decide)
      case validated =>
        exact fun _ (asked : RequestKind.shutdown.ack = _) => absurd asked (by decide)
      case failed => exact fun _ => ⟨rfl, rfl, rfl, rfl⟩
  | @answered kind payload next asked handled stats =>
      constructor
      case planned =>
        intro flag planned
        obtain rfl := ServiceState.ack_injective planned
        obtain ⟨message, request, decoded, read, answer⟩ :=
          ServiceState.handlePlan_ok handled
        exact ⟨message, request, decoded, read, answer,
          planAnswer_of_stale (honest.stale flag)⟩
      case validated =>
        intro flag validated
        obtain rfl := ServiceState.ack_injective validated
        obtain ⟨message, plan, decoded, read, answer⟩ :=
          ServiceState.handleValidate_ok handled
        exact ⟨message, plan, decoded, read, answer,
          validateAck_of_stale (honest.stale flag)⟩
      case failed =>
        intro fails
        have answers : kind.ack ≠ MessageKind.failure := by cases kind <;> decide
        exact absurd fails answers

/-- Over frames and restarts, the service is honest about the freshness of its
snapshot, plans and validates nothing with stale evidence unless it is asked
to, and refuses without a trace. -/
theorem freshness_of_run (numbers : DoubleText runtime.formatDouble)
    (options : ServiceOptions) (faults : StartFaults)
    (incarnation : IncarnationState) (snapshotFile : Option Bytes)
    (store : Directory) (service : ServiceState K) (events : List ServiceEvent)
    (final : WatchedService K)
    (started : startService numbers options faults incarnation snapshotFile store =
      .ok service)
    (ran : run numbers options ⟨service, none⟩ events = some final) :
    final.Honest ∧ ∀ frameFaults frame, AnswersHonestly numbers options
      final.service frame
      (final.service.serveFrame numbers options frameFaults frame) :=
  have honest := (Honest.started started).run ran
  ⟨honest, honest.answers⟩

/-- A snapshot of nothing but its source. -/
def soleSource : SnapshotBuilder ℚ :=
  (SnapshotBuilder.new ⟨text "sole"⟩ 1 {} {}).submitAll [
    .source { id := ⟨text "nms"⟩ }]

/-- An ingest of the records of a builder. -/
def ingestFrame (builder : SnapshotBuilder ℚ) : Frame where
  kind := RequestKind.ingest.message
  sequence := 1
  epochPin := 0
  payload := encodeIngest ⟨(builder.finished rationalRuntime).digest,
    snapshotToText rationalRuntime.formatDouble (builder.finished rationalRuntime)⟩

/-- A service that is started in an empty directory. -/
def fromScratch (events : List ServiceEvent) : Option (WatchedService ℚ) :=
  (startService wholeNumbers stateOptions {} ⟨⟨⟨1⟩, 0, 7⟩, 1, true⟩ none
    ∅).toOption.bind fun service => run wholeNumbers stateOptions ⟨service, none⟩ events

theorem freshness_of_run_restart :
    ∃ service final,
      startService wholeNumbers stateOptions {} ⟨⟨⟨1⟩, 0, 7⟩, 1, true⟩ none ∅ =
        .ok service ∧
      run wholeNumbers stateOptions ⟨service, none⟩
        [.frame {} (ingestFrame soleSource),
          .restart {} ⟨⟨⟨2⟩, 0, 8⟩, 2, true⟩] = some final ∧
      final.service.snapshot.isSome = true ∧
      final.service.snapshotFresh = false ∧
      final.Honest ∧ ∀ frameFaults frame, AnswersHonestly wholeNumbers stateOptions
        final.service frame
        (final.service.serveFrame wholeNumbers stateOptions frameFaults frame) := by
  have restored : (fromScratch [.frame {} (ingestFrame soleSource),
      .restart {} ⟨⟨⟨2⟩, 0, 8⟩, 2, true⟩]).map (fun final =>
        (final.service.snapshot.isSome, final.service.snapshotFresh)) =
      some (true, false) := by
    decide +kernel
  obtain ⟨final, ran, parts⟩ := Option.map_eq_some_iff.mp restored
  obtain ⟨service, started, ran⟩ := Option.bind_eq_some_iff.mp ran
  have started := toOption_eq_some_iff.mp started
  exact ⟨service, final, started, ran, congrArg Prod.fst parts,
    congrArg Prod.snd parts,
    freshness_of_run wholeNumbers stateOptions {} ⟨⟨⟨1⟩, 0, 7⟩, 1, true⟩ none ∅
      service _ final started ran⟩

end WatchedService

end OpticalPathPlanner
