import OpticalPathPlanner.CanonicalSnapshots
import OpticalPathPlanner.HardConstraints
import OpticalPathPlanner.ServiceClient
import OpticalPathPlanner.ServiceRuns

/-!
# Sessions of a client

A client calls the service over a connection, one exchange after the other,
while other connections are served in between.  Below are the bytes: the
client encodes a frame, the worker of the connection reads it off its stream,
and the client reads one frame off the stream of replies.  Above is a service
that is called in its own process.  As long as frames stay within the limits
of both ends and texts are read back, the session cannot be told from calls in
the process: every operation returns the same, and the service is left the
same.
-/

namespace OpticalPathPlanner

section Sessions

variable {K : Type} [Field K] [LinearOrder K] {runtime : Runtime K}
  (numbers : DoubleText runtime.formatDouble) (options : ServiceOptions)

/-! ### Calls in the process of the service -/

namespace ServiceState

variable (state : ServiceState K)

/-- The counters behind a request that was answered. -/
def counted (failed : Bool) : ServiceState K :=
  if failed then
    { state with stats := { state.stats with
      framesRejected := state.stats.framesRejected + 1 } }
  else
    { state with stats := { state.stats with
      framesHandled := state.stats.framesHandled + 1 } }

def statsAck (runtime : Runtime K) : StatsAckMessage where
  incarnation := state.incarnation.incarnation
  epoch := state.incarnation.epoch
  connectionsAccepted := state.stats.connectionsAccepted
  framesHandled := state.stats.framesHandled
  framesRejected := state.stats.framesRejected
  snapshotsIngested := state.stats.snapshotsIngested
  plansComputed := state.stats.plansComputed
  plansRejected := state.stats.plansRejected
  plansCancelled := state.stats.plansCancelled
  activeRequests := state.stats.activeRequests
  storedPlans := (PlanStore.count runtime state.store).toUInt64
  fencedFrames := state.stats.fencedFrames

def storeListAck : StoreListAckMessage :=
  let listed := PlanStore.list runtime numbers options.store state.store
  ⟨listed.1.map StoreEntry.digest, listed.2⟩

/-- What a request does, with the values themselves in the place of texts. -/
def respond (faults : FrameFaults) :
    ClientRequest K → Except Status (ClientReply K) × ServiceState K
  | .hello _ => (.ok (.hello state.helloAck), state)
  | .ingest snapshot =>
      let ack : IngestAckMessage :=
        ⟨snapshot.id, snapshot.generation, snapshot.digest⟩
      if options.persistSnapshots then
        let saved := state.saveSnapshot runtime.formatDouble faults.snapshotWrite
          snapshot
        if saved.1.failed then (.error saved.1, saved.2)
        else (.ok (.ingest ack), saved.2.install snapshot)
      else
        (.ok (.ingest ack), state.install snapshot)
  | .plan request _ =>
      let result := planAnswer runtime options state.snapshot request
      let stored := storeCandidates runtime options faults result
        state.beginPlan.store
      (.ok (.plan result), ({ state.beginPlan with store := stored.2 }).endPlan
        result.outcome stored.1)
  | .validate artifact policy =>
      (.ok (.validate (ServiceClient.report
        (state.validateAck runtime artifact policy))), state)
  | .getPlan digest =>
      ((PlanStore.get runtime numbers options.store digest state.store).map
        ClientReply.getPlan, state)
  | .storeList => (.ok (.storeList (state.storeListAck numbers options)), state)
  | .cancel cancelToken =>
      let cancelled := state.cancelRequests cancelToken
      (.ok (.cancel ⟨cancelled.1⟩), cancelled.2)
  | .stats => (.ok (.stats (state.statsAck runtime)), state)
  | .shutdown => (.ok .shutdown, state.stopConnections)

/-- What a client learns when its worker is gone. -/
def goneStatus : Status :=
  failure .ioFailure (text "connection closed while reading a frame header")

/-- A call of the service, pinned to an epoch unless the pin is zero. -/
def answer (pin : UInt64) (faults : FrameFaults) (request : ClientRequest K) :
    Except ClientStatus (ClientReply K) × ServiceState K :=
  if state.stopping then
    (.error goneStatus.sent, state)
  else if (request.call numbers).kind ≠ .shutdown ∧ pin ≠ 0 ∧
      pin ≠ state.incarnation.epoch then
    (.error state.fencedStatus.sent, { state with stats := { state.stats with
      fencedFrames := state.stats.fencedFrames + 1
      framesRejected := state.stats.framesRejected + 1 } })
  else
    let responded := state.respond numbers options faults request
    (responded.1.mapError Status.sent, responded.2.counted (!responded.1.isOk))

/-! ### The worker of a connection -/

/-- A round of `ServeConnection` over the bytes a client sent: the bytes of the
reply, the service, and whether the worker reads on. -/
def serveStream (maxFrameBytes : UInt32) (faults : FrameFaults) (stream : Bytes) :
    Bytes × ServiceState K × Bool :=
  if state.stopping then ([], state, false)
  else
    match (readFrame runtime.sha256 maxFrameBytes stream).1 with
    | .error status =>
        if status.code ≠ .ioFailure then
          (encodeFrame runtime.sha256
            (makeFailureFrame 0 state.incarnation.epoch status),
            { state with stats := { state.stats with
              framesRejected := state.stats.framesRejected + 1 } }, false)
        else ([], state, false)
    | .ok frame =>
        let served := state.serveFrame numbers options faults frame
        (encodeFrame runtime.sha256 served.1, served.2,
          decide (frame.kind ≠ RequestKind.shutdown.message))

end ServiceState

/-! ### The client's end -/

structure ClientSession (K : Type) where
  client : ServiceClient
  service : ServiceState K
  /-- What arrived at the client and was not read. -/
  incoming : Bytes := []
  /-- The worker of the connection reads on. -/
  served : Bool := true

/-- What the systems of both ends answer during an exchange. -/
structure ExchangeFaults extends FrameFaults where
  /-- All bytes of the frame were written. -/
  sends : Bool := true

inductive SessionEvent (K : Type)
  | call (faults : ExchangeFaults) (request : ClientRequest K)
  | setEpochPin (epoch : UInt64)
  /-- A frame on another connection. -/
  | other (faults : FrameFaults) (frame : Frame)

namespace ClientSession

variable (maxFrameBytes : UInt32) (session : ClientSession K)

/-- The stream ended before a frame did. -/
def cutShort (read : Except Status Frame) : Bool :=
  match read with
  | .error status => decide (status.code = .ioFailure)
  | .ok _ => false

/-- `Exchange`, and what an operation makes of it.  There is no next session
when the client waits for bytes that nobody sends. -/
def exchange (faults : ExchangeFaults) (call : ClientCall (ClientReply K)) :
    Option (Except ClientStatus (ClientReply K) × ClientSession K) :=
  if faults.sends then
    let sent := encodeFrame runtime.sha256
      (session.client.frame call.kind call.payload)
    let round := if session.served then
        session.service.serveStream numbers options maxFrameBytes
          faults.toFrameFaults sent
      else ([], session.service, false)
    let read := readFrame runtime.sha256 session.client.maxFrameBytes
      (session.incoming ++ round.1)
    if cutShort read.1 && round.2.2 then none
    else some (ServiceClient.takeRead read.1 >>= call.take, {
      client := session.client.advance
      service := round.2.1
      incoming := read.2
      served := round.2.2 })
  else
    some (.error (failure .ioFailure
      (text "cannot send a frame to the inspection service")).sent,
      { session with client := session.client.advance, served := false })

/-- The replies of the calls among the events, and the session behind them. -/
def run : ClientSession K → List (SessionEvent K) →
    Option (List (Except ClientStatus (ClientReply K)) × ClientSession K)
  | session, [] => some ([], session)
  | session, .call faults request :: later =>
      (session.exchange numbers options maxFrameBytes faults
        (request.call numbers)).bind fun exchanged =>
          (run exchanged.2 later).map fun ran => (exchanged.1 :: ran.1, ran.2)
  | session, .setEpochPin epoch :: later =>
      run { session with client := session.client.setEpochPin epoch } later
  | session, .other faults frame :: later =>
      run { session with
        service := (session.service.serveFrame numbers options faults frame).2 } later

end ClientSession

/-- The same events in the process of the service: the replies, and the service
behind them. -/
def ServiceState.answerAll : UInt64 → ServiceState K → List (SessionEvent K) →
    List (Except ClientStatus (ClientReply K)) × ServiceState K
  | _, state, [] => ([], state)
  | pin, state, .call faults request :: later =>
      let answered := state.answer numbers options pin faults.toFrameFaults request
      let rest := answerAll pin answered.2 later
      (answered.1 :: rest.1, rest.2)
  | _, state, .setEpochPin epoch :: later => answerAll epoch state later
  | pin, state, .other faults frame :: later =>
      answerAll pin (state.serveFrame numbers options faults frame).2 later

end Sessions

/-! ### One request -/

section Requests

variable {K : Type} [Field K] [LinearOrder K] {runtime : Runtime K}
  {numbers : DoubleText runtime.formatDouble} {options : ServiceOptions}
  {state : ServiceState K} {faults : FrameFaults}

theorem id_valid_of_parse {content : Bytes} {snapshot : TopologySnapshot K}
    (parsed : parseSnapshotText numbers content = .ok snapshot) :
    snapshot.id.Valid := by
  obtain ⟨builder, accepted, rfl⟩ := SnapshotBuilder.acceptedAs_of_parse parsed
  exact accepted.id

/-- The snapshot in memory has an identity that can be sent. -/
def ServiceState.Named (state : ServiceState K) : Prop :=
  ∀ snapshot, state.snapshot = some snapshot → snapshot.id.Valid

/-- The texts of the arguments and of the result are read back. -/
def ClientRequest.Legible (numbers : DoubleText runtime.formatDouble)
    (options : ServiceOptions) (state : ServiceState K) : ClientRequest K → Prop
  | .ingest snapshot => parseSnapshotText numbers
      (snapshotToText runtime.formatDouble snapshot) = .ok snapshot
  | .plan request _ =>
      let result := ServiceState.planAnswer runtime options state.snapshot request
      parseRequestText numbers (requestToText runtime.formatDouble request) =
          .ok request ∧
        parseResultText runtime numbers
          (result.canonicalBytes runtime.formatDouble) = .ok result
  | .validate artifact _ => parsePlanArtifact runtime numbers
      (artifact.canonicalBytes runtime.formatDouble) = .ok artifact
  | .getPlan digest => ∀ artifact, PlanStore.get runtime numbers options.store digest
      state.store = .ok artifact → parsePlanArtifact runtime numbers
        (artifact.canonicalBytes runtime.formatDouble) = .ok artifact
  | .storeList => (state.storeListAck numbers options).digests.length ≤
        kMaxStoredPlans ∧
      (state.storeListAck numbers options).rejectedFiles.length ≤ kMaxStoredPlans
  | _ => True

/-- The payload of an answer is read as the reply. -/
inductive Answers (call : ClientCall (ClientReply K)) :
    Except Status Bytes × ServiceState K →
      Except Status (ClientReply K) × ServiceState K → Prop
  | failed (status : Status) (next : ServiceState K) :
      Answers call (.error status, next) (.error status, next)
  | answered {payload : Bytes} {reply : ClientReply K} (next : ServiceState K)
      (decoded : call.decode payload = .ok reply) :
      Answers call (.ok payload, next) (.ok reply, next)

namespace ServiceState

theorem hello_answers (named : state.Named) (clientName : Bytes)
    (fits : FitsFrame (encodeHello ⟨kProtocolVersion, clientName⟩))
    (replyFits : ∀ payload, (state.handleHello
      (encodeHello ⟨kProtocolVersion, clientName⟩)).1 = .ok payload →
        FitsFrame payload) :
    Answers ((ClientRequest.hello clientName).call numbers)
      (state.handleHello (encodeHello ⟨kProtocolVersion, clientName⟩))
      (.ok (.hello state.helloAck), state) := by
  have id : state.helloAck.snapshotId.empty = true ∨
      isValidIdText state.helloAck.snapshotId.str = true := by
    unfold helloAck
    cases known : state.snapshot with
    | none => exact .inl rfl
    | some snapshot => exact .inr (named snapshot known)
  have handled : state.handleHello (encodeHello ⟨kProtocolVersion, clientName⟩) =
      (.ok (encodeHelloAck state.helloAck), state) := by
    unfold handleHello
    rw [(hello_exact fits).accepts]
    exact if_neg (not_not.mpr rfl)
  have decoded : decodeHelloAck (encodeHelloAck state.helloAck) =
      .ok state.helloAck :=
    (helloAck_exact (replyFits _ (congrArg Prod.fst handled)) id).accepts
  rw [handled]
  refine .answered state ?_
  simp [ClientRequest.call, ClientCall.map, ServiceClient.hello, decoded, Except.map]

omit [Field K] [LinearOrder K] in
theorem fitsFrame_ingestAck {snapshot : TopologySnapshot K}
    (valid : snapshot.id.Valid) : FitsFrame (ingestAck snapshot) := by
  have short := valid.length_le
  have length : (ingestAck snapshot).length = snapshot.id.str.length + 44 := by
    simp [ingestAck, encodeIngestAck]
    omega
  unfold kMaxIdLength at short
  rw [FitsFrame, length, kMaxFrameBytes]
  omega

theorem ingest_answers {snapshot : TopologySnapshot K}
    (legible : (ClientRequest.ingest snapshot).Legible numbers options state)
    (fits : FitsFrame (encodeIngest
      ⟨snapshot.digest, snapshotToText runtime.formatDouble snapshot⟩)) :
    Answers ((ClientRequest.ingest snapshot).call numbers)
      (handleIngest numbers options state faults (encodeIngest
        ⟨snapshot.digest, snapshotToText runtime.formatDouble snapshot⟩))
      (state.respond numbers options faults (.ingest snapshot)) := by
  have read : readIngested numbers
      ⟨snapshot.digest, snapshotToText runtime.formatDouble snapshot⟩ =
        .ok snapshot := by
    unfold readIngested
    have parsed : parseSnapshotText numbers
        (snapshotToText runtime.formatDouble snapshot) = .ok snapshot := legible
    rw [parsed]
    exact if_neg (not_not.mpr rfl)
  have decoded : decodeIngestAck (ingestAck snapshot) =
      .ok ⟨snapshot.id, snapshot.generation, snapshot.digest⟩ :=
    (ingestAck_exact (fitsFrame_ingestAck (id_valid_of_parse legible))
      (id_valid_of_parse legible)).accepts
  have reads : ((ClientRequest.ingest snapshot).call numbers).decode
      (ingestAck snapshot) =
        .ok (.ingest ⟨snapshot.id, snapshot.generation, snapshot.digest⟩) := by
    simp [ClientRequest.call, ClientCall.map, ServiceClient.ingest, decoded, Except.map]
  unfold handleIngest respond
  rw [(ingest_exact fits).accepts]
  simp only [read]
  split_ifs with persists unsaved
  · exact .failed _ _
  · exact .answered _ reads
  · exact .answered _ reads

theorem plan_answers {request : PlanningRequest K} {cancelToken : UInt64}
    (legible : (ClientRequest.plan request cancelToken).Legible numbers options state)
    (fits : FitsFrame (encodePlan
      ⟨cancelToken, requestToText runtime.formatDouble request⟩))
    (replyFits : ∀ payload, (handlePlan numbers options state faults (encodePlan
      ⟨cancelToken, requestToText runtime.formatDouble request⟩)).1 = .ok payload →
        FitsFrame payload) :
    Answers ((ClientRequest.plan request cancelToken).call numbers)
      (handlePlan numbers options state faults (encodePlan
        ⟨cancelToken, requestToText runtime.formatDouble request⟩))
      (state.respond numbers options faults (.plan request cancelToken)) := by
  obtain ⟨read, reread⟩ := legible
  unfold handlePlan at replyFits ⊢
  unfold respond
  rw [(plan_exact fits).accepts] at replyFits ⊢
  simp only [read] at replyFits ⊢
  have decoded := (planAck_exact (replyFits _ rfl)).accepts
  refine .answered _ ?_
  simp only [ClientRequest.call, ClientCall.map, ServiceClient.plan, planAck, decoded,
    ok_bind, reread, Except.map]

theorem validate_answers {artifact : PlanArtifact K} {policy : ValidationPolicy}
    (legible : (ClientRequest.validate artifact policy).Legible numbers options state)
    (fits : FitsFrame (encodeValidate
      ⟨policy, artifact.canonicalBytes runtime.formatDouble⟩))
    (replyFits : ∀ payload, (handleValidate numbers state (encodeValidate
      ⟨policy, artifact.canonicalBytes runtime.formatDouble⟩)).1 = .ok payload →
        FitsFrame payload) :
    Answers ((ClientRequest.validate artifact policy).call numbers)
      (handleValidate numbers state (encodeValidate
        ⟨policy, artifact.canonicalBytes runtime.formatDouble⟩))
      (state.respond numbers options faults (.validate artifact policy)) := by
  have read : parsePlanArtifact runtime numbers
      (artifact.canonicalBytes runtime.formatDouble) = .ok artifact := legible
  unfold handleValidate at replyFits ⊢
  unfold respond
  rw [(validate_exact fits).accepts] at replyFits ⊢
  simp only [read] at replyFits ⊢
  have decoded := (validateAck_exact (replyFits _ rfl)).accepts
  refine .answered _ ?_
  simp [ClientRequest.call, ClientCall.map, ServiceClient.validate, decoded, Except.map]

theorem getPlan_answers {digest : Digest256}
    (legible : (ClientRequest.getPlan digest).Legible numbers options state)
    (replyFits : ∀ payload, (handleGetPlan numbers options state
      (encodeGetPlan ⟨digest⟩)).1 = .ok payload → FitsFrame payload) :
    Answers ((ClientRequest.getPlan digest).call numbers)
      (handleGetPlan numbers options state (encodeGetPlan ⟨digest⟩))
      (state.respond numbers options faults (.getPlan digest)) := by
  unfold handleGetPlan at replyFits ⊢
  unfold respond
  rw [(getPlan_exact ⟨digest⟩).accepts] at replyFits ⊢
  cases found : PlanStore.get runtime numbers options.store digest state.store with
  | error status =>
      simp only [found]
      exact .failed _ _
  | ok artifact =>
      simp only [found] at replyFits ⊢
      have decoded := (getPlanAck_exact (replyFits _ rfl)).accepts
      refine .answered _ ?_
      simp only [ClientRequest.call, ClientCall.map, ServiceClient.getPlan, decoded,
        ok_bind, legible artifact found, Except.map]

theorem storeList_answers
    (legible : (ClientRequest.storeList : ClientRequest K).Legible numbers options state)
    (replyFits : FitsFrame (encodeStoreListAck (state.storeListAck numbers options))) :
    Answers ((ClientRequest.storeList : ClientRequest K).call numbers)
      (handleStoreList numbers options state)
      (state.respond numbers options faults .storeList) := by
  have decoded := (storeListAck_exact replyFits legible.1 legible.2).accepts
  refine .answered _ ?_
  simp only [ClientRequest.call, ClientCall.map, ServiceClient.storeList]
  change (decodeStoreListAck (encodeStoreListAck
    (state.storeListAck numbers options))).map _ = _
  rw [decoded]
  rfl

theorem cancel_answers (cancelToken : UInt64) :
    Answers ((ClientRequest.cancel cancelToken).call numbers)
      (state.handleCancel (encodeCancel ⟨cancelToken⟩))
      (state.respond numbers options faults (.cancel cancelToken)) := by
  have decoded := (cancelAck_exact ⟨(state.cancelRequests cancelToken).1⟩).accepts
  unfold handleCancel respond
  rw [(cancel_exact ⟨cancelToken⟩).accepts]
  refine .answered _ ?_
  simp [ClientRequest.call, ClientCall.map, ServiceClient.cancel, decoded, Except.map]

theorem stats_answers :
    Answers ((ClientRequest.stats : ClientRequest K).call numbers)
      (state.handleStats runtime)
      (state.respond numbers options faults .stats) := by
  have decoded := (statsAck_exact (state.statsAck runtime)).accepts
  refine .answered _ ?_
  simp only [ClientRequest.call, ClientCall.map, ServiceClient.stats]
  change (decodeStatsAck (encodeStatsAck (state.statsAck runtime))).map _ = _
  rw [decoded]
  rfl

/-- A request that is carried and read back is answered as it is in the process
of the service. -/
theorem respond_answers (named : state.Named) {request : ClientRequest K}
    (legible : request.Legible numbers options state)
    (fits : FitsFrame (request.call numbers).payload)
    (replyFits : ∀ payload, (handleRequest numbers options state faults
      (request.call numbers).kind (request.call numbers).payload).1 = .ok payload →
        FitsFrame payload) :
    Answers (request.call numbers)
      (handleRequest numbers options state faults (request.call numbers).kind
        (request.call numbers).payload)
      (state.respond numbers options faults request) := by
  cases request with
  | hello clientName => exact hello_answers named clientName fits replyFits
  | ingest snapshot => exact ingest_answers legible fits
  | plan request cancelToken => exact plan_answers legible fits replyFits
  | validate artifact policy => exact validate_answers legible fits replyFits
  | getPlan digest => exact getPlan_answers legible replyFits
  | storeList => exact storeList_answers legible (replyFits _ rfl)
  | cancel cancelToken => exact cancel_answers cancelToken
  | stats => exact stats_answers
  | shutdown => exact .answered _ rfl

/-! ### What a frame leaves behind -/

/-- What every frame keeps: the incarnation, a stop, and where snapshots come
from. -/
structure Evolves (numbers : DoubleText runtime.formatDouble)
    (state next : ServiceState K) : Prop where
  incarnation : next.incarnation = state.incarnation
  stopping : state.stopping = true → next.stopping = true
  snapshot : next.snapshot = state.snapshot ∨ ∃ content snapshot,
    parseSnapshotText numbers content = .ok snapshot ∧ next.snapshot = some snapshot

theorem Evolves.refl (state : ServiceState K) : state.Evolves numbers state :=
  ⟨rfl, id, .inl rfl⟩

theorem parse_of_readIngested {message : IngestMessage} {snapshot : TopologySnapshot K}
    (read : readIngested numbers message = .ok snapshot) :
    parseSnapshotText numbers message.snapshotText = .ok snapshot := by
  unfold readIngested at read
  cases parsed : parseSnapshotText numbers message.snapshotText with
  | error status =>
      rw [parsed] at read
      cases read
  | ok other =>
      simp only [parsed] at read
      split_ifs at read
      · cases read
        rfl

theorem handleIngest_evolves (payload : Bytes) :
    state.Evolves numbers (handleIngest numbers options state faults payload).2 := by
  unfold handleIngest
  cases decodeIngest payload with
  | error status => exact .refl state
  | ok message =>
      cases read : readIngested numbers message with
      | error status =>
          simp only [read]
          exact .refl state
      | ok snapshot =>
          have parsed := parse_of_readIngested read
          simp only [read]
          split_ifs with persists unsaved
          · unfold saveSnapshot
            split_ifs
            · exact .refl state
            · exact ⟨rfl, id, .inl rfl⟩
          · unfold saveSnapshot
            split_ifs
            · exact ⟨rfl, id, .inr ⟨_, snapshot, parsed, rfl⟩⟩
            · exact ⟨rfl, id, .inr ⟨_, snapshot, parsed, rfl⟩⟩
          · exact ⟨rfl, id, .inr ⟨_, snapshot, parsed, rfl⟩⟩

theorem handleRequest_evolves (kind : RequestKind) (payload : Bytes) :
    state.Evolves numbers
      (handleRequest numbers options state faults kind payload).2 := by
  cases kind with
  | ingest => exact handleIngest_evolves payload
  | hello =>
      simp only [handleRequest, handleHello]
      split
      · exact .refl state
      · split_ifs <;> exact .refl state
  | plan =>
      simp only [handleRequest, handlePlan]
      split
      · exact .refl state
      · split
        · exact .refl state
        · exact ⟨rfl, id, .inl rfl⟩
  | validate =>
      simp only [handleRequest, handleValidate]
      split
      · exact .refl state
      · split <;> exact .refl state
  | getPlan =>
      simp only [handleRequest, handleGetPlan]
      split
      · exact .refl state
      · split <;> exact .refl state
  | storeList => exact .refl state
  | cancel =>
      simp only [handleRequest, handleCancel]
      split
      · exact .refl state
      · unfold cancelRequests
        split_ifs
        · exact ⟨rfl, id, .inl rfl⟩
        · split
          · exact ⟨rfl, id, .inl rfl⟩
          · exact .refl state
  | stats => exact .refl state
  | shutdown => exact ⟨rfl, fun _ => rfl, .inl rfl⟩

theorem serveFrame_evolves (numbers : DoubleText runtime.formatDouble)
    (options : ServiceOptions) (state : ServiceState K) (faults : FrameFaults)
    (frame : Frame) :
    state.Evolves numbers (state.serveFrame numbers options faults frame).2 := by
  have ways := serveFrame_served numbers options state faults frame
  generalize state.serveFrame numbers options faults frame = served at ways ⊢
  cases ways with
  | refused status stats => exact ⟨rfl, id, .inl rfl⟩
  | stopped stats => exact ⟨rfl, fun _ => rfl, .inl rfl⟩
  | answered asked handled stats =>
      rename_i kind payload next
      have evolves := @handleRequest_evolves K _ _ _ numbers options state faults
        kind frame.payload
      rw [handled] at evolves
      exact ⟨evolves.incarnation, evolves.stopping, evolves.snapshot⟩

theorem Named.of_evolves (named : state.Named) {next : ServiceState K}
    (evolves : state.Evolves numbers next) : next.Named := by
  intro snapshot known
  rcases evolves.snapshot with same | ⟨content, other, parsed, installed⟩
  · exact named snapshot (same ▸ known)
  · rw [installed, Option.some.injEq] at known
    exact known ▸ id_valid_of_parse parsed

theorem serveFrame_named (named : state.Named) (frame : Frame) :
    (state.serveFrame numbers options faults frame).2.Named :=
  named.of_evolves (serveFrame_evolves numbers options state faults frame)

/-! ### One exchange -/

theorem serveFrame_of_pinned {frame : Frame}
    (goesOn : frame.kind ≠ RequestKind.shutdown.message)
    (pinned : state.pinnedElsewhere frame = true) :
    state.serveFrame numbers options faults frame =
      (makeFailureFrame frame.sequence state.incarnation.epoch state.fencedStatus,
        { state with stats := { state.stats with
          fencedFrames := state.stats.fencedFrames + 1
          framesRejected := state.stats.framesRejected + 1 } }) := by
  unfold serveFrame
  rw [if_neg goesOn, handleFrame_of_pinned numbers options faults pinned]
  rfl

theorem serveFrame_of_error {frame : Frame} {kind : RequestKind} {status : Status}
    {next : ServiceState K} (goesOn : frame.kind ≠ RequestKind.shutdown.message)
    (own : ¬ state.pinnedElsewhere frame = true)
    (asked : frame.kind.request? = some kind)
    (handled : handleRequest numbers options state faults kind frame.payload =
      (.error status, next)) :
    state.serveFrame numbers options faults frame =
      (makeFailureFrame frame.sequence state.incarnation.epoch status,
        next.counted true) := by
  unfold serveFrame handleFrame
  rw [if_neg goesOn, if_neg own, asked]
  simp only [handled]
  rfl

theorem serveFrame_of_ok {frame : Frame} {kind : RequestKind} {payload : Bytes}
    {next : ServiceState K} (goesOn : frame.kind ≠ RequestKind.shutdown.message)
    (own : ¬ state.pinnedElsewhere frame = true)
    (asked : frame.kind.request? = some kind)
    (handled : handleRequest numbers options state faults kind frame.payload =
      (.ok payload, next)) :
    state.serveFrame numbers options faults frame =
      (⟨kind.ack, frame.sequence, state.incarnation.epoch, payload⟩,
        next.counted false) := by
  have answers : kind.ack ≠ MessageKind.failure := by
    cases kind <;> decide
  unfold serveFrame handleFrame
  rw [if_neg goesOn, if_neg own, asked]
  simp only [handled, if_neg answers]
  rfl

/-- The refusal of a request, as the client takes it. -/
theorem takeResponse_failure {sequence epoch : UInt64} {status : Status}
    (fits : (makeFailureFrame sequence epoch status).Fits) :
    ServiceClient.takeResponse (makeFailureFrame sequence epoch status) =
      .error status.sent := by
  unfold ServiceClient.takeResponse makeFailureFrame
  rw [if_pos rfl, (failure_exact fits).accepts]
  rfl

omit [Field K] [LinearOrder K] in
theorem take_ack {call : ClientCall (ClientReply K)} {sequence epoch : UInt64}
    {payload : Bytes} {reply : ClientReply K}
    (decoded : call.decode payload = .ok reply) :
    (ServiceClient.takeResponse ⟨call.kind.ack, sequence, epoch, payload⟩ >>=
      call.take) = .ok reply := by
  have answers : call.kind.ack ≠ MessageKind.failure := by
    cases call.kind <;> decide
  rw [ServiceClient.takeResponse, if_neg answers, ok_bind, ClientCall.take,
    if_neg (not_not.mpr rfl), decoded]
  rfl

theorem call_kind_eq_shutdown {request : ClientRequest K} :
    (request.call numbers).kind = .shutdown ↔ request = .shutdown := by
  constructor
  · intro shutdown
    cases request with
    | shutdown => rfl
    | _ => cases shutdown
  · rintro rfl
    rfl

/-- What a client makes of the response to its frame. -/
theorem serveFrame_answer {client : ServiceClient} {request : ClientRequest K}
    {frame : Frame} (running : state.stopping = false) (named : state.Named)
    (legible : request.Legible numbers options state)
    (frame_def : frame = client.frame (request.call numbers).kind
      (request.call numbers).payload)
    (fits : frame.Fits)
    (replyFits : (state.serveFrame numbers options faults frame).1.Fits) :
    (ServiceClient.takeResponse (state.serveFrame numbers options faults frame).1 >>=
        (request.call numbers).take,
      (state.serveFrame numbers options faults frame).2) =
      state.answer numbers options client.epochPin faults request := by
  have asked : frame.kind.request? = some (request.call numbers).kind := by
    rw [frame_def]
    exact RequestKind.request?_message _
  have stops : frame.kind = RequestKind.shutdown.message ↔ request = .shutdown := by
    rw [← @call_kind_eq_shutdown K _ _ _ numbers, frame_def]
    change (request.call numbers).kind.message = _ ↔ _
    cases (request.call numbers).kind <;> decide
  have fences : state.pinnedElsewhere frame = true ↔
      client.epochPin ≠ 0 ∧ client.epochPin ≠ state.incarnation.epoch := by
    rw [frame_def]
    simp [pinnedElsewhere, ServiceClient.frame]
  unfold answer
  rw [if_neg (by simp [running])]
  by_cases shutdown : request = .shutdown
  · obtain rfl := shutdown
    unfold serveFrame
    rw [if_pos (stops.mpr rfl), if_neg (fun fenced => fenced.1 rfl)]
    rfl
  have goesOn := mt stops.mp shutdown
  by_cases pinned : client.epochPin ≠ 0 ∧ client.epochPin ≠ state.incarnation.epoch
  · rw [serveFrame_of_pinned goesOn (fences.mpr pinned)] at replyFits ⊢
    rw [if_pos ⟨mt call_kind_eq_shutdown.mp shutdown, pinned⟩,
      takeResponse_failure replyFits]
    rfl
  have own := mt fences.mp pinned
  rw [if_neg (mt And.right pinned)]
  have payload : frame.payload = (request.call numbers).payload := by
    rw [frame_def]
    rfl
  have answers := @respond_answers K _ _ _ numbers options state faults named _
      legible (payload ▸ fits) (by
    intro reply handled
    rw [← payload] at handled
    have served := serveFrame_of_ok goesOn own asked (Prod.ext handled rfl)
    rw [served] at replyFits
    exact replyFits)
  rw [← payload] at answers
  generalize handled : handleRequest numbers options state faults
    (request.call numbers).kind frame.payload = result at answers
  generalize state.respond numbers options faults request = responded at answers ⊢
  cases answers with
  | failed status next =>
      rw [serveFrame_of_error goesOn own asked handled] at replyFits ⊢
      rw [takeResponse_failure replyFits]
      rfl
  | answered next decoded =>
      rw [serveFrame_of_ok goesOn own asked handled, take_ack decoded]
      rfl

end ServiceState

end Requests

/-! ### Whole sessions -/

namespace ClientSession

variable {K : Type} [Field K] [LinearOrder K] {runtime : Runtime K}
  {numbers : DoubleText runtime.formatDouble} {options : ServiceOptions}
  {maxFrameBytes : UInt32} {session : ClientSession K}

/-- Nothing is left of earlier replies, and only a stop ends the worker. -/
structure InSync (session : ClientSession K) : Prop where
  incoming : session.incoming = []
  served : session.served = false → session.service.stopping = true
  named : session.service.Named

/-- The exchange goes through: bytes are written, the frames of both directions
keep the limits of both ends, and texts are read back. -/
def Carries (numbers : DoubleText runtime.formatDouble) (options : ServiceOptions)
    (maxFrameBytes : UInt32) (client : ServiceClient) (state : ServiceState K)
    (faults : ExchangeFaults) (request : ClientRequest K) : Prop :=
  let call := request.call numbers
  let frame := client.frame call.kind call.payload
  faults.sends = true ∧ (state.stopping = false →
    request.Legible numbers options state ∧
    frame.Carried maxFrameBytes ∧
    (state.serveFrame numbers options faults.toFrameFaults frame).1.Carried
      client.maxFrameBytes)

/-- An exchange of a session that has nothing left to read. -/
theorem exchange_of_round (incoming : session.incoming = []) {faults : ExchangeFaults}
    (sends : faults.sends = true) {call : ClientCall (ClientReply K)}
    {reply : Bytes} {service : ServiceState K} {served : Bool}
    (round : (if session.served then session.service.serveStream numbers options
        maxFrameBytes faults.toFrameFaults (encodeFrame runtime.sha256
          (session.client.frame call.kind call.payload))
      else ([], session.service, false)) = (reply, service, served))
    {read : Except Status Frame} {rest : Bytes}
    (reads : readFrame runtime.sha256 session.client.maxFrameBytes reply = (read, rest))
    (complete : (cutShort read && served) = false) :
    session.exchange numbers options maxFrameBytes faults call =
      some (ServiceClient.takeRead read >>= call.take,
        ⟨session.client.advance, service, rest, served⟩) := by
  unfold exchange
  simp only [sends, incoming, round, List.nil_append, reads, complete, if_true,
    Bool.false_eq_true, if_false]

theorem exchange_inSync (sync : session.InSync) {faults : ExchangeFaults}
    {request : ClientRequest K}
    (carries : Carries numbers options maxFrameBytes session.client session.service
      faults request) :
    ∃ next, session.exchange numbers options maxFrameBytes faults
        (request.call numbers) =
          some ((session.service.answer numbers options session.client.epochPin
            faults.toFrameFaults request).1, next) ∧
      next.client = session.client.advance ∧
      next.service = (session.service.answer numbers options session.client.epochPin
        faults.toFrameFaults request).2 ∧
      next.InSync := by
  obtain ⟨sends, carried⟩ := carries
  set frame := session.client.frame (request.call numbers).kind
    (request.call numbers).payload with frame_def
  cases stopping : session.service.stopping with
  | true =>
      -- the worker is gone, and its end of the connection is closed
      have round : (if session.served then session.service.serveStream numbers options
          maxFrameBytes faults.toFrameFaults (encodeFrame runtime.sha256 frame)
            else ([], session.service, false)) = ([], session.service, false) := by
        split_ifs
        · rw [ServiceState.serveStream, if_pos stopping]
        · rfl
      have answer : session.service.answer numbers options session.client.epochPin
          faults.toFrameFaults request =
            (.error ServiceState.goneStatus.sent, session.service) := by
        rw [ServiceState.answer, if_pos stopping]
      rw [answer]
      exact ⟨⟨session.client.advance, session.service, [], false⟩,
        exchange_of_round sync.incoming sends round rfl rfl, rfl, rfl,
        ⟨rfl, fun _ => stopping, sync.named⟩⟩
  | false =>
      obtain ⟨legible, fits, replyFits⟩ := carried stopping
      have open_ : session.served = true := by
        by_contra closed
        have stopped := sync.served (Bool.eq_false_iff.mpr closed)
        rw [stopping] at stopped
        cases stopped
      set served := session.service.serveFrame numbers options faults.toFrameFaults
        frame with served_def
      have round : (if session.served then session.service.serveStream numbers options
          maxFrameBytes faults.toFrameFaults (encodeFrame runtime.sha256 frame)
            else ([], session.service, false)) =
          (encodeFrame runtime.sha256 served.1, served.2,
            decide (frame.kind ≠ RequestKind.shutdown.message)) := by
        rw [if_pos open_, ServiceState.serveStream, if_neg (by simp [stopping]),
          readFrame_encodeFrame fits]
      have answer := ServiceState.serveFrame_answer stopping sync.named legible
        frame_def fits.2 replyFits.2
      rw [← answer]
      refine ⟨⟨session.client.advance, served.2, [],
        decide (frame.kind ≠ RequestKind.shutdown.message)⟩,
        exchange_of_round sync.incoming sends round (readFrame_encodeFrame replyFits) rfl,
        rfl, rfl, ⟨rfl, ?_, ServiceState.serveFrame_named sync.named frame⟩⟩
      intro closed
      have shutdown : frame.kind = RequestKind.shutdown.message := by
        simpa using closed
      rw [served_def, ServiceState.serveFrame, if_pos shutdown]
      rfl

/-- Every exchange of a session goes through. -/
def CarriesAll (numbers : DoubleText runtime.formatDouble) (options : ServiceOptions)
    (maxFrameBytes : UInt32) : ServiceClient → ServiceState K →
      List (SessionEvent K) → Prop
  | _, _, [] => True
  | client, state, .call faults request :: later =>
      Carries numbers options maxFrameBytes client state faults request ∧
        CarriesAll numbers options maxFrameBytes client.advance
          (state.answer numbers options client.epochPin faults.toFrameFaults
            request).2 later
  | client, state, .setEpochPin epoch :: later =>
      CarriesAll numbers options maxFrameBytes (client.setEpochPin epoch) state later
  | client, state, .other faults frame :: later =>
      CarriesAll numbers options maxFrameBytes client
        (state.serveFrame numbers options faults frame).2 later

/-- A session over bytes that goes through returns what calls in the process of
the service return, and leaves the service they leave. -/
theorem run_eq_answerAll (events : List (SessionEvent K)) (session : ClientSession K)
    (sync : session.InSync)
    (carries : CarriesAll numbers options maxFrameBytes session.client session.service
      events) :
    ∃ final, session.run numbers options maxFrameBytes events =
        some ((ServiceState.answerAll numbers options session.client.epochPin
          session.service events).1, final) ∧
      final.service = (ServiceState.answerAll numbers options session.client.epochPin
        session.service events).2 ∧
      final.InSync := by
  induction events generalizing session with
  | nil => exact ⟨session, rfl, rfl, sync⟩
  | cons event later ih =>
      cases event with
      | call faults request =>
          obtain ⟨next, exchanged, client, service, nextSync⟩ :=
            exchange_inSync sync carries.1
          obtain ⟨final, ran, finalService, finalSync⟩ := ih next nextSync (by
            rw [client, service]
            exact carries.2)
          rw [client, service] at ran finalService
          refine ⟨final, ?_, finalService, finalSync⟩
          rw [ClientSession.run, exchanged, Option.bind_some, ran]
          rfl
      | setEpochPin epoch =>
          exact ih { session with client := session.client.setEpochPin epoch }
            ⟨sync.incoming, sync.served, sync.named⟩ carries
      | other faults frame =>
          have evolves := ServiceState.serveFrame_evolves numbers options
            session.service faults frame
          exact ih { session with
            service := (session.service.serveFrame numbers options faults frame).2 }
            ⟨sync.incoming, fun closed => evolves.stopping (sync.served closed),
              sync.named.of_evolves evolves⟩ carries

end ClientSession

deriving instance DecidableEq for ConstraintSet, RouteRules, PlanningRequest,
  PlanningResult

/-- A client that is connected to a service of the second epoch. -/
def connected : ClientSession ℚ where
  client := {}
  service := ServiceState.secondEpoch

/-- A greeting, a request that finds no snapshot, a stop, and a call that comes too
late. -/
def spoken : List (SessionEvent ℚ) :=
  [.call {} (.hello (text "cli")), .call {} (.plan acrossSpan 0),
    .call {} .shutdown, .call {} .stats]

theorem ClientSession.run_eq_answerAll_spoken :
    ∃ final, connected.run wholeNumbers
        stateOptions (UInt32.ofNat kMaxFrameBytes) spoken =
      some ((ServiceState.answerAll wholeNumbers stateOptions 0 connected.service
        spoken).1, final) ∧
      final.service = (ServiceState.answerAll wholeNumbers stateOptions 0 connected.service
        spoken).2 ∧ final.InSync := by
  refine run_eq_answerAll spoken connected ⟨rfl, ?_, ?_⟩ ?_
  · rintro ⟨⟩
  · intro snapshot known
    cases known
  · refine ⟨⟨rfl, fun _ => ⟨trivial, ?_, ?_⟩⟩, ⟨rfl, fun _ => ⟨⟨?_, ?_⟩, ?_, ?_⟩⟩,
      ⟨rfl, fun _ => ⟨trivial, ?_, ?_⟩⟩, ⟨rfl, fun running => absurd running ?_⟩, trivial⟩
    case refine_3 => exact toOption_eq_some_iff.mp (by decide +kernel)
    case refine_4 => exact toOption_eq_some_iff.mp (by decide +kernel)
    all_goals decide +kernel

end OpticalPathPlanner
