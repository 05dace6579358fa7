import OpticalPathPlanner.Incarnations
import OpticalPathPlanner.Planner
import OpticalPathPlanner.PlanValidation
import OpticalPathPlanner.RequestCodec
import OpticalPathPlanner.SnapshotCodec

/-!
# The inspection service

The service holds at most one snapshot, a store of plans, a table of running
requests that can be cancelled, and counters.  A frame is answered with an
acknowledgement of its kind or with a failure.  The worker of a connection
answers a shutdown by itself and hands every other frame to the handler, which
refuses frames that are pinned to another epoch.
-/

namespace OpticalPathPlanner

/-! ### Kinds of frames -/

/-- What a client may ask for. -/
inductive RequestKind
  | hello
  | ingest
  | plan
  | validate
  | getPlan
  | storeList
  | cancel
  | stats
  | shutdown
deriving DecidableEq, Repr

namespace RequestKind

def all : List RequestKind :=
  [hello, ingest, plan, validate, getPlan, storeList, cancel, stats, shutdown]

/-- Requests have odd numbers, and their acknowledgements the even ones. -/
def message (kind : RequestKind) : MessageKind :=
  ⟨UInt32.ofNat (2 * all.idxOf kind + 1)⟩

def ack (kind : RequestKind) : MessageKind :=
  ⟨UInt32.ofNat (2 * all.idxOf kind + 2)⟩

end RequestKind

namespace MessageKind

def failure : MessageKind := ⟨19⟩

def request? (kind : MessageKind) : Option RequestKind :=
  RequestKind.all.find? fun request => decide (request.message = kind)

end MessageKind

theorem RequestKind.request?_message (kind : RequestKind) :
    kind.message.request? = some kind := by
  cases kind <;> decide

/-- Every status code in the order of its number. -/
def StatusCode.all : List StatusCode :=
  [.ok, .invalidArgument, .malformedInput, .limitExceeded, .duplicateIdentity,
    .notFound, .conflictingEvidence, .unsupported, .stale, .fenced, .cancelled,
    .truncated, .integrityFailure, .ioFailure, .refused, .exhausted, .overflow,
    .internal]

def StatusCode.number (code : StatusCode) : UInt32 :=
  UInt32.ofNat (StatusCode.all.idxOf code)

def makeFailureFrame (sequence epochPin : UInt64) (status : Status) : Frame where
  kind := .failure
  sequence := sequence
  epochPin := epochPin
  payload := encodeFailure ⟨status.code.number, status.detail⟩

/-! ### The state of the service -/

structure ServiceOptions where
  store : StoreOptions
  maxConnections : UInt32 := 64
  expansionCeiling : Nat := kMaxSearchExpansionsCeiling
  persistSnapshots : Bool := true
deriving DecidableEq, Repr

structure ServiceStats where
  connectionsAccepted : UInt64 := 0
  framesHandled : UInt64 := 0
  framesRejected : UInt64 := 0
  snapshotsIngested : UInt64 := 0
  plansComputed : UInt64 := 0
  plansRejected : UInt64 := 0
  plansCancelled : UInt64 := 0
  activeRequests : UInt64 := 0
  fencedFrames : UInt64 := 0
deriving DecidableEq, Repr

/-- The flag that the copies of one cancellation token share. -/
abbrev TokenFlag := Nat

structure ServiceState (K : Type) where
  incarnation : IncarnationState
  snapshot : Option (TopologySnapshot K) := none
  snapshotFresh : Bool := false
  /-- The persisted snapshot, outside the memory of the service. -/
  snapshotFile : Option Bytes := none
  store : Directory := ∅
  /-- The flag under each cancellation token of a running request. -/
  cancellations : AList (fun _ : UInt64 => TokenFlag) := ∅
  /-- The flags that were set. -/
  requested : List TokenFlag := []
  stats : ServiceStats := {}
  stopping : Bool := false

/-- What the file system answers while a frame is handled. -/
structure FrameFaults where
  snapshotWrite : Status := okStatus
  /-- To the write of the candidate at a position. -/
  put : Nat → Status := fun _ => okStatus

/-- A payload or a failure, and the state behind the request. -/
abbrev Answer (K : Type) := Except Status Bytes × ServiceState K

section Service

variable {K : Type} [Field K] [LinearOrder K] {runtime : Runtime K}
  (numbers : DoubleText runtime.formatDouble) (options : ServiceOptions)

def versionString : Bytes := text "1.0.0"

namespace ServiceState

variable (state : ServiceState K)

/-! ### Handlers -/

def helloAck : HelloAckMessage where
  libraryVersion := versionString
  incarnation := state.incarnation.incarnation
  epoch := state.incarnation.epoch
  epochContinuity := state.incarnation.epochContinuity
  hasSnapshot := state.snapshot.isSome
  snapshotFresh := state.snapshotFresh
  snapshotId := (state.snapshot.map TopologySnapshot.id).getD ⟨[]⟩
  snapshotGeneration := (state.snapshot.map TopologySnapshot.generation).getD 0
  snapshotDigest := (state.snapshot.map TopologySnapshot.digest).getD ⟨0⟩

def handleHello (payload : Bytes) : Answer K :=
  match decodeHello payload with
  | .error status => (.error status, state)
  | .ok message =>
      if message.protocolVersion ≠ kProtocolVersion then
        (.error (failure .unsupported
          (text "client transport revision is not supported")), state)
      else
        (.ok (encodeHelloAck state.helloAck), state)

/-- The snapshot of an ingest message, when its digest is the declared one. -/
def readIngested (message : IngestMessage) : Except Status (TopologySnapshot K) :=
  match parseSnapshotText numbers message.snapshotText with
  | .error status => .error status
  | .ok snapshot =>
      if snapshot.digest ≠ message.snapshotDigest then
        .error (failure .integrityFailure (text ("the declared snapshot digest " ++
          "does not match the snapshot content")))
      else
        .ok snapshot

/-- `SaveSnapshotFile`, which the file system lets happen or refuses. -/
def saveSnapshot (formatDouble : K → Bytes) (fault : Status)
    (snapshot : TopologySnapshot K) : Status × ServiceState K :=
  if fault.failed then (fault, state)
  else (okStatus, { state with
    snapshotFile := some (snapshotToText formatDouble snapshot) })

/-- What happens under the lock once a snapshot is persisted. -/
def install (snapshot : TopologySnapshot K) : ServiceState K :=
  { state with
    snapshot := some snapshot
    snapshotFresh := true
    stats := { state.stats with
      snapshotsIngested := state.stats.snapshotsIngested + 1 } }

def ingestAck (snapshot : TopologySnapshot K) : Bytes :=
  encodeIngestAck ⟨snapshot.id, snapshot.generation, snapshot.digest⟩

def handleIngest (faults : FrameFaults) (payload : Bytes) : Answer K :=
  match decodeIngest payload with
  | .error status => (.error status, state)
  | .ok message =>
      match readIngested numbers message with
      | .error status => (.error status, state)
      | .ok snapshot =>
          if options.persistSnapshots then
            let saved := state.saveSnapshot runtime.formatDouble
              faults.snapshotWrite snapshot
            if saved.1.failed then (.error saved.1, saved.2)
            else (.ok (ingestAck snapshot), saved.2.install snapshot)
          else
            (.ok (ingestAck snapshot), state.install snapshot)

/-- The result of planning for a request. -/
def planAnswer (runtime : Runtime K) (options : ServiceOptions)
    (snapshot : Option (TopologySnapshot K)) (request : PlanningRequest K) :
    PlanningResult K :=
  match snapshot with
  | none => runtime.sealResult {
      outcome := .indeterminate
      status := failure .notFound
        (text "no topology snapshot has been ingested by this incarnation")
      requestDigest := runtime.computeRequestDigest request
      snapshotDigest := ⟨0⟩
      candidates := []
      witnesses := []
      limitations := kLimitationStaleEvidence
      cuts := []
      statistics := {}
      optimalityProven := false
      resultDigest := ⟨0⟩ }
  | some snapshot =>
      -- The token is a fresh one that nobody else holds.
      (OpticalPathPlanner.plan runtime
        { expansionCeiling := options.expansionCeiling } .idle snapshot request ()).1

/-- Store the candidates of a feasible result, each on its own. -/
def storeCandidates (runtime : Runtime K) (options : ServiceOptions)
    (faults : FrameFaults) (result : PlanningResult K) (store : Directory) :
    Bool × Directory :=
  if result.outcome = .feasible then
    (result.candidates.zipIdx).foldl
      (fun stored candidate =>
        let put := PlanStore.put runtime options.store candidate.1
          (faults.put candidate.2) stored.2
        (stored.1 && !put.1.failed, put.2))
      (true, store)
  else
    (true, store)

def beginPlan : ServiceState K :=
  { state with stats := { state.stats with
    activeRequests := state.stats.activeRequests + 1 } }

/-- The counters behind a request that was planned. -/
def endPlan (outcome : PlanOutcome) (stored : Bool) : ServiceState K :=
  let stats := { state.stats with
    activeRequests := state.stats.activeRequests - 1 }
  { state with stats :=
      if outcome = .cancelled then
        { stats with plansCancelled := stats.plansCancelled + 1 }
      else if outcome = .feasible then
        { stats with
          plansComputed := stats.plansComputed + 1
          plansRejected :=
            if stored then stats.plansRejected else stats.plansRejected + 1 }
      else
        { stats with plansRejected := stats.plansRejected + 1 } }

def planAck (formatDouble : K → Bytes) (result : PlanningResult K) : Bytes :=
  encodePlanAck ⟨result.canonicalBytes formatDouble⟩

def handlePlan (faults : FrameFaults) (payload : Bytes) : Answer K :=
  match decodePlan payload with
  | .error status => (.error status, state)
  | .ok message =>
      match parseRequestText numbers message.requestText with
      | .error status => (.error status, state)
      | .ok request =>
          let begun := state.beginPlan
          let result := planAnswer runtime options state.snapshot request
          let stored := storeCandidates runtime options faults result begun.store
          let ended := ({ begun with store := stored.2 }).endPlan
            result.outcome stored.1
          (.ok (planAck runtime.formatDouble result), ended)

def validateAck (runtime : Runtime K) (plan : PlanArtifact K)
    (policy : ValidationPolicy) : ValidateAckMessage :=
  match state.snapshot with
  | none => ⟨.missingEvidence,
      text "no topology snapshot has been ingested by this incarnation"⟩
  | some snapshot =>
      let report := validatePlanBindings runtime plan snapshot policy
      ⟨report.validity, report.explainText⟩

def handleValidate (payload : Bytes) : Answer K :=
  match decodeValidate payload with
  | .error status => (.error status, state)
  | .ok message =>
      match parsePlanArtifact runtime numbers message.planText with
      | .error status => (.error status, state)
      | .ok plan => (.ok (encodeValidateAck
          (state.validateAck runtime plan message.policy)), state)

def handleGetPlan (payload : Bytes) : Answer K :=
  match decodeGetPlan payload with
  | .error status => (.error status, state)
  | .ok message =>
      match PlanStore.get runtime numbers options.store message.digest
          state.store with
      | .error status => (.error status, state)
      | .ok plan => (.ok (encodeGetPlanAck
          ⟨plan.digest, plan.canonicalBytes runtime.formatDouble⟩), state)

def handleStoreList : Answer K :=
  let listed := PlanStore.list runtime numbers options.store state.store
  (.ok (encodeStoreListAck ⟨listed.1.map StoreEntry.digest, listed.2⟩), state)

/-- Set the flags of the named request, or of all of them. -/
def cancelRequests (cancelToken : UInt64) : Bool × ServiceState K :=
  if cancelToken = 0 then
    (!state.cancellations.entries.isEmpty, { state with
      requested := state.cancellations.entries.map Sigma.snd ++ state.requested })
  else
    match state.cancellations.lookup cancelToken with
    | some flag => (true, { state with requested := flag :: state.requested })
    | none => (false, state)

def handleCancel (payload : Bytes) : Answer K :=
  match decodeCancel payload with
  | .error status => (.error status, state)
  | .ok message =>
      let cancelled := state.cancelRequests message.cancelToken
      (.ok (encodeCancelAck ⟨cancelled.1⟩), cancelled.2)

def handleStats (runtime : Runtime K) : Answer K :=
  (.ok (encodeStatsAck {
    incarnation := state.incarnation.incarnation
    epoch := state.incarnation.epoch
    connectionsAccepted := state.stats.connectionsAccepted
    framesHandled := state.stats.framesHandled
    framesRejected := state.stats.framesRejected
    snapshotsIngested := state.stats.snapshotsIngested
    plansComputed := state.stats.plansComputed
    plansRejected := state.stats.plansRejected
    plansCancelled := state.stats.plansCancelled
    activeRequests := state.stats.activeRequests
    storedPlans := (PlanStore.count runtime state.store).toUInt64
    fencedFrames := state.stats.fencedFrames }), state)

def stopConnections : ServiceState K := { state with stopping := true }

/-! ### Dispatch -/

def handleRequest (faults : FrameFaults) (kind : RequestKind) (payload : Bytes) :
    Answer K :=
  match kind with
  | .hello => state.handleHello payload
  | .ingest => handleIngest numbers options state faults payload
  | .plan => handlePlan numbers options state faults payload
  | .validate => handleValidate numbers state payload
  | .getPlan => handleGetPlan numbers options state payload
  | .storeList => handleStoreList numbers options state
  | .cancel => state.handleCancel payload
  | .stats => state.handleStats runtime
  | .shutdown => (.ok [], state.stopConnections)

/-- The frame is pinned to an epoch of another incarnation. -/
def pinnedElsewhere (frame : Frame) : Bool :=
  frame.epochPin != 0 && frame.epochPin != state.incarnation.epoch

def fencedStatus : Status :=
  failure .fenced (List.flatten [
    text "the frame is pinned to an epoch this incarnation does not own",
    text " (current epoch ", formatU64 state.incarnation.epoch.toNat, text ")"])

/-- `HandleFrameFor` -/
def handleFrame (faults : FrameFaults) (frame : Frame) : Frame × ServiceState K :=
  if state.pinnedElsewhere frame then
    (makeFailureFrame frame.sequence state.incarnation.epoch state.fencedStatus,
      { state with stats := { state.stats with
        fencedFrames := state.stats.fencedFrames + 1 } })
  else
    match frame.kind.request? with
    | none =>
        (makeFailureFrame frame.sequence state.incarnation.epoch
          (failure .invalidArgument
            (text "the frame is not a request this service handles")), state)
    | some kind =>
        let answer := handleRequest numbers options state faults kind frame.payload
        match answer.1 with
        | .error status => (makeFailureFrame frame.sequence
            state.incarnation.epoch status, answer.2)
        | .ok payload => (⟨kind.ack, frame.sequence, state.incarnation.epoch,
            payload⟩, answer.2)

/-- How the worker of a connection answers a frame. -/
def serveFrame (faults : FrameFaults) (frame : Frame) : Frame × ServiceState K :=
  if frame.kind = RequestKind.shutdown.message then
    (⟨RequestKind.shutdown.ack, frame.sequence, state.incarnation.epoch, []⟩,
      ({ state with stats := { state.stats with
        framesHandled := state.stats.framesHandled + 1 } }).stopConnections)
  else
    let handled := handleFrame numbers options state faults frame
    if handled.1.kind = .failure then
      (handled.1, { handled.2 with stats := { handled.2.stats with
        framesRejected := handled.2.stats.framesRejected + 1 } })
    else
      (handled.1, { handled.2 with stats := { handled.2.stats with
        framesHandled := handled.2.stats.framesHandled + 1 } })

end ServiceState

/-! ### Starts -/

/-- What the file system answers while the service starts. -/
structure StartFaults where
  /-- To the removal of a temporary file of the store. -/
  remove : Bytes → Status := fun _ => okStatus
  snapshotRead : Status := okStatus

/-- `LoadSnapshotFile` -/
def loadSnapshot (fault : Status) (file : Option Bytes) :
    Option (TopologySnapshot K) :=
  match file with
  | none => none
  | some content =>
      if fault.failed then none
      else (parseSnapshotText numbers content).toOption

/-- The service behind a start with the given incarnation, over what an earlier
one left on disk. -/
def startService (faults : StartFaults) (incarnation : IncarnationState)
    (snapshotFile : Option Bytes) (store : Directory) :
    Except Status (ServiceState K) :=
  match PlanStore.open_ options.store faults.remove store with
  | .error status => .error status
  | .ok store =>
      let restored :=
        if options.persistSnapshots then
          (loadSnapshot numbers faults.snapshotRead snapshotFile).map
            fun snapshot => snapshot.markRestored incarnation.incarnation
              incarnation.epoch
        else none
      .ok {
        incarnation := incarnation
        snapshot := restored
        snapshotFile := snapshotFile
        store := store }

end Service

end OpticalPathPlanner
