import OpticalPathPlanner.FrameStreams
import OpticalPathPlanner.ResultCodec
import OpticalPathPlanner.Service

/-!
# The client of the service

A client numbers its frames, pins them to an epoch if it was told to, and
waits for one frame after each one it sent.  It looks at the kind of that
frame, and not at its number.  Every operation sends the encoding of its
arguments and reads its result off the payload of the acknowledgement.
-/

namespace OpticalPathPlanner

/-- A status in the hands of a client: the number of a code that came over the
wire is not checked. -/
abbrev ClientStatus := FailureMessage

def Status.sent (status : Status) : ClientStatus :=
  ⟨status.code.number, status.detail⟩

structure ServiceClient where
  maxFrameBytes : UInt32 := UInt32.ofNat kMaxFrameBytes
  sequence : UInt64 := 0
  epochPin : UInt64 := 0
deriving DecidableEq, Repr

/-- What an operation sends, and how it takes the acknowledgement. -/
structure ClientCall (α : Type) where
  kind : RequestKind
  payload : Bytes
  /-- What the service answered, in the words of the client. -/
  asked : String
  decode : Bytes → Except Status α

namespace ClientCall

variable {α β : Type}

def map (make : α → β) (call : ClientCall α) : ClientCall β where
  kind := call.kind
  payload := call.payload
  asked := call.asked
  decode payload := (call.decode payload).map make

def take (call : ClientCall α) (response : Frame) : Except ClientStatus α :=
  if response.kind ≠ call.kind.ack then
    .error (failure .internal (text ("the service answered " ++ call.asked ++
      " with an unexpected message"))).sent
  else
    (call.decode response.payload).mapError Status.sent

end ClientCall

namespace ServiceClient

variable (client : ServiceClient)

def setEpochPin (epoch : UInt64) : ServiceClient := { client with epochPin := epoch }

/-! ### Exchanges -/

/-- The frame of the next exchange. -/
def frame (kind : RequestKind) (payload : Bytes) : Frame where
  kind := kind.message
  sequence := client.sequence + 1
  epochPin := client.epochPin
  payload := payload

/-- The client once that frame is numbered. -/
def advance : ServiceClient := { client with sequence := client.sequence + 1 }

/-- What `Exchange` makes of the frame it reads. -/
def takeResponse (response : Frame) : Except ClientStatus Frame :=
  if response.kind = .failure then
    match decodeFailure response.payload with
    | .error status => .error status.sent
    | .ok message => .error message
  else
    .ok response

/-- The response that is read, or the error of the read. -/
def takeRead (read : Except Status Frame) : Except ClientStatus Frame :=
  match read with
  | .error status => .error status.sent
  | .ok response => takeResponse response

/-! ### Operations -/

section Operations

variable {K : Type} [Field K] [LinearOrder K] {runtime : Runtime K}
  (numbers : DoubleText runtime.formatDouble)

def hello (clientName : Bytes) : ClientCall HelloAckMessage where
  kind := .hello
  payload := encodeHello ⟨kProtocolVersion, clientName⟩
  asked := "a hello"
  decode := decodeHelloAck

def ingest (runtime : Runtime K) (snapshot : TopologySnapshot K) :
    ClientCall IngestAckMessage where
  kind := .ingest
  payload := encodeIngest
    ⟨snapshot.digest, snapshotToText runtime.formatDouble snapshot⟩
  asked := "an ingest"
  decode := decodeIngestAck

def plan (request : PlanningRequest K) (cancelToken : UInt64) :
    ClientCall (PlanningResult K) where
  kind := .plan
  payload := encodePlan ⟨cancelToken, requestToText runtime.formatDouble request⟩
  asked := "a plan request"
  decode payload := decodePlanAck payload >>= fun ack =>
    parseResultText runtime numbers ack.resultText

/-- The report a client makes of an acknowledgement. -/
def report (ack : ValidateAckMessage) : ValidationReport where
  validity := ack.validity
  status := if ack.validity = .valid then okStatus else failure .stale ack.reportText
  boundSnapshotDigest := ⟨0⟩
  currentSnapshotDigest := ⟨0⟩

def validate (runtime : Runtime K) (plan : PlanArtifact K)
    (policy : ValidationPolicy) : ClientCall ValidationReport where
  kind := .validate
  payload := encodeValidate ⟨policy, plan.canonicalBytes runtime.formatDouble⟩
  asked := "a validation"
  decode payload := (decodeValidateAck payload).map report

def getPlan (digest : Digest256) : ClientCall (PlanArtifact K) where
  kind := .getPlan
  payload := encodeGetPlan ⟨digest⟩
  asked := "a fetch"
  decode payload := decodeGetPlanAck payload >>= fun ack =>
    parsePlanArtifact runtime numbers ack.planText

def storeList : ClientCall StoreListAckMessage where
  kind := .storeList
  payload := []
  asked := "a listing"
  decode := decodeStoreListAck

def cancel (cancelToken : UInt64) : ClientCall CancelAckMessage where
  kind := .cancel
  payload := encodeCancel ⟨cancelToken⟩
  asked := "a cancellation"
  decode := decodeCancelAck

def stats : ClientCall StatsAckMessage where
  kind := .stats
  payload := []
  asked := "a statistics request"
  decode := decodeStatsAck

def shutdown : ClientCall Unit where
  kind := .shutdown
  payload := []
  asked := "a shutdown"
  decode _ := .ok ()

end Operations

end ServiceClient

/-! ### All operations -/

inductive ClientRequest (K : Type)
  | hello (clientName : Bytes)
  | ingest (snapshot : TopologySnapshot K)
  | plan (request : PlanningRequest K) (cancelToken : UInt64)
  | validate (plan : PlanArtifact K) (policy : ValidationPolicy)
  | getPlan (digest : Digest256)
  | storeList
  | cancel (cancelToken : UInt64)
  | stats
  | shutdown

inductive ClientReply (K : Type)
  | hello (ack : HelloAckMessage)
  | ingest (ack : IngestAckMessage)
  | plan (result : PlanningResult K)
  | validate (report : ValidationReport)
  | getPlan (plan : PlanArtifact K)
  | storeList (ack : StoreListAckMessage)
  | cancel (ack : CancelAckMessage)
  | stats (ack : StatsAckMessage)
  | shutdown

/-- The operation of a client behind a request. -/
def ClientRequest.call {K : Type} [Field K] [LinearOrder K] {runtime : Runtime K}
    (numbers : DoubleText runtime.formatDouble) :
    ClientRequest K → ClientCall (ClientReply K)
  | .hello clientName => (ServiceClient.hello clientName).map .hello
  | .ingest snapshot => (ServiceClient.ingest runtime snapshot).map .ingest
  | .plan request cancelToken =>
      (ServiceClient.plan numbers request cancelToken).map .plan
  | .validate artifact policy =>
      (ServiceClient.validate runtime artifact policy).map .validate
  | .getPlan digest => (ServiceClient.getPlan numbers digest).map .getPlan
  | .storeList => ServiceClient.storeList.map .storeList
  | .cancel cancelToken => (ServiceClient.cancel cancelToken).map .cancel
  | .stats => ServiceClient.stats.map .stats
  | .shutdown => ServiceClient.shutdown.map fun _ => .shutdown

end OpticalPathPlanner
