import OpticalPathPlanner.ByteReaders
import OpticalPathPlanner.PlanArtifacts

/-!
# The framed transport

Frames are length delimited, versioned and checksummed; a payload is the
concatenation of its fields.  Integers are little endian, digests and
incarnations are written byte by byte.  The reader of a stream decodes one
frame at a time and drops the bytes that frame took.
-/

namespace OpticalPathPlanner

open ByteReaders

def kFrameMagic : UInt32 := 0x3150504f
def kProtocolVersion : UInt32 := 1
def kMaxFrameBytes : Nat := 16 * 1024 * 1024
def kMaxStoredPlans : Nat := 100000

/-! ### Byte writers and readers -/

/-- The bytes of a digest, in the order its hex form spells them. -/
def Digest256.bytes (digest : Digest256) : Bytes :=
  (littleEndian 32 digest.value.toNat).reverse

@[simp]
theorem Digest256.length_bytes (digest : Digest256) : digest.bytes.length = 32 := by
  simp [Digest256.bytes]

def Digest256.ofBytes (bytes : Bytes) : Digest256 :=
  ⟨BitVec.ofNat 256 (ofLittleEndian bytes.reverse)⟩

def IncarnationId.bytes (incarnation : IncarnationId) : Bytes :=
  (littleEndian 16 incarnation.value.toNat).reverse

def IncarnationId.ofBytes (bytes : Bytes) : IncarnationId :=
  ⟨BitVec.ofNat 128 (ofLittleEndian bytes.reverse)⟩

namespace ByteWriter

def u32 (value : UInt32) : Bytes := littleEndian 4 value.toNat
def u64 (value : UInt64) : Bytes := littleEndian 8 value.toNat
def bool (value : Bool) : Bytes := [if value then 1 else 0]

/-- A byte string after its length. -/
def sized (content : Bytes) : Bytes :=
  u32 (UInt32.ofNat content.length) ++ content

end ByteWriter

abbrev ByteReader := Reader Status

namespace ByteReader

def take (count : Nat) : ByteReader Bytes :=
  ByteReaders.take (failure .malformedInput (text "payload is truncated")) count

def u8 : ByteReader UInt8 := do
  let slice ← take 1
  return UInt8.ofNat (ofLittleEndian slice)

def u32 : ByteReader UInt32 := do
  let slice ← take 4
  return UInt32.ofNat (ofLittleEndian slice)

def u64 : ByteReader UInt64 := do
  let slice ← take 8
  return UInt64.ofNat (ofLittleEndian slice)

def bool : ByteReader Bool := do
  let value ← u8
  if value > 1 then
    throw (failure .malformedInput (text "boolean byte must be 0 or 1"))
  else
    return value == 1

def sized : ByteReader Bytes := do
  let length ← u32
  take length.toNat

def digest : ByteReader Digest256 := do
  let slice ← take 32
  return .ofBytes slice

def incarnation : ByteReader IncarnationId := do
  let slice ← take 16
  return .ofBytes slice

/-- Decode a payload and refuse trailing bytes. -/
def expectEnd {α : Type} (reader : ByteReader α) (payload : Bytes) :
    Except Status α :=
  readWhole (failure .malformedInput (text "payload has trailing bytes"))
    reader payload

end ByteReader

/-! ### Frames -/

/-- The number of a message kind.  A reader accepts any number. -/
structure MessageKind where
  number : UInt32
deriving DecidableEq, Repr

structure Frame where
  kind : MessageKind
  sequence : UInt64
  epochPin : UInt64
  payload : Bytes
deriving DecidableEq, Repr

def kFrameHeaderBytes : Nat := 4 + 4 + 4 + 8 + 8 + 4

def encodeFrameHeader (frame : Frame) : Bytes :=
  [ByteWriter.u32 kFrameMagic, ByteWriter.u32 kProtocolVersion,
    ByteWriter.u32 frame.kind.number, ByteWriter.u64 frame.sequence,
    ByteWriter.u64 frame.epochPin,
    ByteWriter.u32 (UInt32.ofNat frame.payload.length)].flatten

def encodeFrameBody (frame : Frame) : Bytes :=
  encodeFrameHeader frame ++ frame.payload

/-- The fields of a header, as far as they are read without checks. -/
structure FrameHeader where
  magic : UInt32
  version : UInt32
  kind : UInt32
  sequence : UInt64
  epoch : UInt64
  length : UInt32
deriving DecidableEq, Repr

def readFrameHeader : ByteReader FrameHeader := do
  let magic ← ByteReader.u32
  let version ← ByteReader.u32
  let kind ← ByteReader.u32
  let sequence ← ByteReader.u64
  let epoch ← ByteReader.u64
  let length ← ByteReader.u32
  return ⟨magic, version, kind, sequence, epoch, length⟩

def frameSize (bytes : Bytes) : Except Status Nat :=
  if bytes.length < kFrameHeaderBytes then
    .error (failure .notFound (text "frame header is incomplete"))
  else
    match readFrameHeader (bytes.take kFrameHeaderBytes) with
    | .error status => .error status
    | .ok (header, _) =>
        if header.magic ≠ kFrameMagic then
          .error (failure .malformedInput (text "frame magic is not recognised"))
        else if header.length.toNat > kMaxFrameBytes then
          .error (failure .limitExceeded
            (text "frame payload exceeds the permitted maximum size"))
        else if bytes.length < kFrameHeaderBytes + header.length.toNat + 32 then
          .error (failure .notFound (text "frame body is incomplete"))
        else
          .ok (kFrameHeaderBytes + header.length.toNat + 32)

section Frames

variable (sha256 : Bytes → Digest256)

def encodeFrame (frame : Frame) : Bytes :=
  encodeFrameBody frame ++ (sha256 (encodeFrameBody frame)).bytes

/-- One frame off the front of a buffer, with the number of bytes it took. -/
def decodeFrame (bytes : Bytes) : Except Status (Frame × Nat) :=
  match frameSize bytes with
  | .error status => .error status
  | .ok total =>
      if (sha256 (bytes.take (total - 32))).bytes ≠
          (bytes.drop (total - 32)).take 32 then
        .error (failure .integrityFailure
          (text "frame checksum does not match its content"))
      else
        match readFrameHeader (bytes.take kFrameHeaderBytes) with
        | .error status => .error status
        | .ok (header, _) =>
            if header.version ≠ kProtocolVersion then
              .error (failure .unsupported
                (text "transport revision is not supported by this runtime"))
            else
              .ok (⟨⟨header.kind⟩, header.sequence, header.epoch,
                (bytes.drop kFrameHeaderBytes).take header.length.toNat⟩, total)

/-- Decode frames off the front of a buffer until none is complete, and the
bytes that are left. -/
def drainFrames : Nat → Bytes → List Frame × Bytes
  | 0, bytes => ([], bytes)
  | fuel + 1, bytes =>
      match decodeFrame sha256 bytes with
      | .error _ => ([], bytes)
      | .ok (frame, consumed) =>
          let (frames, rest) := drainFrames fuel (bytes.drop consumed)
          (frame :: frames, rest)

end Frames

/-! ### Payloads -/

structure HelloMessage where
  protocolVersion : UInt32 := kProtocolVersion
  clientName : Bytes
deriving DecidableEq, Repr

def encodeHello (message : HelloMessage) : Bytes :=
  [ByteWriter.u32 message.protocolVersion,
    ByteWriter.sized message.clientName].flatten

def readHello : ByteReader HelloMessage := do
  let protocolVersion ← ByteReader.u32
  let clientName ← ByteReader.sized
  return ⟨protocolVersion, clientName⟩

def decodeHello : Bytes → Except Status HelloMessage :=
  ByteReader.expectEnd readHello

structure HelloAckMessage where
  protocolVersion : UInt32 := kProtocolVersion
  libraryVersion : Bytes
  incarnation : IncarnationId
  epoch : UInt64
  epochContinuity : Bool := true
  hasSnapshot : Bool := false
  snapshotFresh : Bool := false
  snapshotId : SnapshotId
  snapshotGeneration : Generation
  snapshotDigest : Digest256
deriving DecidableEq, Repr

def encodeHelloAck (message : HelloAckMessage) : Bytes :=
  [ByteWriter.u32 message.protocolVersion,
    ByteWriter.sized message.libraryVersion, message.incarnation.bytes,
    ByteWriter.u64 message.epoch, ByteWriter.bool message.epochContinuity,
    ByteWriter.bool message.hasSnapshot, ByteWriter.bool message.snapshotFresh,
    ByteWriter.sized message.snapshotId.str,
    ByteWriter.u64 message.snapshotGeneration,
    message.snapshotDigest.bytes].flatten

/-- An identity that must be valid. -/
def readSnapshotId : ByteReader SnapshotId := do
  let id ← ByteReader.sized
  match StrongId.parse .snapshot id with
  | .ok snapshotId => return snapshotId
  | .error status => throw status

/-- An identity that may be absent, which an empty text says. -/
def readOptionalSnapshotId : ByteReader SnapshotId := do
  let id ← ByteReader.sized
  if id.isEmpty then
    return ⟨[]⟩
  else
    match StrongId.parse .snapshot id with
    | .ok snapshotId => return snapshotId
    | .error status => throw status

def readHelloAck : ByteReader HelloAckMessage := do
  let protocolVersion ← ByteReader.u32
  let libraryVersion ← ByteReader.sized
  let incarnation ← ByteReader.incarnation
  let epoch ← ByteReader.u64
  let epochContinuity ← ByteReader.bool
  let hasSnapshot ← ByteReader.bool
  let snapshotFresh ← ByteReader.bool
  let snapshotId ← readOptionalSnapshotId
  let snapshotGeneration ← ByteReader.u64
  let snapshotDigest ← ByteReader.digest
  return ⟨protocolVersion, libraryVersion, incarnation, epoch, epochContinuity,
    hasSnapshot, snapshotFresh, snapshotId, snapshotGeneration, snapshotDigest⟩

def decodeHelloAck : Bytes → Except Status HelloAckMessage :=
  ByteReader.expectEnd readHelloAck

structure IngestMessage where
  snapshotDigest : Digest256
  snapshotText : Bytes
deriving DecidableEq, Repr

def encodeIngest (message : IngestMessage) : Bytes :=
  [message.snapshotDigest.bytes, ByteWriter.sized message.snapshotText].flatten

def readIngest : ByteReader IngestMessage := do
  let snapshotDigest ← ByteReader.digest
  let snapshotText ← ByteReader.sized
  return ⟨snapshotDigest, snapshotText⟩

def decodeIngest : Bytes → Except Status IngestMessage :=
  ByteReader.expectEnd readIngest

structure IngestAckMessage where
  snapshotId : SnapshotId
  generation : Generation
  snapshotDigest : Digest256
deriving DecidableEq, Repr

def encodeIngestAck (message : IngestAckMessage) : Bytes :=
  [ByteWriter.sized message.snapshotId.str, ByteWriter.u64 message.generation,
    message.snapshotDigest.bytes].flatten

def readIngestAck : ByteReader IngestAckMessage := do
  let snapshotId ← readSnapshotId
  let generation ← ByteReader.u64
  let snapshotDigest ← ByteReader.digest
  return ⟨snapshotId, generation, snapshotDigest⟩

def decodeIngestAck : Bytes → Except Status IngestAckMessage :=
  ByteReader.expectEnd readIngestAck

structure PlanMessage where
  cancelToken : UInt64
  requestText : Bytes
deriving DecidableEq, Repr

def encodePlan (message : PlanMessage) : Bytes :=
  [ByteWriter.u64 message.cancelToken,
    ByteWriter.sized message.requestText].flatten

def readPlan : ByteReader PlanMessage := do
  let cancelToken ← ByteReader.u64
  let requestText ← ByteReader.sized
  return ⟨cancelToken, requestText⟩

def decodePlan : Bytes → Except Status PlanMessage :=
  ByteReader.expectEnd readPlan

structure PlanAckMessage where
  resultText : Bytes
deriving DecidableEq, Repr

def encodePlanAck (message : PlanAckMessage) : Bytes :=
  [ByteWriter.sized message.resultText].flatten

def readPlanAck : ByteReader PlanAckMessage := do
  let resultText ← ByteReader.sized
  return ⟨resultText⟩

def decodePlanAck : Bytes → Except Status PlanAckMessage :=
  ByteReader.expectEnd readPlanAck

structure ValidateMessage where
  policy : ValidationPolicy
  planText : Bytes
deriving DecidableEq, Repr

def encodeValidate (message : ValidateMessage) : Bytes :=
  [ByteWriter.bool message.policy.acceptRestoredEvidence,
    ByteWriter.bool message.policy.revalidateOnMismatch,
    ByteWriter.sized message.planText].flatten

def readValidate : ByteReader ValidateMessage := do
  let acceptRestoredEvidence ← ByteReader.bool
  let revalidateOnMismatch ← ByteReader.bool
  let planText ← ByteReader.sized
  return ⟨⟨acceptRestoredEvidence, revalidateOnMismatch⟩, planText⟩

def decodeValidate : Bytes → Except Status ValidateMessage :=
  ByteReader.expectEnd readValidate

/-- Every validity in the order of its number. -/
def PlanValidity.all : List PlanValidity :=
  [.valid, .stale, .contentMismatch, .missingEvidence, .integrityFailure,
    .unsupported, .refused, .notFresh]

def PlanValidity.number (validity : PlanValidity) : Nat :=
  PlanValidity.all.idxOf validity

structure ValidateAckMessage where
  validity : PlanValidity
  reportText : Bytes
deriving DecidableEq, Repr

def encodeValidateAck (message : ValidateAckMessage) : Bytes :=
  [ByteWriter.u32 (UInt32.ofNat message.validity.number),
    ByteWriter.sized message.reportText].flatten

def readValidity : ByteReader PlanValidity := do
  let number ← ByteReader.u32
  match PlanValidity.all[number.toNat]? with
  | some validity => return validity
  | none => throw (failure .malformedInput
      (text "validation validity value is not recognised"))

def readValidateAck : ByteReader ValidateAckMessage := do
  let validity ← readValidity
  let reportText ← ByteReader.sized
  return ⟨validity, reportText⟩

def decodeValidateAck : Bytes → Except Status ValidateAckMessage :=
  ByteReader.expectEnd readValidateAck

structure GetPlanMessage where
  digest : Digest256
deriving DecidableEq, Repr

def encodeGetPlan (message : GetPlanMessage) : Bytes :=
  [message.digest.bytes].flatten

def readGetPlan : ByteReader GetPlanMessage := do
  let digest ← ByteReader.digest
  return ⟨digest⟩

def decodeGetPlan : Bytes → Except Status GetPlanMessage :=
  ByteReader.expectEnd readGetPlan

structure GetPlanAckMessage where
  digest : Digest256
  planText : Bytes
deriving DecidableEq, Repr

def encodeGetPlanAck (message : GetPlanAckMessage) : Bytes :=
  [message.digest.bytes, ByteWriter.sized message.planText].flatten

def readGetPlanAck : ByteReader GetPlanAckMessage := do
  let digest ← ByteReader.digest
  let planText ← ByteReader.sized
  return ⟨digest, planText⟩

def decodeGetPlanAck : Bytes → Except Status GetPlanAckMessage :=
  ByteReader.expectEnd readGetPlanAck

structure StoreListAckMessage where
  digests : List Digest256
  rejectedFiles : List Bytes
deriving DecidableEq, Repr

def encodeStoreListAck (message : StoreListAckMessage) : Bytes :=
  [ByteWriter.u32 (UInt32.ofNat message.digests.length),
    message.digests.flatMap Digest256.bytes,
    ByteWriter.u32 (UInt32.ofNat message.rejectedFiles.length),
    message.rejectedFiles.flatMap ByteWriter.sized].flatten

/-- A bounded list after its length. -/
def readListed {α : Type} (reader : ByteReader α) (what : String) :
    ByteReader (List α) := do
  let count ← ByteReader.u32
  if count.toNat > kMaxStoredPlans then
    throw (failure .limitExceeded (text what ++
      text " exceeds the permitted number of entries"))
  else
    readMany reader count.toNat

def readStoreListAck : ByteReader StoreListAckMessage := do
  let digests ← readListed ByteReader.digest "store listing"
  let rejectedFiles ← readListed ByteReader.sized "store rejection list"
  return ⟨digests, rejectedFiles⟩

def decodeStoreListAck : Bytes → Except Status StoreListAckMessage :=
  ByteReader.expectEnd readStoreListAck

structure CancelMessage where
  cancelToken : UInt64
deriving DecidableEq, Repr

def encodeCancel (message : CancelMessage) : Bytes :=
  [ByteWriter.u64 message.cancelToken].flatten

def readCancel : ByteReader CancelMessage := do
  let cancelToken ← ByteReader.u64
  return ⟨cancelToken⟩

def decodeCancel : Bytes → Except Status CancelMessage :=
  ByteReader.expectEnd readCancel

structure CancelAckMessage where
  found : Bool
deriving DecidableEq, Repr

def encodeCancelAck (message : CancelAckMessage) : Bytes :=
  [ByteWriter.bool message.found].flatten

def readCancelAck : ByteReader CancelAckMessage := do
  let found ← ByteReader.bool
  return ⟨found⟩

def decodeCancelAck : Bytes → Except Status CancelAckMessage :=
  ByteReader.expectEnd readCancelAck

structure StatsAckMessage where
  incarnation : IncarnationId
  epoch : UInt64
  connectionsAccepted : UInt64
  framesHandled : UInt64
  framesRejected : UInt64
  snapshotsIngested : UInt64
  plansComputed : UInt64
  plansRejected : UInt64
  plansCancelled : UInt64
  activeRequests : UInt64
  storedPlans : UInt64
  fencedFrames : UInt64
deriving DecidableEq, Repr

def encodeStatsAck (message : StatsAckMessage) : Bytes :=
  [message.incarnation.bytes, ByteWriter.u64 message.epoch,
    ByteWriter.u64 message.connectionsAccepted,
    ByteWriter.u64 message.framesHandled,
    ByteWriter.u64 message.framesRejected,
    ByteWriter.u64 message.snapshotsIngested,
    ByteWriter.u64 message.plansComputed,
    ByteWriter.u64 message.plansRejected,
    ByteWriter.u64 message.plansCancelled,
    ByteWriter.u64 message.activeRequests,
    ByteWriter.u64 message.storedPlans,
    ByteWriter.u64 message.fencedFrames].flatten

def readStatsAck : ByteReader StatsAckMessage := do
  let incarnation ← ByteReader.incarnation
  let epoch ← ByteReader.u64
  let connectionsAccepted ← ByteReader.u64
  let framesHandled ← ByteReader.u64
  let framesRejected ← ByteReader.u64
  let snapshotsIngested ← ByteReader.u64
  let plansComputed ← ByteReader.u64
  let plansRejected ← ByteReader.u64
  let plansCancelled ← ByteReader.u64
  let activeRequests ← ByteReader.u64
  let storedPlans ← ByteReader.u64
  let fencedFrames ← ByteReader.u64
  return ⟨incarnation, epoch, connectionsAccepted, framesHandled,
    framesRejected, snapshotsIngested, plansComputed, plansRejected,
    plansCancelled, activeRequests, storedPlans, fencedFrames⟩

def decodeStatsAck : Bytes → Except Status StatsAckMessage :=
  ByteReader.expectEnd readStatsAck

/-- A status on the wire.  The reader accepts any number for the code. -/
structure FailureMessage where
  code : UInt32
  detail : Bytes
deriving DecidableEq, Repr

def encodeFailure (message : FailureMessage) : Bytes :=
  [ByteWriter.u32 message.code, ByteWriter.sized message.detail].flatten

def readFailure : ByteReader FailureMessage := do
  let code ← ByteReader.u32
  let detail ← ByteReader.sized
  return ⟨code, detail⟩

def decodeFailure : Bytes → Except Status FailureMessage :=
  ByteReader.expectEnd readFailure

end OpticalPathPlanner
