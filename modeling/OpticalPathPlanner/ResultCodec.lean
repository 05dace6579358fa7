import OpticalPathPlanner.AcceptedPlans

/-!
# Reading results

The reader of the result format.  A result is read record by record, but the
artifact of a candidate is collected line by line until its closing line and
then read as a plan of its own.  The digest of a candidate is announced by the
record in front of its artifact, and the whole result is accepted when sealing
it again gives the digest it declares.
-/

namespace OpticalPathPlanner

def parsePlanOutcome : Bytes → Option PlanOutcome :=
  findName [.feasible, .infeasible, .indeterminate, .unsupported, .cancelled,
    .refused] PlanOutcome.name

def parseStatusCode : Bytes → Option StatusCode :=
  findName [.ok, .invalidArgument, .malformedInput, .limitExceeded,
    .duplicateIdentity, .notFound, .conflictingEvidence, .unsupported, .stale,
    .fenced, .cancelled, .truncated, .integrityFailure, .ioFailure, .refused,
    .exhausted, .overflow, .internal] StatusCode.name

def findCutReasonByName : Bytes → Option CutReason :=
  findName CutReason.all CutReason.name

theorem parsePlanOutcome_name (outcome : PlanOutcome) :
    parsePlanOutcome outcome.name = some outcome := by
  cases outcome <;> decide

theorem parseStatusCode_name (code : StatusCode) :
    parseStatusCode code.name = some code := by
  cases code <;> decide

theorem findCutReasonByName_name (reason : CutReason) :
    findCutReasonByName reason.name = some reason := by
  cases reason <;> decide

/-- The record names of the result format beside the line that opens an
artifact. -/
inductive ResultKeyword
  | outcome
  | status
  | requestDigest
  | snapshotDigest
  | limitations
  | optimality
  | statistics
  | witness
  | cut
  | candidate
  | digest
deriving DecidableEq, Repr

namespace ResultKeyword

def name : ResultKeyword → Bytes
  | outcome => text "outcome"
  | status => text "status"
  | requestDigest => text "request-digest"
  | snapshotDigest => text "snapshot-digest"
  | limitations => text "limitations"
  | optimality => text "optimality"
  | statistics => text "statistics"
  | witness => text "witness"
  | cut => text "cut"
  | candidate => text "candidate"
  | digest => text "digest"

def parse : Bytes → Option ResultKeyword :=
  findName [outcome, status, requestDigest, snapshotDigest, limitations,
    optimality, statistics, witness, cut, candidate, digest] name

theorem parse_name (keyword : ResultKeyword) :
    parse keyword.name = some keyword := by
  cases keyword <;> decide

end ResultKeyword

section Records

variable {K : Type}

/-- A result that no record was read into. -/
def PlanningResult.blank : PlanningResult K where
  outcome := .refused
  status := okStatus
  requestDigest := default
  snapshotDigest := default
  candidates := []
  witnesses := []
  limitations := 0
  cuts := []
  statistics := {}
  optimalityProven := false
  resultDigest := default

structure ResultReader (K : Type) where
  result : PlanningResult K
  headerSeen : Bool := false
  digestSeen : Bool := false
  inCandidate : Bool := false
  candidateBuffer : Bytes := []
  expectedDigests : List Digest256 := []

def ResultReader.initial : ResultReader K where
  result := .blank

def readStatus (status : Status) (values : List Bytes) : Except Status Status :=
  if values.length < 2 then .error (malformed "status takes a code")
  else
    match parseStatusCode (tokenAt values 1) with
    | none => .error (malformed "status code is not recognised")
    | some code =>
        match findKeyedField values 2 "detail" with
        | .ok raw => do
            let detail ← decodeToken raw
            return ⟨code, detail⟩
        | .error _ => .ok { status with code := code }

def readStatistic (values : List Bytes) (key : String) : Except Status Nat := do
  let value ← parseU64 (← findKeyedField values 1 key)
  return value.toNat

def readStatistics (values : List Bytes) : Except Status PlanningStatistics := do
  let labelsCreated ← readStatistic values "labels_created"
  let labelsExpanded ← readStatistic values "labels_expanded"
  let labelsDominated ← readStatistic values "labels_dominated"
  let peakFrontier ← readStatistic values "peak_frontier"
  let arcsExamined ← readStatistic values "arcs_examined"
  let statesVisited ← readStatistic values "states_visited"
  let truncated ← readStatistic values "truncated"
  return ⟨labelsCreated, labelsExpanded, labelsDominated, peakFrontier,
    arcsExamined, statesVisited, truncated != 0⟩

def readWitness (values : List Bytes) : Except Status Witness :=
  if values.length < 2 then .error (malformed "witness takes a reason")
  else
    match findCutReasonByName (tokenAt values 1) with
    | none => .error (malformed "witness reason is not recognised")
    | some reason => do
        let resource ←
          resourceKeyFromString (← requiredKeyToken values 2 "res")
        match findKeyedField values 2 "detail" with
        | .ok raw => do
            let detail ← decodeToken raw
            return ⟨reason, resource, detail⟩
        | .error _ => .ok ⟨reason, resource, []⟩

def readCut (values : List Bytes) : Except Status CutCount :=
  if values.length ≠ 3 then
    .error (malformed "cut takes a reason and a count")
  else
    match findCutReasonByName (tokenAt values 1) with
    | none => .error (malformed "cut reason is not recognised")
    | some reason => do
        let count ← parseU64 (tokenAt values 2)
        return ⟨reason, count.toNat⟩

def readDigestRecord (what : String) (values : List Bytes) :
    Except Status Digest256 :=
  if values.length ≠ 2 then .error (malformed what)
  else Digest256.fromHex (tokenAt values 1)

/-- What a record does to the reader. -/
def readResultField (reader : ResultReader K) (keyword : ResultKeyword)
    (values : List Bytes) : Except Status (ResultReader K) :=
  let result := reader.result
  match keyword with
  | .outcome =>
      if values.length ≠ 2 then .error (malformed "outcome takes one value")
      else
        match parsePlanOutcome (tokenAt values 1) with
        | none => .error (malformed "outcome value is not recognised")
        | some outcome =>
            .ok { reader with result := { result with outcome := outcome } }
  | .status => do
      let status ← readStatus result.status values
      return { reader with result := { result with status := status } }
  | .requestDigest => do
      let digest ← readDigestRecord "digest record takes one value" values
      return { reader with result := { result with requestDigest := digest } }
  | .snapshotDigest => do
      let digest ← readDigestRecord "digest record takes one value" values
      return { reader with result := { result with snapshotDigest := digest } }
  | .limitations =>
      if values.length < 2 then .error (malformed "limitations takes a mask")
      else do
        let mask ← parseU32 (tokenAt values 1)
        return { reader with result := { result with limitations := mask.toNat } }
  | .optimality =>
      if values.length ≠ 2 then .error (malformed "optimality takes one value")
      else if tokenAt values 1 = text "proven" then
        .ok { reader with result := { result with optimalityProven := true } }
      else if tokenAt values 1 = text "not_proven" then
        .ok { reader with result := { result with optimalityProven := false } }
      else
        .error (malformed "optimality value is not recognised")
  | .statistics => do
      let statistics ← readStatistics values
      return { reader with result := { result with statistics := statistics } }
  | .witness => do
      let witness ← readWitness values
      return { reader with
        result := { result with witnesses := result.witnesses ++ [witness] } }
  | .cut => do
      let cut ← readCut values
      return { reader with result := { result with cuts := result.cuts ++ [cut] } }
  | .candidate => do
      let digest ← readDigestRecord "candidate takes a digest" values
      return { reader with expectedDigests := reader.expectedDigests ++ [digest] }
  | .digest => do
      let digest ← readDigestRecord "digest takes one value" values
      return { reader with
        result := { result with resultDigest := digest }
        digestSeen := true }

def readResultRecord (reader : ResultReader K) (number : Nat)
    (values : List Bytes) : Except Status (ResultReader K) :=
  if reader.headerSeen = false then
    if values.length ≠ 2 ∨ values[0]? ≠ some (text "OPP-RESULT") then
      .error (malformed "result must start with the OPP-RESULT magic line")
    else
      .ok { reader with headerSeen := true }
  else if reader.digestSeen then
    .error (malformed "result content appears after the digest line")
  else if tokenAt values 0 = text "candidate-plan-begin" then
    .ok { reader with inCandidate := true, candidateBuffer := [] }
  else
    failAtLine number <|
      match ResultKeyword.parse (tokenAt values 0) with
      | none => .error (failure .malformedInput
          (text "unknown result record '" ++ tokenAt values 0 ++ text "'"))
      | some keyword => readResultField reader keyword values

end Records

section Parser

variable {K : Type} [Field K] [LinearOrder K] (runtime : Runtime K)
  (numbers : DoubleText runtime.formatDouble)

/-- The line that closes an artifact: what was collected is read as a plan. -/
def closeCandidate (reader : ResultReader K) : Except Status (ResultReader K) :=
  match parsePlanArtifact runtime numbers reader.candidateBuffer with
  | .error status => .error
      (failure status.code (text "candidate plan: " ++ status.detail))
  | .ok plan =>
      if reader.expectedDigests.getLast?.any (fun digest => plan.digest ≠ digest)
      then
        .error (failure .integrityFailure
          (text "candidate plan digest disagrees with its index record"))
      else
        .ok { reader with
          result := { reader.result with
            candidates := reader.result.candidates ++ [plan] }
          inCandidate := false
          candidateBuffer := [] }

def readResultLine (reader : ResultReader K) (numbered : Bytes × Nat) :
    Except Status (ResultReader K) :=
  let line := stripCarriage numbered.1
  if reader.inCandidate then
    if line = text "candidate-plan-end" then
      closeCandidate runtime numbers reader
    else
      let buffer := reader.candidateBuffer ++ (line ++ [10])
      if buffer.length > kMaxPlanArtifactBytes then
        .error (failure .limitExceeded
          (text "candidate plan exceeds the permitted maximum size"))
      else
        .ok { reader with candidateBuffer := buffer }
  else
    readLine readResultRecord reader numbered

/-- The checks behind the last line. -/
def acceptResult (reader : ResultReader K) : Except Status (PlanningResult K) :=
  if reader.headerSeen = false then .error (malformed "result is empty")
  else if reader.digestSeen = false then
    .error (malformed "result is missing its digest line")
  else if reader.inCandidate then
    .error (malformed "result ends inside a candidate plan")
  else if (runtime.sealResult reader.result).resultDigest ≠
      reader.result.resultDigest then
    .error (failure .integrityFailure
      (text "result digest does not match its content"))
  else
    .ok reader.result

def parseResultText (bytes : Bytes) : Except Status (PlanningResult K) :=
  ((textLines bytes).zipIdx 1).foldlM (readResultLine runtime numbers) .initial >>=
    acceptResult runtime

end Parser

end OpticalPathPlanner
