import OpticalPathPlanner.PlanCodec
import OpticalPathPlanner.SnapshotBuilder

/-!
# Reading snapshots

The reader of the snapshot format works in two passes.  The first reads the
fields of the snapshot itself, each at most once, and keeps the records for
later.  The second turns every record into one call of a builder, whose
`Build` seals the result.  Identifiers and names are taken from the tokens as
they stand, without undoing escapes.
-/

namespace OpticalPathPlanner

def kMaxSnapshotTextBytes : Nat := 64 * 1024 * 1024
def kSnapshotFormatVersion : Nat := 1

/-- The records that are handed to the builder. -/
inductive RecordKind
  | source
  | profile
  | node
  | port
  | span
  | crossConnect
deriving DecidableEq, Repr

namespace RecordKind

def name : RecordKind → Bytes
  | source => text "source"
  | profile => text "profile"
  | node => text "node"
  | port => text "port"
  | span => text "span"
  | crossConnect => text "xc"

def parse : Bytes → Option RecordKind :=
  findName [source, profile, node, port, span, crossConnect] name

theorem parse_name (kind : RecordKind) : parse kind.name = some kind := by
  cases kind <;> decide

end RecordKind

/-- The record names of the snapshot format. -/
inductive SnapshotKeyword
  | id
  | generation
  | grid
  | slots
  | record (kind : RecordKind)
deriving DecidableEq, Repr

namespace SnapshotKeyword

def name : SnapshotKeyword → Bytes
  | id => text "id"
  | generation => text "generation"
  | grid => text "grid"
  | slots => text "slots"
  | record kind => kind.name

def parse : Bytes → Option SnapshotKeyword :=
  findName [id, generation, grid, slots, record .source, record .profile,
    record .node, record .port, record .span, record .crossConnect] name

theorem parse_name (keyword : SnapshotKeyword) :
    parse keyword.name = some keyword := by
  cases keyword with
  | record kind => cases kind <;> decide
  | _ => decide

end SnapshotKeyword

/-! ### Fields of records -/

/-- Read the pieces of a list behind the domains already read. -/
def collectDomains (domains : List FailureDomainId) :
    List Bytes → Except Status (List FailureDomainId)
  | [] => .ok domains
  | piece :: rest =>
      match StrongId.parse .failureDomain piece with
      | .error _ => .error (malformed
          "failure domain list contains an invalid identifier")
      | .ok domain =>
          if (domains ++ [domain]).length > kMaxDomainsPerResource then
            .error (failure .limitExceeded
              (text "failure domain list exceeds the supported length"))
          else
            collectDomains (domains ++ [domain]) rest

def parseDomains (bytes : Bytes) : Except Status (List FailureDomainId) :=
  if bytes.isEmpty then .ok [] else collectDomains [] (bytes.splitOn 44)

/-- The optional list of failure domains.  A lookup that fails, also because
the list is repeated, leaves the record without any. -/
def readDomains (values : List Bytes) (first : Nat) :
    Except Status (List FailureDomainId) :=
  match findKeyedField values first "domains" with
  | .ok list => parseDomains list
  | .error _ => .ok []

def readAdminState (token : Bytes) : Except Status AdminState :=
  match parseAdminState token with
  | some state => .ok state
  | none => .error (failure .malformedInput
      (text "administrative state token '" ++ token ++
        text "' is not recognised"))

def readProfileId (token : Bytes) : Except Status (Option ProfileId) :=
  if token = text "-" then .ok none
  else some <$> StrongId.parse .profile token

def readCoverage (detail : String) (token : Bytes) : Except Status Coverage :=
  if token = text "partial" then .ok .partialCoverage
  else if token = text "complete" then .ok .complete
  else .error (malformed detail)

/-- The four tokens that name the ends of an arc. -/
def readEnds (values : List Bytes) : Except Status (PortKey × PortKey) := do
  let fromNode ← StrongId.parse .node (tokenAt values 2)
  let fromPort ← StrongId.parse .port (tokenAt values 3)
  let toNode ← StrongId.parse .node (tokenAt values 4)
  let toPort ← StrongId.parse .port (tokenAt values 5)
  return (⟨fromNode, fromPort⟩, ⟨toNode, toPort⟩)

/-- The source and the generation of a record. -/
def readOrigin (values : List Bytes) (first : Nat) :
    Except Status (SourceId × Generation) := do
  let source ← StrongId.parse .source (← requiredRawField values first "src")
  let generation ← parseU64 (← requiredRawField values first "gen")
  return (source, generation)

/-! ### Records -/

def readSource (values : List Bytes) : Except Status SourceRecord :=
  if values.length ≠ 4 then
    .error (malformed "source takes id, generation, coverage")
  else do
    let id ← StrongId.parse .source (tokenAt values 1)
    let generation ← parseU64 (tokenAt values 2)
    let coverage ← readCoverage "source coverage must be complete or partial"
      (tokenAt values 3)
    return { id := id, generation := generation, coverage := coverage }

def readNode (values : List Bytes) : Except Status NodeRecord :=
  if values.length < 5 then
    .error (malformed "node takes id, kind, coverage, admin")
  else do
    let id ← StrongId.parse .node (tokenAt values 1)
    match parseNodeKind (tokenAt values 2) with
    | none => .error (failure .unsupported
        (text "node kind '" ++ tokenAt values 2 ++ text "' is not modelled"))
    | some kind =>
        let coverage ← readCoverage "node coverage must be complete or partial"
          (tokenAt values 3)
        let admin ← parseEvidence readAdminState
          (← requiredRawField values 4 "admin")
        -- The lookups from here on begin behind the first keyed token.
        let transitCost ← parseU64 (← requiredRawField values 5 "cost")
        let origin ← readOrigin values 5
        let failureDomains ← readDomains values 5
        return {
          id := id
          kind := kind
          failureDomains := failureDomains
          transitCost := transitCost
          coverage := coverage
          admin := admin
          source := origin.1
          generation := origin.2 }

def readPort (values : List Bytes) : Except Status PortRecord :=
  if values.length < 4 then .error (malformed "port takes node, port, role")
  else do
    let node ← StrongId.parse .node (tokenAt values 1)
    let port ← StrongId.parse .port (tokenAt values 2)
    match parsePortRole (tokenAt values 3) with
    | none => .error (failure .malformedInput
        (text "port role '" ++ tokenAt values 3 ++ text "' is not recognised"))
    | some role =>
        let admin ← parseEvidence readAdminState
          (← requiredRawField values 4 "admin")
        let transmitProfile ← parseEvidence readProfileId
          (← requiredRawField values 4 "tx")
        let blockedSlots ← parseEvidence SlotMask.fromHex
          (← requiredRawField values 4 "slots")
        let transitCost ← parseU64 (← requiredRawField values 4 "cost")
        let origin ← readOrigin values 4
        let failureDomains ← readDomains values 4
        return {
          key := ⟨node, port⟩
          role := role
          transmitProfile := transmitProfile
          blockedSlots := blockedSlots
          failureDomains := failureDomains
          transitCost := transitCost
          admin := admin
          source := origin.1
          generation := origin.2 }

def readCrossConnect (values : List Bytes) : Except Status CrossConnectRecord :=
  if values.length < 7 then
    .error (malformed "xc takes id, two endpoints and an operation")
  else do
    let id ← StrongId.parse .crossConnect (tokenAt values 1)
    let ends ← readEnds values
    match parseCrossConnectOp (tokenAt values 6) with
    | none => .error (failure .unsupported
        (text "cross-connect operation '" ++ tokenAt values 6 ++
          text "' is not modelled"))
    | some op =>
        let blockedSlots ← parseEvidence SlotMask.fromHex
          (← requiredRawField values 7 "slots")
        let admin ← parseEvidence readAdminState
          (← requiredRawField values 7 "admin")
        let cost ← parseU64 (← requiredRawField values 7 "cost")
        let origin ← readOrigin values 7
        let failureDomains ← readDomains values 7
        return {
          id := id
          fromPort := ends.1
          toPort := ends.2
          op := op
          blockedSlots := blockedSlots
          failureDomains := failureDomains
          cost := cost
          admin := admin
          source := origin.1
          generation := origin.2 }

section Numbers

variable {K : Type} {formatDouble : K → Bytes} (numbers : DoubleText formatDouble)

def readProfile (values : List Bytes) : Except Status (ReachProfile K) :=
  if values.length < 2 then .error (malformed "profile takes an identifier")
  else do
    let id ← StrongId.parse .profile (tokenAt values 1)
    let maxDistanceM ← parseEvidence parseU64
      (← requiredRawField values 2 "dist")
    let maxSpanCount ← parseEvidence parseU32
      (← requiredRawField values 2 "spans")
    let maxLossDb ← parseEvidence numbers.parseDouble
      (← requiredRawField values 2 "loss")
    let minOsnrDb ← parseEvidence numbers.parseDouble
      (← requiredRawField values 2 "osnr")
    let origin ← readOrigin values 2
    return {
      id := id
      maxDistanceM := maxDistanceM
      maxSpanCount := maxSpanCount
      maxLossDb := maxLossDb
      minOsnrDb := minOsnrDb
      source := origin.1
      generation := origin.2 }

def readDirection (token : Bytes) : Except Status Bool :=
  if token = text "bidir" then .ok true
  else if token = text "single" then .ok false
  else .error (malformed "span direction must be bidir or single")

def readSpan (values : List Bytes) : Except Status (SpanRecord K) :=
  if values.length < 7 then
    .error (malformed "span takes id, two endpoints and a direction")
  else do
    let id ← StrongId.parse .span (tokenAt values 1)
    let ends ← readEnds values
    let bidirectional ← readDirection (tokenAt values 6)
    let lengthM ← parseEvidence parseU64 (← requiredRawField values 7 "len")
    let lossDb ← parseEvidence numbers.parseDouble
      (← requiredRawField values 7 "loss")
    let osnrDb ← parseEvidence numbers.parseDouble
      (← requiredRawField values 7 "osnr")
    let blockedSlots ← parseEvidence SlotMask.fromHex
      (← requiredRawField values 7 "slots")
    let admin ← parseEvidence readAdminState
      (← requiredRawField values 7 "admin")
    let cost ← parseU64 (← requiredRawField values 7 "cost")
    let origin ← readOrigin values 7
    let failureDomains ← readDomains values 7
    return {
      id := id
      fromPort := ends.1
      toPort := ends.2
      bidirectional := bidirectional
      lengthM := lengthM
      lossDb := lossDb
      osnrDb := osnrDb
      blockedSlots := blockedSlots
      failureDomains := failureDomains
      cost := cost
      admin := admin
      source := origin.1
      generation := origin.2 }

/-- The call of the builder that a record stands for. -/
def readSubmission (values : List Bytes) : Except Status (Submission K) :=
  match RecordKind.parse (tokenAt values 0) with
  | some .source => .source <$> readSource values
  | some .profile => .reachProfile <$> readProfile numbers values
  | some .node => .node <$> readNode values
  | some .port => .port <$> readPort values
  | some .span => .span <$> readSpan numbers values
  | some .crossConnect | none => .crossConnect <$> readCrossConnect values

end Numbers

/-! ### The first pass -/

structure SnapshotReader where
  headerSeen : Bool := false
  id : Option SnapshotId := none
  generation : Option Generation := none
  grid : Option GridKind := none
  slots : Option UInt16 := none
  records : List (List Bytes) := []
deriving DecidableEq

def readSnapshotHeader (reader : SnapshotReader) (values : List Bytes) :
    Except Status SnapshotReader :=
  if values.length ≠ 2 ∨ values[0]? ≠ some (text "OPP-SNAPSHOT") then
    .error (malformed "snapshot must start with the OPP-SNAPSHOT magic line")
  else do
    let version ← parseU32 (tokenAt values 1)
    if version.toNat ≠ kSnapshotFormatVersion then
      .error (failure .unsupported (text "snapshot format revision " ++
        tokenAt values 1 ++ text " is not supported by this runtime"))
    else
      return { reader with headerSeen := true }

/-- The value of a field that was not seen before. -/
def onlyValue {α : Type} (values : List Bytes) (seen : Option α)
    (record what : String) : Except Status Bytes :=
  if values.length ≠ 2 then
    .error (failure .malformedInput
      (text record ++ text " record takes exactly one argument"))
  else if seen.isSome then
    .error (failure .malformedInput
      (text what ++ text " is declared more than once"))
  else
    .ok (tokenAt values 1)

def kMaxSnapshotRecords : Nat :=
  kMaxNodes + kMaxPorts + kMaxSpans + kMaxCrossConnects + kMaxReachProfiles +
    kMaxSources

def readSnapshotLine (reader : SnapshotReader) (number : Nat)
    (values : List Bytes) : Except Status SnapshotReader :=
  if reader.headerSeen = false then readSnapshotHeader reader values
  else
    match SnapshotKeyword.parse (tokenAt values 0) with
    | some .id => do
        let id ← StrongId.parse .snapshot
          (← onlyValue values reader.id "id" "snapshot id")
        return { reader with id := some id }
    | some .generation => do
        let generation ← parseU64
          (← onlyValue values reader.generation "generation" "generation")
        return { reader with generation := some generation }
    | some .grid => do
        let token ← onlyValue values reader.grid "grid" "grid"
        match parseGridKind token with
        | some grid => return { reader with grid := some grid }
        | none => .error (failure .unsupported (text "grid '" ++ token ++
            text "' is not modelled by this runtime"))
    | some .slots => do
        let slots ← parseU16
          (← onlyValue values reader.slots "slots" "slot count")
        return { reader with slots := some slots }
    | some (.record _) =>
        if (reader.records ++ [values]).length > kMaxSnapshotRecords then
          .error (failure .limitExceeded
            (text "snapshot declares more records than the supported maximum"))
        else
          .ok { reader with records := reader.records ++ [values] }
    | none => .error (failure .malformedInput (text "line " ++ formatU64 number ++
        text ": unknown record '" ++ tokenAt values 0 ++ text "'"))

/-! ### The second pass -/

/-- A status found in a numbered record. -/
def failAtRecord {α : Type} (number : Nat) : Except Status α → Except Status α
  | .ok value => .ok value
  | .error status =>
      .error (failure (normaliseDecodeStatus status).code
        (text "record " ++ formatU64 number ++ text ": " ++
          (normaliseDecodeStatus status).detail))

section Building

variable {K : Type} {formatDouble : K → Bytes} (numbers : DoubleText formatDouble)

/-- The builder after a call that it must not refuse. -/
def SnapshotBuilder.accept (builder : SnapshotBuilder K) (call : Submission K) :
    Except Status (SnapshotBuilder K) :=
  if (builder.submit call).1.failed then .error (builder.submit call).1
  else .ok (builder.submit call).2

def addRecord (builder : SnapshotBuilder K) (entry : List Bytes × Nat) :
    Except Status (SnapshotBuilder K) :=
  failAtRecord entry.2 do
    let call ← readSubmission numbers entry.1
    builder.accept call

/-- The builder that the records are added to. -/
def SnapshotReader.open_ (reader : SnapshotReader) :
    Except Status (SnapshotBuilder K) :=
  if reader.headerSeen = false then .error (malformed "snapshot is empty")
  else
    match reader.id, reader.grid, reader.slots with
    | none, _, _ => .error (malformed "snapshot id is missing")
    | _, none, _ => .error (malformed "spectrum grid is missing")
    | _, _, none => .error (malformed "spectrum slot count is missing")
    | some id, some grid, some slots =>
        .ok (.new id (reader.generation.getD 0) ⟨grid, slots.toNat⟩ {})

variable [Field K] [LinearOrder K]

def parseSnapshotText {runtime : Runtime K}
    (numbers : DoubleText runtime.formatDouble) (content : Bytes) :
    Except Status (TopologySnapshot K) :=
  if content.length > kMaxSnapshotTextBytes then
    .error (failure .limitExceeded
      (text "snapshot text exceeds the permitted maximum size"))
  else do
    let reader ← readRecords readSnapshotLine {} content
    let opened ← reader.open_
    let builder ← (reader.records.zipIdx 1).foldlM (addRecord numbers) opened
    builder.build runtime

end Building

end OpticalPathPlanner
