import OpticalPathPlanner.FieldCodecs

/-!
# Reading plan artifacts

The reader of the plan format.  Every record sets a part of the plan or
appends to one of its lists; a span use is added to the segment it names.
Records may come in any order behind the header, nothing may follow the
digest, and most records may be absent, which leaves the default of a new
plan.  The plan is accepted when its steps and segments are numbered from
zero without gaps and its seal verifies.
-/

namespace OpticalPathPlanner

def kMaxPlanArtifactBytes : Nat := 8 * 1024 * 1024

/-- The record names of the plan format beside `rule`, whose revision is checked
on its own. -/
inductive PlanKeyword
  | digest
  | request
  | snapshot
  | binding
  | endpoints
  | channel
  | totals
  | step
  | segment
  | segspan
  | reservation
  | capability
  | quality
  | exposure
deriving DecidableEq, Repr

namespace PlanKeyword

def name : PlanKeyword → Bytes
  | digest => text "digest"
  | request => text "request"
  | snapshot => text "snapshot"
  | binding => text "binding"
  | endpoints => text "endpoints"
  | channel => text "channel"
  | totals => text "totals"
  | step => text "step"
  | segment => text "segment"
  | segspan => text "segspan"
  | reservation => text "reservation"
  | capability => text "capability"
  | quality => text "quality"
  | exposure => text "exposure"

def parse : Bytes → Option PlanKeyword :=
  findName [digest, request, snapshot, binding, endpoints, channel, totals,
    step, segment, segspan, reservation, capability, quality, exposure] name

theorem parse_name (keyword : PlanKeyword) :
    parse keyword.name = some keyword := by
  cases keyword <;> decide

end PlanKeyword

def malformed (detail : String) : Status := failure .malformedInput (text detail)

/-- The positional token of a record whose size has been checked. -/
def tokenAt (values : List Bytes) (index : Nat) : Bytes := values[index]?.getD []

def requiredKeyToken (values : List Bytes) (first : Nat) (key : String) :
    Except Status Bytes := do
  decodeToken (← findKeyedField values first key)

/-- A field the grammar requires; its absence makes the record malformed. -/
def requiredRawField (values : List Bytes) (first : Nat) (key : String) :
    Except Status Bytes :=
  match findKeyedField values first key with
  | .ok value => .ok value
  | .error status =>
      if status.code = .notFound then
        .error (failure .malformedInput
          (text "record is missing the '" ++ text key ++ text "' field"))
      else
        .error status

def parseDomainPieces : List Bytes → Except Status (List FailureDomainId)
  | [] => .ok []
  | piece :: rest => do
      let domain ← StrongId.parse .failureDomain piece
      let domains ← parseDomainPieces rest
      return domain :: domains

def parseDomainList (bytes : Bytes) : Except Status (List FailureDomainId) :=
  if bytes.isEmpty then .ok [] else parseDomainPieces (bytes.splitOn 44)

def parseStepKind : Bytes → Option StepKind :=
  findName [.node, .port, .span, .crossConnect] StepKind.name

/-- A port key spelled `node:port`, split at the first colon. -/
def splitPortKey (bytes : Bytes) : Except Status PortKey :=
  match cutAt 58 bytes with
  | none => .error (malformed "port key must be spelled node:port")
  | some (nodeText, portText) => do
      let node ← StrongId.parse .node nodeText
      let port ← StrongId.parse .port portText
      return ⟨node, port⟩

def readBinding (values : List Bytes) : Except Status SourceBinding :=
  if values.length < 2 then .error (malformed "binding takes a source id")
  else do
    let source ← StrongId.parse .source (tokenAt values 1)
    let generation ← parseU64 (← requiredRawField values 2 "gen")
    let contribution ←
      Digest256.fromHex (← requiredKeyToken values 2 "contrib")
    return ⟨source, generation, contribution⟩

def readEndpoints (values : List Bytes) : Except Status (PortKey × PortKey) := do
  let snode ← requiredKeyToken values 1 "snode"
  let sport ← requiredKeyToken values 1 "sport"
  let dnode ← requiredKeyToken values 1 "dnode"
  let dport ← requiredKeyToken values 1 "dport"
  let sourceNode ← StrongId.parse .node snode
  let sourcePort ← StrongId.parse .port sport
  let destinationNode ← StrongId.parse .node dnode
  let destinationPort ← StrongId.parse .port dport
  return (⟨sourceNode, sourcePort⟩, ⟨destinationNode, destinationPort⟩)

def readStep (values : List Bytes) : Except Status PlanStep :=
  if values.length < 2 then .error (malformed "step takes an index")
  else do
    let index ← parseU32 (tokenAt values 1)
    let kindText ← requiredKeyToken values 2 "kind"
    match parseStepKind kindText with
    | none => .error (failure .malformedInput
        (text "step kind '" ++ kindText ++ text "' is not recognised"))
    | some kind =>
        let segment ← parseU32 (← requiredRawField values 2 "seg")
        let reason ← parseU32 (← requiredRawField values 2 "reason")
        let cost ← parseU64 (← requiredRawField values 2 "cost")
        let resource ←
          resourceKeyFromString (← requiredKeyToken values 2 "res")
        return ⟨index.toNat, kind, resource, segment.toNat, reason.toNat, cost⟩

def readReservation (values : List Bytes) : Except Status PlanReservation := do
  let resource ← resourceKeyFromString (← requiredKeyToken values 1 "res")
  let firstSlot ← parseU16 (← requiredRawField values 1 "first")
  let width ← parseU16 (← requiredRawField values 1 "width")
  let segment ← parseU32 (← requiredRawField values 1 "seg")
  return ⟨resource, ⟨firstSlot.toNat, width.toNat⟩, segment.toNat⟩

def readAssumption (values : List Bytes) : Except Status PlanAssumption := do
  let resource ← resourceKeyFromString (← requiredKeyToken values 1 "res")
  let field ← requiredKeyToken values 1 "field"
  let value ← requiredKeyToken values 1 "value"
  return ⟨resource, field, value⟩

def readExposure (values : List Bytes) : Except Status FailureDomainExposure := do
  let domain ←
    StrongId.parse .failureDomain (← requiredKeyToken values 1 "domain")
  let count ← parseU32 (← requiredRawField values 1 "count")
  let limit ← parseU32 (← requiredRawField values 1 "limit")
  return ⟨domain, count.toNat, limit⟩

section Numbers

variable {K : Type} {formatDouble : K → Bytes} (numbers : DoubleText formatDouble)

def readSegment (values : List Bytes) : Except Status (PlanSegment K) :=
  if values.length < 2 then .error (malformed "segment takes an index")
  else do
    let index ← parseU32 (tokenAt values 1)
    let profile ← StrongId.parse .profile (← requiredKeyToken values 2 "profile")
    let runs ← parseU32 (← requiredRawField values 2 "runs")
    let distance ← parseU64 (← requiredRawField values 2 "distance")
    let loss ← numbers.parseDouble (← requiredRawField values 2 "loss")
    let osnr ← numbers.parseDouble (← requiredRawField values 2 "osnr")
    let spans ← parseU32 (← requiredRawField values 2 "spans")
    let ending ← requiredKeyToken values 2 "end"
    if ending = text "regeneration" then
      let resource ← resourceKeyFromString (← requiredKeyToken values 2 "xc")
      return ⟨index.toNat, profile, [], distance, loss, osnr, spans.toNat,
        runs.toNat, true, resource⟩
    else if ending = text "transparent" then
      return ⟨index.toNat, profile, [], distance, loss, osnr, spans.toNat,
        runs.toNat, false, default⟩
    else
      .error (malformed "segment end must be regeneration or transparent")

def readSpanUse (values : List Bytes) : Except Status (PlanSpanUse K) := do
  let id ← StrongId.parse .span (← requiredKeyToken values 2 "id")
  let fromText ← requiredKeyToken values 2 "from"
  let toText ← requiredKeyToken values 2 "to"
  let fromPort ← splitPortKey fromText
  let toPort ← splitPortKey toText
  let reversed ← parseU32 (← requiredRawField values 2 "rev")
  if reversed.toNat > 1 then .error (malformed "rev must be 0 or 1")
  else
    let length ← parseU64 (← requiredRawField values 2 "len")
    let loss ← numbers.parseDouble (← requiredRawField values 2 "loss")
    let osnr ← numbers.parseDouble (← requiredRawField values 2 "osnr")
    let cost ← parseU64 (← requiredRawField values 2 "cost")
    let slot ← parseU16 (← requiredRawField values 2 "slot")
    let domains ←
      match findKeyedField values 2 "domains" with
      | .ok list => parseDomainList list
      -- A repeated list is passed over like an absent one.
      | .error _ => .ok []
    return ⟨id, fromPort, toPort, reversed.toNat == 1, length, loss, osnr, cost,
      slot.toNat, domains⟩

structure PlanReader (K : Type) where
  plan : PlanArtifact K
  headerSeen : Bool := false
  digestSeen : Bool := false

variable [Zero K]

/-- A plan that no record was read into. -/
def PlanArtifact.blank : PlanArtifact K where
  formatVersion := 1
  ruleVersion := 1
  requestId := default
  requestDigest := default
  snapshotId := default
  snapshotGeneration := 0
  snapshotDigest := default
  boundSources := []
  source := default
  destination := default
  steps := []
  segments := []
  reservations := []
  capabilityAssumptions := []
  qualityAssumptions := []
  failureDomainExposure := []
  channelWidthSlots := 1
  totalCost := 0
  totalDistanceM := 0
  totalLossDb := 0
  hops := 0
  regenerations := 0
  digest := default

def PlanReader.initial : PlanReader K where
  plan := .blank

omit [Zero K]

def readPlanHeader (reader : PlanReader K) (number : Nat) (values : List Bytes) :
    Except Status (PlanReader K) :=
  if values.length ≠ 2 ∨ values[0]? ≠ some (text "OPP-PLAN") then
    .error (malformed "plan must start with the OPP-PLAN magic line")
  else do
    let version ← failAtLine number (parseU32 (tokenAt values 1))
    if version.toNat ≠ kPlanFormatVersion then
      .error (failure .unsupported (text "plan format revision " ++
        tokenAt values 1 ++ text " is not supported by this runtime"))
    else
      return { reader with
        plan := { reader.plan with formatVersion := version.toNat }
        headerSeen := true }

/-- The rule revision is refused outside the numbered failures. -/
def readRule (plan : PlanArtifact K) (number : Nat) (values : List Bytes) :
    Except Status (PlanArtifact K) := do
  let version ← failAtLine number <|
    if values.length ≠ 2 then .error (malformed "rule takes one value")
    else parseU32 (tokenAt values 1)
  if version.toNat ≠ kPlanningRuleVersion then
    .error (failure .unsupported
      (text "plan was produced by planning rule revision " ++ tokenAt values 1 ++
        text ", which this runtime does not reproduce"))
  else
    return { plan with ruleVersion := version.toNat }

/-- Add a span use to a segment that has been read. -/
def addSpanUse (plan : PlanArtifact K) (index : Nat) (use : PlanSpanUse K) :
    PlanArtifact K :=
  { plan with
    segments := plan.segments.modify index fun segment =>
      { segment with spans := segment.spans ++ [use] } }

/-- What a record does to the plan. -/
def readPlanField (plan : PlanArtifact K) (keyword : PlanKeyword)
    (values : List Bytes) : Except Status (PlanArtifact K) :=
  match keyword with
  | .digest =>
      if values.length ≠ 2 then .error (malformed "digest takes one value")
      else do
        let digest ← Digest256.fromHex (tokenAt values 1)
        return { plan with digest := digest }
  | .request =>
      if values.length ≠ 3 then
        .error (malformed "request takes an id and a digest")
      else do
        let id ← StrongId.parse .request (tokenAt values 1)
        let digest ← Digest256.fromHex (tokenAt values 2)
        return { plan with requestId := id, requestDigest := digest }
  | .snapshot =>
      if values.length ≠ 4 then
        .error (malformed "snapshot takes an id, a generation and a digest")
      else do
        let id ← StrongId.parse .snapshot (tokenAt values 1)
        let generation ← parseU64 (tokenAt values 2)
        let digest ← Digest256.fromHex (tokenAt values 3)
        return { plan with
          snapshotId := id
          snapshotGeneration := generation
          snapshotDigest := digest }
  | .binding => do
      let binding ← readBinding values
      return { plan with boundSources := plan.boundSources ++ [binding] }
  | .endpoints => do
      let ends ← readEndpoints values
      return { plan with source := ends.1, destination := ends.2 }
  | .channel => do
      let width ← parseU16 (← requiredRawField values 1 "width")
      return { plan with channelWidthSlots := width.toNat }
  | .totals => do
      let cost ← parseU64 (← requiredRawField values 1 "cost")
      let distance ← parseU64 (← requiredRawField values 1 "distance")
      let loss ← numbers.parseDouble (← requiredRawField values 1 "loss")
      let hops ← parseU32 (← requiredRawField values 1 "hops")
      let regen ← parseU32 (← requiredRawField values 1 "regen")
      return { plan with
        totalCost := cost
        totalDistanceM := distance
        totalLossDb := loss
        hops := hops.toNat
        regenerations := regen.toNat }
  | .step => do
      let step ← readStep values
      return { plan with steps := plan.steps ++ [step] }
  | .segment => do
      let segment ← readSegment numbers values
      return { plan with segments := plan.segments ++ [segment] }
  | .segspan =>
      if values.length < 2 then
        .error (malformed "segspan takes a segment index")
      else do
        let index ← parseU32 (tokenAt values 1)
        if index.toNat ≥ plan.segments.length then
          .error (malformed "segspan appears before its segment record")
        else
          let use ← readSpanUse numbers values
          return addSpanUse plan index.toNat use
  | .reservation => do
      let reservation ← readReservation values
      return { plan with reservations := plan.reservations ++ [reservation] }
  | .capability => do
      let assumption ← readAssumption values
      return { plan with
        capabilityAssumptions := plan.capabilityAssumptions ++ [assumption] }
  | .quality => do
      let assumption ← readAssumption values
      return { plan with
        qualityAssumptions := plan.qualityAssumptions ++ [assumption] }
  | .exposure => do
      let exposure ← readExposure values
      return { plan with
        failureDomainExposure := plan.failureDomainExposure ++ [exposure] }

def readPlanRecord (reader : PlanReader K) (number : Nat) (values : List Bytes) :
    Except Status (PlanReader K) :=
  if reader.headerSeen = false then readPlanHeader reader number values
  else if reader.digestSeen then
    .error (malformed "plan content appears after the digest line")
  else if tokenAt values 0 = text "rule" then do
    let plan ← readRule reader.plan number values
    return { reader with plan := plan }
  else
    match PlanKeyword.parse (tokenAt values 0) with
    | none => failAtLine number (.error (failure .malformedInput
        (text "unknown plan record '" ++ tokenAt values 0 ++ text "'")))
    | some keyword => do
        let plan ← failAtLine number
          (readPlanField numbers reader.plan keyword values)
        return { reader with
          plan := plan
          digestSeen := keyword == .digest }

end Numbers

section Parser

variable {K : Type} [Field K] [LinearOrder K] (runtime : Runtime K)
  (numbers : DoubleText runtime.formatDouble)

def PlanArtifact.verifySeal (plan : PlanArtifact K) : Status :=
  if runtime.computePlanDigest plan ≠ plan.digest then
    failure .integrityFailure (text "plan digest does not match its content")
  else
    okStatus

/-- The checks behind the last record. -/
def acceptPlan (reader : PlanReader K) : Except Status (PlanArtifact K) :=
  let plan := reader.plan
  if reader.headerSeen = false then .error (malformed "plan is empty")
  else if reader.digestSeen = false then
    .error (malformed "plan is missing its digest line")
  else if plan.steps = [] then .error (malformed "plan declares no steps")
  else if plan.segments = [] then
    .error (malformed "plan declares no transparent segment")
  else if plan.steps.map PlanStep.index ≠ List.range plan.steps.length then
    .error (malformed "plan step indices must be dense and ordered from zero")
  else if plan.segments.map PlanSegment.index ≠
      List.range plan.segments.length then
    .error (malformed
      "plan segment indices must be dense and ordered from zero")
  else if (plan.verifySeal runtime).failed then
    .error (plan.verifySeal runtime)
  else
    .ok plan

def parsePlanArtifact (bytes : Bytes) : Except Status (PlanArtifact K) :=
  if bytes.length > kMaxPlanArtifactBytes then
    .error (failure .limitExceeded
      (text "plan artifact exceeds the permitted maximum size"))
  else
    readRecords (readPlanRecord numbers) .initial bytes >>= acceptPlan runtime

variable {runtime}

/-- What the last checks ask of a plan. -/
structure PlanArtifact.Complete (runtime : Runtime K) (plan : PlanArtifact K) :
    Prop where
  steps : plan.steps ≠ []
  segments : plan.segments ≠ []
  stepIndices : plan.steps.map PlanStep.index = List.range plan.steps.length
  segmentIndices :
    plan.segments.map PlanSegment.index = List.range plan.segments.length
  sealed_ : runtime.computePlanDigest plan = plan.digest

theorem verifySeal_failed_iff {plan : PlanArtifact K} :
    (plan.verifySeal runtime).failed = false ↔
      runtime.computePlanDigest plan = plan.digest := by
  unfold PlanArtifact.verifySeal
  split_ifs with broken
  · simp [Status.failed, failure, broken]
  · simp [Status.failed, okStatus, not_not.mp broken]

theorem acceptPlan_eq_ok_iff {reader : PlanReader K} {plan : PlanArtifact K} :
    acceptPlan runtime reader = .ok plan ↔
      reader.plan = plan ∧ reader.headerSeen = true ∧ reader.digestSeen = true ∧
        plan.Complete runtime := by
  unfold acceptPlan
  constructor
  · intro accepted
    simp only at accepted
    split_ifs at accepted with header digest steps segments stepIndices
      segmentIndices seal_
    cases accepted
    exact ⟨rfl, by simpa using header, by simpa using digest, steps, segments,
      not_not.mp stepIndices, not_not.mp segmentIndices,
      verifySeal_failed_iff.mp (by simpa using seal_)⟩
  · rintro ⟨rfl, header, digest, complete⟩
    have seal_ := verifySeal_failed_iff.mpr complete.sealed_
    simp [header, digest, complete.steps, complete.segments,
      complete.stepIndices, complete.segmentIndices, seal_]

end Parser

end OpticalPathPlanner
