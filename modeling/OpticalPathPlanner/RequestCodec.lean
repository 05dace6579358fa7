import OpticalPathPlanner.FieldCodecs

/-!
# Reading requests

The reader of the request format.  A record is dispatched on its keyword and
sets one field of the request, or appends one entry to a list; an ordered map
keeps one entry per key.
-/

namespace OpticalPathPlanner

/-- The record names of the request format. -/
inductive RequestKeyword
  | id
  | source
  | destination
  | width
  | candidates
  | regenerations
  | hops
  | searchExpansions
  | searchLabels
  | maxDistance
  | maxSpans
  | cost
  | snapshotGeneration
  | snapshotDigest
  | disjointness
  | srcgen
  | excludeNode
  | excludeSpan
  | excludeCrossConnect
  | excludeDomain
  | excludePort
  | domainLimit
  | maxLoss
  | minOsnr
  | acceptRestoredEvidence
  | allowRegeneration
  | allowConversion
  | requireSpectrumContinuity
  | allowRepeatedResources
deriving DecidableEq, Repr

namespace RequestKeyword

def name : RequestKeyword → Bytes
  | id => text "id"
  | source => text "source"
  | destination => text "destination"
  | width => text "width"
  | candidates => text "candidates"
  | regenerations => text "regenerations"
  | hops => text "hops"
  | searchExpansions => text "search-expansions"
  | searchLabels => text "search-labels"
  | maxDistance => text "max-distance"
  | maxSpans => text "max-spans"
  | cost => text "cost"
  | snapshotGeneration => text "snapshot-generation"
  | snapshotDigest => text "snapshot-digest"
  | disjointness => text "disjointness"
  | srcgen => text "srcgen"
  | excludeNode => text "exclude-node"
  | excludeSpan => text "exclude-span"
  | excludeCrossConnect => text "exclude-crossconnect"
  | excludeDomain => text "exclude-domain"
  | excludePort => text "exclude-port"
  | domainLimit => text "domain-limit"
  | maxLoss => text "max-loss"
  | minOsnr => text "min-osnr"
  | acceptRestoredEvidence => text "accept-restored-evidence"
  | allowRegeneration => text "allow-regeneration"
  | allowConversion => text "allow-conversion"
  | requireSpectrumContinuity =>
      text "require-spectrum-continuity-across-regeneration"
  | allowRepeatedResources => text "allow-repeated-resources"

def all : List RequestKeyword :=
  [id, source, destination, width, candidates, regenerations, hops,
    searchExpansions, searchLabels, maxDistance, maxSpans, cost,
    snapshotGeneration, snapshotDigest, disjointness, srcgen, excludeNode,
    excludeSpan, excludeCrossConnect, excludeDomain, excludePort, domainLimit,
    maxLoss, minOsnr, acceptRestoredEvidence, allowRegeneration,
    allowConversion, requireSpectrumContinuity, allowRepeatedResources]

def parse : Bytes → Option RequestKeyword := findName all name

theorem parse_name (keyword : RequestKeyword) :
    parse keyword.name = some keyword := by
  cases keyword <;> decide

end RequestKeyword

/-- A positional value of a request record. -/
def requestField (values : List Bytes) (index : Nat) (what : Bytes) :
    Except Status Bytes :=
  match values[index]? with
  | some value => .ok value
  | none => .error (failure .malformedInput
      (text "record is missing the " ++ what ++ text " value"))

def readPortKey (values : List Bytes) : Except Status PortKey := do
  let nodeText ← requestField values 1 (text "node")
  let portText ← requestField values 2 (text "port")
  let node ← StrongId.parse .node nodeText
  let port ← StrongId.parse .port portText
  return ⟨node, port⟩

/-- Assignment to an ordered map. -/
def assignEntry {α β : Type} [LinearOrder α] (key : α) (value : β) :
    List (α × β) → List (α × β)
  | [] => [(key, value)]
  | entry :: rest =>
      if key < entry.1 then (key, value) :: entry :: rest
      else if key = entry.1 then (key, value) :: rest
      else entry :: assignEntry key value rest

section Reader

variable {K : Type} {formatDouble : K → Bytes} (numbers : DoubleText formatDouble)

/-- What a record does to the request. -/
def readRequestField (request : PlanningRequest K) (keyword : RequestKeyword)
    (values : List Bytes) : Except Status (PlanningRequest K) :=
  match keyword with
  | .id => do
      let value ← StrongId.parse .request (← requestField values 1 (text "id"))
      return { request with id := value }
  | .source => do
      let key ← readPortKey values
      return { request with source := key }
  | .destination => do
      let key ← readPortKey values
      return { request with destination := key }
  | .width => do
      let value ← parseU16 (← requestField values 1 keyword.name)
      return { request with channelWidthSlots := value.toNat }
  | .candidates => do
      let value ← parseU32 (← requestField values 1 keyword.name)
      return { request with maxCandidates := value.toNat }
  | .regenerations => do
      let value ← parseU32 (← requestField values 1 keyword.name)
      return { request with maxRegenerations := value.toNat }
  | .hops => do
      let value ← parseU32 (← requestField values 1 keyword.name)
      return { request with maxHops := value.toNat }
  | .searchExpansions => do
      let value ← parseU64 (← requestField values 1 keyword.name)
      return { request with maxSearchExpansions := value.toNat }
  | .searchLabels => do
      let value ← parseU64 (← requestField values 1 keyword.name)
      return { request with maxSearchLabels := value.toNat }
  | .maxDistance => do
      let value ← parseU64 (← requestField values 1 keyword.name)
      return { request with
        constraints := { request.constraints with
          maxTotalDistanceM := some value } }
  | .maxSpans => do
      let value ← parseU32 (← requestField values 1 keyword.name)
      return { request with
        constraints := { request.constraints with
          maxTotalSpanCount := some value } }
  | .cost => do
      let value ← parseU64 (← requestField values 1 (text "cost"))
      return { request with maxTotalCost := some value }
  | .snapshotGeneration => do
      let value ← parseU64
        (← requestField values 1 (text "snapshot-generation"))
      return { request with requiredSnapshotGeneration := some value }
  | .snapshotDigest => do
      let value ← Digest256.fromHex
        (← requestField values 1 (text "snapshot-digest"))
      return { request with expectedSnapshotDigest := some value }
  | .disjointness => do
      match parseDisjointness
        (← requestField values 1 (text "disjointness")) with
      | some value => return { request with disjointness := value }
      | none => .error (failure .malformedInput
          (text "disjointness token is not recognised"))
  | .srcgen => do
      let idText ← requestField values 1 (text "source")
      let generationText ← requestField values 2 (text "generation")
      let source ← StrongId.parse .source idText
      let generation ← parseU64 generationText
      return { request with
        requiredSourceGenerations :=
          assignEntry source generation request.requiredSourceGenerations }
  | .excludeNode => do
      let value ← StrongId.parse .node (← requestField values 1 keyword.name)
      return { request with
        constraints := { request.constraints with
          excludedNodes := request.constraints.excludedNodes ++ [value] } }
  | .excludeSpan => do
      let value ← StrongId.parse .span (← requestField values 1 keyword.name)
      return { request with
        constraints := { request.constraints with
          excludedSpans := request.constraints.excludedSpans ++ [value] } }
  | .excludeCrossConnect => do
      let value ← StrongId.parse .crossConnect
        (← requestField values 1 keyword.name)
      return { request with
        constraints := { request.constraints with
          excludedCrossConnects :=
            request.constraints.excludedCrossConnects ++ [value] } }
  | .excludeDomain => do
      let value ← StrongId.parse .failureDomain
        (← requestField values 1 keyword.name)
      return { request with
        constraints := { request.constraints with
          excludedFailureDomains :=
            request.constraints.excludedFailureDomains ++ [value] } }
  | .excludePort => do
      let key ← readPortKey values
      return { request with
        constraints := { request.constraints with
          excludedPorts := request.constraints.excludedPorts ++ [key] } }
  | .domainLimit => do
      let idText ← requestField values 1 (text "domain")
      let limitText ← requestField values 2 (text "limit")
      let domain ← StrongId.parse .failureDomain idText
      let limit ← parseU32 limitText
      return { request with
        constraints := { request.constraints with
          maxMembersPerFailureDomain := assignEntry domain limit
            request.constraints.maxMembersPerFailureDomain } }
  | .maxLoss => do
      let value ← numbers.parseDouble (← requestField values 1 keyword.name)
      return { request with
        constraints := { request.constraints with
          maxTotalLossDb := some value } }
  | .minOsnr => do
      let value ← numbers.parseDouble (← requestField values 1 keyword.name)
      return { request with
        constraints := { request.constraints with
          minSegmentOsnrDb := some value } }
  | .acceptRestoredEvidence => do
      let value ← parseBoolToken (← requestField values 1 keyword.name)
      return { request with acceptRestoredEvidence := value }
  | .allowRegeneration => do
      let value ← parseBoolToken (← requestField values 1 keyword.name)
      return { request with
        constraints := { request.constraints with allowRegeneration := value } }
  | .allowConversion => do
      let value ← parseBoolToken (← requestField values 1 keyword.name)
      return { request with
        constraints := { request.constraints with
          allowWavelengthConversion := value } }
  | .requireSpectrumContinuity => do
      let value ← parseBoolToken (← requestField values 1 keyword.name)
      return { request with
        constraints := { request.constraints with
          requireSpectrumContinuityAcrossRegeneration := value } }
  | .allowRepeatedResources => do
      let value ← parseBoolToken (← requestField values 1 keyword.name)
      return { request with
        constraints := { request.constraints with
          allowRepeatedResources := value } }

structure RequestReader (K : Type) where
  request : PlanningRequest K
  headerSeen : Bool := false
  haveId : Bool := false
  haveSource : Bool := false
  haveDestination : Bool := false

def readRequestHeader (reader : RequestReader K) (values : List Bytes) :
    Except Status (RequestReader K) :=
  if values.length ≠ 2 ∨ values[0]? ≠ some (text "OPP-REQUEST") then
    .error (failure .malformedInput
      (text "request must start with the OPP-REQUEST magic line"))
  else do
    let version ← parseU32 (values[1]?.getD [])
    if version.toNat ≠ kRequestFormatVersion then
      .error (failure .unsupported (text "request format revision " ++
        values[1]?.getD [] ++ text " is not supported by this runtime"))
    else
      return { reader with headerSeen := true }

def readRequestRecord (reader : RequestReader K) (number : Nat)
    (values : List Bytes) : Except Status (RequestReader K) :=
  if reader.headerSeen = false then readRequestHeader reader values
  else
    failAtLine number <|
      match RequestKeyword.parse (values[0]?.getD []) with
      | none => .error (failure .malformedInput
          (text "unknown request record '" ++ values[0]?.getD [] ++ text "'"))
      | some keyword => do
          let request ← readRequestField numbers reader.request keyword values
          return { reader with
            request := request
            haveId := reader.haveId || keyword == .id
            haveSource := reader.haveSource || keyword == .source
            haveDestination := reader.haveDestination || keyword == .destination }

/-- A request that no record was read into. -/
def RequestReader.initial : RequestReader K where
  request := { id := default, source := default, destination := default }

def parseRequestText (content : Bytes) : Except Status (PlanningRequest K) := do
  let reader ← readRecords (readRequestRecord numbers) .initial content
  if reader.headerSeen = false then
    .error (failure .malformedInput (text "request is empty"))
  else if reader.haveId = false then
    .error (failure .malformedInput (text "request id is missing"))
  else if reader.haveSource = false then
    .error (failure .malformedInput (text "request source is missing"))
  else if reader.haveDestination = false then
    .error (failure .malformedInput (text "request destination is missing"))
  else
    return reader.request

end Reader

end OpticalPathPlanner
