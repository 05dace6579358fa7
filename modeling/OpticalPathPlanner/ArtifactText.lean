import OpticalPathPlanner.CanonicalText
import OpticalPathPlanner.PlanArtifacts

/-!
# Canonical text of snapshots, requests, plans and results

The byte strings that the four digests are computed over.  How a number of
`K` is spelled is left to a parameter, as `std::to_chars` decides it.
-/

namespace OpticalPathPlanner

open LineAssembler

variable {K : Type}

/-! ### Names of enumerators -/

def AdminState.name : AdminState → Bytes
  | .up => text "up"
  | .down => text "down"
  | .maintenance => text "maintenance"

def Coverage.name : Coverage → Bytes
  | .complete => text "complete"
  | .partialCoverage => text "partial"

def NodeKind.name : NodeKind → Bytes
  | .terminal => text "terminal"
  | .reconfigurableOadm => text "roadm"
  | .opticalCrossConnect => text "oxc"
  | .amplifier => text "amplifier"
  | .regenerator => text "regenerator"

def PortRole.name : PortRole → Bytes
  | .client => text "client"
  | .line => text "line"
  | .add => text "add"
  | .drop => text "drop"
  | .express => text "express"
  | .monitor => text "monitor"

def GridKind.name : GridKind → Bytes
  | .fixed50GHz => text "fixed50"
  | .flex12_5GHz => text "flex12_5"

def StepKind.name : StepKind → Bytes
  | .node => text "node"
  | .port => text "port"
  | .span => text "span"
  | .crossConnect => text "crossconnect"

def Disjointness.name : Disjointness → Bytes
  | .none => text "none"
  | .node => text "node"
  | .span => text "span"
  | .failureDomain => text "domain"

def PlanOutcome.name : PlanOutcome → Bytes
  | .feasible => text "FEASIBLE"
  | .infeasible => text "INFEASIBLE"
  | .indeterminate => text "INDETERMINATE"
  | .unsupported => text "UNSUPPORTED"
  | .cancelled => text "CANCELLED"
  | .refused => text "REFUSED"

def StatusCode.name : StatusCode → Bytes
  | .ok => text "OK"
  | .invalidArgument => text "INVALID_ARGUMENT"
  | .malformedInput => text "MALFORMED_INPUT"
  | .limitExceeded => text "LIMIT_EXCEEDED"
  | .duplicateIdentity => text "DUPLICATE_IDENTITY"
  | .notFound => text "NOT_FOUND"
  | .conflictingEvidence => text "CONFLICTING_EVIDENCE"
  | .unsupported => text "UNSUPPORTED"
  | .stale => text "STALE"
  | .fenced => text "FENCED"
  | .cancelled => text "CANCELLED"
  | .truncated => text "TRUNCATED"
  | .integrityFailure => text "INTEGRITY_FAILURE"
  | .ioFailure => text "IO_FAILURE"
  | .refused => text "REFUSED"
  | .exhausted => text "EXHAUSTED"
  | .overflow => text "OVERFLOW"
  | .internal => text "INTERNAL"

def CutReason.name : CutReason → Bytes
  | .none => text "none"
  | .sourceAbsent => text "source_absent"
  | .destinationAbsent => text "destination_absent"
  | .sourceAdminDown => text "source_admin_down"
  | .destinationAdminDown => text "destination_admin_down"
  | .nodeExcluded => text "node_excluded"
  | .portExcluded => text "port_excluded"
  | .spanExcluded => text "span_excluded"
  | .failureDomainExcluded => text "failure_domain_excluded"
  | .failureDomainMemberLimit => text "failure_domain_member_limit"
  | .spanAdminDown => text "span_admin_down"
  | .crossConnectAdminDown => text "crossconnect_admin_down"
  | .noOutgoingArc => text "no_outgoing_arc"
  | .portSpectrumEmpty => text "port_spectrum_empty"
  | .segmentProfileAbsent => text "segment_profile_absent"
  | .segmentProfileUnknown => text "segment_profile_unknown"
  | .reachDistanceExceeded => text "reach_distance_exceeded"
  | .reachSpanCountExceeded => text "reach_span_count_exceeded"
  | .reachLossExceeded => text "reach_loss_exceeded"
  | .reachOsnrBelowMinimum => text "reach_osnr_below_minimum"
  | .totalDistanceExceeded => text "total_distance_exceeded"
  | .totalSpanCountExceeded => text "total_span_count_exceeded"
  | .totalLossExceeded => text "total_loss_exceeded"
  | .regenerationNotAllowed => text "regeneration_not_allowed"
  | .regenerationLimitExceeded => text "regeneration_limit_exceeded"
  | .conversionNotAllowed => text "conversion_not_allowed"
  | .hopLimitExceeded => text "hop_limit_exceeded"
  | .costLimitExceeded => text "cost_limit_exceeded"
  | .loopPrevented => text "loop_prevented"
  | .dominated => text "dominated"
  | .unresolvedReference => text "unresolved_reference"
  | .searchTruncated => text "search_truncated"
  | .unknownQualityField => text "unknown_quality_field"
  | .unknownSpectrum => text "unknown_spectrum"
  | .conflictingEvidence => text "conflicting_evidence"
  | .partialCoverage => text "partial_coverage"
  | .transmitProfileUnknown => text "transmit_profile_unknown"

def limitationNames : List (Nat × Bytes) :=
  [(kLimitationUnknownAdjacency, text "unknown_adjacency"),
    (kLimitationUnknownQualityField, text "unknown_quality_field"),
    (kLimitationUnknownSpectrum, text "unknown_spectrum"),
    (kLimitationConflictingEvidence, text "conflicting_evidence"),
    (kLimitationStaleEvidence, text "stale_evidence"),
    (kLimitationRestoredEvidence, text "restored_evidence"),
    (kLimitationSearchTruncated, text "search_truncated"),
    (kLimitationUnresolvedReference, text "unresolved_reference"),
    (kLimitationDisjointnessGreedy, text "disjointness_greedy"),
    (kLimitationOptimalityNotProven, text "optimality_not_proven")]

/-- Join byte strings with commas. -/
def joinCommas : List Bytes → Bytes
  | [] => []
  | [piece] => piece
  | piece :: rest => piece ++ [44] ++ joinCommas rest

def describeLimitations (limitations : Nat) : Bytes :=
  let names := (limitationNames.filter fun entry =>
    limitations &&& entry.1 != 0).map Prod.snd
  if names.isEmpty then text "none" else joinCommas names

def Digest256.toHex (digest : Digest256) : Bytes :=
  (List.range 64).map fun position =>
    SlotMask.hexDigit (digest.value.toNat / 16 ^ (63 - position) % 16)

def booleanName (value : Bool) : Bytes :=
  if value then text "true" else text "false"

/-! ### Snapshots -/

/-- A tri-state field: its value, or the name of its state. -/
def LineAssembler.addEvidence {α : Type} (line : LineAssembler) (key : String)
    (spell : α → Bytes) : Evidence α → LineAssembler
  | .known value => line.addKeyRaw key (spell value)
  | .unknown => line.addKeyRaw key (text "unknown")
  | .conflicting => line.addKeyRaw key (text "conflicting")

def LineAssembler.addDomains (line : LineAssembler)
    (domains : List FailureDomainId) : LineAssembler :=
  if domains.isEmpty then line
  else line.addKeyRaw "domains" (joinCommas (domains.map StrongId.str))

def spellProfile : Option ProfileId → Bytes
  | some id => id.str
  | none => text "-"

section Encodings

variable (formatDouble : K → Bytes)

def sourceLine (record : SourceRecord) : Bytes :=
  ofRecord "source" |>.add record.id.str |>.addU64 record.generation.toNat
    |>.add record.coverage.name |>.emit

def profileLine (record : ReachProfile K) : Bytes :=
  ofRecord "profile" |>.add record.id.str
    |>.addEvidence "dist" (formatU64 ·.toNat) record.maxDistanceM
    |>.addEvidence "spans" (formatU64 ·.toNat) record.maxSpanCount
    |>.addEvidence "loss" formatDouble record.maxLossDb
    |>.addEvidence "osnr" formatDouble record.minOsnrDb
    |>.addKeyRaw "src" record.source.str
    |>.addKeyU64 "gen" record.generation.toNat |>.emit

def nodeLine (record : NodeRecord) : Bytes :=
  ofRecord "node" |>.add record.id.str |>.add record.kind.name
    |>.add record.coverage.name
    |>.addEvidence "admin" AdminState.name record.admin
    |>.addKeyU64 "cost" record.transitCost.toNat
    |>.addKeyRaw "src" record.source.str
    |>.addKeyU64 "gen" record.generation.toNat
    |>.addDomains record.failureDomains |>.emit

def portLine (record : PortRecord) : Bytes :=
  ofRecord "port" |>.add record.key.node.str |>.add record.key.port.str
    |>.add record.role.name
    |>.addEvidence "admin" AdminState.name record.admin
    |>.addEvidence "tx" spellProfile record.transmitProfile
    |>.addEvidence "slots" SlotMask.toHex record.blockedSlots
    |>.addKeyU64 "cost" record.transitCost.toNat
    |>.addKeyRaw "src" record.source.str
    |>.addKeyU64 "gen" record.generation.toNat
    |>.addDomains record.failureDomains |>.emit

def spanLine (record : SpanRecord K) : Bytes :=
  ofRecord "span" |>.add record.id.str
    |>.add record.fromPort.node.str |>.add record.fromPort.port.str
    |>.add record.toPort.node.str |>.add record.toPort.port.str
    |>.add (if record.bidirectional then text "bidir" else text "single")
    |>.addEvidence "len" (formatU64 ·.toNat) record.lengthM
    |>.addEvidence "loss" formatDouble record.lossDb
    |>.addEvidence "osnr" formatDouble record.osnrDb
    |>.addEvidence "slots" SlotMask.toHex record.blockedSlots
    |>.addEvidence "admin" AdminState.name record.admin
    |>.addKeyU64 "cost" record.cost.toNat
    |>.addKeyRaw "src" record.source.str
    |>.addKeyU64 "gen" record.generation.toNat
    |>.addDomains record.failureDomains |>.emit

def crossConnectLine (record : CrossConnectRecord) : Bytes :=
  ofRecord "xc" |>.add record.id.str
    |>.add record.fromPort.node.str |>.add record.fromPort.port.str
    |>.add record.toPort.node.str |>.add record.toPort.port.str
    |>.add record.op.name
    |>.addEvidence "slots" SlotMask.toHex record.blockedSlots
    |>.addEvidence "admin" AdminState.name record.admin
    |>.addKeyU64 "cost" record.cost.toNat
    |>.addKeyRaw "src" record.source.str
    |>.addKeyU64 "gen" record.generation.toNat
    |>.addDomains record.failureDomains |>.emit

def snapshotToText (snapshot : TopologySnapshot K) : Bytes :=
  text "OPP-SNAPSHOT 1\n" ++
    (ofRecord "id" |>.add snapshot.id.str |>.emit) ++
    (ofRecord "generation" |>.addU64 snapshot.generation.toNat |>.emit) ++
    (ofRecord "grid" |>.add snapshot.spectrum.grid.name |>.emit) ++
    (ofRecord "slots" |>.addU64 snapshot.spectrum.slotCount |>.emit) ++
    snapshot.sources.flatMap sourceLine ++
    snapshot.reachProfiles.flatMap (profileLine formatDouble) ++
    snapshot.nodes.flatMap nodeLine ++
    snapshot.ports.flatMap portLine ++
    snapshot.spans.flatMap (spanLine formatDouble) ++
    snapshot.crossConnects.flatMap crossConnectLine

/-- Whether a line of the canonical text is attributed to a source. -/
def lineBelongsTo (source : SourceId) (line : Bytes) : Bool :=
  match splitTokens line with
  | .error _ => false
  | .ok tokens =>
      if tokens[0]? == some (text "source") then
        tokens[1]? == some source.str
      else
        match findKeyedField tokens 1 "src" with
        | .ok field => field == source.str
        | .error _ => false

/-- The bytes hashed for the contribution of one source. -/
def sourceContributionText (snapshot : TopologySnapshot K)
    (source : SourceId) : Bytes :=
  let lines := splitRuns (· == 10) (snapshotToText formatDouble snapshot) []
  text "OPP-SOURCE-v1\n" ++
    (lines.filter (lineBelongsTo source)).flatMap (· ++ [10])

/-! ### Requests -/

def requestToText (request : PlanningRequest K) : Bytes :=
  let constraints := request.constraints
  text "OPP-REQUEST 1\n" ++
    (ofRecord "id" |>.add request.id.str |>.emit) ++
    (ofRecord "source" |>.add request.source.node.str
      |>.add request.source.port.str |>.emit) ++
    (ofRecord "destination" |>.add request.destination.node.str
      |>.add request.destination.port.str |>.emit) ++
    (ofRecord "width" |>.addU64 request.channelWidthSlots |>.emit) ++
    (ofRecord "candidates" |>.addU64 request.maxCandidates |>.emit) ++
    (ofRecord "regenerations" |>.addU64 request.maxRegenerations |>.emit) ++
    (ofRecord "hops" |>.addU64 request.maxHops |>.emit) ++
    request.maxTotalCost.toList.flatMap (fun cost =>
      ofRecord "cost" |>.addU64 cost.toNat |>.emit) ++
    (ofRecord "disjointness" |>.add request.disjointness.name |>.emit) ++
    (ofRecord "accept-restored-evidence"
      |>.add (booleanName request.acceptRestoredEvidence) |>.emit) ++
    (ofRecord "search-expansions" |>.addU64 request.maxSearchExpansions
      |>.emit) ++
    (ofRecord "search-labels" |>.addU64 request.maxSearchLabels |>.emit) ++
    request.requiredSourceGenerations.flatMap (fun entry =>
      ofRecord "srcgen" |>.add entry.1.str |>.addU64 entry.2.toNat |>.emit) ++
    request.requiredSnapshotGeneration.toList.flatMap (fun generation =>
      ofRecord "snapshot-generation" |>.addU64 generation.toNat |>.emit) ++
    request.expectedSnapshotDigest.toList.flatMap (fun digest =>
      ofRecord "snapshot-digest" |>.add digest.toHex |>.emit) ++
    constraints.excludedNodes.flatMap (fun id =>
      ofRecord "exclude-node" |>.add id.str |>.emit) ++
    constraints.excludedPorts.flatMap (fun key =>
      ofRecord "exclude-port" |>.add key.node.str |>.add key.port.str
        |>.emit) ++
    constraints.excludedSpans.flatMap (fun id =>
      ofRecord "exclude-span" |>.add id.str |>.emit) ++
    constraints.excludedCrossConnects.flatMap (fun id =>
      ofRecord "exclude-crossconnect" |>.add id.str |>.emit) ++
    constraints.excludedFailureDomains.flatMap (fun id =>
      ofRecord "exclude-domain" |>.add id.str |>.emit) ++
    constraints.maxMembersPerFailureDomain.flatMap (fun entry =>
      ofRecord "domain-limit" |>.add entry.1.str |>.addU64 entry.2.toNat
        |>.emit) ++
    constraints.maxTotalDistanceM.toList.flatMap (fun distance =>
      ofRecord "max-distance" |>.addU64 distance.toNat |>.emit) ++
    constraints.maxTotalSpanCount.toList.flatMap (fun count =>
      ofRecord "max-spans" |>.addU64 count.toNat |>.emit) ++
    constraints.maxTotalLossDb.toList.flatMap (fun loss =>
      ofRecord "max-loss" |>.append (formatDouble loss) |>.emit) ++
    constraints.minSegmentOsnrDb.toList.flatMap (fun osnr =>
      ofRecord "min-osnr" |>.append (formatDouble osnr) |>.emit) ++
    (ofRecord "allow-regeneration"
      |>.add (booleanName constraints.allowRegeneration) |>.emit) ++
    (ofRecord "allow-conversion"
      |>.add (booleanName constraints.allowWavelengthConversion) |>.emit) ++
    (ofRecord "require-spectrum-continuity-across-regeneration"
      |>.add (booleanName
        constraints.requireSpectrumContinuityAcrossRegeneration) |>.emit) ++
    (ofRecord "allow-repeated-resources"
      |>.add (booleanName constraints.allowRepeatedResources) |>.emit)

/-! ### Plans -/

def planStepLine (step : PlanStep) : Bytes :=
  ofRecord "step" |>.addU64 step.index |>.addKeyToken "kind" step.kind.name
    |>.addKeyU64 "seg" step.segmentIndex |>.addKeyU64 "reason" step.reasonBits
    |>.addKeyU64 "cost" step.cost.toNat
    |>.addKeyToken "res" step.resource.toBytes |>.emit

def planSegmentLine (segment : PlanSegment K) : Bytes :=
  let line := ofRecord "segment" |>.addU64 segment.index
    |>.addKeyToken "profile" segment.profile.str
    |>.addKeyU64 "runs" segment.channelRuns
    |>.addKeyU64 "distance" segment.distanceM.toNat
    |>.addKeyRaw "loss" (formatDouble segment.lossDb)
    |>.addKeyRaw "osnr" (formatDouble segment.osnrDb)
    |>.addKeyU64 "spans" segment.spanCount
    |>.addKeyToken "end"
      (if segment.endedByRegeneration then text "regeneration"
        else text "transparent")
  if segment.endedByRegeneration then
    (line.addKeyToken "xc" segment.regenerationResource.toBytes).emit
  else
    line.emit

def planSpanUseLine (segmentIndex : Nat) (use : PlanSpanUse K) : Bytes :=
  ofRecord "segspan" |>.addU64 segmentIndex |>.addKeyToken "id" use.id.str
    |>.addKeyToken "from" use.fromPort.canonicalText
    |>.addKeyToken "to" use.toPort.canonicalText
    |>.addKeyU64 "rev" use.reversed.toNat
    |>.addKeyU64 "len" use.lengthM.toNat
    |>.addKeyRaw "loss" (formatDouble use.lossDb)
    |>.addKeyRaw "osnr" (formatDouble use.osnrDb)
    |>.addKeyU64 "cost" use.cost.toNat |>.addKeyU64 "slot" use.firstSlot
    |>.addDomains use.failureDomains |>.emit

def planReservationLine (reservation : PlanReservation) : Bytes :=
  ofRecord "reservation" |>.addKeyToken "res" reservation.resource.toBytes
    |>.addKeyU64 "first" reservation.channel.firstSlot
    |>.addKeyU64 "width" reservation.channel.widthSlots
    |>.addKeyU64 "seg" reservation.segmentIndex |>.emit

def planAssumptionLine (record : String) (assumption : PlanAssumption) : Bytes :=
  ofRecord record |>.addKeyToken "res" assumption.resource.toBytes
    |>.addKeyToken "field" assumption.field
    |>.addKeyToken "value" assumption.value |>.emit

def planExposureLine (exposure : FailureDomainExposure) : Bytes :=
  ofRecord "exposure" |>.addKeyToken "domain" exposure.id.str
    |>.addKeyU64 "count" exposure.memberCount
    |>.addKeyU64 "limit" exposure.limit.toNat |>.emit

/-- Everything but the digest line. -/
def PlanArtifact.digestPayload (plan : PlanArtifact K) : Bytes :=
  text "OPP-PLAN " ++ formatU64 plan.formatVersion ++ [10] ++
    (ofRecord "rule" |>.addU64 plan.ruleVersion |>.emit) ++
    (ofRecord "request" |>.add plan.requestId.str
      |>.add plan.requestDigest.toHex |>.emit) ++
    (ofRecord "snapshot" |>.add plan.snapshotId.str
      |>.addU64 plan.snapshotGeneration.toNat
      |>.add plan.snapshotDigest.toHex |>.emit) ++
    plan.boundSources.flatMap (fun binding =>
      ofRecord "binding" |>.add binding.source.str
        |>.addKeyU64 "gen" binding.generation.toNat
        |>.addKeyToken "contrib" binding.snapshotContribution.toHex |>.emit) ++
    (ofRecord "endpoints" |>.addKeyToken "snode" plan.source.node.str
      |>.addKeyToken "sport" plan.source.port.str
      |>.addKeyToken "dnode" plan.destination.node.str
      |>.addKeyToken "dport" plan.destination.port.str |>.emit) ++
    (ofRecord "channel" |>.addKeyU64 "width" plan.channelWidthSlots |>.emit) ++
    (ofRecord "totals" |>.addKeyU64 "cost" plan.totalCost.toNat
      |>.addKeyU64 "distance" plan.totalDistanceM.toNat
      |>.addKeyRaw "loss" (formatDouble plan.totalLossDb)
      |>.addKeyU64 "hops" plan.hops
      |>.addKeyU64 "regen" plan.regenerations |>.emit) ++
    plan.steps.flatMap planStepLine ++
    plan.segments.flatMap (planSegmentLine formatDouble) ++
    plan.segments.flatMap (fun segment =>
      segment.spans.flatMap (planSpanUseLine formatDouble segment.index)) ++
    plan.reservations.flatMap planReservationLine ++
    plan.capabilityAssumptions.flatMap (planAssumptionLine "capability") ++
    plan.qualityAssumptions.flatMap (planAssumptionLine "quality") ++
    plan.failureDomainExposure.flatMap planExposureLine

def PlanArtifact.canonicalBytes (plan : PlanArtifact K) : Bytes :=
  plan.digestPayload formatDouble ++
    (ofRecord "digest" |>.add plan.digest.toHex |>.emit)

/-! ### Results -/

def PlanningResult.canonicalBytes (result : PlanningResult K) : Bytes :=
  text "OPP-RESULT 1\n" ++
    (ofRecord "outcome" |>.add result.outcome.name |>.emit) ++
    (ofRecord "status" |>.add result.status.code.name
      |>.addKeyToken "detail" result.status.detail |>.emit) ++
    (ofRecord "request-digest" |>.add result.requestDigest.toHex |>.emit) ++
    (ofRecord "snapshot-digest" |>.add result.snapshotDigest.toHex |>.emit) ++
    (ofRecord "limitations" |>.addU64 result.limitations
      |>.addKeyToken "names" (describeLimitations result.limitations) |>.emit) ++
    (ofRecord "optimality" |>.add (if result.optimalityProven then text "proven"
      else text "not_proven") |>.emit) ++
    (ofRecord "statistics"
      |>.addKeyU64 "labels_created" result.statistics.labelsCreated
      |>.addKeyU64 "labels_expanded" result.statistics.labelsExpanded
      |>.addKeyU64 "labels_dominated" result.statistics.labelsDominated
      |>.addKeyU64 "peak_frontier" result.statistics.peakFrontier
      |>.addKeyU64 "arcs_examined" result.statistics.arcsExamined
      |>.addKeyU64 "states_visited" result.statistics.statesVisited
      |>.addKeyU64 "truncated" result.statistics.truncated.toNat |>.emit) ++
    result.witnesses.flatMap (fun witness =>
      ofRecord "witness" |>.add witness.reason.name
        |>.addKeyToken "res" witness.resource.toBytes
        |>.addKeyToken "detail" witness.detail |>.emit) ++
    result.cuts.flatMap (fun cut =>
      ofRecord "cut" |>.add cut.reason.name |>.addU64 cut.count |>.emit) ++
    result.candidates.flatMap (fun plan =>
      (ofRecord "candidate" |>.add plan.digest.toHex |>.emit) ++
        text "candidate-plan-begin\n" ++ plan.canonicalBytes formatDouble ++
        text "candidate-plan-end\n") ++
    (ofRecord "digest" |>.add result.resultDigest.toHex |>.emit)

end Encodings

end OpticalPathPlanner
