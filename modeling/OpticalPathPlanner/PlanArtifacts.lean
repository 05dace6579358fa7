import OpticalPathPlanner.Requests

/-!
# Plan artifacts and planning results

The immutable artifact a planning run returns, the explanations that come
with it, and the result envelope.  Eligibility reasons and limitations are
bit sets, held as natural numbers.
-/

namespace OpticalPathPlanner

inductive StepKind
  | node
  | port
  | span
  | crossConnect
deriving DecidableEq, Repr

def kReasonAdminUp : Nat := 2 ^ 0
def kReasonNotExcluded : Nat := 2 ^ 1
def kReasonPortAdmitted : Nat := 2 ^ 2
def kReasonSpectrumAvailable : Nat := 2 ^ 3
def kReasonWithinReachDistance : Nat := 2 ^ 4
def kReasonWithinReachSpans : Nat := 2 ^ 5
def kReasonWithinReachLoss : Nat := 2 ^ 6
def kReasonWithinReachOsnr : Nat := 2 ^ 7
def kReasonRegenerationBoundary : Nat := 2 ^ 8
def kReasonWavelengthConversion : Nat := 2 ^ 9
def kReasonFailureDomainWithinLimit : Nat := 2 ^ 10
def kReasonSegmentStart : Nat := 2 ^ 12
def kReasonTransmitProfileKnown : Nat := 2 ^ 13

structure PlanStep where
  index : Nat
  kind : StepKind
  resource : ResourceKey
  segmentIndex : Nat
  reasonBits : Nat
  cost : UInt64
deriving DecidableEq, Repr

structure PlanSpanUse (K : Type) where
  id : SpanId
  fromPort : PortKey
  toPort : PortKey
  reversed : Bool
  lengthM : UInt64
  lossDb : K
  osnrDb : K
  cost : UInt64
  firstSlot : Nat
  failureDomains : List FailureDomainId
deriving DecidableEq, Repr

structure PlanSegment (K : Type) where
  index : Nat
  profile : ProfileId
  spans : List (PlanSpanUse K)
  distanceM : UInt64
  lossDb : K
  osnrDb : K
  spanCount : Nat
  channelRuns : Nat
  endedByRegeneration : Bool
  regenerationResource : ResourceKey
deriving DecidableEq, Repr

structure PlanReservation where
  resource : ResourceKey
  channel : Channel
  segmentIndex : Nat
deriving DecidableEq, Repr

structure PlanAssumption where
  resource : ResourceKey
  field : Bytes
  value : Bytes
deriving DecidableEq, Repr

structure FailureDomainExposure where
  id : FailureDomainId
  memberCount : Nat
  /-- Zero when no limit was declared for the domain. -/
  limit : UInt32
deriving DecidableEq, Repr

structure SourceBinding where
  source : SourceId
  generation : Generation
  snapshotContribution : Digest256
deriving DecidableEq, Repr

structure PlanArtifact (K : Type) where
  formatVersion : Nat
  ruleVersion : Nat
  requestId : RequestId
  requestDigest : Digest256
  snapshotId : SnapshotId
  snapshotGeneration : Generation
  snapshotDigest : Digest256
  boundSources : List SourceBinding
  source : PortKey
  destination : PortKey
  steps : List PlanStep
  segments : List (PlanSegment K)
  reservations : List PlanReservation
  capabilityAssumptions : List PlanAssumption
  qualityAssumptions : List PlanAssumption
  failureDomainExposure : List FailureDomainExposure
  channelWidthSlots : Nat
  totalCost : UInt64
  totalDistanceM : UInt64
  totalLossDb : K
  hops : Nat
  regenerations : Nat
  digest : Digest256
deriving DecidableEq, Repr

def kPlanFormatVersion : Nat := 1
def kPlanningRuleVersion : Nat := 1

variable {K : Type}

/-- The resource sequence that breaks ties between candidates. -/
def PlanArtifact.resourceSequenceKey (plan : PlanArtifact K) : Bytes :=
  plan.steps.flatMap fun step =>
    step.resource.kind.name ++ text "|" ++ step.resource.text ++ text ">"

/-- Canonical candidate order: cost, hops, regenerations, resources. -/
def planLess (lhs rhs : PlanArtifact K) : Bool :=
  if lhs.totalCost ≠ rhs.totalCost then decide (lhs.totalCost < rhs.totalCost)
  else if lhs.hops ≠ rhs.hops then decide (lhs.hops < rhs.hops)
  else if lhs.regenerations ≠ rhs.regenerations then
    decide (lhs.regenerations < rhs.regenerations)
  else decide (lhs.resourceSequenceKey < rhs.resourceSequenceKey)

/-! ### Explanations -/

inductive CutReason
  | none
  | sourceAbsent
  | destinationAbsent
  | sourceAdminDown
  | destinationAdminDown
  | nodeExcluded
  | portExcluded
  | spanExcluded
  | failureDomainExcluded
  | failureDomainMemberLimit
  | spanAdminDown
  | crossConnectAdminDown
  | noOutgoingArc
  | portSpectrumEmpty
  | segmentProfileAbsent
  | segmentProfileUnknown
  | reachDistanceExceeded
  | reachSpanCountExceeded
  | reachLossExceeded
  | reachOsnrBelowMinimum
  | totalDistanceExceeded
  | totalSpanCountExceeded
  | totalLossExceeded
  | regenerationNotAllowed
  | regenerationLimitExceeded
  | conversionNotAllowed
  | hopLimitExceeded
  | costLimitExceeded
  | loopPrevented
  | dominated
  | unresolvedReference
  | searchTruncated
  | unknownQualityField
  | unknownSpectrum
  | conflictingEvidence
  | partialCoverage
  | transmitProfileUnknown
deriving DecidableEq, Repr

/-- Every reason in the order of its number. -/
def CutReason.all : List CutReason :=
  [.none, .sourceAbsent, .destinationAbsent, .sourceAdminDown,
    .destinationAdminDown, .nodeExcluded, .portExcluded, .spanExcluded,
    .failureDomainExcluded, .failureDomainMemberLimit, .spanAdminDown,
    .crossConnectAdminDown, .noOutgoingArc, .portSpectrumEmpty,
    .segmentProfileAbsent, .segmentProfileUnknown, .reachDistanceExceeded,
    .reachSpanCountExceeded, .reachLossExceeded, .reachOsnrBelowMinimum,
    .totalDistanceExceeded, .totalSpanCountExceeded, .totalLossExceeded,
    .regenerationNotAllowed, .regenerationLimitExceeded, .conversionNotAllowed,
    .hopLimitExceeded, .costLimitExceeded, .loopPrevented, .dominated,
    .unresolvedReference, .searchTruncated, .unknownQualityField,
    .unknownSpectrum, .conflictingEvidence, .partialCoverage,
    .transmitProfileUnknown]

def CutReason.number (reason : CutReason) : Nat :=
  CutReason.all.idxOf reason

def kLimitationUnknownAdjacency : Nat := 2 ^ 0
def kLimitationUnknownQualityField : Nat := 2 ^ 1
def kLimitationUnknownSpectrum : Nat := 2 ^ 2
def kLimitationConflictingEvidence : Nat := 2 ^ 3
def kLimitationStaleEvidence : Nat := 2 ^ 4
def kLimitationRestoredEvidence : Nat := 2 ^ 5
def kLimitationSearchTruncated : Nat := 2 ^ 6
def kLimitationUnresolvedReference : Nat := 2 ^ 7
def kLimitationDisjointnessGreedy : Nat := 2 ^ 8
def kLimitationOptimalityNotProven : Nat := 2 ^ 9

def kMaxWitnessEntries : Nat := 64

structure Witness where
  reason : CutReason
  resource : ResourceKey
  detail : Bytes
deriving DecidableEq, Repr

structure CutCount where
  reason : CutReason
  count : Nat
deriving DecidableEq, Repr

structure PlanningStatistics where
  labelsCreated : Nat := 0
  labelsExpanded : Nat := 0
  labelsDominated : Nat := 0
  peakFrontier : Nat := 0
  arcsExamined : Nat := 0
  statesVisited : Nat := 0
  truncated : Bool := false
deriving DecidableEq, Repr, Inhabited

inductive PlanOutcome
  | feasible
  | infeasible
  | indeterminate
  | unsupported
  | cancelled
  | refused
deriving DecidableEq, Repr

structure PlanningResult (K : Type) where
  outcome : PlanOutcome
  status : Status
  requestDigest : Digest256
  snapshotDigest : Digest256
  candidates : List (PlanArtifact K)
  witnesses : List Witness
  limitations : Nat
  cuts : List CutCount
  statistics : PlanningStatistics
  optimalityProven : Bool
  resultDigest : Digest256

/-! ### Validation verdicts -/

inductive PlanValidity
  | valid
  | stale
  | contentMismatch
  | missingEvidence
  | integrityFailure
  | unsupported
  | refused
  | notFresh
deriving DecidableEq, Repr

structure ValidationPolicy where
  acceptRestoredEvidence : Bool := false
  revalidateOnMismatch : Bool := false
deriving DecidableEq, Repr

end OpticalPathPlanner
