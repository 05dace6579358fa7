import OpticalPathPlanner.Topology
import Mathlib

/-!
# Planning requests

A request with its declared constraint set, and the structural validation
that every request passes before anything is searched.  Ordered maps are
association lists in key order.
-/

namespace OpticalPathPlanner

open SortedRanges

def kMaxCandidates : Nat := 16
def kMaxRequestedRegenerations : Nat := 64
def kMaxRequestedHops : Nat := 512
def kMaxExclusionEntries : Nat := 4096
def kMaxDomainMemberLimits : Nat := 1024
def kMaxRequiredGenerations : Nat := 64
def kMaxSearchExpansionsCeiling : Nat := 20000000
def kMaxSearchLabelsCeiling : Nat := 40000000
def kRequestFormatVersion : Nat := 1
def kDefaultMaxHops : Nat := 128
def kDefaultMaxRegenerations : Nat := 8
def kDefaultSearchExpansions : Nat := 400000
def kDefaultSearchLabels : Nat := 800000

/-- Pairwise relation required between returned candidates. -/
inductive Disjointness
  | none
  | node
  | span
  | failureDomain
deriving DecidableEq, Repr

structure ConstraintSet (K : Type) where
  excludedNodes : List NodeId := []
  excludedPorts : List PortKey := []
  excludedSpans : List SpanId := []
  excludedCrossConnects : List CrossConnectId := []
  excludedFailureDomains : List FailureDomainId := []
  maxMembersPerFailureDomain : List (FailureDomainId × UInt32) := []
  maxTotalDistanceM : Option UInt64 := none
  maxTotalSpanCount : Option UInt32 := none
  maxTotalLossDb : Option K := none
  minSegmentOsnrDb : Option K := none
  allowRegeneration : Bool := true
  allowWavelengthConversion : Bool := true
  requireSpectrumContinuityAcrossRegeneration : Bool := false
  allowRepeatedResources : Bool := false

/-- The size bound and the duplicate check of one exclusion list.  The source
sorts a copy and compares neighbours, which finds a duplicate exactly when
the list has one. -/
def requireSortedUnique {α : Type} [DecidableEq α] (values : List α)
    (what : String) : Status :=
  if values.length > kMaxExclusionEntries then
    failure .limitExceeded
      (text what ++ text " exceeds the maximum number of entries")
  else if ¬ values.Nodup then
    failure .duplicateIdentity (text what ++ text " contains a duplicate entry")
  else
    okStatus

section Validation

variable {K : Type} [Field K] [LinearOrder K]

def validateOptionalNonNegative (value : Option K) (what : String) : Status :=
  match value with
  | none => okStatus
  | some number =>
      if ¬ 0 ≤ number ∨ number > 1000000000 then
        failure .invalidArgument
          (text what ++ text " must be a finite value in [0, 1e9]")
      else
        okStatus

/-- The first failing status of a list of checks, in order. -/
def firstFailure : List Status → Status
  | [] => okStatus
  | status :: rest => if status.failed then status else firstFailure rest

theorem firstFailure_failed_iff {statuses : List Status} :
    (firstFailure statuses).failed = false ↔
      ∀ status ∈ statuses, status.failed = false := by
  induction statuses with
  | nil => simp [firstFailure, Status.failed, okStatus]
  | cons status rest ih =>
      unfold firstFailure
      cases failed : status.failed <;> simp [failed, ih]

def memberLimitStatus (limits : List (FailureDomainId × UInt32)) : Status :=
  if limits.length > kMaxDomainMemberLimits then
    failure .limitExceeded
      (text "max_members_per_failure_domain exceeds the maximum number of entries")
  else
    match limits.find? fun entry => entry.2 == 0 with
    | some entry =>
        failure .invalidArgument (text "max_members_per_failure_domain for '" ++
          entry.1.str ++ text "' must be at least 1")
    | none => okStatus

def ConstraintSet.validate (constraints : ConstraintSet K) : Status :=
  firstFailure [
    requireSortedUnique constraints.excludedNodes "excluded_nodes",
    requireSortedUnique constraints.excludedPorts "excluded_ports",
    requireSortedUnique constraints.excludedSpans "excluded_spans",
    requireSortedUnique constraints.excludedCrossConnects
      "excluded_cross_connects",
    requireSortedUnique constraints.excludedFailureDomains
      "excluded_failure_domains",
    memberLimitStatus constraints.maxMembersPerFailureDomain,
    (if constraints.maxTotalSpanCount = some 0 then
      failure .invalidArgument (text "max_total_span_count must be at least 1")
    else okStatus),
    validateOptionalNonNegative constraints.maxTotalLossDb "max_total_loss_db",
    validateOptionalNonNegative constraints.minSegmentOsnrDb
      "min_segment_osnr_db"]

end Validation

/-- The part of a request that the checks on a single arc read. -/
structure RouteRules (K : Type) where
  channelWidthSlots : Nat := 1
  maxRegenerations : Nat := kDefaultMaxRegenerations
  maxHops : Nat := kDefaultMaxHops
  maxTotalCost : Option UInt64 := none
  constraints : ConstraintSet K := {}

structure PlanningRequest (K : Type) extends RouteRules K where
  formatVersion : Nat := kRequestFormatVersion
  id : RequestId
  source : PortKey
  destination : PortKey
  maxCandidates : Nat := 1
  disjointness : Disjointness := .none
  requiredSourceGenerations : List (SourceId × Generation) := []
  requiredSnapshotGeneration : Option Generation := none
  expectedSnapshotDigest : Option Digest256 := none
  acceptRestoredEvidence : Bool := false
  maxSearchExpansions : Nat := kDefaultSearchExpansions
  maxSearchLabels : Nat := kDefaultSearchLabels

variable {K : Type} [Field K] [LinearOrder K]

def PlanningRequest.validate (request : PlanningRequest K) : Status :=
  if request.formatVersion ≠ kRequestFormatVersion then
    failure .unsupported (text "request format revision " ++
      formatU64 request.formatVersion ++ text " is not supported")
  else if request.id.empty then
    failure .invalidArgument (text "request id must not be empty")
  else if request.source.node.empty || request.source.port.empty then
    failure .invalidArgument (text "source must name both a node and a port")
  else if request.destination.node.empty || request.destination.port.empty then
    failure .invalidArgument
      (text "destination must name both a node and a port")
  else if request.source = request.destination then
    failure .invalidArgument (text "source and destination must differ")
  else if request.channelWidthSlots = 0 then
    failure .invalidArgument (text "channel width must be at least one slot")
  else if request.channelWidthSlots > kMaxSpectrumSlots then
    failure .invalidArgument
      (text "channel width exceeds the supported spectrum capacity")
  else if request.maxCandidates = 0 then
    failure .invalidArgument (text "max_candidates must be at least 1")
  else if request.maxCandidates > kMaxCandidates then
    failure .limitExceeded
      (text "max_candidates exceeds the supported maximum of " ++
        formatU64 kMaxCandidates)
  else if request.maxRegenerations > kMaxRequestedRegenerations then
    failure .limitExceeded
      (text "max_regenerations exceeds the supported maximum")
  else if request.maxHops = 0 then
    failure .invalidArgument (text "max_hops must be at least 1")
  else if request.maxHops > kMaxRequestedHops then
    failure .limitExceeded (text "max_hops exceeds the supported maximum")
  else if request.maxSearchExpansions = 0 ∨
      request.maxSearchExpansions > kMaxSearchExpansionsCeiling then
    failure .limitExceeded
      (text "max_search_expansions must be within the supported range")
  else if request.maxSearchLabels = 0 ∨
      request.maxSearchLabels > kMaxSearchLabelsCeiling then
    failure .limitExceeded
      (text "max_search_labels must be within the supported range")
  else if request.requiredSourceGenerations.length > kMaxRequiredGenerations then
    failure .limitExceeded
      (text "required_source_generations exceeds the supported number of entries")
  else if request.constraints.validate.failed then
    request.constraints.validate
  else if request.constraints.requireSpectrumContinuityAcrossRegeneration then
    failure .unsupported (text ("this model restarts the transparent segment " ++
      "at a regeneration, so spectrum continuity across a regeneration cannot " ++
      "be required"))
  else if request.constraints.allowRepeatedResources then
    failure .unsupported (text ("this model restricts a candidate to a " ++
      "resource-simple route; repeated resources are not modelled"))
  else
    okStatus

/-! ### Valid requests -/

theorem failed_ite_failure {condition : Prop} [Decidable condition]
    {code : StatusCode} {detail : Bytes} {rest : Status}
    (bad : (code != .ok) = true) :
    (if condition then failure code detail else rest).failed = false ↔
      ¬ condition ∧ rest.failed = false := by
  by_cases holds : condition
  · simp [holds, Status.failed, failure, bad]
  · simp [holds]

theorem failed_ite_self {status rest : Status} :
    (if status.failed then status else rest).failed = false ↔
      status.failed = false ∧ rest.failed = false := by
  cases failed : status.failed <;> simp [failed]

/-- What validation accepts. -/
structure PlanningRequest.IsValid (request : PlanningRequest K) : Prop where
  formatVersion : request.formatVersion = kRequestFormatVersion
  id : request.id.empty = false
  source : (request.source.node.empty || request.source.port.empty) = false
  destination :
    (request.destination.node.empty || request.destination.port.empty) = false
  distinct : request.source ≠ request.destination
  width_pos : request.channelWidthSlots ≠ 0
  width_le : request.channelWidthSlots ≤ kMaxSpectrumSlots
  candidates_pos : request.maxCandidates ≠ 0
  candidates_le : request.maxCandidates ≤ kMaxCandidates
  regenerations_le : request.maxRegenerations ≤ kMaxRequestedRegenerations
  hops_pos : request.maxHops ≠ 0
  hops_le : request.maxHops ≤ kMaxRequestedHops
  expansions : ¬ (request.maxSearchExpansions = 0 ∨
    request.maxSearchExpansions > kMaxSearchExpansionsCeiling)
  labels : ¬ (request.maxSearchLabels = 0 ∨
    request.maxSearchLabels > kMaxSearchLabelsCeiling)
  generations_le :
    request.requiredSourceGenerations.length ≤ kMaxRequiredGenerations
  constraints : request.constraints.validate.failed = false
  continuity :
    request.constraints.requireSpectrumContinuityAcrossRegeneration = false
  repeated : request.constraints.allowRepeatedResources = false

theorem PlanningRequest.validate_failed_iff {request : PlanningRequest K} :
    request.validate.failed = false ↔ request.IsValid := by
  unfold PlanningRequest.validate
  repeat rw [failed_ite_failure rfl]
  rw [failed_ite_self]
  repeat rw [failed_ite_failure rfl]
  constructor
  · rintro ⟨format, id, source, destination, distinct, widthPos, widthLe,
      candidatesPos, candidatesLe, regenerations, hopsPos, hopsLe, expansions,
      labels, generations, constraints, continuity, repeated, _⟩
    exact ⟨not_not.mp format, by simpa using id, by simpa using source,
      by simpa using destination, distinct, widthPos, not_lt.mp widthLe,
      candidatesPos, not_lt.mp candidatesLe, not_lt.mp regenerations, hopsPos,
      not_lt.mp hopsLe, expansions, labels, not_lt.mp generations, constraints,
      by simpa using continuity, by simpa using repeated⟩
  · intro valid
    exact ⟨not_not.mpr valid.formatVersion, by simp [valid.id],
      by simpa using valid.source, by simpa using valid.destination,
      valid.distinct, valid.width_pos, not_lt.mpr valid.width_le,
      valid.candidates_pos, not_lt.mpr valid.candidates_le,
      not_lt.mpr valid.regenerations_le, valid.hops_pos,
      not_lt.mpr valid.hops_le, valid.expansions, valid.labels,
      not_lt.mpr valid.generations_le, valid.constraints,
      by simp [valid.continuity], by simp [valid.repeated], rfl⟩

end OpticalPathPlanner
