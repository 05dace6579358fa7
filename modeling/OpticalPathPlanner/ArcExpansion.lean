import OpticalPathPlanner.SearchLabels
import OpticalPathPlanner.Traced

/-!
# Expansion of one arc

The checks a settled label makes on an outgoing cross-connect or span arc, in
the order in which the search makes them, and the label on the other side.
A check that fails leaves a cut and no label.  A fact that is not published
leaves a limitation and a witness, and a label that is no longer proven.
-/

namespace OpticalPathPlanner

open SortedRanges Traced

/-- What an expansion leaves for the explanation of the result. -/
inductive Note
  | cut (reason : CutReason)
  | limitation (bits : Nat)
  | witness (entry : Witness)

/-- The notes of a fact that cannot be relied on. -/
def doubtNotes (limitation : Nat) (reason : CutReason) (resource : ResourceKey)
    (detail : String) : List Note :=
  [.limitation limitation, .witness ⟨reason, resource, text detail⟩]

/-- Whether the label is still proven after a doubtful fact. -/
def doubtIf (proven doubtful : Bool) (limitation : Nat) (reason : CutReason)
    (resource : ResourceKey) (detail : String) : Traced Note Bool := do
  noteIf doubtful (doubtNotes limitation reason resource detail)
  pure (proven && !doubtful)

@[simp]
theorem yields_doubtIf_iff {proven doubtful after : Bool} {limitation : Nat}
    {reason : CutReason} {resource : ResourceKey} {detail : String} :
    (doubtIf proven doubtful limitation reason resource detail).Yields after ↔
      (proven && !doubtful) = after := by
  rw [doubtIf, yields_noteIf_bind_iff, yields_pure_iff]

theorem yields_doubtIf_bind_iff {β : Type} {proven doubtful : Bool}
    {limitation : Nat} {reason : CutReason} {resource : ResourceKey}
    {detail : String} {next : Bool → Traced Note β} {value : β} :
    (doubtIf proven doubtful limitation reason resource detail >>=
        next).Yields value ↔
      (next (proven && !doubtful)).Yields value := by
  rw [yields_bind_iff]
  simp

variable {K : Type}

/-- A route may not stand on the same port twice. -/
def portOnPath (path : List (Label K)) (portIndex : Nat) : Bool :=
  path.any fun label => label.portIndex == portIndex

theorem portOnPath_iff {path : List (Label K)} {portIndex : Nat} :
    portOnPath path portIndex = true ↔
      portIndex ∈ path.map Label.portIndex := by
  simp [portOnPath]

theorem portOnPath_eq_false_iff {path : List (Label K)} {portIndex : Nat} :
    portOnPath path portIndex = false ↔
      portIndex ∉ path.map Label.portIndex := by
  rw [← portOnPath_iff, Bool.not_eq_true]

namespace SearchContext

variable [Field K] [LinearOrder K] (ctx : SearchContext K)

/-! ### Failure-domain members of a path -/

def arcDomains (arc : ArcRef) : List FailureDomainId :=
  match arc.kind with
  | .span => (ctx.span arc.index).failureDomains
  | .crossConnect => (ctx.crossConnect arc.index).failureDomains

/-- Members a port adds, with its node when the node is newly entered. -/
def portMembers (fromNode : Option Nat) (portIndex : Nat)
    (domain : FailureDomainId) : Nat :=
  let toNode := (ctx.portInfo portIndex).nodeIndex
  (binarySearch (ctx.port portIndex).failureDomains domain).toNat +
    match toNode with
    | none => 0
    | some node =>
        if some node = fromNode then 0
        else (binarySearch (ctx.node node).failureDomains domain).toNat

/-- Members an arc adds when it is followed to a port. -/
def arcMembers (arc : ArcRef) (fromPort toPort : Nat)
    (domain : FailureDomainId) : Nat :=
  (binarySearch (ctx.arcDomains arc) domain).toNat +
    ctx.portMembers (ctx.portInfo fromPort).nodeIndex toPort domain

/-- Members of a path, given from its last label back to its start. -/
def pathMembers (domain : FailureDomainId) : List (Label K) → Nat
  | [] => 0
  | label :: rest =>
      match label.arrival, rest with
      | some arc, parent :: _ =>
          ctx.arcMembers arc parent.portIndex label.portIndex domain +
            pathMembers domain rest
      | _, _ => ctx.portMembers none label.portIndex domain

/-- Domain member limits apply to the resources the route would use. -/
def memberLimitExceeded (path : List (Label K)) (fromPort : Nat) (arc : ArcRef)
    (toPort : Nat) : Bool :=
  ctx.constraints.maxMembersPerFailureDomain.any fun limit =>
    decide (ctx.pathMembers limit.1 path +
      ctx.arcMembers arc fromPort toPort limit.1 > limit.2.toNat)

/-! ### Shared parts of an expansion -/

/-- The cost after an arc, or nothing when 64 bits do not hold it. -/
def extendCost (cost arcCost : UInt64) (fromPort toPort : Nat) :
    Option UInt64 := do
  let withArc ← addCheckedU64 cost arcCost
  let withPort ← addCheckedU64 withArc (ctx.port toPort).transitCost
  addCheckedU64 withPort (ctx.transitionNodeCost fromPort toPort)

def costCeilingExceeded (cost : UInt64) : Bool :=
  match ctx.rules.maxTotalCost with
  | some ceiling => decide (cost > ceiling)
  | none => false

/-- The checks on the state of a port the route would stand on. -/
def admitPort (proven : Bool) (portIndex : Nat) (adminReason : CutReason) :
    Traced Note Bool := do
  let info := ctx.portInfo portIndex
  let resource := ResourceKey.forPort (ctx.port portIndex).key
  stopIf (info.admin = .blocked) (.cut adminReason)
  let proven ← doubtIf proven (info.admin = .missing)
    kLimitationUnknownQualityField adminReason resource
    "administrative state not published"
  let proven ← doubtIf proven info.conflicting kLimitationConflictingEvidence
    .conflictingEvidence resource "two records disagree about this port"
  let proven ← doubtIf proven info.partialCoverage kLimitationUnknownAdjacency
    .partialCoverage resource
    "the owning node does not publish complete adjacency"
  doubtIf proven info.unresolvedArcs kLimitationUnresolvedReference
    .unresolvedReference resource "an arc referencing this port has no record"

/-! ### Cross-connects -/

/-- What the operation of a cross-connect does to the open segment.  The given
label carries the segment of the label that is expanded. -/
def operate (op : CrossConnectOp) (info : CrossConnectInfo) (next : Label K) :
    Traced Note (Label K) := do
  let target := ctx.portInfo next.portIndex
  match op with
  | .express =>
      pure { next with
        mask := (next.mask.intersect info.baseMask).intersect target.baseMask }
  | .convert => pure { next with mask := target.baseMask }
  | .regenerate =>
      stopIf target.transmitAbsent (.cut .segmentProfileAbsent)
      let proven ← doubtIf next.proven (target.transmit != .good)
        kLimitationUnknownQualityField .transmitProfileUnknown
        (.forPort (ctx.port next.portIndex).key)
        "transmit reach profile not published"
      pure { next with
        profileIndex := target.profileIndex
        mask := target.baseMask
        distanceM := 0
        lossDb := 0
        osnrInverse := 0
        spanCount := 0
        regenerations := next.regenerations + 1
        proven := proven }

/-- The checks on a cross-connect before its label is built: the port it leads
to and the cost there.  A conflicting cross-connect is noted, and the label
stays as proven as it was. -/
def enterCrossConnect (record : CrossConnectRecord) (info : CrossConnectInfo)
    (current : Label K) (ancestors : List (Label K)) (index : Nat) :
    Traced Note (Nat × UInt64) := do
  stopIf (ctx.crossConnectExcluded record.id ||
    ctx.nodeExcluded record.toPort.node || ctx.portExcluded record.toPort)
    (.cut .portExcluded)
  noteIf info.conflicting (doubtNotes kLimitationConflictingEvidence
    .conflictingEvidence (.forCrossConnect record.id)
    "two records disagree about this cross-connect")
  stopIf (info.admin = .blocked) (.cut .crossConnectAdminDown)
  let toPort ← demand info.toPort (.cut .unresolvedReference)
  stopIf (ctx.domainsExcluded record.failureDomains)
    (.cut .failureDomainExcluded)
  stopIf (record.op = .regenerate && !ctx.constraints.allowRegeneration)
    (.cut .regenerationNotAllowed)
  stopIf (record.op = .convert && !ctx.constraints.allowWavelengthConversion)
    (.cut .conversionNotAllowed)
  stopIf (record.op = .regenerate &&
    current.regenerations ≥ ctx.rules.maxRegenerations)
    (.cut .regenerationLimitExceeded)
  stopIf (current.hops + 1 > ctx.rules.maxHops) (.cut .hopLimitExceeded)
  stopIf (portOnPath (current :: ancestors) toPort) (.cut .loopPrevented)
  let cost ← demand
    (ctx.extendCost current.cost record.cost current.portIndex toPort)
    (.cut .costLimitExceeded)
  stopIf (ctx.costCeilingExceeded cost) (.cut .costLimitExceeded)
  stopIf (ctx.memberLimitExceeded (current :: ancestors) current.portIndex
    ⟨.crossConnect, index, false⟩ toPort) (.cut .failureDomainMemberLimit)
  pure (toPort, cost)

/-- The label behind a cross-connect that may be entered. -/
def crossConnectLabel (record : CrossConnectRecord) (info : CrossConnectInfo)
    (current : Label K) (index toPort : Nat) (cost : UInt64) :
    Traced Note (Label K) := do
  let proven ← doubtIf current.proven (info.admin != .good)
    kLimitationUnknownQualityField .crossConnectAdminDown
    (.forCrossConnect record.id) "administrative state not published"
  let proven ← ctx.admitPort proven toPort .destinationAdminDown
  let proven ← doubtIf proven
    (!info.maskKnown || !(ctx.portInfo toPort).maskKnown)
    kLimitationUnknownSpectrum .unknownSpectrum
    (.forCrossConnect record.id) "spectrum capability not published"
  let next ← ctx.operate record.op info { current with
    portIndex := toPort
    arrival := some ⟨.crossConnect, index, false⟩
    cost := cost
    hops := current.hops + 1
    proven := proven }
  stopIf next.mask.isEmpty (.cut .portSpectrumEmpty)
  pure next

def expandCrossConnect (current : Label K) (ancestors : List (Label K))
    (index : Nat) : Traced Note (Label K) := do
  let entry ← ctx.enterCrossConnect (ctx.crossConnect index)
    (ctx.crossConnectInfo index) current ancestors index
  ctx.crossConnectLabel (ctx.crossConnect index) (ctx.crossConnectInfo index)
    current index entry.1 entry.2

/-! ### Spans -/

/-- The port a span arc leads to. -/
def spanTarget (arc : SpanArc) : PortKey :=
  (ctx.span arc.spanIndex).arrival arc.reversed

/-- Whether the label arrived over the same span. -/
def arrivedBySpan (label : Label K) (spanIndex : Nat) : Bool :=
  match label.arrival with
  | some arc => arc.kind = .span && arc.index = spanIndex
  | none => false

/-- Accumulate the impairment of a span.  An unpublished quantity contributes
nothing, which is optimistic: the label becomes unprovable. -/
def accumulate (record : SpanRecord K) (info : SpanInfo K) (next : Label K) :
    Traced Note (Label K) := do
  let resource := ResourceKey.forSpan record.id
  let distance ← demand
    (match info.lengthM with
      | some length => addCheckedU64 next.distanceM length
      | none => some next.distanceM)
    (.cut .totalDistanceExceeded)
  let proven ← doubtIf next.proven info.lengthM.isNone
    kLimitationUnknownQualityField .unknownQualityField resource
    "span length not published"
  let proven ← doubtIf proven info.lossDb.isNone
    kLimitationUnknownQualityField .unknownQualityField resource
    "span loss not published"
  let proven ← doubtIf proven info.osnrDb.isNone
    kLimitationUnknownQualityField .unknownQualityField resource
    "span OSNR not published"
  pure { next with
    distanceM := distance
    lossDb := next.lossDb + info.lossDb.getD 0
    osnrInverse := next.osnrInverse +
      (info.osnrDb.map ctx.runtime.osnrToInverse).getD 0
    proven := proven }

/-- The lowest OSNR a segment under a profile may have. -/
def osnrFloor (minOsnrDb : K) : K :=
  match ctx.constraints.minSegmentOsnrDb with
  | some requested => max minOsnrDb requested
  | none => minOsnrDb

def osnrBelow (osnrInverse floor : K) : Bool :=
  decide (ctx.runtime.inverseToOsnr osnrInverse + Runtime.tolerance < floor)

/-- Judge the open segment against its reach profile.  Only an unpublished
minimum OSNR, or no profile at all, leaves the label unproven. -/
def judgeReach (fromPort : Nat) (next : Label K) : Traced Note Bool := do
  match next.profileIndex with
  | some profileIndex =>
      let profile := ctx.profileInfo profileIndex
      stopIf (profile.maxSpanCount.any fun limit =>
        decide (next.spanCount > limit.toNat)) (.cut .reachSpanCountExceeded)
      stopIf (profile.maxDistanceM.any fun limit =>
        decide (next.distanceM > limit)) (.cut .reachDistanceExceeded)
      stopIf (profile.maxLossDb.any fun limit =>
        decide (next.lossDb > limit + Runtime.tolerance)) (.cut .reachLossExceeded)
      stopIf (profile.minOsnrDb.any fun limit =>
        ctx.osnrBelow next.osnrInverse (ctx.osnrFloor limit))
        (.cut .reachOsnrBelowMinimum)
      let proven ← doubtIf next.proven profile.minOsnrDb.isNone
        kLimitationUnknownQualityField .unknownQualityField
        (.forReachProfile (ctx.profile profileIndex).id)
        "reach profile minimum OSNR not published"
      stopIf (profile.minOsnrDb.isNone &&
        ctx.constraints.minSegmentOsnrDb.any fun floor =>
          ctx.osnrBelow next.osnrInverse floor) (.cut .reachOsnrBelowMinimum)
      pure proven
  | none =>
      let proven ← doubtIf next.proven true kLimitationUnknownQualityField
        .transmitProfileUnknown (.forPort (ctx.port fromPort).key)
        "no reach profile applies to this segment"
      stopIf (ctx.constraints.minSegmentOsnrDb.any fun floor =>
        ctx.osnrBelow next.osnrInverse floor) (.cut .reachOsnrBelowMinimum)
      pure proven

/-- The ceilings of the request on the open segment. -/
def checkCeilings (next : Label K) : Traced Note Unit := do
  stopIf (ctx.constraints.maxTotalDistanceM.any fun limit =>
    decide (next.distanceM > limit)) (.cut .totalDistanceExceeded)
  stopIf (ctx.constraints.maxTotalSpanCount.any fun limit =>
    decide (next.spanCount > limit.toNat)) (.cut .totalSpanCountExceeded)
  stopIf (ctx.constraints.maxTotalLossDb.any fun limit =>
    decide (next.lossDb > limit + Runtime.tolerance)) (.cut .totalLossExceeded)

/-- The checks on a span arc before its label is built: the port it leads to
and the cost there. -/
def enterSpan (record : SpanRecord K) (info : SpanInfo K) (current : Label K)
    (ancestors : List (Label K)) (arc : SpanArc) :
    Traced Note (Nat × UInt64) := do
  let toPort ← demand (ctx.snapshot.portIndex (ctx.spanTarget arc))
    (.cut .unresolvedReference)
  stopIf (ctx.spanExcluded record.id || ctx.nodeExcluded (ctx.spanTarget arc).node ||
    ctx.portExcluded (ctx.spanTarget arc)) (.cut .spanExcluded)
  stopIf (ctx.domainsExcluded record.failureDomains)
    (.cut .failureDomainExcluded)
  stopIf (info.admin = .blocked) (.cut .spanAdminDown)
  stopIf (current.hops + 1 > ctx.rules.maxHops) (.cut .hopLimitExceeded)
  stopIf (arrivedBySpan current arc.spanIndex) (.cut .loopPrevented)
  stopIf (portOnPath (current :: ancestors) toPort) (.cut .loopPrevented)
  let cost ← demand
    (ctx.extendCost current.cost record.cost current.portIndex toPort)
    (.cut .costLimitExceeded)
  stopIf (ctx.costCeilingExceeded cost) (.cut .costLimitExceeded)
  stopIf (ctx.memberLimitExceeded (current :: ancestors) current.portIndex
    ⟨.span, arc.spanIndex, arc.reversed⟩ toPort) (.cut .failureDomainMemberLimit)
  pure (toPort, cost)

/-- The label behind a span that may be entered. -/
def spanLabel (record : SpanRecord K) (info : SpanInfo K) (current : Label K)
    (arc : SpanArc) (toPort : Nat) (cost : UInt64) :
    Traced Note (Label K) := do
  let next ← ctx.accumulate record info { current with
    portIndex := toPort
    arrival := some ⟨.span, arc.spanIndex, arc.reversed⟩
    mask := (current.mask.intersect info.baseMask).intersect
      (ctx.portInfo toPort).baseMask
    cost := cost
    hops := current.hops + 1
    spanCount := current.spanCount + 1 }
  let proven ← doubtIf next.proven (info.admin != .good)
    kLimitationUnknownQualityField .spanAdminDown (.forSpan record.id)
    "administrative state not published"
  let proven ← doubtIf proven info.conflicting kLimitationConflictingEvidence
    .conflictingEvidence (.forSpan record.id)
    "two records disagree about this span"
  let proven ← ctx.admitPort proven toPort .destinationAdminDown
  let proven ← doubtIf proven
    (!info.maskKnown || !(ctx.portInfo toPort).maskKnown)
    kLimitationUnknownSpectrum .unknownSpectrum (.forSpan record.id)
    "span spectrum availability not published"
  stopIf next.mask.isEmpty (.cut .portSpectrumEmpty)
  let proven ← ctx.judgeReach current.portIndex { next with proven := proven }
  ctx.checkCeilings next
  pure { next with proven := proven }

def expandSpan (current : Label K) (ancestors : List (Label K))
    (arc : SpanArc) : Traced Note (Label K) := do
  let entry ← ctx.enterSpan (ctx.span arc.spanIndex)
    (ctx.spanInfo arc.spanIndex) current ancestors arc
  ctx.spanLabel (ctx.span arc.spanIndex) (ctx.spanInfo arc.spanIndex) current
    arc entry.1 entry.2

/-! ### Arcs in the order of the search -/

def expandArc (current : Label K) (ancestors : List (Label K)) (arc : ArcRef) :
    Traced Note (Label K) :=
  match arc.kind with
  | .crossConnect => ctx.expandCrossConnect current ancestors arc.index
  | .span => ctx.expandSpan current ancestors ⟨arc.index, arc.reversed⟩

/-- The arcs that leave a port: its cross-connects, then its span arcs. -/
def outgoingArcs (portIndex : Nat) : List ArcRef :=
  (ctx.snapshot.outgoingCrossConnects portIndex).map
      (fun index => ⟨.crossConnect, index, false⟩) ++
    (ctx.snapshot.outgoingSpanArcs portIndex).map
      fun arc => ⟨.span, arc.spanIndex, arc.reversed⟩

end SearchContext

end OpticalPathPlanner
