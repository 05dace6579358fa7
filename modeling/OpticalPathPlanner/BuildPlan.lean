import OpticalPathPlanner.RunSearch

/-!
# Plans from arc sequences

A plan is rebuilt from the arcs of a route by walking them once more: every
arc adds its steps, reservations, assumptions and failure-domain members, and
the open segment accumulates until a regeneration or the destination closes
it.  Costs wrap at 64 bits here, where the search checks them.
-/

namespace OpticalPathPlanner

open SortedRanges

variable {K : Type}

/-! ### Arcs as ports see them -/

def arrivalPort (snapshot : TopologySnapshot K) (arc : ArcRef) :
    Except Status PortKey :=
  match arc.kind with
  | .span =>
      match snapshot.spans[arc.index]? with
      | none => .error (failure .internal (text "span arc index is out of range"))
      | some record => .ok (record.arrival arc.reversed)
  | .crossConnect =>
      match snapshot.crossConnects[arc.index]? with
      | none => .error (failure .internal
          (text "cross-connect arc index is out of range"))
      | some record => .ok record.toPort

/-- Walk the arcs with the arcs kept so far and the ports visited so far, and
cut back to the first visit when the walk stands on a port again. -/
def stripFrom (snapshot : TopologySnapshot K) (output : List ArcRef)
    (visited : List PortKey) : List ArcRef → List ArcRef
  | [] => output
  | arc :: rest =>
      match arrivalPort snapshot arc with
      | .error _ => output
      | .ok arrival =>
          if arrival ∈ visited then
            stripFrom snapshot (output.take (visited.idxOf arrival))
              (visited.take (visited.idxOf arrival + 1)) rest
          else
            stripFrom snapshot (output ++ [arc]) (visited ++ [arrival]) rest

def stripCycles (snapshot : TopologySnapshot K) (source : PortKey)
    (arcs : List ArcRef) : List ArcRef :=
  stripFrom snapshot [] [source] arcs

/-! ### The builder -/

/-- Count one more member of a failure domain, in an association list kept in
key order. -/
def addMember (domain : FailureDomainId) :
    List (FailureDomainId × Nat) → List (FailureDomainId × Nat)
  | [] => [(domain, 1)]
  | entry :: rest =>
      if domain < entry.1 then (domain, 1) :: entry :: rest
      else if domain = entry.1 then (entry.1, entry.2 + 1) :: rest
      else entry :: addMember domain rest

def updateLast {α : Type} (update : α → α) : List α → List α
  | [] => []
  | [value] => [update value]
  | value :: next :: rest => value :: updateLast update (next :: rest)

@[simp]
theorem updateLast_concat {α : Type} (update : α → α) (front : List α)
    (value : α) : updateLast update (front ++ [value]) = front ++ [update value] := by
  induction front with
  | nil => rfl
  | cons head rest ih =>
      cases rest with
      | nil => rfl
      | cons next rest => exact congrArg (head :: ·) ih

structure PlanBuilder (K : Type) where
  steps : List PlanStep
  segments : List (PlanSegment K)
  reservations : List PlanReservation
  capability : List PlanAssumption
  quality : List PlanAssumption
  domainCounts : List (FailureDomainId × Nat)
  currentProfile : ProfileId
  mask : SlotMask
  totalCost : UInt64
  segmentDistance : UInt64
  segmentLoss : K
  segmentOsnrInverse : K
  segmentSpanCount : Nat
  segmentChannelRuns : Nat
  segmentLastSlot : Option Nat
  segmentIndex : Nat
  regenerations : Nat
  currentPort : PortKey

namespace PlanBuilder

variable [Field K]

def pushStep (builder : PlanBuilder K) (kind : StepKind)
    (resource : ResourceKey) (reasons : Nat) (cost : UInt64) : PlanBuilder K :=
  { builder with
    steps := builder.steps ++
      [⟨builder.steps.length, kind, resource, builder.segmentIndex, reasons,
        cost⟩] }

def noteDomains (builder : PlanBuilder K) (domains : List FailureDomainId) :
    PlanBuilder K :=
  { builder with
    domainCounts := domains.foldl (fun counts domain => addMember domain counts)
      builder.domainCounts }

def addCost (builder : PlanBuilder K) (cost : UInt64) : PlanBuilder K :=
  { builder with totalCost := builder.totalCost + cost }

def assumeCapability (builder : PlanBuilder K) (resource : ResourceKey)
    (field : String) (value : Bytes) : PlanBuilder K :=
  { builder with
    capability := builder.capability ++ [⟨resource, text field, value⟩] }

def assumeQuality (builder : PlanBuilder K) (resource : ResourceKey)
    (field : String) (value : Bytes) : PlanBuilder K :=
  { builder with
    quality := builder.quality ++ [⟨resource, text field, value⟩] }

/-- A new channel run starts when the lowest slot changes. -/
def noteSlot (builder : PlanBuilder K) (slot : Nat) : PlanBuilder K :=
  if builder.segmentLastSlot = some slot then builder
  else { builder with
    segmentChannelRuns := builder.segmentChannelRuns + 1
    segmentLastSlot := some slot }

/-- Segments are created when they are first needed. -/
def ensureSegment (builder : PlanBuilder K) : PlanBuilder K :=
  if (builder.segments.getLast?.map PlanSegment.index) =
      some builder.segmentIndex then
    builder
  else { builder with
    segments := builder.segments ++
      [{ index := builder.segmentIndex
         profile := builder.currentProfile
         spans := []
         distanceM := 0
         lossDb := 0
         osnrDb := 0
         spanCount := 0
         channelRuns := 0
         endedByRegeneration := false
         regenerationResource := default }] }

end PlanBuilder

namespace SearchContext

variable [Field K] [LinearOrder K] (ctx : SearchContext K)

/-- A node's transit cost, charged when the route changes nodes. -/
def nodeCostBetween (fromPort toPort : PortKey) : UInt64 :=
  if fromPort.node = toPort.node then 0
  else
    match ctx.snapshot.findNode toPort.node with
    | none => 0
    | some node => node.transitCost

/-- The step and the members of a node the route enters. -/
def enterNode (builder : PlanBuilder K) (arrival : PortKey) : PlanBuilder K :=
  if arrival.node = builder.currentPort.node then builder
  else
    match ctx.snapshot.findNode arrival.node with
    | none => builder
    | some node =>
        (builder.pushStep .node (.forNode node.id)
          (kReasonNotExcluded ||| kReasonAdminUp)
          (ctx.nodeCostBetween builder.currentPort arrival)).noteDomains
            node.failureDomains

/-- Close the open segment with what it accumulated. -/
def closeSegment (builder : PlanBuilder K) (endedByRegeneration : Bool)
    (regeneration : PlanSegment K → ResourceKey) : PlanBuilder K :=
  let opened := builder.ensureSegment
  { opened with
    segments := updateLast (fun segment => { segment with
      profile := builder.currentProfile
      distanceM := builder.segmentDistance
      lossDb := builder.segmentLoss
      osnrDb := ctx.runtime.reportedOsnr builder.segmentOsnrInverse
      spanCount := builder.segmentSpanCount
      channelRuns := builder.segmentChannelRuns
      endedByRegeneration := endedByRegeneration
      regenerationResource := regeneration segment }) opened.segments }

/-! ### Spans -/

def spanReasons : Nat :=
  kReasonNotExcluded ||| kReasonAdminUp ||| kReasonPortAdmitted |||
    kReasonSpectrumAvailable ||| kReasonWithinReachDistance |||
    kReasonWithinReachSpans ||| kReasonWithinReachLoss |||
    kReasonWithinReachOsnr ||| kReasonFailureDomainWithinLimit

/-- How a plan records the use of a span. -/
def spanUse (span : SpanRecord K) (reversed : Bool) (length : UInt64)
    (loss osnr : K) (slot : Nat) : PlanSpanUse K where
  id := span.id
  fromPort := span.departure reversed
  toPort := span.arrival reversed
  reversed := reversed
  lengthM := length
  lossDb := loss
  osnrDb := osnr
  cost := span.cost
  firstSlot := slot
  failureDomains := span.failureDomains

/-- The use of a span on the first of the usable channel starts. -/
def useSpan (builder : PlanBuilder K) (span : SpanRecord K) (reversed : Bool)
    (arrivalPort : PortRecord) (length : UInt64) (loss osnr : K)
    (mask : SlotMask) (slot : Nat) : PlanBuilder K :=
  let arrival := span.arrival reversed
  let resource := ResourceKey.forSpan span.id
  let opened := (builder.noteSlot slot).ensureSegment
  let used : PlanBuilder K := { opened with
    mask := mask
    segments := updateLast
      (fun segment => { segment with
        spans := segment.spans ++ [spanUse span reversed length loss osnr slot] })
      opened.segments
    segmentDistance := opened.segmentDistance + length
    segmentLoss := opened.segmentLoss + loss
    segmentOsnrInverse := opened.segmentOsnrInverse +
      ctx.runtime.osnrToInverse osnr
    segmentSpanCount := opened.segmentSpanCount + 1 }
  let stepped := ((((used.addCost span.cost).pushStep .span resource spanReasons
    span.cost).noteDomains span.failureDomains).noteDomains
      arrivalPort.failureDomains).addCost arrivalPort.transitCost
  let entered := ctx.enterNode
    (stepped.addCost (ctx.nodeCostBetween builder.currentPort arrival)) arrival
  let reserved : PlanBuilder K := { entered with
    reservations := entered.reservations ++
      [⟨resource, ⟨slot, ctx.rules.channelWidthSlots⟩, entered.segmentIndex⟩] }
  let assumed := (((reserved.assumeQuality resource "length_m"
    (formatU64 length.toNat)).assumeQuality resource "loss_db"
      (ctx.runtime.formatDouble loss)).assumeQuality resource "osnr_db"
        (ctx.runtime.formatDouble osnr)).assumeCapability resource
          "blocked_slots" ((span.blockedSlots.value?.getD .none).toHex)
  { assumed with currentPort := arrival }

def addSpan (builder : PlanBuilder K) (index : Nat) (reversed : Bool) :
    Except Status (PlanBuilder K) :=
  match ctx.snapshot.spans[index]? with
  | none => .error (failure .internal
      (text "plan build saw an out-of-range span arc"))
  | some span =>
      match span.lengthM.value?, span.lossDb.value?, span.osnrDb.value?,
        span.blockedSlots.hasValue && span.admin.hasValue with
      | some length, some loss, some osnr, true =>
          match ctx.snapshot.findPort (span.arrival reversed) with
          | none => .error (failure .internal
              (text "plan build requires the arrival port spectrum capability"))
          | some arrivalPort =>
              if !arrivalPort.blockedSlots.hasValue then
                .error (failure .internal (text
                  "plan build requires the arrival port spectrum capability"))
              else
                let mask := (builder.mask.intersect
                  (ctx.usable span.blockedSlots)).intersect
                    (ctx.usable arrivalPort.blockedSlots)
                match mask.lowestSetBit with
                | none => .error (failure .internal
                    (text "plan build derived an empty channel set"))
                | some slot => .ok (ctx.useSpan builder span reversed
                    arrivalPort length loss osnr mask slot)
      | _, _, _, _ => .error (failure .internal
          (text "plan build requires published span quality evidence"))

/-! ### Cross-connects -/

def operationReasons (op : CrossConnectOp) : Nat :=
  let base := kReasonNotExcluded ||| kReasonAdminUp ||| kReasonPortAdmitted
  match op with
  | .express => base
  | .convert => base ||| kReasonWavelengthConversion
  | .regenerate => base ||| kReasonRegenerationBoundary |||
      kReasonSegmentStart ||| kReasonTransmitProfileKnown

/-- The open segment after a cross-connect, before its steps are added. -/
def switchSegment (builder : PlanBuilder K) (record : CrossConnectRecord)
    (target : PortRecord) : Except Status (PlanBuilder K) :=
  match record.op with
  | .express =>
      let mask := (builder.mask.intersect
        (ctx.usable record.blockedSlots)).intersect
          (ctx.usable target.blockedSlots)
      match mask.lowestSetBit with
      | none => .error (failure .internal
          (text "plan build derived an empty channel set after a cross-connect"))
      | some slot => .ok { builder.noteSlot slot with mask := mask }
  | .convert =>
      let mask := ctx.usable target.blockedSlots
      match mask.lowestSetBit with
      | none => .error (failure .internal
          (text "plan build derived an empty channel set after a conversion"))
      | some slot => .ok { builder with
          mask := mask
          segmentChannelRuns := builder.segmentChannelRuns + 1
          segmentLastSlot := some slot }
  | .regenerate =>
      match target.transmitProfile.value? with
      | some (some profile) =>
          let closed := ctx.closeSegment builder true
            fun _ => .forCrossConnect record.id
          let assumed := closed.assumeCapability (.forPort target.key)
            "transmit_profile" profile.str
          .ok { assumed with
            segmentIndex := builder.segmentIndex + 1
            regenerations := builder.regenerations + 1
            currentProfile := profile
            mask := ctx.usable target.blockedSlots
            segmentDistance := 0
            segmentLoss := 0
            segmentOsnrInverse := 0
            segmentSpanCount := 0
            segmentChannelRuns := 0
            segmentLastSlot := none }
      | _ => .error (failure .internal (text
          "plan build requires a transmit profile at a regeneration target"))

/-- The port and node steps of a cross-connect that is not express. -/
def stepOntoTarget (builder : PlanBuilder K) (op : CrossConnectOp)
    (target : PortRecord) : PlanBuilder K :=
  if op = .express then builder
  else ctx.enterNode (builder.pushStep .port (.forPort target.key)
    (operationReasons op ||| kReasonSpectrumAvailable) target.transitCost)
    target.key

def useCrossConnect (builder : PlanBuilder K) (record : CrossConnectRecord)
    (target : PortRecord) : PlanBuilder K :=
  let resource := ResourceKey.forCrossConnect record.id
  let stepped := ((((builder.pushStep .crossConnect resource
    (operationReasons record.op) record.cost).addCost record.cost).noteDomains
      record.failureDomains).noteDomains target.failureDomains).addCost
        (ctx.nodeCostBetween builder.currentPort record.toPort)
  let assumed := (stepped.assumeCapability resource "operation"
    record.op.name).assumeCapability (.forPort target.key) "blocked_slots"
      ((target.blockedSlots.value?.getD .none).toHex)
  let arrived := (ctx.stepOntoTarget assumed record.op target).addCost
    target.transitCost
  { arrived with currentPort := record.toPort }

def addCrossConnect (builder : PlanBuilder K) (index : Nat) :
    Except Status (PlanBuilder K) :=
  match ctx.snapshot.crossConnects[index]? with
  | none => .error (failure .internal
      (text "plan build saw an out-of-range cross-connect arc"))
  | some record =>
      if !(record.admin.hasValue && record.blockedSlots.hasValue) then
        .error (failure .internal
          (text "plan build requires published cross-connect evidence"))
      else
        match ctx.snapshot.findPort record.toPort with
        | none => .error (failure .internal
            (text "plan build requires the target port spectrum capability"))
        | some target =>
            if !target.blockedSlots.hasValue then
              .error (failure .internal (text
                "plan build requires the target port spectrum capability"))
            else
              match ctx.switchSegment builder record target with
              | .error status => .error status
              | .ok switched => .ok (ctx.useCrossConnect switched record target)

/-! ### The walk -/

def addArc (builder : PlanBuilder K) (arc : ArcRef) :
    Except Status (PlanBuilder K) :=
  match arc.kind with
  | .span => ctx.addSpan builder arc.index arc.reversed
  | .crossConnect => ctx.addCrossConnect builder arc.index

/-- The builder at the source port. -/
def startBuilder (request : PlanningRequest K) (port : PortRecord)
    (profile : ProfileId) : PlanBuilder K :=
  let resource := ResourceKey.forPort request.source
  let node := ctx.snapshot.findNode request.source.node
  let empty : PlanBuilder K :=
    { steps := []
      segments := []
      reservations := []
      capability := []
      quality := []
      domainCounts := []
      currentProfile := profile
      mask := ctx.usable port.blockedSlots
      totalCost := port.transitCost
      segmentDistance := 0
      segmentLoss := 0
      segmentOsnrInverse := 0
      segmentSpanCount := 0
      segmentChannelRuns := 0
      segmentLastSlot := none
      segmentIndex := 0
      regenerations := 0
      currentPort := request.source }
  let opened := (((empty.pushStep .port resource
    (kReasonSegmentStart ||| kReasonNotExcluded ||| kReasonAdminUp |||
      kReasonPortAdmitted ||| kReasonSpectrumAvailable |||
      kReasonTransmitProfileKnown) 0).assumeCapability resource
        "transmit_profile" profile.str).assumeCapability resource
          "blocked_slots" ((port.blockedSlots.value?.getD .none).toHex)).noteDomains
            port.failureDomains
  match node with
  | none => opened
  | some node =>
      ((opened.pushStep .node (.forNode node.id)
        (kReasonSegmentStart ||| kReasonNotExcluded ||| kReasonAdminUp)
        node.transitCost).noteDomains node.failureDomains).addCost
          node.transitCost

def memberLimit (domain : FailureDomainId) : UInt32 :=
  (ctx.constraints.maxMembersPerFailureDomain.lookup domain).getD 0

/-- The plan of a walk that stands on the destination, sealed. -/
def finishPlan (request : PlanningRequest K) (requestDigest : Digest256)
    (arcCount : Nat) (builder : PlanBuilder K) : PlanArtifact K :=
  let closed := ctx.closeSegment builder false
    PlanSegment.regenerationResource
  let destination := ResourceKey.forPort request.destination
  let arrived :=
    if closed.steps.getLast?.map PlanStep.resource = some destination then closed
    else closed.pushStep .port destination
      (kReasonNotExcluded ||| kReasonAdminUp ||| kReasonPortAdmitted |||
        kReasonSpectrumAvailable) 0
  ctx.runtime.sealPlan
    { formatVersion := kPlanFormatVersion
      ruleVersion := kPlanningRuleVersion
      requestId := request.id
      requestDigest := requestDigest
      snapshotId := ctx.snapshot.id
      snapshotGeneration := ctx.snapshot.generation
      snapshotDigest := ctx.snapshot.digest
      boundSources := ctx.snapshot.sources.map fun source =>
        ⟨source.id, source.generation,
          ctx.runtime.sourceContributionDigest ctx.snapshot source.id⟩
      source := request.source
      destination := request.destination
      steps := arrived.steps
      segments := arrived.segments
      reservations := arrived.reservations
      capabilityAssumptions := arrived.capability
      qualityAssumptions := arrived.quality
      failureDomainExposure := arrived.domainCounts.map fun entry =>
        ⟨entry.1, entry.2, ctx.memberLimit entry.1⟩
      channelWidthSlots := ctx.rules.channelWidthSlots
      totalCost := arrived.totalCost
      totalDistanceM := arrived.segments.foldl
        (fun total segment => total + segment.distanceM) 0
      totalLossDb := arrived.segments.foldl
        (fun total segment => total + segment.lossDb) 0
      hops := arcCount
      regenerations := arrived.regenerations
      digest := ⟨0⟩ }

def unnamedAssumption (assumptions : List PlanAssumption) : Bool :=
  assumptions.any fun assumption =>
    assumption.resource.empty || assumption.field.isEmpty

def buildPlan (request : PlanningRequest K) (requestDigest : Digest256)
    (arcs : List ArcRef) : Except Status (PlanArtifact K) :=
  match ctx.snapshot.findPort request.source with
  | none => .error (failure .internal
      (text "plan build requires the source port to exist"))
  | some startPort =>
      match startPort.transmitProfile.value? with
      | some (some profile) =>
          if !startPort.blockedSlots.hasValue then
            .error (failure .internal (text ("plan build requires a published " ++
              "spectrum capability at the source port")))
          else
            match arcs.foldlM ctx.addArc (ctx.startBuilder request startPort profile) with
            | .error status => .error status
            | .ok builder =>
                if builder.currentPort ≠ request.destination then
                  .error (failure .internal (text
                    "plan build arc sequence does not end on the destination"))
                else if (ctx.snapshot.findPort builder.currentPort).isNone then
                  .error (failure .internal
                    (text "plan build ended on a port with no record"))
                else if unnamedAssumption builder.capability then
                  .error (failure .internal (text ("plan build produced a " ++
                    "capability assumption without a resource")))
                else if unnamedAssumption builder.quality then
                  .error (failure .internal (text ("plan build produced a " ++
                    "quality assumption without a resource")))
                else
                  .ok (ctx.finishPlan request requestDigest arcs.length builder)
      | _ => .error (failure .internal (text ("plan build requires a published " ++
          "transmit profile at the source port")))

end SearchContext

end OpticalPathPlanner
