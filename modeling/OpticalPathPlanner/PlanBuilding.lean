import OpticalPathPlanner.BuildPlan
import Mathlib

/-!
# What one arc adds to a plan

The builder after a span and after a cross-connect, field by field, and the
facts a successful step rests on.
-/

namespace OpticalPathPlanner

open SortedRanges

variable {K : Type} [Field K] [LinearOrder K]

/-- Count one more member of every listed domain. -/
def countMembers (domains : List FailureDomainId)
    (counts : List (FailureDomainId × Nat)) : List (FailureDomainId × Nat) :=
  domains.foldl (fun counts domain => addMember domain counts) counts

theorem countMembers_append (first second : List FailureDomainId)
    (counts : List (FailureDomainId × Nat)) :
    countMembers (first ++ second) counts =
      countMembers second (countMembers first counts) :=
  List.foldl_append

namespace SearchContext

variable (ctx : SearchContext K)

/-! ### Entering a node -/

/-- The node a route enters when it goes from one port to another. -/
def enteredNode (fromPort toPort : PortKey) : Option NodeRecord :=
  if toPort.node = fromPort.node then none
  else ctx.snapshot.findNode toPort.node

def enteredDomains (fromPort toPort : PortKey) : List FailureDomainId :=
  ((ctx.enteredNode fromPort toPort).map NodeRecord.failureDomains).getD []

/-- The step a route notes when it enters a node. -/
def enteredSteps (index segment : Nat) (fromPort toPort : PortKey) :
    List PlanStep :=
  ((ctx.enteredNode fromPort toPort).map fun node =>
    [⟨index, .node, .forNode node.id, segment,
      kReasonNotExcluded ||| kReasonAdminUp,
      ctx.nodeCostBetween fromPort toPort⟩]).getD []

theorem enterNode_eq (builder : PlanBuilder K) (arrival : PortKey) :
    ctx.enterNode builder arrival =
      { builder with
        steps := builder.steps ++ ctx.enteredSteps builder.steps.length
          builder.segmentIndex builder.currentPort arrival
        domainCounts := countMembers
          (ctx.enteredDomains builder.currentPort arrival)
          builder.domainCounts } := by
  unfold enterNode enteredSteps enteredDomains enteredNode
  split_ifs with same
  · simp [countMembers]
  · cases found : ctx.snapshot.findNode arrival.node with
    | none => simp [countMembers]
    | some node => simp [PlanBuilder.pushStep, PlanBuilder.noteDomains,
        countMembers]

omit [Field K] [LinearOrder K] in
theorem noteSlot_eq (builder : PlanBuilder K) (slot : Nat) :
    builder.noteSlot slot =
      { builder with
        segmentChannelRuns := (builder.noteSlot slot).segmentChannelRuns
        segmentLastSlot := some slot } := by
  unfold PlanBuilder.noteSlot
  split_ifs with same
  · rw [← same]
  · rfl

omit [LinearOrder K] in
theorem ensureSegment_eq (builder : PlanBuilder K) :
    builder.ensureSegment =
      { builder with segments := builder.ensureSegment.segments } := by
  unfold PlanBuilder.ensureSegment
  split_ifs <;> rfl

omit [LinearOrder K] in
/-- Only the segments, the index and the profile decide whether a segment is
opened. -/
theorem ensureSegment_segments_congr {first second : PlanBuilder K}
    (segments : first.segments = second.segments)
    (index : first.segmentIndex = second.segmentIndex)
    (profile : first.currentProfile = second.currentProfile) :
    first.ensureSegment.segments = second.ensureSegment.segments := by
  unfold PlanBuilder.ensureSegment
  rw [segments, index, profile]
  split_ifs
  · exact segments
  · rfl

/-! ### Spans -/

/-- The builder after a span. -/
theorem useSpan_eq (builder : PlanBuilder K) (span : SpanRecord K)
    (reversed : Bool) (target : PortRecord) (length : UInt64) (loss osnr : K)
    (mask : SlotMask) (slot : Nat) :
    ctx.useSpan builder span reversed target length loss osnr mask slot =
      { steps := builder.steps ++ [⟨builder.steps.length, .span,
          .forSpan span.id, builder.segmentIndex, spanReasons, span.cost⟩] ++
          ctx.enteredSteps (builder.steps.length + 1) builder.segmentIndex
            builder.currentPort (span.arrival reversed)
        segments := updateLast (fun segment => { segment with
          spans := segment.spans ++
            [spanUse span reversed length loss osnr slot] })
          builder.ensureSegment.segments
        reservations := builder.reservations ++ [⟨.forSpan span.id,
          ⟨slot, ctx.rules.channelWidthSlots⟩, builder.segmentIndex⟩]
        capability := builder.capability ++ [⟨.forSpan span.id,
          text "blocked_slots", (span.blockedSlots.value?.getD .none).toHex⟩]
        quality := builder.quality ++
          [⟨.forSpan span.id, text "length_m", formatU64 length.toNat⟩,
            ⟨.forSpan span.id, text "loss_db", ctx.runtime.formatDouble loss⟩,
            ⟨.forSpan span.id, text "osnr_db", ctx.runtime.formatDouble osnr⟩]
        domainCounts := countMembers (span.failureDomains ++
          target.failureDomains ++ ctx.enteredDomains builder.currentPort
            (span.arrival reversed)) builder.domainCounts
        currentProfile := builder.currentProfile
        mask := mask
        totalCost := builder.totalCost + span.cost + target.transitCost +
          ctx.nodeCostBetween builder.currentPort (span.arrival reversed)
        segmentDistance := builder.segmentDistance + length
        segmentLoss := builder.segmentLoss + loss
        segmentOsnrInverse := builder.segmentOsnrInverse +
          ctx.runtime.osnrToInverse osnr
        segmentSpanCount := builder.segmentSpanCount + 1
        segmentChannelRuns := (builder.noteSlot slot).segmentChannelRuns
        segmentLastSlot := some slot
        segmentIndex := builder.segmentIndex
        regenerations := builder.regenerations
        currentPort := span.arrival reversed } := by
  have opened : (builder.noteSlot slot).ensureSegment =
      { builder with
        segments := builder.ensureSegment.segments
        segmentChannelRuns := (builder.noteSlot slot).segmentChannelRuns
        segmentLastSlot := some slot } := by
    have segments : (builder.noteSlot slot).ensureSegment.segments =
        builder.ensureSegment.segments := by
      rw [noteSlot_eq]
      exact ensureSegment_segments_congr rfl rfl rfl
    rw [ensureSegment_eq, segments]
    conv_lhs => rw [noteSlot_eq]
  unfold useSpan
  simp only [enterNode_eq, opened, PlanBuilder.addCost, PlanBuilder.pushStep,
    PlanBuilder.noteDomains, PlanBuilder.assumeQuality,
    PlanBuilder.assumeCapability, countMembers_append, List.append_assoc,
    List.cons_append, List.nil_append, List.length_append, List.length_cons,
    List.length_nil]
  rfl

/-- What a span step of the builder rests on. -/
structure SpanBuild (builder : PlanBuilder K) (index : Nat) (reversed : Bool)
    (span : SpanRecord K) (target : PortRecord) (length : UInt64)
    (loss osnr : K) (mask : SlotMask) (slot : Nat) : Prop where
  record : ctx.snapshot.spans[index]? = some span
  lengthM : span.lengthM = .known length
  lossDb : span.lossDb = .known loss
  osnrDb : span.osnrDb = .known osnr
  evidence : (span.blockedSlots.hasValue && span.admin.hasValue) = true
  port : ctx.snapshot.findPort (span.arrival reversed) = some target
  portEvidence : target.blockedSlots.hasValue = true
  mask_eq : mask = (builder.mask.intersect
    (ctx.usable span.blockedSlots)).intersect (ctx.usable target.blockedSlots)
  slot_eq : mask.lowestSetBit = some slot

variable {ctx}

theorem addSpan_eq_ok_iff {builder after : PlanBuilder K} {index : Nat}
    {reversed : Bool} :
    ctx.addSpan builder index reversed = .ok after ↔
      ∃ span target length loss osnr mask slot,
        ctx.SpanBuild builder index reversed span target length loss osnr mask
          slot ∧
        after = ctx.useSpan builder span reversed target length loss osnr mask
          slot := by
  constructor
  · intro added
    unfold addSpan at added
    split at added
    · cases added
    · next span record =>
        split at added
        · next length loss osnr lengthEq lossEq osnrEq evidence =>
            split at added
            · cases added
            · next target port =>
                split_ifs at added with portEvidence
                simp only at added
                split at added
                · cases added
                · next slot slotEq =>
                    cases added
                    exact ⟨span, target, length, loss, osnr, _, slot,
                      ⟨record, Evidence.value?_eq_some_iff.mp lengthEq,
                        Evidence.value?_eq_some_iff.mp lossEq,
                        Evidence.value?_eq_some_iff.mp osnrEq, evidence, port,
                        by simpa using portEvidence, rfl, slotEq⟩, rfl⟩
        · cases added
  · rintro ⟨span, target, length, loss, osnr, mask, slot, built, rfl⟩
    obtain ⟨record, lengthEq, lossEq, osnrEq, evidence, port, portEvidence,
      rfl, slotEq⟩ := built
    unfold addSpan
    simp only [record, lengthEq, lossEq, osnrEq, Evidence.value?_known, evidence,
      port, portEvidence, Bool.not_true, Bool.false_eq_true, if_false, slotEq]

/-! ### Cross-connects -/

variable (ctx)

/-- What the open segment is after a cross-connect. -/
inductive SegmentSwitch (builder : PlanBuilder K) (record : CrossConnectRecord)
    (target : PortRecord) : PlanBuilder K → Prop
  | express {mask : SlotMask} {slot : Nat} (op : record.op = .express)
      (mask_eq : mask = (builder.mask.intersect
        (ctx.usable record.blockedSlots)).intersect
          (ctx.usable target.blockedSlots))
      (slot_eq : mask.lowestSetBit = some slot) :
      SegmentSwitch builder record target
        { builder.noteSlot slot with mask := mask }
  | convert {mask : SlotMask} {slot : Nat} (op : record.op = .convert)
      (mask_eq : mask = ctx.usable target.blockedSlots)
      (slot_eq : mask.lowestSetBit = some slot) :
      SegmentSwitch builder record target
        { builder with
          mask := mask
          segmentChannelRuns := builder.segmentChannelRuns + 1
          segmentLastSlot := some slot }
  | regenerate {profile : ProfileId} (op : record.op = .regenerate)
      (transmits : target.transmitProfile = .known (some profile)) :
      SegmentSwitch builder record target
        { (ctx.closeSegment builder true
            fun _ => .forCrossConnect record.id).assumeCapability
              (.forPort target.key) "transmit_profile" profile.str with
          segmentIndex := builder.segmentIndex + 1
          regenerations := builder.regenerations + 1
          currentProfile := profile
          mask := ctx.usable target.blockedSlots
          segmentDistance := 0
          segmentLoss := 0
          segmentOsnrInverse := 0
          segmentSpanCount := 0
          segmentChannelRuns := 0
          segmentLastSlot := none }

variable {ctx}

theorem switchSegment_eq_ok_iff {builder after : PlanBuilder K}
    {record : CrossConnectRecord} {target : PortRecord} :
    ctx.switchSegment builder record target = .ok after ↔
      ctx.SegmentSwitch builder record target after := by
  constructor
  · intro switched
    unfold switchSegment at switched
    split at switched
    · next op =>
        simp only at switched
        split at switched
        · cases switched
        · next slot slotEq =>
            cases switched
            exact .express op rfl slotEq
    · next op =>
        simp only at switched
        split at switched
        · cases switched
        · next slot slotEq =>
            cases switched
            exact .convert op rfl slotEq
    · next op =>
        split at switched
        · next profile transmits =>
            cases switched
            exact .regenerate op (Evidence.value?_eq_some_iff.mp transmits)
        · cases switched
  · intro switched
    cases switched with
    | express op mask_eq slot_eq =>
        subst mask_eq
        simp only [switchSegment, op, slot_eq]
    | convert op mask_eq slot_eq =>
        subst mask_eq
        simp only [switchSegment, op, slot_eq]
    | regenerate op transmits =>
        simp only [switchSegment, op, transmits, Evidence.value?_known]

variable (ctx)

/-- What a cross-connect step of the builder rests on. -/
structure CrossConnectBuild (builder : PlanBuilder K) (index : Nat)
    (record : CrossConnectRecord) (target : PortRecord)
    (switched : PlanBuilder K) : Prop where
  atIndex : ctx.snapshot.crossConnects[index]? = some record
  evidence : (record.admin.hasValue && record.blockedSlots.hasValue) = true
  port : ctx.snapshot.findPort record.toPort = some target
  portEvidence : target.blockedSlots.hasValue = true
  segment : ctx.SegmentSwitch builder record target switched

variable {ctx}

theorem addCrossConnect_eq_ok_iff {builder after : PlanBuilder K}
    {index : Nat} :
    ctx.addCrossConnect builder index = .ok after ↔
      ∃ record target switched,
        ctx.CrossConnectBuild builder index record target switched ∧
        after = ctx.useCrossConnect switched record target := by
  constructor
  · intro added
    unfold addCrossConnect at added
    split at added
    · cases added
    · next record atIndex =>
        split_ifs at added with evidence
        split at added
        · cases added
        · next target port =>
            split_ifs at added with portEvidence
            split at added
            · cases added
            · next switched segment =>
                cases added
                exact ⟨record, target, switched, ⟨atIndex,
                  by simpa using evidence, port, by simpa using portEvidence,
                  switchSegment_eq_ok_iff.mp segment⟩, rfl⟩
  · rintro ⟨record, target, switched, built, rfl⟩
    unfold addCrossConnect
    simp only [built.atIndex, built.evidence, built.port, built.portEvidence,
      Bool.not_true, Bool.false_eq_true, if_false,
      switchSegment_eq_ok_iff.mpr built.segment]

variable (ctx)

/-- The port and node steps of a cross-connect that is not express. -/
def targetSteps (index segment : Nat) (record : CrossConnectRecord)
    (target : PortRecord) (fromPort : PortKey) : List PlanStep :=
  if record.op = .express then []
  else ⟨index, .port, .forPort target.key, segment,
    operationReasons record.op ||| kReasonSpectrumAvailable,
    target.transitCost⟩ ::
      ctx.enteredSteps (index + 1) segment fromPort target.key

/-- The domains of the node a cross-connect enters, as far as the builder
notes them. -/
def notedDomains (record : CrossConnectRecord) (target : PortRecord)
    (fromPort : PortKey) : List FailureDomainId :=
  if record.op = .express then [] else ctx.enteredDomains fromPort target.key

/-- The builder after a cross-connect. -/
theorem useCrossConnect_eq (builder : PlanBuilder K)
    (record : CrossConnectRecord) (target : PortRecord) :
    ctx.useCrossConnect builder record target =
      { builder with
        steps := builder.steps ++ [⟨builder.steps.length, .crossConnect,
          .forCrossConnect record.id, builder.segmentIndex,
          operationReasons record.op, record.cost⟩] ++
          ctx.targetSteps (builder.steps.length + 1) builder.segmentIndex record
            target builder.currentPort
        capability := builder.capability ++
          [⟨.forCrossConnect record.id, text "operation", record.op.name⟩,
            ⟨.forPort target.key, text "blocked_slots",
              (target.blockedSlots.value?.getD .none).toHex⟩]
        domainCounts := countMembers (record.failureDomains ++
          target.failureDomains ++ ctx.notedDomains record target
            builder.currentPort) builder.domainCounts
        totalCost := builder.totalCost + record.cost +
          ctx.nodeCostBetween builder.currentPort record.toPort +
          target.transitCost
        currentPort := record.toPort } := by
  unfold useCrossConnect stepOntoTarget targetSteps notedDomains
  split_ifs with express
  · simp only [PlanBuilder.addCost, PlanBuilder.pushStep,
      PlanBuilder.noteDomains, PlanBuilder.assumeCapability,
      countMembers_append, List.append_assoc, List.cons_append,
      List.nil_append, List.append_nil]
    rfl
  · simp only [enterNode_eq, PlanBuilder.addCost, PlanBuilder.pushStep,
      PlanBuilder.noteDomains, PlanBuilder.assumeCapability,
      countMembers_append, List.append_assoc, List.cons_append,
      List.nil_append, List.length_append, List.length_cons, List.length_nil]
    rfl

/-! ### Start and segments -/

/-- The node steps and members at the source. -/
def startNodeSteps (source : PortKey) : List PlanStep :=
  ((ctx.snapshot.findNode source.node).map fun node =>
    [⟨1, .node, .forNode node.id, 0,
      kReasonSegmentStart ||| kReasonNotExcluded ||| kReasonAdminUp,
      node.transitCost⟩]).getD []

/-- The builder at the source. -/
theorem startBuilder_eq (request : PlanningRequest K) (port : PortRecord)
    (profile : ProfileId) :
    ctx.startBuilder request port profile =
      { steps := ⟨0, .port, .forPort request.source, 0,
          kReasonSegmentStart ||| kReasonNotExcluded ||| kReasonAdminUp |||
            kReasonPortAdmitted ||| kReasonSpectrumAvailable |||
            kReasonTransmitProfileKnown, 0⟩ :: ctx.startNodeSteps request.source
        segments := []
        reservations := []
        capability :=
          [⟨.forPort request.source, text "transmit_profile", profile.str⟩,
            ⟨.forPort request.source, text "blocked_slots",
              (port.blockedSlots.value?.getD .none).toHex⟩]
        quality := []
        domainCounts := countMembers (port.failureDomains ++
          ((ctx.snapshot.findNode request.source.node).map
            NodeRecord.failureDomains).getD []) []
        currentProfile := profile
        mask := ctx.usable port.blockedSlots
        totalCost := port.transitCost +
          ((ctx.snapshot.findNode request.source.node).map
            NodeRecord.transitCost).getD 0
        segmentDistance := 0
        segmentLoss := 0
        segmentOsnrInverse := 0
        segmentSpanCount := 0
        segmentChannelRuns := 0
        segmentLastSlot := none
        segmentIndex := 0
        regenerations := 0
        currentPort := request.source } := by
  unfold startBuilder startNodeSteps
  cases found : ctx.snapshot.findNode request.source.node with
  | none =>
      simp only [PlanBuilder.pushStep, PlanBuilder.noteDomains,
        PlanBuilder.assumeCapability, List.nil_append, List.cons_append,
        List.length_nil, Option.map_none, Option.getD_none, List.append_nil,
        UInt64.add_zero]
      rfl
  | some node =>
      simp only [PlanBuilder.pushStep, PlanBuilder.noteDomains,
        PlanBuilder.assumeCapability, PlanBuilder.addCost, List.nil_append,
        List.cons_append, List.length_nil, List.length_cons, Option.map_some,
        Option.getD_some, countMembers_append]
      rfl

theorem closeSegment_eq (builder : PlanBuilder K) (ended : Bool)
    (regeneration : PlanSegment K → ResourceKey) :
    ctx.closeSegment builder ended regeneration =
      { builder with
        segments := updateLast (fun segment => { segment with
          profile := builder.currentProfile
          distanceM := builder.segmentDistance
          lossDb := builder.segmentLoss
          osnrDb := ctx.runtime.reportedOsnr builder.segmentOsnrInverse
          spanCount := builder.segmentSpanCount
          channelRuns := builder.segmentChannelRuns
          endedByRegeneration := ended
          regenerationResource := regeneration segment })
          builder.ensureSegment.segments } := by
  unfold closeSegment
  simp only
  rw [ensureSegment_eq]

omit [LinearOrder K] in
/-- A segment that is already open stays the last one. -/
theorem ensureSegment_of_open {builder : PlanBuilder K}
    {closed : List (PlanSegment K)} {segment : PlanSegment K}
    (segments : builder.segments = closed ++ [segment])
    (index : segment.index = builder.segmentIndex) :
    builder.ensureSegment.segments = closed ++ [segment] := by
  unfold PlanBuilder.ensureSegment
  rw [if_pos]
  · exact segments
  · simp [segments, index]

omit [LinearOrder K] in
/-- A segment is opened when the last one belongs to an earlier index. -/
theorem ensureSegment_of_closed {builder : PlanBuilder K}
    (earlier : ∀ segment ∈ builder.segments,
      segment.index < builder.segmentIndex) :
    ∃ segment, builder.ensureSegment.segments = builder.segments ++ [segment] ∧
      segment.index = builder.segmentIndex ∧ segment.spans = [] := by
  unfold PlanBuilder.ensureSegment
  rw [if_neg]
  · exact ⟨_, rfl, rfl, rfl⟩
  · intro same
    obtain ⟨segment, last, index⟩ := Option.map_eq_some_iff.mp same
    have before := earlier segment (List.mem_of_getLast? last)
    omega

/-- What switching the open segment leaves alone. -/
theorem SegmentSwitch.frame {builder switched : PlanBuilder K}
    {record : CrossConnectRecord} {target : PortRecord}
    (segment : ctx.SegmentSwitch builder record target switched) :
    switched.steps = builder.steps ∧
      switched.domainCounts = builder.domainCounts ∧
      switched.reservations = builder.reservations ∧
      switched.totalCost = builder.totalCost ∧
      switched.currentPort = builder.currentPort := by
  cases segment with
  | express op mask_eq slot_eq =>
      rw [noteSlot_eq]
      exact ⟨rfl, rfl, rfl, rfl, rfl⟩
  | convert op mask_eq slot_eq => exact ⟨rfl, rfl, rfl, rfl, rfl⟩
  | regenerate op transmits =>
      rw [closeSegment_eq]
      exact ⟨rfl, rfl, rfl, rfl, rfl⟩

end SearchContext

end OpticalPathPlanner
