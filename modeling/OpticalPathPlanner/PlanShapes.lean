import OpticalPathPlanner.BuilderRuns
import OpticalPathPlanner.PlanTotals
import OpticalPathPlanner.TokenCodecs
import OpticalPathPlanner.WavelengthRuns

/-!
# The shape of a plan

Steps, reservations and segments of a plan are filled in separately, and a
segment is opened only when something is recorded in it.  Along every run of the
builder they stay aligned: a regeneration closes the segment of the part of the
route before it, whether or not that part uses a span.
-/

namespace OpticalPathPlanner

variable {K : Type}

/-! ### What a plan shows of its route -/

def PlanStep.key (step : PlanStep) : StepKind × ResourceKey :=
  (step.kind, step.resource)

/-- Steps onto ports and into nodes come besides the steps of the arcs. -/
def PlanStep.followsArc (step : PlanStep) : Bool :=
  decide (step.kind = .span ∨ step.kind = .crossConnect)

def PlanStep.onSpan (step : PlanStep) : Bool :=
  decide (step.kind = .span)

def Link.stepKey : Link K → StepKind × ResourceKey
  | .span record _ => (.span, .forSpan record.id)
  | .crossConnect record => (.crossConnect, .forCrossConnect record.id)

/-- The spans of some hops, with the direction they are used in. -/
def spanLinks (hops : List (Hop K)) : List (SpanId × Bool) :=
  hops.flatMap fun hop => match hop.link with
    | .span record reversed => [(record.id, reversed)]
    | .crossConnect _ => []

def PlanSegment.spanLinks (segment : PlanSegment K) : List (SpanId × Bool) :=
  segment.spans.map fun use => (use.id, use.reversed)

/-- A part of a route and the regeneration that follows it. -/
structure RoutePart (K : Type) where
  hops : List (Hop K)
  regeneration : CrossConnectRecord
  target : PortRecord

def RoutePart.all (part : RoutePart K) : List (Hop K) :=
  part.hops ++ [⟨.crossConnect part.regeneration, part.target⟩]

/-- The segment of a part that a regeneration ends. -/
structure RoutePart.Closes (segment : PlanSegment K) (part : RoutePart K) :
    Prop where
  transparent : ∀ hop ∈ part.hops, hop.link.regenerates = false
  regenerates : part.regeneration.op = .regenerate
  spans : segment.spanLinks = spanLinks part.hops
  ended : segment.endedByRegeneration = true
  regeneration : segment.regenerationResource =
    .forCrossConnect part.regeneration.id

/-- A route in parts, with a segment for each part and one for the rest. -/
structure SegmentsOver (hops : List (Hop K)) (segments : List (PlanSegment K))
    (parts : List (RoutePart K)) (rest : List (Hop K))
    (closed : List (PlanSegment K)) (trailing : PlanSegment K) : Prop where
  route : hops = parts.flatMap RoutePart.all ++ rest
  segments_eq : segments = closed ++ [trailing]
  closes : List.Forall₂ RoutePart.Closes closed parts
  transparent : ∀ hop ∈ rest, hop.link.regenerates = false
  spans : trailing.spanLinks = spanLinks rest
  last : trailing.endedByRegeneration = false

/-- Steps, reservations and segments of a plan fit each other and the hops of
its route. -/
structure PlanShape (request : PlanningRequest K) (hops : List (Hop K))
    (plan : PlanArtifact K) : Prop where
  indices : plan.steps.map PlanStep.index = List.range plan.steps.length
  first : plan.steps.head?.map PlanStep.key =
    some (.port, .forPort request.source)
  last : plan.steps.getLast?.map PlanStep.key =
    some (.port, .forPort request.destination)
  arcs : (plan.steps.filter PlanStep.followsArc).map PlanStep.key =
    hops.map fun hop => hop.link.stepKey
  hops_eq : plan.hops = hops.length
  segmentIndices : plan.segments.map PlanSegment.index =
    List.range (plan.regenerations + 1)
  segments : ∃ parts rest closed trailing,
    SegmentsOver hops plan.segments parts rest closed trailing
  reservations : plan.reservations.map (fun reservation =>
      (reservation.resource, reservation.segmentIndex)) =
    (plan.steps.filter PlanStep.onSpan).map fun step =>
      (step.resource, step.segmentIndex)
  spanCounts : ∀ segment ∈ plan.segments,
    segment.spanCount = segment.spans.length
  spanTotal : (plan.segments.map PlanSegment.spanCount).sum =
    plan.reservations.length
  ordered : (plan.steps.map PlanStep.segmentIndex).Pairwise (· ≤ ·)
  bounded : ∀ step ∈ plan.steps, step.segmentIndex < plan.segments.length

/-! ### Steps and reservations -/

/-- The steps and the reservations of a walk that stands in a segment. -/
structure StepsShape (source : PortKey) (hops : List (Hop K))
    (steps : List PlanStep) (reservations : List PlanReservation)
    (segment : Nat) : Prop where
  indices : steps.map PlanStep.index = List.range steps.length
  first : steps.head?.map PlanStep.key = some (.port, .forPort source)
  arcs : (steps.filter PlanStep.followsArc).map PlanStep.key =
    hops.map fun hop => hop.link.stepKey
  reserved : reservations.map (fun reservation =>
      (reservation.resource, reservation.segmentIndex)) =
    (steps.filter PlanStep.onSpan).map fun step =>
      (step.resource, step.segmentIndex)
  ordered : (steps.map PlanStep.segmentIndex).Pairwise (· ≤ ·)
  bounded : ∀ step ∈ steps, step.segmentIndex ≤ segment
  ports : ∀ step ∈ steps, step.resource.kind = .port → step.kind = .port

/-- Steps that are added in one segment. -/
structure StepsAdded (index segment : Nat) (hops : List (Hop K))
    (steps : List PlanStep) (reservations : List PlanReservation) : Prop where
  indices : steps.map PlanStep.index = List.range' index steps.length
  arcs : (steps.filter PlanStep.followsArc).map PlanStep.key =
    hops.map fun hop => hop.link.stepKey
  reserved : reservations.map (fun reservation =>
      (reservation.resource, reservation.segmentIndex)) =
    (steps.filter PlanStep.onSpan).map fun step =>
      (step.resource, step.segmentIndex)
  segments : ∀ step ∈ steps, step.segmentIndex = segment
  ports : ∀ step ∈ steps, step.resource.kind = .port → step.kind = .port

namespace StepsShape

variable {source : PortKey} {hops moreHops : List (Hop K)}
  {steps moreSteps : List PlanStep}
  {reservations moreReservations : List PlanReservation} {segment later : Nat}

theorem add (shape : StepsShape source hops steps reservations segment)
    (notBefore : segment ≤ later)
    (added : StepsAdded steps.length later moreHops moreSteps moreReservations) :
    StepsShape source (hops ++ moreHops) (steps ++ moreSteps)
      (reservations ++ moreReservations) later := by
  have before : ∀ step ∈ steps, step.segmentIndex ≤ later :=
    fun step member => (shape.bounded step member).trans notBefore
  refine ⟨?_, ?_, ?_, ?_, ?_, ?_, ?_⟩
  · rw [List.map_append, shape.indices, added.indices, List.length_append,
      List.range_eq_range', List.range_eq_range', ← List.range'_append_1,
      Nat.zero_add]
  · rw [List.head?_append]
    obtain ⟨step, isFirst, key⟩ := Option.map_eq_some_iff.mp shape.first
    rw [isFirst]
    exact congrArg some key
  · rw [List.filter_append, List.map_append, shape.arcs, added.arcs,
      List.map_append]
  · rw [List.filter_append, List.map_append, List.map_append, shape.reserved,
      added.reserved]
  · rw [List.map_append, List.pairwise_append]
    refine ⟨shape.ordered, ?_, ?_⟩
    · refine List.pairwise_map.mpr (List.pairwise_of_forall_mem_list ?_)
      intro first isFirst second isSecond
      rw [added.segments first isFirst, added.segments second isSecond]
    · intro first isFirst second isSecond
      obtain ⟨earlier, isEarlier, rfl⟩ := List.mem_map.mp isFirst
      obtain ⟨step, isStep, rfl⟩ := List.mem_map.mp isSecond
      rw [added.segments step isStep]
      exact before earlier isEarlier
  · refine List.forall_mem_append.mpr ⟨before, ?_⟩
    exact fun step member => (added.segments step member).le
  · exact List.forall_mem_append.mpr ⟨shape.ports, added.ports⟩

end StepsShape

theorem nodeSteps_added (node : Option NodeRecord) (index segment reasons : Nat)
    (cost : NodeRecord → UInt64) :
    StepsAdded index segment ([] : List (Hop K))
      ((node.map fun node => [(⟨index, .node, .forNode node.id, segment,
        reasons, cost node⟩ : PlanStep)]).getD []) [] := by
  cases node with
  | none => exact ⟨rfl, rfl, rfl, nofun, nofun⟩
  | some node =>
      refine ⟨rfl, rfl, rfl, ?_, ?_⟩
      · exact List.forall_mem_singleton.mpr rfl
      · exact List.forall_mem_singleton.mpr nofun

/-- The steps of one hop, in the order they are added. -/
theorem StepsAdded.cons {index segment : Nat} {step : PlanStep}
    {hops moreHops : List (Hop K)} {steps : List PlanStep}
    {reservations moreReservations : List PlanReservation}
    (head : StepsAdded index segment hops [step] reservations)
    (tail : StepsAdded (index + 1) segment moreHops steps moreReservations) :
    StepsAdded index segment (hops ++ moreHops) (step :: steps)
      (reservations ++ moreReservations) := by
  have split : step :: steps = [step] ++ steps := rfl
  rw [split]
  refine ⟨?_, ?_, ?_, ?_, ?_⟩
  · rw [List.map_append, head.indices, tail.indices, List.length_append]
    exact List.range'_append_1
  · rw [List.filter_append, List.map_append, head.arcs, tail.arcs,
      List.map_append]
  · rw [List.filter_append, List.map_append, List.map_append, head.reserved,
      tail.reserved]
  · exact List.forall_mem_append.mpr ⟨head.segments, tail.segments⟩
  · exact List.forall_mem_append.mpr ⟨head.ports, tail.ports⟩

/-- The step onto the destination is added unless it is already the last. -/
theorem StepsShape.arrive {source : PortKey} {hops : List (Hop K)}
    {steps : List PlanStep} {reservations : List PlanReservation}
    {segment reasons : Nat} (destination : PortKey)
    (shape : StepsShape source hops steps reservations segment) :
    let finished := if steps.getLast?.map PlanStep.resource =
        some (.forPort destination) then steps
      else steps ++ [⟨steps.length, .port, .forPort destination, segment,
        reasons, 0⟩]
    StepsShape source hops finished reservations segment ∧
      finished.getLast?.map PlanStep.key =
        some (.port, .forPort destination) := by
  intro finished
  by_cases arrived : steps.getLast?.map PlanStep.resource =
      some (.forPort destination)
  · have same : finished = steps := if_pos arrived
    rw [same]
    refine ⟨shape, ?_⟩
    obtain ⟨step, isLast, resource⟩ := Option.map_eq_some_iff.mp arrived
    have kind : step.kind = .port :=
      shape.ports step (List.mem_of_getLast? isLast) (by rw [resource]; rfl)
    rw [isLast, Option.map_some, PlanStep.key, kind, resource]
  · have same : finished = steps ++ [⟨steps.length, .port, .forPort destination,
        segment, reasons, 0⟩] := if_neg arrived
    have added : StepsAdded steps.length segment ([] : List (Hop K))
        [⟨steps.length, .port, .forPort destination, segment, reasons, 0⟩]
        [] := by
      refine ⟨rfl, rfl, rfl, ?_, ?_⟩
      · exact List.forall_mem_singleton.mpr rfl
      · exact List.forall_mem_singleton.mpr fun _ => rfl
    rw [same]
    refine ⟨?_, ?_⟩
    · have longer := shape.add le_rfl added
      rwa [List.append_nil, List.append_nil] at longer
    · rw [List.getLast?_concat]
      rfl

namespace SearchContext

variable [Field K] [LinearOrder K] {ctx : SearchContext K}
  {request : PlanningRequest K} {start : PortRecord} {profile : ProfileId}
  {arcs : List ArcRef} {hops : List (Hop K)} {builder : PlanBuilder K}

theorem spanSteps_added {builder : PlanBuilder K} {span : SpanRecord K}
    {reversed : Bool} {target : PortRecord} (channel : Channel) :
    StepsAdded builder.steps.length builder.segmentIndex
      [⟨.span span reversed, target⟩]
      (⟨builder.steps.length, .span, .forSpan span.id, builder.segmentIndex,
          spanReasons, span.cost⟩ ::
        ctx.enteredSteps (builder.steps.length + 1) builder.segmentIndex
          builder.currentPort (span.arrival reversed))
      [⟨.forSpan span.id, channel, builder.segmentIndex⟩] := by
  have first : StepsAdded builder.steps.length builder.segmentIndex
      [⟨.span span reversed, target⟩]
      [⟨builder.steps.length, .span, .forSpan span.id, builder.segmentIndex,
        spanReasons, span.cost⟩]
      [⟨.forSpan span.id, channel, builder.segmentIndex⟩] := by
    refine ⟨rfl, rfl, rfl, ?_, ?_⟩
    · exact List.forall_mem_singleton.mpr rfl
    · exact List.forall_mem_singleton.mpr nofun
  exact first.cons (nodeSteps_added _ _ _ _ _)

theorem crossConnectSteps_added {builder : PlanBuilder K}
    {record : CrossConnectRecord} {target : PortRecord} :
    StepsAdded builder.steps.length builder.segmentIndex
      ([⟨.crossConnect record, target⟩] : List (Hop K))
      (⟨builder.steps.length, .crossConnect, .forCrossConnect record.id,
          builder.segmentIndex, operationReasons record.op,
          record.cost⟩ ::
        ctx.targetSteps (builder.steps.length + 1) builder.segmentIndex record
          target builder.currentPort) [] := by
  have first : StepsAdded builder.steps.length builder.segmentIndex
      ([⟨.crossConnect record, target⟩] : List (Hop K))
      [⟨builder.steps.length, .crossConnect, .forCrossConnect record.id,
        builder.segmentIndex, operationReasons record.op,
        record.cost⟩] [] := by
    refine ⟨rfl, rfl, rfl, ?_, ?_⟩
    · exact List.forall_mem_singleton.mpr rfl
    · exact List.forall_mem_singleton.mpr nofun
  unfold targetSteps
  split_ifs with express
  · exact first
  · have onto : StepsAdded (builder.steps.length + 1) builder.segmentIndex
        ([] : List (Hop K))
        [⟨builder.steps.length + 1, .port, .forPort target.key,
          builder.segmentIndex, operationReasons record.op |||
            kReasonSpectrumAvailable, target.transitCost⟩] [] := by
      refine ⟨rfl, rfl, rfl, ?_, ?_⟩
      · exact List.forall_mem_singleton.mpr rfl
      · exact List.forall_mem_singleton.mpr fun _ => rfl
    exact first.cons (onto.cons (nodeSteps_added _ _ _ _ _))

/-- A regeneration moves on to the next segment. -/
theorem SegmentSwitch.segmentIndex_eq {switched : PlanBuilder K}
    {record : CrossConnectRecord} {target : PortRecord}
    (segment : ctx.SegmentSwitch builder record target switched) :
    switched.segmentIndex = builder.segmentIndex +
      if record.op = .regenerate then 1 else 0 := by
  cases segment with
  | express op mask_eq slot_eq =>
      rw [noteSlot_eq]
      simp [op]
  | convert op mask_eq slot_eq => simp [op]
  | regenerate op transmits => simp [op]

theorem BuilderRun.stepsShape
    (run : ctx.BuilderRun request start profile arcs hops builder) :
    StepsShape request.source hops builder.steps builder.reservations
      builder.segmentIndex := by
  induction run with
  | start =>
      rw [startBuilder_eq]
      have first : StepsShape request.source ([] : List (Hop K))
          [⟨0, .port, .forPort request.source, 0,
            kReasonSegmentStart ||| kReasonNotExcluded ||| kReasonAdminUp |||
              kReasonPortAdmitted ||| kReasonSpectrumAvailable |||
              kReasonTransmitProfileKnown, 0⟩] [] 0 := by
        refine ⟨rfl, rfl, rfl, rfl, List.pairwise_singleton _ _, ?_, ?_⟩
        · exact List.forall_mem_singleton.mpr le_rfl
        · exact List.forall_mem_singleton.mpr fun _ => rfl
      exact first.add le_rfl (nodeSteps_added _ _ _ _ _)
  | span before built ih =>
      rw [useSpan_eq]
      dsimp only
      rw [List.append_assoc]
      exact ih.add le_rfl (spanSteps_added _)
  | @crossConnect _ _ builder switched _ _ record target before built ih =>
      obtain ⟨steps, _, reservations, _⟩ := built.segment.frame
      have notBefore : builder.segmentIndex ≤ switched.segmentIndex := by
        rw [built.segment.segmentIndex_eq]
        exact Nat.le_add_right _ _
      rw [← steps, ← reservations] at ih
      rw [useCrossConnect_eq]
      dsimp only
      rw [List.append_assoc, ← List.append_nil switched.reservations]
      exact ih.add notBefore crossConnectSteps_added

/-! ### Segments -/

/-- The segments of a builder, the closed ones and the open one, if anything
was recorded in it. -/
structure SegmentsShape (hops : List (Hop K)) (builder : PlanBuilder K)
    (parts : List (RoutePart K)) (rest : List (Hop K))
    (closed opened : List (PlanSegment K)) : Prop where
  route : hops = parts.flatMap RoutePart.all ++ rest
  transparent : ∀ hop ∈ rest, hop.link.regenerates = false
  segments : builder.segments = closed ++ opened
  closes : List.Forall₂ RoutePart.Closes closed parts
  indices : closed.map PlanSegment.index = List.range builder.segmentIndex
  counts : ∀ segment ∈ closed, segment.spanCount = segment.spans.length
  current : (opened = [] ∧ spanLinks rest = []) ∨
    ∃ segment, opened = [segment] ∧ segment.index = builder.segmentIndex ∧
      segment.spanLinks = spanLinks rest
  spanCount : builder.segmentSpanCount = (spanLinks rest).length
  total : (closed.map PlanSegment.spanCount).sum + builder.segmentSpanCount =
    builder.reservations.length
  regenerations : builder.regenerations = builder.segmentIndex

namespace SegmentsShape

variable {parts : List (RoutePart K)} {rest : List (Hop K)}
  {closed opened : List (PlanSegment K)}

omit [LinearOrder K] in
/-- The segment that is open when one is needed. -/
theorem ensureSegment
    (shape : SegmentsShape hops builder parts rest closed opened) :
    ∃ segment, builder.ensureSegment.segments = closed ++ [segment] ∧
      segment.index = builder.segmentIndex ∧
      segment.spanLinks = spanLinks rest := by
  have segments := shape.segments
  rcases shape.current with ⟨none_, noSpans⟩ | ⟨segment, isOpen, index, spans⟩
  · rw [none_, List.append_nil] at segments
    have earlier : ∀ segment ∈ builder.segments,
        segment.index < builder.segmentIndex := by
      intro segment member
      rw [segments] at member
      have isIndex := List.mem_map_of_mem (f := PlanSegment.index) member
      rw [shape.indices] at isIndex
      exact List.mem_range.mp isIndex
    obtain ⟨segment, opens, index, spans⟩ := ensureSegment_of_closed earlier
    rw [segments] at opens
    refine ⟨segment, opens, index, ?_⟩
    rw [noSpans, PlanSegment.spanLinks, spans, List.map_nil]
  · rw [isOpen] at segments
    exact ⟨segment, ensureSegment_of_open segments index, index, spans⟩

variable (ctx) in
/-- Closing the open segment records the number of its spans. -/
theorem closeSegment
    (shape : SegmentsShape hops builder parts rest closed opened) (ended : Bool)
    (regeneration : PlanSegment K → ResourceKey) :
    ∃ segment before,
      (ctx.closeSegment builder ended regeneration).segments =
        closed ++ [segment] ∧
      segment.index = builder.segmentIndex ∧
      segment.spanLinks = spanLinks rest ∧
      segment.spanCount = segment.spans.length ∧
      segment.endedByRegeneration = ended ∧
      segment.regenerationResource = regeneration before := by
  obtain ⟨segment, opens, index, spans⟩ := shape.ensureSegment
  rw [closeSegment_eq]
  dsimp only
  rw [opens, updateLast_concat]
  refine ⟨_, segment, rfl, index, spans, ?_, rfl, rfl⟩
  change builder.segmentSpanCount = segment.spans.length
  rw [shape.spanCount, ← spans, PlanSegment.spanLinks, List.length_map]

omit [Field K] [LinearOrder K] in
/-- With the open segment closed, the spans of all segments are counted. -/
theorem total_concat
    (shape : SegmentsShape hops builder parts rest closed opened)
    {segment : PlanSegment K} (spans : segment.spanLinks = spanLinks rest)
    (count : segment.spanCount = segment.spans.length) :
    ((closed ++ [segment]).map PlanSegment.spanCount).sum =
      builder.reservations.length := by
  have open_ : segment.spanCount = builder.segmentSpanCount := by
    rw [count, shape.spanCount, ← spans, PlanSegment.spanLinks, List.length_map]
  rw [List.map_append, List.sum_append, List.map_singleton, List.sum_singleton,
    open_, shape.total]

end SegmentsShape

omit [Field K] [LinearOrder K] in
theorem spanLinks_append (first second : List (Hop K)) :
    spanLinks (first ++ second) = spanLinks first ++ spanLinks second :=
  List.flatMap_append

/-- A span is recorded in the open segment. -/
theorem SegmentsShape.useSpan {parts : List (RoutePart K)}
    {rest : List (Hop K)} {closed opened : List (PlanSegment K)}
    (shape : SegmentsShape hops builder parts rest closed opened)
    (span : SpanRecord K) (reversed : Bool) (target : PortRecord)
    (length : UInt64) (loss osnr : K) (mask : SlotMask) (slot : Nat) :
    ∃ segment, SegmentsShape (hops ++ [⟨.span span reversed, target⟩])
      (ctx.useSpan builder span reversed target length loss osnr mask slot) parts
      (rest ++ [⟨.span span reversed, target⟩]) closed [segment] := by
  obtain ⟨segment, opens, index, spans⟩ := shape.ensureSegment
  rw [useSpan_eq, opens, updateLast_concat]
  refine ⟨_, ?_, ?_, rfl, shape.closes, shape.indices, shape.counts,
    .inr ⟨_, rfl, index, ?_⟩, ?_, ?_, shape.regenerations⟩
  · rw [shape.route, List.append_assoc]
  · exact List.forall_mem_append.mpr
      ⟨shape.transparent, List.forall_mem_singleton.mpr rfl⟩
  · rw [spanLinks_append, ← spans]
    simp [PlanSegment.spanLinks, spanUse, spanLinks]
  · rw [spanLinks_append, List.length_append, ← shape.spanCount]
    rfl
  · have total := shape.total
    simp only [List.length_append, List.length_cons, List.length_nil]
    omega

omit [Field K] [LinearOrder K] in
/-- A cross-connect that does not regenerate records nothing. -/
theorem SegmentsShape.passCrossConnect {parts : List (RoutePart K)}
    {rest : List (Hop K)} {closed opened : List (PlanSegment K)}
    (shape : SegmentsShape hops builder parts rest closed opened)
    {record : CrossConnectRecord} (passes : record.op ≠ .regenerate)
    (target : PortRecord) {after : PlanBuilder K}
    (segments : after.segments = builder.segments)
    (segmentIndex : after.segmentIndex = builder.segmentIndex)
    (spanCount : after.segmentSpanCount = builder.segmentSpanCount)
    (reservations : after.reservations = builder.reservations)
    (regenerations : after.regenerations = builder.regenerations) :
    SegmentsShape (hops ++ [⟨.crossConnect record, target⟩]) after parts
      (rest ++ [⟨.crossConnect record, target⟩]) closed opened := by
  have links : spanLinks (rest ++ [⟨.crossConnect record, target⟩]) =
      spanLinks rest := by
    rw [spanLinks_append]
    exact List.append_nil _
  refine ⟨?_, ?_, segments.trans shape.segments, shape.closes, ?_, shape.counts,
    ?_, ?_, ?_, ?_⟩
  · rw [shape.route, List.append_assoc]
  · exact List.forall_mem_append.mpr ⟨shape.transparent,
      List.forall_mem_singleton.mpr (decide_eq_false passes)⟩
  · rw [segmentIndex, shape.indices]
  · rw [links, segmentIndex]
    exact shape.current
  · rw [links, spanCount, shape.spanCount]
  · rw [spanCount, reservations, shape.total]
  · rw [regenerations, segmentIndex, shape.regenerations]

/-- The segments of a builder belong to the parts of the route it walked. -/
theorem BuilderRun.segmentsShape
    (run : ctx.BuilderRun request start profile arcs hops builder) :
    ∃ parts rest closed opened,
      SegmentsShape hops builder parts rest closed opened := by
  induction run with
  | start =>
      rw [startBuilder_eq]
      refine ⟨[], [], [], [], rfl, ?_, rfl, .nil, rfl, ?_, .inl ⟨rfl, rfl⟩, rfl,
        rfl, rfl⟩
      · exact List.forall_mem_nil _
      · exact List.forall_mem_nil _
  | span before built ih =>
      obtain ⟨parts, rest, closed, opened, shape⟩ := ih
      obtain ⟨segment, used⟩ := shape.useSpan _ _ _ _ _ _ _ _
      exact ⟨parts, _, closed, [segment], used⟩
  | @crossConnect _ _ builder switched _ _ record target before built ih =>
      obtain ⟨parts, rest, closed, opened, shape⟩ := ih
      rw [useCrossConnect_eq]
      cases built.segment with
      | express op mask_eq slot_eq =>
          rw [noteSlot_eq]
          exact ⟨parts, _, closed, opened,
            shape.passCrossConnect (by simp [op]) target rfl rfl rfl rfl rfl⟩
      | convert op mask_eq slot_eq =>
          exact ⟨parts, _, closed, opened,
            shape.passCrossConnect (by simp [op]) target rfl rfl rfl rfl rfl⟩
      | regenerate op transmits =>
          obtain ⟨segment, _, closes, index, spans, count, ended, named⟩ :=
            shape.closeSegment ctx true fun _ => .forCrossConnect record.id
          refine ⟨parts ++ [⟨rest, record, target⟩], [], closed ++ [segment], [],
            ?_, List.forall_mem_nil _, ?_, ?_, ?_, ?_, .inl ⟨rfl, rfl⟩, rfl, ?_,
            ?_⟩
          · rw [shape.route, List.flatMap_append, List.append_nil,
              List.append_assoc]
            simp [RoutePart.all]
          · rw [List.append_nil]
            exact closes
          · exact List.rel_append shape.closes
              (.cons ⟨shape.transparent, op, spans, ended, named⟩ .nil)
          · rw [List.map_append, shape.indices, List.map_singleton, index]
            exact List.range_succ.symm
          · exact List.forall_mem_append.mpr
              ⟨shape.counts, List.forall_mem_singleton.mpr count⟩
          · rw [closeSegment_eq]
            exact shape.total_concat spans count
          · exact congrArg (· + 1) shape.regenerations

/-! ### Finished plans -/

/-- The steps of a finished plan end on the destination. -/
theorem finishPlan_steps (requestDigest : Digest256) (arcCount : Nat) :
    (ctx.finishPlan request requestDigest arcCount builder).steps =
      if builder.steps.getLast?.map PlanStep.resource =
          some (.forPort request.destination) then builder.steps
      else builder.steps ++ [⟨builder.steps.length, .port,
        .forPort request.destination, builder.segmentIndex,
        kReasonNotExcluded ||| kReasonAdminUp ||| kReasonPortAdmitted |||
          kReasonSpectrumAvailable, 0⟩] := by
  unfold finishPlan
  rw [closeSegment_eq]
  dsimp only
  split_ifs <;> rfl

theorem finishPlan_regenerations (requestDigest : Digest256) (arcCount : Nat) :
    (ctx.finishPlan request requestDigest arcCount builder).regenerations =
      builder.regenerations := by
  unfold finishPlan
  rw [closeSegment_eq]
  dsimp only
  split_ifs <;> rfl

/-- A run to the destination finishes as a plan in shape. -/
theorem BuilderRun.planShape
    (run : ctx.BuilderRun request start profile arcs hops builder)
    (requestDigest : Digest256) :
    PlanShape request hops
      (ctx.finishPlan request requestDigest arcs.length builder) := by
  obtain ⟨parts, rest, closed, opened, segments⟩ := run.segmentsShape
  obtain ⟨trailing, _, closes, index, spans, count, ended, _⟩ :=
    segments.closeSegment ctx false PlanSegment.regenerationResource
  have finished : (ctx.finishPlan request requestDigest arcs.length
      builder).segments = closed ++ [trailing] := by
    rw [finishPlan_segments, closes]
  obtain ⟨steps, last⟩ := run.stepsShape.arrive request.destination
  rw [← finishPlan_steps requestDigest arcs.length] at steps last
  have indices : (closed ++ [trailing]).map PlanSegment.index =
      List.range (builder.segmentIndex + 1) := by
    rw [List.map_append, segments.indices, List.map_singleton, index]
    exact List.range_succ.symm
  have number : (closed ++ [trailing]).length = builder.segmentIndex + 1 := by
    simpa using congrArg List.length indices
  refine ⟨steps.indices, steps.first, last, steps.arcs, run.length_hops.symm, ?_,
    ⟨parts, rest, closed, trailing, segments.route, finished, segments.closes,
      segments.transparent, spans, ended⟩, ?_, ?_, ?_, steps.ordered, ?_⟩
  · rw [finished, finishPlan_regenerations, segments.regenerations, indices]
  · rw [finishPlan_reservations]
    exact steps.reserved
  · rw [finished]
    exact List.forall_mem_append.mpr
      ⟨segments.counts, List.forall_mem_singleton.mpr count⟩
  · rw [finished, finishPlan_reservations]
    exact segments.total_concat spans count
  · intro step member
    rw [finished, number]
    exact Nat.lt_succ_of_le (steps.bounded step member)

end SearchContext

/-- Whatever arc sequence a plan is built from, its steps, reservations and
segments fit the hops the arcs stand for. -/
theorem buildPlan_shape [Field K] [LinearOrder K] {runtime : Runtime K}
    {snapshot : TopologySnapshot K} {request : PlanningRequest K}
    {requestDigest : Digest256} {arcs : List ArcRef} {plan : PlanArtifact K}
    (built : (searchContext runtime snapshot request).buildPlan request
      requestDigest arcs = .ok plan) :
    ∃ hops, snapshot.hops arcs = some hops ∧ hops.length = arcs.length ∧
      PlanShape request hops plan := by
  obtain ⟨start, profile, hops, builder, _, _, run, _, rfl⟩ :=
    SearchContext.run_of_buildPlan built
  exact ⟨hops, run.resolved, run.length_hops, run.planShape requestDigest⟩

theorem buildPlan_shape_regeneratedLine :
    ∃ plan hops, (searchContext rationalRuntime
        (regeneratedLine.finished rationalRuntime) acrossSpan).buildPlan acrossSpan
        (rationalRuntime.computeRequestDigest acrossSpan)
        [⟨.span, 0, false⟩, ⟨.crossConnect, 0, false⟩, ⟨.span, 1, false⟩] =
      .ok plan ∧ hops.length = 3 ∧ PlanShape acrossSpan hops plan := by
  have succeeds : ((searchContext rationalRuntime
      (regeneratedLine.finished rationalRuntime) acrossSpan).buildPlan acrossSpan
        (rationalRuntime.computeRequestDigest acrossSpan)
        [⟨.span, 0, false⟩, ⟨.crossConnect, 0, false⟩,
          ⟨.span, 1, false⟩]).toOption.isSome = true := by
    decide +kernel
  obtain ⟨plan, isPlan⟩ := Option.isSome_iff_exists.mp succeeds
  have built := toOption_eq_some_iff.mp isPlan
  obtain ⟨hops, _, length, shape⟩ := buildPlan_shape built
  exact ⟨plan, hops, built, length, shape⟩

end OpticalPathPlanner
