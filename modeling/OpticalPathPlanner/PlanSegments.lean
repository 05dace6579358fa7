import OpticalPathPlanner.HardConstraints

/-!
# Segments of plans

A regeneration closes the transparent segment a route is in and opens the
next.  The segments of a plan are the accumulators of the search: one segment
for the label before each regeneration and one for the label at the
destination.
-/

namespace OpticalPathPlanner

open SortedRanges Traced

variable {K E : Type} [Field K] [LinearOrder K]

namespace SearchContext

variable (ctx : SearchContext K)

/-- Whether a label arrived over a regeneration. -/
def regenerated (label : Label K) : Bool :=
  match label.arrival with
  | some ⟨.crossConnect, index, _⟩ =>
      decide ((ctx.crossConnect index).op = .regenerate)
  | _ => false

/-- The labels before each regeneration of a path, the path and the labels
given from the last one back. -/
def closedEnds : List (Label K) → List (Label K)
  | label :: parent :: rest =>
      if ctx.regenerated label then parent :: closedEnds (parent :: rest)
      else closedEnds (parent :: rest)
  | _ => []

/-- The labels at which the segments of a path end, in the order of the
path. -/
def segmentEnds (path : List (Label K)) : List (Label K) :=
  (ctx.closedEnds path).reverse ++ path.head?.toList

/-- A segment of a plan shows the accumulators of a label. -/
structure SegmentOf (segment : PlanSegment K) (label : Label K) : Prop where
  profile : ctx.snapshot.profileIndex segment.profile = label.profileIndex
  hasProfile : label.profileIndex.isSome = true
  distanceM : segment.distanceM = label.distanceM
  lossDb : segment.lossDb = label.lossDb
  osnrDb : segment.osnrDb = ctx.runtime.reportedOsnr label.osnrInverse
  spanCount : segment.spanCount = label.spanCount

/-- The segments of a builder: the closed ones, and the open one if anything
was recorded in it. -/
structure SegmentsMatch (path : List (Label K)) (builder : PlanBuilder K)
    (closed opened : List (PlanSegment K)) : Prop where
  segments : builder.segments = closed ++ opened
  ends : List.Forall₂ ctx.SegmentOf closed (ctx.closedEnds path).reverse
  earlier : ∀ segment ∈ closed, segment.index < builder.segmentIndex
  current : opened = [] ∨
    ∃ segment, opened = [segment] ∧ segment.index = builder.segmentIndex

variable {ctx} {rules : RouteRules K} {request : PlanningRequest K}
  {startPort : Nat}

theorem Travelled.simulates {hops : List (Hop K)} {path : List (Label K)}
    {builder : PlanBuilder K}
    (width : rules.channelWidthSlots = ctx.rules.channelWidthSlots)
    (source : ctx.snapshot.portIndex request.source = some startPort)
    (travelled : ctx.Travelled rules request startPort hops path builder) :
    ∀ label ∈ path.head?, ctx.Simulates label builder := by
  induction travelled with
  | start started proven transmits =>
      rintro label ⟨⟩
      exact simulates_start width source started proven transmits
  | span before departs step allows proven built ih =>
      rintro label ⟨⟩
      exact (ih _ rfl).span step built
  | crossConnect before departs step allows proven built ih =>
      rintro label ⟨⟩
      exact (ih _ rfl).crossConnect width step proven built

theorem closedEnds_of_regenerated {label parent : Label K}
    {rest : List (Label K)} (regenerates : ctx.regenerated label = true) :
    ctx.closedEnds (label :: parent :: rest) =
      parent :: ctx.closedEnds (parent :: rest) := by
  rw [closedEnds, if_pos regenerates]

theorem closedEnds_of_not_regenerated {label parent : Label K}
    {rest : List (Label K)} (stays : ctx.regenerated label = false) :
    ctx.closedEnds (label :: parent :: rest) =
      ctx.closedEnds (parent :: rest) := by
  rw [closedEnds, if_neg (by simp [stays])]

theorem SpanStep.not_regenerated {current next : Label K} {arc : SpanArc}
    (step : ctx.SpanStep current arc next) : ctx.regenerated next = false := by
  have arrival := congrArg Label.arrival step.next_eq
  simp only at arrival
  rw [regenerated, arrival]

theorem CrossConnectStep.regenerated_eq {current next : Label K} {index : Nat}
    (step : ctx.CrossConnectStep current index next) :
    ctx.regenerated next =
      decide ((ctx.crossConnect index).op = .regenerate) := by
  have arrival := congrArg Label.arrival step.next_eq
  rw [operated_arrival] at arrival
  simp only at arrival
  rw [regenerated, arrival]

/-- Opening the current segment keeps the closed ones. -/
theorem SegmentsMatch.ensureSegment {path : List (Label K)}
    {builder : PlanBuilder K} {closed opened : List (PlanSegment K)}
    (matches_ : ctx.SegmentsMatch path builder closed opened) :
    ∃ segment, builder.ensureSegment.segments = closed ++ [segment] ∧
      segment.index = builder.segmentIndex := by
  rcases matches_.current with none_ | ⟨segment, isOpen, index⟩
  · have segments := matches_.segments
    rw [none_, List.append_nil] at segments
    have earlier : ∀ segment ∈ builder.segments,
        segment.index < builder.segmentIndex := by
      rw [segments]
      exact matches_.earlier
    obtain ⟨segment, opens, index, _⟩ := ensureSegment_of_closed earlier
    rw [segments] at opens
    exact ⟨segment, opens, index⟩
  · have segments := matches_.segments
    rw [isOpen] at segments
    exact ⟨segment, ensureSegment_of_open segments index, index⟩

variable (rules) in
/-- Closing the current segment records the accumulators. -/
theorem SegmentsMatch.closeSegment {path : List (Label K)} {label : Label K}
    {builder : PlanBuilder K} {closed opened : List (PlanSegment K)}
    (matches_ : ctx.SegmentsMatch path builder closed opened)
    (agrees : ctx.Simulates label builder) (ended : Bool)
    (regeneration : PlanSegment K → ResourceKey) :
    ∃ segment, ((ctx.under rules).closeSegment builder ended
        regeneration).segments = closed ++ [segment] ∧
      ctx.SegmentOf segment label ∧
      segment.index = builder.segmentIndex := by
  obtain ⟨segment, opens, index⟩ := matches_.ensureSegment
  rw [closeSegment_eq]
  simp only
  rw [opens, updateLast_concat]
  refine ⟨_, rfl, ⟨agrees.profile, agrees.hasProfile, agrees.distance,
    agrees.loss, ?_, agrees.spanCount⟩, index⟩
  change ctx.runtime.reportedOsnr builder.segmentOsnrInverse = _
  rw [agrees.osnr]

/-- The closed segments of a builder belong to the regenerations of the walk
it follows. -/
theorem Travelled.segmentsMatch {hops : List (Hop K)} {path : List (Label K)}
    {builder : PlanBuilder K}
    (width : rules.channelWidthSlots = ctx.rules.channelWidthSlots)
    (source : ctx.snapshot.portIndex request.source = some startPort)
    (travelled : ctx.Travelled rules request startPort hops path builder) :
    ∃ closed opened, ctx.SegmentsMatch path builder closed opened := by
  induction travelled with
  | start started proven transmits =>
      rw [startBuilder_eq]
      exact ⟨[], [], rfl, .nil, by simp, .inl rfl⟩
  | @span hops current next ancestors builder index _ _ _ _ _ before departs
      step allows proven built ih =>
      obtain ⟨closed, opened, matches_⟩ := ih
      obtain ⟨segment, opens, isCurrent⟩ := matches_.ensureSegment
      rw [useSpan_eq, opens, updateLast_concat]
      refine ⟨closed, _, rfl, ?_, matches_.earlier, .inr ⟨_, rfl, isCurrent⟩⟩
      rw [closedEnds_of_not_regenerated step.not_regenerated]
      exact matches_.ends
  | @crossConnect hops current next ancestors builder switched index before
      departs step allows proven built ih =>
      obtain ⟨closed, opened, matches_⟩ := ih
      have regenerates := step.regenerated_eq
      rw [useCrossConnect_eq]
      cases built.segment with
      | express op mask_eq slot_eq =>
          rw [noteSlot_eq]
          rw [op] at regenerates
          refine ⟨closed, opened, matches_.segments, ?_, matches_.earlier,
            matches_.current⟩
          rw [closedEnds_of_not_regenerated regenerates]
          exact matches_.ends
      | convert op mask_eq slot_eq =>
          rw [op] at regenerates
          refine ⟨closed, opened, matches_.segments, ?_, matches_.earlier,
            matches_.current⟩
          rw [closedEnds_of_not_regenerated regenerates]
          exact matches_.ends
      | regenerate op transmits =>
          rw [op] at regenerates
          have agrees := before.simulates width source current rfl
          obtain ⟨segment, closes, shows, isCurrent⟩ :=
            matches_.closeSegment rules agrees true
              fun _ => .forCrossConnect (ctx.crossConnect index).id
          refine ⟨closed ++ [segment], [], ?_, ?_, ?_, .inl rfl⟩
          · rw [List.append_nil]
            exact closes
          · rw [closedEnds_of_regenerated regenerates, List.reverse_cons]
            exact List.rel_append matches_.ends (.cons shows .nil)
          · intro other member
            rcases List.mem_append.mp member with old | new
            · exact (matches_.earlier other old).trans (Nat.lt_succ_self _)
            · rw [List.mem_singleton.mp new, isCurrent]
              exact Nat.lt_succ_self _

theorem segmentEnds_cons (label : Label K) (rest : List (Label K)) :
    ctx.segmentEnds (label :: rest) =
      (ctx.closedEnds (label :: rest)).reverse ++ [label] :=
  rfl

/-! ### Lengths -/

/-- What a cross-connect does to the distance of the open segment. -/
theorem CrossConnectStep.distance_eq {current next : Label K} {index : Nat}
    (step : ctx.CrossConnectStep current index next) :
    next.distanceM =
      if (ctx.crossConnect index).op = .regenerate then 0
      else current.distanceM := by
  rw [step.next_eq]
  cases (ctx.crossConnect index).op <;> rfl

/-- The distances of the segments add up to the lengths of the spans. -/
theorem Travelled.distances {hops : List (Hop K)} {path : List (Label K)}
    {builder : PlanBuilder K}
    (travelled : ctx.Travelled rules request startPort hops path builder) :
    ((ctx.segmentEnds path).map fun label => label.distanceM.toNat).sum =
      (hops.map fun hop => hop.link.lengthM.toNat).sum := by
  induction travelled with
  | start started _ _ =>
      rw [started.label_eq]
      rfl
  | @span hops current next ancestors _ index reversed length _ _ _ before
      departs step allows proven built ih =>
      have added := step.distance
      change extendDistance current.distanceM (ctx.span index).lengthM.value? =
        some next.distanceM at added
      rw [built.lengthM] at added
      have total := addCheckedU64_eq_some_iff.mp added
      have hopLength : (Link.span (ctx.span index) reversed).lengthM = length := by
        rw [Link.lengthM, built.lengthM]
        rfl
      rw [segmentEnds_cons] at ih ⊢
      rw [closedEnds_of_not_regenerated step.not_regenerated]
      simp only [List.map_append, List.sum_append, List.map_cons, List.map_nil,
        List.sum_cons, List.sum_nil, hopLength, total] at ih ⊢
      omega
  | @crossConnect hops current next ancestors _ _ index before departs step
      allows proven built ih =>
      have regenerates := step.regenerated_eq
      have distance := step.distance_eq
      have hopLength : (Link.crossConnect (ctx.crossConnect index) :
          Link K).lengthM = 0 := rfl
      rw [segmentEnds_cons] at ih ⊢
      by_cases op : (ctx.crossConnect index).op = .regenerate
      · rw [if_pos op] at distance
        rw [closedEnds_of_regenerated (by rw [regenerates]; simp [op]),
          List.reverse_cons]
        simp only [List.map_append, List.sum_append, List.map_cons,
          List.map_nil, List.sum_cons, List.sum_nil, hopLength, distance,
          UInt64.toNat_zero] at ih ⊢
        omega
      · rw [if_neg op] at distance
        rw [closedEnds_of_not_regenerated (by rw [regenerates]; simp [op])]
        simp only [List.map_append, List.sum_append, List.map_cons,
          List.map_nil, List.sum_cons, List.sum_nil, hopLength, distance,
          UInt64.toNat_zero] at ih ⊢
        omega

/-- Without a regeneration there is one segment, and it ends at the last
label. -/
theorem Travelled.closedEnds_eq_nil {hops : List (Hop K)}
    {path : List (Label K)} {builder : PlanBuilder K}
    (travelled : ctx.Travelled rules request startPort hops path builder)
    (transparent : ∀ hop ∈ hops, hop.link.regenerates = false) :
    ctx.closedEnds path = [] := by
  induction travelled with
  | start _ _ _ => rfl
  | span before departs step allows proven built ih =>
      rw [closedEnds_of_not_regenerated step.not_regenerated]
      exact ih fun hop member =>
        transparent hop (List.mem_append_left _ member)
  | crossConnect before departs step allows proven built ih =>
      have last := transparent _ (List.mem_append_right _
        (List.mem_singleton.mpr rfl))
      rw [closedEnds_of_not_regenerated (step.regenerated_eq.trans last)]
      exact ih fun hop member =>
        transparent hop (List.mem_append_left _ member)

/-! ### What the checks leave -/

/-- The accumulators of a label after at least one span of its segment were
judged, and without a span they are empty. -/
structure Judged (ctx : SearchContext K) (label : Label K) : Prop where
  reach : label.spanCount ≠ 0 → ctx.WithinReach label
  ceilings : label.spanCount ≠ 0 → ctx.WithinCeilings label
  empty : label.spanCount = 0 →
    label.distanceM = 0 ∧ label.lossDb = 0 ∧ label.osnrInverse = 0

theorem CrossConnectStep.judged {current next : Label K} {index : Nat}
    (step : ctx.CrossConnectStep current index next)
    (judged : ctx.Judged current) : ctx.Judged next := by
  have nextEq := step.next_eq
  cases op : (ctx.crossConnect index).op with
  | express =>
      rw [op] at nextEq
      rw [nextEq]
      refine ⟨fun some_ => ?_, fun some_ => ?_, judged.empty⟩
      · obtain ⟨spans, distance, loss, osnr, requested⟩ := judged.reach some_
        exact ⟨spans, distance, loss, osnr, requested⟩
      · obtain ⟨distance, spans, loss⟩ := judged.ceilings some_
        exact ⟨distance, spans, loss⟩
  | convert =>
      rw [op] at nextEq
      rw [nextEq]
      refine ⟨fun some_ => ?_, fun some_ => ?_, judged.empty⟩
      · obtain ⟨spans, distance, loss, osnr, requested⟩ := judged.reach some_
        exact ⟨spans, distance, loss, osnr, requested⟩
      · obtain ⟨distance, spans, loss⟩ := judged.ceilings some_
        exact ⟨distance, spans, loss⟩
  | regenerate =>
      rw [op] at nextEq
      rw [nextEq]
      exact ⟨fun some_ => (some_ rfl).elim, fun some_ => (some_ rfl).elim,
        fun _ => ⟨rfl, rfl, rfl⟩⟩

/-- Every label of a walk was judged. -/
theorem Travelled.judged {hops : List (Hop K)} {path : List (Label K)}
    {builder : PlanBuilder K}
    (travelled : ctx.Travelled rules request startPort hops path builder) :
    ∀ label ∈ path, ctx.Judged label := by
  induction travelled with
  | start started _ _ =>
      intro label member
      rw [List.mem_singleton.mp member, started.label_eq]
      exact ⟨fun some_ => (some_ rfl).elim, fun some_ => (some_ rfl).elim,
        fun _ => ⟨rfl, rfl, rfl⟩⟩
  | @span _ current next _ _ _ _ _ _ _ _ before departs step allows proven built
      ih =>
      refine List.forall_mem_cons.mpr ⟨⟨fun _ => step.reach,
        fun _ => step.ceilings, fun none_ => ?_⟩, ih⟩
      rw [step.next_eq] at none_
      cases none_
  | crossConnect before departs step allows proven built ih =>
      exact List.forall_mem_cons.mpr
        ⟨step.judged (ih _ (List.mem_cons_self ..)), ih⟩

theorem mem_of_mem_closedEnds {path : List (Label K)} {label : Label K}
    (member : label ∈ ctx.closedEnds path) : label ∈ path := by
  induction path with
  | nil => cases member
  | cons head rest ih =>
      cases rest with
      | nil => cases member
      | cons parent rest =>
          rw [closedEnds] at member
          split_ifs at member
          · rcases List.mem_cons.mp member with rfl | older
            · exact List.mem_cons_of_mem _ (List.mem_cons_self ..)
            · exact List.mem_cons_of_mem _ (ih older)
          · exact List.mem_cons_of_mem _ (ih member)

theorem mem_of_mem_segmentEnds {path : List (Label K)} {label : Label K}
    (member : label ∈ ctx.segmentEnds path) : label ∈ path := by
  rcases List.mem_append.mp member with closed | last
  · exact mem_of_mem_closedEnds (List.mem_reverse.mp closed)
  · exact List.mem_of_mem_head? (Option.mem_toList.mp last)

end SearchContext

/-! ### The segments of a plan -/

section Plans

variable {runtime : Runtime K} {snapshot : TopologySnapshot K}
  {request : PlanningRequest K} {arcs : List ArcRef} {hops : List (Hop K)}
  {startPort : Nat} {label : Label K} {ancestors : List (Label K)}
  {builder : PlanBuilder K}

variable (request) in
theorem finishPlan_segments (ctx : SearchContext K) (requestDigest : Digest256)
    (arcCount : Nat) (builder : PlanBuilder K) :
    (ctx.finishPlan request requestDigest arcCount builder).segments =
      (ctx.closeSegment builder false
        PlanSegment.regenerationResource).segments := by
  unfold SearchContext.finishPlan
  rw [SearchContext.closeSegment_eq]
  simp only
  split_ifs <;> rfl

/-- The segments of a plan are the accumulators at the ends of its segments. -/
theorem Travels.segments
    (travels : Travels runtime snapshot request arcs hops startPort label
      ancestors builder) (requestDigest : Digest256) :
    List.Forall₂ (searchContext runtime snapshot request).SegmentOf
      ((searchContext runtime snapshot request).finishPlan request requestDigest
        arcs.length builder).segments
      ((searchContext runtime snapshot request).segmentEnds
        (label :: ancestors)) := by
  obtain ⟨closed, opened, matches_⟩ :=
    travels.travelled.segmentsMatch rfl travels.source
  have agrees := travels.travelled.simulates rfl travels.source label rfl
  obtain ⟨segment, closes, shows, _⟩ := matches_.closeSegment
    request.toRouteRules agrees false PlanSegment.regenerationResource
  rw [finishPlan_segments, SearchContext.segmentEnds_cons]
  have ends : List.Forall₂ (searchContext runtime snapshot request).SegmentOf
      (closed ++ [segment]) _ :=
    List.rel_append matches_.ends (.cons shows .nil)
  rw [← closes] at ends
  exact ends

end Plans

end OpticalPathPlanner
