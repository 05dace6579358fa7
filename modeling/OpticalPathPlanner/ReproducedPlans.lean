import OpticalPathPlanner.FreeReservations
import OpticalPathPlanner.PlannedArtifacts
import OpticalPathPlanner.ProvenPaths
import OpticalPathPlanner.SegmentAccounts

/-!
# Plans that reproduce

A candidate is bound to the snapshot it was planned on, so what revalidation
finds there depends on its steps and its segments.  The search decides on
records and revalidation on what it finds under the text of a resource: it asks
nodes for their administrative state, cuts the text of a port at the first
colon, and takes the first record of a span or a cross-connect.  Where these
agree with the search, every candidate is found valid.
-/

namespace OpticalPathPlanner

open SortedRanges

variable {K E : Type}

/-! ### When a plan reproduces -/

/-- The keys of all records are identifiers. -/
structure TopologySnapshot.KeysValid (snapshot : TopologySnapshot K) : Prop where
  nodes : ∀ record ∈ snapshot.nodes, record.id.Valid
  ports : ∀ record ∈ snapshot.ports, record.key.Valid
  spans : ∀ record ∈ snapshot.spans, record.id.Valid
  crossConnects : ∀ record ∈ snapshot.crossConnects, record.id.Valid

instance (snapshot : TopologySnapshot K) : Decidable snapshot.KeysValid :=
  decidable_of_iff
    ((∀ record ∈ snapshot.nodes, record.id.Valid) ∧
      (∀ record ∈ snapshot.ports, record.key.Valid) ∧
      (∀ record ∈ snapshot.spans, record.id.Valid) ∧
      ∀ record ∈ snapshot.crossConnects, record.id.Valid)
    ⟨fun ⟨nodes, ports, spans, crossConnects⟩ =>
      ⟨nodes, ports, spans, crossConnects⟩,
      fun ⟨nodes, ports, spans, crossConnects⟩ =>
        ⟨nodes, ports, spans, crossConnects⟩⟩

/-- A step of the plan names the resource. -/
def PlanArtifact.Names (plan : PlanArtifact K) (resource : ResourceKey) : Prop :=
  ∃ step ∈ plan.steps, step.resource = resource

/-- The two parts of a text around its first colon are the key of a port that is
up. -/
def TopologySnapshot.PortUpAt (snapshot : TopologySnapshot K) (text : Bytes) :
    Prop :=
  ∃ record ∈ snapshot.ports, record.admin = .known .up ∧
    cutAt 58 text = some (record.key.node.str, record.key.port.str)

/-- No slot of the channel is published as blocked. -/
def Channel.Unblocked (channel : Channel) (blocked : Evidence SlotMask) : Prop :=
  ∀ slot, channel.Covers slot → ∀ mask, blocked = .known mask →
    mask.test slot = false

/-- The record could carry the channel that the plan reserves for the span. -/
structure PlanArtifact.ServedBy (plan : PlanArtifact K) (id : SpanId)
    (record : SpanRecord K) : Prop where
  admin : record.admin = .known .up
  unblocked : ∀ reservation, plan.reservationFor (.forSpan id) = some reservation →
    reservation.channel.Unblocked record.blockedSlots

/-- The sums come to the totals of the segment, up to the tolerance of the
comparisons. -/
structure PlanSegment.Near [Field K] [LinearOrder K] (runtime : Runtime K)
    (segment : PlanSegment K) (sums : SegmentSums K) : Prop where
  distance : sums.distance = segment.distanceM
  loss : |sums.loss - segment.lossDb| ≤ Runtime.tolerance
  osnr : |runtime.reportedOsnr sums.osnrInverse - segment.osnrDb| ≤
    Runtime.tolerance

/-- Nodes of the plan are up, ports are found under their text, and where records
share the identifier of a span or a cross-connect, the first of them would have
served the plan as well. -/
structure Reproduces [Field K] [LinearOrder K] (runtime : Runtime K)
    (snapshot : TopologySnapshot K) (plan : PlanArtifact K) : Prop where
  nodes : ∀ record ∈ snapshot.nodes, plan.Names (.forNode record.id) →
    record.admin = .known .up
  ports : ∀ record ∈ snapshot.ports, plan.Names (.forPort record.key) →
    58 ∈ record.key.node.str → snapshot.PortUpAt record.key.canonicalText
  spans : ∀ id first, plan.Names (.forSpan id) →
    SharedBy SpanRecord.id snapshot.spans id →
    firstWith SpanRecord.id snapshot.spans id = some first →
    plan.ServedBy id first
  crossConnects : ∀ id first, plan.Names (.forCrossConnect id) →
    SharedBy CrossConnectRecord.id snapshot.crossConnects id →
    firstWith CrossConnectRecord.id snapshot.crossConnects id = some first →
    first.admin = .known .up
  segments : ∀ segment ∈ plan.segments, ∀ use ∈ segment.spans,
    SharedBy SpanRecord.id snapshot.spans use.id →
    segment.Near runtime (publishedSums runtime (segment.firstRecords snapshot))

/-! ### Bindings -/

section Bindings

variable [Field K] [LinearOrder K] {runtime : Runtime K}
  {snapshot : TopologySnapshot K} {plan : PlanArtifact K}

/-- The plan is sealed and bound to the snapshot as it is. -/
structure PlanArtifact.BoundTo (runtime : Runtime K)
    (snapshot : TopologySnapshot K) (plan : PlanArtifact K) : Prop where
  formatVersion : plan.formatVersion = kPlanFormatVersion
  ruleVersion : plan.ruleVersion = kPlanningRuleVersion
  sealed_ : runtime.computePlanDigest plan = plan.digest
  digest : plan.snapshotDigest = snapshot.digest
  sources : ∀ binding ∈ plan.boundSources, ∃ record ∈ snapshot.sources,
    binding.source = record.id ∧ binding.generation = record.generation

theorem finishPlan_boundTo (ctx : SearchContext K) (request : PlanningRequest K)
    (requestDigest : Digest256) (arcCount : Nat) (builder : PlanBuilder K) :
    (ctx.finishPlan request requestDigest arcCount builder).BoundTo ctx.runtime
      ctx.snapshot := by
  refine ⟨rfl, rfl, ctx.runtime.computePlanDigest_sealPlan _, rfl, ?_⟩
  intro binding member
  obtain ⟨record, isRecord, rfl⟩ := List.mem_map.mp member
  exact ⟨record, isRecord, rfl, rfl⟩

theorem bindingMismatch_of_mem (formed : snapshot.WellFormed)
    {record : SourceRecord} (member : record ∈ snapshot.sources)
    {binding : SourceBinding} (source : binding.source = record.id)
    (generation : binding.generation = record.generation) :
    bindingMismatch snapshot binding = none := by
  obtain ⟨index, atIndex⟩ := List.getElem?_of_mem member
  have found : snapshot.sourceIndex binding.source = some index := by
    rw [source]
    exact findByKey_of_getElem? formed.sources atIndex
  have present : snapshot.hasSource binding.source = true := by
    rw [TopologySnapshot.hasSource, found]
    rfl
  have current : snapshot.sourceGeneration binding.source =
      binding.generation := by
    rw [TopologySnapshot.sourceGeneration, found, Option.bind_some, atIndex,
      generation]
  simp [bindingMismatch, present, current]

/-- The bindings of a plan hold against the fresh snapshot it is bound to. -/
theorem PlanArtifact.BoundTo.validatePlanBindings
    (bound : plan.BoundTo runtime snapshot) (formed : snapshot.WellFormed)
    (fresh : snapshot.freshness = .fresh) (policy : ValidationPolicy) :
    (validatePlanBindings runtime plan snapshot policy).validity = .valid := by
  have sealed_ := verifySeal_failed_iff.mpr bound.sealed_
  have agrees : plan.boundSources.filterMap (bindingMismatch snapshot) = [] := by
    refine List.filterMap_eq_nil_iff.mpr fun binding member => ?_
    obtain ⟨record, isRecord, source, generation⟩ := bound.sources binding member
    exact bindingMismatch_of_mem formed isRecord source generation
  unfold OpticalPathPlanner.validatePlanBindings
  simp [bound.formatVersion, bound.ruleVersion, sealed_, fresh, agrees,
    bound.digest]

/-- A bound plan is valid exactly when no step and no segment fails. -/
theorem PlanArtifact.BoundTo.revalidatePlan_iff
    (bound : plan.BoundTo runtime snapshot) (formed : snapshot.WellFormed)
    (fresh : snapshot.freshness = .fresh) (policy : ValidationPolicy) :
    ((revalidatePlan runtime plan snapshot policy).validity = .valid ∧
        (revalidatePlan runtime plan snapshot policy).failures = []) ↔
      (∀ step ∈ plan.steps, stepFailure snapshot plan step = none) ∧
        ∀ segment ∈ plan.segments,
          segmentFailure runtime snapshot segment = none := by
  have valid := bound.validatePlanBindings formed fresh
    { acceptRestoredEvidence := policy.acceptRestoredEvidence }
  rw [← List.filterMap_eq_nil_iff, ← List.filterMap_eq_nil_iff,
    ← List.append_eq_nil_iff]
  unfold revalidatePlan
  simp only [valid, ne_eq, not_true_eq_false, false_and, if_false, if_true]
  cases plan.steps.filterMap (stepFailure snapshot plan) ++
      plan.segments.filterMap (segmentFailure runtime snapshot) with
  | nil => simp
  | cons failure rest => simp

end Bindings

/-! ### Steps -/

section Steps

variable {snapshot : TopologySnapshot K} {plan : PlanArtifact K}
  {step : PlanStep}

theorem isUp_iff {admin : Evidence AdminState} :
    isUp admin = true ↔ admin = .known .up := by
  unfold isUp
  rw [beq_iff_eq, Evidence.value?_eq_some_iff]

theorem PortKey.canonicalText_eq (key : PortKey) :
    key.canonicalText = key.node.str ++ 58 :: key.port.str := by
  rw [PortKey.canonicalText, List.append_assoc]
  rfl

variable [Field K] [LinearOrder K]

theorem stepFailure_node_iff (formed : snapshot.WellFormed) {record : NodeRecord}
    (member : record ∈ snapshot.nodes) (valid : record.id.Valid)
    (names : step.resource = .forNode record.id) :
    stepFailure snapshot plan step = none ↔ record.admin = .known .up := by
  obtain ⟨index, atIndex⟩ := List.getElem?_of_mem member
  have found : snapshot.findNode record.id = some record :=
    TopologySnapshot.findNode_of_nodeIndex
      (findByKey_of_getElem? formed.nodes atIndex) atIndex
  unfold stepFailure
  simp only [names, ResourceKey.forNode, StrongId.parse_str valid, found]
  rw [← isUp_iff]
  split_ifs with up <;> simp [up]

theorem stepFailure_port_iff (formed : snapshot.WellFormed)
    (keys : snapshot.KeysValid) {key : PortKey}
    (names : step.resource = .forPort key) :
    stepFailure snapshot plan step = none ↔
      snapshot.PortUpAt key.canonicalText := by
  unfold stepFailure
  simp only [names, ResourceKey.forPort]
  constructor
  · intro passed
    split at passed
    · cases passed
    · next nodeText portText cut =>
        split at passed
        · next node port isNode isPort =>
            split at passed
            · cases passed
            · next record found =>
                split_ifs at passed with up
                obtain ⟨index, _, atIndex, same⟩ :=
                  TopologySnapshot.findPort_eq_some found
                refine ⟨record, List.mem_of_getElem? atIndex, isUp_iff.mp up, ?_⟩
                rw [cut, same, (StrongId.parse_eq_ok_iff.mp isNode).1,
                  (StrongId.parse_eq_ok_iff.mp isPort).1]
        · cases passed
  · rintro ⟨record, member, up, cut⟩
    obtain ⟨node, port⟩ := keys.ports record member
    obtain ⟨index, atIndex⟩ := List.getElem?_of_mem member
    have found : snapshot.findPort ⟨record.key.node, record.key.port⟩ =
        some record :=
      TopologySnapshot.findPort_of_portIndex
        (findByKey_of_getElem? formed.ports atIndex) atIndex
    simp only [cut, StrongId.parse_str node, StrongId.parse_str port, found,
      isUp_iff.mpr up, if_true]

omit [Field K] [LinearOrder K] in
theorem stepFailure_span_iff {id : SpanId} (valid : id.Valid)
    (names : step.resource = .forSpan id) :
    stepFailure snapshot plan step = none ↔
      ∃ first reservation,
        firstWith SpanRecord.id snapshot.spans id = some first ∧
        first.admin = .known .up ∧
        plan.reservationFor (.forSpan id) = some reservation ∧
        reservation.channel.slots.isSubsetOf
          (usableMask snapshot.spectrum first.blockedSlots) = true := by
  unfold stepFailure PlanArtifact.reservationFor
  simp only [names, ResourceKey.forSpan, StrongId.parse_str valid]
  cases found : firstWith SpanRecord.id snapshot.spans id with
  | none =>
      dsimp only
      constructor
      · intro passed
        cases passed
      · rintro ⟨_, _, impossible, _⟩
        cases impossible
  | some first =>
      cases reserved : firstWith PlanReservation.resource plan.reservations
          ⟨.span, id.str⟩ with
      | none =>
          dsimp only
          constructor
          · intro passed
            split_ifs at passed
          · rintro ⟨_, _, _, _, impossible, _⟩
            cases impossible
      | some reservation =>
          dsimp only
          constructor
          · intro passed
            split_ifs at passed with down inside
            rw [Bool.not_eq_true, Bool.not_eq_false'] at down
            exact ⟨first, reservation, rfl, isUp_iff.mp down, rfl, inside⟩
          · rintro ⟨_, _, ⟨⟩, up, ⟨⟩, inside⟩
            rw [if_neg (by rw [isUp_iff.mpr up]; exact Bool.false_ne_true),
              if_pos inside]

omit [Field K] [LinearOrder K] in
theorem stepFailure_crossConnect_iff {id : CrossConnectId} (valid : id.Valid)
    (names : step.resource = .forCrossConnect id) :
    stepFailure snapshot plan step = none ↔
      ∃ first, firstWith CrossConnectRecord.id snapshot.crossConnects id =
        some first ∧ first.admin = .known .up := by
  unfold stepFailure
  simp only [names, ResourceKey.forCrossConnect, StrongId.parse_str valid]
  cases found : firstWith CrossConnectRecord.id snapshot.crossConnects id with
  | none =>
      dsimp only
      constructor
      · intro passed
        cases passed
      · rintro ⟨_, impossible, _⟩
        cases impossible
  | some first =>
      dsimp only
      constructor
      · intro passed
        split_ifs at passed with up
        exact ⟨first, rfl, isUp_iff.mp up⟩
      · rintro ⟨_, ⟨⟩, up⟩
        exact if_pos (isUp_iff.mpr up)

end Steps

/-! ### What the steps of a plan name -/

/-- A resource that a route over the hops has a step for. -/
inductive Visits (snapshot : TopologySnapshot K) (source : PortKey)
    (hops : List (Hop K)) : ResourceKey → Prop
  | node {record : NodeRecord} (member : record ∈ snapshot.nodes) :
      Visits snapshot source hops (.forNode record.id)
  | source : Visits snapshot source hops (.forPort source)
  | target {hop : Hop K} (member : hop ∈ hops) :
      Visits snapshot source hops (.forPort hop.target.key)
  | span {record : SpanRecord K} {reversed : Bool} {target : PortRecord}
      (member : ⟨.span record reversed, target⟩ ∈ hops) :
      Visits snapshot source hops (.forSpan record.id)
  | crossConnect {record : CrossConnectRecord} {target : PortRecord}
      (member : ⟨.crossConnect record, target⟩ ∈ hops) :
      Visits snapshot source hops (.forCrossConnect record.id)

theorem Visits.append {snapshot : TopologySnapshot K} {source : PortKey}
    {hops : List (Hop K)} {resource : ResourceKey}
    (visits : Visits snapshot source hops resource) (more : List (Hop K)) :
    Visits snapshot source (hops ++ more) resource := by
  cases visits with
  | node member => exact .node member
  | source => exact .source
  | target member => exact .target (List.mem_append_left _ member)
  | span member => exact .span (List.mem_append_left _ member)
  | crossConnect member => exact .crossConnect (List.mem_append_left _ member)

/-- A route ends where it starts or on the target of a hop. -/
theorem Connected.visits (snapshot : TopologySnapshot K) {source last : PortKey}
    {hops : List (Hop K)} (connected : Connected source hops last) :
    Visits snapshot source hops (.forPort last) := by
  suffices ends : last = source ∨ ∃ hop ∈ hops, hop.target.key = last by
    rcases ends with rfl | ⟨hop, member, rfl⟩
    · exact .source
    · exact .target member
  induction hops generalizing source with
  | nil => exact .inl connected.symm
  | cons hop rest ih =>
      obtain ⟨_, arrives, onward⟩ := connected
      rcases ih onward with rfl | ⟨other, member, same⟩
      · exact .inr ⟨hop, List.mem_cons_self .., arrives⟩
      · exact .inr ⟨other, List.mem_cons_of_mem _ member, same⟩

section Runs

variable [Field K] [LinearOrder K]

namespace SearchContext

variable {ctx : SearchContext K} {request : PlanningRequest K}
  {start : PortRecord} {profile : ProfileId} {arcs : List ArcRef}
  {hops : List (Hop K)} {builder : PlanBuilder K}

theorem nodeSteps_visits {node : Option NodeRecord} {source : PortKey}
    (listed : ∀ record, node = some record → record ∈ ctx.snapshot.nodes)
    (stepOf : NodeRecord → PlanStep)
    (named : ∀ record, (stepOf record).resource = .forNode record.id) :
    ∀ step ∈ (node.map fun record => [stepOf record]).getD [],
      Visits ctx.snapshot source hops step.resource := by
  cases node with
  | none => exact List.forall_mem_nil _
  | some record =>
      refine List.forall_mem_singleton.mpr ?_
      rw [named]
      exact .node (listed record rfl)

theorem enteredSteps_visits (source : PortKey) (index segment : Nat)
    (fromPort toPort : PortKey) :
    ∀ step ∈ ctx.enteredSteps index segment fromPort toPort,
      Visits ctx.snapshot source hops step.resource :=
  nodeSteps_visits (fun _ => enteredNode_mem) _ fun _ => rfl

/-- Every step of the builder is a step for its route. -/
theorem BuilderRun.visits
    (run : ctx.BuilderRun request start profile arcs hops builder) :
    ∀ step ∈ builder.steps,
      Visits ctx.snapshot request.source hops step.resource := by
  induction run with
  | start =>
      rw [startBuilder_eq]
      refine List.forall_mem_cons.mpr ⟨.source, ?_⟩
      exact nodeSteps_visits (fun _ => mem_nodes_of_findNode) _ fun _ => rfl
  | @span _ hops builder _ reversed span target _ _ _ _ _ before built ih =>
      have isLast : (⟨.span span reversed, target⟩ : Hop K) ∈
          hops ++ [⟨.span span reversed, target⟩] := List.mem_append_right _
        (List.mem_singleton.mpr rfl)
      rw [useSpan_eq]
      refine List.forall_mem_append.mpr ⟨List.forall_mem_append.mpr ⟨?_, ?_⟩, ?_⟩
      · exact fun step member => (ih step member).append _
      · exact List.forall_mem_singleton.mpr (.span isLast)
      · exact enteredSteps_visits _ _ _ _ _
  | @crossConnect _ hops builder switched _ _ record target before built ih =>
      have isLast : (⟨.crossConnect record, target⟩ : Hop K) ∈
          hops ++ [⟨.crossConnect record, target⟩] := List.mem_append_right _
        (List.mem_singleton.mpr rfl)
      obtain ⟨steps, _⟩ := built.segment.frame
      rw [useCrossConnect_eq]
      refine List.forall_mem_append.mpr ⟨List.forall_mem_append.mpr ⟨?_, ?_⟩, ?_⟩
      · rw [steps]
        exact fun step member => (ih step member).append _
      · exact List.forall_mem_singleton.mpr (.crossConnect isLast)
      · unfold targetSteps
        split_ifs
        · exact List.forall_mem_nil _
        · exact List.forall_mem_cons.mpr
            ⟨.target isLast, enteredSteps_visits _ _ _ _ _⟩

end SearchContext

variable {runtime : Runtime K} {snapshot : TopologySnapshot K}
  {request : PlanningRequest K} {arcs : List ArcRef} {hops : List (Hop K)}
  {startPort : Nat} {label : Label K} {ancestors : List (Label K)}
  {builder : PlanBuilder K}

/-- Every step of a candidate is a step for its route. -/
theorem Travels.visits
    (travels : Travels runtime snapshot request arcs hops startPort label
      ancestors builder) (requestDigest : Digest256) :
    ∀ step ∈ ((searchContext runtime snapshot request).finishPlan request
        requestDigest arcs.length builder).steps,
      Visits snapshot request.source hops step.resource := by
  obtain ⟨profile, _, _, run⟩ := travels.builderRun
  rw [SearchContext.finishPlan_steps]
  split_ifs
  · exact run.visits
  · exact List.forall_mem_append.mpr ⟨run.visits,
      List.forall_mem_singleton.mpr (travels.respects.connected.visits _)⟩

/-- The ports on the route of a candidate are up. -/
theorem Travels.portUp
    (travels : Travels runtime snapshot request arcs hops startPort label
      ancestors builder) {key : PortKey}
    (visits : Visits snapshot request.source hops (.forPort key)) :
    ∃ record ∈ snapshot.ports,
      record.key.canonicalText = key.canonicalText ∧
        record.admin = .known .up := by
  have respects := travels.respects
  generalize named : ResourceKey.forPort key = resource at visits
  cases visits with
  | node member => cases named
  | source =>
      obtain ⟨index, _, atIndex, _⟩ :=
        TopologySnapshot.findPort_eq_some travels.findPort_source
      have same := congrArg ResourceKey.text named
      refine ⟨_, List.mem_of_getElem? atIndex, ?_, respects.startAllowed.admin⟩
      rw [respects.source]
      exact same.symm
  | @target hop member =>
      have same := congrArg ResourceKey.text named
      exact ⟨hop.target, TopologySnapshot.mem_ports_of_hops travels.resolved member,
        same.symm, (respects.targets hop member).admin⟩
  | span member => cases named
  | crossConnect member => cases named

/-! ### Reservations -/

omit [Field K] [LinearOrder K] in
theorem exists_availability (run : List (Evidence SlotMask))
    {record : SpanRecord K} {reversed : Bool} {target : PortRecord}
    (member : ⟨.span record reversed, target⟩ ∈ hops) :
    ∃ extended, (record.id, extended) ∈ spanAvailability run hops := by
  induction hops generalizing run with
  | nil => cases member
  | cons hop rest ih =>
      rcases List.mem_cons.mp member with rfl | later
      · exact ⟨_, List.mem_cons_self ..⟩
      · obtain ⟨link, arrival⟩ := hop
        cases link with
        | span _ _ =>
            obtain ⟨extended, listed⟩ := ih _ later
            exact ⟨extended, List.mem_cons_of_mem _ listed⟩
        | crossConnect _ => exact ih _ later

omit [Field K] [LinearOrder K] in
/-- The availability behind a span contains its own. -/
theorem exists_span_of_availability {run : List (Evidence SlotMask)}
    {entry : SpanId × List (Evidence SlotMask)}
    (listed : entry ∈ spanAvailability run hops) :
    ∃ (record : SpanRecord K) (reversed : Bool) (target : PortRecord),
      ⟨.span record reversed, target⟩ ∈ hops ∧ record.id = entry.1 ∧
        record.blockedSlots ∈ entry.2 := by
  induction hops generalizing run with
  | nil => cases listed
  | cons hop rest ih =>
      obtain ⟨link, arrival⟩ := hop
      cases link with
      | span record reversed =>
          rcases List.mem_cons.mp listed with rfl | later
          · refine ⟨record, reversed, arrival, List.mem_cons_self .., rfl, ?_⟩
            simp [extendRun, Link.changesChannel]
          · obtain ⟨other, direction, target, member, same, own⟩ := ih later
            exact ⟨other, direction, target, List.mem_cons_of_mem _ member, same,
              own⟩
      | crossConnect record =>
          obtain ⟨other, direction, target, member, same, own⟩ := ih listed
          exact ⟨other, direction, target, List.mem_cons_of_mem _ member, same,
            own⟩

/-- The first reservation for a span of the route is free on a span with this
identifier. -/
theorem Travels.reservationFor
    (travels : Travels runtime snapshot request arcs hops startPort label
      ancestors builder) (requestDigest : Digest256) {record : SpanRecord K}
    {reversed : Bool} {target : PortRecord}
    (member : ⟨.span record reversed, target⟩ ∈ hops) :
    ∃ reservation, ((searchContext runtime snapshot request).finishPlan request
        requestDigest arcs.length builder).reservationFor (.forSpan record.id) =
          some reservation ∧
      ∃ user ∈ snapshot.spans, user.id = record.id ∧
        FreeOver snapshot.spectrum [user.blockedSlots] reservation.channel := by
  obtain ⟨profile, _, published, run⟩ := travels.builderRun
  have reserved := (run.keepsFree published).reserved
  obtain ⟨extended, listed⟩ := exists_availability [_] member
  obtain ⟨some_, isReservation, own⟩ := exists_of_forall₂ reserved.flip listed
  obtain ⟨reservation, found⟩ :=
    exists_firstWith PlanReservation.resource isReservation
  rw [own.resource] at found
  obtain ⟨isFirst, resource⟩ := mem_of_firstWith found
  obtain ⟨entry, isEntry, free⟩ := exists_of_forall₂ reserved isFirst
  obtain ⟨user, _, _, used, same, among⟩ := exists_span_of_availability isEntry
  refine ⟨reservation, ?_, user,
    TopologySnapshot.mem_spans_of_hops travels.resolved used, ?_, ?_⟩
  · unfold PlanArtifact.reservationFor
    rw [finishPlan_reservations]
    exact found
  · rw [same]
    exact ResourceKey.forSpan_injective (free.resource.symm.trans resource)
  · intro slot covers
    obtain ⟨inModel, publishes⟩ := free.free slot covers
    exact ⟨inModel, List.forall_mem_singleton.mpr (publishes _ among)⟩

/-- A channel of the model is inside the usable slots exactly when none of its
slots is blocked. -/
theorem isSubsetOf_usableMask_iff {spectrum : SpectrumModel}
    (few : spectrum.slotCount ≤ kMaxSpectrumSlots) {channel : Channel}
    (inModel : ∀ slot, channel.Covers slot → slot < spectrum.slotCount)
    (blocked : Evidence SlotMask) :
    channel.slots.isSubsetOf (usableMask spectrum blocked) = true ↔
      channel.Unblocked blocked := by
  change spectrum.slotCount ≤ 256 at few
  rw [SlotMask.isSubsetOf_iff]
  constructor
  · intro inside slot covers mask known
    have inRange : slot < 256 := (inModel slot covers).trans_le few
    have usable := inside slot (Channel.test_slots_of_covers covers inRange)
    exact ((test_usableMask spectrum blocked slot).mp usable).2.2 mask known
  · intro unblocked slot isSet
    obtain ⟨inRange, offset, below, same⟩ := (channel.test_slots slot).mp isSet
    have covers : channel.Covers (channel.firstSlot + offset) :=
      ⟨Nat.le_add_right _ _, Nat.add_lt_add_left below _⟩
    have small := inModel _ covers
    rw [Nat.mod_eq_of_lt (by omega)] at same
    rw [← same] at covers small
    exact (test_usableMask spectrum blocked slot).mpr
      ⟨small, inRange, unblocked slot covers⟩

/-- Sealed snapshots have as many slots as a mask can hold. -/
theorem IsBuilt.slotCount_le (built : IsBuilt runtime snapshot) :
    snapshot.spectrum.slotCount ≤ kMaxSpectrumSlots := by
  induction built with
  | restored snapshot producer epoch original ih => exact ih
  | sealed builder snapshot built =>
      have accepted := SnapshotBuilder.accepted_of_build built
      obtain rfl := SnapshotBuilder.eq_finished built
      unfold SnapshotBuilder.buildStatus at accepted
      have valid : builder.spectrum.validate.failed = false :=
        firstFailure_failed_iff.mp accepted _ (by simp)
      change builder.spectrum.slotCount ≤ kMaxSpectrumSlots
      by_contra above
      rw [SpectrumModel.validate, if_neg (by omega), if_pos (by omega)] at valid
      cases valid

/-! ### Steps of a candidate -/

/-- A step on a span of the route passes exactly when the first record with its
identifier would serve the plan. -/
theorem Travels.spanStep_iff (built : IsBuilt runtime snapshot)
    (keys : snapshot.KeysValid)
    (travels : Travels runtime snapshot request arcs hops startPort label
      ancestors builder) {requestDigest : Digest256} {plan : PlanArtifact K}
    (finished : plan = (searchContext runtime snapshot request).finishPlan request
      requestDigest arcs.length builder) {step : PlanStep}
    {record : SpanRecord K} {reversed : Bool} {target : PortRecord}
    (member : ⟨.span record reversed, target⟩ ∈ hops)
    (names : step.resource = .forSpan record.id) :
    stepFailure snapshot plan step = none ↔
      (SharedBy SpanRecord.id snapshot.spans record.id →
        ∀ first, firstWith SpanRecord.id snapshot.spans record.id = some first →
          plan.ServedBy record.id first) := by
  have isRecord := TopologySnapshot.mem_spans_of_hops travels.resolved member
  obtain ⟨reservation, reserved, user, isUser, same, free⟩ :=
    travels.reservationFor requestDigest member
  rw [← finished] at reserved
  have inside := isSubsetOf_usableMask_iff built.slotCount_le
    fun slot covers => (free slot covers).1
  rw [stepFailure_span_iff (keys.spans record isRecord) names]
  constructor
  · rintro ⟨first, other, found, up, isOther, fits⟩ _ another isAnother
    cases found.symm.trans isAnother
    refine ⟨up, fun third isThird => ?_⟩
    cases reserved.symm.trans isOther
    cases reserved.symm.trans isThird
    exact (inside _).mp fits
  · intro serves
    obtain ⟨first, found⟩ := exists_firstWith SpanRecord.id isRecord
    suffices served : plan.ServedBy record.id first from
      ⟨first, reservation, found, served.admin, reserved,
        (inside _).mpr (served.unblocked reservation reserved)⟩
    by_cases shared : SharedBy SpanRecord.id snapshot.spans record.id
    · exact serves shared first found
    · -- An identifier of its own leads back to the record that was planned.
      cases found.symm.trans (firstWith_of_not_shared isRecord shared)
      have only : user = record := by
        by_contra different
        exact shared ⟨user, isUser, record, isRecord, same, rfl, different⟩
      rw [only] at free
      refine ⟨(travels.respects.links _ member).2, ?_⟩
      intro other isOther slot covers mask known
      cases reserved.symm.trans isOther
      obtain ⟨_, published, clear⟩ :=
        (free slot covers).2 _ (List.mem_singleton.mpr rfl)
      cases known.symm.trans published
      exact clear

/-- A step on a cross-connect of the route passes exactly when the first record
with its identifier is up. -/
theorem Travels.crossConnectStep_iff (keys : snapshot.KeysValid)
    (travels : Travels runtime snapshot request arcs hops startPort label
      ancestors builder) {plan : PlanArtifact K} {step : PlanStep}
    {record : CrossConnectRecord} {target : PortRecord}
    (member : ⟨.crossConnect record, target⟩ ∈ hops)
    (names : step.resource = .forCrossConnect record.id) :
    stepFailure snapshot plan step = none ↔
      (SharedBy CrossConnectRecord.id snapshot.crossConnects record.id →
        ∀ first, firstWith CrossConnectRecord.id snapshot.crossConnects record.id =
          some first → first.admin = .known .up) := by
  have isRecord := TopologySnapshot.mem_crossConnects_of_hops travels.resolved member
  rw [stepFailure_crossConnect_iff
    (keys.crossConnects record isRecord) names]
  constructor
  · rintro ⟨first, found, up⟩ _ another isAnother
    cases found.symm.trans isAnother
    exact up
  · intro serves
    obtain ⟨first, found⟩ := exists_firstWith CrossConnectRecord.id isRecord
    refine ⟨first, found, ?_⟩
    by_cases shared :
        SharedBy CrossConnectRecord.id snapshot.crossConnects record.id
    · exact serves shared first found
    · cases found.symm.trans (firstWith_of_not_shared isRecord shared)
      exact (travels.respects.links _ member).2.1

/-- A step onto a port of the route passes where its key is found under its
text. -/
theorem Travels.portStep_iff (formed : snapshot.WellFormed)
    (keys : snapshot.KeysValid)
    (travels : Travels runtime snapshot request arcs hops startPort label
      ancestors builder) {plan : PlanArtifact K} {step : PlanStep} {key : PortKey}
    (visits : Visits snapshot request.source hops (.forPort key))
    (names : step.resource = .forPort key) :
    stepFailure snapshot plan step = none ↔
      ∀ record ∈ snapshot.ports,
        ResourceKey.forPort record.key = .forPort key →
        58 ∈ record.key.node.str →
        snapshot.PortUpAt record.key.canonicalText := by
  rw [stepFailure_port_iff formed keys names]
  constructor
  · intro found record _ same _
    have texts : record.key.canonicalText = key.canonicalText :=
      congrArg ResourceKey.text same
    rw [texts]
    exact found
  · intro found
    obtain ⟨record, isPort, same, up⟩ := travels.portUp visits
    rw [← same]
    by_cases colon : 58 ∈ record.key.node.str
    · exact found record isPort (congrArg (ResourceKey.mk .port) same) colon
    · refine ⟨record, isPort, up, ?_⟩
      rw [PortKey.canonicalText_eq, cutAt_append colon]

/-! ### Segments of a candidate -/

theorem segmentFailure_eq_none_iff {segment : PlanSegment K}
    (counted : (segmentSums runtime snapshot segment).spans % 2 ^ 32 =
      segment.spanCount) :
    segmentFailure runtime snapshot segment = none ↔
      segment.Near runtime
        (publishedSums runtime (segment.firstRecords snapshot)) := by
  rw [← segmentSums_eq]
  unfold segmentFailure
  simp only
  constructor
  · intro passed
    split_ifs at passed with fails
    simp only [not_or, not_not, not_lt, gt_iff_lt] at fails
    obtain ⟨distance, _, loss, osnr⟩ := fails
    exact ⟨distance, loss, osnr⟩
  · rintro ⟨distance, loss, osnr⟩
    refine if_neg ?_
    simp only [not_or, not_not, not_lt, gt_iff_lt]
    exact ⟨distance, counted, loss, osnr⟩

omit [Field K] [LinearOrder K] in
/-- A segment has no more spans than the route has hops. -/
theorem PlanShape.spanCount_le {plan : PlanArtifact K}
    (shape : PlanShape request hops plan) {segment : PlanSegment K}
    (member : segment ∈ plan.segments) : segment.spanCount ≤ hops.length := by
  have total := List.le_sum_of_mem (List.mem_map_of_mem
    (f := PlanSegment.spanCount) member)
  have reserved := congrArg List.length shape.reservations
  have followed := congrArg List.length shape.arcs
  have fewer : (plan.steps.filter PlanStep.onSpan).length ≤
      (plan.steps.filter PlanStep.followsArc).length := by
    refine (List.monotone_filter_right plan.steps fun step onSpan => ?_).length_le
    simp only [PlanStep.onSpan, PlanStep.followsArc, decide_eq_true_eq] at onSpan ⊢
    exact .inl onSpan
  rw [shape.spanTotal] at total
  simp only [List.length_map] at reserved followed
  omega

/-- A balanced segment comes to its own totals where no identifier is
shared. -/
theorem PlanSegment.Balanced.near [IsStrictOrderedRing K]
    {segment : PlanSegment K} (balanced : segment.Balanced runtime snapshot)
    (own : ∀ use ∈ segment.spans,
      ¬ SharedBy SpanRecord.id snapshot.spans use.id) :
    segment.Near runtime
      (publishedSums runtime (segment.firstRecords snapshot)) := by
  have tolerated : (0 : K) ≤ Runtime.tolerance := Runtime.tolerance_pos.le
  rw [← segmentSums_eq, segmentSums_of_not_shared balanced.shown own]
  refine ⟨balanced.totals.distanceM.symm, ?_, ?_⟩
  · rw [balanced.totals.lossDb, sub_self, abs_zero]
    exact tolerated
  · rw [balanced.totals.osnrDb, sub_self, abs_zero]
    exact tolerated

/-- A segment of a candidate passes exactly when the first records with shared
identifiers come to its totals. -/
theorem Travels.segmentFailure_iff [IsStrictOrderedRing K]
    (valid : request.IsValid)
    (travels : Travels runtime snapshot request arcs hops startPort label
      ancestors builder) {requestDigest : Digest256} {plan : PlanArtifact K}
    (finished : plan = (searchContext runtime snapshot request).finishPlan request
      requestDigest arcs.length builder) {segment : PlanSegment K}
    (member : segment ∈ plan.segments) :
    segmentFailure runtime snapshot segment = none ↔
      ∀ use ∈ segment.spans, SharedBy SpanRecord.id snapshot.spans use.id →
        segment.Near runtime
          (publishedSums runtime (segment.firstRecords snapshot)) := by
  obtain ⟨profile, _, _, run⟩ := travels.builderRun
  have balanced : segment.Balanced runtime snapshot :=
    run.balanced requestDigest arcs.length segment (finished ▸ member)
  have shape := run.planShape requestDigest
  have within := travels.withinLimits valid.distinct requestDigest
  rw [← finished] at shape within
  have counted : (segmentSums runtime snapshot segment).spans % 2 ^ 32 =
      segment.spanCount := by
    have number := shape.spanCounts segment member
    have few := shape.spanCount_le member
    have hopLimit := within.hopLimit.trans valid.hops_le
    rw [within.hops_eq] at hopLimit
    have small : kMaxRequestedHops < 2 ^ 32 := by decide
    rw [spans_segmentSums balanced.shown, ← number, Nat.mod_eq_of_lt (by omega)]
  rw [segmentFailure_eq_none_iff counted]
  constructor
  · exact fun near _ _ _ => near
  · intro near
    by_cases shared : ∃ use ∈ segment.spans,
        SharedBy SpanRecord.id snapshot.spans use.id
    · obtain ⟨use, isUse, isShared⟩ := shared
      exact near use isUse isShared
    · exact balanced.near fun use isUse isShared => shared ⟨use, isUse, isShared⟩

/-! ### Candidates -/

/-- All steps and segments of a candidate pass exactly when it reproduces. -/
theorem Travels.reproduces_iff [IsStrictOrderedRing K]
    (built : IsBuilt runtime snapshot) (keys : snapshot.KeysValid)
    (valid : request.IsValid)
    (travels : Travels runtime snapshot request arcs hops startPort label
      ancestors builder) {requestDigest : Digest256} {plan : PlanArtifact K}
    (finished : plan = (searchContext runtime snapshot request).finishPlan request
      requestDigest arcs.length builder) :
    ((∀ step ∈ plan.steps, stepFailure snapshot plan step = none) ∧
        ∀ segment ∈ plan.segments,
          segmentFailure runtime snapshot segment = none) ↔
      Reproduces runtime snapshot plan := by
  have formed := built.wellFormed
  have visits : ∀ step ∈ plan.steps,
      Visits snapshot request.source hops step.resource := by
    rw [finished]
    exact travels.visits requestDigest
  constructor
  · rintro ⟨steps, sums⟩
    refine ⟨?_, ?_, ?_, ?_, fun segment member =>
      (travels.segmentFailure_iff valid finished member).mp (sums segment member)⟩
    · rintro record member ⟨step, isStep, names⟩
      exact (stepFailure_node_iff formed member (keys.nodes record member)
        names).mp (steps step isStep)
    · rintro record member ⟨step, isStep, names⟩ _
      exact (stepFailure_port_iff formed keys names).mp (steps step isStep)
    · rintro id first ⟨step, isStep, names⟩ shared found
      have visited := visits step isStep
      rw [names] at visited
      generalize named : ResourceKey.forSpan id = resource at visited
      cases visited with
      | node _ => cases named
      | source => cases named
      | target _ => cases named
      | span member =>
          cases ResourceKey.forSpan_injective named
          exact (travels.spanStep_iff built keys finished member names).mp
            (steps step isStep) shared first found
      | crossConnect _ => cases named
    · rintro id first ⟨step, isStep, names⟩ shared found
      have visited := visits step isStep
      rw [names] at visited
      generalize named : ResourceKey.forCrossConnect id = resource at visited
      cases visited with
      | node _ => cases named
      | source => cases named
      | target _ => cases named
      | span _ => cases named
      | crossConnect member =>
          cases ResourceKey.forCrossConnect_injective named
          exact (travels.crossConnectStep_iff keys member names).mp
            (steps step isStep) shared first found
  · intro reproduces
    refine ⟨fun step isStep => ?_, fun segment member =>
      (travels.segmentFailure_iff valid finished member).mpr
        (reproduces.segments segment member)⟩
    have visited := visits step isStep
    generalize names : step.resource = resource at visited
    cases visited with
    | @node record member =>
        exact (stepFailure_node_iff formed member (keys.nodes record member)
          names).mpr (reproduces.nodes record member ⟨step, isStep, names⟩)
    | source =>
        refine (travels.portStep_iff formed keys .source names).mpr ?_
        intro record member same
        exact reproduces.ports record member ⟨step, isStep, names.trans same.symm⟩
    | target isTarget =>
        refine (travels.portStep_iff formed keys (.target isTarget)
          names).mpr ?_
        intro record member same
        exact reproduces.ports record member ⟨step, isStep, names.trans same.symm⟩
    | span member =>
        refine (travels.spanStep_iff built keys finished member
          names).mpr fun shared first found => ?_
        exact reproduces.spans _ first ⟨step, isStep, names⟩ shared found
    | crossConnect member =>
        refine (travels.crossConnectStep_iff keys member names).mpr ?_
        intro shared first found
        exact reproduces.crossConnects _ first ⟨step, isStep, names⟩ shared found

end Runs

section Candidates

variable [Field K] [LinearOrder K] {runtime : Runtime K}
  {options : PlannerOptions} {driver : SearchDriver E}
  {snapshot : TopologySnapshot K} {request : PlanningRequest K}

/-- A candidate is valid on the snapshot it was planned on, under every policy,
exactly when it reproduces there. -/
theorem candidate_revalidated_iff [IsStrictOrderedRing K]
    (built : IsBuilt runtime snapshot) (fresh : snapshot.freshness = .fresh)
    (keys : snapshot.KeysValid) (env : E) (candidate : PlanArtifact K)
    (offered : candidate ∈
      (plan runtime options driver snapshot request env).1.candidates) :
    (∀ policy,
      (revalidatePlan runtime candidate snapshot policy).validity = .valid ∧
        (revalidatePlan runtime candidate snapshot policy).failures = []) ↔
      Reproduces runtime snapshot candidate := by
  obtain ⟨searching, arcs, takes⟩ := takesRoute_of_candidate offered
  have valid := requestOutcome_eq_none_iff.mp
    (earlyOutcome_eq_none_iff.mp searching).1
  obtain ⟨hops, startPort, label, ancestors, builder, travels, finished⟩ :=
    takes.travels built.wellFormed searching
  have bound : candidate.BoundTo runtime snapshot := by
    rw [finished]
    exact finishPlan_boundTo (searchContext runtime snapshot request) request _ _ _
  rw [← travels.reproduces_iff built keys valid finished]
  constructor
  · intro always
    exact (bound.revalidatePlan_iff built.wellFormed fresh {}).mp (always {})
  · intro passes policy
    exact (bound.revalidatePlan_iff built.wellFormed fresh policy).mpr passes

end Candidates

theorem candidate_revalidated_iff_singleSpan :
    ∃ candidate ∈ (singleSpan.planned acrossSpan).candidates,
      ((∀ policy, (revalidatePlan rationalRuntime candidate
            (singleSpan.finished rationalRuntime) policy).validity = .valid ∧
          (revalidatePlan rationalRuntime candidate
            (singleSpan.finished rationalRuntime) policy).failures = []) ↔
        Reproduces rationalRuntime (singleSpan.finished rationalRuntime)
          candidate) := by
  have some_ : (singleSpan.planned acrossSpan).candidates ≠ [] := by
    decide +kernel
  have built : IsBuilt rationalRuntime (singleSpan.finished rationalRuntime) :=
    isBuilt_finished (by decide +kernel)
  have keys : (singleSpan.finished rationalRuntime).KeysValid := by
    decide +kernel
  obtain ⟨candidate, offered⟩ := List.exists_mem_of_ne_nil _ some_
  refine ⟨candidate, offered, ?_⟩
  rw [SnapshotBuilder.planned] at offered
  exact candidate_revalidated_iff built rfl keys () candidate offered

/-! ### A node that says nothing of its state -/

/-- The single span, with a destination node whose administrative state is not
published. -/
def silentNode : SnapshotBuilder ℚ :=
  (SnapshotBuilder.new ⟨text "single"⟩ 1 {} {}).submitAll [
    .source { id := ⟨text "nms"⟩ },
    .node (.published "a"), .node { NodeRecord.published "b" with admin := .unknown },
    .reachProfile (.published "line" 100000 4 25 10),
    .port (.published (.of "a" "1") "line"),
    .port (.published (.of "b" "1") "line"),
    .span (.published "ab" (.of "a" "1") (.of "b" "1") 80000 20 30)]

/-- The search takes the node, and revalidation does not. -/
theorem silentNode_not_revalidated :
    IsBuilt rationalRuntime (silentNode.finished rationalRuntime) ∧
      (silentNode.finished rationalRuntime).freshness = .fresh ∧
      (silentNode.finished rationalRuntime).KeysValid ∧
      ∃ candidate ∈ (silentNode.planned acrossSpan).candidates,
        ¬ ((revalidatePlan rationalRuntime candidate
            (silentNode.finished rationalRuntime) {}).validity = .valid ∧
          (revalidatePlan rationalRuntime candidate
            (silentNode.finished rationalRuntime) {}).failures = []) := by
  have refused : ∃ candidate ∈ (silentNode.planned acrossSpan).candidates,
      (revalidatePlan rationalRuntime candidate
        (silentNode.finished rationalRuntime) {}).validity = .missingEvidence := by
    decide +kernel
  obtain ⟨candidate, offered, missing⟩ := refused
  refine ⟨isBuilt_finished (by decide +kernel), rfl, by decide +kernel, candidate,
    offered, fun both => ?_⟩
  rw [missing] at both
  exact PlanValidity.noConfusion both.1

end OpticalPathPlanner
