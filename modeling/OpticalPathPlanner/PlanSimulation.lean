import OpticalPathPlanner.PlanBuilding
import OpticalPathPlanner.Routes
import OpticalPathPlanner.SnapshotInvariants

/-!
# The search and the plan builder

The plan builder walks the arcs of a route again, from the records.  Along a
proven route it never fails, and after every arc its state agrees with the
label the search had there.  The rules of the builder's request may differ
from those of the search in everything but the channel width: a pass over
disjoint candidates searches with more exclusions than it builds with.
-/

namespace OpticalPathPlanner

open SortedRanges Traced

variable {K : Type} [Field K] [LinearOrder K]

namespace SearchContext

variable (ctx : SearchContext K)

/-- The same evidence under other rules. -/
def under (rules : RouteRules K) : SearchContext K :=
  { ctx with rules := rules }

/-! ### Facts of proven steps -/

section Facts

variable {ctx}

theorem hasValue_of_classifyAdmin {admin : Evidence AdminState}
    (good : classifyAdmin admin = .good) : admin.hasValue = true := by
  rw [classifyAdmin_eq_good_iff.mp good]
  rfl

/-- What a proven label relies on at the port it stands on. -/
structure PortPublished (ctx : SearchContext K) (portIndex : Nat) : Prop where
  admin : (ctx.port portIndex).admin = .known .up
  conflicting : (ctx.portInfo portIndex).conflicting = false
  covered : (ctx.portInfo portIndex).partialCoverage = false
  resolved : (ctx.portInfo portIndex).unresolvedArcs = false
  blockedSlots : (ctx.port portIndex).blockedSlots.hasValue = true

theorem portPublished_iff {portIndex : Nat} :
    ctx.PortPublished portIndex ↔ ctx.portSound portIndex = true ∧
      (ctx.portInfo portIndex).maskKnown = true := by
  unfold portSound
  simp only [Bool.and_eq_true, decide_eq_true_eq, Bool.not_eq_true']
  constructor
  · rintro ⟨admin, conflicting, covered, resolved, slots⟩
    exact ⟨⟨⟨⟨classifyAdmin_eq_good_iff.mpr admin, conflicting⟩, covered⟩,
      resolved⟩, slots⟩
  · rintro ⟨⟨⟨⟨admin, conflicting⟩, covered⟩, resolved⟩, slots⟩
    exact ⟨classifyAdmin_eq_good_iff.mp admin, conflicting, covered, resolved,
      slots⟩

/-- What a proven start label relies on. -/
theorem StartStep.published {portIndex : Nat} {label : Label K}
    (started : ctx.StartStep portIndex label) (proven : label.proven = true) :
    ctx.PortPublished portIndex ∧ ∃ profile,
      (ctx.port portIndex).transmitProfile = .known (some profile) ∧
      ctx.snapshot.profileIndex profile = label.profileIndex ∧
      label.profileIndex.isSome = true := by
  have labelEq := started.label_eq
  rw [labelEq] at proven
  simp only [Bool.and_eq_true, decide_eq_true_eq] at proven
  obtain ⟨⟨sound, slots⟩, transmits⟩ := proven
  obtain ⟨index, isIndex⟩ := portInfo_transmit_eq_good_iff.mp transmits
  obtain ⟨profile, published, found⟩ := transmitIndex_eq_some isIndex
  have same : label.profileIndex = some index := by
    rw [labelEq]
    exact isIndex
  exact ⟨portPublished_iff.mpr ⟨sound, slots⟩, profile, published,
    found.trans same.symm, by simp [same]⟩

/-- What a proven span step relies on. -/
structure SpanPublished (ctx : SearchContext K) (index toPort : Nat)
    (length : UInt64) (loss osnr : K) : Prop where
  lengthM : (ctx.span index).lengthM = .known length
  lossDb : (ctx.span index).lossDb = .known loss
  osnrDb : (ctx.span index).osnrDb = .known osnr
  admin : (ctx.span index).admin = .known .up
  conflicting : (ctx.spanInfo index).conflicting = false
  blockedSlots : (ctx.span index).blockedSlots.hasValue = true
  port : ctx.PortPublished toPort

theorem SpanStep.published {current next : Label K} {arc : SpanArc}
    (step : ctx.SpanStep current arc next) (proven : next.proven = true) :
    (∃ length loss osnr, ctx.SpanPublished arc.spanIndex next.portIndex length
      loss osnr) ∧ ctx.reachSound current.profileIndex = true := by
  rw [step.next_eq] at proven
  simp only [Bool.and_eq_true, spanSound, decide_eq_true_eq,
    Bool.not_eq_true'] at proven
  obtain ⟨⟨_, ⟨⟨⟨⟨⟨⟨lengthSome, lossSome⟩, osnrSome⟩, admin⟩, conflicting⟩,
    portSound⟩, slots, portSlots⟩⟩, reach⟩ := proven
  obtain ⟨length, lengthEq⟩ := Option.isSome_iff_exists.mp lengthSome
  obtain ⟨loss, lossEq⟩ := Option.isSome_iff_exists.mp lossSome
  obtain ⟨osnr, osnrEq⟩ := Option.isSome_iff_exists.mp osnrSome
  exact ⟨⟨length, loss, osnr, Evidence.value?_eq_some_iff.mp lengthEq,
    Evidence.value?_eq_some_iff.mp lossEq, Evidence.value?_eq_some_iff.mp osnrEq,
    classifyAdmin_eq_good_iff.mp admin, conflicting, slots,
    portPublished_iff.mpr ⟨portSound, portSlots⟩⟩, reach⟩

/-- What a proven cross-connect step relies on.  Whether the cross-connect is
conflicting is not part of it. -/
structure CrossConnectPublished (ctx : SearchContext K) (index toPort : Nat) :
    Prop where
  admin : (ctx.crossConnect index).admin = .known .up
  blockedSlots : (ctx.crossConnect index).blockedSlots.hasValue = true
  port : ctx.PortPublished toPort
  transmits : (ctx.crossConnect index).op = .regenerate →
    ∃ profile, (ctx.port toPort).transmitProfile = .known (some profile) ∧
      ∃ record, ctx.snapshot.profileIndex profile = some record

theorem CrossConnectStep.published {current next : Label K} {index : Nat}
    (step : ctx.CrossConnectStep current index next)
    (proven : next.proven = true) :
    ctx.CrossConnectPublished index next.portIndex := by
  rw [step.next_eq] at proven
  have sound : ctx.crossConnectSound index next.portIndex = true ∧
      ((ctx.crossConnect index).op = .regenerate →
        (ctx.portInfo next.portIndex).transmit = .good) := by
    cases op : (ctx.crossConnect index).op with
    | express =>
        rw [op] at proven
        simp only [operated, Bool.and_eq_true] at proven
        exact ⟨proven.2, nofun⟩
    | convert =>
        rw [op] at proven
        simp only [operated, Bool.and_eq_true] at proven
        exact ⟨proven.2, nofun⟩
    | regenerate =>
        rw [op] at proven
        simp only [operated, Bool.and_eq_true, decide_eq_true_eq] at proven
        exact ⟨proven.1.2, fun _ => proven.2⟩
  obtain ⟨sound, transmits⟩ := sound
  simp only [crossConnectSound, Bool.and_eq_true, decide_eq_true_eq] at sound
  obtain ⟨⟨admin, portSound⟩, slots, portSlots⟩ := sound
  refine ⟨classifyAdmin_eq_good_iff.mp admin, slots,
    portPublished_iff.mpr ⟨portSound, portSlots⟩, ?_⟩
  intro regenerates
  obtain ⟨record, isRecord⟩ :=
    portInfo_transmit_eq_good_iff.mp (transmits regenerates)
  obtain ⟨profile, published, found⟩ := transmitIndex_eq_some isRecord
  exact ⟨profile, published, record, found⟩

end Facts

/-! ### The simulation -/

/-- The builder agrees with a label. -/
structure Simulates (label : Label K) (builder : PlanBuilder K) : Prop where
  port : builder.currentPort = (ctx.port label.portIndex).key
  mask : builder.mask = label.mask
  cost : builder.totalCost = label.cost
  distance : builder.segmentDistance = label.distanceM
  loss : builder.segmentLoss = label.lossDb
  osnr : builder.segmentOsnrInverse = label.osnrInverse
  spanCount : builder.segmentSpanCount = label.spanCount
  regenerations : builder.regenerations = label.regenerations
  segmentIndex : builder.segmentIndex = label.regenerations
  profile : ctx.snapshot.profileIndex builder.currentProfile =
    label.profileIndex
  hasProfile : label.profileIndex.isSome = true

/-- A proven walk and the builder that follows it. -/
inductive Rebuilt (rules : RouteRules K) (request : PlanningRequest K)
    (startPort : Nat) :
    List ArcRef → List (Label K) → PlanBuilder K → Prop
  | start {label : Label K} {profile : ProfileId}
      (started : ctx.StartStep startPort label)
      (proven : label.proven = true)
      (transmits : (ctx.port startPort).transmitProfile =
        .known (some profile)) :
      Rebuilt rules request startPort [] [label]
        ((ctx.under rules).startBuilder request (ctx.port startPort) profile)
  | span {arcs : List ArcRef} {current next : Label K}
      {ancestors : List (Label K)} {builder : PlanBuilder K} {index : Nat}
      {reversed : Bool} {length : UInt64} {loss osnr : K} {slot : Nat}
      (before : Rebuilt rules request startPort arcs (current :: ancestors)
        builder)
      (leaves : ⟨.span, index, reversed⟩ ∈ ctx.outgoingArcs current.portIndex)
      (step : ctx.SpanStep current ⟨index, reversed⟩ next)
      (allows : ctx.PathAllows current ancestors ⟨.span, index, reversed⟩
        next.portIndex)
      (proven : next.proven = true)
      (built : (ctx.under rules).SpanBuild builder index reversed
        (ctx.span index) (ctx.port next.portIndex) length loss osnr next.mask
        slot) :
      Rebuilt rules request startPort (arcs ++ [⟨.span, index, reversed⟩])
        (next :: current :: ancestors)
        ((ctx.under rules).useSpan builder (ctx.span index) reversed
          (ctx.port next.portIndex) length loss osnr next.mask slot)
  | crossConnect {arcs : List ArcRef} {current next : Label K}
      {ancestors : List (Label K)} {builder switched : PlanBuilder K}
      {index : Nat}
      (before : Rebuilt rules request startPort arcs (current :: ancestors)
        builder)
      (leaves : ⟨.crossConnect, index, false⟩ ∈
        ctx.outgoingArcs current.portIndex)
      (step : ctx.CrossConnectStep current index next)
      (allows : ctx.PathAllows current ancestors ⟨.crossConnect, index, false⟩
        next.portIndex)
      (proven : next.proven = true)
      (built : (ctx.under rules).CrossConnectBuild builder index
        (ctx.crossConnect index) (ctx.port next.portIndex) switched) :
      Rebuilt rules request startPort
        (arcs ++ [⟨.crossConnect, index, false⟩])
        (next :: current :: ancestors)
        ((ctx.under rules).useCrossConnect switched (ctx.crossConnect index)
          (ctx.port next.portIndex))

variable {ctx}

/-! ### Costs -/

theorem sum_of_toNat {first second third fourth sum : UInt64}
    (total : sum.toNat = first.toNat + second.toNat + third.toNat +
      fourth.toNat) : first + second + third + fourth = sum := by
  have bound := sum.toNat_lt
  rw [← UInt64.toNat_inj, UInt64.toNat_add, UInt64.toNat_add, UInt64.toNat_add]
  omega

/-- The search and the builder charge the same node. -/
theorem nodeCostBetween_eq (rules : RouteRules K) (fromPort toPort : Nat) :
    (ctx.under rules).nodeCostBetween (ctx.port fromPort).key
        (ctx.port toPort).key =
      ctx.transitionNodeCost fromPort toPort := by
  have sameSnapshot : (ctx.under rules).snapshot = ctx.snapshot := rfl
  unfold nodeCostBetween transitionNodeCost
  simp only [portInfo_nodeIndex, sameSnapshot]
  cases toNode : ctx.snapshot.nodeIndex (ctx.port toPort).key.node with
  | none =>
      rw [TopologySnapshot.findNode_eq_none_of_nodeIndex toNode]
      simp
  | some index =>
      obtain ⟨record, atIndex, idEq⟩ :=
        TopologySnapshot.getElem?_of_nodeIndex toNode
      rw [TopologySnapshot.findNode_of_nodeIndex toNode atIndex]
      by_cases same : (ctx.port fromPort).key.node = (ctx.port toPort).key.node
      · rw [if_pos same]
        simp [same, toNode]
      · have differs :
            some index ≠ ctx.snapshot.nodeIndex (ctx.port fromPort).key.node := by
          intro equal
          obtain ⟨other, otherAt, otherId⟩ :=
            TopologySnapshot.getElem?_of_nodeIndex equal.symm
          rw [atIndex] at otherAt
          cases otherAt
          exact same (otherId.symm.trans idEq)
        simp [same, differs, node, atIndex]

theorem startCost_eq {startPort : Nat} :
    ctx.startCost startPort = (ctx.port startPort).transitCost +
      ((ctx.snapshot.findNode (ctx.port startPort).key.node).map
        NodeRecord.transitCost).getD 0 := by
  unfold startCost
  simp only [portInfo_nodeIndex]
  cases found : ctx.snapshot.nodeIndex (ctx.port startPort).key.node with
  | none =>
      rw [TopologySnapshot.findNode_eq_none_of_nodeIndex found]
      simp
  | some index =>
      obtain ⟨record, atIndex, _⟩ := TopologySnapshot.getElem?_of_nodeIndex found
      rw [TopologySnapshot.findNode_of_nodeIndex found atIndex]
      simp [node, atIndex]

theorem port_key_of_target {key : PortKey} {portIndex : Nat}
    (target : ctx.snapshot.portIndex key = some portIndex) :
    (ctx.port portIndex).key = key ∧
      ctx.snapshot.findPort key = some (ctx.port portIndex) :=
  ⟨port_key_of_portIndex target, findPort_eq_port target⟩

section Steps

variable {rules : RouteRules K} {request : PlanningRequest K} {startPort : Nat}

theorem usable_under
    (width : rules.channelWidthSlots = ctx.rules.channelWidthSlots)
    (blocked : Evidence SlotMask) :
    (ctx.under rules).usable blocked = ctx.usable blocked := by
  change usableStarts ctx.snapshot.spectrum rules.channelWidthSlots blocked =
    usableStarts ctx.snapshot.spectrum ctx.rules.channelWidthSlots blocked
  rw [width]

theorem simulates_start {label : Label K} {profile : ProfileId}
    (width : rules.channelWidthSlots = ctx.rules.channelWidthSlots)
    (source : ctx.snapshot.portIndex request.source = some startPort)
    (started : ctx.StartStep startPort label) (proven : label.proven = true)
    (transmits : (ctx.port startPort).transmitProfile =
      .known (some profile)) :
    ctx.Simulates label
      ((ctx.under rules).startBuilder request (ctx.port startPort) profile) := by
  have key := port_key_of_portIndex source
  obtain ⟨_, other, published, found, some_⟩ := started.published proven
  rw [transmits] at published
  cases published
  have labelEq := started.label_eq
  rw [startBuilder_eq]
  refine ⟨?_, ?_, ?_, ?_, ?_, ?_, ?_, ?_, ?_, found, some_⟩
  all_goals rw [labelEq]
  · exact key.symm
  · exact usable_under width _
  · rw [startCost_eq, key]
    rfl

/-- A span keeps the agreement. -/
theorem Simulates.span {current next : Label K} {builder : PlanBuilder K}
    {index : Nat} {reversed : Bool} {length : UInt64} {loss osnr : K}
    {slot : Nat} (agrees : ctx.Simulates current builder)
    (step : ctx.SpanStep current ⟨index, reversed⟩ next)
    (built : (ctx.under rules).SpanBuild builder index reversed
      (ctx.span index) (ctx.port next.portIndex) length loss osnr next.mask
      slot) :
    ctx.Simulates next ((ctx.under rules).useSpan builder (ctx.span index)
      reversed (ctx.port next.portIndex) length loss osnr next.mask slot) := by
  have key : (ctx.port next.portIndex).key = (ctx.span index).arrival reversed :=
    port_key_of_portIndex step.target
  have nextEq := step.next_eq
  rw [useSpan_eq]
  refine ⟨key.symm, rfl, ?_, ?_, ?_, ?_, ?_, ?_, ?_, ?_, ?_⟩
  · rw [agrees.cost, agrees.port, ← key, nodeCostBetween_eq]
    exact sum_of_toNat (extendCost_eq_some step.cost)
  · have added := step.distance
    change extendDistance current.distanceM (ctx.span index).lengthM.value? =
      some next.distanceM at added
    rw [built.lengthM] at added
    have total := addCheckedU64_eq_some_iff.mp added
    have bound := next.distanceM.toNat_lt
    rw [agrees.distance, ← UInt64.toNat_inj, UInt64.toNat_add]
    omega
  · have added := congrArg Label.lossDb nextEq
    change next.lossDb = current.lossDb + (ctx.span index).lossDb.value?.getD 0
      at added
    rw [built.lossDb] at added
    rw [agrees.loss, added]
    rfl
  · have added := congrArg Label.osnrInverse nextEq
    change next.osnrInverse = current.osnrInverse +
      ((ctx.span index).osnrDb.value?.map ctx.runtime.osnrToInverse).getD 0
      at added
    rw [built.osnrDb] at added
    rw [agrees.osnr, added]
    rfl
  · rw [agrees.spanCount, nextEq]
  · rw [agrees.regenerations, nextEq]
  · rw [agrees.segmentIndex, nextEq]
  · rw [nextEq]
    exact agrees.profile
  · rw [nextEq]
    exact agrees.hasProfile

/-- A cross-connect keeps the agreement. -/
theorem Simulates.crossConnect {current next : Label K}
    {builder switched : PlanBuilder K} {index : Nat}
    (width : rules.channelWidthSlots = ctx.rules.channelWidthSlots)
    (agrees : ctx.Simulates current builder)
    (step : ctx.CrossConnectStep current index next)
    (proven : next.proven = true)
    (built : (ctx.under rules).CrossConnectBuild builder index
      (ctx.crossConnect index) (ctx.port next.portIndex) switched) :
    ctx.Simulates next ((ctx.under rules).useCrossConnect switched
      (ctx.crossConnect index) (ctx.port next.portIndex)) := by
  have key : (ctx.port next.portIndex).key = (ctx.crossConnect index).toPort :=
    port_key_of_portIndex step.target
  have cost {total : UInt64} (same : total = current.cost) :
      total + (ctx.crossConnect index).cost +
        (ctx.under rules).nodeCostBetween (ctx.port current.portIndex).key
          (ctx.crossConnect index).toPort +
        (ctx.port next.portIndex).transitCost = next.cost := by
    rw [same, ← key, nodeCostBetween_eq]
    refine sum_of_toNat ?_
    have total := extendCost_eq_some step.cost
    omega
  have nextEq := step.next_eq
  rw [useCrossConnect_eq]
  cases built.segment with
  | express op mask_eq slot_eq =>
      rw [op] at nextEq
      rw [noteSlot_eq]
      refine ⟨key.symm, ?_, ?_, ?_, ?_, ?_, ?_, ?_, ?_, ?_, ?_⟩
      · rw [mask_eq, usable_under width, usable_under width, agrees.mask, nextEq]
        rfl
      · change builder.totalCost + _ + _ + _ = _
        rw [agrees.port]
        exact cost agrees.cost
      all_goals rw [nextEq]
      · exact agrees.distance
      · exact agrees.loss
      · exact agrees.osnr
      · exact agrees.spanCount
      · exact agrees.regenerations
      · exact agrees.segmentIndex
      · exact agrees.profile
      · exact agrees.hasProfile
  | convert op mask_eq slot_eq =>
      rw [op] at nextEq
      refine ⟨key.symm, ?_, ?_, ?_, ?_, ?_, ?_, ?_, ?_, ?_, ?_⟩
      · rw [mask_eq, usable_under width, nextEq]
        rfl
      · change builder.totalCost + _ + _ + _ = _
        rw [agrees.port]
        exact cost agrees.cost
      all_goals rw [nextEq]
      · exact agrees.distance
      · exact agrees.loss
      · exact agrees.osnr
      · exact agrees.spanCount
      · exact agrees.regenerations
      · exact agrees.segmentIndex
      · exact agrees.profile
      · exact agrees.hasProfile
  | @regenerate profile op transmits =>
      have published := step.published proven
      obtain ⟨other, otherEq, record, found⟩ := published.transmits op
      rw [transmits] at otherEq
      cases otherEq
      rw [op] at nextEq
      have nextProfile : next.profileIndex = some record := by
        rw [nextEq]
        change ctx.transmitIndex (ctx.port next.portIndex) = some record
        rw [transmitIndex, transmits]
        exact found
      rw [closeSegment_eq]
      refine ⟨key.symm, ?_, ?_, ?_, ?_, ?_, ?_, ?_, ?_, found.trans
        nextProfile.symm, by simp [nextProfile]⟩
      · rw [usable_under width, nextEq]
        rfl
      · change builder.totalCost + _ + _ + _ = _
        rw [← cost agrees.cost, ← agrees.port]
        rfl
      all_goals rw [nextEq]
      · rfl
      · rfl
      · rfl
      · rfl
      · exact congrArg (· + 1) agrees.regenerations
      · exact congrArg (· + 1) agrees.segmentIndex

/-- The builder agrees with the last label of the walk it follows. -/
theorem Rebuilt.simulates {arcs : List ArcRef} {path : List (Label K)}
    {builder : PlanBuilder K}
    (width : rules.channelWidthSlots = ctx.rules.channelWidthSlots)
    (source : ctx.snapshot.portIndex request.source = some startPort)
    (rebuilt : ctx.Rebuilt rules request startPort arcs path builder) :
    ∀ label ∈ path.head?, ctx.Simulates label builder := by
  induction rebuilt with
  | start started proven transmits =>
      rintro label ⟨⟩
      exact simulates_start width source started proven transmits
  | span before leaves step allows proven built ih =>
      rintro label ⟨⟩
      exact (ih _ rfl).span step built
  | crossConnect before leaves step allows proven built ih =>
      rintro label ⟨⟩
      exact (ih _ rfl).crossConnect width step proven built

theorem exists_lowestSetBit {mask : SlotMask} (some_ : mask.isEmpty = false) :
    ∃ slot, mask.lowestSetBit = some slot := by
  rw [← Option.ne_none_iff_exists', ne_eq, SlotMask.lowestSetBit_eq_none_iff]
  simp [some_]

/-- A proven span step can be built. -/
theorem exists_spanBuild {current next : Label K} {builder : PlanBuilder K}
    {index : Nat} {reversed : Bool} (formed : ctx.snapshot.WellFormed)
    (width : rules.channelWidthSlots = ctx.rules.channelWidthSlots)
    (agrees : ctx.Simulates current builder)
    (leaves : ⟨.span, index, reversed⟩ ∈ ctx.outgoingArcs current.portIndex)
    (step : ctx.SpanStep current ⟨index, reversed⟩ next)
    (proven : next.proven = true) :
    ∃ length loss osnr slot, (ctx.under rules).SpanBuild builder index reversed
      (ctx.span index) (ctx.port next.portIndex) length loss osnr next.mask
      slot := by
  obtain ⟨⟨length, loss, osnr, published⟩, _⟩ := step.published proven
  obtain ⟨slot, slotEq⟩ := exists_lowestSetBit step.channel
  obtain ⟨record, _, atIndex, _⟩ := formed.spanArcs _ _
    (mem_outgoingArcs_span.mp leaves)
  refine ⟨length, loss, osnr, slot, ?_, published.lengthM, published.lossDb,
    published.osnrDb, ?_, findPort_eq_port step.target,
    published.port.blockedSlots, ?_, slotEq⟩
  · rw [span_eq atIndex]
    exact atIndex
  · rw [published.blockedSlots, published.admin]
    rfl
  · rw [usable_under width, usable_under width, agrees.mask, step.next_eq]
    rfl

/-- A proven cross-connect step can be built. -/
theorem exists_crossConnectBuild {current next : Label K}
    {builder : PlanBuilder K} {index : Nat}
    (formed : ctx.snapshot.WellFormed)
    (width : rules.channelWidthSlots = ctx.rules.channelWidthSlots)
    (agrees : ctx.Simulates current builder)
    (leaves : ⟨.crossConnect, index, false⟩ ∈
      ctx.outgoingArcs current.portIndex)
    (step : ctx.CrossConnectStep current index next)
    (proven : next.proven = true) :
    ∃ switched, (ctx.under rules).CrossConnectBuild builder index
      (ctx.crossConnect index) (ctx.port next.portIndex) switched := by
  have published := step.published proven
  obtain ⟨record, _, atIndex, _⟩ := formed.crossConnectArcs _ _
    (mem_outgoingArcs_crossConnect.mp leaves).1
  have found : (ctx.under rules).snapshot.crossConnects[index]? =
      some (ctx.crossConnect index) := by
    rw [crossConnect_eq atIndex]
    exact atIndex
  have evidence : ((ctx.crossConnect index).admin.hasValue &&
      (ctx.crossConnect index).blockedSlots.hasValue) = true := by
    rw [published.admin, published.blockedSlots]
    rfl
  have port := findPort_eq_port step.target
  obtain ⟨slot, slotEq⟩ := exists_lowestSetBit step.channel
  have nextEq := step.next_eq
  cases op : (ctx.crossConnect index).op with
  | express =>
      rw [op] at nextEq
      have first : ((builder.mask.intersect
          ((ctx.under rules).usable (ctx.crossConnect index).blockedSlots)).intersect
            ((ctx.under rules).usable
              (ctx.port next.portIndex).blockedSlots)).lowestSetBit =
          some slot := by
        rw [← slotEq, usable_under width, usable_under width, agrees.mask,
          nextEq]
        rfl
      exact ⟨_, found, evidence, port, published.port.blockedSlots,
        .express op rfl first⟩
  | convert =>
      rw [op] at nextEq
      have first : ((ctx.under rules).usable
          (ctx.port next.portIndex).blockedSlots).lowestSetBit = some slot := by
        rw [← slotEq, usable_under width, nextEq]
        rfl
      exact ⟨_, found, evidence, port, published.port.blockedSlots,
        .convert op rfl first⟩
  | regenerate =>
      obtain ⟨profile, transmits, _⟩ := published.transmits op
      exact ⟨_, found, evidence, port, published.port.blockedSlots,
        .regenerate op transmits⟩

/-- Every proven walk can be followed by the builder. -/
theorem rebuilt_of_walk (formed : ctx.snapshot.WellFormed)
    (width : rules.channelWidthSlots = ctx.rules.channelWidthSlots)
    (source : ctx.snapshot.portIndex request.source = some startPort)
    {arcs : List ArcRef} {label : Label K} {ancestors : List (Label K)}
    (walked : ctx.walk startPort arcs = some (label :: ancestors))
    (proven : label.proven = true) :
    ∃ builder, ctx.Rebuilt rules request startPort arcs (label :: ancestors)
      builder := by
  induction arcs using List.reverseRecOn generalizing label ancestors with
  | nil =>
      obtain ⟨start, yielded, path⟩ := walk_nil.mp walked
      cases path
      have started := yields_startLabel_iff.mp yielded
      obtain ⟨_, profile, transmits, _⟩ := started.published proven
      exact ⟨_, .start started proven transmits⟩
  | append_singleton arcs arc ih =>
      obtain ⟨current, older, next, before, path, leaves, yielded⟩ :=
        walk_concat.mp walked
      cases path
      obtain ⟨step, allows⟩ := yields_expandArc_iff.mp yielded
      obtain ⟨builder, rebuilt⟩ := ih before (step.proven_of_next proven)
      have agrees := rebuilt.simulates width source current rfl
      obtain ⟨kind, index, reversed⟩ := arc
      cases kind with
      | span =>
          obtain ⟨length, loss, osnr, slot, built⟩ :=
            exists_spanBuild formed width agrees leaves step proven
          exact ⟨_, .span rebuilt leaves step allows proven built⟩
      | crossConnect =>
          obtain rfl := (mem_outgoingArcs_crossConnect.mp leaves).2
          obtain ⟨switched, built⟩ :=
            exists_crossConnectBuild formed width agrees leaves step proven
          exact ⟨_, .crossConnect rebuilt leaves step allows proven built⟩

omit [Field K] [LinearOrder K] in
theorem foldlM_concat {add : PlanBuilder K → ArcRef →
      Except Status (PlanBuilder K)} {start builder after : PlanBuilder K}
    {arcs : List ArcRef} {arc : ArcRef}
    (ran : arcs.foldlM add start = .ok builder)
    (added : add builder arc = .ok after) :
    (arcs ++ [arc]).foldlM add start = .ok after := by
  rw [List.foldlM_append, ran]
  change [arc].foldlM add builder = _
  rw [List.foldlM_cons, added]
  rfl

/-- A followed walk is a run of the builder. -/
theorem Rebuilt.foldlM_eq {arcs : List ArcRef} {path : List (Label K)}
    {builder : PlanBuilder K}
    (rebuilt : ctx.Rebuilt rules request startPort arcs path builder) :
    ∃ profile, (ctx.port startPort).transmitProfile = .known (some profile) ∧
      arcs.foldlM (ctx.under rules).addArc ((ctx.under rules).startBuilder
        request (ctx.port startPort) profile) = .ok builder := by
  induction rebuilt with
  | @start _ profile started proven transmits => exact ⟨profile, transmits, rfl⟩
  | span before leaves step allows proven built ih =>
      obtain ⟨profile, transmits, ran⟩ := ih
      refine ⟨profile, transmits, ?_⟩
      exact foldlM_concat ran
        (addSpan_eq_ok_iff.mpr ⟨_, _, _, _, _, _, _, built, rfl⟩)
  | crossConnect before leaves step allows proven built ih =>
      obtain ⟨profile, transmits, ran⟩ := ih
      refine ⟨profile, transmits, ?_⟩
      exact foldlM_concat ran
        (addCrossConnect_eq_ok_iff.mpr ⟨_, _, _, built, rfl⟩)

end Steps

end SearchContext

end OpticalPathPlanner
