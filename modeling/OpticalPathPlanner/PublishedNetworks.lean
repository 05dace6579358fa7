import OpticalPathPlanner.RouteHops
import OpticalPathPlanner.SearchOutcomes
import OpticalPathPlanner.SnapshotAdjacency

/-!
# Networks with published evidence

Snapshots in which every fact is published.  A search in such a snapshot has
nothing to doubt: every label is proven.
-/

namespace OpticalPathPlanner

open SortedRanges Traced

namespace TopologySnapshot

variable {K : Type} (snapshot : TopologySnapshot K)

/-- The transmitter of a port is published as absent or names a record. -/
def transmitterPublished (port : PortRecord) : Bool :=
  match port.transmitProfile.value? with
  | some (some id) => (snapshot.findReachProfile id).isSome
  | some none => true
  | none => false

/-- Every fact of every record is published. -/
def allPublished : Bool :=
  (snapshot.nodes.all fun node => node.admin.hasValue) &&
  (snapshot.ports.all fun port => port.admin.hasValue &&
    port.blockedSlots.hasValue && snapshot.transmitterPublished port) &&
  (snapshot.spans.all fun span => span.lengthM.hasValue &&
    span.lossDb.hasValue && span.osnrDb.hasValue &&
    span.blockedSlots.hasValue && span.admin.hasValue) &&
  (snapshot.crossConnects.all fun record => record.admin.hasValue &&
    record.blockedSlots.hasValue) &&
  (snapshot.reachProfiles.all fun profile => profile.maxDistanceM.hasValue &&
    profile.maxSpanCount.hasValue && profile.maxLossDb.hasValue &&
    profile.minOsnrDb.hasValue)

/-- Every cross-connect is transparent. -/
def allExpress : Bool :=
  snapshot.crossConnects.all fun record => decide (record.op = .express)

/-- Every fact of a port is published, with the coverage of its node and the
limits of the profile it transmits with. -/
def portPublished (port : PortRecord) : Bool :=
  port.admin.hasValue && port.blockedSlots.hasValue &&
  (match snapshot.findNode port.key.node with
    | some node => decide (node.coverage = .complete)
    | none => false) &&
  match port.transmitProfile.value? with
  | some (some id) => (snapshot.findReachProfile id).any fun profile =>
      profile.maxDistanceM.hasValue && profile.maxSpanCount.hasValue &&
        profile.maxLossDb.hasValue && profile.minOsnrDb.hasValue
  | some none => true
  | none => false

/-- Every fact of the records of a route is published, and no record of the
snapshot is disputed. -/
def routePublished (start : PortRecord) (hops : List (Hop K)) : Bool :=
  snapshot.conflicted.isEmpty && snapshot.portPublished start &&
  hops.all fun hop => snapshot.portPublished hop.target &&
    match hop.link with
    | .span record _ => record.lengthM.hasValue && record.lossDb.hasValue &&
        record.osnrDb.hasValue && record.blockedSlots.hasValue &&
        record.admin.hasValue
    | .crossConnect record => record.admin.hasValue &&
        record.blockedSlots.hasValue

/-- Every port has a node with complete adjacency, and no record is missing or
disputed. -/
structure Covered : Prop where
  agreed : snapshot.conflicted = []
  resolved : ∀ index, snapshot.hasUnresolvedArcs index = false
  located : ∀ port ∈ snapshot.ports, ∃ index node,
    snapshot.nodeIndex port.key.node = some index ∧
      snapshot.nodes[index]? = some node ∧ node.coverage = .complete

end TopologySnapshot

section Coverage

variable {K : Type} [Field K] [LinearOrder K] {runtime : Runtime K}
  {snapshot : TopologySnapshot K}

theorem SnapshotBuilder.covered {builder : SnapshotBuilder K}
    (complete : (builder.finished runtime).coverageComplete = true) :
    (builder.finished runtime).Covered := by
  have noNotes : (builder.sortedRecords runtime).unresolvedNotes = [] := by
    have parts := complete
    change (builder.sortedRecords runtime).coverageComplete = true at parts
    simp only [SortedRecords.coverageComplete, Bool.and_eq_true,
      List.isEmpty_iff] at parts
    exact parts.1.1.1
  have resolved (index : Nat) :
      (builder.finished runtime).hasUnresolvedArcs index = false := by
    rw [← Bool.not_eq_true, hasUnresolvedArcs_iff_noted, noNotes]
    simp
  obtain ⟨_, agreed, _, nodes⟩ := coverageComplete_iff_empty.mp complete
  refine ⟨agreed, resolved, fun port member => ?_⟩
  cases found : (builder.finished runtime).nodeIndex port.key.node with
  | none =>
      obtain ⟨index, atIndex⟩ := List.mem_iff_getElem?.mp member
      have noted : ∃ resource, (resource, some index) ∈
          (builder.sortedRecords runtime).unresolvedNotes :=
        mem_unresolvedNotes_at.mpr (.inl ⟨port, atIndex, found⟩)
      rw [noNotes] at noted
      obtain ⟨_, impossible⟩ := noted
      cases impossible
  | some index =>
      obtain ⟨node, nodeAt, _⟩ := TopologySnapshot.getElem?_of_nodeIndex found
      exact ⟨index, node, rfl, nodeAt, nodes node (List.mem_of_getElem? nodeAt)⟩

theorem IsBuilt.covered (built : IsBuilt runtime snapshot)
    (complete : snapshot.coverageComplete = true) : snapshot.Covered := by
  induction built with
  | sealed builder snapshot built =>
      obtain rfl := SnapshotBuilder.eq_finished built
      exact SnapshotBuilder.covered complete
  | restored snapshot producer epoch original ih =>
      obtain ⟨agreed, resolved, located⟩ := ih complete
      exact ⟨agreed, resolved, located⟩

end Coverage

/-! ### Labels over published facts -/

namespace SearchContext

variable {K : Type} [Field K] [LinearOrder K] {ctx : SearchContext K}

/-- Nothing the search asks for is missing. -/
structure Published (ctx : SearchContext K) : Prop where
  formed : ctx.snapshot.WellFormed
  covered : ctx.snapshot.Covered
  published : ctx.snapshot.allPublished = true

theorem classifyAdmin_eq_good {admin : Evidence AdminState}
    (known : admin.hasValue = true) (open_ : classifyAdmin admin ≠ .blocked) :
    classifyAdmin admin = .good := by
  cases admin with
  | known state => cases state <;> simp_all [classifyAdmin, Evidence.value?]
  | unknown => cases known
  | conflicting => cases known

namespace Published

variable (facts : ctx.Published)
include facts

theorem port_facts {port : PortRecord} (member : port ∈ ctx.snapshot.ports) :
    port.admin.hasValue = true ∧ port.blockedSlots.hasValue = true ∧
      ctx.snapshot.transmitterPublished port = true := by
  have published := facts.published
  simp only [TopologySnapshot.allPublished, Bool.and_eq_true,
    List.all_eq_true] at published
  obtain ⟨⟨⟨⟨_, ports⟩, _⟩, _⟩, _⟩ := published
  exact ⟨(ports port member).1.1, (ports port member).1.2, (ports port member).2⟩

theorem span_facts {span : SpanRecord K} (member : span ∈ ctx.snapshot.spans) :
    span.lengthM.hasValue = true ∧ span.lossDb.hasValue = true ∧
      span.osnrDb.hasValue = true ∧ span.blockedSlots.hasValue = true ∧
      span.admin.hasValue = true := by
  have published := facts.published
  simp only [TopologySnapshot.allPublished, Bool.and_eq_true,
    List.all_eq_true] at published
  obtain ⟨⟨⟨_, spans⟩, _⟩, _⟩ := published
  obtain ⟨⟨⟨⟨length, loss⟩, osnr⟩, slots⟩, admin⟩ := spans span member
  exact ⟨length, loss, osnr, slots, admin⟩

theorem crossConnect_facts {record : CrossConnectRecord}
    (member : record ∈ ctx.snapshot.crossConnects) :
    record.admin.hasValue = true ∧ record.blockedSlots.hasValue = true := by
  have published := facts.published
  simp only [TopologySnapshot.allPublished, Bool.and_eq_true,
    List.all_eq_true] at published
  exact published.1.2 record member

theorem profile_facts {profile : ReachProfile K}
    (member : profile ∈ ctx.snapshot.reachProfiles) :
    profile.minOsnrDb.hasValue = true := by
  have published := facts.published
  simp only [TopologySnapshot.allPublished, Bool.and_eq_true,
    List.all_eq_true] at published
  exact (published.2 profile member).2

theorem agreed (resource : ResourceKey) :
    ctx.snapshot.isConflicted resource = false := by
  rw [TopologySnapshot.isConflicted, facts.covered.agreed, ← Bool.not_eq_true]
  intro found
  cases mem_of_binarySearch found

/-- A port that does not block a route is sound. -/
theorem portSound {key : PortKey} {index : Nat}
    (found : ctx.snapshot.portIndex key = some index)
    (open_ : (ctx.portInfo index).admin ≠ .blocked) :
    ctx.portSound index = true ∧ (ctx.portInfo index).maskKnown = true := by
  obtain ⟨record, atIndex, _⟩ := TopologySnapshot.getElem?_of_portIndex found
  have isPort := port_eq atIndex
  obtain ⟨admin, slots, _⟩ := facts.port_facts (List.mem_of_getElem? atIndex)
  obtain ⟨node, nodeRecord, located, nodeAt, complete⟩ :=
    facts.covered.located record (List.mem_of_getElem? atIndex)
  have isNode : ctx.node node = nodeRecord := by simp [SearchContext.node, nodeAt]
  have good : (ctx.portInfo index).admin = .good := by
    refine classifyAdmin_eq_good ?_ open_
    rw [isPort]
    exact admin
  have undisputed : (ctx.portInfo index).conflicting = false := by
    simp [portInfo, isPort, located, conflictedNode, facts.agreed]
  have full : (ctx.portInfo index).partialCoverage = false := by
    simp [portInfo, isPort, located, partialNode, isNode, complete]
  have resolved : (ctx.portInfo index).unresolvedArcs = false :=
    facts.covered.resolved index
  refine ⟨?_, ?_⟩
  · simp [SearchContext.portSound, good, undisputed, full, resolved]
  · change (ctx.port index).blockedSlots.hasValue = true
    rw [isPort]
    exact slots

/-- A port that transmits at all names a profile with a published minimum. -/
theorem transmitSound {key : PortKey} {index : Nat}
    (found : ctx.snapshot.portIndex key = some index)
    (present : (ctx.portInfo index).transmitAbsent = false) :
    (ctx.portInfo index).transmit = .good ∧
      ctx.reachSound (ctx.portInfo index).profileIndex = true := by
  obtain ⟨record, atIndex, _⟩ := TopologySnapshot.getElem?_of_portIndex found
  have isPort := port_eq atIndex
  obtain ⟨_, _, transmitter⟩ := facts.port_facts (List.mem_of_getElem? atIndex)
  obtain ⟨profileIndex, transmits, profile, profileAt⟩ :
      ∃ profileIndex, ctx.transmitIndex (ctx.port index) = some profileIndex ∧
        ∃ profile, ctx.snapshot.reachProfiles[profileIndex]? = some profile := by
    simp only [portInfo, isPort, beq_eq_false_iff_ne] at present
    unfold TopologySnapshot.transmitterPublished at transmitter
    split at transmitter
    · next id published =>
        obtain ⟨profile, isRecord⟩ := Option.isSome_iff_exists.mp transmitter
        obtain ⟨index, isIndex, atIndex⟩ := Option.bind_eq_some_iff.mp isRecord
        exact ⟨index, by simp [transmitIndex, isPort, published, isIndex],
          profile, atIndex⟩
    · next published =>
        exact (present (Evidence.value?_eq_some_iff.mp published)).elim
    · cases transmitter
  have limited := facts.profile_facts (List.mem_of_getElem? profileAt)
  refine ⟨portInfo_transmit_eq_good_iff.mpr ⟨profileIndex, transmits⟩, ?_⟩
  change ctx.reachSound (ctx.transmitIndex (ctx.port index)) = true
  rw [transmits]
  simpa [reachSound, profileInfo, SearchContext.profile, profileAt,
    Evidence.hasValue] using limited

/-- The start label is proven and has a profile with a published minimum. -/
theorem proven_start {key : PortKey} {startPort : Nat} {label : Label K}
    (found : ctx.snapshot.portIndex key = some startPort)
    (started : ctx.StartStep startPort label) :
    label.proven = true ∧ ctx.reachSound label.profileIndex = true := by
  obtain ⟨sound, known⟩ := facts.portSound found started.admin
  obtain ⟨transmit, reach⟩ := facts.transmitSound found started.transmitter
  rw [started.label_eq]
  exact ⟨by simp [sound, known, transmit], reach⟩

/-- A step leads from a proven label to a proven label. -/
theorem proven_step {current next : Label K} {arc : ArcRef}
    (leaves : arc ∈ ctx.outgoingArcs current.portIndex)
    (step : ctx.LabelStep current arc next)
    (before : current.proven = true ∧
      ctx.reachSound current.profileIndex = true) :
    next.proven = true ∧ ctx.reachSound next.profileIndex = true := by
  obtain ⟨proven, reach⟩ := before
  obtain ⟨kind, index, reversed⟩ := arc
  cases kind with
  | crossConnect =>
      have step : ctx.CrossConnectStep current index next := step
      obtain ⟨record, _, atIndex, _⟩ := facts.formed.crossConnectArcs _ index
        (mem_outgoingArcs_crossConnect.mp leaves).1
      have isRecord := crossConnect_eq atIndex
      obtain ⟨admin, slots⟩ :=
        facts.crossConnect_facts (List.mem_of_getElem? atIndex)
      obtain ⟨sound, known⟩ := facts.portSound step.target step.portAdmin
      have good : (ctx.crossConnectInfo index).admin = .good := by
        refine classifyAdmin_eq_good ?_ step.admin
        rw [isRecord]
        exact admin
      have slotsKnown : (ctx.crossConnectInfo index).maskKnown = true := by
        change (ctx.crossConnect index).blockedSlots.hasValue = true
        rw [isRecord]
        exact slots
      have crossed : ctx.crossConnectSound index next.portIndex = true := by
        simp [crossConnectSound, good, sound, slotsKnown, known]
      rw [step.next_eq]
      cases operation : (ctx.crossConnect index).op with
      | express => exact ⟨by simp [operated, proven, crossed], reach⟩
      | convert => exact ⟨by simp [operated, proven, crossed], reach⟩
      | regenerate =>
          obtain ⟨transmit, profile⟩ := facts.transmitSound step.target
            (step.operation.transmitter operation)
          exact ⟨by simp [operated, proven, crossed, transmit], profile⟩
  | span =>
      have step : ctx.SpanStep current ⟨index, reversed⟩ next := step
      obtain ⟨record, _, atIndex, _⟩ := facts.formed.spanArcs _ ⟨index, reversed⟩
        (mem_outgoingArcs_span.mp leaves)
      have isRecord := span_eq atIndex
      have member := List.mem_of_getElem? atIndex
      obtain ⟨length, loss, osnr, slots, admin⟩ := facts.span_facts member
      obtain ⟨sound, known⟩ := facts.portSound step.target step.portAdmin
      have good : (ctx.spanInfo index).admin = .good := by
        refine classifyAdmin_eq_good ?_ step.admin
        rw [isRecord]
        exact admin
      have undisputed : (ctx.spanInfo index).conflicting = false :=
        facts.agreed _
      rw [← isRecord] at length loss osnr slots
      have spanSound : ctx.spanSound index next.portIndex = true := by
        simp only [SearchContext.spanSound, good, undisputed, sound, known,
          Bool.and_eq_true]
        exact ⟨⟨⟨⟨⟨⟨length, loss⟩, osnr⟩, rfl⟩, rfl⟩, trivial⟩, slots, trivial⟩
      rw [step.next_eq]
      exact ⟨by simp [proven, spanSound, reach], reach⟩

/-- Every label of a walk is proven. -/
theorem proven_of_walk {key : PortKey} {startPort : Nat}
    (found : ctx.snapshot.portIndex key = some startPort) {arcs : List ArcRef}
    {label : Label K} (ends : ctx.labelAt startPort arcs = some label) :
    label.proven = true := by
  obtain ⟨ancestors, walked⟩ := labelAt_eq_some_iff.mp ends
  suffices sound : label.proven = true ∧
      ctx.reachSound label.profileIndex = true from sound.1
  clear ends
  induction arcs using List.reverseRecOn generalizing label ancestors with
  | nil =>
      obtain ⟨start, started, same⟩ := walk_nil.mp walked
      cases same
      exact facts.proven_start found (yields_startLabel_iff.mp started)
  | append_singleton arcs arc ih =>
      obtain ⟨current, before, next, earlier, same, leaves, yielded⟩ :=
        walk_concat.mp walked
      cases same
      exact facts.proven_step leaves (yields_expandArc_iff.mp yielded).1
        (ih before earlier)

end Published

end SearchContext

end OpticalPathPlanner
