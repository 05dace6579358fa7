import OpticalPathPlanner.BuildOrder
import OpticalPathPlanner.SnapshotAdjacency
import OpticalPathPlanner.PlanSimulation

/-!
# Evidence that is learned later

A later snapshot of the same resources learns from an earlier one when it keeps
every published fact and only fills in what was unpublished or conflicting.  The
lookups and the adjacency of the two then agree, and so does every fact the search
reads, wherever the earlier snapshot publishes it.
-/

namespace OpticalPathPlanner

open SortedRanges

variable {K : Type}

/-! ### Facts and records -/

/-- The later fact keeps what the earlier one said, if it said anything. -/
def Evidence.Learns {α : Type} (before after : Evidence α) : Prop :=
  before.value? = none ∨ after = before

instance {α : Type} [DecidableEq α] (before after : Evidence α) :
    Decidable (before.Learns after) :=
  inferInstanceAs (Decidable (_ ∨ _))

namespace Evidence.Learns

variable {α : Type} {before after : Evidence α} {value : α}

theorem refl (fact : Evidence α) : fact.Learns fact :=
  .inr rfl

theorem eq_of_hasValue (learns : before.Learns after)
    (published : before.hasValue = true) : after = before := by
  rcases learns with unpublished | same
  · simp [hasValue, unpublished] at published
  · exact same

theorem eq_of_known (learns : before.Learns after) (known : before = .known value) :
    after = before :=
  learns.eq_of_hasValue (by rw [known]; rfl)

theorem value?_eq_some (learns : before.Learns after)
    (known : before.value? = some value) : after.value? = some value := by
  rw [learns.eq_of_known (Evidence.value?_eq_some_iff.mp known), known]

end Evidence.Learns

structure NodeRecord.Learns (before after : NodeRecord) : Prop where
  id : after.id = before.id
  failureDomains : after.failureDomains = before.failureDomains
  transitCost : after.transitCost = before.transitCost
  coverage : before.coverage = .complete → after.coverage = .complete

theorem NodeRecord.Learns.refl (record : NodeRecord) : record.Learns record :=
  ⟨rfl, rfl, rfl, fun complete => complete⟩

structure PortRecord.Learns (before after : PortRecord) : Prop where
  key : after.key = before.key
  transmitProfile : before.transmitProfile.Learns after.transmitProfile
  blockedSlots : before.blockedSlots.Learns after.blockedSlots
  failureDomains : after.failureDomains = before.failureDomains
  transitCost : after.transitCost = before.transitCost
  admin : before.admin.Learns after.admin

theorem PortRecord.Learns.refl (record : PortRecord) : record.Learns record :=
  ⟨rfl, .refl _, .refl _, rfl, rfl, .refl _⟩

structure SpanRecord.Learns (before after : SpanRecord K) : Prop where
  id : after.id = before.id
  fromPort : after.fromPort = before.fromPort
  toPort : after.toPort = before.toPort
  bidirectional : after.bidirectional = before.bidirectional
  lengthM : before.lengthM.Learns after.lengthM
  lossDb : before.lossDb.Learns after.lossDb
  osnrDb : before.osnrDb.Learns after.osnrDb
  blockedSlots : before.blockedSlots.Learns after.blockedSlots
  failureDomains : after.failureDomains = before.failureDomains
  cost : after.cost = before.cost
  admin : before.admin.Learns after.admin

theorem SpanRecord.Learns.refl (record : SpanRecord K) : record.Learns record :=
  ⟨rfl, rfl, rfl, rfl, .refl _, .refl _, .refl _, .refl _, rfl, rfl, .refl _⟩

structure CrossConnectRecord.Learns (before after : CrossConnectRecord) : Prop where
  id : after.id = before.id
  fromPort : after.fromPort = before.fromPort
  toPort : after.toPort = before.toPort
  op : after.op = before.op
  blockedSlots : before.blockedSlots.Learns after.blockedSlots
  failureDomains : after.failureDomains = before.failureDomains
  cost : after.cost = before.cost
  admin : before.admin.Learns after.admin

theorem CrossConnectRecord.Learns.refl (record : CrossConnectRecord) :
    record.Learns record :=
  ⟨rfl, rfl, rfl, rfl, .refl _, rfl, rfl, .refl _⟩

structure ReachProfile.Learns (before after : ReachProfile K) : Prop where
  id : after.id = before.id
  maxDistanceM : before.maxDistanceM.Learns after.maxDistanceM
  maxSpanCount : before.maxSpanCount.Learns after.maxSpanCount
  maxLossDb : before.maxLossDb.Learns after.maxLossDb
  minOsnrDb : before.minOsnrDb.Learns after.minOsnrDb

theorem ReachProfile.Learns.refl (profile : ReachProfile K) : profile.Learns profile :=
  ⟨rfl, .refl _, .refl _, .refl _, .refl _⟩

/-- The later snapshot has the records of the earlier one, place by place, each with
the facts that were published and perhaps more, and no new conflicts. -/
structure TopologySnapshot.Learns (before after : TopologySnapshot K) : Prop where
  spectrum : after.spectrum = before.spectrum
  nodes : List.Forall₂ NodeRecord.Learns before.nodes after.nodes
  ports : List.Forall₂ PortRecord.Learns before.ports after.ports
  spans : List.Forall₂ SpanRecord.Learns before.spans after.spans
  crossConnects : List.Forall₂ CrossConnectRecord.Learns before.crossConnects
    after.crossConnects
  reachProfiles : List.Forall₂ ReachProfile.Learns before.reachProfiles
    after.reachProfiles
  conflicted : ∀ key, after.isConflicted key = true → before.isConflicted key = true

theorem SpanRecord.Learns.arrival {before after : SpanRecord K}
    (learns : before.Learns after) (reversed : Bool) :
    after.arrival reversed = before.arrival reversed := by
  unfold SpanRecord.arrival
  rw [learns.fromPort, learns.toPort]

/-- Records related place by place, also past the end. -/
theorem getD_of_forall₂ {α β : Type} [Inhabited α] [Inhabited β]
    {relation : α → β → Prop} {left : List α} {right : List β}
    (related : List.Forall₂ relation left right)
    (past : relation default default) (index : Nat) :
    relation (left[index]?.getD default) (right[index]?.getD default) := by
  induction related generalizing index with
  | nil => simpa using past
  | cons head rest ih =>
      cases index with
      | zero => simpa using head
      | succ index => simpa using ih index

theorem forall₂_of_eq {α : Type} {relation : α → α → Prop}
    (refl : ∀ value, relation value value) {left right : List α} (same : right = left) :
    List.Forall₂ relation left right := by
  rw [same]
  exact List.forall₂_same.mpr fun value _ => refl value

theorem forall₂_zipIdx {α β : Type} {relation : α → β → Prop} {left : List α}
    {right : List β} (related : List.Forall₂ relation left right) (start : Nat) :
    List.Forall₂ (fun first second => relation first.1 second.1 ∧ second.2 = first.2)
      (left.zipIdx start) (right.zipIdx start) := by
  induction related generalizing start with
  | nil => exact .nil
  | cons head _ ih => exact .cons ⟨head, rfl⟩ (ih (start + 1))

theorem flatMap_eq_of_forall₂ {α β γ : Type} {relation : α → β → Prop} {left : List α}
    {right : List β} {row : α → List γ} {other : β → List γ}
    (related : List.Forall₂ relation left right)
    (same : ∀ first second, relation first second → other second = row first) :
    right.flatMap other = left.flatMap row := by
  induction related with
  | nil => rfl
  | cons head _ ih => rw [List.flatMap_cons, List.flatMap_cons, same _ _ head, ih]

/-! ### How a sealed snapshot is laid out -/

namespace TopologySnapshot

/-- The records a snapshot was laid out from. -/
def layout (snapshot : TopologySnapshot K) : SortedRecords K where
  sources := snapshot.sources
  nodes := snapshot.nodes
  ports := snapshot.ports
  spans := snapshot.spans
  crossConnects := snapshot.crossConnects
  profiles := snapshot.reachProfiles
  conflicted := snapshot.conflicted

/-- The adjacency of the snapshot is the one of its records. -/
structure LaidOut (snapshot : TopologySnapshot K) : Prop where
  spanArcs : ∀ port arc, arc ∈ snapshot.outgoingSpanArcs port ↔
    (port, arc) ∈ snapshot.layout.spanArcEntries
  crossConnects : ∀ port index, index ∈ snapshot.outgoingCrossConnects port ↔
    (port, index) ∈ snapshot.layout.crossConnectEntries
  unresolved : ∀ index, snapshot.hasUnresolvedArcs index = true ↔
    ∃ resource, (resource, some index) ∈ snapshot.layout.unresolvedNotes

end TopologySnapshot

theorem IsBuilt.laidOut [Field K] [LinearOrder K] {runtime : Runtime K}
    {snapshot : TopologySnapshot K} (built : IsBuilt runtime snapshot) :
    snapshot.LaidOut := by
  induction built with
  | sealed builder snapshot built =>
      obtain rfl := SnapshotBuilder.eq_finished built
      exact ⟨fun port arc => SnapshotBuilder.mem_outgoingSpanArcs runtime builder,
        fun port index => SnapshotBuilder.mem_outgoingCrossConnects runtime builder,
        fun index => SnapshotBuilder.hasUnresolvedArcs_iff_noted⟩
  | restored snapshot producer epoch original ih =>
      exact ⟨ih.spanArcs, ih.crossConnects, ih.unresolved⟩

namespace TopologySnapshot.Learns

variable {before after : TopologySnapshot K} (learns : before.Learns after)

include learns

theorem portIndex (key : PortKey) : after.portIndex key = before.portIndex key := by
  have keys : before.ports.map PortRecord.key = after.ports.map PortRecord.key :=
    map_eq_of_forall₂ (learns.ports.imp fun _ _ port => port.key.symm)
  unfold TopologySnapshot.portIndex
  rw [findByKey_map, ← keys, ← findByKey_map]

theorem nodeIndex (id : NodeId) : after.nodeIndex id = before.nodeIndex id := by
  have ids : before.nodes.map NodeRecord.id = after.nodes.map NodeRecord.id :=
    map_eq_of_forall₂ (learns.nodes.imp fun _ _ node => node.id.symm)
  unfold TopologySnapshot.nodeIndex
  rw [findByKey_map, ← ids, ← findByKey_map]

theorem profileIndex (id : ProfileId) :
    after.profileIndex id = before.profileIndex id := by
  have ids : before.reachProfiles.map ReachProfile.id =
      after.reachProfiles.map ReachProfile.id :=
    map_eq_of_forall₂ (learns.reachProfiles.imp fun _ _ profile => profile.id.symm)
  unfold TopologySnapshot.profileIndex
  rw [findByKey_map, ← ids, ← findByKey_map]

theorem portIndexOf (key : PortKey) :
    after.layout.portIndexOf key = before.layout.portIndexOf key :=
  learns.portIndex key

theorem nodeIndexOf (id : NodeId) :
    after.layout.nodeIndexOf id = before.layout.nodeIndexOf id :=
  learns.nodeIndex id

theorem spanArcEntries :
    after.layout.spanArcEntries = before.layout.spanArcEntries := by
  refine flatMap_eq_of_forall₂ (forall₂_zipIdx learns.spans 0) ?_
  rintro ⟨span, index⟩ ⟨later, place⟩ ⟨same, rfl⟩
  have same : span.Learns later := same
  simp only [learns.portIndexOf, same.fromPort, same.toPort, same.bidirectional]

theorem crossConnectEntries :
    after.layout.crossConnectEntries = before.layout.crossConnectEntries := by
  refine flatMap_eq_of_forall₂ (forall₂_zipIdx learns.crossConnects 0) ?_
  rintro ⟨record, index⟩ ⟨later, place⟩ ⟨same, rfl⟩
  have same : record.Learns later := same
  simp only [learns.portIndexOf, same.fromPort, same.toPort]

theorem unresolvedNotes :
    after.layout.unresolvedNotes = before.layout.unresolvedNotes := by
  unfold SortedRecords.unresolvedNotes
  congr 1
  · congr 1
    · refine flatMap_eq_of_forall₂ (forall₂_zipIdx learns.ports 0) ?_
      rintro ⟨port, index⟩ ⟨later, place⟩ ⟨same, rfl⟩
      have same : port.Learns later := same
      simp only [learns.nodeIndexOf, same.key]
    · refine flatMap_eq_of_forall₂ learns.spans fun span later same => ?_
      simp only [SortedRecords.unresolvedEnds, learns.portIndexOf, same.fromPort,
        same.toPort]
  · refine flatMap_eq_of_forall₂ learns.crossConnects fun record later same => ?_
    simp only [SortedRecords.unresolvedEnds, learns.portIndexOf, same.fromPort,
      same.toPort]

end TopologySnapshot.Learns

end OpticalPathPlanner
