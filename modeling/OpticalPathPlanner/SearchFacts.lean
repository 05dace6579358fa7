import OpticalPathPlanner.SnapshotBuilder

/-!
# Per-resource facts of a search

Before it walks, the search classifies every published fact of the snapshot:
a fact is good, blocks the resource for certain, or is missing.  A missing
fact never blocks; it makes every conclusion through the resource
unprovable.
-/

namespace OpticalPathPlanner

open SortedRanges

/-- Evidence classification of a single fact. -/
inductive Fact
  | good
  | blocked
  | missing
deriving DecidableEq, Repr

def classifyAdmin (admin : Evidence AdminState) : Fact :=
  match admin.value? with
  | none => .missing
  | some state => if state = .up then .good else .blocked

theorem classifyAdmin_eq_good_iff {admin : Evidence AdminState} :
    classifyAdmin admin = .good ↔ admin = .known .up := by
  cases admin with
  | known state => cases state <;> simp [classifyAdmin]
  | unknown => simp [classifyAdmin, Evidence.value?]
  | conflicting => simp [classifyAdmin, Evidence.value?]

/-- Channel starts that a published blocked set leaves usable.  Without a
published set every start of the model counts as usable. -/
def usableStarts (spectrum : SpectrumModel) (width : Nat)
    (blocked : Evidence SlotMask) : SlotMask :=
  match blocked.value? with
  | some mask =>
      (SlotMask.removeBlocked spectrum.slotCount mask).firstSlotMask width
  | none => (SlotMask.all spectrum.slotCount).firstSlotMask width

structure PortInfo where
  baseMask : SlotMask
  maskKnown : Bool
  admin : Fact
  conflicting : Bool
  partialCoverage : Bool
  unresolvedArcs : Bool
  /-- Good when a reach profile record is published for the transmitter. -/
  transmit : Fact
  /-- Published as having no transmitter. -/
  transmitAbsent : Bool
  profileIndex : Option Nat
  nodeIndex : Option Nat

structure SpanInfo (K : Type) where
  lengthM : Option UInt64
  lossDb : Option K
  osnrDb : Option K
  baseMask : SlotMask
  maskKnown : Bool
  admin : Fact
  conflicting : Bool

structure CrossConnectInfo where
  baseMask : SlotMask
  maskKnown : Bool
  admin : Fact
  conflicting : Bool
  toPort : Option Nat

structure ProfileInfo (K : Type) where
  maxDistanceM : Option UInt64
  maxSpanCount : Option UInt32
  maxLossDb : Option K
  minOsnrDb : Option K

/-- What the checks on an arc are made against. -/
structure SearchContext (K : Type) [Field K] [LinearOrder K] where
  runtime : Runtime K
  snapshot : TopologySnapshot K
  rules : RouteRules K

namespace SearchContext

variable {K : Type} [Field K] [LinearOrder K] (ctx : SearchContext K)

def constraints : ConstraintSet K := ctx.rules.constraints

def port (index : Nat) : PortRecord :=
  ctx.snapshot.ports[index]?.getD default

def span (index : Nat) : SpanRecord K :=
  ctx.snapshot.spans[index]?.getD default

def crossConnect (index : Nat) : CrossConnectRecord :=
  ctx.snapshot.crossConnects[index]?.getD default

def profile (index : Nat) : ReachProfile K :=
  ctx.snapshot.reachProfiles[index]?.getD default

def node (index : Nat) : NodeRecord :=
  ctx.snapshot.nodes[index]?.getD default

/-- Channel starts usable under the width of the request. -/
def usable (blocked : Evidence SlotMask) : SlotMask :=
  usableStarts ctx.snapshot.spectrum ctx.rules.channelWidthSlots blocked

/-- Index of the reach profile record a port transmits with. -/
def transmitIndex (record : PortRecord) : Option Nat :=
  match record.transmitProfile.value? with
  | some (some id) => ctx.snapshot.profileIndex id
  | _ => none

/-- Whether the node of a port lacks a record or publishes only part of its
adjacency. -/
def partialNode (nodeIndex : Option Nat) : Bool :=
  match nodeIndex with
  | some index => (ctx.node index).coverage != .complete
  | none => true

def conflictedNode (nodeIndex : Option Nat) : Bool :=
  match nodeIndex with
  | some index => ctx.snapshot.isConflicted (.forNode (ctx.node index).id)
  | none => false

def portInfo (index : Nat) : PortInfo :=
  let record := ctx.port index
  let nodeIndex := ctx.snapshot.nodeIndex record.key.node
  { baseMask := ctx.usable record.blockedSlots
    maskKnown := record.blockedSlots.hasValue
    admin := classifyAdmin record.admin
    conflicting := ctx.snapshot.isConflicted (.forPort record.key) ||
      ctx.conflictedNode nodeIndex
    partialCoverage := ctx.partialNode nodeIndex
    unresolvedArcs := ctx.snapshot.hasUnresolvedArcs index
    transmit := if (ctx.transmitIndex record).isSome then .good else .missing
    transmitAbsent := record.transmitProfile == .known none
    profileIndex := ctx.transmitIndex record
    nodeIndex := nodeIndex }

def spanInfo (index : Nat) : SpanInfo K :=
  let record := ctx.span index
  { lengthM := record.lengthM.value?
    lossDb := record.lossDb.value?
    osnrDb := record.osnrDb.value?
    baseMask := ctx.usable record.blockedSlots
    maskKnown := record.blockedSlots.hasValue
    admin := classifyAdmin record.admin
    conflicting := ctx.snapshot.isConflicted (.forSpan record.id) }

def crossConnectInfo (index : Nat) : CrossConnectInfo :=
  let record := ctx.crossConnect index
  { baseMask := ctx.usable record.blockedSlots
    maskKnown := record.blockedSlots.hasValue
    admin := classifyAdmin record.admin
    conflicting := ctx.snapshot.isConflicted (.forCrossConnect record.id)
    toPort := ctx.snapshot.portIndex record.toPort }

def profileInfo (index : Nat) : ProfileInfo K :=
  let record := ctx.profile index
  { maxDistanceM := record.maxDistanceM.value?
    maxSpanCount := record.maxSpanCount.value?
    maxLossDb := record.maxLossDb.value?
    minOsnrDb := record.minOsnrDb.value? }

/-- A node transit cost is charged when the route enters a node that differs
from the one it stands in. -/
def transitionNodeCost (fromPort toPort : Nat) : UInt64 :=
  let fromNode := (ctx.portInfo fromPort).nodeIndex
  match (ctx.portInfo toPort).nodeIndex with
  | none => 0
  | some toNode =>
      if some toNode = fromNode then 0 else (ctx.node toNode).transitCost

/-! ### Exclusions -/

def nodeExcluded (id : NodeId) : Bool :=
  binarySearch (ctx.runtime.routine.sortValues ctx.constraints.excludedNodes) id

def portExcluded (key : PortKey) : Bool :=
  binarySearch (ctx.runtime.routine.sortValues ctx.constraints.excludedPorts) key

def spanExcluded (id : SpanId) : Bool :=
  binarySearch (ctx.runtime.routine.sortValues ctx.constraints.excludedSpans) id

def crossConnectExcluded (id : CrossConnectId) : Bool :=
  binarySearch
    (ctx.runtime.routine.sortValues ctx.constraints.excludedCrossConnects) id

def domainsExcluded (domains : List FailureDomainId) : Bool :=
  domains.any fun domain => binarySearch
    (ctx.runtime.routine.sortValues ctx.constraints.excludedFailureDomains)
    domain

/-! ### What the facts say -/

variable {ctx}

theorem transmitIndex_eq_some {record : PortRecord} {index : Nat}
    (transmits : ctx.transmitIndex record = some index) :
    ∃ id, record.transmitProfile = .known (some id) ∧
      ctx.snapshot.profileIndex id = some index := by
  unfold transmitIndex at transmits
  split at transmits
  · next id published =>
      exact ⟨id, Evidence.value?_eq_some_iff.mp published, transmits⟩
  · cases transmits

theorem portInfo_nodeIndex (index : Nat) :
    (ctx.portInfo index).nodeIndex =
      ctx.snapshot.nodeIndex (ctx.port index).key.node :=
  rfl

theorem portInfo_transmit_eq_good_iff {index : Nat} :
    (ctx.portInfo index).transmit = .good ↔
      ∃ profile, ctx.transmitIndex (ctx.port index) = some profile := by
  unfold portInfo
  simp only
  cases ctx.transmitIndex (ctx.port index) <;> simp

theorem port_eq {index : Nat} {record : PortRecord}
    (atIndex : ctx.snapshot.ports[index]? = some record) :
    ctx.port index = record := by
  simp [port, atIndex]

theorem port_key_of_portIndex {key : PortKey} {index : Nat}
    (found : ctx.snapshot.portIndex key = some index) :
    (ctx.port index).key = key := by
  obtain ⟨record, atIndex, keyEq⟩ := TopologySnapshot.getElem?_of_portIndex found
  rw [port_eq atIndex, keyEq]

theorem findPort_eq_port {key : PortKey} {index : Nat}
    (found : ctx.snapshot.portIndex key = some index) :
    ctx.snapshot.findPort key = some (ctx.port index) := by
  obtain ⟨record, atIndex, _⟩ := TopologySnapshot.getElem?_of_portIndex found
  rw [port_eq atIndex]
  exact TopologySnapshot.findPort_of_portIndex found atIndex

theorem span_eq {index : Nat} {record : SpanRecord K}
    (atIndex : ctx.snapshot.spans[index]? = some record) :
    ctx.span index = record := by
  simp [span, atIndex]

theorem crossConnect_eq {index : Nat} {record : CrossConnectRecord}
    (atIndex : ctx.snapshot.crossConnects[index]? = some record) :
    ctx.crossConnect index = record := by
  simp [crossConnect, atIndex]

theorem profile_id_of_profileIndex {id : ProfileId} {index : Nat}
    (found : ctx.snapshot.profileIndex id = some index) :
    (ctx.profile index).id = id := by
  obtain ⟨record, atIndex, idEq⟩ :=
    TopologySnapshot.getElem?_of_profileIndex found
  simp [profile, atIndex, idEq]

end SearchContext

end OpticalPathPlanner
