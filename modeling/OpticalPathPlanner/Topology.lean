import OpticalPathPlanner.SortedRanges
import OpticalPathPlanner.Spectrum

/-!
# Topology evidence

The records of a snapshot and the sealed snapshot itself.  Every published
fact is tri-state.  Physical quantities that the source holds as doubles live
in an arbitrary type `K`; the algorithms later ask it to be an ordered field,
so that sums are exact.

Lookups in a sealed snapshot are lower bounds in ranges sorted by key, and
adjacency is kept per port index, as the builder lays it out.
-/

namespace OpticalPathPlanner

open SortedRanges

/-- A fact that was published, was not published, or was published twice with
different values. -/
inductive Evidence (α : Type)
  | known (value : α)
  | unknown
  | conflicting
deriving DecidableEq, Repr

namespace Evidence

variable {α : Type}

instance : Inhabited (Evidence α) := ⟨.unknown⟩

def value? : Evidence α → Option α
  | known value => some value
  | unknown => none
  | conflicting => none

def hasValue (evidence : Evidence α) : Bool := evidence.value?.isSome

@[simp]
theorem value?_known (value : α) : (known value).value? = some value := rfl

theorem value?_eq_some_iff {evidence : Evidence α} {value : α} :
    evidence.value? = some value ↔ evidence = known value := by
  cases evidence <;> simp [value?]

theorem hasValue_iff {evidence : Evidence α} :
    evidence.hasValue = true ↔ ∃ value, evidence = known value := by
  simp [hasValue, Option.isSome_iff_exists, value?_eq_some_iff]

end Evidence

inductive AdminState
  | up
  | down
  | maintenance
deriving DecidableEq, Repr

inductive Coverage
  | complete
  | partialCoverage
deriving DecidableEq, Repr, Inhabited

inductive NodeKind
  | terminal
  | reconfigurableOadm
  | opticalCrossConnect
  | amplifier
  | regenerator
deriving DecidableEq, Repr, Inhabited

inductive PortRole
  | client
  | line
  | add
  | drop
  | express
  | monitor
deriving DecidableEq, Repr, Inhabited

/-- `express` keeps the channel and the segment, `convert` may change the
channel inside the segment, `regenerate` starts a new segment. -/
inductive CrossConnectOp
  | express
  | convert
  | regenerate
deriving DecidableEq, Repr, Inhabited

def CrossConnectOp.name : CrossConnectOp → Bytes
  | .express => text "express"
  | .convert => text "convert"
  | .regenerate => text "regenerate"

abbrev Generation := UInt64

structure SourceRecord where
  id : SourceId
  generation : Generation := 0
  coverage : Coverage := .complete
  description : Bytes := []
deriving DecidableEq, Repr, Inhabited

structure NodeRecord where
  id : NodeId
  kind : NodeKind := .terminal
  failureDomains : List FailureDomainId := []
  transitCost : UInt64 := 0
  coverage : Coverage := .complete
  admin : Evidence AdminState := .unknown
  source : SourceId := default
  generation : Generation := 0
deriving DecidableEq, Repr, Inhabited

structure PortRecord where
  key : PortKey
  role : PortRole := .line
  /-- `known none` says that the port has no transmitter. -/
  transmitProfile : Evidence (Option ProfileId) := .unknown
  blockedSlots : Evidence SlotMask := .unknown
  failureDomains : List FailureDomainId := []
  transitCost : UInt64 := 0
  admin : Evidence AdminState := .unknown
  source : SourceId := default
  generation : Generation := 0
deriving DecidableEq, Repr, Inhabited

structure SpanRecord (K : Type) where
  id : SpanId
  fromPort : PortKey
  toPort : PortKey
  bidirectional : Bool := true
  lengthM : Evidence UInt64 := .unknown
  lossDb : Evidence K := .unknown
  osnrDb : Evidence K := .unknown
  blockedSlots : Evidence SlotMask := .unknown
  failureDomains : List FailureDomainId := []
  cost : UInt64 := 0
  admin : Evidence AdminState := .unknown
  source : SourceId := default
  generation : Generation := 0
deriving DecidableEq, Repr, Inhabited

namespace SpanRecord

variable {K : Type}

/-- The port a directed use of a span leaves. -/
def departure (span : SpanRecord K) (reversed : Bool) : PortKey :=
  if reversed then span.toPort else span.fromPort

/-- The port a directed use of a span arrives at. -/
def arrival (span : SpanRecord K) (reversed : Bool) : PortKey :=
  if reversed then span.fromPort else span.toPort

end SpanRecord

structure CrossConnectRecord where
  id : CrossConnectId
  fromPort : PortKey
  toPort : PortKey
  op : CrossConnectOp := .express
  blockedSlots : Evidence SlotMask := .unknown
  failureDomains : List FailureDomainId := []
  cost : UInt64 := 0
  admin : Evidence AdminState := .unknown
  source : SourceId := default
  generation : Generation := 0
deriving DecidableEq, Repr, Inhabited

structure ReachProfile (K : Type) where
  id : ProfileId
  maxDistanceM : Evidence UInt64 := .unknown
  maxSpanCount : Evidence UInt32 := .unknown
  maxLossDb : Evidence K := .unknown
  minOsnrDb : Evidence K := .unknown
  source : SourceId := default
  generation : Generation := 0
deriving DecidableEq, Repr, Inhabited

/-- A directed use of a span record. -/
structure SpanArc where
  spanIndex : Nat
  reversed : Bool
deriving DecidableEq, Repr, Inhabited

inductive EvidenceFreshness
  | fresh
  | restored
deriving DecidableEq, Repr

structure IncarnationId where
  value : BitVec 128
deriving DecidableEq, Repr, Inhabited

def IncarnationId.toHex (incarnation : IncarnationId) : Bytes :=
  (List.range 32).map fun position =>
    SlotMask.hexDigit (incarnation.value.toNat / 16 ^ (31 - position) % 16)

structure TopologySnapshot (K : Type) where
  id : SnapshotId
  generation : Generation
  spectrum : SpectrumModel
  digest : Digest256
  sources : List SourceRecord
  nodes : List NodeRecord
  ports : List PortRecord
  spans : List (SpanRecord K)
  crossConnects : List CrossConnectRecord
  reachProfiles : List (ReachProfile K)
  conflicted : List ResourceKey
  unresolved : List ResourceKey
  coverageComplete : Bool
  freshness : EvidenceFreshness
  restoredFromIncarnation : IncarnationId
  restoredFromEpoch : UInt64
  /-- Span arcs leaving each port, by port index. -/
  spanArcs : List (List SpanArc)
  /-- Cross-connects leaving each port, by port index. -/
  outCrossConnects : List (List Nat)
  unresolvedAtPort : List Nat

namespace TopologySnapshot

variable {K : Type} (snapshot : TopologySnapshot K)

def nodeIndex (id : NodeId) : Option Nat :=
  findByKey NodeRecord.id snapshot.nodes id

def findNode (id : NodeId) : Option NodeRecord :=
  (snapshot.nodeIndex id).bind fun index => snapshot.nodes[index]?

def portIndex (key : PortKey) : Option Nat :=
  findByKey PortRecord.key snapshot.ports key

def findPort (key : PortKey) : Option PortRecord :=
  (snapshot.portIndex key).bind fun index => snapshot.ports[index]?

def profileIndex (id : ProfileId) : Option Nat :=
  findByKey ReachProfile.id snapshot.reachProfiles id

def findReachProfile (id : ProfileId) : Option (ReachProfile K) :=
  (snapshot.profileIndex id).bind fun index => snapshot.reachProfiles[index]?

def outgoingSpanArcs (portIndex : Nat) : List SpanArc :=
  snapshot.spanArcs[portIndex]?.getD []

def outgoingCrossConnects (portIndex : Nat) : List Nat :=
  snapshot.outCrossConnects[portIndex]?.getD []

def sourceIndex (id : SourceId) : Option Nat :=
  findByKey SourceRecord.id snapshot.sources id

def sourceGeneration (id : SourceId) : Generation :=
  match (snapshot.sourceIndex id).bind fun index => snapshot.sources[index]? with
  | some record => record.generation
  | none => 0

def hasSource (id : SourceId) : Bool := (snapshot.sourceIndex id).isSome

def isConflicted (key : ResourceKey) : Bool :=
  binarySearch snapshot.conflicted key

def hasUnresolvedArcs (portIndex : Nat) : Bool :=
  snapshot.unresolvedAtPort[portIndex]?.getD 0 != 0

/-- A copy that a service read back from persistence. -/
def markRestored (producer : IncarnationId) (epoch : UInt64) :
    TopologySnapshot K :=
  { snapshot with
    freshness := .restored
    restoredFromIncarnation := producer
    restoredFromEpoch := epoch }

/-! ### What a lookup returns -/

variable {snapshot}

theorem getElem?_of_portIndex {key : PortKey} {index : Nat}
    (found : snapshot.portIndex key = some index) :
    ∃ record, snapshot.ports[index]? = some record ∧ record.key = key :=
  getElem?_of_findByKey found

theorem findPort_of_portIndex {key : PortKey} {index : Nat}
    {record : PortRecord} (found : snapshot.portIndex key = some index)
    (atIndex : snapshot.ports[index]? = some record) :
    snapshot.findPort key = some record := by
  simp [findPort, found, atIndex]

theorem findPort_eq_some {key : PortKey} {record : PortRecord}
    (found : snapshot.findPort key = some record) :
    ∃ index, snapshot.portIndex key = some index ∧
      snapshot.ports[index]? = some record ∧ record.key = key := by
  unfold findPort at found
  obtain ⟨index, indexEq, atIndex⟩ := Option.bind_eq_some_iff.mp found
  obtain ⟨other, otherAt, keyEq⟩ := getElem?_of_portIndex indexEq
  rw [otherAt] at atIndex
  cases atIndex
  exact ⟨index, indexEq, otherAt, keyEq⟩

theorem findPort_isSome_iff {key : PortKey} :
    (snapshot.findPort key).isSome = (snapshot.portIndex key).isSome := by
  unfold findPort
  cases found : snapshot.portIndex key with
  | none => rfl
  | some index =>
      obtain ⟨record, atIndex, _⟩ := getElem?_of_portIndex found
      simp [atIndex]

theorem getElem?_of_nodeIndex {id : NodeId} {index : Nat}
    (found : snapshot.nodeIndex id = some index) :
    ∃ record, snapshot.nodes[index]? = some record ∧ record.id = id :=
  getElem?_of_findByKey found

theorem findNode_of_nodeIndex {id : NodeId} {index : Nat}
    {record : NodeRecord} (found : snapshot.nodeIndex id = some index)
    (atIndex : snapshot.nodes[index]? = some record) :
    snapshot.findNode id = some record := by
  simp [findNode, found, atIndex]

theorem findNode_eq_none_of_nodeIndex {id : NodeId}
    (missing : snapshot.nodeIndex id = none) : snapshot.findNode id = none := by
  simp [findNode, missing]

theorem findNode_id {id : NodeId} {record : NodeRecord}
    (found : snapshot.findNode id = some record) : record.id = id := by
  unfold findNode at found
  obtain ⟨index, indexEq, atIndex⟩ := Option.bind_eq_some_iff.mp found
  obtain ⟨other, otherAt, idEq⟩ := getElem?_of_nodeIndex indexEq
  rw [otherAt] at atIndex
  cases atIndex
  exact idEq

theorem getElem?_of_profileIndex {id : ProfileId} {index : Nat}
    (found : snapshot.profileIndex id = some index) :
    ∃ record, snapshot.reachProfiles[index]? = some record ∧ record.id = id :=
  getElem?_of_findByKey found

end TopologySnapshot

/-! ### Records with every fact published -/

section Published

variable {K : Type}

def PortKey.of (node port : String) : PortKey := ⟨⟨text node⟩, ⟨text port⟩⟩

def NodeRecord.published (id : String) : NodeRecord where
  id := ⟨text id⟩
  admin := .known .up

def PortRecord.published (key : PortKey) (profile : String) : PortRecord where
  key := key
  transmitProfile := .known (some ⟨text profile⟩)
  blockedSlots := .known .none
  admin := .known .up

def SpanRecord.published (id : String) (fromPort toPort : PortKey)
    (lengthM : UInt64) (lossDb osnrDb : K) : SpanRecord K where
  id := ⟨text id⟩
  fromPort := fromPort
  toPort := toPort
  lengthM := .known lengthM
  lossDb := .known lossDb
  osnrDb := .known osnrDb
  blockedSlots := .known .none
  admin := .known .up

def CrossConnectRecord.published (id : String) (fromPort toPort : PortKey)
    (op : CrossConnectOp) : CrossConnectRecord where
  id := ⟨text id⟩
  fromPort := fromPort
  toPort := toPort
  op := op
  blockedSlots := .known .none
  admin := .known .up

def ReachProfile.published (id : String) (maxDistanceM : UInt64)
    (maxSpanCount : UInt32) (maxLossDb minOsnrDb : K) : ReachProfile K where
  id := ⟨text id⟩
  maxDistanceM := .known maxDistanceM
  maxSpanCount := .known maxSpanCount
  maxLossDb := .known maxLossDb
  minOsnrDb := .known minOsnrDb

end Published

end OpticalPathPlanner
