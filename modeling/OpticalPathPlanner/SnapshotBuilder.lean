import OpticalPathPlanner.Runtime

/-!
# Building a snapshot

The builder collects records and seals them into a snapshot: it sorts each
kind into canonical order, collapses neighbours with equal keys, records the
identity of every record that disagreed with the one kept before it, resolves
arc endpoints to port indices and lays out the adjacency lists.

The records of a builder are named and bounded in number because the `add`
operations refuse everything else; the structure carries both facts.
-/

namespace OpticalPathPlanner

open SortedRanges

def kMaxNodes : Nat := 4096
def kMaxPorts : Nat := 16384
def kMaxSpans : Nat := 32768
def kMaxCrossConnects : Nat := 65536
def kMaxReachProfiles : Nat := 256
def kMaxSources : Nat := 64
def kMaxDomainsPerResource : Nat := 16

structure SnapshotBuildOptions where
  allowUnresolvedReferences : Bool := true
  rejectSelfLoops : Bool := true

/-- Records of one kind, every one of them named, at most `limit` many. -/
structure RecordList (Record : Type) (named : Record → Bool) (limit : Nat) where
  records : List Record
  all_named : ∀ record ∈ records, named record = true
  bounded : records.length ≤ limit

namespace RecordList

variable {Record : Type} {named : Record → Bool} {limit : Nat}

def empty : RecordList Record named limit := ⟨[], by simp, by simp⟩

/-- Append one record, or refuse it. -/
def add (list : RecordList Record named limit) (record : Record)
    (unnamed full : String) : Status × RecordList Record named limit :=
  if isNamed : named record = true then
    if room : list.records.length < limit then
      (okStatus,
        { records := list.records ++ [record]
          all_named := by
            intro other member
            rcases List.mem_append.mp member with old | new
            · exact list.all_named other old
            · rw [List.mem_singleton.mp new]
              exact isNamed
          bounded := by
            simp only [List.length_append, List.length_singleton]
            omega })
    else
      (failure .limitExceeded (text full), list)
  else
    (failure .invalidArgument (text unnamed), list)

end RecordList

def SourceRecord.named (record : SourceRecord) : Bool := !record.id.empty
def NodeRecord.named (record : NodeRecord) : Bool := !record.id.empty
def PortRecord.named (record : PortRecord) : Bool :=
  !(record.key.node.empty || record.key.port.empty)
def SpanRecord.named {K : Type} (record : SpanRecord K) : Bool :=
  !record.id.empty
def CrossConnectRecord.named (record : CrossConnectRecord) : Bool :=
  !record.id.empty
def ReachProfile.named {K : Type} (record : ReachProfile K) : Bool :=
  !record.id.empty

structure SnapshotBuilder (K : Type) where
  id : SnapshotId
  generation : Generation
  spectrum : SpectrumModel
  options : SnapshotBuildOptions
  sources : RecordList SourceRecord SourceRecord.named kMaxSources
  nodes : RecordList NodeRecord NodeRecord.named kMaxNodes
  ports : RecordList PortRecord PortRecord.named kMaxPorts
  spans : RecordList (SpanRecord K) SpanRecord.named kMaxSpans
  crossConnects :
    RecordList CrossConnectRecord CrossConnectRecord.named kMaxCrossConnects
  profiles : RecordList (ReachProfile K) ReachProfile.named kMaxReachProfiles
  built : Bool

variable {K : Type}

/-- One call of an `add` operation. -/
inductive Submission (K : Type)
  | source (record : SourceRecord)
  | node (record : NodeRecord)
  | port (record : PortRecord)
  | span (record : SpanRecord K)
  | crossConnect (record : CrossConnectRecord)
  | reachProfile (record : ReachProfile K)

namespace SnapshotBuilder

/-- A builder that nothing was added to. -/
def new (id : SnapshotId) (generation : Generation) (spectrum : SpectrumModel)
    (options : SnapshotBuildOptions) : SnapshotBuilder K where
  id := id
  generation := generation
  spectrum := spectrum
  options := options
  sources := .empty
  nodes := .empty
  ports := .empty
  spans := .empty
  crossConnects := .empty
  profiles := .empty
  built := false

def alreadySealed : Status :=
  failure .refused (text "snapshot builder has already been sealed")

def addSource (builder : SnapshotBuilder K) (record : SourceRecord) :
    Status × SnapshotBuilder K :=
  if builder.built then (alreadySealed, builder) else
  let (status, sources) := builder.sources.add record
    "source id must not be empty"
    "snapshot declares more sources than the supported maximum"
  (status, { builder with sources })

def addNode (builder : SnapshotBuilder K) (record : NodeRecord) :
    Status × SnapshotBuilder K :=
  if builder.built then (alreadySealed, builder) else
  let (status, nodes) := builder.nodes.add record
    "node id must not be empty"
    "snapshot declares more nodes than the supported maximum"
  (status, { builder with nodes })

def addPort (builder : SnapshotBuilder K) (record : PortRecord) :
    Status × SnapshotBuilder K :=
  if builder.built then (alreadySealed, builder) else
  let (status, ports) := builder.ports.add record
    "port key must name both a node and a port"
    "snapshot declares more ports than the supported maximum"
  (status, { builder with ports })

def addSpan (builder : SnapshotBuilder K) (record : SpanRecord K) :
    Status × SnapshotBuilder K :=
  if builder.built then (alreadySealed, builder) else
  let (status, spans) := builder.spans.add record
    "span id must not be empty"
    "snapshot declares more spans than the supported maximum"
  (status, { builder with spans })

def addCrossConnect (builder : SnapshotBuilder K)
    (record : CrossConnectRecord) : Status × SnapshotBuilder K :=
  if builder.built then (alreadySealed, builder) else
  let (status, crossConnects) := builder.crossConnects.add record
    "cross-connect id must not be empty"
    "snapshot declares more cross-connects than the supported maximum"
  (status, { builder with crossConnects })

def addReachProfile (builder : SnapshotBuilder K) (record : ReachProfile K) :
    Status × SnapshotBuilder K :=
  if builder.built then (alreadySealed, builder) else
  let (status, profiles) := builder.profiles.add record
    "reach profile id must not be empty"
    "snapshot declares more reach profiles than the supported maximum"
  (status, { builder with profiles })

def submit (builder : SnapshotBuilder K) :
    Submission K → Status × SnapshotBuilder K
  | .source record => builder.addSource record
  | .node record => builder.addNode record
  | .port record => builder.addPort record
  | .span record => builder.addSpan record
  | .crossConnect record => builder.addCrossConnect record
  | .reachProfile record => builder.addReachProfile record

/-- The builder after a sequence of calls; a refused record is passed over. -/
def submitAll (builder : SnapshotBuilder K) (calls : List (Submission K)) :
    SnapshotBuilder K :=
  calls.foldl (fun builder call => (builder.submit call).2) builder

end SnapshotBuilder

/-! ### Record checks -/

section Checks

variable [Field K] [LinearOrder K]

def normaliseDomainList (runtime : Runtime K)
    (domains : List FailureDomainId) : List FailureDomainId :=
  (runtime.routine.sortValues domains).destutter (· ≠ ·)

def domainStatus (runtime : Runtime K) (domains : List FailureDomainId)
    (what : String) : Status :=
  if (normaliseDomainList runtime domains).length > kMaxDomainsPerResource then
    failure .limitExceeded (text what ++
      text " declares more failure domains than the supported maximum")
  else
    okStatus

def validateFiniteNonNegative (value : Evidence K) (field : String) : Status :=
  match value.value? with
  | none => okStatus
  | some raw =>
      if raw < 0 ∨ raw > 1000000 then
        failure .malformedInput (text field ++
          text " must be a finite value in [0, 1000000.000000]")
      else
        okStatus

def validateMaskWithinModel (mask : Evidence SlotMask) (model : SpectrumModel)
    (what : String) : Status :=
  match mask.value? with
  | none => okStatus
  | some value =>
      match (List.range kMaxSpectrumSlots).find? fun slot =>
          decide (model.slotCount ≤ slot) && value.test slot with
      | some slot =>
          failure .malformedInput (text what ++ text " marks slot " ++
            formatU64 slot ++
            text " which is outside the declared spectrum model")
      | none => okStatus

def NodeRecord.costStatus (node : NodeRecord) : Status :=
  if node.transitCost > 0 ∧ node.id.empty then
    failure .internal
      (text "cost accounting invariant violated for an unnamed node")
  else
    okStatus

def SpanRecord.status (span : SpanRecord K) (model : SpectrumModel) : Status :=
  firstFailure [
    validateFiniteNonNegative span.lossDb "span.loss_db",
    validateFiniteNonNegative span.osnrDb "span.osnr_db",
    validateMaskWithinModel span.blockedSlots model "span.blocked_slots"]

def ReachProfile.status (profile : ReachProfile K) : Status :=
  firstFailure [
    validateFiniteNonNegative profile.maxLossDb "profile.max_loss_db",
    validateFiniteNonNegative profile.minOsnrDb "profile.min_osnr_db",
    (if profile.maxSpanCount = .known 0 then
      failure .malformedInput
        (text "profile.max_span_count must be at least 1 when published")
    else okStatus)]

/-- Two neighbours of a sorted source list with one id. -/
def duplicateSource : List SourceRecord → Option SourceRecord
  | first :: second :: rest =>
      if second.id = first.id then some second
      else duplicateSource (second :: rest)
  | _ => none

def sourceStatus (sorted : List SourceRecord) : Status :=
  match duplicateSource sorted with
  | some record =>
      failure .conflictingEvidence (text "source '" ++ record.id.str ++
        text "' is declared more than once in one snapshot")
  | none => okStatus

end Checks

/-! ### Sorting and deduplication -/

/-- Collapse neighbours with equal keys onto the first of them, and list the
records that differ from the one they were collapsed onto. -/
def collapse {Record Key : Type} [DecidableEq Record] [DecidableEq Key]
    (keyOf : Record → Key) :
    Option Record → List Record → List Record × List Record
  | _, [] => ([], [])
  | none, record :: rest =>
      let (kept, conflicting) := collapse keyOf (some record) rest
      (record :: kept, conflicting)
  | some last, record :: rest =>
      if keyOf last = keyOf record then
        let (kept, conflicting) := collapse keyOf (some last) rest
        (kept, if last = record then conflicting else record :: conflicting)
      else
        let (kept, conflicting) := collapse keyOf (some record) rest
        (record :: kept, conflicting)

def sortAndDeduplicate {Record Key : Type} [DecidableEq Record]
    [DecidableEq Key] (routine : SortRoutine) (less : Record → Record → Bool)
    (keyOf : Record → Key) (resourceOf : Record → ResourceKey)
    (records : List Record) : List Record × List ResourceKey :=
  let (kept, conflicting) := collapse keyOf none (routine.sort less records)
  (kept, conflicting.map resourceOf)

/-- Arcs sort by tail, head and id. -/
def arcLess {Id : Type} [LinearOrder Id]
    (lhs rhs : PortKey × PortKey × Id) : Bool :=
  if lhs.1 ≠ rhs.1 then decide (lhs.1 < rhs.1)
  else if lhs.2.1 ≠ rhs.2.1 then decide (lhs.2.1 < rhs.2.1)
  else decide (lhs.2.2 < rhs.2.2)

/-! ### Adjacency -/

/-- Everything `Build` computes before it lays out the adjacency. -/
structure SortedRecords (K : Type) where
  sources : List SourceRecord
  nodes : List NodeRecord
  ports : List PortRecord
  spans : List (SpanRecord K)
  crossConnects : List CrossConnectRecord
  profiles : List (ReachProfile K)
  conflicted : List ResourceKey

namespace SortedRecords

variable (records : SortedRecords K)

def portIndexOf (key : PortKey) : Option Nat :=
  findByKey PortRecord.key records.ports key

def nodeIndexOf (id : NodeId) : Option Nat :=
  findByKey NodeRecord.id records.nodes id

/-- Missing ends of an arc, each noted at the end that does resolve. -/
def unresolvedEnds (fromPort toPort : PortKey) :
    List (ResourceKey × Option Nat) :=
  (if (records.portIndexOf fromPort).isNone then
    [(ResourceKey.forPort fromPort, records.portIndexOf toPort)] else []) ++
  (if (records.portIndexOf toPort).isNone then
    [(ResourceKey.forPort toPort, records.portIndexOf fromPort)] else [])

/-- Every unresolved reference in the order it is met, with the port it is
noted at. -/
def unresolvedNotes : List (ResourceKey × Option Nat) :=
  (records.ports.zipIdx.flatMap fun (port, index) =>
    if (records.nodeIndexOf port.key.node).isNone then
      [(ResourceKey.forNode port.key.node, some index)] else []) ++
  (records.spans.flatMap fun span =>
    records.unresolvedEnds span.fromPort span.toPort) ++
  (records.crossConnects.flatMap fun crossConnect =>
    records.unresolvedEnds crossConnect.fromPort crossConnect.toPort)

/-- Span arcs with their tail port index, in record order. -/
def spanArcEntries : List (Nat × SpanArc) :=
  records.spans.zipIdx.flatMap fun (span, index) =>
    match records.portIndexOf span.fromPort,
        records.portIndexOf span.toPort with
    | some tail, some head =>
        (tail, ⟨index, false⟩) ::
          if span.bidirectional then [(head, ⟨index, true⟩)] else []
    | _, _ => []

def crossConnectEntries : List (Nat × Nat) :=
  records.crossConnects.zipIdx.flatMap fun (crossConnect, index) =>
    match records.portIndexOf crossConnect.fromPort,
        records.portIndexOf crossConnect.toPort with
    | some tail, some _ => [(tail, index)]
    | _, _ => []

/-- The id of a span, by index. -/
def spanIdAt (index : Nat) : SpanId :=
  (records.spans[index]?.map SpanRecord.id).getD default

def crossConnectIdAt (index : Nat) : CrossConnectId :=
  (records.crossConnects[index]?.map CrossConnectRecord.id).getD default

def spanArcLess (lhs rhs : SpanArc) : Bool :=
  if lhs.spanIndex ≠ rhs.spanIndex then
    decide (records.spanIdAt lhs.spanIndex < records.spanIdAt rhs.spanIndex)
  else
    decide (lhs.reversed.toNat < rhs.reversed.toNat)

def crossConnectLess (lhs rhs : Nat) : Bool :=
  decide (records.crossConnectIdAt lhs < records.crossConnectIdAt rhs)

/-- The values entered for one port. -/
def entriesAt {α : Type} (entries : List (Nat × α)) (port : Nat) : List α :=
  (entries.filter fun entry => entry.1 = port).map Prod.snd

def coverageComplete : Bool :=
  records.unresolvedNotes.isEmpty && records.conflicted.isEmpty &&
    records.sources.all (fun source => source.coverage == .complete) &&
    records.nodes.all (fun node => node.coverage == .complete)

end SortedRecords

/-! ### Build -/

section Build

variable [Field K] [LinearOrder K] (runtime : Runtime K)

namespace SnapshotBuilder

variable (builder : SnapshotBuilder K)

def normalisedNodes : List NodeRecord :=
  builder.nodes.records.map fun record =>
    { record with
      failureDomains := normaliseDomainList runtime record.failureDomains }

def normalisedPorts : List PortRecord :=
  builder.ports.records.map fun record =>
    { record with
      failureDomains := normaliseDomainList runtime record.failureDomains }

def normalisedSpans : List (SpanRecord K) :=
  builder.spans.records.map fun record =>
    { record with
      failureDomains := normaliseDomainList runtime record.failureDomains }

def normalisedCrossConnects : List CrossConnectRecord :=
  builder.crossConnects.records.map fun record =>
    { record with
      failureDomains := normaliseDomainList runtime record.failureDomains }

def sortedRecords : SortedRecords K :=
  let routine := runtime.routine
  let (nodes, nodeConflicts) := sortAndDeduplicate routine
    (fun lhs rhs => decide (lhs.id < rhs.id)) NodeRecord.id
    (fun record => .forNode record.id) (builder.normalisedNodes runtime)
  let (ports, portConflicts) := sortAndDeduplicate routine
    (fun lhs rhs => decide (lhs.key < rhs.key)) PortRecord.key
    (fun record => .forPort record.key) (builder.normalisedPorts runtime)
  let (spans, spanConflicts) := sortAndDeduplicate routine
    (fun lhs rhs => arcLess (lhs.fromPort, lhs.toPort, lhs.id)
      (rhs.fromPort, rhs.toPort, rhs.id))
    SpanRecord.id (fun record => .forSpan record.id)
    (builder.normalisedSpans runtime)
  let (crossConnects, crossConnectConflicts) := sortAndDeduplicate routine
    (fun lhs rhs => arcLess (lhs.fromPort, lhs.toPort, lhs.id)
      (rhs.fromPort, rhs.toPort, rhs.id))
    CrossConnectRecord.id (fun record => .forCrossConnect record.id)
    (builder.normalisedCrossConnects runtime)
  let (profiles, profileConflicts) := sortAndDeduplicate routine
    (fun lhs rhs => decide (lhs.id < rhs.id)) ReachProfile.id
    (fun record => .forReachProfile record.id) builder.profiles.records
  { sources := routine.sortBy SourceRecord.id builder.sources.records
    nodes, ports, spans, crossConnects, profiles
    conflicted := (routine.sortValues (nodeConflicts ++ portConflicts ++
      spanConflicts ++ crossConnectConflicts ++ profileConflicts)).destutter
        (· ≠ ·) }

def selfLoopStatus (records : SortedRecords K) : Status :=
  if ¬ builder.options.rejectSelfLoops then okStatus else
  match records.spans.find? fun span => decide (span.fromPort = span.toPort) with
  | some span =>
      failure .malformedInput (text "span '" ++ span.id.str ++
        text "' starts and ends on the same port")
  | none =>
      match records.crossConnects.find? fun crossConnect =>
          decide (crossConnect.fromPort = crossConnect.toPort) with
      | some crossConnect =>
          failure .malformedInput (text "cross-connect '" ++
            crossConnect.id.str ++ text "' starts and ends on the same port")
      | none => okStatus

def unresolvedStatus (records : SortedRecords K) : Status :=
  if builder.options.allowUnresolvedReferences then okStatus else
  match records.unresolvedNotes with
  | [] => okStatus
  | (resource, _) :: _ =>
      failure .notFound
        (text "snapshot references a resource with no record: " ++
          resource.toBytes)

/-- The checks of `Build` in the order they are made. -/
def buildStatus (records : SortedRecords K) : Status :=
  firstFailure ([
    (if builder.built then alreadySealed else okStatus),
    builder.spectrum.validate,
    sourceStatus records.sources] ++
    builder.nodes.records.map
      (fun record => domainStatus runtime record.failureDomains "node") ++
    builder.ports.records.map
      (fun record => domainStatus runtime record.failureDomains "port") ++
    builder.spans.records.map
      (fun record => domainStatus runtime record.failureDomains "span") ++
    builder.crossConnects.records.map
      (fun record => domainStatus runtime record.failureDomains
        "cross-connect") ++
    builder.nodes.records.map NodeRecord.costStatus ++
    builder.spans.records.map (fun span => span.status builder.spectrum) ++
    builder.ports.records.map (fun port => validateMaskWithinModel
      port.blockedSlots builder.spectrum "port.blocked_slots") ++
    builder.crossConnects.records.map (fun crossConnect =>
      validateMaskWithinModel crossConnect.blockedSlots builder.spectrum
        "crossconnect.blocked_slots") ++
    builder.profiles.records.map ReachProfile.status ++
    [builder.selfLoopStatus records, builder.unresolvedStatus records])

/-- The snapshot laid out over the sorted records, without its digest. -/
def assemble (records : SortedRecords K) : TopologySnapshot K where
  id := builder.id
  generation := builder.generation
  spectrum := builder.spectrum
  digest := ⟨0⟩
  sources := records.sources
  nodes := records.nodes
  ports := records.ports
  spans := records.spans
  crossConnects := records.crossConnects
  reachProfiles := records.profiles
  conflicted := records.conflicted
  unresolved := (runtime.routine.sortValues
    (records.unresolvedNotes.map Prod.fst)).destutter (· ≠ ·)
  coverageComplete := records.coverageComplete
  freshness := .fresh
  restoredFromIncarnation := ⟨0⟩
  restoredFromEpoch := 0
  spanArcs := (List.range records.ports.length).map fun port =>
    runtime.routine.sort records.spanArcLess
      (SortedRecords.entriesAt records.spanArcEntries port)
  outCrossConnects := (List.range records.ports.length).map fun port =>
    runtime.routine.sort records.crossConnectLess
      (SortedRecords.entriesAt records.crossConnectEntries port)
  unresolvedAtPort := (List.range records.ports.length).map fun port =>
    (records.unresolvedNotes.filter fun note => note.2 = some port).length

/-- The snapshot with its digest. -/
def finished : TopologySnapshot K :=
  { builder.assemble runtime (builder.sortedRecords runtime) with
    digest := runtime.computeSnapshotDigest
      (builder.assemble runtime (builder.sortedRecords runtime)) }

def build : Except Status (TopologySnapshot K) :=
  let status := builder.buildStatus runtime (builder.sortedRecords runtime)
  if status.failed then .error status else .ok (builder.finished runtime)

end SnapshotBuilder

/-- A snapshot the builder sealed, possibly read back from persistence
since. -/
inductive IsBuilt : TopologySnapshot K → Prop
  | sealed (builder : SnapshotBuilder K) (snapshot : TopologySnapshot K)
      (built : builder.build runtime = .ok snapshot) : IsBuilt snapshot
  | restored (snapshot : TopologySnapshot K) (producer : IncarnationId)
      (epoch : UInt64) (original : IsBuilt snapshot) :
      IsBuilt (snapshot.markRestored producer epoch)

end Build

end OpticalPathPlanner
