import OpticalPathPlanner.BuildOrder
import OpticalPathPlanner.SnapshotRoundTrip

/-!
# Sealing the records of a snapshot again

The records of a sealed snapshot are sorted, free of repetitions and carry
sorted failure domains.  A builder of these records keeps every one of them
and reports no conflict, and it refuses nothing but an arc that ends where it
starts, which the first builder may have been told to admit.
-/

namespace OpticalPathPlanner

open SortedRanges

variable {K : Type}

/-! ### Collapsing once more -/

section Collapse

variable {Record Key Place : Type} [DecidableEq Record] [DecidableEq Key]
  [LinearOrder Place] {placeOf : Record → Place} {keyOf : Record → Key}

theorem collapse_sublist (last : Option Record) (records : List Record) :
    (collapse keyOf last records).1.Sublist records := by
  induction records generalizing last with
  | nil => cases last <;> exact .slnil
  | cons record rest ih =>
      cases last with
      | none => exact (ih (some record)).cons_cons record
      | some previous =>
          rw [collapse_some_cons]
          split_ifs
          · exact (ih (some previous)).cons record
          · exact (ih (some record)).cons_cons record

/-- No neighbours share their key. -/
theorem collapse_isChain (last : Record) (records : List Record) :
    (last :: (collapse keyOf (some last) records).1).IsChain
      fun first second => keyOf first ≠ keyOf second := by
  induction records generalizing last with
  | nil => exact List.isChain_singleton last
  | cons record rest ih =>
      rw [collapse_some_cons]
      split_ifs with same
      · exact ih last
      · exact List.isChain_cons_cons.mpr ⟨same, ih record⟩

theorem collapse_none_isChain (records : List Record) :
    (collapse keyOf none records).1.IsChain
      fun first second => keyOf first ≠ keyOf second := by
  cases records with
  | nil => exact List.isChain_nil
  | cons record rest => exact collapse_isChain record rest

/-- Records whose neighbours differ in their key are all kept. -/
theorem collapse_of_isChain {last : Record} {records : List Record}
    (chain : (last :: records).IsChain
      fun first second => keyOf first ≠ keyOf second) :
    collapse keyOf (some last) records = (records, []) := by
  induction records generalizing last with
  | nil => rfl
  | cons record rest ih =>
      obtain ⟨differ, chainRest⟩ := List.isChain_cons_cons.mp chain
      simp only [collapse, if_neg differ, ih chainRest]

theorem collapse_none_of_isChain {records : List Record}
    (chain : records.IsChain fun first second => keyOf first ≠ keyOf second) :
    collapse keyOf none records = (records, []) := by
  cases records with
  | nil => rfl
  | cons record rest => simp only [collapse, collapse_of_isChain chain]

omit [DecidableEq Record] [DecidableEq Key] in
/-- Sorting leaves sorted records as they are. -/
theorem sortBy_of_increasing (routine : SortRoutine) {records : List Record}
    (increasing : records.Pairwise fun first second =>
      placeOf first < placeOf second) :
    routine.sortBy placeOf records = records := by
  have apart : ∀ first ∈ records, ∀ second ∈ records,
      placeOf first = placeOf second → first = second := by
    have distinct : (records.map placeOf).Nodup :=
      List.pairwise_map.mpr (increasing.imp ne_of_lt)
    exact fun first inFirst second inSecond same =>
      List.inj_on_of_nodup_map distinct inFirst inSecond same
  refine List.Perm.eq_of_pairwise ?_ (routine.sortBy_sorted placeOf records)
    (increasing.imp le_of_lt) (routine.sortBy_perm placeOf records)
  intro first second inFirst inSecond below above
  exact apart first ((routine.mem_sortBy _ _ _).mp inFirst) second inSecond
    (le_antisymm below above)

variable (factors : ∀ first second,
  placeOf first = placeOf second → keyOf first = keyOf second)

include factors in
omit [DecidableEq Record] [DecidableEq Key] in
/-- Sorted records whose neighbours differ in their key are strictly sorted. -/
theorem increasing_of_isChain {records : List Record}
    (sorted : records.Pairwise fun first second =>
      placeOf first ≤ placeOf second)
    (chain : records.IsChain fun first second => keyOf first ≠ keyOf second) :
    records.Pairwise fun first second => placeOf first < placeOf second := by
  have places : (records.map placeOf).IsChain (· ≠ ·) := by
    rw [List.isChain_map]
    exact chain.imp fun first second differ same =>
      differ (factors first second same)
  exact List.pairwise_map.mp
    (increasing_of_isChain_ne (List.pairwise_map.mpr sorted) places)

include factors in
theorem kept_increasing (routine : SortRoutine) (records : List Record) :
    (collapse keyOf none (routine.sortBy placeOf records)).1.Pairwise
      fun first second => placeOf first < placeOf second :=
  increasing_of_isChain factors
    ((routine.sortBy_sorted placeOf records).sublist (collapse_sublist none _))
    (collapse_none_isChain _)

/-- Strictly sorted records whose neighbours differ are kept as they are. -/
theorem collapse_sortBy_of_increasing (routine : SortRoutine)
    {records : List Record}
    (increasing : records.Pairwise fun first second =>
      placeOf first < placeOf second)
    (chain : records.IsChain fun first second => keyOf first ≠ keyOf second) :
    collapse keyOf none (routine.sortBy placeOf records) = (records, []) := by
  rw [sortBy_of_increasing routine increasing, collapse_none_of_isChain chain]

end Collapse

/-! ### What sealing leaves behind -/

section Sealed

variable [Field K] [LinearOrder K] {runtime : Runtime K}

theorem normaliseDomainList_idem (domains : List FailureDomainId) :
    normaliseDomainList runtime (normaliseDomainList runtime domains) =
      normaliseDomainList runtime domains := by
  have increasing : (normaliseDomainList runtime domains).Pairwise (· < ·) :=
    increasing_destutter (runtime.routine.sortValues_sorted domains)
  have sorted : runtime.routine.sortValues (normaliseDomainList runtime domains) =
      normaliseDomainList runtime domains :=
    sortBy_of_increasing runtime.routine increasing
  rw [normaliseDomainList, sorted]
  exact List.destutter_of_isChain (· ≠ ·) _
    (increasing.imp ne_of_lt).isChain

/-- Domains that are sorted, free of repetitions and not too many. -/
structure NormalDomains (runtime : Runtime K) (domains : List FailureDomainId) :
    Prop where
  normal : normaliseDomainList runtime domains = domains
  bounded : domains.length ≤ kMaxDomainsPerResource

/-- Records that a builder leaves as they are. -/
structure TopologySnapshot.Resealable (runtime : Runtime K)
    (snapshot : TopologySnapshot K) : Prop where
  spectrum : snapshot.spectrum.validate.failed = false
  domains : ∀ call ∈ snapshot.calls, NormalDomains runtime call.domains
  sources : snapshot.sources.Pairwise fun first second => first.id < second.id
  nodes : snapshot.nodes.Pairwise fun first second => first.id < second.id
  ports : snapshot.ports.Pairwise fun first second => first.key < second.key
  spans : snapshot.spans.Pairwise fun first second => first.place < second.place
  spanIds : snapshot.spans.IsChain fun first second => first.id ≠ second.id
  crossConnects : snapshot.crossConnects.Pairwise fun first second =>
    first.place < second.place
  crossConnectIds : snapshot.crossConnects.IsChain fun first second =>
    first.id ≠ second.id
  profiles : snapshot.reachProfiles.Pairwise fun first second =>
    first.id < second.id
  nodesNamed : ∀ node ∈ snapshot.nodes, node.named = true
  portMasks : ∀ port ∈ snapshot.ports, (validateMaskWithinModel
    port.blockedSlots snapshot.spectrum "port.blocked_slots").failed = false
  spanStatus : ∀ span ∈ snapshot.spans,
    (span.status snapshot.spectrum).failed = false
  crossConnectMasks : ∀ record ∈ snapshot.crossConnects,
    (validateMaskWithinModel record.blockedSlots snapshot.spectrum
      "crossconnect.blocked_slots").failed = false
  profileStatus : ∀ profile ∈ snapshot.reachProfiles,
    profile.status.failed = false

/-- No arc starts and ends on the same port. -/
def TopologySnapshot.LoopFree (snapshot : TopologySnapshot K) : Prop :=
  (∀ span ∈ snapshot.spans, span.fromPort ≠ span.toPort) ∧
    ∀ record ∈ snapshot.crossConnects, record.fromPort ≠ record.toPort

namespace SnapshotBuilder

variable {builder : SnapshotBuilder K}

/-- A record that is kept was added, with its domains in order. -/
theorem mem_collapsed {Record Key Place : Type} [DecidableEq Record]
    [DecidableEq Key] [LinearOrder Place] {placeOf : Record → Place}
    {keyOf : Record → Key} {normalise : Record → Record}
    {records : List Record} {record : Record}
    (kept : record ∈ (collapse keyOf none
      (runtime.routine.sortBy placeOf (records.map normalise))).1) :
    ∃ original ∈ records, record = normalise original := by
  have sorted := (runtime.routine.mem_sortBy _ _ _).mp (mem_of_mem_collapse kept)
  obtain ⟨original, isRecord, same⟩ := List.mem_map.mp sorted
  exact ⟨original, isRecord, same.symm⟩

theorem normalDomains_nil : NormalDomains runtime [] := by
  refine ⟨?_, by simp⟩
  have sorted : runtime.routine.sortValues ([] : List FailureDomainId) = [] :=
    (runtime.routine.sortBy_perm _ _).eq_nil
  rw [normaliseDomainList, sorted]
  rfl

theorem normalDomains_of_status {domains : List FailureDomainId} {what : String}
    (accepted : (domainStatus runtime domains what).failed = false) :
    NormalDomains runtime (normaliseDomainList runtime domains) := by
  refine ⟨normaliseDomainList_idem domains, ?_⟩
  unfold domainStatus at accepted
  rw [failed_ite_failure rfl] at accepted
  simpa using accepted.1

theorem finished_resealable
    (accepted : (builder.buildStatus runtime
      (builder.sortedRecords runtime)).failed = false) :
    (builder.finished runtime).Resealable runtime := by
  have wellFormed := finished_wellFormed accepted
  obtain ⟨nodes, ports, spans, crossConnects, profiles⟩ :=
    builder.finished_records runtime
  unfold buildStatus at accepted
  simp only [firstFailure_failed_iff, List.forall_mem_append,
    List.forall_mem_map, List.forall_mem_cons] at accepted
  obtain ⟨⟨⟨⟨⟨⟨⟨⟨⟨⟨⟨-, spectrum, -⟩, nodeDomains⟩, portDomains⟩, spanDomains⟩,
    crossConnectDomains⟩, -⟩, spanStatus⟩, portMasks⟩, crossConnectMasks⟩,
    profileStatus⟩, -⟩ := accepted
  have keptNode := fun node (member : node ∈ (builder.finished runtime).nodes) =>
    mem_collapsed (nodes ▸ member : node ∈ (builder.collapsedNodes runtime).1)
  have keptPort := fun port (member : port ∈ (builder.finished runtime).ports) =>
    mem_collapsed (ports ▸ member : port ∈ (builder.collapsedPorts runtime).1)
  have keptSpan := fun span (member : span ∈ (builder.finished runtime).spans) =>
    mem_collapsed (spans ▸ member : span ∈ (builder.collapsedSpans runtime).1)
  have keptCrossConnect := fun record
      (member : record ∈ (builder.finished runtime).crossConnects) =>
    mem_collapsed (crossConnects ▸ member :
      record ∈ (builder.collapsedCrossConnects runtime).1)
  constructor
  case spectrum => exact spectrum
  case domains =>
    refine TopologySnapshot.forall_mem_calls.mpr
      ⟨fun _ _ => normalDomains_nil, fun _ _ => normalDomains_nil, ?_, ?_, ?_, ?_⟩
    · intro node member
      obtain ⟨original, isRecord, rfl⟩ := keptNode node member
      exact normalDomains_of_status (nodeDomains original isRecord)
    · intro port member
      obtain ⟨original, isRecord, rfl⟩ := keptPort port member
      exact normalDomains_of_status (portDomains original isRecord)
    · intro span member
      obtain ⟨original, isRecord, rfl⟩ := keptSpan span member
      exact normalDomains_of_status (spanDomains original isRecord)
    · intro record member
      obtain ⟨original, isRecord, rfl⟩ := keptCrossConnect record member
      exact normalDomains_of_status (crossConnectDomains original isRecord)
  case sources => exact wellFormed.sources
  case nodes => exact wellFormed.nodes
  case ports => exact wellFormed.ports
  case spans =>
    rw [spans]
    exact kept_increasing (fun _ _ => SpanRecord.id_of_place) runtime.routine _
  case spanIds =>
    rw [spans]
    exact collapse_none_isChain _
  case crossConnects =>
    rw [crossConnects]
    exact kept_increasing (fun _ _ => CrossConnectRecord.id_of_place)
      runtime.routine _
  case crossConnectIds =>
    rw [crossConnects]
    exact collapse_none_isChain _
  case profiles => exact wellFormed.profiles
  case nodesNamed =>
    intro node member
    obtain ⟨original, isRecord, rfl⟩ := keptNode node member
    exact builder.nodes.all_named original isRecord
  case portMasks =>
    intro port member
    obtain ⟨original, isRecord, rfl⟩ := keptPort port member
    exact portMasks original isRecord
  case spanStatus =>
    intro span member
    obtain ⟨original, isRecord, rfl⟩ := keptSpan span member
    exact spanStatus original isRecord
  case crossConnectMasks =>
    intro record member
    obtain ⟨original, isRecord, rfl⟩ := keptCrossConnect record member
    exact crossConnectMasks original isRecord
  case profileStatus =>
    intro profile member
    rw [profiles] at member
    exact profileStatus profile
      ((runtime.routine.mem_sortBy _ _ _).mp (mem_of_mem_collapse member))

/-! ### Sealing again -/

variable {snapshot : TopologySnapshot K}

theorem Rereads.sortedRecords_eq (rereads : builder.Rereads snapshot)
    (resealable : snapshot.Resealable runtime) :
    builder.sortedRecords runtime =
      { sources := snapshot.sources.map SourceRecord.reread
        nodes := snapshot.nodes
        ports := snapshot.ports.map PortRecord.reread
        spans := snapshot.spans
        crossConnects := snapshot.crossConnects
        profiles := snapshot.reachProfiles
        conflicted := [] } := by
  obtain ⟨-, -, nodeDomains, portDomains, spanDomains, crossConnectDomains⟩ :=
    TopologySnapshot.forall_mem_calls.mp resealable.domains
  have nodes : builder.normalisedNodes runtime = snapshot.nodes := by
    rw [normalisedNodes, rereads.nodes]
    refine (List.map_congr_left fun node member => ?_).trans (List.map_id _)
    have normal : normaliseDomainList runtime node.failureDomains =
        node.failureDomains := (nodeDomains node member).normal
    rw [normal]
    rfl
  have ports : builder.normalisedPorts runtime =
      snapshot.ports.map PortRecord.reread := by
    rw [normalisedPorts, rereads.ports, List.map_map]
    refine List.map_congr_left fun port member => ?_
    have normal : normaliseDomainList runtime port.reread.failureDomains =
        port.reread.failureDomains := (portDomains port member).normal
    rw [Function.comp_apply, normal]
  have spans : builder.normalisedSpans runtime = snapshot.spans := by
    rw [normalisedSpans, rereads.spans]
    refine (List.map_congr_left fun span member => ?_).trans (List.map_id _)
    have normal : normaliseDomainList runtime span.failureDomains =
        span.failureDomains := (spanDomains span member).normal
    rw [normal]
    rfl
  have crossConnects : builder.normalisedCrossConnects runtime =
      snapshot.crossConnects := by
    rw [normalisedCrossConnects, rereads.crossConnects]
    refine (List.map_congr_left fun record member => ?_).trans (List.map_id _)
    have normal : normaliseDomainList runtime record.failureDomains =
        record.failureDomains := (crossConnectDomains record member).normal
    rw [normal]
    rfl
  have keptPorts : (snapshot.ports.map PortRecord.reread).Pairwise
      fun first second => first.key < second.key :=
    List.pairwise_map.mpr resealable.ports
  have keptSources : (snapshot.sources.map SourceRecord.reread).Pairwise
      fun first second => first.id < second.id :=
    List.pairwise_map.mpr resealable.sources
  have sortedNodes := collapse_sortBy_of_increasing runtime.routine
    resealable.nodes (resealable.nodes.imp ne_of_lt).isChain
  have sortedPorts := collapse_sortBy_of_increasing runtime.routine keptPorts
    (keptPorts.imp ne_of_lt).isChain
  have sortedSpans := collapse_sortBy_of_increasing runtime.routine
    resealable.spans resealable.spanIds
  have sortedCrossConnects := collapse_sortBy_of_increasing runtime.routine
    resealable.crossConnects resealable.crossConnectIds
  have sortedProfiles := collapse_sortBy_of_increasing runtime.routine
    resealable.profiles (resealable.profiles.imp ne_of_lt).isChain
  have none_ : (runtime.routine.sortValues ([] : List ResourceKey)) = [] :=
    (runtime.routine.sortBy_perm _ _).eq_nil
  rw [SnapshotBuilder.sortedRecords_eq]
  simp only [conflictReports, collapsedNodes, collapsedPorts, collapsedSpans,
    collapsedCrossConnects, collapsedProfiles, nodes, ports, spans, crossConnects,
    rereads.profiles, rereads.sources, sortedNodes, sortedPorts, sortedSpans,
    sortedCrossConnects, sortedProfiles, sortBy_of_increasing runtime.routine
      keptSources, List.map_nil, List.append_nil, none_]
  rfl

theorem duplicateSource_of_increasing {sorted : List SourceRecord}
    (increasing : sorted.Pairwise fun first second => first.id < second.id) :
    duplicateSource sorted = none := by
  induction sorted with
  | nil => rfl
  | cons first rest ih =>
      obtain ⟨below, restIncreasing⟩ := List.pairwise_cons.mp increasing
      cases rest with
      | nil => rfl
      | cons second rest =>
          have differ : second.id ≠ first.id :=
            (below second List.mem_cons_self).ne'
          rw [duplicateSource, if_neg differ]
          exact ih restIncreasing

theorem domainStatus_of_normal {domains : List FailureDomainId}
    (normal : NormalDomains runtime domains) (what : String) :
    (domainStatus runtime domains what).failed = false := by
  have bounded := normal.bounded
  unfold domainStatus
  rw [normal.normal, if_neg (by omega)]
  rfl

/-- A builder of sealed records refuses arcs that end where they start, and
nothing else. -/
theorem Rereads.buildStatus_failed_iff (rereads : builder.Rereads snapshot)
    (resealable : snapshot.Resealable runtime) :
    (builder.buildStatus runtime
      (builder.sortedRecords runtime)).failed = false ↔ snapshot.LoopFree := by
  obtain ⟨-, -, nodeDomains, portDomains, spanDomains, crossConnectDomains⟩ :=
    TopologySnapshot.forall_mem_calls.mp resealable.domains
  have keptSources : (snapshot.sources.map SourceRecord.reread).Pairwise
      fun first second => first.id < second.id :=
    List.pairwise_map.mpr resealable.sources
  have sources : (sourceStatus
      (snapshot.sources.map SourceRecord.reread)).failed = false := by
    rw [sourceStatus, duplicateSource_of_increasing keptSources]
    rfl
  have costs : ∀ node ∈ snapshot.nodes, node.costStatus.failed = false := by
    intro node member
    have named := resealable.nodesNamed node member
    simp only [NodeRecord.named, Bool.not_eq_true'] at named
    simp [NodeRecord.costStatus, named, okStatus, Status.failed]
  unfold buildStatus
  rw [rereads.sortedRecords_eq resealable]
  simp only [firstFailure_failed_iff, List.forall_mem_append,
    List.forall_mem_map, List.forall_mem_cons, selfLoopStatus_failed_iff,
    unresolvedStatus_failed_iff, rereads.options, rereads.unsealed,
    rereads.spectrum, rereads.nodes, rereads.ports, rereads.spans,
    rereads.crossConnects, rereads.profiles, sources]
  constructor
  · intro accepted
    obtain ⟨spans, crossConnects⟩ := accepted.2.1 trivial
    exact ⟨fun span member loop => spans ⟨span, member, loop⟩,
      fun record member loop => crossConnects ⟨record, member, loop⟩⟩
  · intro loopFree
    refine ⟨⟨⟨⟨⟨⟨⟨⟨⟨⟨⟨rfl, resealable.spectrum, trivial, by simp⟩, ?_⟩, ?_⟩, ?_⟩, ?_⟩,
      costs⟩, resealable.spanStatus⟩, ?_⟩, resealable.crossConnectMasks⟩,
      resealable.profileStatus⟩, ?_, by simp⟩
    · exact fun node member => domainStatus_of_normal (nodeDomains node member) _
    · exact fun port member => domainStatus_of_normal (portDomains port member) _
    · exact fun span member => domainStatus_of_normal (spanDomains span member) _
    · exact fun record member =>
        domainStatus_of_normal (crossConnectDomains record member) _
    · exact fun port member => resealable.portMasks port member
    · rintro -
      constructor
      · rintro ⟨span, member, loop⟩
        exact loopFree.1 span member loop
      · rintro ⟨record, member, loop⟩
        exact loopFree.2 record member loop

/-- A builder of sealed records seals them again, unless an arc loops. -/
theorem Rereads.build_iff (rereads : builder.Rereads snapshot)
    (resealable : snapshot.Resealable runtime) {result : TopologySnapshot K} :
    builder.build runtime = .ok result ↔
      snapshot.LoopFree ∧ builder.finished runtime = result := by
  rw [← rereads.buildStatus_failed_iff resealable]
  unfold build
  simp only
  split_ifs with failed <;> simp [failed]

end SnapshotBuilder

end Sealed

end OpticalPathPlanner
