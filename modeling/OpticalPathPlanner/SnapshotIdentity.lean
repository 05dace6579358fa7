import OpticalPathPlanner.Deduplication

/-!
# Identities of a sealed snapshot

Which identities survive sealing, and which are reported as conflicting.
Nodes, ports and profiles sort by their identity, so equal identities meet.
Spans and cross-connects sort by their ends first, and only neighbours are
compared.
-/

namespace OpticalPathPlanner

open SortedRanges

variable {K : Type}

/-! ### Places of arcs -/

def SpanRecord.place (span : SpanRecord K) : PortKey ×ₗ PortKey ×ₗ SpanId :=
  toLex (span.fromPort, toLex (span.toPort, span.id))

def CrossConnectRecord.place (record : CrossConnectRecord) :
    PortKey ×ₗ PortKey ×ₗ CrossConnectId :=
  toLex (record.fromPort, toLex (record.toPort, record.id))

theorem arcLess_eq {Id : Type} [LinearOrder Id] (first second : PortKey × PortKey × Id) :
    arcLess first second = decide (toLex (first.1, toLex first.2) <
      toLex (second.1, toLex second.2)) := by
  rw [Bool.eq_iff_iff, decide_eq_true_iff, Prod.Lex.toLex_lt_toLex]
  unfold arcLess
  by_cases tail : first.1 = second.1
  · by_cases head : first.2.1 = second.2.1
    · simp [tail, head, Prod.Lex.lt_iff]
    · simp [tail, head, Prod.Lex.lt_iff]
  · simp [tail]

theorem SpanRecord.id_of_place {first second : SpanRecord K}
    (same : first.place = second.place) : first.id = second.id := by
  simp only [place, toLex_inj, Prod.mk.injEq] at same
  exact same.2.2

theorem CrossConnectRecord.id_of_place {first second : CrossConnectRecord}
    (same : first.place = second.place) : first.id = second.id := by
  simp only [place, toLex_inj, Prod.mk.injEq] at same
  exact same.2.2

/-! ### One kind of records -/

section Kinds

variable {Record Key Place : Type} [DecidableEq Record] [DecidableEq Key]
  [LinearOrder Place]

/-- One kind of records keeps its identities: every identity that was added is
there once, and it is reported exactly when two records under it differ. -/
structure KindIdentified (keyOf : Record → Key)
    (resourceOf : Record → ResourceKey) (added kept : List Record)
    (conflicted : List ResourceKey) : Prop where
  unique : (kept.map keyOf).Nodup
  present : ∀ record ∈ added, ∃ other ∈ kept, keyOf other = keyOf record
  conflicted_iff : ∀ record ∈ added, resourceOf record ∈ conflicted ↔
    Disagree keyOf added (keyOf record)

variable {placeOf : Record → Place} {keyOf : Record → Key}
  {records : List Record} (routine : SortRoutine)

theorem present_collapse_sortBy {record : Record} (member : record ∈ records) :
    ∃ other ∈ (collapse keyOf none (routine.sortBy placeOf records)).1,
      keyOf other = keyOf record := by
  have listed : keyOf record ∈
      (collapse keyOf none (routine.sortBy placeOf records)).1.map keyOf :=
    mem_keys_collapse_none.mpr
      (List.mem_map_of_mem ((routine.mem_sortBy _ _ _).mpr member))
  exact List.mem_map.mp listed

variable (factors : ∀ first second,
  placeOf first = placeOf second → keyOf first = keyOf second)

include factors

theorem unique_collapse_sortBy_iff :
    ((collapse keyOf none (routine.sortBy placeOf records)).1.map
      keyOf).Nodup ↔ Grouped placeOf keyOf records := by
  rw [nodup_collapse_none_iff factors (routine.sortBy_sorted placeOf records)]
  exact Grouped.congr (routine.mem_sortBy placeOf records)

theorem conflict_collapse_sortBy_iff {key : Key} :
    (∃ record ∈ (collapse keyOf none (routine.sortBy placeOf records)).2,
      keyOf record = key) ↔ DisagreeInRun placeOf keyOf records key := by
  rw [conflict_collapse_none_iff factors (routine.sortBy_sorted placeOf records)]
  exact DisagreeInRun.congr (routine.mem_sortBy placeOf records)

/-- The conflicts of sorted records name the keys with records that disagree. -/
theorem exists_conflict_iff {resourceOf : Key → ResourceKey}
    {resource : ResourceKey} :
    (∃ record ∈ (collapse keyOf none (routine.sortBy placeOf records)).2,
      resourceOf (keyOf record) = resource) ↔
      ∃ key, DisagreeInRun placeOf keyOf records key ∧
        resourceOf key = resource := by
  constructor
  · rintro ⟨record, member, named⟩
    exact ⟨keyOf record, (conflict_collapse_sortBy_iff routine factors).mp
      ⟨record, member, rfl⟩, named⟩
  · rintro ⟨key, disagree, named⟩
    obtain ⟨record, member, rfl⟩ :=
      (conflict_collapse_sortBy_iff routine factors).mpr disagree
    exact ⟨record, member, named⟩

omit factors

omit [DecidableEq Record] in
/-- Records that sort by their key are grouped. -/
theorem grouped_by_key {keyOf : Record → Place} (records : List Record) :
    Grouped keyOf keyOf records := by
  intro first _ middle _ last _ same low high
  rw [← same] at high
  exact le_antisymm high low

omit [DecidableEq Key] in
theorem exists_conflict_iff_disagree [DecidableEq Place] {keyOf : Record → Place}
    {resourceOf : Place → ResourceKey} {resource : ResourceKey} :
    (∃ record ∈ (collapse keyOf none (routine.sortBy keyOf records)).2,
      resourceOf (keyOf record) = resource) ↔
      ∃ key, Disagree keyOf records key ∧ resourceOf key = resource := by
  rw [exists_conflict_iff routine fun _ _ same => same]
  simp only [(grouped_by_key _).disagreeInRun_iff]

end Kinds

/-! ### The records a builder seals -/

section Sealed

variable [Field K] [LinearOrder K] (runtime : Runtime K)
  (builder : SnapshotBuilder K)

namespace SnapshotBuilder

/-- The nodes after sorting and collapsing, and the nodes that disagreed. -/
def collapsedNodes : List NodeRecord × List NodeRecord :=
  collapse NodeRecord.id none
    (runtime.routine.sortBy NodeRecord.id (builder.normalisedNodes runtime))

def collapsedPorts : List PortRecord × List PortRecord :=
  collapse PortRecord.key none
    (runtime.routine.sortBy PortRecord.key (builder.normalisedPorts runtime))

def collapsedSpans : List (SpanRecord K) × List (SpanRecord K) :=
  collapse SpanRecord.id none
    (runtime.routine.sortBy SpanRecord.place (builder.normalisedSpans runtime))

def collapsedCrossConnects :
    List CrossConnectRecord × List CrossConnectRecord :=
  collapse CrossConnectRecord.id none (runtime.routine.sortBy
    CrossConnectRecord.place (builder.normalisedCrossConnects runtime))

def collapsedProfiles : List (ReachProfile K) × List (ReachProfile K) :=
  collapse ReachProfile.id none
    (runtime.routine.sortBy ReachProfile.id builder.profiles.records)

/-- Every report of a disagreement. -/
def conflictReports : List ResourceKey :=
  (builder.collapsedNodes runtime).2.map (fun record => .forNode record.id) ++
    (builder.collapsedPorts runtime).2.map (fun record => .forPort record.key) ++
    (builder.collapsedSpans runtime).2.map (fun record => .forSpan record.id) ++
    (builder.collapsedCrossConnects runtime).2.map
      (fun record => .forCrossConnect record.id) ++
    (builder.collapsedProfiles runtime).2.map
      (fun record => .forReachProfile record.id)

theorem sortedRecords_eq :
    builder.sortedRecords runtime =
      { sources := runtime.routine.sortBy SourceRecord.id builder.sources.records
        nodes := (builder.collapsedNodes runtime).1
        ports := (builder.collapsedPorts runtime).1
        spans := (builder.collapsedSpans runtime).1
        crossConnects := (builder.collapsedCrossConnects runtime).1
        profiles := (builder.collapsedProfiles runtime).1
        conflicted := (runtime.routine.sortValues
          (builder.conflictReports runtime)).destutter (· ≠ ·) } := by
  have spanOrder : (fun lhs rhs : SpanRecord K =>
      arcLess (lhs.fromPort, lhs.toPort, lhs.id)
        (rhs.fromPort, rhs.toPort, rhs.id)) =
      fun lhs rhs => decide (lhs.place < rhs.place) := by
    funext lhs rhs
    exact arcLess_eq _ _
  have crossConnectOrder : (fun lhs rhs : CrossConnectRecord =>
      arcLess (lhs.fromPort, lhs.toPort, lhs.id)
        (rhs.fromPort, rhs.toPort, rhs.id)) =
      fun lhs rhs => decide (lhs.place < rhs.place) := by
    funext lhs rhs
    exact arcLess_eq _ _
  unfold sortedRecords
  rw [spanOrder, crossConnectOrder]
  rfl

end SnapshotBuilder

theorem mem_destutter_iff {α : Type} [DecidableEq α] {values : List α}
    {value : α} : value ∈ values.destutter (· ≠ ·) ↔ value ∈ values := by
  have from_ (first : α) (rest : List α) :
      value ∈ rest.destutter' (· ≠ ·) first ↔ value ∈ first :: rest := by
    induction rest generalizing first with
    | nil => simp
    | cons next rest ih =>
        rw [List.destutter'_cons]
        split_ifs with differ
        · rw [List.mem_cons, ih, ← List.mem_cons]
        · rw [ih]
          simp only [ne_eq, not_not] at differ
          simp [differ]
  cases values with
  | nil => simp
  | cons first rest => exact from_ first rest

namespace SnapshotBuilder

theorem mem_conflicted_iff {resource : ResourceKey} :
    resource ∈ (builder.finished runtime).conflicted ↔
      resource ∈ builder.conflictReports runtime := by
  change resource ∈ (builder.sortedRecords runtime).conflicted ↔ _
  rw [sortedRecords_eq]
  simp only
  rw [mem_destutter_iff, runtime.routine.mem_sortValues]

/-- A report is about one kind of resource. -/
theorem mem_conflictReports_iff {resource : ResourceKey} :
    resource ∈ builder.conflictReports runtime ↔
      (∃ record ∈ (builder.collapsedNodes runtime).2,
        .forNode record.id = resource) ∨
      (∃ record ∈ (builder.collapsedPorts runtime).2,
        .forPort record.key = resource) ∨
      (∃ record ∈ (builder.collapsedSpans runtime).2,
        .forSpan record.id = resource) ∨
      (∃ record ∈ (builder.collapsedCrossConnects runtime).2,
        .forCrossConnect record.id = resource) ∨
      ∃ record ∈ (builder.collapsedProfiles runtime).2,
        .forReachProfile record.id = resource := by
  simp only [conflictReports, List.mem_append, List.mem_map, or_assoc]

/-- Two different records of the resource were added, and meet when they are
sorted. -/
def Disputes (resource : ResourceKey) : Prop :=
  (∃ id, Disagree NodeRecord.id (builder.normalisedNodes runtime) id ∧
    ResourceKey.forNode id = resource) ∨
  (∃ key, Disagree PortRecord.key (builder.normalisedPorts runtime) key ∧
    ResourceKey.forPort key = resource) ∨
  (∃ id, DisagreeInRun SpanRecord.place SpanRecord.id
    (builder.normalisedSpans runtime) id ∧ ResourceKey.forSpan id = resource) ∨
  (∃ id, DisagreeInRun CrossConnectRecord.place CrossConnectRecord.id
    (builder.normalisedCrossConnects runtime) id ∧
      ResourceKey.forCrossConnect id = resource) ∨
  ∃ id, Disagree ReachProfile.id builder.profiles.records id ∧
    ResourceKey.forReachProfile id = resource

/-- The disputed resources are those that the snapshot reports. -/
theorem mem_conflicted_iff_disputes {resource : ResourceKey} :
    resource ∈ (builder.finished runtime).conflicted ↔
      builder.Disputes runtime resource := by
  rw [mem_conflicted_iff, mem_conflictReports_iff]
  exact or_congr (exists_conflict_iff_disagree _)
    (or_congr (exists_conflict_iff_disagree _)
      (or_congr (exists_conflict_iff _ fun _ _ => SpanRecord.id_of_place)
        (or_congr (exists_conflict_iff _ fun _ _ => CrossConnectRecord.id_of_place)
          (exists_conflict_iff_disagree _))))

theorem forNode_mem_conflicted_iff {id : NodeId} :
    .forNode id ∈ (builder.finished runtime).conflicted ↔
      Disagree NodeRecord.id (builder.normalisedNodes runtime) id := by
  rw [mem_conflicted_iff_disputes]
  simp [Disputes, ResourceKey.forNode, ResourceKey.forPort, ResourceKey.forSpan,
    ResourceKey.forCrossConnect, ResourceKey.forReachProfile,
    StrongId.str_injective.eq_iff]

/-- A port is reported under its text, which other ports may share. -/
theorem forPort_mem_conflicted_iff {key : PortKey} :
    .forPort key ∈ (builder.finished runtime).conflicted ↔
      ∃ other : PortKey, other.canonicalText = key.canonicalText ∧
        Disagree PortRecord.key (builder.normalisedPorts runtime) other := by
  rw [mem_conflicted_iff_disputes]
  simp [Disputes, ResourceKey.forNode, ResourceKey.forPort, ResourceKey.forSpan,
    ResourceKey.forCrossConnect, ResourceKey.forReachProfile, and_comm]

theorem forSpan_mem_conflicted_iff {id : SpanId} :
    .forSpan id ∈ (builder.finished runtime).conflicted ↔
      DisagreeInRun SpanRecord.place SpanRecord.id
        (builder.normalisedSpans runtime) id := by
  rw [mem_conflicted_iff_disputes]
  simp [Disputes, ResourceKey.forNode, ResourceKey.forPort, ResourceKey.forSpan,
    ResourceKey.forCrossConnect, ResourceKey.forReachProfile,
    StrongId.str_injective.eq_iff]

theorem forCrossConnect_mem_conflicted_iff {id : CrossConnectId} :
    .forCrossConnect id ∈ (builder.finished runtime).conflicted ↔
      DisagreeInRun CrossConnectRecord.place CrossConnectRecord.id
        (builder.normalisedCrossConnects runtime) id := by
  rw [mem_conflicted_iff_disputes]
  simp [Disputes, ResourceKey.forNode, ResourceKey.forPort, ResourceKey.forSpan,
    ResourceKey.forCrossConnect, ResourceKey.forReachProfile,
    StrongId.str_injective.eq_iff]

theorem forReachProfile_mem_conflicted_iff {id : ProfileId} :
    .forReachProfile id ∈ (builder.finished runtime).conflicted ↔
      Disagree ReachProfile.id builder.profiles.records id := by
  rw [mem_conflicted_iff_disputes]
  simp [Disputes, ResourceKey.forNode, ResourceKey.forPort, ResourceKey.forSpan,
    ResourceKey.forCrossConnect, ResourceKey.forReachProfile,
    StrongId.str_injective.eq_iff]

/-- Every kind of records keeps its identities. -/
structure Identified (snapshot : TopologySnapshot K) : Prop where
  nodes : KindIdentified NodeRecord.id (fun record => .forNode record.id)
    (builder.normalisedNodes runtime) snapshot.nodes snapshot.conflicted
  ports : KindIdentified PortRecord.key (fun record => .forPort record.key)
    (builder.normalisedPorts runtime) snapshot.ports snapshot.conflicted
  spans : KindIdentified SpanRecord.id (fun record => .forSpan record.id)
    (builder.normalisedSpans runtime) snapshot.spans snapshot.conflicted
  crossConnects : KindIdentified CrossConnectRecord.id
    (fun record => .forCrossConnect record.id)
    (builder.normalisedCrossConnects runtime) snapshot.crossConnects
    snapshot.conflicted
  profiles : KindIdentified ReachProfile.id
    (fun record => .forReachProfile record.id) builder.profiles.records
    snapshot.reachProfiles snapshot.conflicted

/-- Ports that share their text agree on whether their records differ. -/
def PortTextsAgree : Prop :=
  ∀ first ∈ builder.normalisedPorts runtime,
    ∀ second ∈ builder.normalisedPorts runtime,
      first.key.canonicalText = second.key.canonicalText →
        Disagree PortRecord.key (builder.normalisedPorts runtime) first.key →
          Disagree PortRecord.key (builder.normalisedPorts runtime) second.key

/-- What the sealed records of a builder are. -/
theorem finished_records :
    (builder.finished runtime).nodes = (builder.collapsedNodes runtime).1 ∧
      (builder.finished runtime).ports = (builder.collapsedPorts runtime).1 ∧
      (builder.finished runtime).spans = (builder.collapsedSpans runtime).1 ∧
      (builder.finished runtime).crossConnects =
        (builder.collapsedCrossConnects runtime).1 ∧
      (builder.finished runtime).reachProfiles =
        (builder.collapsedProfiles runtime).1 := by
  change (builder.sortedRecords runtime).nodes = _ ∧
    (builder.sortedRecords runtime).ports = _ ∧
    (builder.sortedRecords runtime).spans = _ ∧
    (builder.sortedRecords runtime).crossConnects = _ ∧
    (builder.sortedRecords runtime).profiles = _
  rw [sortedRecords_eq]
  exact ⟨rfl, rfl, rfl, rfl, rfl⟩

theorem finished_identified_iff :
    builder.Identified runtime (builder.finished runtime) ↔
      Grouped SpanRecord.place SpanRecord.id
          (builder.normalisedSpans runtime) ∧
        Grouped CrossConnectRecord.place CrossConnectRecord.id
          (builder.normalisedCrossConnects runtime) ∧
        builder.PortTextsAgree runtime := by
  obtain ⟨nodes, ports, spans, crossConnects, profiles⟩ :=
    builder.finished_records runtime
  constructor
  · intro identified
    refine ⟨?_, ?_, ?_⟩
    · have unique := identified.spans.unique
      rw [spans] at unique
      exact (unique_collapse_sortBy_iff runtime.routine
        fun _ _ => SpanRecord.id_of_place).mp unique
    · have unique := identified.crossConnects.unique
      rw [crossConnects] at unique
      exact (unique_collapse_sortBy_iff runtime.routine
        fun _ _ => CrossConnectRecord.id_of_place).mp unique
    · intro first inFirst second inSecond sameText disagree
      have reported := (identified.ports.conflicted_iff first inFirst).mpr disagree
      refine (identified.ports.conflicted_iff second inSecond).mp ?_
      have sameResource :
          ResourceKey.forPort second.key = ResourceKey.forPort first.key :=
        congrArg (ResourceKey.mk .port) sameText.symm
      simp only [sameResource]
      exact reported
  · rintro ⟨groupedSpans, groupedCrossConnects, textsAgree⟩
    refine ⟨?_, ?_, ?_, ?_, ?_⟩
    · rw [nodes]
      exact ⟨(unique_collapse_sortBy_iff _ fun _ _ same => same).mpr
        (grouped_by_key _), fun _ => present_collapse_sortBy _,
        fun _ _ => builder.forNode_mem_conflicted_iff runtime⟩
    · rw [ports]
      refine ⟨(unique_collapse_sortBy_iff _ fun _ _ same => same).mpr
        (grouped_by_key _), fun _ => present_collapse_sortBy _, ?_⟩
      intro record member
      rw [builder.forPort_mem_conflicted_iff runtime]
      constructor
      · rintro ⟨other, sameText, disagree⟩
        have named := disagree
        obtain ⟨first, inFirst, _, _, rfl, _⟩ := named
        exact textsAgree first inFirst record member sameText disagree
      · intro disagree
        exact ⟨_, rfl, disagree⟩
    · rw [spans]
      exact ⟨(unique_collapse_sortBy_iff _
        fun _ _ => SpanRecord.id_of_place).mpr groupedSpans,
        fun _ => present_collapse_sortBy _, fun _ _ =>
          (builder.forSpan_mem_conflicted_iff runtime).trans
            groupedSpans.disagreeInRun_iff⟩
    · rw [crossConnects]
      exact ⟨(unique_collapse_sortBy_iff _
        fun _ _ => CrossConnectRecord.id_of_place).mpr groupedCrossConnects,
        fun _ => present_collapse_sortBy _, fun _ _ =>
          (builder.forCrossConnect_mem_conflicted_iff runtime).trans
            groupedCrossConnects.disagreeInRun_iff⟩
    · rw [profiles]
      exact ⟨(unique_collapse_sortBy_iff _ fun _ _ same => same).mpr
        (grouped_by_key _), fun _ => present_collapse_sortBy _,
        fun _ _ => builder.forReachProfile_mem_conflicted_iff runtime⟩

theorem grouped_normalisedSpans_iff :
    Grouped SpanRecord.place SpanRecord.id (builder.normalisedSpans runtime) ↔
      Grouped SpanRecord.place SpanRecord.id builder.spans.records := by
  simp only [Grouped, normalisedSpans, List.forall_mem_map]
  rfl

theorem grouped_normalisedCrossConnects_iff :
    Grouped CrossConnectRecord.place CrossConnectRecord.id
        (builder.normalisedCrossConnects runtime) ↔
      Grouped CrossConnectRecord.place CrossConnectRecord.id
        builder.crossConnects.records := by
  simp only [Grouped, normalisedCrossConnects, List.forall_mem_map]
  rfl

end SnapshotBuilder

/-- Identities survive sealing exactly when no record of another identity
sorts between two spans, or between two cross-connects, of one identity, and
ports that share their text agree on whether their records differ. -/
theorem build_identified_iff (builder : SnapshotBuilder K)
    (snapshot : TopologySnapshot K)
    (built : builder.build runtime = .ok snapshot) :
    builder.Identified runtime snapshot ↔
      Grouped SpanRecord.place SpanRecord.id builder.spans.records ∧
        Grouped CrossConnectRecord.place CrossConnectRecord.id
          builder.crossConnects.records ∧
        builder.PortTextsAgree runtime := by
  obtain rfl := SnapshotBuilder.eq_finished built
  rw [builder.finished_identified_iff runtime,
    builder.grouped_normalisedSpans_iff runtime,
    builder.grouped_normalisedCrossConnects_iff runtime]

end Sealed

/-- A span that was published twice, with another one between. -/
def splitSpan : SnapshotBuilder ℚ :=
  (SnapshotBuilder.new ⟨text "split"⟩ 1 {} {}).submitAll [
    .source { id := ⟨text "nms"⟩ },
    .node (.published "a"), .node (.published "b"),
    .port (.published (.of "a" "1") "line"),
    .port (.published (.of "b" "1") "line"),
    .port (.published (.of "b" "2") "line"),
    .port (.published (.of "b" "3") "line"),
    .span (.published "s" (.of "a" "1") (.of "b" "1") 80000 20 30),
    .span (.published "t" (.of "a" "1") (.of "b" "2") 80000 20 30),
    .span (.published "s" (.of "a" "1") (.of "b" "3") 80000 20 30)]

theorem splitSpan_built : splitSpan.build rationalRuntime =
    .ok (splitSpan.finished rationalRuntime) :=
  SnapshotBuilder.build_eq_ok (by decide +kernel)

theorem build_identified_iff_splitSpan :
    splitSpan.Identified rationalRuntime (splitSpan.finished rationalRuntime) ↔
      Grouped SpanRecord.place SpanRecord.id splitSpan.spans.records ∧
        Grouped CrossConnectRecord.place CrossConnectRecord.id
          splitSpan.crossConnects.records ∧
        splitSpan.PortTextsAgree rationalRuntime :=
  build_identified_iff rationalRuntime splitSpan _ splitSpan_built

/-- The second span of that name stays, and nothing is reported. -/
theorem splitSpan_not_identified :
    ∃ snapshot, splitSpan.build rationalRuntime = .ok snapshot ∧
      ¬ splitSpan.Identified rationalRuntime snapshot := by
  refine ⟨_, splitSpan_built, fun identified => ?_⟩
  have unique := identified.spans.unique
  revert unique
  decide +kernel

end OpticalPathPlanner
