import OpticalPathPlanner.SnapshotIdentity

/-!
# The order in which records are added

A snapshot is sealed from records that were added in some order and sorted by
some routine.  Everything but the canonical text, and with it the digest, is
the same for every order.  The text is the same when the records that compete
for one place are spelled alike, because the routine decides which of them is
kept.
-/

namespace OpticalPathPlanner

open SortedRanges

variable {K : Type}

/-! ### Values that do not depend on the routine -/

section Values

variable {α : Type} [LinearOrder α]

theorem sortValues_eq_of_perm (routine other : SortRoutine)
    {values others : List α} (perm : values.Perm others) :
    routine.sortValues values = other.sortValues others :=
  List.Perm.eq_of_pairwise' (r := (· ≤ ·)) (routine.sortValues_sorted values)
    (other.sortValues_sorted others)
    (((routine.sortBy_perm _ values).trans perm).trans
      (other.sortBy_perm _ others).symm)

/-- A sorted list without equal neighbours is strictly increasing. -/
theorem increasing_of_isChain_ne {values : List α}
    (sorted : values.Pairwise (· ≤ ·)) (chain : values.IsChain (· ≠ ·)) :
    values.Pairwise (· < ·) := by
  induction values with
  | nil => exact .nil
  | cons first rest ih =>
      obtain ⟨below, restSorted⟩ := List.pairwise_cons.mp sorted
      have restIncreasing := ih restSorted chain.tail
      refine List.pairwise_cons.mpr ⟨?_, restIncreasing⟩
      cases rest with
      | nil => simp
      | cons second rest =>
          have firstLt : first < second :=
            lt_of_le_of_ne (below second (List.mem_cons_self ..))
              (List.isChain_cons_cons.mp chain).1
          intro value member
          rcases List.mem_cons.mp member with rfl | later
          · exact firstLt
          · exact firstLt.trans ((List.pairwise_cons.mp restIncreasing).1 value later)

variable [DecidableEq α]

theorem increasing_destutter {values : List α}
    (sorted : values.Pairwise (· ≤ ·)) :
    (values.destutter (· ≠ ·)).Pairwise (· < ·) :=
  increasing_of_isChain_ne
    (sorted.sublist (List.destutter_sublist (· ≠ ·) values))
    (List.isChain_destutter (R := (· ≠ ·)) values)

/-- Two sorted sets with the same members are the same list. -/
theorem destutter_sortValues_eq (routine other : SortRoutine)
    {values others : List α}
    (same : ∀ value, value ∈ values ↔ value ∈ others) :
    (routine.sortValues values).destutter (· ≠ ·) =
      (other.sortValues others).destutter (· ≠ ·) := by
  have first := increasing_destutter (routine.sortValues_sorted values)
  have second := increasing_destutter (other.sortValues_sorted others)
  refine List.Perm.eq_of_pairwise' (r := (· < ·)) first second ?_
  refine (List.perm_ext_iff_of_nodup (first.imp ne_of_lt)
    (second.imp ne_of_lt)).mpr fun value => ?_
  rw [mem_destutter_iff, mem_destutter_iff, routine.mem_sortValues,
    other.mem_sortValues, same]

theorem all_eq_of_mem_iff {β : Type} {values others : List β} (test : β → Bool)
    (same : ∀ value, value ∈ values ↔ value ∈ others) :
    values.all test = others.all test := by
  rw [Bool.eq_iff_iff, List.all_eq_true, List.all_eq_true]
  simp only [same]

end Values

/-! ### Builders with the same records -/

namespace SnapshotBuilder

/-- The same records, added in another order. -/
structure SameRecords (first second : SnapshotBuilder K) : Prop where
  id : first.id = second.id
  generation : first.generation = second.generation
  spectrum : first.spectrum = second.spectrum
  options : first.options = second.options
  built : first.built = second.built
  sources : first.sources.records.Perm second.sources.records
  nodes : first.nodes.records.Perm second.nodes.records
  ports : first.ports.records.Perm second.ports.records
  spans : first.spans.records.Perm second.spans.records
  crossConnects :
    first.crossConnects.records.Perm second.crossConnects.records
  profiles : first.profiles.records.Perm second.profiles.records

theorem SameRecords.refl (builder : SnapshotBuilder K) :
    builder.SameRecords builder :=
  ⟨rfl, rfl, rfl, rfl, rfl, .refl _, .refl _, .refl _, .refl _, .refl _, .refl _⟩

end SnapshotBuilder

section Routines

variable [Field K] [LinearOrder K] (runtime : Runtime K)

/-- The same library with another sorting routine. -/
def Runtime.withRoutine (routine : SortRoutine) : Runtime K :=
  { runtime with routine := routine }

@[simp]
theorem Runtime.withRoutine_routine (routine : SortRoutine) :
    (runtime.withRoutine routine).routine = routine :=
  rfl

@[simp]
theorem Runtime.withRoutine_formatDouble (routine : SortRoutine) :
    (runtime.withRoutine routine).formatDouble = runtime.formatDouble :=
  rfl

/-- Two builds that a caller cannot tell apart. -/
inductive SameBuild :
    Except Status (TopologySnapshot K) → Except Status (TopologySnapshot K) →
      Prop
  | failed (first second : Status) : SameBuild (.error first) (.error second)
  | sealed {first second : TopologySnapshot K}
      (text : snapshotToText runtime.formatDouble first =
        snapshotToText runtime.formatDouble second)
      (digest : first.digest = second.digest)
      (conflicted : first.conflicted = second.conflicted)
      (unresolved : first.unresolved = second.unresolved)
      (coverage : first.coverageComplete = second.coverageComplete) :
      SameBuild (.ok first) (.ok second)

namespace SnapshotBuilder

variable (builder : SnapshotBuilder K)

/-- Whatever the order of the records and the routine, the same is built. -/
def OrderIndependent : Prop :=
  ∀ other : SnapshotBuilder K, builder.SameRecords other →
    ∀ routine otherRoutine : SortRoutine,
      SameBuild runtime (builder.build (runtime.withRoutine routine))
        (other.build (runtime.withRoutine otherRoutine))

/-- Records that compete for a place in the snapshot are spelled alike. -/
structure CompetitorsAgree : Prop where
  nodes : TiesAgree NodeRecord.id NodeRecord.id nodeLine
    (builder.normalisedNodes runtime)
  ports : TiesAgree PortRecord.key PortRecord.key portLine
    (builder.normalisedPorts runtime)
  spans : TiesAgree SpanRecord.place SpanRecord.id
    (spanLine runtime.formatDouble) (builder.normalisedSpans runtime)
  crossConnects : TiesAgree CrossConnectRecord.place CrossConnectRecord.id
    crossConnectLine (builder.normalisedCrossConnects runtime)
  profiles : TiesAgree ReachProfile.id ReachProfile.id
    (profileLine runtime.formatDouble) builder.profiles.records

end SnapshotBuilder

variable (routine : SortRoutine)

theorem normaliseDomainList_withRoutine (domains : List FailureDomainId) :
    normaliseDomainList (runtime.withRoutine routine) domains =
      normaliseDomainList runtime domains := by
  unfold normaliseDomainList
  rw [sortValues_eq_of_perm (runtime.withRoutine routine).routine
    runtime.routine (.refl _)]

namespace SnapshotBuilder

variable (builder : SnapshotBuilder K)

@[simp]
theorem normalisedNodes_withRoutine :
    builder.normalisedNodes (runtime.withRoutine routine) =
      builder.normalisedNodes runtime := by
  simp only [normalisedNodes, normaliseDomainList_withRoutine]

@[simp]
theorem normalisedPorts_withRoutine :
    builder.normalisedPorts (runtime.withRoutine routine) =
      builder.normalisedPorts runtime := by
  simp only [normalisedPorts, normaliseDomainList_withRoutine]

@[simp]
theorem normalisedSpans_withRoutine :
    builder.normalisedSpans (runtime.withRoutine routine) =
      builder.normalisedSpans runtime := by
  simp only [normalisedSpans, normaliseDomainList_withRoutine]

@[simp]
theorem normalisedCrossConnects_withRoutine :
    builder.normalisedCrossConnects (runtime.withRoutine routine) =
      builder.normalisedCrossConnects runtime := by
  simp only [normalisedCrossConnects, normaliseDomainList_withRoutine]

variable {runtime builder} {other : SnapshotBuilder K}
  (same : builder.SameRecords other)

include same

theorem SameRecords.normalisedNodes :
    (builder.normalisedNodes runtime).Perm (other.normalisedNodes runtime) :=
  same.nodes.map _

theorem SameRecords.normalisedPorts :
    (builder.normalisedPorts runtime).Perm (other.normalisedPorts runtime) :=
  same.ports.map _

theorem SameRecords.normalisedSpans :
    (builder.normalisedSpans runtime).Perm (other.normalisedSpans runtime) :=
  same.spans.map _

theorem SameRecords.normalisedCrossConnects :
    (builder.normalisedCrossConnects runtime).Perm
      (other.normalisedCrossConnects runtime) :=
  same.crossConnects.map _

end SnapshotBuilder

end Routines

/-! ### What follows from the places alone -/

theorem map_eq_of_forall₂ {α β : Type} {image : α → β} {firsts seconds : List α}
    (related : List.Forall₂ (fun first second => image first = image second)
      firsts seconds) : firsts.map image = seconds.map image := by
  induction related with
  | nil => rfl
  | cons same _ ih => rw [List.map_cons, List.map_cons, same, ih]

theorem findByKey_map {α κ : Type} [LinearOrder κ] (key : α → κ)
    (range : List α) (value : κ) :
    findByKey key range value =
      findByKey (fun key => key) (range.map key) value := by
  simp only [findByKey, lowerBound, List.findIdx_map, List.getElem?_map]
  have same : (fun element => !decide (key element < value)) =
      (fun key => !decide (key < value)) ∘ key := rfl
  rw [same]
  cases range[range.findIdx _]? <;> rfl

namespace SortedRecords

/-- The same identities in the same places. -/
structure SameShape (first second : SortedRecords K) : Prop where
  sources : first.sources.map SourceRecord.id =
    second.sources.map SourceRecord.id
  nodes : first.nodes.map NodeRecord.id = second.nodes.map NodeRecord.id
  ports : first.ports.map PortRecord.key = second.ports.map PortRecord.key
  spans : first.spans.map SpanRecord.place = second.spans.map SpanRecord.place
  crossConnects : first.crossConnects.map CrossConnectRecord.place =
    second.crossConnects.map CrossConnectRecord.place

namespace SameShape

variable {first second : SortedRecords K} (shape : first.SameShape second)

include shape

theorem portIndexOf (key : PortKey) :
    first.portIndexOf key = second.portIndexOf key := by
  unfold SortedRecords.portIndexOf
  rw [findByKey_map, findByKey_map PortRecord.key, shape.ports]

theorem nodeIndexOf (id : NodeId) :
    first.nodeIndexOf id = second.nodeIndexOf id := by
  unfold SortedRecords.nodeIndexOf
  rw [findByKey_map, findByKey_map NodeRecord.id, shape.nodes]

theorem unresolvedEnds (fromPort toPort : PortKey) :
    first.unresolvedEnds fromPort toPort =
      second.unresolvedEnds fromPort toPort := by
  simp only [SortedRecords.unresolvedEnds, shape.portIndexOf]

omit shape in
/-- The notes at ports depend on the keys of the ports only. -/
private theorem nodeNotes_eq_of_keys (known records : SortedRecords K) :
    (records.ports.zipIdx.flatMap fun entry =>
      if (known.nodeIndexOf entry.1.key.node).isNone then
        [(ResourceKey.forNode entry.1.key.node, some entry.2)] else []) =
    (records.ports.map PortRecord.key).zipIdx.flatMap fun entry =>
      if (known.nodeIndexOf entry.1.node).isNone then
        [(ResourceKey.forNode entry.1.node, some entry.2)] else [] := by
  rw [List.zipIdx_map, List.flatMap_map]
  rfl

theorem unresolvedNotes : first.unresolvedNotes = second.unresolvedNotes := by
  have atSpans (records : SortedRecords K) :
      (records.spans.flatMap fun span =>
        second.unresolvedEnds span.fromPort span.toPort) =
      (records.spans.map SpanRecord.place).flatMap fun place =>
        second.unresolvedEnds (ofLex place).1 (ofLex (ofLex place).2).1 := by
    rw [List.flatMap_map]
    rfl
  have atCrossConnects (records : SortedRecords K) :
      (records.crossConnects.flatMap fun record =>
        second.unresolvedEnds record.fromPort record.toPort) =
      (records.crossConnects.map CrossConnectRecord.place).flatMap fun place =>
        second.unresolvedEnds (ofLex place).1 (ofLex (ofLex place).2).1 := by
    rw [List.flatMap_map]
    rfl
  unfold SortedRecords.unresolvedNotes
  simp only [shape.nodeIndexOf, shape.unresolvedEnds]
  rw [nodeNotes_eq_of_keys second first, nodeNotes_eq_of_keys second second,
    atSpans first, atSpans second,
    atCrossConnects first, atCrossConnects second, shape.ports, shape.spans,
    shape.crossConnects]

theorem selfLoop_iff :
    ((∃ span ∈ first.spans, span.fromPort = span.toPort) ↔
      ∃ span ∈ second.spans, span.fromPort = span.toPort) ∧
    ((∃ record ∈ first.crossConnects, record.fromPort = record.toPort) ↔
      ∃ record ∈ second.crossConnects, record.fromPort = record.toPort) := by
  have spans (records : SortedRecords K) :
      (∃ span ∈ records.spans, span.fromPort = span.toPort) ↔
        ∃ place ∈ records.spans.map SpanRecord.place,
          (ofLex place).1 = (ofLex (ofLex place).2).1 := by
    simp only [List.mem_map, exists_exists_and_eq_and]
    rfl
  have crossConnects (records : SortedRecords K) :
      (∃ record ∈ records.crossConnects, record.fromPort = record.toPort) ↔
        ∃ place ∈ records.crossConnects.map CrossConnectRecord.place,
          (ofLex place).1 = (ofLex (ofLex place).2).1 := by
    simp only [List.mem_map, exists_exists_and_eq_and]
    rfl
  rw [spans, spans second, crossConnects, crossConnects second, shape.spans,
    shape.crossConnects]
  exact ⟨Iff.rfl, Iff.rfl⟩

theorem sourceStatus_failed_iff :
    (sourceStatus first.sources).failed = (sourceStatus second.sources).failed := by
  have byIds {firsts seconds : List SourceRecord}
      (ids : firsts.map SourceRecord.id = seconds.map SourceRecord.id) :
      (duplicateSource firsts).isSome = (duplicateSource seconds).isSome := by
    induction firsts generalizing seconds with
    | nil =>
        cases seconds with
        | nil => rfl
        | cons head rest => cases ids
    | cons head rest ih =>
        cases seconds with
        | nil => cases ids
        | cons other others =>
            obtain ⟨headSame, restSame⟩ := List.cons.inj ids
            cases rest with
            | nil =>
                cases others with
                | nil => rfl
                | cons next others => cases restSame
            | cons second rest =>
                cases others with
                | nil => cases restSame
                | cons next others =>
                    have secondSame := (List.cons.inj restSame).1
                    simp only [duplicateSource]
                    rw [headSame, secondSame]
                    split_ifs
                    · rfl
                    · exact ih restSame
  have failed (sources : List SourceRecord) :
      (sourceStatus sources).failed = (duplicateSource sources).isSome := by
    unfold sourceStatus
    cases duplicateSource sources <;> rfl
  rw [failed, failed, byIds shape.sources]

end SameShape

end SortedRecords

/-! ### Refusal -/

section Builds

variable [Field K] [LinearOrder K] {runtime : Runtime K}
  {builder other : SnapshotBuilder K}

namespace SnapshotBuilder

omit [Field K] [LinearOrder K] in
theorem selfLoopStatus_failed_iff {records : SortedRecords K} :
    (builder.selfLoopStatus records).failed = false ↔
      (builder.options.rejectSelfLoops = true →
        (¬ ∃ span ∈ records.spans, span.fromPort = span.toPort) ∧
        ¬ ∃ record ∈ records.crossConnects,
          record.fromPort = record.toPort) := by
  unfold selfLoopStatus
  cases builder.options.rejectSelfLoops with
  | false => simp [Status.failed, okStatus]
  | true =>
      simp only [not_true_eq_false, if_false, true_imp_iff]
      cases spans : records.spans.find?
          fun span => decide (span.fromPort = span.toPort) with
      | some span =>
          have found := List.find?_some spans
          have member := List.mem_of_find?_eq_some spans
          simp only [decide_eq_true_eq] at found
          simp only [failure, Status.failed]
          refine iff_of_false (by simp) fun none_ => none_.1 ⟨span, member, found⟩
      | none =>
          have noSpan : ¬ ∃ span ∈ records.spans,
              span.fromPort = span.toPort := by
            simpa using spans
          cases crossConnects : records.crossConnects.find?
              fun record => decide (record.fromPort = record.toPort) with
          | some record =>
              have found := List.find?_some crossConnects
              have member := List.mem_of_find?_eq_some crossConnects
              simp only [decide_eq_true_eq] at found
              simp only [failure, Status.failed]
              refine iff_of_false (by simp)
                fun none_ => none_.2 ⟨record, member, found⟩
          | none => exact iff_of_true rfl ⟨noSpan, by simpa using crossConnects⟩

omit [Field K] [LinearOrder K] in
theorem unresolvedStatus_failed_iff {records : SortedRecords K} :
    (builder.unresolvedStatus records).failed = false ↔
      (builder.options.allowUnresolvedReferences = false →
        records.unresolvedNotes = []) := by
  unfold unresolvedStatus
  cases builder.options.allowUnresolvedReferences with
  | true => simp [Status.failed, okStatus]
  | false =>
      cases records.unresolvedNotes with
      | nil => simp [Status.failed, okStatus]
      | cons note rest => simp [Status.failed, failure]

variable (runtime) in
theorem SameRecords.sameShape (same : builder.SameRecords other)
    (routine otherRoutine : SortRoutine) :
    (builder.sortedRecords (runtime.withRoutine routine)).SameShape
      (other.sortedRecords (runtime.withRoutine otherRoutine)) := by
  rw [sortedRecords_eq, sortedRecords_eq]
  constructor
  · exact map_eq_of_forall₂ (forall₂_sortBy routine otherRoutine same.sources)
  all_goals simp only [collapsedNodes, collapsedPorts, collapsedSpans,
    collapsedCrossConnects, normalisedNodes_withRoutine,
    normalisedPorts_withRoutine, normalisedSpans_withRoutine,
    normalisedCrossConnects_withRoutine]
  · exact map_eq_of_forall₂ (forall₂_kept (fun _ _ equal => equal) routine
      otherRoutine same.normalisedNodes)
  · exact map_eq_of_forall₂ (forall₂_kept (fun _ _ equal => equal) routine
      otherRoutine same.normalisedPorts)
  · exact map_eq_of_forall₂ (forall₂_kept (fun _ _ => SpanRecord.id_of_place)
      routine otherRoutine same.normalisedSpans)
  · exact map_eq_of_forall₂ (forall₂_kept
      (fun _ _ => CrossConnectRecord.id_of_place) routine otherRoutine
      same.normalisedCrossConnects)

variable (runtime) in
/-- The order of the records does not decide whether they are refused. -/
theorem SameRecords.buildStatus_failed (same : builder.SameRecords other)
    (routine otherRoutine : SortRoutine) :
    (builder.buildStatus (runtime.withRoutine routine)
        (builder.sortedRecords (runtime.withRoutine routine))).failed =
      (other.buildStatus (runtime.withRoutine otherRoutine)
        (other.sortedRecords (runtime.withRoutine otherRoutine))).failed := by
  have shape := same.sameShape runtime routine otherRoutine
  have accepted : (builder.buildStatus (runtime.withRoutine routine)
        (builder.sortedRecords (runtime.withRoutine routine))).failed = false ↔
      (other.buildStatus (runtime.withRoutine otherRoutine)
        (other.sortedRecords
          (runtime.withRoutine otherRoutine))).failed = false := by
    simp only [buildStatus, firstFailure_failed_iff, List.forall_mem_append,
      List.forall_mem_map, List.forall_mem_cons, domainStatus,
      normaliseDomainList_withRoutine, selfLoopStatus_failed_iff,
      unresolvedStatus_failed_iff, shape.unresolvedNotes, shape.selfLoop_iff.1,
      shape.selfLoop_iff.2, shape.sourceStatus_failed_iff, same.built,
      same.spectrum, same.options, same.nodes.mem_iff, same.ports.mem_iff,
      same.spans.mem_iff, same.crossConnects.mem_iff, same.profiles.mem_iff]
  cases first : (builder.buildStatus (runtime.withRoutine routine)
      (builder.sortedRecords (runtime.withRoutine routine))).failed with
  | false => exact (accepted.mp first).symm
  | true =>
      cases second : (other.buildStatus (runtime.withRoutine otherRoutine)
          (other.sortedRecords (runtime.withRoutine otherRoutine))).failed with
      | false => exact (first.symm.trans (accepted.mpr second))
      | true => rfl

/-! ### Reports -/

theorem reports_congr {Record Key Place : Type} [DecidableEq Record]
    [DecidableEq Key] [LinearOrder Place] {placeOf : Record → Place}
    {keyOf : Record → Key} {records others : List Record}
    (factors : ∀ first second,
      placeOf first = placeOf second → keyOf first = keyOf second)
    (perm : records.Perm others) (routine otherRoutine : SortRoutine)
    (resourceOf : Key → ResourceKey) (resource : ResourceKey) :
    (∃ record ∈ (collapse keyOf none (routine.sortBy placeOf records)).2,
        resourceOf (keyOf record) = resource) ↔
      ∃ record ∈ (collapse keyOf none (otherRoutine.sortBy placeOf others)).2,
        resourceOf (keyOf record) = resource := by
  rw [exists_conflict_iff routine factors, exists_conflict_iff otherRoutine factors]
  refine exists_congr fun key => and_congr_left fun _ => ?_
  exact DisagreeInRun.congr fun record => perm.mem_iff

variable (runtime) in
theorem SameRecords.mem_conflictReports_iff (same : builder.SameRecords other)
    (routine otherRoutine : SortRoutine) (resource : ResourceKey) :
    resource ∈ builder.conflictReports (runtime.withRoutine routine) ↔
      resource ∈ other.conflictReports (runtime.withRoutine otherRoutine) := by
  rw [SnapshotBuilder.mem_conflictReports_iff,
    SnapshotBuilder.mem_conflictReports_iff]
  simp only [collapsedNodes, collapsedPorts, collapsedSpans,
    collapsedCrossConnects, collapsedProfiles, normalisedNodes_withRoutine,
    normalisedPorts_withRoutine, normalisedSpans_withRoutine,
    normalisedCrossConnects_withRoutine]
  refine or_congr (reports_congr (fun _ _ equal => equal) same.normalisedNodes
    routine otherRoutine ResourceKey.forNode resource) ?_
  refine or_congr (reports_congr (fun _ _ equal => equal) same.normalisedPorts
    routine otherRoutine ResourceKey.forPort resource) ?_
  refine or_congr (reports_congr (fun _ _ => SpanRecord.id_of_place)
    same.normalisedSpans routine otherRoutine ResourceKey.forSpan resource) ?_
  refine or_congr (reports_congr (fun _ _ => CrossConnectRecord.id_of_place)
    same.normalisedCrossConnects routine otherRoutine
    ResourceKey.forCrossConnect resource) ?_
  exact reports_congr (fun _ _ equal => equal) same.profiles routine otherRoutine
    ResourceKey.forReachProfile resource

variable (runtime) in
theorem SameRecords.conflicted (same : builder.SameRecords other)
    (routine otherRoutine : SortRoutine) :
    (builder.sortedRecords (runtime.withRoutine routine)).conflicted =
      (other.sortedRecords (runtime.withRoutine otherRoutine)).conflicted := by
  rw [sortedRecords_eq, sortedRecords_eq]
  exact destutter_sortValues_eq (runtime.withRoutine routine).routine
    (runtime.withRoutine otherRoutine).routine
    (same.mem_conflictReports_iff runtime routine otherRoutine)

/-- Without a report every node that was added is kept as it was. -/
theorem mem_nodes_of_no_conflict
    (none_ : (builder.sortedRecords runtime).conflicted = [])
    {node : NodeRecord} :
    node ∈ (builder.sortedRecords runtime).nodes ↔
      node ∈ builder.normalisedNodes runtime := by
  rw [sortedRecords_eq]
  constructor
  · intro kept
    exact (runtime.routine.mem_sortBy _ _ _).mp (mem_of_mem_collapse kept)
  · intro added
    obtain ⟨kept, isKept, sameId⟩ : ∃ other ∈ (builder.collapsedNodes runtime).1,
        other.id = node.id := present_collapse_sortBy runtime.routine added
    by_cases equal : kept = node
    · exact equal ▸ isKept
    · have reported : ResourceKey.forNode node.id ∈
          (builder.finished runtime).conflicted := by
        refine (builder.forNode_mem_conflicted_iff runtime).mpr
          ⟨kept, ?_, node, added, sameId, rfl, equal⟩
        exact (runtime.routine.mem_sortBy _ _ _).mp (mem_of_mem_collapse isKept)
      have conflicted : (builder.finished runtime).conflicted = [] := none_
      rw [conflicted] at reported
      cases reported

variable (runtime) in
theorem SameRecords.coverageComplete (same : builder.SameRecords other)
    (routine otherRoutine : SortRoutine) :
    (builder.sortedRecords (runtime.withRoutine routine)).coverageComplete =
      (other.sortedRecords
        (runtime.withRoutine otherRoutine)).coverageComplete := by
  have shape := same.sameShape runtime routine otherRoutine
  have conflicted := same.conflicted runtime routine otherRoutine
  have sources : ∀ source : SourceRecord,
      source ∈ (builder.sortedRecords (runtime.withRoutine routine)).sources ↔
        source ∈ (other.sortedRecords
          (runtime.withRoutine otherRoutine)).sources := by
    intro source
    rw [sortedRecords_eq, sortedRecords_eq]
    simp only [SortRoutine.mem_sortBy]
    exact same.sources.mem_iff
  unfold SortedRecords.coverageComplete
  rw [shape.unresolvedNotes, conflicted, all_eq_of_mem_iff _ sources]
  cases reports : (other.sortedRecords
      (runtime.withRoutine otherRoutine)).conflicted with
  | cons resource rest => simp
  | nil =>
      congr 1
      refine all_eq_of_mem_iff _ fun node => ?_
      rw [mem_nodes_of_no_conflict (conflicted.trans reports),
        mem_nodes_of_no_conflict reports, normalisedNodes_withRoutine,
        normalisedNodes_withRoutine]
      exact same.normalisedNodes.mem_iff

/-! ### The text -/

variable (runtime) in
theorem SameRecords.sources_eq (same : builder.SameRecords other)
    (routine otherRoutine : SortRoutine)
    (accepted : (builder.buildStatus (runtime.withRoutine routine)
      (builder.sortedRecords (runtime.withRoutine routine))).failed = false) :
    routine.sortBy SourceRecord.id builder.sources.records =
      otherRoutine.sortBy SourceRecord.id other.sources.records := by
  have increasing : (routine.sortBy SourceRecord.id
      builder.sources.records).Pairwise fun first second =>
        first.id < second.id :=
    (finished_wellFormed accepted).sources
  have otherIncreasing : (otherRoutine.sortBy SourceRecord.id
      other.sources.records).Pairwise fun first second =>
        first.id < second.id := by
    rw [same.buildStatus_failed runtime routine otherRoutine] at accepted
    exact (finished_wellFormed accepted).sources
  refine List.Perm.eq_of_pairwise ?_ increasing otherIncreasing
    (((routine.sortBy_perm _ _).trans same.sources).trans
      (otherRoutine.sortBy_perm _ _).symm)
  intro first second _ _ below above
  exact (lt_asymm below above).elim

variable (builder) in
/-- The lines that are not about deduplicated records. -/
def headerLines (routine : SortRoutine) : Bytes :=
  text "OPP-SNAPSHOT 1\n" ++
    (LineAssembler.ofRecord "id" |>.add builder.id.str |>.emit) ++
    (LineAssembler.ofRecord "generation"
      |>.addU64 builder.generation.toNat |>.emit) ++
    (LineAssembler.ofRecord "grid"
      |>.add builder.spectrum.grid.name |>.emit) ++
    (LineAssembler.ofRecord "slots"
      |>.addU64 builder.spectrum.slotCount |>.emit) ++
    (routine.sortBy SourceRecord.id builder.sources.records).flatMap sourceLine

variable (runtime builder) in
/-- The canonical text in terms of what is kept of each kind. -/
theorem snapshotToText_withRoutine (routine : SortRoutine) :
    snapshotToText runtime.formatDouble
        (builder.finished (runtime.withRoutine routine)) =
      builder.headerLines routine ++
        keptLines ReachProfile.id ReachProfile.id routine
          (profileLine runtime.formatDouble) builder.profiles.records ++
        keptLines NodeRecord.id NodeRecord.id routine nodeLine
          (builder.normalisedNodes runtime) ++
        keptLines PortRecord.key PortRecord.key routine portLine
          (builder.normalisedPorts runtime) ++
        keptLines SpanRecord.place SpanRecord.id routine
          (spanLine runtime.formatDouble) (builder.normalisedSpans runtime) ++
        keptLines CrossConnectRecord.place CrossConnectRecord.id routine
          crossConnectLine (builder.normalisedCrossConnects runtime) := by
  obtain ⟨nodes, ports, spans, crossConnects, profiles⟩ :=
    builder.finished_records (runtime.withRoutine routine)
  unfold snapshotToText
  rw [nodes, ports, spans, crossConnects, profiles]
  simp only [collapsedNodes, collapsedPorts, collapsedSpans,
    collapsedCrossConnects, normalisedNodes_withRoutine,
    normalisedPorts_withRoutine, normalisedSpans_withRoutine,
    normalisedCrossConnects_withRoutine]
  rfl

theorem SameRecords.snapshotToText_eq (same : builder.SameRecords other)
    (agree : builder.CompetitorsAgree runtime)
    (routine otherRoutine : SortRoutine)
    (accepted : (builder.buildStatus (runtime.withRoutine routine)
      (builder.sortedRecords (runtime.withRoutine routine))).failed = false) :
    snapshotToText runtime.formatDouble
        (builder.finished (runtime.withRoutine routine)) =
      snapshotToText runtime.formatDouble
        (other.finished (runtime.withRoutine otherRoutine)) := by
  have header : builder.headerLines routine = other.headerLines otherRoutine := by
    unfold headerLines
    rw [same.id, same.generation, same.spectrum,
      same.sources_eq runtime routine otherRoutine accepted]
  rw [snapshotToText_withRoutine, snapshotToText_withRoutine, header,
    keptLines_eq_of_perm (fun _ _ equal => equal) routine otherRoutine
      same.profiles agree.profiles,
    keptLines_eq_of_perm (fun _ _ equal => equal) routine otherRoutine
      same.normalisedNodes agree.nodes,
    keptLines_eq_of_perm (fun _ _ equal => equal) routine otherRoutine
      same.normalisedPorts agree.ports,
    keptLines_eq_of_perm (fun _ _ => SpanRecord.id_of_place) routine otherRoutine
      same.normalisedSpans agree.spans,
    keptLines_eq_of_perm (fun _ _ => CrossConnectRecord.id_of_place) routine
      otherRoutine same.normalisedCrossConnects agree.crossConnects]

/-- Records whose competitors agree are sealed alike in every order. -/
theorem SameRecords.sameBuild (same : builder.SameRecords other)
    (agree : builder.CompetitorsAgree runtime)
    (routine otherRoutine : SortRoutine) :
    SameBuild runtime (builder.build (runtime.withRoutine routine))
      (other.build (runtime.withRoutine otherRoutine)) := by
  have status := same.buildStatus_failed runtime routine otherRoutine
  unfold build
  simp only
  cases accepted : (builder.buildStatus (runtime.withRoutine routine)
      (builder.sortedRecords (runtime.withRoutine routine))).failed with
  | true =>
      rw [accepted] at status
      rw [if_pos rfl, if_pos status.symm]
      exact .failed _ _
  | false =>
      rw [accepted] at status
      rw [← status, if_neg Bool.false_ne_true, if_neg Bool.false_ne_true]
      have texts := same.snapshotToText_eq agree routine otherRoutine accepted
      have shape := same.sameShape runtime routine otherRoutine
      refine .sealed texts ?_ (same.conflicted runtime routine otherRoutine) ?_
        (same.coverageComplete runtime routine otherRoutine)
      · exact congrArg (fun bytes => runtime.sha256
          (text "OPP-SNAPSHOT-v1\n" ++ bytes)) texts
      · change (routine.sortValues ((builder.sortedRecords
            (runtime.withRoutine routine)).unresolvedNotes.map
              Prod.fst)).destutter (· ≠ ·) =
          (otherRoutine.sortValues ((other.sortedRecords
            (runtime.withRoutine otherRoutine)).unresolvedNotes.map
              Prod.fst)).destutter (· ≠ ·)
        rw [shape.unresolvedNotes]
        exact destutter_sortValues_eq routine otherRoutine fun _ => Iff.rfl

/-! ### Records that leak their order -/

variable (runtime) in
/-- In an order-independent build all orders have one text. -/
theorem OrderIndependent.texts_eq (independent : builder.OrderIndependent runtime)
    {snapshot : TopologySnapshot K}
    (built : builder.build runtime = .ok snapshot)
    {first second : SnapshotBuilder K} (isFirst : builder.SameRecords first)
    (isSecond : builder.SameRecords second) (routine : SortRoutine) :
    snapshotToText runtime.formatDouble
        (first.finished (runtime.withRoutine routine)) =
      snapshotToText runtime.formatDouble
        (second.finished (runtime.withRoutine routine)) := by
  have base : builder.build (runtime.withRoutine runtime.routine) =
      .ok snapshot := built
  have toOther {next : SnapshotBuilder K} (isNext : builder.SameRecords next) :
      snapshotToText runtime.formatDouble snapshot =
        snapshotToText runtime.formatDouble
          (next.finished (runtime.withRoutine routine)) := by
    have alike := independent next isNext runtime.routine routine
    rw [base] at alike
    cases found : next.build (runtime.withRoutine routine) with
    | error status =>
        rw [found] at alike
        cases alike
    | ok sealed =>
        rw [found] at alike
        rw [eq_finished found]
        cases alike with
        | sealed text => exact text
  exact (toOther isFirst).symm.trans (toOther isSecond)

end SnapshotBuilder

/-- The records of a list in another order. -/
def RecordList.reorder {Record : Type} {named : Record → Bool} {limit : Nat}
    (list : RecordList Record named limit) (order : List Record)
    (perm : order.Perm list.records) : RecordList Record named limit where
  records := order
  all_named record member := list.all_named record (perm.mem_iff.mp member)
  bounded := perm.length_eq ▸ list.bounded

namespace SnapshotBuilder

/-- In an order-independent build competitors agree. -/
theorem OrderIndependent.competitorsAgree
    (independent : builder.OrderIndependent runtime)
    {snapshot : TopologySnapshot K}
    (built : builder.build runtime = .ok snapshot) :
    builder.CompetitorsAgree runtime := by
  -- two orders of one kind leave the text of every other kind as it is
  have sameText {first second : SnapshotBuilder K}
      (isFirst : builder.SameRecords first)
      (isSecond : builder.SameRecords second) :=
    independent.texts_eq runtime built isFirst isSecond .insertion
  simp only [snapshotToText_withRoutine] at sameText
  constructor
  case nodes =>
    by_contra leaks
    obtain ⟨firsts, seconds, firstPerm, secondPerm, differ⟩ :=
      exists_leak (fun _ _ equal => equal) leaks
    have reordered {records : List NodeRecord}
        (perm : records.Perm builder.nodes.records) : builder.SameRecords
          { builder with nodes := builder.nodes.reorder records perm } :=
      ⟨rfl, rfl, rfl, rfl, rfl, .refl _, perm.symm, .refl _, .refl _, .refl _, .refl _⟩
    have texts := sameText (reordered firstPerm) (reordered secondPerm)
    exact differ (List.append_cancel_left (List.append_cancel_right
      (List.append_cancel_right (List.append_cancel_right texts))))
  case ports =>
    by_contra leaks
    obtain ⟨firsts, seconds, firstPerm, secondPerm, differ⟩ :=
      exists_leak (fun _ _ equal => equal) leaks
    have reordered {records : List PortRecord}
        (perm : records.Perm builder.ports.records) : builder.SameRecords
          { builder with ports := builder.ports.reorder records perm } :=
      ⟨rfl, rfl, rfl, rfl, rfl, .refl _, .refl _, perm.symm, .refl _, .refl _, .refl _⟩
    have texts := sameText (reordered firstPerm) (reordered secondPerm)
    exact differ (List.append_cancel_left (List.append_cancel_right
      (List.append_cancel_right texts)))
  case spans =>
    by_contra leaks
    obtain ⟨firsts, seconds, firstPerm, secondPerm, differ⟩ :=
      exists_leak (fun _ _ => SpanRecord.id_of_place) leaks
    have reordered {records : List (SpanRecord K)}
        (perm : records.Perm builder.spans.records) : builder.SameRecords
          { builder with spans := builder.spans.reorder records perm } :=
      ⟨rfl, rfl, rfl, rfl, rfl, .refl _, .refl _, .refl _, perm.symm, .refl _, .refl _⟩
    have texts := sameText (reordered firstPerm) (reordered secondPerm)
    exact differ (List.append_cancel_left (List.append_cancel_right texts))
  case crossConnects =>
    by_contra leaks
    obtain ⟨firsts, seconds, firstPerm, secondPerm, differ⟩ :=
      exists_leak (fun _ _ => CrossConnectRecord.id_of_place) leaks
    have reordered {records : List CrossConnectRecord}
        (perm : records.Perm builder.crossConnects.records) : builder.SameRecords
          { builder with crossConnects := builder.crossConnects.reorder records perm } :=
      ⟨rfl, rfl, rfl, rfl, rfl, .refl _, .refl _, .refl _, .refl _, perm.symm, .refl _⟩
    have texts := sameText (reordered firstPerm) (reordered secondPerm)
    exact differ (List.append_cancel_left texts)
  case profiles =>
    by_contra leaks
    rw [← List.map_id builder.profiles.records] at leaks
    obtain ⟨firsts, seconds, firstPerm, secondPerm, differ⟩ :=
      exists_leak (fun _ _ equal => equal) leaks
    rw [List.map_id, List.map_id] at differ
    have reordered {records : List (ReachProfile K)}
        (perm : records.Perm builder.profiles.records) : builder.SameRecords
          { builder with profiles := builder.profiles.reorder records perm } :=
      ⟨rfl, rfl, rfl, rfl, rfl, .refl _, .refl _, .refl _, .refl _, .refl _, perm.symm⟩
    have texts := sameText (reordered firstPerm) (reordered secondPerm)
    exact differ (List.append_cancel_left (List.append_cancel_right
      (List.append_cancel_right (List.append_cancel_right
        (List.append_cancel_right texts)))))

end SnapshotBuilder

end Builds

section Claim

variable [Field K] [LinearOrder K]

end Claim

/-- Two records of one node that differ in their cost. -/
def twinNodes (first second : UInt64) : SnapshotBuilder ℚ :=
  (SnapshotBuilder.new ⟨text "twin"⟩ 1 {} {}).submitAll [
    .source { id := ⟨text "nms"⟩ },
    .node { NodeRecord.published "a" with transitCost := first },
    .node { NodeRecord.published "a" with transitCost := second }]

end OpticalPathPlanner
