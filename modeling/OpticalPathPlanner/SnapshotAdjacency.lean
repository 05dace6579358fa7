import OpticalPathPlanner.SnapshotInvariants
import Mathlib

/-!
# Lookups and adjacency of a sealed snapshot

The index structures of a snapshot say exactly what its records say: a lookup
finds the record with the key, every arc stands once at the port it leaves,
and the marks for missing ends are where an end is missing.
-/

namespace OpticalPathPlanner

open SortedRanges

variable {K : Type}

/-! ### Lookups in increasing ranges -/

section Lookup

variable {Record Key : Type} [LinearOrder Key] {keyOf : Record → Key}
  {range : List Record}

theorem findByKey_eq_some_iff
    (increasing : range.Pairwise fun first second =>
      keyOf first < keyOf second) {value : Key} {position : Nat} :
    findByKey keyOf range value = some position ↔
      ∃ record, range[position]? = some record ∧ keyOf record = value := by
  refine ⟨getElem?_of_findByKey, ?_⟩
  rintro ⟨record, atPosition, rfl⟩
  exact findByKey_of_getElem? increasing atPosition

theorem findByKey_bind_eq_some_iff
    (increasing : range.Pairwise fun first second =>
      keyOf first < keyOf second) {value : Key} {record : Record} :
    ((findByKey keyOf range value).bind fun index => range[index]?) =
        some record ↔ record ∈ range ∧ keyOf record = value := by
  rw [Option.bind_eq_some_iff]
  constructor
  · rintro ⟨position, found, atPosition⟩
    obtain ⟨other, otherAt, keyEq⟩ := getElem?_of_findByKey found
    rw [atPosition] at otherAt
    cases otherAt
    exact ⟨List.mem_of_getElem? atPosition, keyEq⟩
  · rintro ⟨member, rfl⟩
    obtain ⟨position, atPosition⟩ := List.mem_iff_getElem?.mp member
    exact ⟨position, findByKey_of_getElem? increasing atPosition, atPosition⟩

end Lookup

/-! ### Entries of the adjacency lists -/

section Entries

/-- Rows that every position contributes to under its own index do not
overlap. -/
theorem nodup_flatMap_zipIdx {α β : Type} {records : List α}
    {row : α × Nat → List β} (indexOf : β → Nat)
    (own : ∀ entry, ∀ value ∈ row entry, indexOf value = entry.2)
    (simple : ∀ entry, (row entry).Nodup) :
    (records.zipIdx.flatMap row).Nodup := by
  rw [List.nodup_flatMap]
  refine ⟨fun entry _ => simple entry, ?_⟩
  have apart : records.zipIdx.Pairwise fun first second =>
      first.2 ≠ second.2 :=
    List.pairwise_map.mp (List.nodup_zipIdx_map_snd records)
  refine apart.imp fun {first second} differ value inFirst inSecond => ?_
  exact differ ((own first value inFirst).symm.trans (own second value inSecond))

variable {records : SortedRecords K}

theorem spanArcEntries_nodup : records.spanArcEntries.Nodup := by
  refine nodup_flatMap_zipIdx (fun entry => entry.2.spanIndex) ?_ ?_
  · rintro ⟨span, index⟩ ⟨port, arc⟩ member
    simp only at member
    split at member
    · rcases List.mem_cons.mp member with same | backwards
      · cases same
        rfl
      · split_ifs at backwards
        · cases List.mem_singleton.mp backwards
          rfl
        · cases backwards
    · cases member
  · rintro ⟨span, index⟩
    simp only
    split
    · split_ifs <;> simp
    · exact List.nodup_nil

theorem crossConnectEntries_nodup : records.crossConnectEntries.Nodup := by
  refine nodup_flatMap_zipIdx Prod.snd ?_ ?_
  · rintro ⟨record, index⟩ ⟨port, entered⟩ member
    simp only at member
    split at member
    · cases List.mem_singleton.mp member
      rfl
    · cases member
  · rintro ⟨record, index⟩
    simp only
    split
    · exact List.nodup_singleton _
    · exact List.nodup_nil

theorem entriesAt_nodup {α : Type} {entries : List (Nat × α)}
    (simple : entries.Nodup) (port : Nat) :
    (SortedRecords.entriesAt entries port).Nodup := by
  refine List.Nodup.map_on ?_ (simple.filter _)
  rintro ⟨first, value⟩ inFirst ⟨second, other⟩ inSecond same
  have firstAt := of_decide_eq_true (List.mem_filter.mp inFirst).2
  have secondAt := of_decide_eq_true (List.mem_filter.mp inSecond).2
  simp_all

end Entries

/-! ### What a sealed snapshot stores -/

namespace TopologySnapshot

variable (snapshot : TopologySnapshot K)

/-- An arc between two ports has the port as one end and misses the other. -/
def DanglesAt (fromPort toPort key : PortKey) : Prop :=
  (fromPort = key ∧ snapshot.portIndex toPort = none) ∨
    (toPort = key ∧ snapshot.portIndex fromPort = none)

/-- The lookups and the adjacency lists agree with the records. -/
structure Indexed : Prop where
  nodes_increasing : snapshot.nodes.Pairwise fun first second =>
    first.id < second.id
  ports_increasing : snapshot.ports.Pairwise fun first second =>
    first.key < second.key
  profiles_increasing : snapshot.reachProfiles.Pairwise fun first second =>
    first.id < second.id
  findNode_iff : ∀ id record, snapshot.findNode id = some record ↔
    record ∈ snapshot.nodes ∧ record.id = id
  portIndex_iff : ∀ key index, snapshot.portIndex key = some index ↔
    ∃ record, snapshot.ports[index]? = some record ∧ record.key = key
  findPort_iff : ∀ key record, snapshot.findPort key = some record ↔
    record ∈ snapshot.ports ∧ record.key = key
  findReachProfile_iff : ∀ id record,
    snapshot.findReachProfile id = some record ↔
      record ∈ snapshot.reachProfiles ∧ record.id = id
  spanArcs_nodup : ∀ port, (snapshot.outgoingSpanArcs port).Nodup
  forward_iff : ∀ port index,
    ⟨index, false⟩ ∈ snapshot.outgoingSpanArcs port ↔
      ∃ span, snapshot.spans[index]? = some span ∧
        snapshot.portIndex span.fromPort = some port ∧
        ∃ target, snapshot.portIndex span.toPort = some target
  reversed_iff : ∀ port index,
    ⟨index, true⟩ ∈ snapshot.outgoingSpanArcs port ↔
      ∃ span, snapshot.spans[index]? = some span ∧
        snapshot.portIndex span.toPort = some port ∧
        (∃ target, snapshot.portIndex span.fromPort = some target) ∧
        span.bidirectional = true
  crossConnects_nodup : ∀ port, (snapshot.outgoingCrossConnects port).Nodup
  crossConnect_iff : ∀ port index,
    index ∈ snapshot.outgoingCrossConnects port ↔
      ∃ record, snapshot.crossConnects[index]? = some record ∧
        snapshot.portIndex record.fromPort = some port ∧
        ∃ target, snapshot.portIndex record.toPort = some target
  hasUnresolvedArcs_iff : ∀ index, snapshot.hasUnresolvedArcs index = true ↔
    ∃ port, snapshot.ports[index]? = some port ∧
      (snapshot.findNode port.key.node = none ∨
        (∃ span ∈ snapshot.spans,
          snapshot.DanglesAt span.fromPort span.toPort port.key) ∨
        ∃ record ∈ snapshot.crossConnects,
          snapshot.DanglesAt record.fromPort record.toPort port.key)
  coverageComplete_iff : snapshot.coverageComplete = true ↔
    snapshot.unresolved = [] ∧ snapshot.conflicted = [] ∧
      (∀ source ∈ snapshot.sources, source.coverage = .complete) ∧
      ∀ node ∈ snapshot.nodes, node.coverage = .complete

end TopologySnapshot

section Sealed

variable [Field K] [LinearOrder K] {runtime : Runtime K}
  {builder : SnapshotBuilder K}

namespace SnapshotBuilder

variable (runtime builder) in
theorem mem_outgoingSpanArcs {port : Nat} {arc : SpanArc} :
    arc ∈ (builder.finished runtime).outgoingSpanArcs port ↔
      (port, arc) ∈ (builder.sortedRecords runtime).spanArcEntries := by
  change arc ∈ ((List.range _).map _)[port]?.getD [] ↔ _
  rw [mem_getD_map_range, (runtime.routine.perm _ _).mem_iff, mem_entriesAt]
  refine and_iff_right_of_imp fun entered => ?_
  obtain ⟨_, _, _, leaves, _⟩ := mem_spanArcEntries_iff.mp entered
  exact lt_length_of_findByKey leaves

variable (runtime builder) in
theorem mem_outgoingCrossConnects {port index : Nat} :
    index ∈ (builder.finished runtime).outgoingCrossConnects port ↔
      (port, index) ∈ (builder.sortedRecords runtime).crossConnectEntries := by
  change index ∈ ((List.range _).map _)[port]?.getD [] ↔ _
  rw [mem_getD_map_range, (runtime.routine.perm _ _).mem_iff, mem_entriesAt]
  refine and_iff_right_of_imp fun entered => ?_
  obtain ⟨_, _, _, leaves, _⟩ := mem_crossConnectEntries_iff.mp entered
  exact lt_length_of_findByKey leaves

/-- Every row of a table of sorted lists without repetition is without
repetition. -/
theorem nodup_sorted_row {α : Type} {less : α → α → Bool} {entries : List (Nat × α)}
    (simple : entries.Nodup) (count port : Nat) :
    (((List.range count).map fun port => runtime.routine.sort less
      (SortedRecords.entriesAt entries port))[port]?.getD []).Nodup := by
  rw [List.getElem?_map]
  cases (List.range count)[port]? with
  | none => exact List.nodup_nil
  | some place =>
      exact (runtime.routine.perm _ _).nodup_iff.mpr (entriesAt_nodup simple place)

end SnapshotBuilder

/-! ### Missing ends -/

section Missing

variable {records : SortedRecords K}

omit [Field K] [LinearOrder K] in
theorem mem_unresolvedEnds_at {fromPort toPort : PortKey} {index : Nat} :
    (∃ resource, (resource, some index) ∈
        records.unresolvedEnds fromPort toPort) ↔
      (records.portIndexOf fromPort = some index ∧
        records.portIndexOf toPort = none) ∨
      (records.portIndexOf toPort = some index ∧
        records.portIndexOf fromPort = none) := by
  unfold SortedRecords.unresolvedEnds
  cases tail : records.portIndexOf fromPort with
  | none => cases head : records.portIndexOf toPort <;> simp [eq_comm]
  | some position => cases head : records.portIndexOf toPort <;> simp [eq_comm]

omit [Field K] [LinearOrder K] in
/-- The ports whose node is not published, as the builder notes them. -/
private theorem mem_nodeNotes_at {index : Nat} {resource : ResourceKey} :
    (resource, some index) ∈ (records.ports.zipIdx.flatMap
      fun (port, index) =>
        if (records.nodeIndexOf port.key.node).isNone then
          [(ResourceKey.forNode port.key.node, some index)] else []) ↔
      ∃ port, records.ports[index]? = some port ∧
        records.nodeIndexOf port.key.node = none ∧
        resource = .forNode port.key.node := by
  rw [List.mem_flatMap]
  constructor
  · rintro ⟨⟨port, position⟩, indexed, member⟩
    have atPosition := List.mem_zipIdx_iff_getElem?.mp indexed
    simp only at member atPosition
    split_ifs at member with missing
    · rw [List.mem_singleton] at member
      cases member
      exact ⟨port, atPosition, Option.isNone_iff_eq_none.mp missing, rfl⟩
    · cases member
  · rintro ⟨port, atPosition, missing, rfl⟩
    refine ⟨(port, index), List.mem_zipIdx_iff_getElem?.mpr atPosition, ?_⟩
    simp [missing]

omit [Field K] [LinearOrder K] in
/-- A note at a port is about its node or about an arc that misses its other
end. -/
theorem mem_unresolvedNotes_at {index : Nat} :
    (∃ resource, (resource, some index) ∈ records.unresolvedNotes) ↔
      (∃ port, records.ports[index]? = some port ∧
        records.nodeIndexOf port.key.node = none) ∨
      (∃ span ∈ records.spans, ∃ resource, (resource, some index) ∈
        records.unresolvedEnds span.fromPort span.toPort) ∨
      ∃ record ∈ records.crossConnects, ∃ resource, (resource, some index) ∈
        records.unresolvedEnds record.fromPort record.toPort := by
  unfold SortedRecords.unresolvedNotes
  simp only [List.mem_append, mem_nodeNotes_at]
  simp only [List.mem_flatMap]
  constructor
  · rintro ⟨resource, (⟨port, atPosition, missing, _⟩ | span) | crossConnect⟩
    · exact .inl ⟨port, atPosition, missing⟩
    · obtain ⟨record, member, noted⟩ := span
      exact .inr (.inl ⟨record, member, resource, noted⟩)
    · obtain ⟨record, member, noted⟩ := crossConnect
      exact .inr (.inr ⟨record, member, resource, noted⟩)
  · rintro (⟨port, atPosition, missing⟩ | ⟨record, member, resource, noted⟩ |
      ⟨record, member, resource, noted⟩)
    · exact ⟨_, .inl (.inl ⟨port, atPosition, missing, rfl⟩)⟩
    · exact ⟨resource, .inl (.inr ⟨record, member, noted⟩)⟩
    · exact ⟨resource, .inr ⟨record, member, noted⟩⟩

omit [Field K] [LinearOrder K] in
/-- Notes are made at ports that exist. -/
theorem lt_length_of_noted {index : Nat}
    (noted : ∃ resource, (resource, some index) ∈ records.unresolvedNotes) :
    index < records.ports.length := by
  have ofEnds {fromPort toPort : PortKey}
      (ends : ∃ resource, (resource, some index) ∈
        records.unresolvedEnds fromPort toPort) :
      index < records.ports.length := by
    rcases mem_unresolvedEnds_at.mp ends with ⟨found, _⟩ | ⟨found, _⟩
    · exact lt_length_of_findByKey found
    · exact lt_length_of_findByKey found
  rcases mem_unresolvedNotes_at.mp noted with
    ⟨port, atPosition, _⟩ | ⟨span, _, ends⟩ | ⟨record, _, ends⟩
  · exact (List.getElem?_eq_some_iff.mp atPosition).1
  · exact ofEnds ends
  · exact ofEnds ends

theorem SnapshotBuilder.hasUnresolvedArcs_iff_noted {index : Nat} :
    (builder.finished runtime).hasUnresolvedArcs index = true ↔
      ∃ resource, (resource, some index) ∈
        (builder.sortedRecords runtime).unresolvedNotes := by
  have counted : (builder.finished runtime).hasUnresolvedArcs index = true ↔
      index < (builder.sortedRecords runtime).ports.length ∧
        ∃ note ∈ (builder.sortedRecords runtime).unresolvedNotes,
          note.2 = some index := by
    unfold TopologySnapshot.hasUnresolvedArcs
    change (((List.range _).map _)[index]?.getD 0 != 0) = true ↔ _
    rw [List.getElem?_map]
    by_cases inRange :
        index < (builder.sortedRecords runtime).ports.length
    · rw [List.getElem?_range inRange]
      simp [inRange, List.filter_eq_nil_iff]
    · rw [List.getElem?_eq_none (by simpa using inRange)]
      simp [inRange]
  rw [counted]
  constructor
  · rintro ⟨_, ⟨resource, place⟩, noted, rfl⟩
    exact ⟨resource, noted⟩
  · rintro ⟨resource, noted⟩
    exact ⟨lt_length_of_noted ⟨resource, noted⟩, _, noted, rfl⟩

end Missing

/-! ### The sealed snapshot -/

theorem destutter_eq_nil_iff {α : Type} [DecidableEq α] {values : List α} :
    values.destutter (· ≠ ·) = [] ↔ values = [] := by
  cases values with
  | nil => simp
  | cons head tail =>
      rw [List.destutter_cons']
      simp only [reduceCtorEq, iff_false]
      exact List.ne_nil_of_mem (List.mem_destutter' _ _ _)

theorem SnapshotBuilder.coverageComplete_iff_empty :
    (builder.finished runtime).coverageComplete = true ↔
      (builder.finished runtime).unresolved = [] ∧
      (builder.finished runtime).conflicted = [] ∧
      (∀ source ∈ (builder.finished runtime).sources,
        source.coverage = .complete) ∧
      ∀ node ∈ (builder.finished runtime).nodes, node.coverage = .complete := by
  have noNotes : (builder.finished runtime).unresolved = [] ↔
      (builder.sortedRecords runtime).unresolvedNotes = [] := by
    change (runtime.routine.sortValues _).destutter (· ≠ ·) = [] ↔ _
    rw [destutter_eq_nil_iff, ← List.map_eq_nil_iff (f := Prod.fst)]
    constructor
    · intro empty
      have same := runtime.routine.sortBy_perm (fun element => element)
        ((builder.sortedRecords runtime).unresolvedNotes.map Prod.fst)
      exact List.nil_perm.mp (empty ▸ same)
    · intro empty
      rw [empty]
      exact List.perm_nil.mp (runtime.routine.perm _ _)
  change (builder.sortedRecords runtime).coverageComplete = true ↔ _
  rw [noNotes]
  unfold SortedRecords.coverageComplete
  simp only [Bool.and_eq_true, List.isEmpty_iff, List.all_eq_true, beq_iff_eq,
    and_assoc]
  rfl

/-- The representation invariant of every sealed snapshot. -/
theorem build_indexed (builder : SnapshotBuilder K)
    (snapshot : TopologySnapshot K)
    (built : builder.build runtime = .ok snapshot) : snapshot.Indexed := by
  have formed := (IsBuilt.sealed builder snapshot built).wellFormed
  obtain rfl := SnapshotBuilder.eq_finished built
  have dangles {fromPort toPort : PortKey} {index : Nat} {port : PortRecord}
      (atIndex : (builder.finished runtime).ports[index]? = some port) :
      (∃ resource, (resource, some index) ∈ (builder.sortedRecords
        runtime).unresolvedEnds fromPort toPort) ↔
        (builder.finished runtime).DanglesAt fromPort toPort port.key := by
    have found (key : PortKey) :
        (builder.finished runtime).portIndex key = some index ↔
          key = port.key := by
      rw [TopologySnapshot.portIndex, findByKey_eq_some_iff formed.ports]
      constructor
      · rintro ⟨record, same, rfl⟩
        rw [atIndex] at same
        cases same
        rfl
      · rintro rfl
        exact ⟨port, atIndex, rfl⟩
    rw [mem_unresolvedEnds_at, TopologySnapshot.DanglesAt]
    exact or_congr (and_congr_left fun _ => found fromPort)
      (and_congr_left fun _ => found toPort)
  constructor
  case nodes_increasing => exact formed.nodes
  case ports_increasing => exact formed.ports
  case profiles_increasing => exact formed.profiles
  case findNode_iff => exact fun _ _ => findByKey_bind_eq_some_iff formed.nodes
  case portIndex_iff => exact fun _ _ => findByKey_eq_some_iff formed.ports
  case findPort_iff => exact fun _ _ => findByKey_bind_eq_some_iff formed.ports
  case findReachProfile_iff =>
    exact fun _ _ => findByKey_bind_eq_some_iff formed.profiles
  case spanArcs_nodup =>
    exact SnapshotBuilder.nodup_sorted_row spanArcEntries_nodup _
  case forward_iff =>
    intro port index
    rw [builder.mem_outgoingSpanArcs runtime, mem_spanArcEntries_iff]
    constructor
    · rintro ⟨span, target, atIndex, leaves, arrives, _⟩
      exact ⟨span, atIndex, leaves, target, arrives⟩
    · rintro ⟨span, atIndex, leaves, target, arrives⟩
      exact ⟨span, target, atIndex, leaves, arrives, nofun⟩
  case reversed_iff =>
    intro port index
    rw [builder.mem_outgoingSpanArcs runtime, mem_spanArcEntries_iff]
    constructor
    · rintro ⟨span, target, atIndex, leaves, arrives, bidirectional⟩
      exact ⟨span, atIndex, leaves, ⟨target, arrives⟩, bidirectional rfl⟩
    · rintro ⟨span, atIndex, leaves, ⟨target, arrives⟩, bidirectional⟩
      exact ⟨span, target, atIndex, leaves, arrives, fun _ => bidirectional⟩
  case crossConnects_nodup =>
    exact SnapshotBuilder.nodup_sorted_row crossConnectEntries_nodup _
  case crossConnect_iff =>
    intro port index
    rw [builder.mem_outgoingCrossConnects runtime, mem_crossConnectEntries_iff]
    constructor
    · rintro ⟨record, target, atIndex, leaves, arrives⟩
      exact ⟨record, atIndex, leaves, target, arrives⟩
    · rintro ⟨record, atIndex, leaves, target, arrives⟩
      exact ⟨record, target, atIndex, leaves, arrives⟩
  case hasUnresolvedArcs_iff =>
    intro index
    rw [SnapshotBuilder.hasUnresolvedArcs_iff_noted]
    constructor
    · intro noted
      have atIndex : (builder.finished runtime).ports[index]? = some _ :=
        List.getElem?_eq_getElem (lt_length_of_noted noted)
      refine ⟨_, atIndex, ?_⟩
      rcases mem_unresolvedNotes_at.mp noted with
        ⟨port, portAt, missing⟩ | ⟨span, member, ends⟩ | ⟨record, member, ends⟩
      · obtain rfl := Option.some.inj (portAt.symm.trans atIndex)
        exact .inl (TopologySnapshot.findNode_eq_none_of_nodeIndex missing)
      · exact .inr (.inl ⟨span, member, (dangles atIndex).mp ends⟩)
      · exact .inr (.inr ⟨record, member, (dangles atIndex).mp ends⟩)
    · rintro ⟨port, atIndex, missing | ⟨span, member, ends⟩ |
        ⟨record, member, ends⟩⟩
      · refine mem_unresolvedNotes_at.mpr (.inl ⟨port, atIndex, ?_⟩)
        cases found : (builder.finished runtime).nodeIndex port.key.node with
        | none => exact found
        | some position =>
            obtain ⟨node, nodeAt, _⟩ :=
              TopologySnapshot.getElem?_of_nodeIndex found
            rw [TopologySnapshot.findNode_of_nodeIndex found nodeAt] at missing
            cases missing
      · exact mem_unresolvedNotes_at.mpr
          (.inr (.inl ⟨span, member, (dangles atIndex).mpr ends⟩))
      · exact mem_unresolvedNotes_at.mpr
          (.inr (.inr ⟨record, member, (dangles atIndex).mpr ends⟩))
  case coverageComplete_iff => exact SnapshotBuilder.coverageComplete_iff_empty

end Sealed

/-- One span between two nodes, and a span that leads nowhere. -/
def danglingLink : SnapshotBuilder ℚ :=
  (SnapshotBuilder.new ⟨text "link"⟩ 1 {} {}).submitAll [
    .source { id := ⟨text "nms"⟩ },
    .node (.published "a"), .node (.published "b"),
    .port (.published (.of "a" "1") "line"),
    .port (.published (.of "b" "1") "line"),
    .span (.published "ab" (.of "a" "1") (.of "b" "1") 80000 20 30),
    .span (.published "ac" (.of "a" "1") (.of "c" "1") 80000 20 30)]

theorem build_indexed_danglingLink :
    danglingLink.build rationalRuntime =
        .ok (danglingLink.finished rationalRuntime) ∧
      (danglingLink.finished rationalRuntime).Indexed := by
  have built : danglingLink.build rationalRuntime =
      .ok (danglingLink.finished rationalRuntime) :=
    SnapshotBuilder.build_eq_ok (by decide +kernel)
  exact ⟨built, build_indexed danglingLink _ built⟩

example : (danglingLink.finished rationalRuntime).hasUnresolvedArcs 0 = true ∧
    (danglingLink.finished rationalRuntime).hasUnresolvedArcs 1 = false := by
  decide +kernel

end OpticalPathPlanner
