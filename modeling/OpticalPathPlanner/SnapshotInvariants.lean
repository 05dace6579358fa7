import OpticalPathPlanner.SnapshotBuilder
import Mathlib

/-!
# Invariants of sealed snapshots

What every snapshot that a builder sealed satisfies: records are in strictly
increasing key order, so that lookups find what is there; the adjacency of a
port lists arcs that leave it and resolve; published impairments are in range;
the conflicted set is sorted.
-/

namespace OpticalPathPlanner

open SortedRanges

variable {K : Type}

/-! ### Sorting and deduplication -/

section Collapse

variable {Record Key : Type} [DecidableEq Record]

theorem collapse_some_cons [DecidableEq Key] (keyOf : Record → Key)
    (last record : Record) (rest : List Record) :
    (collapse keyOf (some last) (record :: rest)).1 =
      if keyOf last = keyOf record then (collapse keyOf (some last) rest).1
      else record :: (collapse keyOf (some record) rest).1 := by
  by_cases same : keyOf last = keyOf record
  · rw [if_pos same]
    simp only [collapse, same, if_true]
  · rw [if_neg same]
    simp only [collapse, same, if_false]

theorem mem_of_mem_collapse [DecidableEq Key] {keyOf : Record → Key}
    {last : Option Record} {records : List Record} {record : Record}
    (kept : record ∈ (collapse keyOf last records).1) : record ∈ records := by
  induction records generalizing last with
  | nil => cases last <;> exact kept
  | cons head rest ih =>
      cases last with
      | none =>
          rcases List.mem_cons.mp kept with rfl | later
          · exact List.mem_cons_self ..
          · exact List.mem_cons_of_mem _ (ih later)
      | some previous =>
          rw [collapse_some_cons] at kept
          split_ifs at kept
          · exact List.mem_cons_of_mem _ (ih kept)
          · rcases List.mem_cons.mp kept with rfl | later
            · exact List.mem_cons_self ..
            · exact List.mem_cons_of_mem _ (ih later)

/-- Collapsing a sorted list leaves strictly increasing keys. -/
theorem collapse_increasing [LinearOrder Key] [DecidableEq Key]
    {keyOf : Record → Key}
    {last : Option Record} {records : List Record}
    (sorted : records.Pairwise fun first second => keyOf first ≤ keyOf second)
    (after : ∀ previous ∈ last, ∀ record ∈ records,
      keyOf previous ≤ keyOf record) :
    (collapse keyOf last records).1.Pairwise
        (fun first second => keyOf first < keyOf second) ∧
      ∀ previous ∈ last, ∀ record ∈ (collapse keyOf last records).1,
        keyOf previous < keyOf record := by
  induction records generalizing last with
  | nil => cases last <;> simp [collapse]
  | cons head rest ih =>
      obtain ⟨headLe, restSorted⟩ := List.pairwise_cons.mp sorted
      have fromHead := @ih (some head) restSorted
        (fun previous same record member => by
          cases same
          exact headLe record member)
      have aboveHead := fromHead.2 head rfl
      have withHead : (head :: (collapse keyOf (some head) rest).1).Pairwise
          fun first second => keyOf first < keyOf second :=
        List.pairwise_cons.mpr ⟨aboveHead, fromHead.1⟩
      cases last with
      | none => exact ⟨withHead, nofun⟩
      | some previous =>
          have previousLe := after previous rfl head (List.mem_cons_self ..)
          rw [collapse_some_cons]
          split_ifs with same
          · refine ih restSorted fun other isPrevious record member => ?_
            exact after other isPrevious record (List.mem_cons_of_mem _ member)
          · have previousLt := lt_of_le_of_ne previousLe same
            refine ⟨withHead, ?_⟩
            rintro other ⟨⟩ record member
            rcases List.mem_cons.mp member with rfl | later
            · exact previousLt
            · exact previousLt.trans (aboveHead record later)

theorem collapse_none_increasing [LinearOrder Key] [DecidableEq Key]
    {keyOf : Record → Key} {records : List Record}
    (sorted : records.Pairwise fun first second =>
      keyOf first ≤ keyOf second) :
    (collapse keyOf none records).1.Pairwise
      fun first second => keyOf first < keyOf second :=
  (collapse_increasing sorted fun _ none_ => by cases none_).1

end Collapse

/-! ### Well-formed snapshots -/

/-- What lookups and walks rely on. -/
structure TopologySnapshot.WellFormed [Field K] [LinearOrder K]
    (snapshot : TopologySnapshot K) : Prop where
  sources : snapshot.sources.Pairwise fun first second => first.id < second.id
  nodes : snapshot.nodes.Pairwise fun first second => first.id < second.id
  ports : snapshot.ports.Pairwise fun first second => first.key < second.key
  profiles : snapshot.reachProfiles.Pairwise fun first second =>
    first.id < second.id
  conflicted : snapshot.conflicted.Pairwise (· ≤ ·)
  spanNamed : ∀ span ∈ snapshot.spans, span.named = true
  crossConnectNamed : ∀ record ∈ snapshot.crossConnects, record.named = true
  loss : ∀ span ∈ snapshot.spans, ∀ loss, span.lossDb = .known loss → 0 ≤ loss
  osnr : ∀ span ∈ snapshot.spans, ∀ osnr, span.osnrDb = .known osnr →
    osnr ≤ 1000000
  spanArcs : ∀ port, ∀ arc ∈ snapshot.outgoingSpanArcs port,
    ∃ span target, snapshot.spans[arc.spanIndex]? = some span ∧
      snapshot.portIndex (span.departure arc.reversed) = some port ∧
      snapshot.portIndex (span.arrival arc.reversed) = some target
  crossConnectArcs : ∀ port, ∀ index ∈ snapshot.outgoingCrossConnects port,
    ∃ record target, snapshot.crossConnects[index]? = some record ∧
      snapshot.portIndex record.fromPort = some port ∧
      snapshot.portIndex record.toPort = some target

section Adjacency

/-- A value at one place of a table of lists is in the list of that place. -/
theorem mem_getD_map_range {α : Type} {row : Nat → List α} {count port : Nat}
    {value : α} :
    value ∈ ((List.range count).map row)[port]?.getD [] ↔
      port < count ∧ value ∈ row port := by
  rw [List.getElem?_map]
  by_cases inRange : port < count
  · rw [List.getElem?_range inRange]
    simp [inRange]
  · rw [List.getElem?_eq_none (by simpa using inRange)]
    simp [inRange]

variable (records : SortedRecords K)

theorem mem_entriesAt {α : Type} {entries : List (Nat × α)} {port : Nat}
    {value : α} : value ∈ SortedRecords.entriesAt entries port ↔
      (port, value) ∈ entries := by
  simp only [SortedRecords.entriesAt, List.mem_map, List.mem_filter,
    decide_eq_true_eq]
  constructor
  · rintro ⟨⟨tail, other⟩, ⟨member, rfl⟩, rfl⟩
    exact member
  · intro member
    exact ⟨(port, value), ⟨member, rfl⟩, rfl⟩

variable {records}

/-- An arc is entered at the port it leaves when both of its ends resolve. -/
theorem mem_spanArcEntries_iff {port : Nat} {arc : SpanArc} :
    (port, arc) ∈ records.spanArcEntries ↔
      ∃ span target, records.spans[arc.spanIndex]? = some span ∧
        records.portIndexOf (span.departure arc.reversed) = some port ∧
        records.portIndexOf (span.arrival arc.reversed) = some target ∧
        (arc.reversed = true → span.bidirectional = true) := by
  constructor
  · intro entered
    obtain ⟨⟨span, index⟩, indexed, member⟩ := List.mem_flatMap.mp entered
    have atIndex := List.mem_zipIdx_iff_getElem?.mp indexed
    simp only at member atIndex
    split at member
    · next tail head tailEq headEq =>
        rcases List.mem_cons.mp member with same | backwards
        · cases same
          exact ⟨span, head, atIndex, tailEq, headEq, nofun⟩
        · split_ifs at backwards with bidirectional
          · rw [List.mem_singleton] at backwards
            cases backwards
            exact ⟨span, tail, atIndex, headEq, tailEq, fun _ => bidirectional⟩
          · cases backwards
    · cases member
  · rintro ⟨span, target, atIndex, leaves, arrives, bidirectional⟩
    refine List.mem_flatMap.mpr
      ⟨(span, arc.spanIndex), List.mem_zipIdx_iff_getElem?.mpr atIndex, ?_⟩
    obtain ⟨index, reversed⟩ := arc
    cases reversed with
    | false =>
        change records.portIndexOf span.fromPort = some port at leaves
        change records.portIndexOf span.toPort = some target at arrives
        simp [leaves, arrives]
    | true =>
        change records.portIndexOf span.toPort = some port at leaves
        change records.portIndexOf span.fromPort = some target at arrives
        simp [leaves, arrives, bidirectional rfl]

theorem mem_crossConnectEntries_iff {port index : Nat} :
    (port, index) ∈ records.crossConnectEntries ↔
      ∃ record target, records.crossConnects[index]? = some record ∧
        records.portIndexOf record.fromPort = some port ∧
        records.portIndexOf record.toPort = some target := by
  constructor
  · intro entered
    obtain ⟨⟨record, position⟩, indexed, member⟩ := List.mem_flatMap.mp entered
    have atIndex := List.mem_zipIdx_iff_getElem?.mp indexed
    simp only at member atIndex
    split at member
    · next tail head tailEq headEq =>
        rw [List.mem_singleton] at member
        cases member
        exact ⟨record, head, atIndex, tailEq, headEq⟩
    · cases member
  · rintro ⟨record, target, atIndex, leaves, arrives⟩
    refine List.mem_flatMap.mpr
      ⟨(record, index), List.mem_zipIdx_iff_getElem?.mpr atIndex, ?_⟩
    simp [leaves, arrives]

end Adjacency

/-! ### Sealed snapshots -/

theorem increasing_of_duplicateSource {sorted : List SourceRecord}
    (ordered : sorted.Pairwise fun first second => first.id ≤ second.id)
    (unique : duplicateSource sorted = none) :
    sorted.Pairwise fun first second => first.id < second.id := by
  induction sorted with
  | nil => exact .nil
  | cons first rest ih =>
      obtain ⟨firstLe, restOrdered⟩ := List.pairwise_cons.mp ordered
      cases rest with
      | nil => exact List.pairwise_singleton ..
      | cons second rest =>
          unfold duplicateSource at unique
          split_ifs at unique with same
          have below : first.id < second.id :=
            lt_of_le_of_ne (firstLe second (List.mem_cons_self ..))
              (Ne.symm same)
          refine List.pairwise_cons.mpr ⟨?_, ih restOrdered unique⟩
          intro other member
          rcases List.mem_cons.mp member with rfl | later
          · exact below
          · exact below.trans_le
              ((List.pairwise_cons.mp restOrdered).1 other later)

section Sealed

variable [Field K] [LinearOrder K] {runtime : Runtime K}
  {builder : SnapshotBuilder K}

theorem range_of_validate {value : Evidence K} {field : String} {raw : K}
    (accepted : (validateFiniteNonNegative value field).failed = false)
    (published : value = .known raw) : 0 ≤ raw ∧ raw ≤ 1000000 := by
  subst published
  unfold validateFiniteNonNegative at accepted
  simp only [Evidence.value?_known] at accepted
  rw [failed_ite_failure rfl] at accepted
  simpa using accepted.1

namespace SnapshotBuilder

theorem finished_wellFormed
    (accepted : (builder.buildStatus runtime
      (builder.sortedRecords runtime)).failed = false) :
    (builder.finished runtime).WellFormed := by
  unfold buildStatus at accepted
  rw [firstFailure_failed_iff] at accepted
  have spanAccepted : ∀ span ∈ builder.spans.records,
      (span.status builder.spectrum).failed = false := by
    intro span member
    apply accepted
    have listed := List.mem_map_of_mem (f := fun span : SpanRecord K =>
      span.status builder.spectrum) member
    simp only [List.mem_append]
    tauto
  have fromSpan : ∀ span ∈ (builder.finished runtime).spans,
      ∃ original ∈ builder.spans.records, span.id = original.id ∧
        span.lossDb = original.lossDb ∧ span.osnrDb = original.osnrDb := by
    intro span member
    have sorted := (runtime.routine.perm _ _).mem_iff.mp
      (mem_of_mem_collapse member)
    obtain ⟨original, isRecord, rfl⟩ := List.mem_map.mp sorted
    exact ⟨original, isRecord, rfl, rfl, rfl⟩
  have spanStatus : ∀ original ∈ builder.spans.records,
      (validateFiniteNonNegative original.lossDb "span.loss_db").failed =
          false ∧
        (validateFiniteNonNegative original.osnrDb "span.osnr_db").failed =
          false := by
    intro original isRecord
    have checks := firstFailure_failed_iff.mp (spanAccepted original isRecord)
    exact ⟨checks _ (by simp), checks _ (by simp)⟩
  constructor
  case sources =>
    refine increasing_of_duplicateSource
      (runtime.routine.sortBy_sorted SourceRecord.id _) ?_
    have noDuplicate : (sourceStatus (builder.sortedRecords
        runtime).sources).failed = false := accepted _ (by simp)
    unfold sourceStatus at noDuplicate
    split at noDuplicate
    · cases noDuplicate
    · next unique => exact unique
  case nodes =>
    exact collapse_none_increasing
      (runtime.routine.sortBy_sorted NodeRecord.id _)
  case ports =>
    exact collapse_none_increasing
      (runtime.routine.sortBy_sorted PortRecord.key _)
  case profiles =>
    exact collapse_none_increasing
      (runtime.routine.sortBy_sorted ReachProfile.id _)
  case conflicted =>
    exact (runtime.routine.sortValues_sorted _).sublist
      (List.destutter_sublist _ _)
  case spanNamed =>
    intro span member
    obtain ⟨original, isRecord, sameId, _⟩ := fromSpan span member
    have named := builder.spans.all_named original isRecord
    unfold SpanRecord.named at named ⊢
    rw [sameId]
    exact named
  case crossConnectNamed =>
    intro record member
    have sorted := (runtime.routine.perm _ _).mem_iff.mp
      (mem_of_mem_collapse member)
    obtain ⟨original, isRecord, rfl⟩ := List.mem_map.mp sorted
    exact builder.crossConnects.all_named original isRecord
  case loss =>
    intro span member loss published
    obtain ⟨original, isRecord, _, sameLoss, _⟩ := fromSpan span member
    exact (range_of_validate (spanStatus original isRecord).1
      (sameLoss.symm.trans published)).1
  case osnr =>
    intro span member osnr published
    obtain ⟨original, isRecord, _, _, sameOsnr⟩ := fromSpan span member
    exact (range_of_validate (spanStatus original isRecord).2
      (sameOsnr.symm.trans published)).2
  case spanArcs =>
    intro port arc member
    have inList := (mem_getD_map_range.mp member).2
    rw [(runtime.routine.perm _ _).mem_iff, mem_entriesAt] at inList
    obtain ⟨span, target, atIndex, leaves, arrives, _⟩ :=
      mem_spanArcEntries_iff.mp inList
    exact ⟨span, target, atIndex, leaves, arrives⟩
  case crossConnectArcs =>
    intro port index member
    have inList := (mem_getD_map_range.mp member).2
    rw [(runtime.routine.perm _ _).mem_iff, mem_entriesAt] at inList
    exact mem_crossConnectEntries_iff.mp inList

end SnapshotBuilder

theorem SnapshotBuilder.eq_finished {snapshot : TopologySnapshot K}
    (built : builder.build runtime = .ok snapshot) :
    builder.finished runtime = snapshot := by
  unfold SnapshotBuilder.build at built
  simp only at built
  split_ifs at built
  exact Except.ok.inj built

theorem SnapshotBuilder.accepted_of_build {snapshot : TopologySnapshot K}
    (built : builder.build runtime = .ok snapshot) :
    (builder.buildStatus runtime
      (builder.sortedRecords runtime)).failed = false := by
  unfold SnapshotBuilder.build at built
  simp only at built
  split_ifs at built with refused
  simpa using refused

theorem SnapshotBuilder.build_eq_ok
    (accepted : (builder.buildStatus runtime
      (builder.sortedRecords runtime)).failed = false) :
    builder.build runtime = .ok (builder.finished runtime) := by
  simp [build, accepted]

/-- Everything the builder seals is well formed. -/
theorem IsBuilt.wellFormed {snapshot : TopologySnapshot K}
    (built : IsBuilt runtime snapshot) : snapshot.WellFormed := by
  induction built with
  | sealed builder snapshot built =>
      have accepted := SnapshotBuilder.accepted_of_build built
      obtain rfl := SnapshotBuilder.eq_finished built
      exact SnapshotBuilder.finished_wellFormed accepted
  | restored snapshot producer epoch original ih =>
      exact ⟨ih.sources, ih.nodes, ih.ports, ih.profiles, ih.conflicted,
        ih.spanNamed, ih.crossConnectNamed, ih.loss, ih.osnr, ih.spanArcs,
        ih.crossConnectArcs⟩

theorem isBuilt_finished {builder : SnapshotBuilder K}
    (accepted : (builder.buildStatus runtime
      (builder.sortedRecords runtime)).failed = false) :
    IsBuilt runtime (builder.finished runtime) :=
  .sealed builder _ (SnapshotBuilder.build_eq_ok accepted)

end Sealed

end OpticalPathPlanner
