import OpticalPathPlanner.ResealedSnapshots

/-!
# Snapshots that are read back as they were

A sealed snapshot whose identifiers are valid is read back from its own text
unless one of four things got in the way: a transmit profile named like a state
of knowledge, failure domains that are too long for a token, an arc that ends
where it starts, or a description of a source, which the text leaves out.
-/

namespace OpticalPathPlanner

variable {K : Type}

/-! ### The identifiers and the numbers of a snapshot -/

def profileTexts : Evidence (Option ProfileId) → List Bytes
  | .known (some id) => [id.str]
  | _ => []

/-- Every identifier of a record. -/
def Submission.idTexts : Submission K → List Bytes
  | .source record => [record.id.str]
  | .node record =>
      [record.id.str, record.source.str] ++
        record.failureDomains.map StrongId.str
  | .port record =>
      [record.key.node.str, record.key.port.str, record.source.str] ++
        profileTexts record.transmitProfile ++
        record.failureDomains.map StrongId.str
  | .span record =>
      [record.id.str, record.fromPort.node.str, record.fromPort.port.str,
        record.toPort.node.str, record.toPort.port.str, record.source.str] ++
        record.failureDomains.map StrongId.str
  | .crossConnect record =>
      [record.id.str, record.fromPort.node.str, record.fromPort.port.str,
        record.toPort.node.str, record.toPort.port.str, record.source.str] ++
        record.failureDomains.map StrongId.str
  | .reachProfile record => [record.id.str, record.source.str]

/-- Every published number of a record. -/
def Submission.published : Submission K → List (Evidence K)
  | .span record => [record.lossDb, record.osnrDb]
  | .reachProfile record => [record.maxLossDb, record.minOsnrDb]
  | _ => []

namespace TopologySnapshot

/-- All identifiers satisfy `IsValidIdText`. -/
def IdsValid (snapshot : TopologySnapshot K) : Prop :=
  isValidIdText snapshot.id.str = true ∧
    ∀ call ∈ snapshot.calls, ∀ idText ∈ call.idTexts, isValidIdText idText = true

instance (snapshot : TopologySnapshot K) : Decidable snapshot.IdsValid :=
  inferInstanceAs (Decidable (_ ∧ _))

/-- All published numbers are doubles. -/
def NumbersDouble {formatDouble : K → Bytes} (numbers : DoubleText formatDouble)
    (snapshot : TopologySnapshot K) : Prop :=
  ∀ call ∈ snapshot.calls, ∀ evidence ∈ call.published, evidence.IsDouble numbers

/-- The same identity, spectrum and records. -/
structure SameEvidence (first second : TopologySnapshot K) : Prop where
  id : first.id = second.id
  generation : first.generation = second.generation
  spectrum : first.spectrum = second.spectrum
  sources : first.sources = second.sources
  nodes : first.nodes = second.nodes
  ports : first.ports = second.ports
  spans : first.spans = second.spans
  crossConnects : first.crossConnects = second.crossConnects
  reachProfiles : first.reachProfiles = second.reachProfiles

/-- Nothing in the snapshot is lost or refused by its text. -/
structure Spellable (snapshot : TopologySnapshot K) : Prop where
  descriptions : ∀ source ∈ snapshot.sources, source.description = []
  profiles : ∀ port ∈ snapshot.ports, ∀ id,
    port.transmitProfile = .known (some id) → Unreserved id.str
  domains : ∀ call ∈ snapshot.calls, call.DomainsFit
  loopFree : snapshot.LoopFree

end TopologySnapshot

theorem Submission.legal_of_ids {formatDouble : K → Bytes}
    {numbers : DoubleText formatDouble} {call : Submission K}
    (ids : ∀ idText ∈ call.idTexts, isValidIdText idText = true)
    (double : ∀ evidence ∈ call.published, evidence.IsDouble numbers)
    (few : call.domains.length ≤ kMaxDomainsPerResource) :
    call.Legal numbers := by
  cases call with
  | source record =>
      exact ids _ List.mem_cons_self
  | node record =>
      simp only [idTexts, List.forall_mem_append, List.forall_mem_cons,
        List.forall_mem_map] at ids
      exact ⟨ids.1.1, ids.1.2.1, ids.2, few⟩
  | port record =>
      simp only [idTexts, List.forall_mem_append, List.forall_mem_cons,
        List.forall_mem_map] at ids
      refine ⟨⟨ids.1.1.1, ids.1.1.2.1⟩, ?_, ids.1.1.2.2.1, ids.2, few⟩
      intro id known
      have profile := ids.1.2
      rw [known] at profile
      exact profile _ List.mem_cons_self
  | span record =>
      simp only [idTexts, List.forall_mem_append, List.forall_mem_cons,
        List.forall_mem_map] at ids
      simp only [published, List.forall_mem_cons] at double
      obtain ⟨⟨id, fromNode, fromPort, toNode, toPort, source, -⟩, domains⟩ := ids
      exact ⟨⟨id, ⟨fromNode, fromPort⟩, toNode, toPort⟩,
        ⟨double.1, double.2.1⟩, source, domains, few⟩
  | crossConnect record =>
      simp only [idTexts, List.forall_mem_append, List.forall_mem_cons,
        List.forall_mem_map] at ids
      obtain ⟨⟨id, fromNode, fromPort, toNode, toPort, source, -⟩, domains⟩ := ids
      exact ⟨⟨id, ⟨fromNode, fromPort⟩, toNode, toPort⟩, source, domains, few⟩
  | reachProfile record =>
      simp only [idTexts, List.forall_mem_cons] at ids
      simp only [published, List.forall_mem_cons] at double
      exact ⟨ids.1, ⟨double.1, double.2.1⟩, ids.2.1⟩

/-! ### Sealed snapshots -/

section Sealed

open SortedRanges

variable [Field K] [LinearOrder K] {runtime : Runtime K}
  {numbers : DoubleText runtime.formatDouble} {builder : SnapshotBuilder K}
  {snapshot : TopologySnapshot K}

omit [Field K] [LinearOrder K] in
theorem length_collapse_le {Record Key Place : Type} [DecidableEq Record]
    [DecidableEq Key] [LinearOrder Place] {placeOf : Record → Place}
    {keyOf : Record → Key} (routine : SortRoutine) (records : List Record) :
    (collapse keyOf none (routine.sortBy placeOf records)).1.length ≤
      records.length :=
  (collapse_sublist none _).length_le.trans
    (routine.sortBy_perm placeOf records).length_eq.le

theorem slotCount_lt_of_validate {model : SpectrumModel}
    (accepted : model.validate.failed = false) : model.slotCount < 2 ^ 16 := by
  unfold SpectrumModel.validate at accepted
  rw [failed_ite_failure rfl, failed_ite_failure rfl] at accepted
  have bounded := not_lt.mp accepted.2.1
  exact bounded.trans_lt (by decide)

namespace SnapshotBuilder

/-- A sealed snapshot of legal records is legal. -/
theorem finished_legal
    (accepted : (builder.buildStatus runtime
      (builder.sortedRecords runtime)).failed = false)
    (id : (builder.finished runtime).id.Valid)
    (calls : ∀ call ∈ (builder.finished runtime).calls, call.Legal numbers) :
    (builder.finished runtime).Legal numbers := by
  have resealable := finished_resealable accepted
  obtain ⟨nodes, ports, spans, crossConnects, profiles⟩ :=
    builder.finished_records runtime
  constructor
  case id => exact id
  case slotCount => exact slotCount_lt_of_validate resealable.spectrum
  case calls => exact calls
  case sources =>
    exact (runtime.routine.sortBy_perm SourceRecord.id _).length_eq.le.trans
      builder.sources.bounded
  case profiles =>
    rw [profiles]
    exact (length_collapse_le _ _).trans builder.profiles.bounded
  case nodes =>
    rw [nodes]
    refine (length_collapse_le _ _).trans ?_
    simpa [normalisedNodes] using builder.nodes.bounded
  case ports =>
    rw [ports]
    refine (length_collapse_le _ _).trans ?_
    simpa [normalisedPorts] using builder.ports.bounded
  case spans =>
    rw [spans]
    refine (length_collapse_le _ _).trans ?_
    simpa [normalisedSpans] using builder.spans.bounded
  case crossConnects =>
    rw [crossConnects]
    refine (length_collapse_le _ _).trans ?_
    simpa [normalisedCrossConnects] using builder.crossConnects.bounded

/-- Records with valid identifiers are legal once they are sealed. -/
theorem legal_of_ids
    (accepted : (builder.buildStatus runtime
      (builder.sortedRecords runtime)).failed = false)
    (ids : (builder.finished runtime).IdsValid)
    (doubles : (builder.finished runtime).NumbersDouble numbers) :
    (builder.finished runtime).Legal numbers :=
  finished_legal accepted ids.1 fun call member =>
    Submission.legal_of_ids (ids.2 call member) (doubles call member)
      ((finished_resealable accepted).domains call member).bounded

/-- What is sealed depends on the sorted records alone. -/
theorem finished_congr {other : SnapshotBuilder K} (id : builder.id = other.id)
    (generation : builder.generation = other.generation)
    (spectrum : builder.spectrum = other.spectrum)
    (records : builder.sortedRecords runtime = other.sortedRecords runtime) :
    builder.finished runtime = other.finished runtime := by
  simp only [finished, assemble, id, generation, spectrum, records]

/-- The records of the snapshot that is read back. -/
structure RereadAs (snapshot result : TopologySnapshot K) : Prop where
  id : result.id = snapshot.id
  generation : result.generation = snapshot.generation
  spectrum : result.spectrum = snapshot.spectrum
  sources : result.sources = snapshot.sources.map SourceRecord.reread
  nodes : result.nodes = snapshot.nodes
  ports : result.ports = snapshot.ports.map PortRecord.reread
  spans : result.spans = snapshot.spans
  crossConnects : result.crossConnects = snapshot.crossConnects
  reachProfiles : result.reachProfiles = snapshot.reachProfiles
  conflicted : result.conflicted = []

theorem Rereads.finished_rereadAs (rereads : builder.Rereads snapshot)
    (resealable : snapshot.Resealable runtime) :
    RereadAs snapshot (builder.finished runtime) := by
  have records := rereads.sortedRecords_eq resealable
  exact ⟨rereads.id, rereads.generation, rereads.spectrum,
    congrArg SortedRecords.sources records, congrArg SortedRecords.nodes records,
    congrArg SortedRecords.ports records, congrArg SortedRecords.spans records,
    congrArg SortedRecords.crossConnects records,
    congrArg SortedRecords.profiles records,
    congrArg SortedRecords.conflicted records⟩

end SnapshotBuilder

omit [Field K] [LinearOrder K] in
theorem map_eq_self_iff {α : Type} {change : α → α} {values : List α} :
    values.map change = values ↔ ∀ value ∈ values, change value = value := by
  conv_lhs => rhs; rw [← List.map_id values]
  exact List.map_inj_left

theorem SourceRecord.reread_eq_self_iff {record : SourceRecord} :
    record.reread = record ↔ record.description = [] := by
  cases record
  simp [SourceRecord.reread, eq_comm]

theorem PortRecord.reread_eq_self_iff {record : PortRecord} :
    record.reread = record ↔ ∀ id, record.transmitProfile = .known (some id) →
      Unreserved id.str := by
  rw [← rereadProfile_eq_self_iff]
  cases record
  simp [PortRecord.reread]

omit [Field K] [LinearOrder K] in
/-- What is read back are the records that were written, up to two fields. -/
theorem SnapshotBuilder.RereadAs.sameEvidence_iff
    {snapshot result : TopologySnapshot K} (alike : RereadAs snapshot result) :
    result.SameEvidence snapshot ↔
      (∀ source ∈ snapshot.sources, source.description = []) ∧
        ∀ port ∈ snapshot.ports, ∀ id,
          port.transmitProfile = .known (some id) → Unreserved id.str := by
  have sources : result.sources = snapshot.sources ↔
      ∀ source ∈ snapshot.sources, source.description = [] := by
    rw [alike.sources, map_eq_self_iff]
    exact forall₂_congr fun _ _ => SourceRecord.reread_eq_self_iff
  have ports : result.ports = snapshot.ports ↔ ∀ port ∈ snapshot.ports, ∀ id,
      port.transmitProfile = .known (some id) → Unreserved id.str := by
    rw [alike.ports, map_eq_self_iff]
    exact forall₂_congr fun _ _ => PortRecord.reread_eq_self_iff
  rw [← sources, ← ports]
  exact ⟨fun same => ⟨same.sources, same.ports⟩, fun same =>
    ⟨alike.id, alike.generation, alike.spectrum, same.1, alike.nodes, same.2,
      alike.spans, alike.crossConnects, alike.reachProfiles⟩⟩

namespace SnapshotBuilder

/-- When the text of a sealed snapshot is accepted, and as what. -/
theorem parse_finished_iff
    (accepted : (builder.buildStatus runtime
      (builder.sortedRecords runtime)).failed = false)
    (legal : (builder.finished runtime).Legal numbers)
    (fits : (snapshotToText runtime.formatDouble
      (builder.finished runtime)).length ≤ kMaxSnapshotTextBytes)
    {result : TopologySnapshot K} :
    parseSnapshotText numbers (snapshotToText runtime.formatDouble
        (builder.finished runtime)) = .ok result ↔
      ((∀ call ∈ (builder.finished runtime).calls, call.DomainsFit) ∧
        (builder.finished runtime).LoopFree) ∧
        ∃ other : SnapshotBuilder K, other.Rereads (builder.finished runtime) ∧
          other.finished runtime = result := by
  have resealable := finished_resealable accepted
  rw [legal.parse_iff]
  constructor
  · rintro ⟨-, domains, other, rereads, built⟩
    obtain ⟨loopFree, same⟩ := (rereads.build_iff resealable).mp built
    exact ⟨⟨domains, loopFree⟩, other, rereads, same⟩
  · rintro ⟨⟨domains, loopFree⟩, other, rereads, same⟩
    exact ⟨fits, domains, other, rereads,
      (rereads.build_iff resealable).mpr ⟨loopFree, same⟩⟩

/-- Without conflicts the snapshot itself is read back, with everything that
was derived from its records. -/
theorem Rereads.finished_eq {other : SnapshotBuilder K}
    (rereads : other.Rereads (builder.finished runtime))
    (resealable : (builder.finished runtime).Resealable runtime)
    (conflictFree : (builder.finished runtime).conflicted = [])
    (same : (other.finished runtime).SameEvidence (builder.finished runtime)) :
    other.finished runtime = builder.finished runtime := by
  refine finished_congr rereads.id rereads.generation rereads.spectrum ?_
  have records := rereads.sortedRecords_eq resealable
  have alike := rereads.finished_rereadAs resealable
  have sources := alike.sources.symm.trans same.sources
  have ports := alike.ports.symm.trans same.ports
  rw [records, sources, ports, ← conflictFree]
  rfl

end SnapshotBuilder

/-- A sealed snapshot with valid identifiers is read back with the same records
exactly when its text spells all of them; without conflicts it is then read back
as it was, with everything that was derived from its records. -/
theorem sealed_snapshot_reread_iff (builder : SnapshotBuilder K)
    (snapshot : TopologySnapshot K)
    (built : builder.build runtime = .ok snapshot)
    (conflictFree : snapshot.conflicted = []) (ids : snapshot.IdsValid)
    (doubles : snapshot.NumbersDouble numbers)
    (fits : (snapshotToText runtime.formatDouble snapshot).length ≤
      kMaxSnapshotTextBytes) :
    ((∃ result, parseSnapshotText numbers
          (snapshotToText runtime.formatDouble snapshot) = .ok result ∧
        result.SameEvidence snapshot) ↔ snapshot.Spellable) ∧
      (snapshot.Spellable → parseSnapshotText numbers
        (snapshotToText runtime.formatDouble snapshot) = .ok snapshot) := by
  have accepted := SnapshotBuilder.accepted_of_build built
  obtain rfl := SnapshotBuilder.eq_finished built
  have resealable := SnapshotBuilder.finished_resealable accepted
  have legal := SnapshotBuilder.legal_of_ids accepted ids doubles
  have reads := fun result : TopologySnapshot K =>
    @SnapshotBuilder.parse_finished_iff K _ _ runtime numbers builder accepted legal
      fits result
  obtain ⟨filled, rereads, -⟩ := legal.exists_filled
  have alike := (rereads.finished_rereadAs resealable).sameEvidence_iff
  refine ⟨⟨?_, fun spellable => ?_⟩, fun spellable => ?_⟩
  · rintro ⟨result, parsed, same⟩
    obtain ⟨⟨domains, loopFree⟩, other, rereadsToo, rfl⟩ :=
      (reads result).mp parsed
    obtain ⟨descriptions, profiles⟩ :=
      (rereadsToo.finished_rereadAs resealable).sameEvidence_iff.mp same
    exact ⟨descriptions, profiles, domains, loopFree⟩
  · exact ⟨filled.finished runtime,
      (reads _).mpr ⟨⟨spellable.domains, spellable.loopFree⟩, filled, rereads, rfl⟩,
      alike.mpr ⟨spellable.descriptions, spellable.profiles⟩⟩
  · have same := alike.mpr ⟨spellable.descriptions, spellable.profiles⟩
    exact (reads _).mpr ⟨⟨spellable.domains, spellable.loopFree⟩, filled, rereads,
      rereads.finished_eq resealable conflictFree same⟩

end Sealed

/-! ### A snapshot that is read back, and one that is not -/

/-- The record with a named source. -/
def Submission.sourced {K : Type} : Submission K → Submission K
  | .source record => .source record
  | .node record => .node { record with source := ⟨text "nms"⟩ }
  | .port record => .port { record with source := ⟨text "nms"⟩ }
  | .span record => .span { record with source := ⟨text "nms"⟩ }
  | .crossConnect record => .crossConnect { record with source := ⟨text "nms"⟩ }
  | .reachProfile record => .reachProfile { record with source := ⟨text "nms"⟩ }

/-- A span whose first end transmits with the profile of the given name. -/
def spanWithProfile (profile : String) : SnapshotBuilder ℚ :=
  (SnapshotBuilder.new ⟨text "single"⟩ 1 {} {}).submitAll <|
    [.source { id := ⟨text "nms"⟩ },
      .node (.published "a"), .node (.published "b"),
      .reachProfile (.published profile 100000 4 25 10),
      .port (.published (.of "a" "1") profile),
      .port (.published (.of "b" "1") "line"),
      .span (.published "ab" (.of "a" "1") (.of "b" "1") 80000 20 30)].map
        Submission.sourced

theorem wholeNumbers_isDouble {value : ℚ}
    (whole : value.den = 1 ∧ value.num.toNat < 100000 ∧ 0 ≤ value.num) :
    wholeNumbers.IsDouble value := by
  obtain ⟨integral, small, positive⟩ := whole
  refine ⟨value.num.toNat, small, ?_⟩
  calc value = (value.num : ℚ) := (Rat.coe_int_num_of_den_eq_one integral).symm
    _ = ((value.num.toNat : Int) : ℚ) := by rw [Int.toNat_of_nonneg positive]
    _ = (value.num.toNat : ℚ) := Int.cast_natCast _

/-- The numbers of a snapshot that are small and whole are doubles. -/
theorem TopologySnapshot.numbersDouble_of_whole {snapshot : TopologySnapshot ℚ}
    (whole : ∀ call ∈ snapshot.calls, ∀ evidence ∈ call.published,
      ∀ value ∈ evidence.value?, value.den = 1 ∧ value.num.toNat < 100000 ∧
        0 ≤ value.num) : snapshot.NumbersDouble wholeNumbers := by
  intro call member evidence published value known
  exact wholeNumbers_isDouble
    (whole call member evidence published value (by rw [known]; rfl))

theorem sealed_snapshot_reread_iff_line :
    parseSnapshotText wholeNumbers (snapshotToText rationalRuntime.formatDouble
        ((spanWithProfile "line").finished rationalRuntime)) =
      .ok ((spanWithProfile "line").finished rationalRuntime) := by
  have spellable :
      ((spanWithProfile "line").finished rationalRuntime).Spellable := by
    constructor
    case descriptions => decide +kernel
    case profiles =>
      have named : ∀ port ∈ ((spanWithProfile "line").finished
          rationalRuntime).ports, port.transmitProfile =
            .known (some ⟨text "line"⟩) := by decide +kernel
      intro port member id known
      have same := (named port member).symm.trans known
      cases same
      exact ⟨by decide, by decide⟩
    case domains => decide +kernel
    case loopFree =>
      unfold TopologySnapshot.LoopFree
      decide +kernel
  exact (sealed_snapshot_reread_iff (spanWithProfile "line") _
    (SnapshotBuilder.build_eq_ok (by decide +kernel)) (by decide +kernel)
    (by decide +kernel)
    (TopologySnapshot.numbersDouble_of_whole (by decide +kernel))
    (by decide +kernel)).2 spellable

/-- A profile that is named like a state of knowledge is read back as that
state. -/
theorem unknownProfile_not_reread :
    ∃ snapshot, (spanWithProfile "unknown").build rationalRuntime =
        .ok snapshot ∧
      snapshot.conflicted = [] ∧ snapshot.IdsValid ∧
      snapshot.NumbersDouble wholeNumbers ∧
      (snapshotToText rationalRuntime.formatDouble snapshot).length ≤
        kMaxSnapshotTextBytes ∧
      ¬ ∃ result, parseSnapshotText wholeNumbers
          (snapshotToText rationalRuntime.formatDouble snapshot) = .ok result ∧
        result.SameEvidence snapshot := by
  refine ⟨(spanWithProfile "unknown").finished rationalRuntime,
    SnapshotBuilder.build_eq_ok (by decide +kernel), by decide +kernel,
    by decide +kernel,
    TopologySnapshot.numbersDouble_of_whole (by decide +kernel),
    by decide +kernel, ?_⟩
  rintro ⟨result, parsed, same⟩
  have differ : (parseSnapshotText wholeNumbers (snapshotToText
      rationalRuntime.formatDouble ((spanWithProfile "unknown").finished
        rationalRuntime))).toOption.map TopologySnapshot.ports ≠
      some ((spanWithProfile "unknown").finished rationalRuntime).ports := by
    decide +kernel
  rw [parsed] at differ
  exact differ (congrArg some same.ports)

end OpticalPathPlanner
