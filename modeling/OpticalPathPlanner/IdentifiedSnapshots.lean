import OpticalPathPlanner.AttributedEvidence
import OpticalPathPlanner.HardConstraints
import OpticalPathPlanner.SnapshotTexts

/-!
# Evidence behind one text

The canonical text lists the records that were kept.  What planning derives
from the records follows from it, but for the resources that were published
twice with different records: the records that were not kept are in no text.
So two sealed snapshots of one text are interchangeable when their builders
dispute the same resources and no transmit profile hides behind the name of a
state of knowledge.
-/

namespace OpticalPathPlanner

variable {K : Type} [Field K] [LinearOrder K] {runtime : Runtime K}

/-! ### Snapshots and their builders -/

namespace SnapshotBuilder

variable {builder other : SnapshotBuilder K}

/-- The snapshot that the builder seals, or a copy of it that was read back
from persistence. -/
inductive Seals (runtime : Runtime K) (builder : SnapshotBuilder K) :
    TopologySnapshot K → Prop
  | sealed (snapshot : TopologySnapshot K)
      (built : builder.build runtime = .ok snapshot) : Seals runtime builder snapshot
  | restored (snapshot : TopologySnapshot K) (producer : IncarnationId)
      (epoch : UInt64) (original : Seals runtime builder snapshot) :
      Seals runtime builder (snapshot.markRestored producer epoch)

theorem isBuilt_iff_seals {snapshot : TopologySnapshot K} :
    IsBuilt runtime snapshot ↔
      ∃ builder : SnapshotBuilder K, builder.Seals runtime snapshot := by
  constructor
  · intro built
    induction built with
    | sealed builder snapshot built => exact ⟨builder, .sealed snapshot built⟩
    | restored snapshot producer epoch _ ih =>
        obtain ⟨builder, original⟩ := ih
        exact ⟨builder, .restored snapshot producer epoch original⟩
  · rintro ⟨builder, seals⟩
    induction seals with
    | sealed snapshot built => exact .sealed builder snapshot built
    | restored snapshot producer epoch _ ih =>
        exact .restored snapshot producer epoch ih

/-- What is sealed differs from a restored copy in the provenance alone. -/
theorem Seals.provenance {snapshot : TopologySnapshot K}
    (seals : builder.Seals runtime snapshot) :
    ∃ freshness producer epoch, snapshot =
      { builder.finished runtime with
        freshness := freshness
        restoredFromIncarnation := producer
        restoredFromEpoch := epoch } := by
  induction seals with
  | sealed snapshot built =>
      obtain rfl := eq_finished built
      exact ⟨_, _, _, rfl⟩
  | restored snapshot producer epoch _ ih =>
      obtain ⟨_, _, _, rfl⟩ := ih
      exact ⟨_, producer, epoch, rfl⟩

/-- A fresh snapshot is the one that was sealed. -/
theorem Seals.eq_finished_of_fresh {snapshot : TopologySnapshot K}
    (seals : builder.Seals runtime snapshot)
    (fresh : snapshot.freshness = .fresh) :
    builder.build runtime = .ok snapshot := by
  cases seals with
  | sealed _ sealed => exact sealed
  | restored snapshot producer epoch _ => cases fresh

/-! ### What the kept records determine -/

omit [Field K] [LinearOrder K] in
theorem coverageComplete_of_sources {first second : SortedRecords K}
    (same : second = { first with sources := second.sources })
    (sources : second.sources.map SourceRecord.coverage =
      first.sources.map SourceRecord.coverage) :
    second.coverageComplete = first.coverageComplete := by
  have complete (records : List SourceRecord) :
      records.all (fun source => source.coverage == .complete) =
        (records.map SourceRecord.coverage).all (· == .complete) := by
    rw [List.all_map]
    rfl
  have listed : second.sources.all (fun source => source.coverage == .complete) =
      first.sources.all fun source => source.coverage == .complete := by
    rw [complete, complete, sources]
  rw [same]
  unfold SortedRecords.coverageComplete
  rw [listed]
  rfl

/-- The sources leave what is laid out over the other records as it is. -/
theorem assemble_underSources {first second : SortedRecords K}
    (id : builder.id = other.id) (generation : builder.generation = other.generation)
    (spectrum : builder.spectrum = other.spectrum)
    (same : second = { first with sources := second.sources })
    (spelled : second.sources.map SourceRecord.reread =
      first.sources.map SourceRecord.reread) :
    other.assemble runtime second =
      (builder.assemble runtime first).underSources second.sources ⟨0⟩ 0 := by
  have coverage := coverageComplete_of_sources same
    (@map_of_spelled K _ (builder.assemble runtime first) spelled _
      SourceRecord.coverage fun _ => rfl)
  obtain ⟨sources, nodes, ports, spans, crossConnects, profiles, conflicted⟩ :=
    second
  simp only [SortedRecords.mk.injEq, true_and] at same
  obtain ⟨rfl, rfl, rfl, rfl, rfl, rfl⟩ := same
  unfold assemble TopologySnapshot.underSources
  rw [coverage, id, generation, spectrum]
  rfl

/-- Builders that keep the same records and dispute the same resources seal the
same evidence, under sources that are spelled alike. -/
theorem finished_underSources
    (same : (builder.finished runtime).SameSpelling (other.finished runtime))
    (ports : (builder.finished runtime).ports = (other.finished runtime).ports)
    (conflicted : (builder.finished runtime).conflicted =
      (other.finished runtime).conflicted) :
    other.finished runtime =
      (builder.finished runtime).underSources (other.finished runtime).sources ⟨0⟩
        0 := by
  have records : other.sortedRecords runtime =
      { builder.sortedRecords runtime with
        sources := (other.sortedRecords runtime).sources } := by
    have kept := And.intro same.nodes (And.intro ports (And.intro same.spans
      (And.intro same.crossConnects (And.intro same.reachProfiles conflicted))))
    change (builder.sortedRecords runtime).nodes = _ ∧
      (builder.sortedRecords runtime).ports = _ ∧
      (builder.sortedRecords runtime).spans = _ ∧
      (builder.sortedRecords runtime).crossConnects = _ ∧
      (builder.sortedRecords runtime).profiles = _ ∧
      (builder.sortedRecords runtime).conflicted = _ at kept
    dsimp only
    obtain ⟨nodes, ports, spans, crossConnects, profiles, conflicted⟩ := kept
    rw [nodes, ports, spans, crossConnects, profiles, conflicted]
    rfl
  have spelled : (other.sortedRecords runtime).sources.map SourceRecord.reread =
      (builder.assemble runtime
        (builder.sortedRecords runtime)).sources.map SourceRecord.reread :=
    same.sources.symm
  have assembled : other.assemble runtime (other.sortedRecords runtime) =
      (builder.assemble runtime (builder.sortedRecords runtime)).underSources
        (other.sortedRecords runtime).sources ⟨0⟩ 0 :=
    assemble_underSources same.id same.generation same.spectrum records spelled
  have texts : runtime.computeSnapshotDigest
      (other.assemble runtime (other.sortedRecords runtime)) =
        runtime.computeSnapshotDigest
          (builder.assemble runtime (builder.sortedRecords runtime)) := by
    unfold Runtime.computeSnapshotDigest
    rw [assembled, snapshotToText_underSources spelled]
  unfold finished
  rw [texts, assembled]
  rfl

end SnapshotBuilder

/-! ### Interchangeable snapshots -/

/-- The same outcome with the same candidates. -/
def PlanningResult.SameDecision (first second : PlanningResult K) : Prop :=
  first.outcome = second.outcome ∧ first.candidates = second.candidates

/-- The same conflicts and coverage, and the same decision on every request,
whatever the planner was told and whatever it is told while it plans. -/
structure TopologySnapshot.Interchangeable (runtime : Runtime K)
    (first second : TopologySnapshot K) : Prop where
  conflicted : first.conflicted = second.conflicted
  coverageComplete : first.coverageComplete = second.coverageComplete
  plans : ∀ (E : Type) (options : PlannerOptions) (driver : SearchDriver E)
    (request : PlanningRequest K) (env : E),
      (plan runtime options driver first request env).1.SameDecision
        (plan runtime options driver second request env).1

/-- The ports publish the same transmit profiles, one by one. -/
def TopologySnapshot.SameTransmitters (first second : TopologySnapshot K) : Prop :=
  first.ports.map PortRecord.transmitProfile =
    second.ports.map PortRecord.transmitProfile

/-- No port transmits with a profile named like a state of knowledge. -/
def TopologySnapshot.ProfilesUnreserved (snapshot : TopologySnapshot K) : Prop :=
  ∀ port ∈ snapshot.ports, ∀ id, port.transmitProfile = .known (some id) →
    Unreserved id.str

namespace SnapshotBuilder

variable {builder other : SnapshotBuilder K} {first second : TopologySnapshot K}

def SameDisputes (runtime : Runtime K) (builder other : SnapshotBuilder K) : Prop :=
  ∀ resource, builder.Disputes runtime resource ↔ other.Disputes runtime resource

theorem Seals.disputes_iff (seals : builder.Seals runtime first)
    {resource : ResourceKey} :
    resource ∈ first.conflicted ↔ builder.Disputes runtime resource := by
  obtain ⟨_, _, _, rfl⟩ := seals.provenance
  exact builder.mem_conflicted_iff_disputes runtime

theorem conflicted_eq (same : builder.SameDisputes runtime other) :
    (builder.finished runtime).conflicted = (other.finished runtime).conflicted := by
  change (builder.sortedRecords runtime).conflicted =
    (other.sortedRecords runtime).conflicted
  rw [sortedRecords_eq, sortedRecords_eq]
  refine destutter_sortValues_eq runtime.routine runtime.routine fun resource => ?_
  rw [← mem_conflicted_iff, ← mem_conflicted_iff, mem_conflicted_iff_disputes,
    mem_conflicted_iff_disputes]
  exact same resource

/-- Ports that are read back alike and publish the same profiles are the same. -/
theorem ports_eq {ports others : List PortRecord}
    (reread : ports.map PortRecord.reread = others.map PortRecord.reread)
    (transmitters : ports.map PortRecord.transmitProfile =
      others.map PortRecord.transmitProfile) : ports = others := by
  have pairs := congrArg₂ List.zip reread transmitters
  rw [List.zip_map', List.zip_map'] at pairs
  have restored : Function.LeftInverse
      (fun read : PortRecord × Evidence (Option ProfileId) =>
        { read.1 with transmitProfile := read.2 })
      fun port : PortRecord => (port.reread, port.transmitProfile) :=
    fun _ => rfl
  exact List.map_injective_iff.mpr restored.injective pairs

/-- Snapshots that are spelled alike report the same conflicts only when their
builders dispute the same resources; then they are interchangeable, if their
ports publish the same transmit profiles. -/
theorem interchangeable_of_spelling (isFirst : builder.Seals runtime first)
    (isSecond : other.Seals runtime second) (spelled : first.SameSpelling second)
    (freshness : first.freshness = second.freshness) :
    (first.Interchangeable runtime second → builder.SameDisputes runtime other) ∧
      (builder.SameDisputes runtime other ∧ first.SameTransmitters second →
        first.Interchangeable runtime second) := by
  constructor
  · intro alike resource
    rw [← isFirst.disputes_iff, ← isSecond.disputes_iff, alike.conflicted]
  · rintro ⟨disputes, transmitters⟩
    obtain ⟨provenance, producer, epoch, rfl⟩ := isFirst.provenance
    obtain ⟨_, otherProducer, otherEpoch, rfl⟩ := isSecond.provenance
    cases freshness
    have sealed : other.finished runtime =
        (builder.finished runtime).underSources (other.finished runtime).sources
          ⟨0⟩ 0 :=
      finished_underSources
        ⟨spelled.id, spelled.generation, spelled.spectrum, spelled.sources,
          spelled.nodes, spelled.ports, spelled.spans, spelled.crossConnects,
          spelled.reachProfiles⟩
        (ports_eq spelled.ports transmitters) (conflicted_eq disputes)
    have underSources : ({ other.finished runtime with
          freshness := provenance
          restoredFromIncarnation := otherProducer
          restoredFromEpoch := otherEpoch } : TopologySnapshot K) =
        TopologySnapshot.underSources { builder.finished runtime with
          freshness := provenance
          restoredFromIncarnation := producer
          restoredFromEpoch := epoch } (other.finished runtime).sources
            otherProducer otherEpoch := by
      rw [sealed]
      rfl
    rw [underSources]
    refine ⟨rfl, rfl, fun E options driver request env => ?_⟩
    obtain ⟨outcome, candidates⟩ := plan_underSources spelled.sources.symm env
    exact ⟨outcome.symm, candidates.symm⟩

/-! ### A snapshot and what its text is read back as -/

omit [Field K] [LinearOrder K] in
theorem RereadAs.sameSpelling {snapshot result : TopologySnapshot K}
    (alike : RereadAs snapshot result) : snapshot.SameSpelling result := by
  constructor
  case id => exact alike.id.symm
  case generation => exact alike.generation.symm
  case spectrum => exact alike.spectrum.symm
  case sources =>
    rw [alike.sources, List.map_map]
    rfl
  case nodes => exact alike.nodes.symm
  case ports =>
    rw [alike.ports, List.map_map]
    refine List.map_congr_left fun port _ => ?_
    have again : rereadProfile (rereadProfile port.transmitProfile) =
        rereadProfile port.transmitProfile := by
      cases port.transmitProfile with
      | unknown => rfl
      | conflicting => rfl
      | known profile =>
          cases profile with
          | none => rfl
          | some id =>
              simp only [rereadProfile]
              split_ifs <;> simp only [*, if_false]
    rw [Function.comp_apply, PortRecord.reread, PortRecord.reread, again]
  case spans => exact alike.spans.symm
  case crossConnects => exact alike.crossConnects.symm
  case reachProfiles => exact alike.reachProfiles.symm

omit [Field K] [LinearOrder K] in
/-- Only a profile named like a state of knowledge is read back as another. -/
theorem RereadAs.sameTransmitters_iff {snapshot result : TopologySnapshot K}
    (alike : RereadAs snapshot result) :
    snapshot.SameTransmitters result ↔ snapshot.ProfilesUnreserved := by
  unfold TopologySnapshot.SameTransmitters TopologySnapshot.ProfilesUnreserved
  rw [alike.ports, List.map_map, List.map_inj_left]
  refine forall₂_congr fun port _ => ?_
  rw [← rereadProfile_eq_self_iff, eq_comm]
  rfl

variable {numbers : DoubleText runtime.formatDouble}

/-- The text of a fresh snapshot is read back without any dispute. -/
theorem Seals.reread (seals : builder.Seals runtime first)
    (fresh : first.freshness = .fresh) (ids : first.IdsValid)
    (doubles : first.NumbersDouble numbers)
    (parsed : parseSnapshotText numbers
      (snapshotToText runtime.formatDouble first) = .ok second) :
    ∃ reader : SnapshotBuilder K, reader.Seals runtime second ∧
      RereadAs first second ∧ second.freshness = .fresh := by
  have built := seals.eq_finished_of_fresh fresh
  have accepted := accepted_of_build built
  obtain rfl := eq_finished built
  have legal := legal_of_ids accepted ids doubles
  obtain ⟨-, -, reader, rereads, isSecond⟩ := legal.parse_iff.mp parsed
  have same := eq_finished isSecond
  subst same
  exact ⟨reader, .sealed _ isSecond,
    rereads.finished_rereadAs (finished_resealable accepted), rfl⟩

/-- No resource was published twice with different records. -/
def Undisputed (runtime : Runtime K) (builder : SnapshotBuilder K) : Prop :=
  ∀ resource, ¬ builder.Disputes runtime resource

end SnapshotBuilder

/-- A sealed snapshot is interchangeable with another one of the same text and
freshness only when their builders dispute the same resources, and then it is,
if their ports publish the same transmit profiles.  It is interchangeable with
what its own text is read back as only when its builder disputes nothing, and
then it is, if no transmit profile is named like a state of knowledge. -/
theorem text_identifies_evidence (numbers : DoubleText runtime.formatDouble)
    (builder : SnapshotBuilder K) (snapshot : TopologySnapshot K)
    (seals : builder.Seals runtime snapshot) (trusted : snapshot.Trusted numbers) :
    (∀ (other : SnapshotBuilder K) (second : TopologySnapshot K),
      other.Seals runtime second → second.Trusted numbers →
      snapshotToText runtime.formatDouble snapshot =
        snapshotToText runtime.formatDouble second →
      snapshot.freshness = second.freshness →
        (snapshot.Interchangeable runtime second →
          builder.SameDisputes runtime other) ∧
        (builder.SameDisputes runtime other ∧ snapshot.SameTransmitters second →
          snapshot.Interchangeable runtime second)) ∧
    (snapshot.IdsValid → snapshot.freshness = .fresh →
      ∀ second, parseSnapshotText numbers
          (snapshotToText runtime.formatDouble snapshot) = .ok second →
        (snapshot.Interchangeable runtime second → builder.Undisputed runtime) ∧
        (builder.Undisputed runtime ∧ snapshot.ProfilesUnreserved →
          snapshot.Interchangeable runtime second)) := by
  constructor
  · intro other second isSecond otherTrusted texts freshness
    exact SnapshotBuilder.interchangeable_of_spelling seals isSecond
      (TopologySnapshot.sameSpelling_of_text trusted otherTrusted texts) freshness
  · intro ids fresh second parsed
    obtain ⟨reader, isSecond, alike, secondFresh⟩ := seals.reread fresh ids
      (fun call member => (trusted call member).doubles) parsed
    have silent : reader.Undisputed runtime := by
      intro resource disputes
      have reported := isSecond.disputes_iff.mpr disputes
      rw [alike.conflicted] at reported
      cases reported
    obtain ⟨necessary, enough⟩ := SnapshotBuilder.interchangeable_of_spelling
      seals isSecond alike.sameSpelling (fresh.trans secondFresh.symm)
    constructor
    · exact fun same resource disputes =>
        silent resource ((necessary same resource).mp disputes)
    · rintro ⟨undisputed, unreserved⟩
      exact enough ⟨fun resource => iff_of_false (undisputed resource)
        (silent resource), alike.sameTransmitters_iff.mpr unreserved⟩

/-! ### A description, and a record that is not kept -/

/-- The single span, with a description of its source. -/
def describedSpan : SnapshotBuilder ℚ :=
  (SnapshotBuilder.new ⟨text "single"⟩ 1 {} {}).submitAll [
    .source { id := ⟨text "nms"⟩, description := text "lab" },
    .node (.published "a"), .node (.published "b"),
    .reachProfile (.published "line" 100000 4 25 10),
    .port (.published (.of "a" "1") "line"),
    .port (.published (.of "b" "1") "line"),
    .span (.published "ab" (.of "a" "1") (.of "b" "1") 80000 20 30)]

/-- The single span, with a second record of its first node. -/
def disputedSpan : SnapshotBuilder ℚ :=
  singleSpan.submitAll [.node { NodeRecord.published "a" with transitCost := 1 }]

/-- The numbers of a snapshot that are small and whole are doubles. -/
theorem TopologySnapshot.trusted_of_whole {snapshot : TopologySnapshot ℚ}
    (ids : ∀ call ∈ snapshot.calls, ∀ idText ∈ call.idTexts, TrustedText idText)
    (whole : ∀ call ∈ snapshot.calls, ∀ evidence ∈ call.published,
      ∀ value ∈ evidence.value?, value.den = 1 ∧ value.num.toNat < 100000 ∧
        0 ≤ value.num) : snapshot.Trusted wholeNumbers :=
  fun call member => ⟨ids call member,
    TopologySnapshot.numbersDouble_of_whole whole call member⟩

theorem text_identifies_evidence_describedSpan :
    (describedSpan.finished rationalRuntime).Interchangeable rationalRuntime
      (singleSpan.finished rationalRuntime) := by
  have isFirst : describedSpan.Seals rationalRuntime
      (describedSpan.finished rationalRuntime) :=
    .sealed _ (SnapshotBuilder.build_eq_ok (by decide +kernel))
  have isSecond : singleSpan.Seals rationalRuntime
      (singleSpan.finished rationalRuntime) :=
    .sealed _ (SnapshotBuilder.build_eq_ok (by decide +kernel))
  have conflicted : (describedSpan.finished rationalRuntime).conflicted =
      (singleSpan.finished rationalRuntime).conflicted := by decide +kernel
  have disputes : describedSpan.SameDisputes rationalRuntime singleSpan := by
    intro resource
    rw [← isFirst.disputes_iff, ← isSecond.disputes_iff, conflicted]
  have transmitters : (describedSpan.finished rationalRuntime).SameTransmitters
      (singleSpan.finished rationalRuntime) := by
    unfold TopologySnapshot.SameTransmitters
    decide +kernel
  exact ((text_identifies_evidence wholeNumbers describedSpan _ isFirst
    (TopologySnapshot.trusted_of_whole (by decide +kernel) (by decide +kernel))).1
      singleSpan _ isSecond
      (TopologySnapshot.trusted_of_whole (by decide +kernel) (by decide +kernel))
      (by decide +kernel) rfl).2 ⟨disputes, transmitters⟩

/-- The second record of a node is in no text, but it keeps planning from a
decision. -/
theorem disputedSpan_not_identified :
    ∃ first second, disputedSpan.build rationalRuntime = .ok first ∧
      singleSpan.build rationalRuntime = .ok second ∧
      first.Trusted wholeNumbers ∧ second.Trusted wholeNumbers ∧
      snapshotToText rationalRuntime.formatDouble first =
        snapshotToText rationalRuntime.formatDouble second ∧
      first.freshness = second.freshness ∧
      first.conflicted ≠ second.conflicted ∧
      first.coverageComplete ≠ second.coverageComplete ∧
      (plan rationalRuntime {} .idle first acrossSpan ()).1.outcome =
        .indeterminate ∧
      (plan rationalRuntime {} .idle second acrossSpan ()).1.outcome = .feasible ∧
      ¬ first.Interchangeable rationalRuntime second := by
  have conflicted : (disputedSpan.finished rationalRuntime).conflicted ≠
      (singleSpan.finished rationalRuntime).conflicted := by decide +kernel
  exact ⟨_, _, SnapshotBuilder.build_eq_ok (by decide +kernel),
    SnapshotBuilder.build_eq_ok (by decide +kernel),
    TopologySnapshot.trusted_of_whole (by decide +kernel) (by decide +kernel),
    TopologySnapshot.trusted_of_whole (by decide +kernel) (by decide +kernel),
    by decide +kernel, rfl, conflicted, by decide +kernel, by decide +kernel,
    by decide +kernel, fun alike => conflicted alike.conflicted⟩

end OpticalPathPlanner
