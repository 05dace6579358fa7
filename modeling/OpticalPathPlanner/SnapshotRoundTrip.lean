import OpticalPathPlanner.SnapshotEntries

/-!
# Reading a snapshot back

The text of a snapshot is one record per line.  Its first pass keeps the
records as they were written, and its second pass fills a builder with them.
So a legal snapshot is read back as whatever the builder makes of its own
records, provided that every list of failure domains fits in a token.
-/

namespace OpticalPathPlanner

open LineAssembler

/-! ### Filling a builder -/

theorem RecordList.ext {Record : Type} {named : Record → Bool} {limit : Nat}
    {first second : RecordList Record named limit}
    (same : first.records = second.records) : first = second := by
  cases first
  cases second
  cases same
  rfl

/-- One kind of records in a builder. -/
structure RecordSlot (K : Type) {Record : Type} (named : Record → Bool)
    (limit : Nat) where
  submission : Record → Submission K
  get : SnapshotBuilder K → RecordList Record named limit
  put : SnapshotBuilder K → RecordList Record named limit → SnapshotBuilder K
  get_put : ∀ builder list, get (put builder list) = list
  put_put : ∀ builder list other, put (put builder list) other = put builder other
  put_get : ∀ builder, put builder (get builder) = builder
  built_put : ∀ builder list, (put builder list).built = builder.built
  accept_eq : ∀ builder record list, builder.built = false →
    named record = true → (get builder).records.length < limit →
      list.records = (get builder).records ++ [record] →
        builder.accept (submission record) = .ok (put builder list)

section Slots

variable {K : Type}

/-- A list that takes a record as it is. -/
theorem RecordList.add_eq {Record : Type} {named : Record → Bool} {limit : Nat}
    {list next : RecordList Record named limit} {record : Record}
    (unnamed full : String) (isNamed : named record = true)
    (room : list.records.length < limit)
    (same : next.records = list.records ++ [record]) :
    list.add record unnamed full = (okStatus, next) := by
  unfold add
  rw [dif_pos isNamed, dif_pos room]
  exact congrArg (Prod.mk okStatus) (RecordList.ext same.symm)

def sourceSlot : RecordSlot K SourceRecord.named kMaxSources where
  submission := .source
  get := SnapshotBuilder.sources
  put builder list := { builder with sources := list }
  get_put _ _ := rfl
  put_put _ _ _ := rfl
  put_get _ := rfl
  built_put _ _ := rfl
  accept_eq builder record list unsealed named room same := by
    simp [SnapshotBuilder.accept, SnapshotBuilder.submit,
      SnapshotBuilder.addSource, unsealed, RecordList.add_eq _ _ named room same,
      Status.failed, okStatus]

def nodeSlot : RecordSlot K NodeRecord.named kMaxNodes where
  submission := .node
  get := SnapshotBuilder.nodes
  put builder list := { builder with nodes := list }
  get_put _ _ := rfl
  put_put _ _ _ := rfl
  put_get _ := rfl
  built_put _ _ := rfl
  accept_eq builder record list unsealed named room same := by
    simp [SnapshotBuilder.accept, SnapshotBuilder.submit,
      SnapshotBuilder.addNode, unsealed, RecordList.add_eq _ _ named room same,
      Status.failed, okStatus]

def portSlot : RecordSlot K PortRecord.named kMaxPorts where
  submission := .port
  get := SnapshotBuilder.ports
  put builder list := { builder with ports := list }
  get_put _ _ := rfl
  put_put _ _ _ := rfl
  put_get _ := rfl
  built_put _ _ := rfl
  accept_eq builder record list unsealed named room same := by
    simp [SnapshotBuilder.accept, SnapshotBuilder.submit,
      SnapshotBuilder.addPort, unsealed, RecordList.add_eq _ _ named room same,
      Status.failed, okStatus]

def spanSlot : RecordSlot K (SpanRecord.named : SpanRecord K → Bool) kMaxSpans where
  submission := .span
  get := SnapshotBuilder.spans
  put builder list := { builder with spans := list }
  get_put _ _ := rfl
  put_put _ _ _ := rfl
  put_get _ := rfl
  built_put _ _ := rfl
  accept_eq builder record list unsealed named room same := by
    simp [SnapshotBuilder.accept, SnapshotBuilder.submit,
      SnapshotBuilder.addSpan, unsealed, RecordList.add_eq _ _ named room same,
      Status.failed, okStatus]

def crossConnectSlot :
    RecordSlot K CrossConnectRecord.named kMaxCrossConnects where
  submission := .crossConnect
  get := SnapshotBuilder.crossConnects
  put builder list := { builder with crossConnects := list }
  get_put _ _ := rfl
  put_put _ _ _ := rfl
  put_get _ := rfl
  built_put _ _ := rfl
  accept_eq builder record list unsealed named room same := by
    simp [SnapshotBuilder.accept, SnapshotBuilder.submit,
      SnapshotBuilder.addCrossConnect, unsealed,
      RecordList.add_eq _ _ named room same, Status.failed, okStatus]

def profileSlot : RecordSlot K (ReachProfile.named : ReachProfile K → Bool)
    kMaxReachProfiles where
  submission := .reachProfile
  get := SnapshotBuilder.profiles
  put builder list := { builder with profiles := list }
  get_put _ _ := rfl
  put_put _ _ _ := rfl
  put_get _ := rfl
  built_put _ _ := rfl
  accept_eq builder record list unsealed named room same := by
    simp [SnapshotBuilder.accept, SnapshotBuilder.submit,
      SnapshotBuilder.addReachProfile, unsealed,
      RecordList.add_eq _ _ named room same, Status.failed, okStatus]

/-- Named records of one kind are accepted as long as there is room. -/
theorem RecordSlot.foldlM_accept {Record : Type} {named : Record → Bool}
    {limit : Nat} (slot : RecordSlot K named limit) (records : List Record)
    (builder : SnapshotBuilder K) (unsealed : builder.built = false)
    (allNamed : ∀ record ∈ records, named record = true)
    (room : (slot.get builder).records.length + records.length ≤ limit) :
    ∃ list, list.records = (slot.get builder).records ++ records ∧
      (records.map slot.submission).foldlM SnapshotBuilder.accept builder =
        .ok (slot.put builder list) := by
  induction records generalizing builder with
  | nil => exact ⟨slot.get builder, by simp, by rw [slot.put_get]; rfl⟩
  | cons record rest ih =>
      rw [List.forall_mem_cons] at allNamed
      rw [List.length_cons] at room
      let middle : RecordList Record named limit :=
        { records := (slot.get builder).records ++ [record]
          all_named := by
            rw [List.forall_mem_append]
            exact ⟨(slot.get builder).all_named, by simpa using allNamed.1⟩
          bounded := by
            rw [List.length_append, List.length_singleton]
            omega }
      have first := slot.accept_eq builder record middle unsealed allNamed.1
        (by omega) rfl
      obtain ⟨list, records_eq, folded⟩ := ih (slot.put builder middle)
        (by rw [slot.built_put, unsealed]) allNamed.2 (by
          rw [slot.get_put]
          simp only [middle, List.length_append, List.length_singleton]
          omega)
      refine ⟨list, ?_, ?_⟩
      · rw [records_eq, slot.get_put]
        simp [middle]
      · rw [slot.put_put] at folded
        rw [List.map_cons, List.foldlM_cons, first]
        exact folded

/-- The same into an empty list. -/
theorem RecordSlot.foldlM_accept_empty {Record : Type} {named : Record → Bool}
    {limit : Nat} (slot : RecordSlot K named limit) (records : List Record)
    (builder : SnapshotBuilder K) (unsealed : builder.built = false)
    (empty : (slot.get builder).records = [])
    (allNamed : ∀ record ∈ records, named record = true)
    (room : records.length ≤ limit) :
    ∃ list, list.records = records ∧
      (records.map slot.submission).foldlM SnapshotBuilder.accept builder =
        .ok (slot.put builder list) := by
  have added := slot.foldlM_accept records builder unsealed allNamed
    (by simpa [empty] using room)
  simpa [empty] using added

end Slots

/-! ### The records of a snapshot -/

namespace TopologySnapshot

variable {K : Type}

/-- The records of a snapshot in the order of its text. -/
def calls (snapshot : TopologySnapshot K) : List (Submission K) :=
  List.flatten [
    snapshot.sources.map .source,
    snapshot.reachProfiles.map .reachProfile,
    snapshot.nodes.map .node,
    snapshot.ports.map .port,
    snapshot.spans.map .span,
    snapshot.crossConnects.map .crossConnect]

theorem forall_mem_calls {snapshot : TopologySnapshot K}
    {holds : Submission K → Prop} :
    (∀ call ∈ snapshot.calls, holds call) ↔
      (∀ record ∈ snapshot.sources, holds (.source record)) ∧
      (∀ record ∈ snapshot.reachProfiles, holds (.reachProfile record)) ∧
      (∀ record ∈ snapshot.nodes, holds (.node record)) ∧
      (∀ record ∈ snapshot.ports, holds (.port record)) ∧
      (∀ record ∈ snapshot.spans, holds (.span record)) ∧
      ∀ record ∈ snapshot.crossConnects, holds (.crossConnect record) := by
  simp only [calls, List.flatten_cons, List.flatten_nil, List.append_nil,
    List.forall_mem_append, List.forall_mem_map]

/-- The lines about the snapshot itself. -/
def frontRecords (snapshot : TopologySnapshot K) : List (List Bytes) :=
  [[text "OPP-SNAPSHOT", formatU64 kSnapshotFormatVersion],
    [text "id", encodeToken snapshot.id.str],
    [text "generation", formatU64 snapshot.generation.toNat],
    [text "grid", encodeToken snapshot.spectrum.grid.name],
    [text "slots", formatU64 snapshot.spectrum.slotCount]]

def records (formatDouble : K → Bytes) (snapshot : TopologySnapshot K) :
    List (List Bytes) :=
  snapshot.frontRecords ++ snapshot.calls.map (Submission.tokens formatDouble)

theorem snapshotToText_eq (formatDouble : K → Bytes)
    (snapshot : TopologySnapshot K) :
    snapshotToText formatDouble snapshot =
      (snapshot.records formatDouble).flatMap writeRecord := by
  have header : text "OPP-SNAPSHOT 1\n" =
      writeRecord [text "OPP-SNAPSHOT", formatU64 kSnapshotFormatVersion] := by
    decide
  have lines : (snapshot.calls.map (Submission.tokens formatDouble)).flatMap
      writeRecord = snapshot.calls.flatMap (Submission.line formatDouble) := by
    rw [List.flatMap_map, funext (Submission.line_eq formatDouble)]
  unfold records snapshotToText
  rw [List.flatMap_append, lines, header]
  simp only [frontRecords, calls, ofRecord_eq, add_joinTokens,
    addU64_joinTokens, emit_joinTokens, ne_eq, String.reduceEq,
    not_false_eq_true, List.flatten_cons, List.flatten_nil, List.flatMap_append,
    List.flatMap_map, List.flatMap_cons, List.flatMap_nil, List.append_nil,
    List.append_assoc, List.nil_append]
  rfl

end TopologySnapshot

/-- What the types of the source and the limits of a builder promise of a
snapshot, beside valid identifiers. -/
structure TopologySnapshot.Legal {K : Type} {formatDouble : K → Bytes}
    (numbers : DoubleText formatDouble) (snapshot : TopologySnapshot K) :
    Prop where
  id : snapshot.id.Valid
  slotCount : snapshot.spectrum.slotCount < 2 ^ 16
  calls : ∀ call ∈ snapshot.calls, call.Legal numbers
  sources : snapshot.sources.length ≤ kMaxSources
  profiles : snapshot.reachProfiles.length ≤ kMaxReachProfiles
  nodes : snapshot.nodes.length ≤ kMaxNodes
  ports : snapshot.ports.length ≤ kMaxPorts
  spans : snapshot.spans.length ≤ kMaxSpans
  crossConnects : snapshot.crossConnects.length ≤ kMaxCrossConnects

/-! ### The first pass -/

section FirstPass

variable {K : Type} {formatDouble : K → Bytes} {numbers : DoubleText formatDouble}
  {snapshot : TopologySnapshot K}

/-- What the lines about the snapshot itself leave behind. -/
def TopologySnapshot.frontReader (snapshot : TopologySnapshot K) :
    SnapshotReader where
  headerSeen := true
  id := some snapshot.id
  generation := some snapshot.generation
  grid := some snapshot.spectrum.grid
  slots := some (UInt16.ofNat snapshot.spectrum.slotCount)

namespace TopologySnapshot.Legal

theorem frontRecords_clean (legal : snapshot.Legal numbers) :
    ∀ record ∈ snapshot.frontRecords, CleanRecord record := by
  have slots : snapshot.spectrum.slotCount < 2 ^ 64 :=
    legal.slotCount.trans (by decide)
  simp only [frontRecords, List.forall_mem_cons, List.not_mem_nil,
    false_implies, implies_true, and_true]
  refine ⟨?_, ?_, ?_, ?_, ?_⟩
  · exact CleanRecord.of_spelled
      (.cons (Spelled.constant (by decide) : Spelled 12 _)
        (.cons (Spelled.constant (by decide) : Spelled 1 _) .nil)) (by decide)
  · exact CleanRecord.of_spelled
      (.cons (Spelled.constant (by decide) : Spelled 2 _)
        (.cons legal.id.spelled_encodeToken .nil)) (by decide)
  · exact CleanRecord.of_spelled
      (.cons (Spelled.constant (by decide) : Spelled 10 _)
        (.cons (spelled_formatU64 snapshot.generation.toNat_lt) .nil)) (by decide)
  · refine CleanRecord.of_spelled
      (.cons (Spelled.constant (by decide) : Spelled 4 _)
        (.cons (?_ : Spelled 8 _) .nil)) (by decide)
    cases snapshot.spectrum.grid <;> exact Spelled.constant (by decide)
  · exact CleanRecord.of_spelled
      (.cons (Spelled.constant (by decide) : Spelled 5 _)
        (.cons (spelled_formatU64 slots) .nil)) (by decide)

/-- The lines about the snapshot itself are read back. -/
theorem consumes_frontRecords (legal : snapshot.Legal numbers) :
    Consumes readSnapshotLine {} snapshot.frontRecords snapshot.frontReader := by
  have version : parseU32 (formatU64 1) = .ok 1 :=
    parseU32_formatU64_nat (by decide)
  have id : SnapshotKeyword.parse (text "id") = some .id := by decide
  have generation : SnapshotKeyword.parse (text "generation") =
      some .generation := by decide
  have grid : SnapshotKeyword.parse (text "grid") = some .grid := by decide
  have slots : SnapshotKeyword.parse (text "slots") = some .slots := by decide
  have count := parseU16_formatU64_nat legal.slotCount
  intro number
  unfold frontRecords
  simp [readSnapshotLine, readSnapshotHeader, tokenAt, version, id, generation,
    grid, slots, onlyValue, count, legal.id.encodeToken_str,
    StrongId.parse_str legal.id, frontReader, kSnapshotFormatVersion]

/-- The records are kept as they were written. -/
theorem consumes_records {reader : SnapshotReader}
    {calls : List (Submission K)} (seen : reader.headerSeen = true)
    (room : reader.records.length + calls.length ≤ kMaxSnapshotRecords) :
    Consumes readSnapshotLine reader
      (calls.map (Submission.tokens formatDouble))
      { reader with
        records := reader.records ++
          calls.map (Submission.tokens formatDouble) } := by
  induction calls generalizing reader with
  | nil => simpa using Consumes.nil reader
  | cons call rest ih =>
      rw [List.length_cons] at room
      have keyword : SnapshotKeyword.parse
          (tokenAt (call.tokens formatDouble) 0) = some (.record call.kind) :=
        SnapshotKeyword.parse_name (.record call.kind)
      have fits : ¬ (reader.records ++ [call.tokens formatDouble]).length >
          kMaxSnapshotRecords := by
        rw [List.length_append, List.length_singleton]
        omega
      rw [List.map_cons]
      let middle : SnapshotReader :=
        { reader with records := reader.records ++ [call.tokens formatDouble] }
      have first : ∀ number, readSnapshotLine reader number
          (call.tokens formatDouble) = .ok middle := by
        intro number
        simp only [readSnapshotLine, seen, keyword, if_neg fits,
          Bool.true_eq_false, if_false, middle]
      have later := @ih middle seen (by
        simp only [middle, List.length_append, List.length_singleton]
        omega)
      refine Consumes.cons first ?_
      simpa [middle] using later

/-- What the first pass leaves behind. -/
def reader (formatDouble : K → Bytes) (snapshot : TopologySnapshot K) :
    SnapshotReader :=
  { snapshot.frontReader with
    records := snapshot.calls.map (Submission.tokens formatDouble) }

theorem calls_length_le (legal : snapshot.Legal numbers) :
    snapshot.calls.length ≤ kMaxSnapshotRecords := by
  have := legal.sources
  have := legal.profiles
  have := legal.nodes
  have := legal.ports
  have := legal.spans
  have := legal.crossConnects
  simp only [TopologySnapshot.calls, List.length_flatten, List.map_cons,
    List.length_map, List.map_nil, List.sum_cons, List.sum_nil,
    kMaxSnapshotRecords]
  omega

theorem plainRecords (legal : snapshot.Legal numbers) :
    ∀ record ∈ snapshot.records formatDouble, PlainRecord record := by
  unfold records
  rw [List.forall_mem_append, List.forall_mem_map]
  exact ⟨fun record member => (legal.frontRecords_clean record member).plain,
    fun call member => (legal.calls call member).plainRecord⟩

theorem fitsLines_iff (legal : snapshot.Legal numbers) :
    (∀ record ∈ snapshot.records formatDouble, FitsLine record) ↔
      ∀ call ∈ snapshot.calls, call.DomainsFit := by
  unfold records
  rw [List.forall_mem_append, List.forall_mem_map]
  constructor
  · intro fits call member
    exact (legal.calls call member).fitsLine_iff.mp (fits.2 call member)
  · intro fits
    exact ⟨fun record member => (legal.frontRecords_clean record member).fits,
      fun call member => (legal.calls call member).fitsLine_iff.mpr
        (fits call member)⟩

/-- The first pass takes the text of a snapshot apart, when its lists of
failure domains fit. -/
theorem readRecords_iff (legal : snapshot.Legal numbers)
    {result : SnapshotReader} :
    readRecords readSnapshotLine {} (snapshotToText formatDouble snapshot) =
        .ok result ↔
      (∀ call ∈ snapshot.calls, call.DomainsFit) ∧
        result = reader formatDouble snapshot := by
  have consumes : Consumes readSnapshotLine {} (snapshot.records formatDouble)
      (reader formatDouble snapshot) := by
    unfold records
    refine legal.consumes_frontRecords.append ?_
    simpa [frontReader, reader] using consumes_records
      (rfl : snapshot.frontReader.headerSeen = true)
      (by simpa [frontReader] using legal.calls_length_le)
  rw [snapshotToText_eq, readRecords_flatMap_eq_ok_iff legal.plainRecords,
    legal.fitsLines_iff, consumes 1, Except.ok.injEq]
  exact and_congr_right fun _ => eq_comm

end TopologySnapshot.Legal

end FirstPass

/-! ### The second pass -/

/-- A fresh builder that holds the records of a snapshot as they are read
back. -/
structure SnapshotBuilder.Rereads {K : Type} (builder : SnapshotBuilder K)
    (snapshot : TopologySnapshot K) : Prop where
  id : builder.id = snapshot.id
  generation : builder.generation = snapshot.generation
  spectrum : builder.spectrum = snapshot.spectrum
  options : builder.options = {}
  unsealed : builder.built = false
  sources : builder.sources.records = snapshot.sources.map SourceRecord.reread
  nodes : builder.nodes.records = snapshot.nodes
  ports : builder.ports.records = snapshot.ports.map PortRecord.reread
  spans : builder.spans.records = snapshot.spans
  crossConnects : builder.crossConnects.records = snapshot.crossConnects
  profiles : builder.profiles.records = snapshot.reachProfiles

section SecondPass

variable {K : Type} {formatDouble : K → Bytes} {numbers : DoubleText formatDouble}
  {snapshot : TopologySnapshot K}

theorem StrongId.Valid.named {tag : IdentityTag} {id : StrongId tag}
    (valid : id.Valid) : id.empty = false :=
  List.isEmpty_eq_false_iff.mpr valid.ne_nil

theorem map_reread_calls :
    snapshot.calls.map Submission.reread = List.flatten [
      (snapshot.sources.map SourceRecord.reread).map sourceSlot.submission,
      snapshot.reachProfiles.map profileSlot.submission,
      snapshot.nodes.map nodeSlot.submission,
      (snapshot.ports.map PortRecord.reread).map portSlot.submission,
      snapshot.spans.map spanSlot.submission,
      snapshot.crossConnects.map crossConnectSlot.submission] := by
  simp only [TopologySnapshot.calls, List.map_flatten, List.map_cons,
    List.map_map, List.map_nil]
  rfl

namespace TopologySnapshot.Legal

/-- The records of a legal snapshot fill a fresh builder. -/
theorem exists_filled (legal : snapshot.Legal numbers) :
    ∃ builder : SnapshotBuilder K, builder.Rereads snapshot ∧
      (snapshot.calls.map Submission.reread).foldlM SnapshotBuilder.accept
        (.new snapshot.id snapshot.generation snapshot.spectrum {}) =
          .ok builder := by
  obtain ⟨sources, profiles, nodes, ports, spans, crossConnects⟩ :=
    forall_mem_calls.mp legal.calls
  let start : SnapshotBuilder K :=
    .new snapshot.id snapshot.generation snapshot.spectrum {}
  obtain ⟨sourceList, sourceRecords, afterSources⟩ :=
    sourceSlot.foldlM_accept_empty (snapshot.sources.map SourceRecord.reread)
      start rfl rfl
      (List.forall_mem_map.mpr fun record member => by
        simp [SourceRecord.named, SourceRecord.reread,
          (sources record member : record.id.Valid).named])
      (by simpa using legal.sources)
  let withSources := sourceSlot.put start sourceList
  obtain ⟨profileList, profileRecords, afterProfiles⟩ :=
    profileSlot.foldlM_accept_empty snapshot.reachProfiles withSources rfl rfl
      (fun record member => by
        simp [ReachProfile.named, (profiles record member).1.named])
      legal.profiles
  let withProfiles := profileSlot.put withSources profileList
  obtain ⟨nodeList, nodeRecords, afterNodes⟩ :=
    nodeSlot.foldlM_accept_empty snapshot.nodes withProfiles rfl rfl
      (fun record member => by
        simp [NodeRecord.named, (nodes record member).1.named])
      legal.nodes
  let withNodes := nodeSlot.put withProfiles nodeList
  obtain ⟨portList, portRecords, afterPorts⟩ :=
    portSlot.foldlM_accept_empty (snapshot.ports.map PortRecord.reread)
      withNodes rfl rfl
      (List.forall_mem_map.mpr fun record member => by
        have key := (ports record member).1
        simp [PortRecord.named, PortRecord.reread, key.1.named, key.2.named])
      (by simpa using legal.ports)
  let withPorts := portSlot.put withNodes portList
  obtain ⟨spanList, spanRecords, afterSpans⟩ :=
    spanSlot.foldlM_accept_empty snapshot.spans withPorts rfl rfl
      (fun record member => by
        simp [SpanRecord.named, (spans record member).1.1.named])
      legal.spans
  let withSpans := spanSlot.put withPorts spanList
  obtain ⟨crossConnectList, crossConnectRecords, afterCrossConnects⟩ :=
    crossConnectSlot.foldlM_accept_empty snapshot.crossConnects withSpans rfl rfl
      (fun record member => by
        simp [CrossConnectRecord.named, (crossConnects record member).1.1.named])
      legal.crossConnects
  refine ⟨crossConnectSlot.put withSpans crossConnectList,
    ⟨rfl, rfl, rfl, rfl, rfl, sourceRecords, nodeRecords, portRecords,
      spanRecords, crossConnectRecords, profileRecords⟩, ?_⟩
  rw [map_reread_calls]
  simp only [List.flatten_cons, List.flatten_nil, List.append_nil,
    List.foldlM_append]
  rw [afterSources, ok_bind, afterProfiles, ok_bind, afterNodes, ok_bind,
    afterPorts, ok_bind, afterSpans, ok_bind]
  exact afterCrossConnects

end TopologySnapshot.Legal

omit formatDouble in
/-- The records of a snapshot decide the builder. -/
theorem SnapshotBuilder.Rereads.unique {first second : SnapshotBuilder K}
    (isFirst : first.Rereads snapshot) (isSecond : second.Rereads snapshot) :
    first = second := by
  have sources := RecordList.ext (isFirst.sources.trans isSecond.sources.symm)
  have nodes := RecordList.ext (isFirst.nodes.trans isSecond.nodes.symm)
  have ports := RecordList.ext (isFirst.ports.trans isSecond.ports.symm)
  have spans := RecordList.ext (isFirst.spans.trans isSecond.spans.symm)
  have crossConnects := RecordList.ext
    (isFirst.crossConnects.trans isSecond.crossConnects.symm)
  have profiles := RecordList.ext (isFirst.profiles.trans isSecond.profiles.symm)
  have id := isFirst.id.trans isSecond.id.symm
  have generation := isFirst.generation.trans isSecond.generation.symm
  have spectrum := isFirst.spectrum.trans isSecond.spectrum.symm
  have options := isFirst.options.trans isSecond.options.symm
  have unsealed := isFirst.unsealed.trans isSecond.unsealed.symm
  cases first
  cases second
  simp only at *
  subst id generation spectrum options sources nodes ports spans crossConnects
    profiles unsealed
  rfl

/-- The records of a text are added one by one. -/
theorem foldlM_addRecord {calls : List (Submission K)}
    {builder next : SnapshotBuilder K}
    (legal : ∀ call ∈ calls, call.Legal numbers)
    (accepted : (calls.map Submission.reread).foldlM SnapshotBuilder.accept
      builder = .ok next) (number : Nat) :
    ((calls.map (Submission.tokens formatDouble)).zipIdx number).foldlM
      (addRecord numbers) builder = .ok next := by
  induction calls generalizing builder number with
  | nil => exact accepted
  | cons call rest ih =>
      rw [List.forall_mem_cons] at legal
      rw [List.map_cons, List.foldlM_cons] at accepted
      rw [List.map_cons, List.zipIdx_cons, List.foldlM_cons]
      have read := Submission.readSubmission_tokens legal.1
      cases first : builder.accept call.reread with
      | error status =>
          rw [first] at accepted
          cases accepted
      | ok middle =>
          rw [first, ok_bind] at accepted
          have added : addRecord numbers builder
              (call.tokens formatDouble, number) = .ok middle := by
            rw [addRecord, read, ok_bind, first]
            rfl
          rw [added, ok_bind]
          exact ih legal.2 accepted (number + 1)

theorem TopologySnapshot.Legal.open_reader (legal : snapshot.Legal numbers) :
    (reader formatDouble snapshot).open_ =
      .ok (.new snapshot.id snapshot.generation snapshot.spectrum {} :
        SnapshotBuilder K) := by
  have count : (UInt16.ofNat snapshot.spectrum.slotCount).toNat =
      snapshot.spectrum.slotCount := by
    simpa using legal.slotCount
  simp [SnapshotReader.open_, reader, TopologySnapshot.frontReader, count]

end SecondPass

section Parsing

variable {K : Type} [Field K] [LinearOrder K] {runtime : Runtime K}
  {numbers : DoubleText runtime.formatDouble} {snapshot result : TopologySnapshot K}

/-- The text of a legal snapshot is read as what a builder of its records
seals. -/
theorem TopologySnapshot.Legal.parse_iff (legal : snapshot.Legal numbers) :
    parseSnapshotText numbers (snapshotToText runtime.formatDouble snapshot) =
        .ok result ↔
      (snapshotToText runtime.formatDouble snapshot).length ≤
          kMaxSnapshotTextBytes ∧
        (∀ call ∈ snapshot.calls, call.DomainsFit) ∧
        ∃ builder : SnapshotBuilder K, builder.Rereads snapshot ∧
          builder.build runtime = .ok result := by
  obtain ⟨filled, rereads, accepted⟩ := legal.exists_filled
  have added := foldlM_addRecord legal.calls accepted 1
  have second : (reader runtime.formatDouble snapshot).records =
      snapshot.calls.map (Submission.tokens runtime.formatDouble) := rfl
  unfold parseSnapshotText
  by_cases long : (snapshotToText runtime.formatDouble snapshot).length >
      kMaxSnapshotTextBytes
  · rw [if_pos long]
    exact iff_of_false (by simp) fun parts => absurd parts.1 (not_le.mpr long)
  rw [if_neg long]
  cases first : readRecords readSnapshotLine {}
      (snapshotToText runtime.formatDouble snapshot) with
  | error status =>
      rw [error_bind]
      refine iff_of_false (by simp) fun parts => ?_
      rw [legal.readRecords_iff.mpr ⟨parts.2.1, rfl⟩] at first
      cases first
  | ok found =>
      obtain ⟨fit, rfl⟩ := legal.readRecords_iff.mp first
      rw [ok_bind, legal.open_reader, ok_bind, second, added, ok_bind]
      constructor
      · intro built
        exact ⟨not_lt.mp long, fit, filled, rereads, built⟩
      · rintro ⟨-, -, builder, alike, built⟩
        rw [alike.unique rereads] at built
        exact built

end Parsing

end OpticalPathPlanner
