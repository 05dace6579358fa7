import OpticalPathPlanner.AcceptedPlans
import OpticalPathPlanner.RereadSnapshots

/-!
# Texts of accepted snapshots

A text is accepted when every record of it can be read and the builder seals
them all.  What the readers let through can be written again: identifiers are
valid, numbers are doubles, no profile is named like a state of knowledge, and
the failure domains came from one token and fit into one.  So the canonical text
of an accepted snapshot is accepted itself, and it is its own canonical text.
-/

namespace OpticalPathPlanner

variable {K : Type}

/-! ### Fields that were read -/

/-- A field that is found stands among the tokens. -/
theorem mem_of_findKeyedField {values : List Bytes} {first : Nat} {key : String}
    {value : Bytes} (found : findKeyedField values first key = .ok value) :
    text key ++ 61 :: value ∈ values := by
  unfold findKeyedField at found
  split at found
  · cases found
  · next other only =>
      obtain rfl := Except.ok.inj found
      have member : other ∈ (values.drop first).filterMap
          (keyedValue? (text key)) := by
        rw [only]
        exact List.mem_cons_self
      obtain ⟨token, inValues, spelled⟩ := List.mem_filterMap.mp member
      exact keyedValue?_eq_some_iff.mp spelled ▸ List.mem_of_mem_drop inValues
  · cases found

theorem collectDomains_spec {pieces : List Bytes}
    {before result : List FailureDomainId}
    (bounded : before.length ≤ kMaxDomainsPerResource)
    (read : collectDomains before pieces = .ok result) :
    ∃ domains, result = before ++ domains ∧
      domains.map StrongId.str = pieces ∧ (∀ domain ∈ domains, domain.Valid) ∧
      result.length ≤ kMaxDomainsPerResource := by
  induction pieces generalizing before with
  | nil =>
      cases read
      exact ⟨[], by simp, rfl, by simp, bounded⟩
  | cons piece rest ih =>
      rw [collectDomains] at read
      split at read
      · cases read
      · next domain parsed =>
          obtain ⟨spelled, valid⟩ := StrongId.parse_eq_ok_iff.mp parsed
          split_ifs at read with room
          obtain ⟨domains, rfl, pieces, allValid, short⟩ :=
            ih (not_lt.mp room) read
          refine ⟨domain :: domains, by simp, by simp [spelled, pieces], ?_, short⟩
          exact List.forall_mem_cons.mpr ⟨valid, allValid⟩

/-- A list of failure domains is spelled as it was read. -/
theorem parseDomains_spec {bytes : Bytes} {domains : List FailureDomainId}
    (read : parseDomains bytes = .ok domains) :
    DomainList domains ∧ joinCommas (domains.map StrongId.str) = bytes := by
  unfold parseDomains at read
  split_ifs at read with empty
  · cases read
    exact ⟨⟨by simp, by simp⟩, (List.isEmpty_iff.mp empty).symm⟩
  · obtain ⟨found, rfl, pieces, valid, short⟩ :=
      collectDomains_spec (Nat.zero_le _) read
    refine ⟨⟨valid, short⟩, ?_⟩
    rw [pieces, joinCommas_eq]
    exact List.intercalate_splitOn 44

/-- How many bytes a token has for failure domains. -/
def DomainsShort (domains : List FailureDomainId) : Prop :=
  (joinCommas (domains.map StrongId.str)).length + 8 ≤ kMaxTokenBytes

instance (domains : List FailureDomainId) : Decidable (DomainsShort domains) :=
  inferInstanceAs (Decidable (_ ≤ _))

theorem readDomains_spec {values : List Bytes} {first : Nat}
    {domains : List FailureDomainId}
    (short : ∀ token ∈ values, token.length ≤ kMaxTokenBytes)
    (read : readDomains values first = .ok domains) :
    DomainList domains ∧ DomainsShort domains := by
  unfold readDomains at read
  split at read
  · next list found =>
      obtain ⟨legal, spelled⟩ := parseDomains_spec read
      have key : (text "domains").length = 7 := rfl
      have fits := short _ (mem_of_findKeyedField found)
      simp only [List.length_append, List.length_cons, key] at fits
      refine ⟨legal, ?_⟩
      rw [DomainsShort, spelled]
      omega
  · cases read
    exact ⟨⟨by simp, by simp⟩, by decide⟩

theorem isDouble_of_parseEvidence {formatDouble : K → Bytes}
    {numbers : DoubleText formatDouble} {token : Bytes} {evidence : Evidence K}
    (read : parseEvidence numbers.parseDouble token = .ok evidence) :
    evidence.IsDouble numbers := by
  rintro value rfl
  unfold parseEvidence at read
  split_ifs at read
  · cases read
  · cases read
  · cases parsed : numbers.parseDouble token with
    | error status => simp [parsed] at read
    | ok other =>
        rw [parsed] at read
        cases read
        exact DoubleText.isDouble_of_parseDouble parsed

/-- A profile that was read is not named like a state of knowledge. -/
theorem readProfile_spec {token : Bytes} {evidence : Evidence (Option ProfileId)}
    (read : parseEvidence readProfileId token = .ok evidence) :
    ValidProfile evidence ∧ rereadProfile evidence = evidence := by
  unfold parseEvidence at read
  split_ifs at read with unknown conflicting
  · cases read
    exact ⟨fun _ same => (by cases same), rfl⟩
  · cases read
    exact ⟨fun _ same => (by cases same), rfl⟩
  · unfold readProfileId at read
    split_ifs at read
    · cases read
      exact ⟨fun _ same => (by cases same), rfl⟩
    · cases parsed : StrongId.parse .profile token with
      | error status => simp [parsed] at read
      | ok id =>
          obtain ⟨spelled, valid⟩ := StrongId.parse_eq_ok_iff.mp parsed
          rw [parsed] at read
          cases read
          refine ⟨fun other same => ?_, rereadProfile_eq_self_iff.mpr ?_⟩
          · cases same
            exact valid
          · intro other same
            cases same
            rw [Unreserved, spelled]
            exact ⟨unknown, conflicting⟩

/-! ### Records that were read -/

/-- A record that its own line is read back as. -/
structure Submission.Read {formatDouble : K → Bytes}
    (numbers : DoubleText formatDouble) (call : Submission K) : Prop where
  legal : call.Legal numbers
  same : call.reread = call
  fit : call.DomainsFit

section Readers

variable {formatDouble : K → Bytes} {numbers : DoubleText formatDouble}
  {values : List Bytes}

theorem readOrigin_spec {first : Nat} {origin : SourceId × Generation}
    (read : readOrigin values first = .ok origin) : origin.1.Valid := by
  unfold readOrigin at read
  simp only [bind_eq_ok_iff, pure_eq_ok, Except.ok.injEq] at read
  obtain ⟨_, _, source, readSource, _, _, _, _, rfl⟩ := read
  exact StrongId.valid_of_parse readSource

theorem readEnds_spec {ends : PortKey × PortKey}
    (read : readEnds values = .ok ends) : ends.1.Valid ∧ ends.2.Valid := by
  unfold readEnds at read
  simp only [bind_eq_ok_iff, pure_eq_ok, Except.ok.injEq] at read
  obtain ⟨_, fromNode, _, fromPort, _, toNode, _, toPort, rfl⟩ := read
  exact ⟨⟨StrongId.valid_of_parse fromNode, StrongId.valid_of_parse fromPort⟩,
    ⟨StrongId.valid_of_parse toNode, StrongId.valid_of_parse toPort⟩⟩

theorem readSource_spec {record : SourceRecord}
    (read : readSource values = .ok record) :
    (Submission.source record : Submission K).Read numbers := by
  unfold readSource at read
  split_ifs at read
  simp only [bind_eq_ok_iff, pure_eq_ok, Except.ok.injEq] at read
  obtain ⟨id, readId, _, _, _, _, rfl⟩ := read
  exact ⟨StrongId.valid_of_parse readId, rfl, (by decide : DomainsShort [])⟩

theorem readNode_spec {record : NodeRecord}
    (short : ∀ token ∈ values, token.length ≤ kMaxTokenBytes)
    (read : readNode values = .ok record) :
    (Submission.node record : Submission K).Read numbers := by
  unfold readNode at read
  split_ifs at read
  obtain ⟨id, readId, read⟩ := bind_eq_ok_iff.mp read
  split at read
  · cases read
  · simp only [bind_eq_ok_iff, pure_eq_ok, Except.ok.injEq] at read
    obtain ⟨_, _, _, _, _, _, _, _, _, _, origin, fromOrigin, domains, fromDomains,
      rfl⟩ := read
    obtain ⟨list, fit⟩ := readDomains_spec short fromDomains
    exact ⟨⟨StrongId.valid_of_parse readId, readOrigin_spec fromOrigin, list⟩, rfl,
      fit⟩

theorem readPort_spec {record : PortRecord}
    (short : ∀ token ∈ values, token.length ≤ kMaxTokenBytes)
    (read : readPort values = .ok record) :
    (Submission.port record : Submission K).Read numbers := by
  unfold readPort at read
  split_ifs at read
  obtain ⟨node, readNode, read⟩ := bind_eq_ok_iff.mp read
  obtain ⟨port, readPort, read⟩ := bind_eq_ok_iff.mp read
  split at read
  · cases read
  · simp only [bind_eq_ok_iff, pure_eq_ok, Except.ok.injEq] at read
    obtain ⟨_, _, _, _, _, _, profile, fromProfile, _, _, _, _, _, _, _, _, origin,
      fromOrigin, domains, fromDomains, rfl⟩ := read
    obtain ⟨list, fit⟩ := readDomains_spec short fromDomains
    obtain ⟨valid, same⟩ := readProfile_spec fromProfile
    refine ⟨⟨⟨StrongId.valid_of_parse readNode, StrongId.valid_of_parse readPort⟩,
      valid, readOrigin_spec fromOrigin, list⟩, ?_, fit⟩
    simp only [Submission.reread, PortRecord.reread, same]

theorem readSpan_spec {record : SpanRecord K}
    (short : ∀ token ∈ values, token.length ≤ kMaxTokenBytes)
    (read : readSpan numbers values = .ok record) :
    (Submission.span record).Read numbers := by
  unfold readSpan at read
  split_ifs at read
  simp only [bind_eq_ok_iff, pure_eq_ok, Except.ok.injEq] at read
  obtain ⟨id, readId, ends, fromEnds, _, _, _, _, _, _, _, _, loss, fromLoss, _, _,
    osnr, fromOsnr, _, _, _, _, _, _, _, _, _, _, _, _, origin, fromOrigin, domains,
    fromDomains, rfl⟩ := read
  obtain ⟨list, fit⟩ := readDomains_spec short fromDomains
  obtain ⟨validFrom, validTo⟩ := readEnds_spec fromEnds
  exact ⟨⟨⟨StrongId.valid_of_parse readId, validFrom, validTo⟩,
    ⟨isDouble_of_parseEvidence fromLoss, isDouble_of_parseEvidence fromOsnr⟩,
    readOrigin_spec fromOrigin, list⟩, rfl, fit⟩

theorem readCrossConnect_spec {record : CrossConnectRecord}
    (short : ∀ token ∈ values, token.length ≤ kMaxTokenBytes)
    (read : readCrossConnect values = .ok record) :
    (Submission.crossConnect record : Submission K).Read numbers := by
  unfold readCrossConnect at read
  split_ifs at read
  obtain ⟨id, readId, read⟩ := bind_eq_ok_iff.mp read
  obtain ⟨ends, fromEnds, read⟩ := bind_eq_ok_iff.mp read
  split at read
  · cases read
  · simp only [bind_eq_ok_iff, pure_eq_ok, Except.ok.injEq] at read
    obtain ⟨_, _, _, _, _, _, _, _, _, _, _, _, origin, fromOrigin, domains,
      fromDomains, rfl⟩ := read
    obtain ⟨list, fit⟩ := readDomains_spec short fromDomains
    obtain ⟨validFrom, validTo⟩ := readEnds_spec fromEnds
    exact ⟨⟨⟨StrongId.valid_of_parse readId, validFrom, validTo⟩,
      readOrigin_spec fromOrigin, list⟩, rfl, fit⟩

theorem readProfile_legal {record : ReachProfile K}
    (read : readProfile numbers values = .ok record) :
    (Submission.reachProfile record).Read numbers := by
  unfold readProfile at read
  split_ifs at read
  simp only [bind_eq_ok_iff, pure_eq_ok, Except.ok.injEq] at read
  obtain ⟨id, readId, _, _, _, _, _, _, _, _, _, _, loss, fromLoss, _, _, osnr,
    fromOsnr, origin, fromOrigin, rfl⟩ := read
  exact ⟨⟨StrongId.valid_of_parse readId,
    ⟨isDouble_of_parseEvidence fromLoss, isDouble_of_parseEvidence fromOsnr⟩,
    readOrigin_spec fromOrigin⟩, rfl, (by decide : DomainsShort [])⟩

theorem exists_of_map_eq_ok {α β : Type} {result : Except Status α} {wrap : α → β}
    {value : β} (read : wrap <$> result = .ok value) :
    ∃ inner, result = .ok inner ∧ wrap inner = value := by
  cases result with
  | error status => cases read
  | ok inner => exact ⟨inner, rfl, Except.ok.inj read⟩

theorem readSubmission_spec {call : Submission K}
    (short : ∀ token ∈ values, token.length ≤ kMaxTokenBytes)
    (read : readSubmission numbers values = .ok call) : call.Read numbers := by
  unfold readSubmission at read
  split at read
  · obtain ⟨record, fromRecord, rfl⟩ := exists_of_map_eq_ok read
    exact readSource_spec fromRecord
  · obtain ⟨record, fromRecord, rfl⟩ := exists_of_map_eq_ok read
    exact readProfile_legal fromRecord
  · obtain ⟨record, fromRecord, rfl⟩ := exists_of_map_eq_ok read
    exact readNode_spec short fromRecord
  · obtain ⟨record, fromRecord, rfl⟩ := exists_of_map_eq_ok read
    exact readPort_spec short fromRecord
  · obtain ⟨record, fromRecord, rfl⟩ := exists_of_map_eq_ok read
    exact readSpan_spec short fromRecord
  · obtain ⟨record, fromRecord, rfl⟩ := exists_of_map_eq_ok read
    exact readCrossConnect_spec short fromRecord
  · obtain ⟨record, fromRecord, rfl⟩ := exists_of_map_eq_ok read
    exact readCrossConnect_spec short fromRecord

end Readers

/-! ### Builders of records that were read -/

section Builders

/-- Every record that was added has the property. -/
structure SnapshotBuilder.Holds (holds : Submission K → Prop)
    (builder : SnapshotBuilder K) : Prop where
  sources : ∀ record ∈ builder.sources.records, holds (.source record)
  nodes : ∀ record ∈ builder.nodes.records, holds (.node record)
  ports : ∀ record ∈ builder.ports.records, holds (.port record)
  spans : ∀ record ∈ builder.spans.records, holds (.span record)
  crossConnects : ∀ record ∈ builder.crossConnects.records,
    holds (.crossConnect record)
  profiles : ∀ record ∈ builder.profiles.records, holds (.reachProfile record)

theorem RecordList.forall_mem_add {Record : Type} {named : Record → Bool}
    {limit : Nat} {list : RecordList Record named limit} {record : Record}
    {holds : Record → Prop} (unnamed full : String)
    (all : ∀ other ∈ list.records, holds other) (one : holds record) :
    ∀ other ∈ (list.add record unnamed full).2.records, holds other := by
  unfold add
  split_ifs
  · exact List.forall_mem_append.mpr ⟨all, by simpa using one⟩
  · exact all
  · exact all

namespace SnapshotBuilder

variable {holds : Submission K → Prop} {builder next : SnapshotBuilder K}

theorem Holds.submit {call : Submission K} (all : builder.Holds holds)
    (one : holds call) : (builder.submit call).2.Holds holds := by
  obtain ⟨sources, nodes, ports, spans, crossConnects, profiles⟩ := all
  have all : builder.Holds holds :=
    ⟨sources, nodes, ports, spans, crossConnects, profiles⟩
  cases call with
  | source record =>
      simp only [SnapshotBuilder.submit, addSource]
      split_ifs
      · exact all
      · exact ⟨RecordList.forall_mem_add _ _ sources one, nodes, ports, spans,
          crossConnects, profiles⟩
  | node record =>
      simp only [SnapshotBuilder.submit, addNode]
      split_ifs
      · exact all
      · exact ⟨sources, RecordList.forall_mem_add _ _ nodes one, ports, spans,
          crossConnects, profiles⟩
  | port record =>
      simp only [SnapshotBuilder.submit, addPort]
      split_ifs
      · exact all
      · exact ⟨sources, nodes, RecordList.forall_mem_add _ _ ports one, spans,
          crossConnects, profiles⟩
  | span record =>
      simp only [SnapshotBuilder.submit, addSpan]
      split_ifs
      · exact all
      · exact ⟨sources, nodes, ports, RecordList.forall_mem_add _ _ spans one,
          crossConnects, profiles⟩
  | crossConnect record =>
      simp only [SnapshotBuilder.submit, addCrossConnect]
      split_ifs
      · exact all
      · exact ⟨sources, nodes, ports, spans,
          RecordList.forall_mem_add _ _ crossConnects one, profiles⟩
  | reachProfile record =>
      simp only [SnapshotBuilder.submit, addReachProfile]
      split_ifs
      · exact all
      · exact ⟨sources, nodes, ports, spans, crossConnects,
          RecordList.forall_mem_add _ _ profiles one⟩

/-- The id, the options and all that is not a record stay. -/
theorem submit_same (builder : SnapshotBuilder K) (call : Submission K) :
    (builder.submit call).2.id = builder.id ∧
      (builder.submit call).2.options = builder.options := by
  cases call with
  | source record =>
      simp only [SnapshotBuilder.submit, addSource]
      split_ifs <;> exact ⟨rfl, rfl⟩
  | node record =>
      simp only [SnapshotBuilder.submit, addNode]
      split_ifs <;> exact ⟨rfl, rfl⟩
  | port record =>
      simp only [SnapshotBuilder.submit, addPort]
      split_ifs <;> exact ⟨rfl, rfl⟩
  | span record =>
      simp only [SnapshotBuilder.submit, addSpan]
      split_ifs <;> exact ⟨rfl, rfl⟩
  | crossConnect record =>
      simp only [SnapshotBuilder.submit, addCrossConnect]
      split_ifs <;> exact ⟨rfl, rfl⟩
  | reachProfile record =>
      simp only [SnapshotBuilder.submit, addReachProfile]
      split_ifs <;> exact ⟨rfl, rfl⟩

end SnapshotBuilder

/-- Records that were read one by one: each of them could be read, and what all
of them were read as holds of the builder. -/
theorem foldlM_addRecord_holds {formatDouble : K → Bytes}
    {numbers : DoubleText formatDouble} {holds : Submission K → Prop}
    {records : List (List Bytes × Nat)} {builder next : SnapshotBuilder K}
    (reads : ∀ entry ∈ records, ∀ call,
      readSubmission numbers entry.1 = .ok call → holds call)
    (all : builder.Holds holds)
    (added : records.foldlM (addRecord numbers) builder = .ok next) :
    (∀ entry ∈ records, ∃ call, readSubmission numbers entry.1 = .ok call) ∧
      next.Holds holds ∧ next.id = builder.id ∧
      next.options = builder.options := by
  induction records generalizing builder with
  | nil =>
      cases added
      exact ⟨by simp, all, rfl, rfl⟩
  | cons entry rest ih =>
      rw [List.forall_mem_cons] at reads
      rw [List.foldlM_cons] at added
      obtain ⟨middle, first, added⟩ := bind_eq_ok_iff.mp added
      have read : (do
          let call ← readSubmission numbers entry.1
          builder.accept call) = .ok middle := by
        unfold addRecord failAtRecord at first
        split at first
        · next value same => exact same.trans first
        · cases first
      obtain ⟨call, readCall, accepted⟩ := bind_eq_ok_iff.mp read
      unfold SnapshotBuilder.accept at accepted
      split_ifs at accepted
      cases accepted
      obtain ⟨id, options⟩ := builder.submit_same call
      obtain ⟨eachRest, allRest, idRest, optionsRest⟩ := ih reads.2
        (all.submit (reads.1 call readCall)) added
      exact ⟨List.forall_mem_cons.mpr ⟨⟨call, readCall⟩, eachRest⟩, allRest,
        idRest.trans id, optionsRest.trans options⟩

end Builders

/-! ### The first pass -/

/-- What the first pass keeps can be spelled again. -/
structure SnapshotReader.Short (reader : SnapshotReader) : Prop where
  id : ∀ id ∈ reader.id, id.Valid
  records : ∀ record ∈ reader.records, ∀ token ∈ record,
    token.length ≤ kMaxTokenBytes

theorem readSnapshotLine_short {reader next : SnapshotReader} {number : Nat}
    {values : List Bytes}
    (short : ∀ token ∈ values, token.length ≤ kMaxTokenBytes)
    (before : reader.Short)
    (read : readSnapshotLine reader number values = .ok next) : next.Short := by
  unfold readSnapshotLine at read
  by_cases first : reader.headerSeen = false
  · rw [if_pos first] at read
    unfold readSnapshotHeader at read
    split_ifs at read
    obtain ⟨version, -, read⟩ := bind_eq_ok_iff.mp read
    split_ifs at read
    cases read
    exact ⟨before.id, before.records⟩
  · rw [if_neg first] at read
    split at read
    · simp only [bind_eq_ok_iff, pure_eq_ok, Except.ok.injEq] at read
      obtain ⟨_, _, id, readId, rfl⟩ := read
      refine ⟨?_, before.records⟩
      rintro _ ⟨⟩
      exact StrongId.valid_of_parse readId
    · simp only [bind_eq_ok_iff, pure_eq_ok, Except.ok.injEq] at read
      obtain ⟨_, _, _, _, rfl⟩ := read
      exact ⟨before.id, before.records⟩
    · obtain ⟨_, -, read⟩ := bind_eq_ok_iff.mp read
      split at read
      · cases read
        exact ⟨before.id, before.records⟩
      · cases read
    · simp only [bind_eq_ok_iff, pure_eq_ok, Except.ok.injEq] at read
      obtain ⟨_, _, _, _, rfl⟩ := read
      exact ⟨before.id, before.records⟩
    · split_ifs at read
      cases read
      refine ⟨before.id, ?_⟩
      rw [List.forall_mem_append]
      exact ⟨before.records, by simpa using short⟩
    · cases read

/-! ### Failure domains in order -/

section Sealed

open SortedRanges

variable [Field K] [LinearOrder K] {runtime : Runtime K}
  {numbers : DoubleText runtime.formatDouble}

omit [Field K] [LinearOrder K] in
theorem joinCommas_length {pieces : List Bytes} (some_ : pieces ≠ []) :
    (joinCommas pieces).length + 1 =
      (pieces.map fun piece => piece.length + 1).sum := by
  induction pieces with
  | nil => exact (some_ rfl).elim
  | cons first rest ih =>
      cases rest with
      | nil => simp [joinCommas]
      | cons second rest =>
          have tail := ih (List.cons_ne_nil second rest)
          rw [joinCommas, List.map_cons, List.sum_cons, ← tail]
          · simp
            omega
          · simp

theorem normaliseDomainList_subperm (domains : List FailureDomainId) :
    (normaliseDomainList runtime domains).Subperm domains :=
  (List.destutter_sublist _ _).subperm.trans
    (runtime.routine.sortBy_perm _ domains).subperm

omit [Field K] [LinearOrder K] in
theorem sum_le_of_subperm {first second : List FailureDomainId}
    (fewer : first.Subperm second) (weight : FailureDomainId → Nat) :
    (first.map weight).sum ≤ (second.map weight).sum := by
  obtain ⟨middle, perm, sublist⟩ := fewer
  rw [← (perm.map weight).sum_eq]
  clear perm
  induction sublist with
  | slnil => simp
  | cons domain _ ih =>
      rw [List.map_cons, List.sum_cons]
      omega
  | cons_cons domain _ ih =>
      rw [List.map_cons, List.sum_cons, List.map_cons, List.sum_cons]
      omega

omit [Field K] [LinearOrder K] in
/-- Fewer failure domains take less room. -/
theorem DomainsShort.of_subperm {first second : List FailureDomainId}
    (short : DomainsShort second) (fewer : first.Subperm second) :
    DomainsShort first := by
  by_cases none_ : first = []
  · subst none_
    decide
  · have some_ : second ≠ [] := by
      rintro rfl
      exact none_ (List.subperm_nil.mp fewer)
    have joined {domains : List FailureDomainId} (some_ : domains ≠ []) :
        (joinCommas (domains.map StrongId.str)).length + 1 =
          (domains.map fun domain => domain.str.length + 1).sum := by
      rw [joinCommas_length (by simpa using some_), List.map_map]
      rfl
    have lengths := sum_le_of_subperm fewer fun domain => domain.str.length + 1
    rw [← joined none_, ← joined some_] at lengths
    unfold DomainsShort at short ⊢
    omega

omit [Field K] [LinearOrder K] in
theorem DomainList.of_subperm {first second : List FailureDomainId}
    (legal : DomainList second) (fewer : first.Subperm second) :
    DomainList first :=
  ⟨fun domain member => legal.valid domain (fewer.subset member),
    fewer.length_le.trans legal.bounded⟩

/-- The record with its failure domains in order. -/
def Submission.normalised (runtime : Runtime K) : Submission K → Submission K
  | .node record => .node { record with
      failureDomains := normaliseDomainList runtime record.failureDomains }
  | .port record => .port { record with
      failureDomains := normaliseDomainList runtime record.failureDomains }
  | .span record => .span { record with
      failureDomains := normaliseDomainList runtime record.failureDomains }
  | .crossConnect record => .crossConnect { record with
      failureDomains := normaliseDomainList runtime record.failureDomains }
  | call => call

theorem Submission.Read.normalised {call : Submission K}
    (read : call.Read numbers) : (call.normalised runtime).Read numbers := by
  obtain ⟨legal, same, fit⟩ := read
  cases call with
  | source record => exact ⟨legal, same, fit⟩
  | reachProfile record => exact ⟨legal, same, fit⟩
  | node record =>
      obtain ⟨id, source, domains⟩ := legal
      have fewer := @normaliseDomainList_subperm K _ _ runtime
        record.failureDomains
      exact ⟨⟨id, source, domains.of_subperm fewer⟩, rfl,
        DomainsShort.of_subperm fit fewer⟩
  | port record =>
      obtain ⟨key, profile, source, domains⟩ := legal
      have fewer := @normaliseDomainList_subperm K _ _ runtime
        record.failureDomains
      refine ⟨⟨key, profile, source, domains.of_subperm fewer⟩, ?_,
        DomainsShort.of_subperm fit fewer⟩
      have reread := congrArg PortRecord.transmitProfile
        (Submission.port.inj same)
      simp only [PortRecord.reread] at reread
      simp only [Submission.normalised, Submission.reread, PortRecord.reread]
      rw [reread]
  | span record =>
      obtain ⟨ids, double, source, domains⟩ := legal
      have fewer := @normaliseDomainList_subperm K _ _ runtime
        record.failureDomains
      exact ⟨⟨ids, double, source, domains.of_subperm fewer⟩, rfl,
        DomainsShort.of_subperm fit fewer⟩
  | crossConnect record =>
      obtain ⟨ids, source, domains⟩ := legal
      have fewer := @normaliseDomainList_subperm K _ _ runtime
        record.failureDomains
      exact ⟨⟨ids, source, domains.of_subperm fewer⟩, rfl,
        DomainsShort.of_subperm fit fewer⟩

namespace SnapshotBuilder

variable {builder : SnapshotBuilder K}

/-- What is sealed are records that were added, with their failure domains in
order. -/
theorem Holds.of_finished {holds : Submission K → Prop}
    (all : builder.Holds holds) :
    ∀ call ∈ (builder.finished runtime).calls, ∃ original, holds original ∧
      call = original.normalised runtime := by
  obtain ⟨nodes, ports, spans, crossConnects, profiles⟩ :=
    builder.finished_records runtime
  refine TopologySnapshot.forall_mem_calls.mpr ⟨?_, ?_, ?_, ?_, ?_, ?_⟩
  · intro record member
    exact ⟨.source record,
      all.sources record ((runtime.routine.mem_sortBy _ _ _).mp member), rfl⟩
  · intro record member
    rw [profiles] at member
    exact ⟨.reachProfile record, all.profiles record
      ((runtime.routine.mem_sortBy _ _ _).mp (mem_of_mem_collapse member)), rfl⟩
  · intro record member
    rw [nodes] at member
    obtain ⟨original, isRecord, rfl⟩ := mem_collapsed member
    exact ⟨.node original, all.nodes original isRecord, rfl⟩
  · intro record member
    rw [ports] at member
    obtain ⟨original, isRecord, rfl⟩ := mem_collapsed member
    exact ⟨.port original, all.ports original isRecord, rfl⟩
  · intro record member
    rw [spans] at member
    obtain ⟨original, isRecord, rfl⟩ := mem_collapsed member
    exact ⟨.span original, all.spans original isRecord, rfl⟩
  · intro record member
    rw [crossConnects] at member
    obtain ⟨original, isRecord, rfl⟩ := mem_collapsed member
    exact ⟨.crossConnect original, all.crossConnects original isRecord, rfl⟩

/-- A builder with default options seals no arc that ends where it starts. -/
theorem loopFree_of_accepted (options : builder.options = {})
    (accepted : (builder.buildStatus runtime
      (builder.sortedRecords runtime)).failed = false) :
    (builder.finished runtime).LoopFree := by
  unfold buildStatus at accepted
  simp only [firstFailure_failed_iff, List.forall_mem_append,
    List.forall_mem_map, List.forall_mem_cons, selfLoopStatus_failed_iff,
    options] at accepted
  obtain ⟨spans, crossConnects⟩ := accepted.2.1 trivial
  exact ⟨fun span member loop => spans ⟨span, member, loop⟩,
    fun record member loop => crossConnects ⟨record, member, loop⟩⟩

theorem digest_finished (builder : SnapshotBuilder K) :
    (builder.finished runtime).digest =
      runtime.computeSnapshotDigest (builder.finished runtime) :=
  rfl

omit [Field K] [LinearOrder K] in
/-- The records are added to an empty builder with the id that was read. -/
theorem open_spec (holds : Submission K → Prop) {reader : SnapshotReader}
    {opened : SnapshotBuilder K} (opens : reader.open_ = .ok opened) :
    opened.Holds holds ∧ (∃ id ∈ reader.id, opened.id = id) ∧
      opened.options = {} := by
  unfold SnapshotReader.open_ at opens
  split_ifs at opens
  split at opens
  · cases opens
  · cases opens
  · cases opens
  · next id grid slots isId _ _ =>
      cases opens
      refine ⟨⟨?_, ?_, ?_, ?_, ?_, ?_⟩, ⟨id, isId, rfl⟩, rfl⟩
      all_goals exact fun record member => by cases member

/-- What an accepted text was read as. -/
structure AcceptedAs (numbers : DoubleText runtime.formatDouble)
    (builder : SnapshotBuilder K) : Prop where
  read : builder.Holds (Submission.Read numbers)
  id : builder.id.Valid
  options : builder.options = {}
  accepted : (builder.buildStatus runtime
    (builder.sortedRecords runtime)).failed = false

theorem acceptedAs_of_parse {content : Bytes} {snapshot : TopologySnapshot K}
    (parsed : parseSnapshotText numbers content = .ok snapshot) :
    ∃ builder : SnapshotBuilder K, builder.AcceptedAs numbers ∧
      snapshot = builder.finished runtime := by
  unfold parseSnapshotText at parsed
  split_ifs at parsed
  obtain ⟨reader, read, parsed⟩ := bind_eq_ok_iff.mp parsed
  obtain ⟨opened, opens, parsed⟩ := bind_eq_ok_iff.mp parsed
  obtain ⟨builder, added, built⟩ := bind_eq_ok_iff.mp parsed
  have short : reader.Short :=
    @readRecords_invariant _ readSnapshotLine (fun _ reader => reader.Short) _ _ _
      ⟨by simp, by simp⟩
      (fun short before read => readSnapshotLine_short short before read) read
  obtain ⟨empty, ⟨id, isId, named⟩, fresh⟩ :=
    open_spec (Submission.Read numbers) opens
  obtain ⟨-, all, sameId, options⟩ := foldlM_addRecord_holds (fun entry member _ read =>
    readSubmission_spec (short.records entry.1
      (List.fst_mem_of_mem_zipIdx member)) read) empty added
  exact ⟨builder, ⟨all, sameId ▸ named ▸ short.id id isId, options.trans fresh,
    accepted_of_build built⟩, (eq_finished built).symm⟩

end SnapshotBuilder

/-! ### Canonical texts -/

omit [LinearOrder K] [Field K] in
/-- The text shows nothing but the records and what names the snapshot. -/
theorem TopologySnapshot.SameEvidence.snapshotToText_eq
    {first second : TopologySnapshot K} (same : first.SameEvidence second)
    (formatDouble : K → Bytes) :
    snapshotToText formatDouble first = snapshotToText formatDouble second := by
  unfold snapshotToText
  rw [same.id, same.generation, same.spectrum, same.sources, same.nodes,
    same.ports, same.spans, same.crossConnects, same.reachProfiles]

/-- A snapshot that was read from a text is read back from its own, if that is
not too long, with the same records and the same digest. -/
theorem reread_of_parse {content : Bytes} {snapshot : TopologySnapshot K}
    (parsed : parseSnapshotText numbers content = .ok snapshot)
    (fits : (snapshotToText runtime.formatDouble snapshot).length ≤
      kMaxSnapshotTextBytes) :
    ∃ again, parseSnapshotText numbers
        (snapshotToText runtime.formatDouble snapshot) = .ok again ∧
      again.SameEvidence snapshot ∧ again.digest = snapshot.digest := by
  obtain ⟨builder, source, rfl⟩ := SnapshotBuilder.acceptedAs_of_parse parsed
  have resealable := SnapshotBuilder.finished_resealable source.accepted
  have read : ∀ call ∈ (builder.finished runtime).calls, call.Read numbers := by
    intro call member
    obtain ⟨original, isRead, rfl⟩ := source.read.of_finished call member
    exact isRead.normalised
  have legal := SnapshotBuilder.finished_legal source.accepted source.id
    fun call member => (read call member).legal
  obtain ⟨filled, rereads, -⟩ := legal.exists_filled
  have same : (filled.finished runtime).SameEvidence (builder.finished runtime) := by
    obtain ⟨sources, -, -, ports, -, -⟩ := TopologySnapshot.forall_mem_calls.mp
      fun call member => (read call member).same
    refine (rereads.finished_rereadAs resealable).sameEvidence_iff.mpr ⟨?_, ?_⟩
    · intro record member
      exact SourceRecord.reread_eq_self_iff.mp
        (Submission.source.inj (sources record member))
    · intro record member
      exact PortRecord.reread_eq_self_iff.mp
        (Submission.port.inj (ports record member))
  refine ⟨filled.finished runtime, ?_, same, ?_⟩
  · exact (SnapshotBuilder.parse_finished_iff source.accepted legal fits).mpr
      ⟨⟨fun call member => (read call member).fit,
        SnapshotBuilder.loopFree_of_accepted source.options source.accepted⟩,
        filled, rereads, rfl⟩
  · rw [SnapshotBuilder.digest_finished, SnapshotBuilder.digest_finished,
      Runtime.computeSnapshotDigest, Runtime.computeSnapshotDigest,
      same.snapshotToText_eq]

/-- A snapshot after saving its text and loading it again, so many times. -/
def saveAndLoad (numbers : DoubleText runtime.formatDouble) :
    Nat → TopologySnapshot K → Except Status (TopologySnapshot K)
  | 0, snapshot => .ok snapshot
  | cycles + 1, snapshot => do
      let loaded ← parseSnapshotText numbers
        (snapshotToText runtime.formatDouble snapshot)
      saveAndLoad numbers cycles loaded

/-- The canonical text of a snapshot that was read is accepted, and it is its own
canonical text: no number of saves and loads changes it, or the digest. -/
theorem canonical_text_fixpoint (numbers : DoubleText runtime.formatDouble)
    (content : Bytes) (snapshot : TopologySnapshot K)
    (parsed : parseSnapshotText numbers content = .ok snapshot)
    (fits : (snapshotToText runtime.formatDouble snapshot).length ≤
      kMaxSnapshotTextBytes) :
    (∃ again, parseSnapshotText numbers
        (snapshotToText runtime.formatDouble snapshot) = .ok again ∧
      snapshotToText runtime.formatDouble again =
        snapshotToText runtime.formatDouble snapshot) ∧
      ∀ cycles, ∃ last, saveAndLoad numbers cycles snapshot = .ok last ∧
        snapshotToText runtime.formatDouble last =
          snapshotToText runtime.formatDouble snapshot ∧
        last.digest = snapshot.digest := by
  obtain ⟨again, reparsed, same, -⟩ := reread_of_parse parsed fits
  refine ⟨⟨again, reparsed, same.snapshotToText_eq _⟩, fun cycles => ?_⟩
  clear again reparsed same
  induction cycles generalizing content snapshot with
  | zero => exact ⟨snapshot, rfl, rfl, rfl⟩
  | succ cycles ih =>
      obtain ⟨again, reparsed, same, digest⟩ := reread_of_parse parsed fits
      have text_ := same.snapshotToText_eq runtime.formatDouble
      obtain ⟨last, loaded, lastText, lastDigest⟩ :=
        ih _ again reparsed (text_ ▸ fits)
      refine ⟨last, ?_, lastText.trans text_, lastDigest.trans digest⟩
      rw [saveAndLoad, reparsed]
      exact loaded

theorem canonical_text_fixpoint_line :
    ∃ snapshot, parseSnapshotText wholeNumbers (snapshotToText
        rationalRuntime.formatDouble
        ((spanWithProfile "line").finished rationalRuntime)) = .ok snapshot ∧
      ∀ cycles, ∃ last, saveAndLoad wholeNumbers cycles snapshot = .ok last ∧
        last.digest = snapshot.digest := by
  have parsed : (parseSnapshotText wholeNumbers (snapshotToText
      rationalRuntime.formatDouble ((spanWithProfile "line").finished
        rationalRuntime))).toOption.map (fun snapshot => decide
          ((snapshotToText rationalRuntime.formatDouble snapshot).length ≤
            kMaxSnapshotTextBytes)) = some true := by
    decide +kernel
  obtain ⟨snapshot, read, fits⟩ := Option.map_eq_some_iff.mp parsed
  have read := toOption_eq_some_iff.mp read
  refine ⟨snapshot, read, fun cycles => ?_⟩
  obtain ⟨last, loaded, -, digest⟩ := (canonical_text_fixpoint wholeNumbers _
    snapshot read (of_decide_eq_true fits)).2 cycles
  exact ⟨last, loaded, digest⟩

end Sealed

end OpticalPathPlanner
