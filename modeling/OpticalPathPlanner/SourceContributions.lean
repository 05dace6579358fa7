import OpticalPathPlanner.RereadSnapshots

/-!
# The contribution of one source

The digest that binds a plan to one of its sources is taken over the lines of
the canonical text that are attributed to the source.  The lines are found by
splitting the text into tokens again, and a line that does not split is passed
over.  A line does not split exactly when the failure domains of its record do
not fit in one token, so what is hashed is the canonical lines of the records
whose failure domains fit.
-/

namespace OpticalPathPlanner

open LineAssembler

/-! ### Tokens without a key -/

/-- A token that no key is looked up in. -/
def Unkeyed (token : Bytes) : Prop := token.all (· != 61) = true

instance (token : Bytes) : Decidable (Unkeyed token) :=
  inferInstanceAs (Decidable (_ = true))

theorem unkeyed_iff {token : Bytes} :
    Unkeyed token ↔ ∀ byte ∈ token, byte ≠ 61 := by
  simp only [Unkeyed, List.all_eq_true, bne_iff_ne]

theorem Unkeyed.keyedValue? {token : Bytes} (unkeyed : Unkeyed token)
    (key : Bytes) : keyedValue? key token = none := by
  rw [Option.eq_none_iff_forall_ne_some]
  intro value found
  rw [keyedValue?_eq_some_iff] at found
  exact unkeyed_iff.mp unkeyed 61 (by simp [found]) rfl

theorem Unkeyed.formatU64 (value : Nat) : Unkeyed (formatU64 value) := by
  refine unkeyed_iff.mpr fun byte member equals => ?_
  have digit := List.all_eq_true.mp (formatU64_all_isDigit value) byte member
  rw [equals] at digit
  cases digit

theorem StrongId.Valid.unkeyed {tag : IdentityTag} {id : StrongId tag}
    (valid : id.Valid) : Unkeyed (encodeToken id.str) := by
  rw [valid.encodeToken_str]
  refine unkeyed_iff.mpr fun byte member equals => ?_
  have legal := List.all_eq_true.mp valid.all_isIdByte byte member
  rw [equals] at legal
  cases legal

/-- A lookup passes over tokens without a key. -/
theorem findKeyedField_pass {head : Bytes} {passed rest : List Bytes}
    (unkeyed : ∀ token ∈ passed, Unkeyed token) (key : String) :
    findKeyedField (head :: passed ++ rest) 1 key =
      findKeyedField (head :: passed ++ rest) (passed.length + 1) key := by
  have none_ : passed.filterMap (keyedValue? (text key)) = [] :=
    List.filterMap_eq_nil_iff.mpr fun token member =>
      (unkeyed token member).keyedValue? (text key)
  have back : (head :: passed ++ rest).drop (passed.length + 1) = rest := by
    simp
  rw [findKeyedField, findKeyedField, back, List.cons_append,
    List.drop_succ_cons, List.drop_zero, List.filterMap_append, none_,
    List.nil_append]

theorem findKeyedField_unkeyed {tokens : List Bytes}
    (unkeyed : ∀ token ∈ tokens, Unkeyed token) (first : Nat) (key : String) :
    ∃ status, findKeyedField tokens first key = .error status := by
  have none_ : (tokens.drop first).filterMap (keyedValue? (text key)) = [] :=
    List.filterMap_eq_nil_iff.mpr fun token member =>
      (unkeyed token (List.mem_of_mem_drop member)).keyedValue? (text key)
  rw [findKeyedField, none_]
  exact ⟨_, rfl⟩

/-! ### The lines of a text -/

theorem splitRuns_newline_writeRecord {tokens : List Bytes}
    (plain : PlainRecord tokens) (rest : Bytes) :
    splitRuns (· == 10) (writeRecord tokens ++ rest) [] =
      joinTokens tokens :: splitRuns (· == 10) rest [] := by
  have line : ∀ byte ∈ joinTokens tokens, (byte == 10) = false := fun byte member =>
    beq_eq_false_iff_ne.mpr (plain.ne_newline byte member).1
  rw [writeRecord, List.append_assoc, splitRuns_append line, List.nil_append,
    List.singleton_append, splitRuns, if_pos (by rfl), plain.joinTokens_isEmpty]
  rfl

/-- The lines of a text that was written record by record. -/
theorem splitRuns_newline_flatMap {records : List (List Bytes)}
    (plain : ∀ record ∈ records, PlainRecord record) :
    splitRuns (· == 10) (records.flatMap writeRecord) [] =
      records.map joinTokens := by
  induction records with
  | nil => rfl
  | cons record rest ih =>
      rw [List.forall_mem_cons] at plain
      rw [List.flatMap_cons, splitRuns_newline_writeRecord plain.1, ih plain.2,
        List.map_cons]

/-- Leaving items out of a concatenation shows. -/
theorem flatMap_filter_eq_iff {Item : Type} {items : List Item}
    {spell : Item → Bytes} (nonempty : ∀ item, spell item ≠ [])
    (kept : Item → Bool) :
    (items.filter kept).flatMap spell = items.flatMap spell ↔
      ∀ item ∈ items, kept item = true := by
  refine ⟨fun same => ?_, fun all => by rw [List.filter_eq_self.mpr all]⟩
  have sizes := congrArg List.length same
  simp only [List.length_flatMap] at sizes
  clear same
  induction items with
  | nil => simp
  | cons item rest ih =>
      have shorter : ((rest.filter kept).map fun item => (spell item).length).sum ≤
          (rest.map fun item => (spell item).length).sum :=
        (List.filter_sublist.map _).sum_le_sum fun _ _ => Nat.zero_le _
      have positive := List.length_pos_iff.mpr (nonempty item)
      rw [List.forall_mem_cons]
      cases keeps : kept item with
      | false =>
          rw [List.filter_cons_of_neg (by simp [keeps]), List.map_cons,
            List.sum_cons] at sizes
          omega
      | true =>
          rw [List.filter_cons_of_pos keeps, List.map_cons, List.map_cons,
            List.sum_cons, List.sum_cons] at sizes
          exact ⟨rfl, ih (by omega)⟩

/-! ### The records of one source -/

namespace Submission

variable {K : Type}

/-- The source a record is attributed to; a source record to itself. -/
def attribution : Submission K → SourceId
  | source record => record.id
  | node record => record.source
  | port record => record.source
  | span record => record.source
  | crossConnect record => record.source
  | reachProfile record => record.source

section Attribution

variable {formatDouble : K → Bytes} {numbers : DoubleText formatDouble}

theorem Legal.unkeyed {call : Submission K} (legal : call.Legal numbers) :
    ∀ token ∈ call.positional, Unkeyed token := by
  cases call with
  | source record =>
      have coverage : Unkeyed (encodeToken record.coverage.name) := by
        cases record.coverage <;> decide
      simp only [positional, List.forall_mem_cons]
      exact ⟨StrongId.Valid.unkeyed legal, Unkeyed.formatU64 _, coverage, by simp⟩
  | node record =>
      have kind : Unkeyed (encodeToken record.kind.name) := by
        cases record.kind <;> decide
      have coverage : Unkeyed (encodeToken record.coverage.name) := by
        cases record.coverage <;> decide
      simp only [positional, List.forall_mem_cons]
      exact ⟨legal.1.unkeyed, kind, coverage, by simp⟩
  | port record =>
      have role : Unkeyed (encodeToken record.role.name) := by
        cases record.role <;> decide
      simp only [positional, List.forall_mem_cons]
      exact ⟨legal.1.1.unkeyed, legal.1.2.unkeyed, role, by simp⟩
  | span record =>
      have direction : Unkeyed (encodeToken (directionName record.bidirectional)) := by
        cases record.bidirectional <;> decide
      obtain ⟨⟨id, fromPort, toPort⟩, -⟩ := legal
      simp only [positional, endTokens, List.forall_mem_cons,
        List.cons_append, List.nil_append]
      exact ⟨id.unkeyed, fromPort.1.unkeyed, fromPort.2.unkeyed,
        toPort.1.unkeyed, toPort.2.unkeyed, direction, by simp⟩
  | crossConnect record =>
      have op : Unkeyed (encodeToken record.op.name) := by
        cases record.op <;> decide
      obtain ⟨⟨id, fromPort, toPort⟩, -⟩ := legal
      simp only [positional, endTokens, List.forall_mem_cons,
        List.cons_append, List.nil_append]
      exact ⟨id.unkeyed, fromPort.1.unkeyed, fromPort.2.unkeyed,
        toPort.1.unkeyed, toPort.2.unkeyed, op, by simp⟩
  | reachProfile record =>
      simp only [positional, List.forall_mem_cons]
      exact ⟨legal.1.unkeyed, by simp⟩

/-- Looking a fact of a record up from its second token on. -/
theorem Legal.findKeyedField_one {call : Submission K}
    (legal : call.Legal numbers) {key : String}
    (plain : (plainKey key && key != "domains") = true) :
    findKeyedField (call.tokens formatDouble) 1 key =
      findField (call.facts formatDouble) key := by
  rw [← findKeyedField_tokens rfl plain]
  exact findKeyedField_pass (Legal.unkeyed legal) key

theorem kind_name_eq_source_iff (kind : RecordKind) :
    kind.name = text "source" ↔ kind = .source := by
  cases kind <;> decide

/-- A line is attributed to the source of its record, when it splits. -/
theorem Legal.lineBelongsTo_iff {call : Submission K}
    (legal : call.Legal numbers) (source : SourceId) :
    lineBelongsTo source (joinTokens (call.tokens formatDouble)) = true ↔
      call.DomainsFit ∧ call.attribution = source := by
  have plain := @Legal.plainRecord K formatDouble numbers call legal
  have fits := @Legal.fitsLine_iff K formatDouble numbers call legal
  have named : ∀ first second : SourceId,
      first.str = second.str ↔ first = second := fun first second =>
    ⟨fun same => congrArg StrongId.mk same, congrArg StrongId.str⟩
  unfold lineBelongsTo
  cases split_ : splitTokens (joinTokens (call.tokens formatDouble)) with
  | error status =>
      have unfit : ¬ call.DomainsFit := by
        intro fit
        have ok := plain.splitTokens_eq_ok_iff.mpr ⟨rfl, fits.mpr fit⟩
        rw [split_] at ok
        cases ok
      simp [unfit]
  | ok tokens =>
      obtain ⟨rfl, fitting⟩ := plain.splitTokens_eq_ok_iff.mp split_
      have found := @Legal.findKeyedField_one K formatDouble numbers call legal
        "src" (by decide)
      have first : (call.tokens formatDouble)[0]? = some call.kind.name := rfl
      simp only [first, Option.some_beq_some, beq_iff_eq,
        kind_name_eq_source_iff, found, fits.mp fitting, true_and]
      cases call with
      | source record =>
          have second : ((Submission.source record).tokens formatDouble)[1]? =
              some (encodeToken record.id.str) := rfl
          rw [second, StrongId.Valid.encodeToken_str legal]
          simpa [kind, attribution] using named record.id _
      | node record | port record | span record | crossConnect record
      | reachProfile record =>
          simpa [kind, facts, findField, originFields, attribution] using
            named record.source _

/-- A record and what its line is read back as have one line. -/
theorem tokens_reread (call : Submission K) :
    call.reread.tokens formatDouble = call.tokens formatDouble := by
  cases call with
  | source record => rfl
  | port record =>
      have same : spellEvidence spellProfile (rereadProfile record.transmitProfile) =
          spellEvidence spellProfile record.transmitProfile := by
        cases record.transmitProfile with
        | unknown => rfl
        | conflicting => rfl
        | known profile =>
            cases profile with
            | none => rfl
            | some id =>
                simp only [rereadProfile]
                split_ifs with unknown conflicting
                · exact unknown.symm
                · exact conflicting.symm
                · rfl
      simp only [tokens, reread, PortRecord.reread, kind, positional, facts,
        domains, same]
  | node record => rfl
  | span record => rfl
  | crossConnect record => rfl
  | reachProfile record => rfl

end Attribution

end Submission

namespace TopologySnapshot

variable {K : Type}

/-- The records attributed to a source, in the order of the text. -/
def attributed (snapshot : TopologySnapshot K) (source : SourceId) :
    List (Submission K) :=
  snapshot.calls.filter fun call => call.attribution = source

/-- The canonical lines of the records attributed to a source. -/
def contributionLines (formatDouble : K → Bytes) (snapshot : TopologySnapshot K)
    (source : SourceId) : Bytes :=
  (snapshot.attributed source).flatMap (Submission.line formatDouble)

/-- What the lines that split are read back as. -/
def legible (snapshot : TopologySnapshot K) (source : SourceId) :
    List (Submission K) :=
  ((snapshot.attributed source).filter fun call => call.DomainsFit).map
    Submission.reread

section Contribution

variable {formatDouble : K → Bytes} {numbers : DoubleText formatDouble}
  {snapshot other : TopologySnapshot K}

/-- The lines about the snapshot itself belong to no source. -/
theorem Legal.lineBelongsTo_frontRecords (legal : snapshot.Legal numbers)
    (source : SourceId) : ∀ record ∈ snapshot.frontRecords,
      lineBelongsTo source (joinTokens record) = false := by
  have grid : Unkeyed (encodeToken snapshot.spectrum.grid.name) := by
    cases snapshot.spectrum.grid <;> decide
  have unkeyed : ∀ record ∈ snapshot.frontRecords,
      ∀ token ∈ record, Unkeyed token := by
    simp only [frontRecords, List.forall_mem_cons, List.not_mem_nil,
      false_implies, implies_true, and_true]
    exact ⟨⟨by decide, .formatU64 _⟩, ⟨by decide, legal.id.unkeyed⟩,
      ⟨by decide, .formatU64 _⟩, ⟨by decide, grid⟩, by decide, .formatU64 _⟩
  have unnamed : ∀ record ∈ snapshot.frontRecords,
      record[0]? ≠ some (text "source") := by
    simp only [frontRecords, List.forall_mem_cons, List.not_mem_nil,
      false_implies, implies_true, and_true, List.getElem?_cons_zero, ne_eq,
      Option.some.injEq]
    decide
  intro record member
  have clean := legal.frontRecords_clean record member
  have split_ := clean.plain.splitTokens_eq_ok_iff.mpr ⟨rfl, clean.fits⟩
  obtain ⟨status, missing⟩ :=
    findKeyedField_unkeyed (unkeyed record member) 1 "src"
  simp only [lineBelongsTo, split_, beq_iff_eq, if_neg (unnamed record member),
    missing]

/-- What is hashed is the lines of the attributed records that split. -/
theorem Legal.sourceContributionText_eq (legal : snapshot.Legal numbers)
    (source : SourceId) :
    sourceContributionText formatDouble snapshot source =
      text "OPP-SOURCE-v1\n" ++
        ((snapshot.attributed source).filter fun call => call.DomainsFit).flatMap
          (Submission.line formatDouble) := by
  have front : (snapshot.frontRecords.map joinTokens).filter
      (lineBelongsTo source) = [] := by
    rw [List.filter_eq_nil_iff, List.forall_mem_map]
    exact fun record member => by
      rw [legal.lineBelongsTo_frontRecords source record member]
      exact Bool.false_ne_true
  have lines : ((snapshot.calls.map (Submission.tokens formatDouble)).map
      joinTokens).filter (lineBelongsTo source) =
        ((snapshot.attributed source).filter fun call => call.DomainsFit).map
          fun call => joinTokens (call.tokens formatDouble) := by
    rw [List.map_map, List.filter_map, attributed, List.filter_filter]
    congr 1
    refine List.filter_congr fun call member => ?_
    rw [Bool.eq_iff_iff, Function.comp_apply, Function.comp_apply,
      (legal.calls call member).lineBelongsTo_iff]
    simp
  unfold sourceContributionText
  rw [snapshotToText_eq, splitRuns_newline_flatMap legal.plainRecords, records,
    List.map_append]
  simp only [List.filter_append, front, lines, List.nil_append,
    List.flatMap_map, funext (Submission.line_eq formatDouble), writeRecord]

/-- All attributed lines are hashed exactly when all of them split. -/
theorem Legal.covers_iff (legal : snapshot.Legal numbers) (source : SourceId) :
    sourceContributionText formatDouble snapshot source =
        text "OPP-SOURCE-v1\n" ++ snapshot.contributionLines formatDouble source ↔
      ∀ call ∈ snapshot.attributed source, call.DomainsFit := by
  have nonempty : ∀ call : Submission K, call.line formatDouble ≠ [] := by
    intro call
    simp [Submission.line_eq, writeRecord]
  rw [legal.sourceContributionText_eq, List.append_cancel_left_eq,
    contributionLines, flatMap_filter_eq_iff nonempty]
  simp only [decide_eq_true_eq]

/-- Two snapshots feed the same bytes for a source exactly when the lines that
split are read back as the same records. -/
theorem Legal.sourceContributionText_eq_iff (legal : snapshot.Legal numbers)
    (otherLegal : other.Legal numbers) (source : SourceId) :
    sourceContributionText formatDouble snapshot source =
        sourceContributionText formatDouble other source ↔
      snapshot.legible source = other.legible source := by
  have spelled : ∀ snapshot : TopologySnapshot K,
      ((snapshot.attributed source).filter fun call => call.DomainsFit).flatMap
          (Submission.line formatDouble) =
        ((snapshot.legible source).map
          (Submission.tokens formatDouble)).flatMap writeRecord := by
    intro snapshot
    rw [legible, List.map_map, List.flatMap_map,
      funext (Submission.line_eq formatDouble)]
    simp only [Function.comp_apply, Submission.tokens_reread]
  have read : ∀ {snapshot : TopologySnapshot K}, snapshot.Legal numbers →
      (textRecords (((snapshot.legible source).map
          (Submission.tokens formatDouble)).flatMap writeRecord)).map
        (readSubmission numbers) = (snapshot.legible source).map .ok := by
    intro snapshot legal
    have calls : ∀ call ∈ (snapshot.attributed source).filter
        fun call => call.DomainsFit, call.Legal numbers := fun call member =>
      legal.calls call (List.mem_of_mem_filter (List.mem_of_mem_filter member))
    rw [textRecords_flatMap]
    · rw [legible, List.map_map, List.map_map, List.map_map]
      refine List.map_congr_left fun call member => ?_
      simp only [Function.comp_apply, Submission.tokens_reread]
      exact Submission.readSubmission_tokens (calls call member)
    · rw [legible, List.map_map, List.forall_mem_map]
      intro call member
      rw [Function.comp_apply, Submission.tokens_reread]
      exact (calls call member).plainRecord
  rw [legal.sourceContributionText_eq, otherLegal.sourceContributionText_eq,
    List.append_cancel_left_eq, spelled, spelled]
  refine ⟨fun same => ?_, fun same => by rw [same]⟩
  have results := read legal
  rw [same, read otherLegal] at results
  exact (List.map_injective_iff.mpr (fun _ _ => Except.ok.inj) results).symm

end Contribution

end TopologySnapshot

section Sealed

variable {K : Type} [Field K] [LinearOrder K] {runtime : Runtime K}
  {numbers : DoubleText runtime.formatDouble}

theorem legal_of_build {builder : SnapshotBuilder K}
    {snapshot : TopologySnapshot K} (built : builder.build runtime = .ok snapshot)
    (ids : snapshot.IdsValid) (doubles : snapshot.NumbersDouble numbers) :
    snapshot.Legal numbers := by
  have accepted := SnapshotBuilder.accepted_of_build built
  obtain rfl := SnapshotBuilder.eq_finished built
  exact SnapshotBuilder.legal_of_ids accepted ids doubles

/-- What is hashed for a source is the canonical lines of all its records
exactly when the failure domains of each of them fit in one token; and a
difference between the records of two snapshots reaches the hash exactly when
it is still there once the records that do not fit are left out and the others
are read back. -/
theorem source_contribution_covered_iff
    (first second : SnapshotBuilder K) (snapshot other : TopologySnapshot K)
    (source : SourceId) (built : first.build runtime = .ok snapshot)
    (otherBuilt : second.build runtime = .ok other)
    (ids : snapshot.IdsValid) (otherIds : other.IdsValid)
    (doubles : snapshot.NumbersDouble numbers)
    (otherDoubles : other.NumbersDouble numbers) :
    (sourceContributionText runtime.formatDouble snapshot source =
        text "OPP-SOURCE-v1\n" ++
          snapshot.contributionLines runtime.formatDouble source ↔
      ∀ call ∈ snapshot.attributed source, call.DomainsFit) ∧
    ((snapshot.attributed source ≠ other.attributed source →
        sourceContributionText runtime.formatDouble snapshot source ≠
          sourceContributionText runtime.formatDouble other source) ↔
      (snapshot.attributed source ≠ other.attributed source →
        snapshot.legible source ≠ other.legible source)) := by
  have legal := legal_of_build built ids doubles
  have otherLegal := legal_of_build otherBuilt otherIds otherDoubles
  refine ⟨legal.covers_iff source, ?_⟩
  rw [ne_eq (sourceContributionText _ _ _),
    legal.sourceContributionText_eq_iff otherLegal]

end Sealed

/-! ### A record that is passed over -/

deriving instance DecidableEq for Submission

/-- One node of the given cost in as many domains of the given number of bytes
as a record may have. -/
def crowdedNode (cost : UInt64) (bytes : Nat) : SnapshotBuilder ℚ :=
  (SnapshotBuilder.new ⟨text "crowded"⟩ 1 {} {}).submitAll
    [.source { id := ⟨text "nms"⟩ },
      .node { NodeRecord.published "a" with
        transitCost := cost
        source := ⟨text "nms"⟩
        failureDomains := (List.range kMaxDomainsPerResource).map fun index =>
          ⟨List.replicate bytes 100 ++ [UInt8.ofNat (97 + index)]⟩ }]

theorem source_contribution_covered_iff_crowdedNode :
    (sourceContributionText rationalRuntime.formatDouble
        ((crowdedNode 1 8).finished rationalRuntime) ⟨text "nms"⟩ =
      text "OPP-SOURCE-v1\n" ++
        ((crowdedNode 1 8).finished rationalRuntime).contributionLines
          rationalRuntime.formatDouble ⟨text "nms"⟩) ∧
    sourceContributionText rationalRuntime.formatDouble
        ((crowdedNode 1 8).finished rationalRuntime) ⟨text "nms"⟩ ≠
      sourceContributionText rationalRuntime.formatDouble
        ((crowdedNode 2 8).finished rationalRuntime) ⟨text "nms"⟩ := by
  have covered := source_contribution_covered_iff (crowdedNode 1 8)
    (crowdedNode 2 8) ((crowdedNode 1 8).finished rationalRuntime)
    ((crowdedNode 2 8).finished rationalRuntime) ⟨text "nms"⟩
    (SnapshotBuilder.build_eq_ok (by decide +kernel))
    (SnapshotBuilder.build_eq_ok (by decide +kernel)) (by decide +kernel)
    (by decide +kernel)
    (TopologySnapshot.numbersDouble_of_whole (by decide +kernel))
    (TopologySnapshot.numbersDouble_of_whole (by decide +kernel))
  exact ⟨covered.1.mpr (by decide +kernel),
    covered.2.mpr (fun _ => by decide +kernel) (by decide +kernel)⟩

/-- A node whose failure domains do not fit in one token leaves no trace in the
contribution of its source, whatever its cost. -/
theorem crowdedNode_not_covered :
    ∃ snapshot other, (crowdedNode 1 63).build rationalRuntime = .ok snapshot ∧
      (crowdedNode 2 63).build rationalRuntime = .ok other ∧
      snapshot.IdsValid ∧ other.IdsValid ∧
      snapshot.NumbersDouble wholeNumbers ∧ other.NumbersDouble wholeNumbers ∧
      sourceContributionText rationalRuntime.formatDouble snapshot ⟨text "nms"⟩ ≠
        text "OPP-SOURCE-v1\n" ++
          snapshot.contributionLines rationalRuntime.formatDouble ⟨text "nms"⟩ ∧
      snapshot.attributed ⟨text "nms"⟩ ≠ other.attributed ⟨text "nms"⟩ ∧
      sourceContributionText rationalRuntime.formatDouble snapshot ⟨text "nms"⟩ =
        sourceContributionText rationalRuntime.formatDouble other
          ⟨text "nms"⟩ := by
  have built : (crowdedNode 1 63).build rationalRuntime =
      .ok ((crowdedNode 1 63).finished rationalRuntime) :=
    SnapshotBuilder.build_eq_ok (by decide +kernel)
  have otherBuilt : (crowdedNode 2 63).build rationalRuntime =
      .ok ((crowdedNode 2 63).finished rationalRuntime) :=
    SnapshotBuilder.build_eq_ok (by decide +kernel)
  have ids : ((crowdedNode 1 63).finished rationalRuntime).IdsValid := by
    decide +kernel
  have otherIds : ((crowdedNode 2 63).finished rationalRuntime).IdsValid := by
    decide +kernel
  have doubles : ((crowdedNode 1 63).finished rationalRuntime).NumbersDouble
      wholeNumbers := TopologySnapshot.numbersDouble_of_whole (by decide +kernel)
  have otherDoubles : ((crowdedNode 2 63).finished rationalRuntime).NumbersDouble
      wholeNumbers := TopologySnapshot.numbersDouble_of_whole (by decide +kernel)
  have legal := legal_of_build built ids doubles
  have otherLegal := legal_of_build otherBuilt otherIds otherDoubles
  refine ⟨_, _, built, otherBuilt, ids, otherIds, doubles, otherDoubles, ?_,
    by decide +kernel, ?_⟩
  · exact fun covered =>
      absurd ((legal.covers_iff ⟨text "nms"⟩).mp covered) (by decide +kernel)
  · exact (legal.sourceContributionText_eq_iff otherLegal ⟨text "nms"⟩).mpr
      (by decide +kernel)

end OpticalPathPlanner
