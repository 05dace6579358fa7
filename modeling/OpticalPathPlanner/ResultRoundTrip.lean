import OpticalPathPlanner.ResultCodec
import OpticalPathPlanner.PlannerRuns

/-!
# Results are read back from their text

A sealed result whose candidates are read back from their own text is read
back from its canonical bytes, as long as its lines keep the limits of the
tokenizer and every witness names a resource.
-/

namespace OpticalPathPlanner

theorem PlanOutcome.encodeToken_name (outcome : PlanOutcome) :
    encodeToken outcome.name = outcome.name := by
  cases outcome <;> exact encodeToken_of_raw (by decide) (by decide)

theorem StatusCode.encodeToken_name (code : StatusCode) :
    encodeToken code.name = code.name := by
  cases code <;> exact encodeToken_of_raw (by decide) (by decide)

theorem CutReason.encodeToken_name (reason : CutReason) :
    encodeToken reason.name = reason.name := by
  cases reason <;> exact encodeToken_of_raw (by decide) (by decide)

/-- One record of a result, with the values it holds. -/
inductive ResultEntry
  | outcome (value : PlanOutcome)
  | status (value : Status)
  | requestDigest (value : Digest256)
  | snapshotDigest (value : Digest256)
  | limitations (mask : Nat)
  | optimality (proven : Bool)
  | statistics (value : PlanningStatistics)
  | witness (value : Witness)
  | cut (value : CutCount)
  | candidate (digest : Digest256)
  | digest (value : Digest256)

namespace ResultEntry

def keyword : ResultEntry → ResultKeyword
  | outcome _ => .outcome
  | status _ => .status
  | requestDigest _ => .requestDigest
  | snapshotDigest _ => .snapshotDigest
  | limitations _ => .limitations
  | optimality _ => .optimality
  | statistics _ => .statistics
  | witness _ => .witness
  | cut _ => .cut
  | candidate _ => .candidate
  | digest _ => .digest

/-- The tokens between the record name and the keyed fields. -/
def positional : ResultEntry → List Bytes
  | outcome value => [encodeToken value.name]
  | status value => [encodeToken value.code.name]
  | requestDigest value => [encodeToken value.toHex]
  | snapshotDigest value => [encodeToken value.toHex]
  | limitations mask => [formatU64 mask]
  | optimality proven => [encodeToken
      (if proven then text "proven" else text "not_proven")]
  | statistics _ => []
  | witness value => [encodeToken value.reason.name]
  | cut value => [encodeToken value.reason.name, formatU64 value.count]
  | candidate value => [encodeToken value.toHex]
  | digest value => [encodeToken value.toHex]

def fields : ResultEntry → List (String × Bytes)
  | status value => [("detail", encodeToken value.detail)]
  | limitations mask => [("names", encodeToken (describeLimitations mask))]
  | statistics value =>
      [("labels_created", formatU64 value.labelsCreated),
        ("labels_expanded", formatU64 value.labelsExpanded),
        ("labels_dominated", formatU64 value.labelsDominated),
        ("peak_frontier", formatU64 value.peakFrontier),
        ("arcs_examined", formatU64 value.arcsExamined),
        ("states_visited", formatU64 value.statesVisited),
        ("truncated", formatU64 value.truncated.toNat)]
  | witness value =>
      [("res", encodeToken value.resource.toBytes),
        ("detail", encodeToken value.detail)]
  | _ => []

def tokens (entry : ResultEntry) : List Bytes :=
  (entry.keyword.name :: entry.positional) ++ entry.fields.map keyedToken

/-- What the counters of the source promise by their types. -/
def Legal : ResultEntry → Prop
  | limitations mask => mask < 2 ^ 32
  | statistics value => value.labelsCreated < 2 ^ 64 ∧
      value.labelsExpanded < 2 ^ 64 ∧ value.labelsDominated < 2 ^ 64 ∧
      value.peakFrontier < 2 ^ 64 ∧ value.arcsExamined < 2 ^ 64 ∧
      value.statesVisited < 2 ^ 64
  | cut value => value.count < 2 ^ 64
  | _ => True

/-- A witness is read back when it names a resource. -/
def Readable : ResultEntry → Prop
  | witness value => value.resource.text ≠ []
  | _ => True

variable {K : Type}

/-- What an entry does to the reader. -/
def apply (reader : ResultReader K) : ResultEntry → ResultReader K
  | outcome value => { reader with
      result := { reader.result with outcome := value } }
  | status value => { reader with
      result := { reader.result with status := value } }
  | requestDigest value => { reader with
      result := { reader.result with requestDigest := value } }
  | snapshotDigest value => { reader with
      result := { reader.result with snapshotDigest := value } }
  | limitations mask => { reader with
      result := { reader.result with limitations := mask } }
  | optimality proven => { reader with
      result := { reader.result with optimalityProven := proven } }
  | statistics value => { reader with
      result := { reader.result with statistics := value } }
  | witness value => { reader with
      result := { reader.result with
        witnesses := reader.result.witnesses ++ [value] } }
  | cut value => { reader with
      result := { reader.result with cuts := reader.result.cuts ++ [value] } }
  | candidate value => { reader with
      expectedDigests := reader.expectedDigests ++ [value] }
  | digest value => { reader with
      result := { reader.result with resultDigest := value }
      digestSeen := true }

theorem fields_plain (entry : ResultEntry) :
    (entry.fields.all fun field => plainKey field.1) = true := by
  cases entry <;> rfl

theorem plainRecord (entry : ResultEntry) : PlainRecord entry.tokens := by
  constructor
  · simp [tokens]
  · rw [tokens, List.forall_mem_append, List.forall_mem_cons, List.forall_mem_map]
    refine ⟨⟨?_, ?_⟩, ?_⟩
    · have spelled : ∀ keyword : ResultKeyword, Spelled 15 keyword.name := by
        intro keyword
        cases keyword <;> exact Spelled.constant (by decide)
      exact (spelled entry.keyword).plainToken
    · have hex := fun digest : Digest256 => digest.spelled.plainToken
      cases entry <;>
        simp [positional, plainToken_formatU64, plainToken_encodeToken, hex]
    · intro field member
      have plain := List.all_eq_true.mp entry.fields_plain field member
      refine PlainToken.keyed ?_ plain
      revert field
      cases entry <;> simp [fields, plainToken_formatU64, plainToken_encodeToken]

/-! ### Reading an entry -/

/-- Looking a field of an entry up in its tokens. -/
theorem findKeyedField_tokens {entry : ResultEntry} {first : Nat}
    (counted : entry.positional.length + 1 = first) {key : String}
    (plain : plainKey key = true) :
    findKeyedField entry.tokens first key = findField entry.fields key :=
  findKeyedField_append counted plain entry.fields_plain

theorem readStatus_tokens {value start : Status}
    (fits : FitsLine (status value).tokens) :
    readStatus start (status value).tokens = .ok value := by
  have second : tokenAt (status value).tokens 1 = value.code.name :=
    StatusCode.encodeToken_name value.code
  have detail := @FitsLine.decodeToken_field _ _ "detail" value.detail fits
    (by simp [fields])
  have counted : ¬ (status value).tokens.length < 2 := by
    simp [tokens, positional]
  have found : findKeyedField (status value).tokens 2 "detail" =
      .ok (encodeToken value.detail) :=
    findKeyedField_tokens rfl (by decide)
  rw [readStatus, if_neg counted, second, parseStatusCode_name]
  simp only [found, detail, ok_bind, pure_eq_ok]

theorem readStatistic_tokens {value : PlanningStatistics} {key : String}
    {count : Nat} (plain : plainKey key = true)
    (found : findField (statistics value).fields key = .ok (formatU64 count))
    (small : count < 2 ^ 64) :
    readStatistic (statistics value).tokens key = .ok count := by
  have read := @findKeyedField_tokens (statistics value) 1 rfl key plain
  rw [found] at read
  simp only [readStatistic, read, ok_bind, parseU64_formatU64_nat small,
    pure_eq_ok, UInt64.toNat_ofNat']
  rw [Nat.mod_eq_of_lt small]

theorem readStatistics_tokens {value : PlanningStatistics}
    (legal : (statistics value).Legal) :
    readStatistics (statistics value).tokens = .ok value := by
  obtain ⟨created, expanded, dominated, frontier, arcs, states⟩ := legal
  have flag : value.truncated.toNat < 2 ^ 64 := by
    cases value.truncated <;> decide
  have back : (value.truncated.toNat != 0) = value.truncated := by
    cases value.truncated <;> rfl
  rw [readStatistics, readStatistic_tokens (by decide) rfl created,
    readStatistic_tokens (by decide) rfl expanded,
    readStatistic_tokens (by decide) rfl dominated,
    readStatistic_tokens (by decide) rfl frontier,
    readStatistic_tokens (by decide) rfl arcs,
    readStatistic_tokens (by decide) rfl states,
    readStatistic_tokens (by decide) rfl flag]
  simp only [ok_bind, pure_eq_ok, back]

theorem readWitness_tokens {value : Witness}
    (readable : (witness value).Readable)
    (fits : FitsLine (witness value).tokens) :
    readWitness (witness value).tokens = .ok value := by
  have second : tokenAt (witness value).tokens 1 = value.reason.name :=
    CutReason.encodeToken_name value.reason
  have resource := @FitsLine.decodeToken_field _ _ "res" value.resource.toBytes
    fits (by simp [fields])
  have detail := @FitsLine.decodeToken_field _ _ "detail" value.detail fits
    (by simp [fields])
  have counted : ¬ (witness value).tokens.length < 2 := by
    simp [tokens, positional]
  have foundResource : findKeyedField (witness value).tokens 2 "res" =
      .ok (encodeToken value.resource.toBytes) :=
    findKeyedField_tokens rfl (by decide)
  have foundDetail : findKeyedField (witness value).tokens 2 "detail" =
      .ok (encodeToken value.detail) :=
    findKeyedField_tokens rfl (by decide)
  rw [readWitness, if_neg counted, second, findCutReasonByName_name]
  simp only [requiredKeyToken, foundResource, foundDetail, resource, detail,
    resourceKeyFromString_toBytes readable, ok_bind, pure_eq_ok]

theorem readCut_tokens {value : CutCount} (legal : (cut value).Legal) :
    readCut (cut value).tokens = .ok value := by
  have second : tokenAt (cut value).tokens 1 = value.reason.name :=
    CutReason.encodeToken_name value.reason
  have third : tokenAt (cut value).tokens 2 = formatU64 value.count := rfl
  have counted : ¬ (cut value).tokens.length ≠ 3 := by
    simp [tokens, positional, fields]
  rw [readCut, if_neg counted, second, third, findCutReasonByName_name,
    parseU64_formatU64_nat legal]
  simp only [ok_bind, pure_eq_ok, UInt64.toNat_ofNat']
  rw [Nat.mod_eq_of_lt legal]

theorem readDigestRecord_tokens (what : String) (value : Digest256)
    (keyword : Bytes) :
    readDigestRecord what [keyword, encodeToken value.toHex] = .ok value := by
  simp [readDigestRecord, tokenAt, Digest256.encodeToken_toHex,
    Digest256.fromHex_toHex]

/-- An entry that keeps the limits is read back. -/
theorem readResultField_tokens {entry : ResultEntry} (legal : entry.Legal)
    (readable : entry.Readable) (fits : FitsLine entry.tokens)
    (reader : ResultReader K) :
    readResultField reader entry.keyword entry.tokens =
      .ok (apply reader entry) := by
  cases entry with
  | outcome value =>
      have second : tokenAt (outcome value).tokens 1 = value.name :=
        PlanOutcome.encodeToken_name value
      have counted : ¬ (outcome value).tokens.length ≠ 2 := by
        simp [tokens, positional, fields]
      simp only [readResultField, keyword, if_neg counted, second,
        parsePlanOutcome_name, apply]
  | status value =>
      simp only [readResultField, keyword, readStatus_tokens fits, ok_bind,
        pure_eq_ok, apply]
  | limitations mask =>
      have second : tokenAt (limitations mask).tokens 1 = formatU64 mask := rfl
      have counted : ¬ (limitations mask).tokens.length < 2 := by
        simp [tokens, positional]
      simp only [readResultField, keyword, if_neg counted, second,
        parseU32_formatU64_nat legal, ok_bind, pure_eq_ok, apply,
        UInt32.toNat_ofNat']
      rw [Nat.mod_eq_of_lt legal]
  | optimality proven =>
      cases proven <;> rfl
  | statistics value =>
      simp only [readResultField, keyword, readStatistics_tokens legal, ok_bind,
        pure_eq_ok, apply]
  | witness value =>
      simp only [readResultField, keyword, readWitness_tokens readable fits,
        ok_bind, pure_eq_ok, apply]
  | cut value =>
      simp only [readResultField, keyword, readCut_tokens legal, ok_bind,
        pure_eq_ok, apply]
  | requestDigest value =>
      have read := fun what => readDigestRecord_tokens what value
        ResultKeyword.requestDigest.name
      simp only [readResultField, keyword, tokens, positional, fields,
        List.map_nil, List.append_nil, read, ok_bind, pure_eq_ok, apply]
  | snapshotDigest value =>
      have read := fun what => readDigestRecord_tokens what value
        ResultKeyword.snapshotDigest.name
      simp only [readResultField, keyword, tokens, positional, fields,
        List.map_nil, List.append_nil, read, ok_bind, pure_eq_ok, apply]
  | candidate value =>
      have read := fun what => readDigestRecord_tokens what value
        ResultKeyword.candidate.name
      simp only [readResultField, keyword, tokens, positional, fields,
        List.map_nil, List.append_nil, read, ok_bind, pure_eq_ok, apply]
  | digest value =>
      have read := fun what => readDigestRecord_tokens what value
        ResultKeyword.digest.name
      simp only [readResultField, keyword, tokens, positional, fields,
        List.map_nil, List.append_nil, read, ok_bind, pure_eq_ok, apply]

theorem name_ne_begin (keyword : ResultKeyword) :
    keyword.name ≠ text "candidate-plan-begin" := by
  cases keyword <;> decide

theorem readResultRecord_eq {reader : ResultReader K} (entry : ResultEntry)
    (seen : reader.headerSeen = true) (open_ : reader.digestSeen = false)
    (number : Nat) :
    readResultRecord reader number entry.tokens =
      failAtLine number (readResultField reader entry.keyword entry.tokens) := by
  have first : tokenAt entry.tokens 0 = entry.keyword.name := rfl
  rw [readResultRecord, first]
  simp only [seen, open_, Bool.true_eq_false, Bool.false_eq_true, if_false,
    name_ne_begin, ResultKeyword.parse_name]

theorem readResultRecord_tokens {reader : ResultReader K} {entry : ResultEntry}
    (seen : reader.headerSeen = true) (open_ : reader.digestSeen = false)
    (legal : entry.Legal) (readable : entry.Readable)
    (fits : FitsLine entry.tokens) (number : Nat) :
    readResultRecord reader number entry.tokens = .ok (apply reader entry) := by
  rw [readResultRecord_eq entry seen open_,
    readResultField_tokens legal readable fits, failAtLine_ok]

theorem readable_of_readResultField {reader next : ResultReader K}
    {entry : ResultEntry} (fits : FitsLine entry.tokens)
    (read : readResultField reader entry.keyword entry.tokens = .ok next) :
    entry.Readable := by
  cases entry with
  | witness value =>
      obtain ⟨found, readParts, _⟩ := bind_eq_ok_iff.mp read
      have second : tokenAt (witness value).tokens 1 = value.reason.name :=
        CutReason.encodeToken_name value.reason
      have resource := @FitsLine.decodeToken_field _ _ "res"
        value.resource.toBytes fits (by simp [fields])
      have foundResource : findKeyedField (witness value).tokens 2 "res" =
          .ok (encodeToken value.resource.toBytes) :=
        findKeyedField_tokens rfl (by decide)
      unfold readWitness at readParts
      split_ifs at readParts
      rw [second, findCutReasonByName_name] at readParts
      simp only [requiredKeyToken, foundResource, resource, ok_bind] at readParts
      obtain ⟨key, parsed, _⟩ := bind_eq_ok_iff.mp readParts
      exact named_of_resourceKeyFromString_toBytes parsed
  | _ => trivial

end ResultEntry

/-! ### Reading lines -/

section Lines

variable {K : Type} [Field K] [LinearOrder K] {runtime : Runtime K}
  {numbers : DoubleText runtime.formatDouble}

/-- A reader behind the header, in front of the digest and outside of every
artifact. -/
structure ResultReader.Reading (reader : ResultReader K) : Prop where
  headerSeen : reader.headerSeen = true
  digestSeen : reader.digestSeen = false
  inCandidate : reader.inCandidate = false

omit [Field K] [LinearOrder K] in
theorem ResultReader.Reading.apply {reader : ResultReader K}
    (reading : reader.Reading) {entry : ResultEntry}
    (payload : entry.keyword ≠ .digest) :
    (ResultEntry.apply reader entry).Reading := by
  cases entry with
  | digest value => exact (payload rfl).elim
  | _ => exact ⟨reading.headerSeen, reading.digestSeen, reading.inCandidate⟩

theorem readResultLine_eq_ok_iff {reader next : ResultReader K}
    {entry : ResultEntry} (reading : reader.Reading) (legal : entry.Legal)
    (number : Nat) :
    readResultLine runtime numbers reader (joinTokens entry.tokens, number) =
        .ok next ↔
      (FitsLine entry.tokens ∧ entry.Readable) ∧
        next = ResultEntry.apply reader entry := by
  simp only [readResultLine, reading.inCandidate, Bool.false_eq_true, if_false]
  rw [readLine_joinTokens entry.plainRecord,
    ResultEntry.readResultRecord_eq entry reading.headerSeen reading.digestSeen]
  constructor
  · rintro ⟨fits, read⟩
    have field := of_failAtLine read
    have readable := ResultEntry.readable_of_readResultField fits field
    rw [ResultEntry.readResultField_tokens legal readable fits,
      Except.ok.injEq] at field
    exact ⟨⟨fits, readable⟩, field.symm⟩
  · rintro ⟨⟨fits, readable⟩, rfl⟩
    rw [ResultEntry.readResultField_tokens legal readable fits, failAtLine_ok]
    exact ⟨fits, rfl⟩

/-- The lines of a list of entries are read exactly when every entry fits and
can be read back. -/
theorem foldlM_readResultLine_iff {entries : List ResultEntry}
    {reader next : ResultReader K} (reading : reader.Reading)
    (legal : ∀ entry ∈ entries, entry.Legal)
    (payload : ∀ entry ∈ entries, entry.keyword ≠ .digest) (number : Nat) :
    ((entries.map fun entry => joinTokens entry.tokens).zipIdx number).foldlM
        (readResultLine runtime numbers) reader = .ok next ↔
      (∀ entry ∈ entries, FitsLine entry.tokens ∧ entry.Readable) ∧
        next = entries.foldl ResultEntry.apply reader := by
  induction entries generalizing reader number with
  | nil =>
      simp only [List.map_nil, List.zipIdx_nil, List.foldlM_nil, List.foldl_nil,
        List.not_mem_nil, false_implies, implies_true, true_and]
      exact ⟨fun same => (Except.ok.inj same).symm, fun same => by rw [same]; rfl⟩
  | cons entry rest ih =>
      rw [List.forall_mem_cons] at legal payload
      rw [List.map_cons, List.zipIdx_cons, List.foldlM_cons, bind_eq_ok_iff,
        List.forall_mem_cons, List.foldl_cons]
      have others := @ih (ResultEntry.apply reader entry)
        (reading.apply payload.1) legal.2 payload.2 (number + 1)
      constructor
      · rintro ⟨middle, first, last⟩
        obtain ⟨fits, rfl⟩ :=
          (readResultLine_eq_ok_iff reading legal.1 number).mp first
        obtain ⟨fitsRest, same⟩ := others.mp last
        exact ⟨⟨fits, fitsRest⟩, same⟩
      · rintro ⟨⟨fits, fitsRest⟩, same⟩
        exact ⟨_, (readResultLine_eq_ok_iff reading legal.1 number).mpr
          ⟨fits, rfl⟩, others.mpr ⟨fitsRest, same⟩⟩

/-- The lines of an artifact are collected. -/
theorem foldlM_collect {records : List (List Bytes)}
    (plain : ∀ record ∈ records, PlainRecord record)
    (inside : ∀ record ∈ records, joinTokens record ≠ text "candidate-plan-end")
    {reader : ResultReader K} (open_ : reader.inCandidate = true)
    (small : (reader.candidateBuffer ++ records.flatMap writeRecord).length ≤
      kMaxPlanArtifactBytes) (number : Nat) :
    ((records.map joinTokens).zipIdx number).foldlM
        (readResultLine runtime numbers) reader =
      .ok { reader with
        candidateBuffer :=
          reader.candidateBuffer ++ records.flatMap writeRecord } := by
  induction records generalizing reader number with
  | nil => simp
  | cons record rest ih =>
      rw [List.forall_mem_cons] at plain inside
      have buffer : reader.candidateBuffer ++ writeRecord record ++
          rest.flatMap writeRecord = reader.candidateBuffer ++
            (record :: rest).flatMap writeRecord := by
        rw [List.flatMap_cons, List.append_assoc]
      have short : ¬ (reader.candidateBuffer ++
          (joinTokens record ++ [10])).length > kMaxPlanArtifactBytes := by
        rw [← buffer, List.length_append] at small
        rw [writeRecord] at small
        omega
      have first : readResultLine runtime numbers reader
          (joinTokens record, number) = .ok { reader with
            candidateBuffer := reader.candidateBuffer ++ writeRecord record } := by
        simp only [readResultLine, open_, if_true, plain.1.stripCarriage_eq,
          if_neg inside.1, if_neg short]
        rfl
      rw [List.map_cons, List.zipIdx_cons, List.foldlM_cons, first, ok_bind]
      have last := @ih plain.2 inside.2 { reader with
        candidateBuffer := reader.candidateBuffer ++ writeRecord record } open_
        (by rw [buffer]; exact small) (number + 1)
      rw [last, ← buffer]

/-! ### Artifacts of candidates -/

/-- The announcement of a candidate and its artifact. -/
def candidateRecords (formatDouble : K → Bytes) (plan : PlanArtifact K) :
    List (List Bytes) :=
  [(ResultEntry.candidate plan.digest).tokens, [text "candidate-plan-begin"]] ++
    plan.records formatDouble ++ [[text "candidate-plan-end"]]

theorem joinTokens_ne_end {first second : Bytes} {rest : List Bytes} :
    joinTokens (first :: second :: rest) ≠ text "candidate-plan-end" := by
  intro same
  have blank : (32 : UInt8) ∈ joinTokens (first :: second :: rest) := by
    simp [joinTokens]
  rw [same] at blank
  exact absurd blank (by decide)

omit [Field K] [LinearOrder K] in
theorem PlanEntry.two_tokens (formatDouble : K → Bytes) (entry : PlanEntry K) :
    ∃ first second rest,
      entry.tokens formatDouble = first :: second :: rest := by
  cases entry <;> exact ⟨_, _, _, rfl⟩

/-- A candidate that is read back from its own bytes is read back inside a
result. -/
theorem foldlM_candidate {reader : ResultReader K} (reading : reader.Reading)
    (zero : numbers.IsDouble 0) {plan : PlanArtifact K}
    (roundTrip : parsePlanArtifact runtime numbers
      (plan.canonicalBytes runtime.formatDouble) = .ok plan) (number : Nat) :
    (((candidateRecords runtime.formatDouble plan).map joinTokens).zipIdx
        number).foldlM (readResultLine runtime numbers) reader =
      .ok { reader with
        result := { reader.result with
          candidates := reader.result.candidates ++ [plan] }
        candidateBuffer := []
        expectedDigests := reader.expectedDigests ++ [plan.digest] } := by
  have legal := (accepted_of_parsePlanArtifact zero roundTrip).1
  have small := ((legal.parse_canonicalBytes_iff zero).mp roundTrip).2.2.2
  have inside : ∀ record ∈ plan.records runtime.formatDouble,
      joinTokens record ≠ text "candidate-plan-end" := by
    intro record member
    rcases List.mem_cons.mp member with rfl | inEntries
    · exact joinTokens_ne_end
    · obtain ⟨entry, _, rfl⟩ := List.mem_map.mp inEntries
      obtain ⟨first, second, rest, same⟩ :=
        entry.two_tokens runtime.formatDouble
      rw [same]
      exact joinTokens_ne_end
  have announced : ∀ line, readResultLine runtime numbers reader
      (joinTokens (ResultEntry.candidate plan.digest).tokens, line) =
        .ok (ResultEntry.apply reader (.candidate plan.digest)) := by
    intro line
    have spelled := plan.digest.spelled
    rw [← Digest256.encodeToken_toHex] at spelled
    have name : Spelled 9 ResultKeyword.candidate.name :=
      Spelled.constant (by decide)
    have clean : CleanRecord (ResultEntry.candidate plan.digest).tokens :=
      CleanRecord.of_spelled (.cons name (.cons spelled .nil)) (by decide)
    have legal : (ResultEntry.candidate plan.digest).Legal := trivial
    exact (readResultLine_eq_ok_iff reading legal line).mpr
      ⟨⟨clean.fits, trivial⟩, rfl⟩
  have opened : ∀ line, readResultLine runtime numbers
      (ResultEntry.apply reader (.candidate plan.digest))
      (joinTokens [text "candidate-plan-begin"], line) =
        .ok { ResultEntry.apply reader (.candidate plan.digest) with
          inCandidate := true
          candidateBuffer := [] } := by
    intro line
    have clean : CleanRecord [text "candidate-plan-begin"] :=
      CleanRecord.of_spelled
        (.cons (Spelled.constant (by decide) : Spelled 20 _) .nil) (by decide)
    have after := @ResultReader.Reading.apply K reader reading
      (.candidate plan.digest) (by simp [ResultEntry.keyword])
    simp only [readResultLine, after.inCandidate, Bool.false_eq_true, if_false]
    rw [readLine_joinTokens clean.plain]
    refine ⟨clean.fits, ?_⟩
    simp [readResultRecord, after.headerSeen, after.digestSeen, tokenAt]
  have collected := @foldlM_collect K _ _ runtime numbers
    (plan.records runtime.formatDouble) legal.plainRecords inside
    { ResultEntry.apply reader (.candidate plan.digest) with
      inCandidate := true
      candidateBuffer := [] } rfl
    (by rw [List.nil_append, ← PlanArtifact.canonicalBytes_eq]; exact small)
  rw [List.nil_append, ← PlanArtifact.canonicalBytes_eq] at collected
  have closed : ∀ line, readResultLine runtime numbers
      { ResultEntry.apply reader (.candidate plan.digest) with
        inCandidate := true
        candidateBuffer := plan.canonicalBytes runtime.formatDouble }
      (joinTokens [text "candidate-plan-end"], line) =
        .ok { ResultEntry.apply reader (.candidate plan.digest) with
          result := { reader.result with
            candidates := reader.result.candidates ++ [plan] }
          inCandidate := false
          candidateBuffer := [] } := by
    intro line
    have same : stripCarriage (joinTokens [text "candidate-plan-end"]) =
        text "candidate-plan-end" := by decide
    simp only [readResultLine, if_true, same, closeCandidate, roundTrip,
      ResultEntry.apply, List.getLast?_concat, Option.any_some, ne_eq,
      not_true_eq_false, decide_false, Bool.false_eq_true, if_false]
  unfold candidateRecords
  rw [List.map_append, List.map_append, List.zipIdx_append, List.zipIdx_append,
    List.foldlM_append, List.foldlM_append]
  rw [List.map_cons, List.map_cons, List.map_nil, List.zipIdx_cons,
    List.zipIdx_cons, List.zipIdx_nil, List.foldlM_cons, announced, ok_bind,
    List.foldlM_cons, opened, ok_bind, List.foldlM_nil, pure_eq_ok, ok_bind,
    collected, ok_bind, List.map_cons, List.map_nil, List.zipIdx_cons,
    List.zipIdx_nil, List.foldlM_cons, closed, ok_bind, List.foldlM_nil,
    pure_eq_ok, ← reading.inCandidate]
  rfl

end Lines

/-! ### The text of a result -/

namespace PlanningResult

open LineAssembler ResultEntry

variable {K : Type}

/-- The entries in front of the candidates. -/
def frontEntries (result : PlanningResult K) : List ResultEntry :=
  List.flatten [
    [.outcome result.outcome, .status result.status,
      .requestDigest result.requestDigest, .snapshotDigest result.snapshotDigest,
      .limitations result.limitations, .optimality result.optimalityProven,
      .statistics result.statistics],
    result.witnesses.map .witness,
    result.cuts.map .cut]

def records (formatDouble : K → Bytes) (result : PlanningResult K) :
    List (List Bytes) :=
  [[text "OPP-RESULT", text "1"]] ++ result.frontEntries.map tokens ++
    result.candidates.flatMap (candidateRecords formatDouble) ++
    [(ResultEntry.digest result.resultDigest).tokens]

theorem canonicalBytes_eq (formatDouble : K → Bytes) (result : PlanningResult K) :
    result.canonicalBytes formatDouble =
      (result.records formatDouble).flatMap writeRecord := by
  have header : text "OPP-RESULT 1\n" =
      writeRecord [text "OPP-RESULT", text "1"] := by decide
  have begins : text "candidate-plan-begin\n" =
      writeRecord [text "candidate-plan-begin"] := by decide
  have ends : text "candidate-plan-end\n" =
      writeRecord [text "candidate-plan-end"] := by decide
  unfold canonicalBytes records frontEntries
  rw [header, begins, ends]
  simp only [ofRecord_eq, add_joinTokens, addU64_joinTokens, addKeyU64,
    addKeyToken, addKeyRaw_joinTokens, emit_joinTokens, ne_eq, String.reduceEq,
    not_false_eq_true, PlanArtifact.canonicalBytes_eq]
  simp only [candidateRecords, List.flatten_cons, List.flatten_nil, List.flatMap_append,
    List.map_append, List.flatMap_map, List.flatMap_cons, List.flatMap_nil,
    List.map_map, List.map_cons, List.flatMap_assoc,
    Function.comp_def, List.append_nil, List.append_assoc, List.cons_append,
    List.nil_append]
  rfl

theorem foldl_witnesses (values : List Witness) (reader : ResultReader K) :
    (values.map witness).foldl apply reader = { reader with
      result := { reader.result with
        witnesses := reader.result.witnesses ++ values } } := by
  induction values generalizing reader with
  | nil => simp
  | cons value rest ih => simp [apply, ih]

theorem foldl_cuts (values : List CutCount) (reader : ResultReader K) :
    (values.map cut).foldl apply reader = { reader with
      result := { reader.result with cuts := reader.result.cuts ++ values } } := by
  induction values generalizing reader with
  | nil => simp
  | cons value rest ih => simp [apply, ih]

/-- What the entries in front of the candidates leave behind. -/
theorem foldl_frontEntries (result : PlanningResult K) :
    result.frontEntries.foldl apply
        { (ResultReader.initial : ResultReader K) with headerSeen := true } =
      { result := { result with candidates := [], resultDigest := default }
        headerSeen := true } := by
  unfold frontEntries
  simp only [List.foldl_flatten, List.foldl_cons, List.foldl_nil, foldl_witnesses,
    foldl_cuts, apply, ResultReader.initial, blank, List.nil_append]

/-- What the types of the counters promise. -/
structure Typed (result : PlanningResult K) : Prop where
  limitations : result.limitations < 2 ^ 32
  labelsCreated : result.statistics.labelsCreated < 2 ^ 64
  labelsExpanded : result.statistics.labelsExpanded < 2 ^ 64
  labelsDominated : result.statistics.labelsDominated < 2 ^ 64
  peakFrontier : result.statistics.peakFrontier < 2 ^ 64
  arcsExamined : result.statistics.arcsExamined < 2 ^ 64
  statesVisited : result.statistics.statesVisited < 2 ^ 64
  cuts : ∀ cut ∈ result.cuts, cut.count < 2 ^ 64

/-- The lines in front of the candidates keep the limits of the tokenizer. -/
def LinesFit (result : PlanningResult K) : Prop :=
  ∀ entry ∈ result.frontEntries, FitsLine entry.tokens

def WitnessesNamed (result : PlanningResult K) : Prop :=
  ∀ witness ∈ result.witnesses, witness.resource.text ≠ []

theorem Typed.legal {result : PlanningResult K} (typed : result.Typed) :
    ∀ entry ∈ result.frontEntries, entry.Legal := by
  simp only [frontEntries, List.flatten_cons, List.flatten_nil, List.append_nil,
    List.forall_mem_append, List.forall_mem_cons, List.forall_mem_map,
    List.not_mem_nil, false_implies, implies_true, Legal, and_true, true_and]
  exact ⟨⟨typed.limitations, typed.labelsCreated, typed.labelsExpanded,
    typed.labelsDominated, typed.peakFrontier, typed.arcsExamined,
    typed.statesVisited⟩, typed.cuts⟩

theorem readable_iff {result : PlanningResult K} :
    (∀ entry ∈ result.frontEntries, entry.Readable) ↔ result.WitnessesNamed := by
  simp only [frontEntries, List.flatten_cons, List.flatten_nil, List.append_nil,
    List.forall_mem_append, List.forall_mem_cons, List.forall_mem_map,
    List.not_mem_nil, false_implies, implies_true, Readable, and_true, true_and,
    WitnessesNamed]

theorem payload (result : PlanningResult K) :
    ∀ entry ∈ result.frontEntries, entry.keyword ≠ .digest := by
  simp [frontEntries, keyword, or_imp, forall_and]

end PlanningResult

section Results

variable {K : Type} [Field K] [LinearOrder K] {runtime : Runtime K}
  {numbers : DoubleText runtime.formatDouble}

/-- Candidates that are read back from their own bytes. -/
def PlanningResult.CandidatesReread (numbers : DoubleText runtime.formatDouble)
    (result : PlanningResult K) : Prop :=
  ∀ plan ∈ result.candidates, parsePlanArtifact runtime numbers
    (plan.canonicalBytes runtime.formatDouble) = .ok plan

theorem foldlM_candidates {plans : List (PlanArtifact K)}
    {reader : ResultReader K} (reading : reader.Reading)
    (empty : reader.candidateBuffer = []) (zero : numbers.IsDouble 0)
    (reread : ∀ plan ∈ plans, parsePlanArtifact runtime numbers
      (plan.canonicalBytes runtime.formatDouble) = .ok plan) (number : Nat) :
    (((plans.flatMap (candidateRecords runtime.formatDouble)).map
        joinTokens).zipIdx number).foldlM (readResultLine runtime numbers)
        reader =
      .ok { reader with
        result := { reader.result with
          candidates := reader.result.candidates ++ plans }
        expectedDigests :=
          reader.expectedDigests ++ plans.map PlanArtifact.digest } := by
  induction plans generalizing reader number with
  | nil => simp
  | cons plan rest ih =>
      rw [List.forall_mem_cons] at reread
      rw [List.flatMap_cons, List.map_append, List.zipIdx_append,
        List.foldlM_append, foldlM_candidate reading zero reread.1, ok_bind]
      refine (ih ?_ ?_ reread.2 _).trans ?_
      · exact ⟨reading.headerSeen, reading.digestSeen, reading.inCandidate⟩
      · rfl
      · simp [empty]

theorem PlanningResult.records_plain {result : PlanningResult K}
    (zero : numbers.IsDouble 0) (reread : result.CandidatesReread numbers) :
    ∀ record ∈ result.records runtime.formatDouble, PlainRecord record := by
  have constant : ∀ {name : Bytes}, Spelled 20 name → PlainRecord [name] := by
    intro name spelled
    exact ⟨by simp, by simpa using spelled.plainToken⟩
  have header : PlainRecord [text "OPP-RESULT", text "1"] := by
    have clean : CleanRecord [text "OPP-RESULT", text "1"] :=
      CleanRecord.of_spelled
        (.cons (Spelled.constant (by decide) : Spelled 10 _)
          (.cons (Spelled.constant (by decide) : Spelled 1 _) .nil)) (by decide)
    exact clean.plain
  unfold records candidateRecords
  simp only [List.forall_mem_append, List.forall_mem_singleton,
    List.forall_mem_flatMap, List.forall_mem_map, List.forall_mem_cons]
  refine ⟨⟨⟨header, fun entry _ => entry.plainRecord⟩, ?_⟩,
    ResultEntry.plainRecord _⟩
  intro plan member
  have legal := (accepted_of_parsePlanArtifact zero (reread plan member)).1
  exact ⟨⟨⟨ResultEntry.plainRecord _, constant (Spelled.constant (by decide))⟩,
    legal.plainRecords⟩, constant (Spelled.constant (by decide))⟩

/-- A sealed result is read back exactly when its lines keep the limits of the
tokenizer and its witnesses name resources. -/
theorem parseResultText_canonicalBytes_iff {result : PlanningResult K}
    (zero : numbers.IsDouble 0) (typed : result.Typed)
    (reread : result.CandidatesReread numbers)
    (sealed_ : (runtime.sealResult result).resultDigest = result.resultDigest) :
    parseResultText runtime numbers
        (result.canonicalBytes runtime.formatDouble) = .ok result ↔
      result.LinesFit ∧ result.WitnessesNamed := by
  have legal := typed.legal
  have payload := PlanningResult.payload result
  have header : readResultLine runtime numbers .initial
      (joinTokens [text "OPP-RESULT", text "1"], 1) =
        .ok { ResultReader.initial with headerSeen := true } := by rfl
  have reading : ({ (ResultReader.initial : ResultReader K) with
      headerSeen := true }).Reading := ⟨rfl, rfl, rfl⟩
  have front := fun next number =>
    @foldlM_readResultLine_iff K _ _ runtime numbers result.frontEntries _ next
      reading legal payload number
  unfold parseResultText
  rw [PlanningResult.canonicalBytes_eq,
    textLines_flatMap (PlanningResult.records_plain zero reread)]
  unfold PlanningResult.records
  rw [List.map_append, List.map_append, List.map_append, List.append_assoc,
    List.append_assoc, List.zipIdx_append, List.foldlM_append, List.map_cons,
    List.map_nil, List.zipIdx_cons, List.zipIdx_nil, List.foldlM_cons, header,
    ok_bind, List.foldlM_nil, pure_eq_ok, ok_bind, List.zipIdx_append,
    List.foldlM_append, List.map_map]
  constructor
  · intro read
    obtain ⟨reader, read, _⟩ := bind_eq_ok_iff.mp read
    obtain ⟨middle, read, _⟩ := bind_eq_ok_iff.mp read
    obtain ⟨conditions, _⟩ := (front middle _).mp read
    exact ⟨fun entry member => (conditions entry member).1,
      PlanningResult.readable_iff.mp fun entry member =>
        (conditions entry member).2⟩
  · rintro ⟨fits, named⟩
    have readable := PlanningResult.readable_iff.mpr named
    have read := fun number => (front _ number).mpr
      ⟨fun entry member => ⟨fits entry member, readable entry member⟩, rfl⟩
    rw [PlanningResult.foldl_frontEntries] at read
    have candidates := fun number => @foldlM_candidates K _ _ runtime numbers
      result.candidates
      { result := { result with candidates := [], resultDigest := default }
        headerSeen := true } ⟨rfl, rfl, rfl⟩ rfl zero reread number
    have last : ∀ reader : ResultReader K, reader.Reading → ∀ number,
        readResultLine runtime numbers reader
          (joinTokens (ResultEntry.digest result.resultDigest).tokens, number) =
            .ok (ResultEntry.apply reader (.digest result.resultDigest)) := by
      intro reader reading number
      have spelled := result.resultDigest.spelled
      rw [← Digest256.encodeToken_toHex] at spelled
      have name : Spelled 6 ResultKeyword.digest.name :=
        Spelled.constant (by decide)
      have clean : CleanRecord (ResultEntry.digest result.resultDigest).tokens :=
        CleanRecord.of_spelled (.cons name (.cons spelled .nil)) (by decide)
      have legal : (ResultEntry.digest result.resultDigest).Legal := trivial
      exact (readResultLine_eq_ok_iff reading legal number).mpr
        ⟨⟨clean.fits, trivial⟩, rfl⟩
    refine bind_eq_ok_iff.mpr ⟨{
      result := result
      headerSeen := true
      digestSeen := true
      expectedDigests := result.candidates.map PlanArtifact.digest },
      bind_eq_ok_iff.mpr ⟨_, read _, ?_⟩, ?_⟩
    · rw [List.zipIdx_append, List.foldlM_append, candidates, ok_bind,
        List.map_cons, List.map_nil, List.zipIdx_cons, List.zipIdx_nil,
        List.foldlM_cons, last _ ⟨rfl, rfl, rfl⟩, ok_bind]
      rfl
    · simp [acceptResult, sealed_]

end Results

end OpticalPathPlanner
