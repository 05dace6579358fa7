import OpticalPathPlanner.PlanEntries
import OpticalPathPlanner.SnapshotCodec

/-!
# The records of a snapshot

Every record of a snapshot is one line of its text, and one call of the
builder that reads the text.  A legal record is read back from its line, with
two exceptions: the description of a source is not written, and a transmit
profile named like a state of knowledge is read as that state.
-/

namespace OpticalPathPlanner

open LineAssembler
open PlanEntry (domainFields spelled_append)

/-! ### Lookups among the fields of a line -/

section Lookups

variable {positional : List Bytes} {fields : List (String × Bytes)} {first : Nat}

theorem plain_append_domainFields {domains : List FailureDomainId}
    (plainFields : (fields.all fun field =>
      plainKey field.1 && field.1 != "domains") = true) :
    ((fields ++ domainFields domains).all fun field => plainKey field.1) =
      true := by
  rw [List.all_eq_true] at plainFields
  rw [List.all_eq_true, List.forall_mem_append]
  refine ⟨fun field member => ?_, ?_⟩
  · have legal := plainFields field member
    rw [Bool.and_eq_true] at legal
    exact legal.1
  · unfold domainFields
    split_ifs
    · simp
    · simpa using (by decide : plainKey "domains" = true)

/-- Looking up a field that stands in front of the failure domains. -/
theorem findKeyedField_front {domains : List FailureDomainId} {key : String}
    (counted : positional.length = first)
    (plainFields : (fields.all fun field =>
      plainKey field.1 && field.1 != "domains") = true)
    (plain : (plainKey key && key != "domains") = true) :
    findKeyedField (positional ++ (fields ++ domainFields domains).map
      keyedToken) first key = findField fields key := by
  rw [Bool.and_eq_true, bne_iff_ne] at plain
  have others : (domainFields domains).filter (fun field => field.1 == key) =
      [] := by
    unfold domainFields
    split_ifs
    · rfl
    · simp [Ne.symm plain.2]
  rw [findKeyedField_append counted plain.1
    (plain_append_domainFields plainFields), findField, List.filter_append, others,
    List.append_nil, ← findField]

theorem collectDomains_map {domains : List FailureDomainId}
    (valid : ∀ domain ∈ domains, domain.Valid) (before : List FailureDomainId)
    (bounded : (before ++ domains).length ≤ kMaxDomainsPerResource) :
    collectDomains before (domains.map StrongId.str) =
      .ok (before ++ domains) := by
  induction domains generalizing before with
  | nil => simp [collectDomains]
  | cons domain rest ih =>
      have room : ¬ (before ++ [domain]).length > kMaxDomainsPerResource := by
        simp only [List.length_append, List.length_cons,
          List.length_nil] at bounded ⊢
        omega
      have later := ih
        (fun other member => valid other (List.mem_cons_of_mem domain member))
        (before ++ [domain]) (by simpa using bounded)
      rw [List.map_cons, collectDomains,
        StrongId.parse_str (valid domain List.mem_cons_self)]
      simp only [if_neg room, later, List.append_assoc, List.singleton_append]

/-- A list of valid failure domains that fits in one record. -/
structure DomainList (domains : List FailureDomainId) : Prop where
  valid : ∀ domain ∈ domains, domain.Valid
  bounded : domains.length ≤ kMaxDomainsPerResource

theorem DomainList.parseDomains {domains : List FailureDomainId}
    (legal : DomainList domains) (some_ : domains ≠ []) :
    parseDomains (joinCommas (domains.map StrongId.str)) = .ok domains := by
  have nonempty := joinCommas_ne_nil legal.valid some_
  rw [OpticalPathPlanner.parseDomains, if_neg (by simpa using nonempty),
    splitOn_joinCommas legal.valid some_,
    collectDomains_map legal.valid [] legal.bounded]
  rfl

/-- The failure domains stand behind all other fields. -/
theorem readDomains_append {domains : List FailureDomainId}
    (counted : positional.length = first) (legal : DomainList domains)
    (plainFields : (fields.all fun field =>
      plainKey field.1 && field.1 != "domains") = true) :
    readDomains (positional ++ (fields ++ domainFields domains).map keyedToken)
      first = .ok domains := by
  have others : fields.filter (fun field => field.1 == "domains") = [] := by
    rw [List.filter_eq_nil_iff]
    intro field member
    have legal := List.all_eq_true.mp plainFields field member
    rw [Bool.and_eq_true] at legal
    simpa using legal.2
  rw [readDomains, findKeyedField_append counted (by decide)
    (plain_append_domainFields plainFields), findField,
    List.filter_append, others]
  unfold domainFields
  by_cases none_ : domains = []
  · simp [none_]
  · have empty : domains.isEmpty = false := List.isEmpty_eq_false_iff.mpr none_
    simp [empty, legal.parseDomains none_]

end Lookups

/-! ### Values of fields -/

theorem readAdminState_name (state : AdminState) :
    readAdminState state.name = .ok state := by
  simp [readAdminState]

theorem readAdmin_spelled (admin : Evidence AdminState) :
    parseEvidence readAdminState (spellEvidence AdminState.name admin) =
      .ok admin :=
  parseEvidence_spellEvidence fun state _ =>
    ⟨readAdminState_name state, state.unreserved⟩

theorem readMask_spelled (mask : Evidence SlotMask) :
    parseEvidence SlotMask.fromHex (spellEvidence SlotMask.toHex mask) =
      .ok mask :=
  parseEvidence_spellEvidence fun value _ =>
    ⟨SlotMask.fromHex_toHex value, value.unreserved⟩

theorem readU64_spelled (evidence : Evidence UInt64) :
    parseEvidence parseU64 (spellEvidence (formatU64 ·.toNat) evidence) =
      .ok evidence :=
  parseEvidence_spellEvidence fun value _ =>
    ⟨parseU64_formatU64 value, unreserved_formatU64 _⟩

theorem readU32_spelled (evidence : Evidence UInt32) :
    parseEvidence parseU32 (spellEvidence (formatU64 ·.toNat) evidence) =
      .ok evidence :=
  parseEvidence_spellEvidence fun value _ =>
    ⟨parseU32_formatU64 value, unreserved_formatU64 _⟩

/-- A published number that is a double. -/
def Evidence.IsDouble {K : Type} {formatDouble : K → Bytes}
    (numbers : DoubleText formatDouble) (evidence : Evidence K) : Prop :=
  ∀ value, evidence = .known value → numbers.IsDouble value

theorem Evidence.IsDouble.spelled {K : Type} {formatDouble : K → Bytes}
    {numbers : DoubleText formatDouble} {evidence : Evidence K}
    (double : evidence.IsDouble numbers) :
    parseEvidence numbers.parseDouble (spellEvidence formatDouble evidence) =
      .ok evidence :=
  parseEvidence_spellEvidence fun value same =>
    ⟨DoubleText.parseDouble_formatDouble (double value same),
      DoubleText.unreserved (double value same)⟩

/-- What a transmit profile is read back as. -/
def rereadProfile : Evidence (Option ProfileId) → Evidence (Option ProfileId)
  | .known (some id) =>
      if id.str = text "unknown" then .unknown
      else if id.str = text "conflicting" then .conflicting
      else .known (some id)
  | evidence => evidence

/-- A published transmit profile has a valid identifier. -/
def ValidProfile (evidence : Evidence (Option ProfileId)) : Prop :=
  ∀ id, evidence = .known (some id) → id.Valid

theorem StrongId.Valid.ne_dash {tag : IdentityTag} {id : StrongId tag}
    (valid : id.Valid) : id.str ≠ text "-" := by
  intro dash
  rw [Valid, dash] at valid
  revert valid
  decide

theorem readProfile_spelled {evidence : Evidence (Option ProfileId)}
    (valid : ValidProfile evidence) :
    parseEvidence readProfileId (spellEvidence spellProfile evidence) =
      .ok (rereadProfile evidence) := by
  cases evidence with
  | unknown => rfl
  | conflicting => rfl
  | known profile =>
      cases profile with
      | none => rfl
      | some id =>
          have legal := valid id rfl
          simp only [parseEvidence, spellEvidence, spellProfile, rereadProfile,
            readProfileId, if_neg legal.ne_dash, StrongId.parse_str legal]
          split_ifs <;> rfl

theorem rereadProfile_eq_self_iff {evidence : Evidence (Option ProfileId)} :
    rereadProfile evidence = evidence ↔
      ∀ id, evidence = .known (some id) → Unreserved id.str := by
  cases evidence with
  | unknown => simp [rereadProfile]
  | conflicting => simp [rereadProfile]
  | known profile =>
      cases profile with
      | none => simp [rereadProfile]
      | some id =>
          simp only [rereadProfile, Evidence.known.injEq, Option.some.injEq,
            forall_eq', Unreserved]
          split_ifs <;> simp [*]

/-! ### The lengths of values -/

theorem StrongId.Valid.spelled_encodeToken {tag : IdentityTag}
    {id : StrongId tag} (valid : id.Valid) : Spelled 96 (encodeToken id.str) := by
  rw [valid.encodeToken_str]
  exact valid.spelled

theorem spelled_admin (admin : Evidence AdminState) :
    Spelled 11 (spellEvidence AdminState.name admin) := by
  refine spelled_spellEvidence (le_refl 11) fun state _ => ?_
  cases state <;> exact Spelled.constant (by decide)

theorem spelled_mask (mask : Evidence SlotMask) :
    Spelled 64 (spellEvidence SlotMask.toHex mask) :=
  spelled_spellEvidence (by decide) fun value _ => value.spelled

theorem spelled_number {α : Type} (toNat : α → Nat)
    (bounded : ∀ value, toNat value < 2 ^ 64) (evidence : Evidence α) :
    Spelled 20 (spellEvidence (fun value => formatU64 (toNat value)) evidence) :=
  spelled_spellEvidence (by decide) fun value _ =>
    spelled_formatU64 (bounded value)

theorem Evidence.IsDouble.spelled_double {K : Type} {formatDouble : K → Bytes}
    {numbers : DoubleText formatDouble} {evidence : Evidence K}
    (double : evidence.IsDouble numbers) :
    Spelled 64 (spellEvidence formatDouble evidence) :=
  spelled_spellEvidence (by decide) fun value same =>
    DoubleText.spelled (double value same)

theorem ValidProfile.spelled {evidence : Evidence (Option ProfileId)}
    (valid : ValidProfile evidence) :
    Spelled 96 (spellEvidence spellProfile evidence) := by
  refine spelled_spellEvidence (by decide) fun profile same => ?_
  cases profile with
  | none => exact Spelled.constant (by decide)
  | some id => exact (valid id same).spelled

theorem RecordKind.spelled_name (kind : RecordKind) : Spelled 7 kind.name := by
  cases kind <;> exact Spelled.constant (by decide)

def originBounds : List Nat := [100, 24]

/-- How long the tokens in front of the failure domains can be. -/
def RecordKind.tokenBounds : RecordKind → List Nat
  | source => [7, 96, 20, 8]
  | node => [7, 96, 11, 8, 17, 25] ++ originBounds
  | port => [7, 96, 96, 7, 17, 99, 70, 25] ++ originBounds
  | span => [7, 96, 96, 96, 96, 96, 6, 24, 69, 69, 70, 17, 25] ++ originBounds
  | crossConnect => [7, 96, 96, 96, 96, 96, 10, 70, 17, 25] ++ originBounds
  | profile => [7, 96, 25, 26, 69, 69] ++ originBounds

/-! ### Records and their lines -/

def directionName (bidirectional : Bool) : Bytes :=
  if bidirectional then text "bidir" else text "single"

/-- The tokens of the ends of an arc. -/
def endTokens (fromPort toPort : PortKey) : List Bytes :=
  [encodeToken fromPort.node.str, encodeToken fromPort.port.str,
    encodeToken toPort.node.str, encodeToken toPort.port.str]

def SourceRecord.reread (record : SourceRecord) : SourceRecord :=
  { record with description := [] }

def PortRecord.reread (record : PortRecord) : PortRecord :=
  { record with transmitProfile := rereadProfile record.transmitProfile }

def originFields (source : SourceId) (generation : Generation) :
    List (String × Bytes) :=
  [("src", source.str), ("gen", formatU64 generation.toNat)]

namespace Submission

variable {K : Type}

def kind : Submission K → RecordKind
  | source _ => .source
  | node _ => .node
  | port _ => .port
  | span _ => .span
  | crossConnect _ => .crossConnect
  | reachProfile _ => .profile

/-- The tokens in front of the keyed fields, behind the record name. -/
def positional : Submission K → List Bytes
  | source record =>
      [encodeToken record.id.str, formatU64 record.generation.toNat,
        encodeToken record.coverage.name]
  | node record =>
      [encodeToken record.id.str, encodeToken record.kind.name,
        encodeToken record.coverage.name]
  | port record =>
      [encodeToken record.key.node.str, encodeToken record.key.port.str,
        encodeToken record.role.name]
  | span record =>
      encodeToken record.id.str ::
        (endTokens record.fromPort record.toPort ++
          [encodeToken (directionName record.bidirectional)])
  | crossConnect record =>
      encodeToken record.id.str ::
        (endTokens record.fromPort record.toPort ++
          [encodeToken record.op.name])
  | reachProfile record => [encodeToken record.id.str]

/-- The keyed fields, without the failure domains behind them. -/
def facts (formatDouble : K → Bytes) : Submission K → List (String × Bytes)
  | source _ => []
  | node record =>
      [("admin", spellEvidence AdminState.name record.admin),
        ("cost", formatU64 record.transitCost.toNat)] ++
        originFields record.source record.generation
  | port record =>
      [("admin", spellEvidence AdminState.name record.admin),
        ("tx", spellEvidence spellProfile record.transmitProfile),
        ("slots", spellEvidence SlotMask.toHex record.blockedSlots),
        ("cost", formatU64 record.transitCost.toNat)] ++
        originFields record.source record.generation
  | span record =>
      [("len", spellEvidence (formatU64 ·.toNat) record.lengthM),
        ("loss", spellEvidence formatDouble record.lossDb),
        ("osnr", spellEvidence formatDouble record.osnrDb),
        ("slots", spellEvidence SlotMask.toHex record.blockedSlots),
        ("admin", spellEvidence AdminState.name record.admin),
        ("cost", formatU64 record.cost.toNat)] ++
        originFields record.source record.generation
  | crossConnect record =>
      [("slots", spellEvidence SlotMask.toHex record.blockedSlots),
        ("admin", spellEvidence AdminState.name record.admin),
        ("cost", formatU64 record.cost.toNat)] ++
        originFields record.source record.generation
  | reachProfile record =>
      [("dist", spellEvidence (formatU64 ·.toNat) record.maxDistanceM),
        ("spans", spellEvidence (formatU64 ·.toNat) record.maxSpanCount),
        ("loss", spellEvidence formatDouble record.maxLossDb),
        ("osnr", spellEvidence formatDouble record.minOsnrDb)] ++
        originFields record.source record.generation

/-- The failure domains of a record. -/
def domains : Submission K → List FailureDomainId
  | source _ => []
  | node record => record.failureDomains
  | port record => record.failureDomains
  | span record => record.failureDomains
  | crossConnect record => record.failureDomains
  | reachProfile _ => []

def tokens (formatDouble : K → Bytes) (call : Submission K) : List Bytes :=
  call.kind.name :: call.positional ++
    (call.facts formatDouble ++ domainFields call.domains).map keyedToken

/-- The line a record is written as. -/
def line (formatDouble : K → Bytes) : Submission K → Bytes
  | source record => sourceLine record
  | node record => nodeLine record
  | port record => portLine record
  | span record => spanLine formatDouble record
  | crossConnect record => crossConnectLine record
  | reachProfile record => profileLine formatDouble record

/-- The record that its line is read back as. -/
def reread : Submission K → Submission K
  | source record => source record.reread
  | port record => port record.reread
  | call => call

/-- Records whose identifiers are valid and whose numbers are doubles. -/
def Legal {formatDouble : K → Bytes} (numbers : DoubleText formatDouble) :
    Submission K → Prop
  | source record => record.id.Valid
  | node record =>
      record.id.Valid ∧ record.source.Valid ∧ DomainList record.failureDomains
  | port record =>
      record.key.Valid ∧ ValidProfile record.transmitProfile ∧
        record.source.Valid ∧ DomainList record.failureDomains
  | span record =>
      (record.id.Valid ∧ record.fromPort.Valid ∧ record.toPort.Valid) ∧
        (record.lossDb.IsDouble numbers ∧ record.osnrDb.IsDouble numbers) ∧
        record.source.Valid ∧ DomainList record.failureDomains
  | crossConnect record =>
      (record.id.Valid ∧ record.fromPort.Valid ∧ record.toPort.Valid) ∧
        record.source.Valid ∧ DomainList record.failureDomains
  | reachProfile record =>
      record.id.Valid ∧
        (record.maxLossDb.IsDouble numbers ∧ record.minOsnrDb.IsDouble numbers) ∧
        record.source.Valid

theorem facts_plain (formatDouble : K → Bytes) (call : Submission K) :
    ((call.facts formatDouble).all fun field =>
      plainKey field.1 && field.1 != "domains") = true := by
  cases call <;> rfl

theorem addDomains_joinTokens {record : String} (named : record ≠ "")
    (rest : List Bytes) (domains : List FailureDomainId) :
    addDomains ⟨joinTokens (text record :: rest)⟩ domains =
      ⟨joinTokens (text record ::
        (rest ++ (domainFields domains).map keyedToken))⟩ := by
  unfold addDomains domainFields
  split_ifs
  · simp
  · exact addKeyRaw_joinTokens named rest _ _

theorem line_eq (formatDouble : K → Bytes) (call : Submission K) :
    call.line formatDouble = writeRecord (call.tokens formatDouble) := by
  cases call with
  | _ record =>
      simp only [line, sourceLine, nodeLine, portLine, spanLine,
        crossConnectLine, profileLine, ofRecord_eq, add_joinTokens,
        addU64_joinTokens, addKeyU64, addEvidence_eq, addKeyRaw_joinTokens,
        addDomains_joinTokens, emit_joinTokens, ne_eq, String.reduceEq,
        not_false_eq_true]
      rfl

/-! ### Reading a record back -/

section Reading

variable {formatDouble : K → Bytes} {numbers : DoubleText formatDouble}

/-- Looking up a fact of a record in its tokens. -/
theorem findKeyedField_tokens {call : Submission K} {first : Nat}
    (counted : call.positional.length + 1 = first) {key : String}
    (plain : (plainKey key && key != "domains") = true) :
    findKeyedField (call.tokens formatDouble) first key =
      findField (call.facts formatDouble) key :=
  findKeyedField_front counted (call.facts_plain formatDouble) plain

theorem readDomains_tokens {call : Submission K} {first : Nat}
    (counted : call.positional.length + 1 = first)
    (legal : DomainList call.domains) :
    readDomains (call.tokens formatDouble) first = .ok call.domains :=
  readDomains_append counted legal (call.facts_plain formatDouble)

theorem readCoverage_name (detail : String) (coverage : Coverage) :
    readCoverage detail coverage.name = .ok coverage := by
  cases coverage <;> rfl

theorem readDirection_name (bidirectional : Bool) :
    readDirection (encodeToken (directionName bidirectional)) =
      .ok bidirectional := by
  cases bidirectional <;> decide

theorem readSource_tokens {record : SourceRecord} (valid : record.id.Valid) :
    readSource ((source record : Submission K).tokens formatDouble) =
      .ok record.reread := by
  simp [readSource, SourceRecord.reread, tokens, positional, facts, domains, domainFields, tokenAt,
    valid.encodeToken_str, StrongId.parse_str valid, readCoverage_name]

theorem readEnds_tokens {fromPort toPort : PortKey} {record id : Bytes}
    {values rest : List Bytes} (validFrom : fromPort.Valid)
    (validTo : toPort.Valid)
    (spelled : values = record :: id :: (endTokens fromPort toPort ++ rest)) :
    readEnds values = .ok (fromPort, toPort) := by
  simp [spelled, readEnds, endTokens, tokenAt, validFrom.1.encodeToken_str,
    validFrom.2.encodeToken_str, validTo.1.encodeToken_str,
    validTo.2.encodeToken_str, StrongId.parse_str validFrom.1,
    StrongId.parse_str validFrom.2, StrongId.parse_str validTo.1,
    StrongId.parse_str validTo.2]

/-- Behind the admin state the lookups start one token later. -/
theorem readNode_tokens {record : NodeRecord}
    (legal : (node record : Submission K).Legal numbers) :
    readNode ((node record : Submission K).tokens formatDouble) =
      .ok record := by
  obtain ⟨id, source, domains⟩ := legal
  have admin := @findKeyedField_tokens K formatDouble (node record) 4 rfl "admin"
    (by decide)
  let front : List Bytes := text "node" ::
    (node record : Submission K).positional ++
      [keyedToken ("admin", spellEvidence AdminState.name record.admin)]
  let fields : List (String × Bytes) :=
    ("cost", formatU64 record.transitCost.toNat) ::
      originFields record.source record.generation
  have spelled : (node record : Submission K).tokens formatDouble =
      front ++ (fields ++ domainFields record.failureDomains).map keyedToken :=
    rfl
  have find := fun key => @findKeyedField_front front fields 5
    record.failureDomains key rfl rfl
  have list := @readDomains_append front fields 5 record.failureDomains rfl
    domains rfl
  rw [← spelled] at list
  simp only [← spelled] at find
  have counted : ¬ ((node record : Submission K).tokens formatDouble).length < 5 := by
    simp [spelled, front, fields, positional, originFields]
  have first : tokenAt ((node record : Submission K).tokens formatDouble) 1 =
      encodeToken record.id.str := rfl
  have second : tokenAt ((node record : Submission K).tokens formatDouble) 2 =
      encodeToken record.kind.name := rfl
  have third : tokenAt ((node record : Submission K).tokens formatDouble) 3 =
      encodeToken record.coverage.name := rfl
  simp [readNode, counted, first, second, third, id.encodeToken_str,
    StrongId.parse_str id, readCoverage_name, requiredRawField, readOrigin, admin,
    find "cost" (by decide), find "src" (by decide), find "gen" (by decide), facts,
    fields, originFields, findField, list, readAdmin_spelled,
    StrongId.parse_str source]

theorem readPort_tokens {record : PortRecord}
    (legal : (port record : Submission K).Legal numbers) :
    readPort ((port record : Submission K).tokens formatDouble) =
      .ok record.reread := by
  obtain ⟨key, profile, source, domains⟩ := legal
  have find := fun key => @findKeyedField_tokens K formatDouble (port record) 4
    rfl key
  have list := @readDomains_tokens K formatDouble (port record) 4 rfl domains
  have counted : ¬ ((port record : Submission K).tokens formatDouble).length < 4 := by
    simp [tokens, positional]
  have first : tokenAt ((port record : Submission K).tokens formatDouble) 1 =
      encodeToken record.key.node.str := rfl
  have second : tokenAt ((port record : Submission K).tokens formatDouble) 2 =
      encodeToken record.key.port.str := rfl
  have third : tokenAt ((port record : Submission K).tokens formatDouble) 3 =
      encodeToken record.role.name := rfl
  simp [readPort, PortRecord.reread, counted, first, second, third, key.1.encodeToken_str,
    key.2.encodeToken_str, StrongId.parse_str key.1, StrongId.parse_str key.2,
    requiredRawField, readOrigin, find "admin" (by decide), find "tx" (by decide),
    find "slots" (by decide), find "cost" (by decide), find "src" (by decide),
    find "gen" (by decide), facts, originFields, findField, list, Submission.domains,
    readAdmin_spelled, readMask_spelled, readProfile_spelled profile,
    StrongId.parse_str source]

theorem readSpan_tokens {record : SpanRecord K}
    (legal : (span record).Legal numbers) :
    readSpan numbers ((span record).tokens formatDouble) = .ok record := by
  obtain ⟨⟨id, fromPort, toPort⟩, ⟨loss, osnr⟩, source, domains⟩ := legal
  have find := fun key => @findKeyedField_tokens K formatDouble (span record) 7
    rfl key
  have list := @readDomains_tokens K formatDouble (span record) 7 rfl domains
  have counted : ¬ ((span record).tokens formatDouble).length < 7 := by
    simp [tokens, positional, endTokens]
  have first : tokenAt ((span record).tokens formatDouble) 1 =
      encodeToken record.id.str := rfl
  have ends : readEnds ((span record).tokens formatDouble) =
      .ok (record.fromPort, record.toPort) :=
    readEnds_tokens fromPort toPort rfl
  have sixth : tokenAt ((span record).tokens formatDouble) 6 =
      encodeToken (directionName record.bidirectional) := rfl
  simp [readSpan, counted, first, id.encodeToken_str, StrongId.parse_str id, ends,
    sixth, readDirection_name, requiredRawField, readOrigin,
    find "len" (by decide), find "loss" (by decide), find "osnr" (by decide),
    find "slots" (by decide), find "admin" (by decide), find "cost" (by decide),
    find "src" (by decide), find "gen" (by decide), facts, originFields,
    findField, list, Submission.domains, readAdmin_spelled, readMask_spelled,
    readU64_spelled, loss.spelled, osnr.spelled, StrongId.parse_str source]

theorem readCrossConnect_tokens {record : CrossConnectRecord}
    (legal : (crossConnect record : Submission K).Legal numbers) :
    readCrossConnect ((crossConnect record : Submission K).tokens
      formatDouble) = .ok record := by
  obtain ⟨⟨id, fromPort, toPort⟩, source, domains⟩ := legal
  have find := fun key => @findKeyedField_tokens K formatDouble
    (crossConnect record) 7 rfl key
  have list := @readDomains_tokens K formatDouble (crossConnect record) 7 rfl
    domains
  have counted : ¬ ((crossConnect record : Submission K).tokens
      formatDouble).length < 7 := by
    simp [tokens, positional, endTokens]
  have first : tokenAt ((crossConnect record : Submission K).tokens
      formatDouble) 1 = encodeToken record.id.str := rfl
  have ends : readEnds ((crossConnect record : Submission K).tokens
      formatDouble) = .ok (record.fromPort, record.toPort) :=
    readEnds_tokens fromPort toPort rfl
  have sixth : tokenAt ((crossConnect record : Submission K).tokens
      formatDouble) 6 = encodeToken record.op.name := rfl
  simp [readCrossConnect, counted, first, id.encodeToken_str,
    StrongId.parse_str id, ends, sixth, requiredRawField, readOrigin,
    find "slots" (by decide), find "admin" (by decide), find "cost" (by decide),
    find "src" (by decide), find "gen" (by decide), facts, originFields,
    findField, list, Submission.domains, readAdmin_spelled, readMask_spelled,
    StrongId.parse_str source]

theorem readProfile_tokens {record : ReachProfile K}
    (legal : (reachProfile record).Legal numbers) :
    readProfile numbers ((reachProfile record).tokens formatDouble) =
      .ok record := by
  obtain ⟨id, ⟨loss, osnr⟩, source⟩ := legal
  have find := fun key => @findKeyedField_tokens K formatDouble
    (reachProfile record) 2 rfl key
  have counted : ¬ ((reachProfile record).tokens formatDouble).length < 2 := by
    simp [tokens, positional]
  have first : tokenAt ((reachProfile record).tokens formatDouble) 1 =
      encodeToken record.id.str := rfl
  simp [readProfile, counted, first, id.encodeToken_str, StrongId.parse_str id,
    requiredRawField, readOrigin, find "dist" (by decide),
    find "spans" (by decide), find "loss" (by decide), find "osnr" (by decide),
    find "src" (by decide), find "gen" (by decide), facts, originFields,
    findField, readU64_spelled, readU32_spelled, loss.spelled, osnr.spelled,
    StrongId.parse_str source]

/-- A legal record is read back from its tokens. -/
theorem readSubmission_tokens {call : Submission K} (legal : call.Legal numbers) :
    readSubmission numbers (call.tokens formatDouble) = .ok call.reread := by
  have named : tokenAt (call.tokens formatDouble) 0 = call.kind.name := rfl
  rw [readSubmission, named, RecordKind.parse_name]
  cases call with
  | source record => simp [kind, readSource_tokens legal, reread]
  | node record => simp [kind, readNode_tokens legal, reread]
  | port record => simp [kind, readPort_tokens legal, reread]
  | span record => simp [kind, readSpan_tokens legal, reread]
  | crossConnect record => simp [kind, readCrossConnect_tokens legal, reread]
  | reachProfile record => simp [kind, readProfile_tokens legal, reread]

/-! ### The limits of a line -/

theorem spelled_origin {source : SourceId} (valid : source.Valid)
    (generation : Generation) :
    List.Forall₂ Spelled originBounds
      ((originFields source generation).map keyedToken) :=
  .cons (valid.spelled.keyed "src" (by decide)) <|
  .cons ((spelled_formatU64 generation.toNat_lt).keyed "gen" (by decide)) .nil

/-- The tokens of a legal record in front of its failure domains. -/
theorem Legal.spelled {call : Submission K} (legal : call.Legal numbers) :
    List.Forall₂ Spelled call.kind.tokenBounds (call.kind.name :: call.positional ++
      (call.facts formatDouble).map keyedToken) := by
  have number := fun value : UInt64 => spelled_formatU64 value.toNat_lt
  cases call with
  | source record =>
      refine .cons (RecordKind.spelled_name _) <|
        .cons (StrongId.Valid.spelled_encodeToken legal) <|
        .cons (number record.generation) <| .cons ?_ .nil
      cases record.coverage <;> exact Spelled.constant (by decide)
  | node record =>
      obtain ⟨id, source, domains⟩ := legal
      refine .cons (RecordKind.spelled_name _) <|
        .cons id.spelled_encodeToken <| .cons ?_ <| .cons ?_ <|
        .cons ((spelled_admin record.admin).keyed "admin" (by decide)) <|
        .cons ((number record.transitCost).keyed "cost" (by decide)) <|
        spelled_origin source record.generation
      · cases record.kind <;> exact Spelled.constant (by decide)
      · cases record.coverage <;> exact Spelled.constant (by decide)
  | port record =>
      obtain ⟨key, profile, source, domains⟩ := legal
      refine .cons (RecordKind.spelled_name _) <|
        .cons key.1.spelled_encodeToken <| .cons key.2.spelled_encodeToken <|
        .cons ?_ <|
        .cons ((spelled_admin record.admin).keyed "admin" (by decide)) <|
        .cons (profile.spelled.keyed "tx" (by decide)) <|
        .cons ((spelled_mask record.blockedSlots).keyed "slots" (by decide)) <|
        .cons ((number record.transitCost).keyed "cost" (by decide)) <|
        spelled_origin source record.generation
      cases record.role <;> exact Spelled.constant (by decide)
  | span record =>
      obtain ⟨⟨id, fromPort, toPort⟩, ⟨loss, osnr⟩, source, domains⟩ := legal
      refine .cons (RecordKind.spelled_name _) <|
        .cons id.spelled_encodeToken <| .cons fromPort.1.spelled_encodeToken <|
        .cons fromPort.2.spelled_encodeToken <|
        .cons toPort.1.spelled_encodeToken <|
        .cons toPort.2.spelled_encodeToken <| .cons ?_ <|
        .cons ((spelled_number UInt64.toNat UInt64.toNat_lt record.lengthM).keyed
          "len" (by decide)) <|
        .cons (loss.spelled_double.keyed "loss" (by decide)) <|
        .cons (osnr.spelled_double.keyed "osnr" (by decide)) <|
        .cons ((spelled_mask record.blockedSlots).keyed "slots" (by decide)) <|
        .cons ((spelled_admin record.admin).keyed "admin" (by decide)) <|
        .cons ((number record.cost).keyed "cost" (by decide)) <|
        spelled_origin source record.generation
      cases record.bidirectional <;> exact Spelled.constant (by decide)
  | crossConnect record =>
      obtain ⟨⟨id, fromPort, toPort⟩, source, domains⟩ := legal
      refine .cons (RecordKind.spelled_name _) <|
        .cons id.spelled_encodeToken <| .cons fromPort.1.spelled_encodeToken <|
        .cons fromPort.2.spelled_encodeToken <|
        .cons toPort.1.spelled_encodeToken <|
        .cons toPort.2.spelled_encodeToken <| .cons ?_ <|
        .cons ((spelled_mask record.blockedSlots).keyed "slots" (by decide)) <|
        .cons ((spelled_admin record.admin).keyed "admin" (by decide)) <|
        .cons ((number record.cost).keyed "cost" (by decide)) <|
        spelled_origin source record.generation
      cases record.op <;> exact Spelled.constant (by decide)
  | reachProfile record =>
      obtain ⟨id, ⟨loss, osnr⟩, source⟩ := legal
      have short : ∀ value : UInt32, value.toNat < 2 ^ 64 := fun value =>
        value.toNat_lt.trans (by decide)
      exact .cons (RecordKind.spelled_name _) <|
        .cons id.spelled_encodeToken <|
        .cons ((spelled_number UInt64.toNat UInt64.toNat_lt
          record.maxDistanceM).keyed "dist" (by decide)) <|
        .cons ((spelled_number UInt32.toNat short record.maxSpanCount).keyed
          "spans" (by decide)) <|
        .cons (loss.spelled_double.keyed "loss" (by decide)) <|
        .cons (osnr.spelled_double.keyed "osnr" (by decide)) <|
        spelled_origin source record.generation

/-- The list of failure domains fits in one token behind its key. -/
def DomainsFit (call : Submission K) : Prop :=
  (joinCommas (call.domains.map StrongId.str)).length + 8 ≤ kMaxTokenBytes

instance (call : Submission K) : Decidable call.DomainsFit :=
  inferInstanceAs (Decidable (_ ≤ _))

theorem Legal.domainList {call : Submission K} (legal : call.Legal numbers) :
    DomainList call.domains := by
  cases call with
  | source record => exact ⟨by simp [domains], by simp [domains]⟩
  | node record => exact legal.2.2
  | port record => exact legal.2.2.2
  | span record => exact legal.2.2.2
  | crossConnect record => exact legal.2.2
  | reachProfile record => exact ⟨by simp [domains], by simp [domains]⟩

theorem tokens_eq (call : Submission K) :
    call.tokens formatDouble =
      (call.kind.name :: call.positional ++
        (call.facts formatDouble).map keyedToken) ++
      (domainFields call.domains).map keyedToken := by
  simp [tokens]

theorem domains_plainToken {call : Submission K} (legal : call.Legal numbers) :
    ∀ token ∈ (domainFields call.domains).map keyedToken, PlainToken token := by
  unfold domainFields
  split_ifs with none_
  · simp
  · have list := plainToken_joinCommas legal.domainList.valid
      (by simpa using none_)
    simpa using list.keyed (by decide : plainKey "domains" = true)

/-- The tokens of a legal record are told apart by the blanks between them. -/
theorem Legal.plainRecord {call : Submission K} (legal : call.Legal numbers) :
    PlainRecord (call.tokens formatDouble) := by
  have front := PlainRecord.of_spelled
    (@Legal.spelled K formatDouble numbers call legal) (by simp)
  rw [tokens_eq]
  refine ⟨by simp, ?_⟩
  rw [List.forall_mem_append]
  exact ⟨front.each, domains_plainToken legal⟩

/-- A legal record fits in its line when its failure domains do. -/
theorem Legal.fitsLine_iff {call : Submission K} (legal : call.Legal numbers) :
    FitsLine (call.tokens formatDouble) ↔ call.DomainsFit := by
  have front := @Legal.spelled K formatDouble numbers call legal
  have key : (text "domains").length = 7 := rfl
  constructor
  · intro fits
    by_cases none_ : call.domains = []
    · rw [DomainsFit, none_]
      decide
    · have empty : call.domains.isEmpty = false :=
        List.isEmpty_eq_false_iff.mpr none_
      have short := fits.token (keyedToken
        ("domains", joinCommas (call.domains.map StrongId.str)))
        (by simp [tokens_eq, domainFields, empty])
      simp only [keyedToken, List.length_append, key, List.length_cons,
        List.length_nil] at short
      unfold DomainsFit
      omega
  · intro fit
    have back : List.Forall₂ Spelled
        (if call.domains.isEmpty then [] else [kMaxTokenBytes])
        ((domainFields call.domains).map keyedToken) := by
      have plain := domains_plainToken legal
      unfold domainFields at plain ⊢
      split_ifs at plain ⊢ with none_
      · exact .nil
      · refine .cons ((plain _ List.mem_cons_self).spelled ?_) .nil
        simp only [keyedToken, List.length_append, key, List.length_cons,
          List.length_nil]
        unfold DomainsFit at fit
        omega
    have all := spelled_append front back
    rw [← tokens_eq] at all
    apply (CleanRecord.of_spelled all ?_).fits
    generalize call.kind = kind
    cases kind <;> split_ifs <;> decide

end Reading

end Submission

end OpticalPathPlanner
