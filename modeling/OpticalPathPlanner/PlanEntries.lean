import OpticalPathPlanner.PlanCodec

/-!
# The entries of a plan

A plan is written as a list of entries, one record each.  A legal entry whose
tokens keep the limits of the tokenizer is read back from its line.
-/

namespace OpticalPathPlanner

/-! ### Legal parts of a plan -/

section Legal

variable {K : Type} {formatDouble : K → Bytes}

structure PlanStep.Legal (step : PlanStep) : Prop where
  index : step.index < 2 ^ 32
  segmentIndex : step.segmentIndex < 2 ^ 32
  reasonBits : step.reasonBits < 2 ^ 32
  resource : step.resource.text ≠ []

structure PlanSpanUse.Legal (numbers : DoubleText formatDouble)
    (use : PlanSpanUse K) : Prop where
  id : use.id.Valid
  fromPort : use.fromPort.Valid
  toPort : use.toPort.Valid
  lossDb : numbers.IsDouble use.lossDb
  osnrDb : numbers.IsDouble use.osnrDb
  firstSlot : use.firstSlot < 2 ^ 16
  failureDomains : ∀ domain ∈ use.failureDomains, domain.Valid

/-- Port keys that are split where they were joined. -/
def PlanSpanUse.ColonFree (use : PlanSpanUse K) : Prop :=
  58 ∉ use.fromPort.node.str ∧ 58 ∉ use.toPort.node.str

/-- A segment without its span uses. -/
structure PlanSegment.Legal (numbers : DoubleText formatDouble)
    (segment : PlanSegment K) : Prop where
  index : segment.index < 2 ^ 32
  profile : segment.profile.Valid
  lossDb : numbers.IsDouble segment.lossDb
  osnrDb : numbers.IsDouble segment.osnrDb
  spanCount : segment.spanCount < 2 ^ 32
  channelRuns : segment.channelRuns < 2 ^ 32
  regeneration : if segment.endedByRegeneration then
    segment.regenerationResource.text ≠ []
    else segment.regenerationResource = default

structure PlanReservation.Legal (reservation : PlanReservation) : Prop where
  resource : reservation.resource.text ≠ []
  firstSlot : reservation.channel.firstSlot < 2 ^ 16
  widthSlots : reservation.channel.widthSlots < 2 ^ 16
  segmentIndex : reservation.segmentIndex < 2 ^ 32

structure FailureDomainExposure.Legal (exposure : FailureDomainExposure) :
    Prop where
  id : exposure.id.Valid
  memberCount : exposure.memberCount < 2 ^ 32

end Legal

/-- One record of a plan, with the values it holds. -/
inductive PlanEntry (K : Type)
  | rule (version : Nat)
  | request (id : RequestId) (digest : Digest256)
  | snapshot (id : SnapshotId) (generation : Generation) (digest : Digest256)
  | binding (value : SourceBinding)
  | endpoints (source destination : PortKey)
  | channel (width : Nat)
  | totals (cost distance : UInt64) (loss : K) (hops regenerations : Nat)
  | step (value : PlanStep)
  | segment (value : PlanSegment K)
  | spanUse (index : Nat) (value : PlanSpanUse K)
  | reservation (value : PlanReservation)
  | capability (value : PlanAssumption)
  | quality (value : PlanAssumption)
  | exposure (value : FailureDomainExposure)
  | digest (value : Digest256)

namespace PlanEntry

variable {K : Type}

/-- The tokens in front of the keyed fields. -/
def positional : PlanEntry K → List Bytes
  | rule version => [text "rule", formatU64 version]
  | request id hash =>
      [text "request", encodeToken id.str, encodeToken hash.toHex]
  | snapshot id generation hash =>
      [text "snapshot", encodeToken id.str, formatU64 generation.toNat,
        encodeToken hash.toHex]
  | binding value => [text "binding", encodeToken value.source.str]
  | endpoints _ _ => [text "endpoints"]
  | channel _ => [text "channel"]
  | totals .. => [text "totals"]
  | step value => [text "step", formatU64 value.index]
  | segment value => [text "segment", formatU64 value.index]
  | spanUse index _ => [text "segspan", formatU64 index]
  | reservation _ => [text "reservation"]
  | capability _ => [text "capability"]
  | quality _ => [text "quality"]
  | exposure _ => [text "exposure"]
  | digest value => [text "digest", encodeToken value.toHex]

def domainFields (domains : List FailureDomainId) : List (String × Bytes) :=
  if domains.isEmpty then []
  else [("domains", joinCommas (domains.map StrongId.str))]

def assumptionFields (assumption : PlanAssumption) : List (String × Bytes) :=
  [("res", encodeToken assumption.resource.toBytes),
    ("field", encodeToken assumption.field),
    ("value", encodeToken assumption.value)]

def segmentEnd (segment : PlanSegment K) : List (String × Bytes) :=
  if segment.endedByRegeneration then
    [("end", encodeToken (text "regeneration")),
      ("xc", encodeToken segment.regenerationResource.toBytes)]
  else
    [("end", encodeToken (text "transparent"))]

def fields (formatDouble : K → Bytes) : PlanEntry K → List (String × Bytes)
  | rule _ => []
  | request _ _ => []
  | snapshot _ _ _ => []
  | binding value =>
      [("gen", formatU64 value.generation.toNat),
        ("contrib", encodeToken value.snapshotContribution.toHex)]
  | endpoints source destination =>
      [("snode", encodeToken source.node.str),
        ("sport", encodeToken source.port.str),
        ("dnode", encodeToken destination.node.str),
        ("dport", encodeToken destination.port.str)]
  | channel width => [("width", formatU64 width)]
  | totals cost distance loss hops regenerations =>
      [("cost", formatU64 cost.toNat), ("distance", formatU64 distance.toNat),
        ("loss", formatDouble loss), ("hops", formatU64 hops),
        ("regen", formatU64 regenerations)]
  | step value =>
      [("kind", encodeToken value.kind.name),
        ("seg", formatU64 value.segmentIndex),
        ("reason", formatU64 value.reasonBits),
        ("cost", formatU64 value.cost.toNat),
        ("res", encodeToken value.resource.toBytes)]
  | segment value =>
      [("profile", encodeToken value.profile.str),
        ("runs", formatU64 value.channelRuns),
        ("distance", formatU64 value.distanceM.toNat),
        ("loss", formatDouble value.lossDb), ("osnr", formatDouble value.osnrDb),
        ("spans", formatU64 value.spanCount)] ++ segmentEnd value
  | spanUse _ value =>
      [("id", encodeToken value.id.str),
        ("from", encodeToken value.fromPort.canonicalText),
        ("to", encodeToken value.toPort.canonicalText),
        ("rev", formatU64 value.reversed.toNat),
        ("len", formatU64 value.lengthM.toNat),
        ("loss", formatDouble value.lossDb), ("osnr", formatDouble value.osnrDb),
        ("cost", formatU64 value.cost.toNat),
        ("slot", formatU64 value.firstSlot)] ++ domainFields value.failureDomains
  | reservation value =>
      [("res", encodeToken value.resource.toBytes),
        ("first", formatU64 value.channel.firstSlot),
        ("width", formatU64 value.channel.widthSlots),
        ("seg", formatU64 value.segmentIndex)]
  | capability value => assumptionFields value
  | quality value => assumptionFields value
  | exposure value =>
      [("domain", encodeToken value.id.str),
        ("count", formatU64 value.memberCount),
        ("limit", formatU64 value.limit.toNat)]
  | digest _ => []

def tokens (formatDouble : K → Bytes) (entry : PlanEntry K) : List Bytes :=
  entry.positional ++ (entry.fields formatDouble).map keyedToken

/-- What an entry does to a plan. -/
def apply (plan : PlanArtifact K) : PlanEntry K → PlanArtifact K
  | rule version => { plan with ruleVersion := version }
  | request id hash => { plan with requestId := id, requestDigest := hash }
  | snapshot id generation hash => { plan with
      snapshotId := id
      snapshotGeneration := generation
      snapshotDigest := hash }
  | binding value =>
      { plan with boundSources := plan.boundSources ++ [value] }
  | endpoints source destination =>
      { plan with source := source, destination := destination }
  | channel width => { plan with channelWidthSlots := width }
  | totals cost distance loss hops regenerations => { plan with
      totalCost := cost
      totalDistanceM := distance
      totalLossDb := loss
      hops := hops
      regenerations := regenerations }
  | step value => { plan with steps := plan.steps ++ [value] }
  | segment value => { plan with
      segments := plan.segments ++ [{ value with spans := [] }] }
  | spanUse index value => addSpanUse plan index value
  | reservation value =>
      { plan with reservations := plan.reservations ++ [value] }
  | capability value => { plan with
      capabilityAssumptions := plan.capabilityAssumptions ++ [value] }
  | quality value => { plan with
      qualityAssumptions := plan.qualityAssumptions ++ [value] }
  | exposure value => { plan with
      failureDomainExposure := plan.failureDomainExposure ++ [value] }
  | digest value => { plan with digest := value }

/-- Entries a plan may be written as, whether or not they are read back. -/
def Legal {formatDouble : K → Bytes} (numbers : DoubleText formatDouble) :
    PlanEntry K → Prop
  | rule version => version = kPlanningRuleVersion
  | binding value => value.source.Valid
  | channel width => width < 2 ^ 16
  | totals _ _ loss hops regenerations =>
      numbers.IsDouble loss ∧ hops < 2 ^ 32 ∧ regenerations < 2 ^ 32
  | step value => value.Legal
  | segment value => value.Legal numbers
  | spanUse index value => index < 2 ^ 32 ∧ value.Legal numbers
  | reservation value => value.Legal
  | capability value => value.resource.text ≠ []
  | quality value => value.resource.text ≠ []
  | exposure value => value.Legal
  | _ => True

/-- What reading the entry back asks for beside the limits of the tokenizer,
when that many segments have been read. -/
def Readable (count : Nat) : PlanEntry K → Prop
  | request id _ => id.Valid
  | snapshot id _ _ => id.Valid
  | endpoints source destination => source.Valid ∧ destination.Valid
  | spanUse index value => index < count ∧ value.ColonFree
  | _ => True

def keyword? : PlanEntry K → Option PlanKeyword
  | rule _ => none
  | request _ _ => some .request
  | snapshot _ _ _ => some .snapshot
  | binding _ => some .binding
  | endpoints _ _ => some .endpoints
  | channel _ => some .channel
  | totals .. => some .totals
  | step _ => some .step
  | segment _ => some .segment
  | spanUse _ _ => some .segspan
  | reservation _ => some .reservation
  | capability _ => some .capability
  | quality _ => some .quality
  | exposure _ => some .exposure
  | digest _ => some .digest

theorem fields_plain (formatDouble : K → Bytes) (entry : PlanEntry K) :
    ((entry.fields formatDouble).all fun field => plainKey field.1) = true := by
  cases entry with
  | segment value =>
      have ending : ((segmentEnd value).all fun field => plainKey field.1) = true := by
        unfold segmentEnd
        split_ifs <;> rfl
      rw [fields, List.all_append, ending]
      rfl
  | spanUse index value =>
      have domains : ((domainFields value.failureDomains).all fun field =>
          plainKey field.1) = true := by
        unfold domainFields
        split_ifs <;> rfl
      rw [fields, List.all_append, domains]
      rfl
  | _ => rfl

/-- Looking a field of an entry up in its tokens. -/
theorem findKeyedField_tokens {formatDouble : K → Bytes} {entry : PlanEntry K}
    {first : Nat} (counted : entry.positional.length = first) {key : String}
    (plain : plainKey key = true) :
    findKeyedField (entry.tokens formatDouble) first key =
      findField (entry.fields formatDouble) key :=
  findKeyedField_append counted plain (fields_plain formatDouble entry)

variable {formatDouble : K → Bytes} {numbers : DoubleText formatDouble}

/-- Bytes that need no escape are read as they are. -/
theorem decodeToken_of_raw {raw : Bytes} (nonempty : raw ≠ [])
    (plain : raw.all isRawTokenCharacter = true)
    (short : raw.length ≤ kMaxTokenBytes) : decodeToken raw = .ok raw := by
  have read := @decodeToken_encodeToken raw
  rw [encodeToken_of_raw nonempty plain] at read
  exact read (short.trans (by decide))

theorem decodeToken_id {tag : IdentityTag} {id : StrongId tag} (valid : id.Valid) :
    decodeToken id.str = .ok id.str :=
  decodeToken_of_raw valid.ne_nil valid.all_raw
    (valid.length_le.trans (by decide))

theorem decodeToken_toHex (digest : Digest256) :
    decodeToken digest.toHex = .ok digest.toHex :=
  decodeToken_of_raw digest.toHex_ne_nil digest.toHex_all_raw
    (digest.spelled.short.trans (by decide))

theorem decodeToken_kind (kind : StepKind) :
    decodeToken (encodeToken kind.name) = .ok kind.name ∧
      parseStepKind kind.name = some kind := by
  cases kind <;> decide

theorem canonicalText_raw {key : PortKey} (valid : key.Valid) :
    key.canonicalText.all isRawTokenCharacter = true ∧
      key.canonicalText ≠ [] ∧ key.canonicalText.length ≤ 193 := by
  have node := valid.1.length_le
  have port := valid.2.length_le
  refine ⟨?_, ?_, ?_⟩
  · rw [PortKey.canonicalText, List.all_append, List.all_append, valid.1.all_raw,
      valid.2.all_raw]
    rfl
  · simp [PortKey.canonicalText, valid.1.ne_nil]
  · have colon : (text ":").length = 1 := rfl
    simp only [PortKey.canonicalText, List.length_append, colon]
    simp only [kMaxIdLength] at node port
    omega

theorem decodeToken_canonicalText {key : PortKey} (valid : key.Valid) :
    decodeToken (encodeToken key.canonicalText) = .ok key.canonicalText := by
  obtain ⟨raw, nonempty, short⟩ := canonicalText_raw valid
  rw [encodeToken_of_raw nonempty raw]
  exact decodeToken_of_raw nonempty raw (short.trans (by decide))

theorem splitPortKey_canonicalText {key : PortKey} (valid : key.Valid)
    (plain : 58 ∉ key.node.str) : splitPortKey key.canonicalText = .ok key := by
  have spelled : key.canonicalText = key.node.str ++ 58 :: key.port.str := by
    rw [PortKey.canonicalText, List.append_assoc]
    rfl
  rw [splitPortKey, spelled, cutAt_append plain]
  simp [StrongId.parse_str valid.1, StrongId.parse_str valid.2]

theorem readBinding_tokens {value : SourceBinding} (valid : value.source.Valid) :
    readBinding ((binding value : PlanEntry K).tokens formatDouble) = .ok value := by
  have find := fun key => @findKeyedField_tokens K formatDouble (binding value) 2
    rfl key
  have counted : ¬ ((binding value : PlanEntry K).tokens formatDouble).length < 2 := by
    simp [tokens, positional]
  have second : tokenAt ((binding value : PlanEntry K).tokens formatDouble) 1 =
      encodeToken value.source.str := rfl
  rw [readBinding, if_neg counted, second, valid.encodeToken_str]
  simp [StrongId.parse_str valid, requiredRawField, requiredKeyToken,
    find "gen" (by decide), find "contrib" (by decide), fields, findField,
    decodeToken_toHex]

theorem readEndpoints_tokens {source destination : PortKey} (valid : source.Valid)
    (validDestination : destination.Valid) :
    readEndpoints ((endpoints source destination : PlanEntry K).tokens
      formatDouble) = .ok (source, destination) := by
  have find := fun key => @findKeyedField_tokens K formatDouble
    (endpoints source destination) 1 rfl key
  simp [readEndpoints, requiredKeyToken, find "snode" (by decide),
    find "sport" (by decide), find "dnode" (by decide), find "dport" (by decide),
    fields, findField, valid.1.encodeToken_str, valid.2.encodeToken_str,
    validDestination.1.encodeToken_str, validDestination.2.encodeToken_str,
    decodeToken_id valid.1, decodeToken_id valid.2,
    decodeToken_id validDestination.1, decodeToken_id validDestination.2,
    StrongId.parse_str valid.1, StrongId.parse_str valid.2,
    StrongId.parse_str validDestination.1, StrongId.parse_str validDestination.2]

theorem readStep_tokens {value : PlanStep} (legal : value.Legal)
    (fits : FitsLine ((step value : PlanEntry K).tokens formatDouble)) :
    readStep ((step value : PlanEntry K).tokens formatDouble) = .ok value := by
  have find := fun key => @findKeyedField_tokens K formatDouble (step value) 2
    rfl key
  have resource : decodeToken (encodeToken value.resource.toBytes) =
      .ok value.resource.toBytes :=
    FitsLine.decodeToken_field "res" fits (by simp [fields])
  have counted : ¬ ((step value : PlanEntry K).tokens formatDouble).length < 2 := by
    simp [tokens, positional]
  have second : tokenAt ((step value : PlanEntry K).tokens formatDouble) 1 =
      formatU64 value.index := rfl
  have kind := decodeToken_kind value.kind
  have index := legal.index
  have segment := legal.segmentIndex
  have reason := legal.reasonBits
  rw [readStep, if_neg counted, second, parseU32_formatU64_nat index]
  simp [requiredRawField, requiredKeyToken, find "kind" (by decide),
    find "seg" (by decide), find "reason" (by decide), find "cost" (by decide),
    find "res" (by decide), fields, findField, kind.1, kind.2, resource,
    parseU32_formatU64_nat segment, parseU32_formatU64_nat reason,
    resourceKeyFromString_toBytes legal.resource]
  cases value
  simp at *
  omega

theorem readReservation_tokens {value : PlanReservation} (legal : value.Legal)
    (fits : FitsLine ((reservation value : PlanEntry K).tokens formatDouble)) :
    readReservation ((reservation value : PlanEntry K).tokens formatDouble) =
      .ok value := by
  have find := fun key => @findKeyedField_tokens K formatDouble
    (reservation value) 1 rfl key
  have resource : decodeToken (encodeToken value.resource.toBytes) =
      .ok value.resource.toBytes :=
    FitsLine.decodeToken_field "res" fits (by simp [fields])
  have first := legal.firstSlot
  have width := legal.widthSlots
  have segment := legal.segmentIndex
  simp [readReservation, requiredRawField, requiredKeyToken,
    find "res" (by decide), find "first" (by decide), find "width" (by decide),
    find "seg" (by decide), fields, findField, resource,
    parseU16_formatU64_nat first, parseU16_formatU64_nat width,
    parseU32_formatU64_nat segment, resourceKeyFromString_toBytes legal.resource]
  cases value with
  | mk resource channel segmentIndex =>
      cases channel
      simp at *
      omega

theorem readAssumption_fields {entry : PlanEntry K} {value : PlanAssumption}
    (named : value.resource.text ≠ []) (one : entry.positional.length = 1)
    (spelled : entry.fields formatDouble = assumptionFields value)
    (fits : FitsLine (entry.tokens formatDouble)) :
    readAssumption (entry.tokens formatDouble) = .ok value := by
  have find := fun key => @findKeyedField_tokens K formatDouble entry 1 one key
  have resource : decodeToken (encodeToken value.resource.toBytes) =
      .ok value.resource.toBytes :=
    FitsLine.decodeToken_field "res" fits (by simp [spelled, assumptionFields])
  have field : decodeToken (encodeToken value.field) = .ok value.field :=
    FitsLine.decodeToken_field "field" fits (by simp [spelled, assumptionFields])
  have content : decodeToken (encodeToken value.value) = .ok value.value :=
    FitsLine.decodeToken_field "value" fits (by simp [spelled, assumptionFields])
  simp [readAssumption, requiredKeyToken, find "res" (by decide),
    find "field" (by decide), find "value" (by decide), spelled,
    assumptionFields, findField, resource, field, content,
    resourceKeyFromString_toBytes named]

theorem readExposure_tokens {value : FailureDomainExposure}
    (legal : value.Legal) :
    readExposure ((exposure value : PlanEntry K).tokens formatDouble) =
      .ok value := by
  have find := fun key => @findKeyedField_tokens K formatDouble
    (exposure value) 1 rfl key
  have count := legal.memberCount
  simp [readExposure, requiredRawField, requiredKeyToken,
    find "domain" (by decide), find "count" (by decide),
    find "limit" (by decide), fields, findField, legal.id.encodeToken_str,
    decodeToken_id legal.id, StrongId.parse_str legal.id,
    parseU32_formatU64_nat count]
  cases value
  simp at *
  omega

theorem readSegment_tokens {value : PlanSegment K} (legal : value.Legal numbers)
    (fits : FitsLine ((segment value).tokens formatDouble)) :
    readSegment numbers ((segment value).tokens formatDouble) =
      .ok { value with spans := [] } := by
  have find := fun key => @findKeyedField_tokens K formatDouble (segment value) 2
    rfl key
  have counted : ¬ ((segment value).tokens formatDouble).length < 2 := by
    simp [tokens, positional]
  have second : tokenAt ((segment value).tokens formatDouble) 1 =
      formatU64 value.index := rfl
  have index := legal.index
  have runs := legal.channelRuns
  have spans := legal.spanCount
  have regenerated : decodeToken (encodeToken (text "regeneration")) =
      .ok (text "regeneration") := by decide
  have transparent : decodeToken (encodeToken (text "transparent")) =
      .ok (text "transparent") ∧ text "transparent" ≠ text "regeneration" := by
    decide
  have regeneration := legal.regeneration
  rw [readSegment, if_neg counted, second, parseU32_formatU64_nat index]
  simp only [requiredRawField, requiredKeyToken, find "profile" (by decide),
    find "runs" (by decide), find "distance" (by decide), find "loss" (by decide),
    find "osnr" (by decide), find "spans" (by decide), find "end" (by decide),
    find "xc" (by decide), fields, segmentEnd]
  cases ended : value.endedByRegeneration with
  | true =>
      rw [ended, if_pos rfl] at regeneration
      have resource : decodeToken
          (encodeToken value.regenerationResource.toBytes) =
            .ok value.regenerationResource.toBytes :=
        FitsLine.decodeToken_field "xc" fits (by simp [fields, segmentEnd, ended])
      simp [findField, legal.profile.encodeToken_str,
        decodeToken_id legal.profile, StrongId.parse_str legal.profile,
        parseU32_formatU64_nat runs, parseU32_formatU64_nat spans,
        DoubleText.parseDouble_formatDouble legal.lossDb,
        DoubleText.parseDouble_formatDouble legal.osnrDb, regenerated, resource,
        resourceKeyFromString_toBytes regeneration]
      omega
  | false =>
      rw [ended, if_neg Bool.false_ne_true] at regeneration
      simp [findField, legal.profile.encodeToken_str,
        decodeToken_id legal.profile, StrongId.parse_str legal.profile,
        parseU32_formatU64_nat runs, parseU32_formatU64_nat spans,
        DoubleText.parseDouble_formatDouble legal.lossDb,
        DoubleText.parseDouble_formatDouble legal.osnrDb, transparent.1,
        transparent.2, regeneration]
      omega

theorem parseDomainPieces_map {domains : List FailureDomainId}
    (valid : ∀ domain ∈ domains, domain.Valid) :
    parseDomainPieces (domains.map StrongId.str) = .ok domains := by
  induction domains with
  | nil => rfl
  | cons domain rest ih =>
      rw [List.map_cons, parseDomainPieces,
        StrongId.parse_str (valid domain List.mem_cons_self),
        ih fun other member => valid other (List.mem_cons_of_mem domain member)]
      rfl

theorem parseDomainList_joinCommas {domains : List FailureDomainId}
    (valid : ∀ domain ∈ domains, domain.Valid) (some_ : domains ≠ []) :
    parseDomainList (joinCommas (domains.map StrongId.str)) = .ok domains := by
  have nonempty := joinCommas_ne_nil valid some_
  rw [parseDomainList, if_neg (by simpa using nonempty),
    splitOn_joinCommas valid some_, parseDomainPieces_map valid]

theorem readSpanUse_tokens {index : Nat} {value : PlanSpanUse K}
    (legal : value.Legal numbers) (plain : value.ColonFree) :
    readSpanUse numbers ((spanUse index value).tokens formatDouble) =
      .ok value := by
  have find := fun key => @findKeyedField_tokens K formatDouble
    (spanUse index value) 2 rfl key
  have reversed : parseU32 (formatU64 value.reversed.toNat) =
      .ok (UInt32.ofNat value.reversed.toNat) := by
    apply parseU32_formatU64_nat
    cases value.reversed <;> decide
  have direction : ¬ 1 < value.reversed.toNat % 4294967296 ∧
      (value.reversed.toNat % 4294967296 == 1) = value.reversed := by
    cases value.reversed <;> decide
  have slot := legal.firstSlot
  have slotEq : value.firstSlot % 65536 = value.firstSlot := by omega
  have lookups := And.intro (find "id" (by decide)) <|
    And.intro (find "from" (by decide)) <| And.intro (find "to" (by decide)) <|
    And.intro (find "rev" (by decide)) <| And.intro (find "len" (by decide)) <|
    And.intro (find "loss" (by decide)) <| And.intro (find "osnr" (by decide)) <|
    And.intro (find "cost" (by decide)) <| And.intro (find "slot" (by decide)) <|
    find "domains" (by decide)
  rw [readSpanUse]
  simp only [requiredRawField, requiredKeyToken, lookups, fields, domainFields]
  by_cases some_ : value.failureDomains = []
  · simp [some_, findField, legal.id.encodeToken_str, decodeToken_id legal.id,
      StrongId.parse_str legal.id, decodeToken_canonicalText legal.fromPort,
      decodeToken_canonicalText legal.toPort,
      splitPortKey_canonicalText legal.fromPort plain.1,
      splitPortKey_canonicalText legal.toPort plain.2, reversed,
      DoubleText.parseDouble_formatDouble legal.lossDb,
      DoubleText.parseDouble_formatDouble legal.osnrDb,
      parseU16_formatU64_nat slot, direction, slotEq]
    rw [← some_]
  · simp [some_, findField, legal.id.encodeToken_str, decodeToken_id legal.id,
      StrongId.parse_str legal.id, decodeToken_canonicalText legal.fromPort,
      decodeToken_canonicalText legal.toPort,
      splitPortKey_canonicalText legal.fromPort plain.1,
      splitPortKey_canonicalText legal.toPort plain.2, reversed,
      DoubleText.parseDouble_formatDouble legal.lossDb,
      DoubleText.parseDouble_formatDouble legal.osnrDb,
      parseU16_formatU64_nat slot, direction, slotEq,
      parseDomainList_joinCommas legal.failureDomains some_]

/-- What a legal entry that keeps the limits does to the plan. -/
theorem readPlanField_tokens {entry : PlanEntry K} {plan : PlanArtifact K}
    {keyword : PlanKeyword} (named : entry.keyword? = some keyword)
    (legal : entry.Legal numbers) (readable : entry.Readable plan.segments.length)
    (fits : FitsLine (entry.tokens formatDouble)) :
    readPlanField numbers plan keyword (entry.tokens formatDouble) =
      .ok (apply plan entry) := by
  cases entry with
  | rule version => cases named
  | request id hash =>
      cases named
      simp only [Readable] at readable
      simp [readPlanField, tokens, positional, fields, tokenAt,
        readable.encodeToken_str, StrongId.parse_str readable, apply]
  | snapshot id generation hash =>
      cases named
      simp only [Readable] at readable
      simp [readPlanField, tokens, positional, fields, tokenAt,
        readable.encodeToken_str, StrongId.parse_str readable, apply]
  | binding value =>
      cases named
      simp only [Legal] at legal
      simp [readPlanField, readBinding_tokens legal, apply]
  | endpoints source destination =>
      cases named
      simp only [Readable] at readable
      simp [readPlanField, readEndpoints_tokens readable.1 readable.2, apply]
  | channel width =>
      cases named
      simp only [Legal] at legal
      have find := @findKeyedField_tokens K formatDouble (channel width) 1 rfl
        "width" (by decide)
      simp [readPlanField, requiredRawField, find, fields, findField,
        parseU16_formatU64_nat legal, apply]
      omega
  | totals cost distance loss hops regenerations =>
      cases named
      simp only [Legal] at legal
      obtain ⟨double, hopsLt, regenerationsLt⟩ := legal
      have find := fun key => @findKeyedField_tokens K formatDouble
        (totals cost distance loss hops regenerations) 1 rfl key
      simp [readPlanField, requiredRawField, find "cost" (by decide),
        find "distance" (by decide), find "loss" (by decide),
        find "hops" (by decide), find "regen" (by decide), fields, findField,
        DoubleText.parseDouble_formatDouble double,
        parseU32_formatU64_nat hopsLt, parseU32_formatU64_nat regenerationsLt,
        apply]
      omega
  | step value =>
      cases named
      simp only [Legal] at legal
      simp [readPlanField, readStep_tokens legal fits, apply]
  | segment value =>
      cases named
      simp only [Legal] at legal
      simp [readPlanField, readSegment_tokens legal fits, apply]
  | spanUse index value =>
      cases named
      simp only [Legal] at legal
      simp only [Readable] at readable
      have counted : ¬ ((spanUse index value).tokens formatDouble).length < 2 := by
        simp [tokens, positional]
      have second : tokenAt ((spanUse index value).tokens formatDouble) 1 =
          formatU64 index := rfl
      have indexEq : index % 4294967296 = index := by omega
      have inRange : ¬ plan.segments.length ≤ index := by omega
      simp [readPlanField, counted, second, parseU32_formatU64_nat legal.1,
        indexEq, inRange, readSpanUse_tokens legal.2 readable.2, apply]
  | reservation value =>
      cases named
      simp only [Legal] at legal
      simp [readPlanField, readReservation_tokens legal fits, apply]
  | capability value =>
      cases named
      simp only [Legal] at legal
      simp [readPlanField, readAssumption_fields legal rfl rfl fits, apply]
  | quality value =>
      cases named
      simp only [Legal] at legal
      simp [readPlanField, readAssumption_fields legal rfl rfl fits, apply]
  | exposure value =>
      cases named
      simp only [Legal] at legal
      simp [readPlanField, readExposure_tokens legal, apply]
  | digest value =>
      cases named
      simp [readPlanField, tokens, positional, fields, tokenAt, apply]

theorem tokenAt_zero {entry : PlanEntry K} {keyword : PlanKeyword}
    (named : entry.keyword? = some keyword) :
    tokenAt (entry.tokens formatDouble) 0 = keyword.name := by
  cases entry <;> cases named <;> rfl

theorem name_ne_rule (keyword : PlanKeyword) : keyword.name ≠ text "rule" := by
  cases keyword <;> decide

/-- Dispatching a record other than the rule. -/
theorem readPlanRecord_eq {entry : PlanEntry K} {reader : PlanReader K}
    {keyword : PlanKeyword} (named : entry.keyword? = some keyword)
    (seen : reader.headerSeen = true) (open_ : reader.digestSeen = false)
    (number : Nat) :
    readPlanRecord numbers reader number (entry.tokens formatDouble) =
      failAtLine number (readPlanField numbers reader.plan keyword
        (entry.tokens formatDouble)) >>= fun plan =>
          .ok { reader with plan := plan, digestSeen := keyword == .digest } := by
  rw [readPlanRecord, seen, open_, tokenAt_zero named]
  simp [name_ne_rule, PlanKeyword.parse_name]

/-- A legal entry that keeps the limits is read back. -/
theorem readPlanRecord_tokens {entry : PlanEntry K} {reader : PlanReader K}
    (seen : reader.headerSeen = true) (open_ : reader.digestSeen = false)
    (legal : entry.Legal numbers)
    (readable : entry.Readable reader.plan.segments.length)
    (fits : FitsLine (entry.tokens formatDouble)) (number : Nat) :
    readPlanRecord numbers reader number (entry.tokens formatDouble) =
      .ok { reader with
        plan := apply reader.plan entry
        digestSeen := entry.keyword? == some .digest } := by
  cases named : entry.keyword? with
  | none =>
      cases entry with
      | rule version =>
          simp only [Legal] at legal
          subst legal
          have one : parseU32 (formatU64 1) = .ok 1 :=
            parseU32_formatU64_nat (by decide)
          simp [readPlanRecord, readRule, seen, open_, tokens, positional, fields,
            tokenAt, one, apply, kPlanningRuleVersion]
      | _ => cases named
  | some keyword =>
      rw [readPlanRecord_eq named seen open_,
        readPlanField_tokens named legal readable fits]
      simp

/-! ### The lines of a plan -/

theorem fields_plainToken {entry : PlanEntry K} (legal : entry.Legal numbers) :
    ∀ field ∈ entry.fields formatDouble, PlainToken field.2 := by
  have hex := fun digest : Digest256 => digest.spelled.plainToken
  cases entry with
  | totals cost distance loss hops regenerations =>
      simp only [Legal] at legal
      simp [fields, plainToken_formatU64,
        (DoubleText.spelled legal.1).plainToken]
  | segment value =>
      simp only [Legal] at legal
      have ending : ∀ field ∈ segmentEnd value, PlainToken field.2 := by
        unfold segmentEnd
        split_ifs <;> simp [plainToken_encodeToken]
      rw [fields, List.forall_mem_append]
      refine ⟨?_, ending⟩
      simp [plainToken_formatU64, plainToken_encodeToken,
        (DoubleText.spelled legal.lossDb).plainToken,
        (DoubleText.spelled legal.osnrDb).plainToken]
  | spanUse index value =>
      simp only [Legal] at legal
      have domains : ∀ field ∈ domainFields value.failureDomains,
          PlainToken field.2 := by
        unfold domainFields
        split_ifs with none_
        · simp
        · simpa using plainToken_joinCommas legal.2.failureDomains
            (by simpa using none_)
      rw [fields, List.forall_mem_append]
      refine ⟨?_, domains⟩
      simp [plainToken_formatU64, plainToken_encodeToken,
        (DoubleText.spelled legal.2.lossDb).plainToken,
        (DoubleText.spelled legal.2.osnrDb).plainToken]
  | _ =>
      simp [fields, assumptionFields, plainToken_formatU64,
        plainToken_encodeToken, hex]

theorem positional_plainToken (entry : PlanEntry K) :
    ∀ token ∈ entry.positional, PlainToken token := by
  cases entry <;>
    simp only [positional, List.forall_mem_cons, plainToken_formatU64,
      plainToken_encodeToken, List.not_mem_nil, false_implies, implies_true,
      and_true] <;>
    exact (Spelled.constant (by decide) : Spelled 11 _).plainToken

/-- The tokens of a legal entry are told apart by the blanks between them. -/
theorem Legal.plainRecord {entry : PlanEntry K} (legal : entry.Legal numbers) :
    PlainRecord (entry.tokens formatDouble) := by
  constructor
  · cases entry <;> simp [tokens, positional]
  · rw [tokens, List.forall_mem_append, List.forall_mem_map]
    refine ⟨entry.positional_plainToken, fun field member => ?_⟩
    have plain := List.all_eq_true.mp (fields_plain formatDouble entry) field member
    exact (fields_plainToken legal field member).keyed plain

/-- Seven tokens within their limit fit in a line. -/
theorem fitsLine_of_count {record : List Bytes} (nonempty : record ≠ [])
    (count : record.length ≤ 7)
    (short : ∀ token ∈ record, token.length ≤ kMaxTokenBytes) :
    FitsLine record := by
  refine ⟨?_, short⟩
  have length := joinTokens_length nonempty
  have bound := List.sum_le_card_nsmul (record.map fun token => token.length + 1)
    (kMaxTokenBytes + 1) (by
      intro total member
      obtain ⟨token, isToken, rfl⟩ := List.mem_map.mp member
      exact Nat.succ_le_succ (short token isToken))
  rw [List.length_map, smul_eq_mul] at bound
  simp only [kMaxTextLineBytes, kMaxTokenBytes] at *
  omega

theorem spelled_append {bounds others : List Nat} {record rest : List Bytes}
    (first : List.Forall₂ Spelled bounds record)
    (second : List.Forall₂ Spelled others rest) :
    List.Forall₂ Spelled (bounds ++ others) (record ++ rest) :=
  List.rel_append first second

theorem spelled_formatU64_of_lt {value bound : Nat} (small : value < bound)
    (order : bound ≤ 2 ^ 64) : Spelled 20 (formatU64 value) :=
  spelled_formatU64 (small.trans_le order)

/-- A segment line up to the words of its end. -/
theorem Legal.segment_spelled {value : PlanSegment K}
    (legal : (PlanEntry.segment value).Legal numbers) :
    List.Forall₂ Spelled [7, 20, 104, 25, 29, 69, 69, 26]
      (([text "segment", formatU64 value.index] : List Bytes) ++
        ([("profile", encodeToken value.profile.str),
          ("runs", formatU64 value.channelRuns),
          ("distance", formatU64 value.distanceM.toNat),
          ("loss", formatDouble value.lossDb),
          ("osnr", formatDouble value.osnrDb),
          ("spans", formatU64 value.spanCount)].map keyedToken)) := by
  simp only [Legal] at legal
  have profile := legal.profile.spelled
  rw [← legal.profile.encodeToken_str] at profile
  have index := spelled_formatU64_of_lt legal.index (by decide)
  have runs := spelled_formatU64_of_lt legal.channelRuns (by decide)
  have distance := spelled_formatU64 value.distanceM.toNat_lt
  have spans := spelled_formatU64_of_lt legal.spanCount (by decide)
  exact .cons (Spelled.constant (by decide)) <|
    .cons index <|
    .cons (profile.keyed "profile" (by decide)) <|
    .cons (runs.keyed "runs" (by decide)) <|
    .cons (distance.keyed "distance" (by decide)) <|
    .cons ((DoubleText.spelled legal.lossDb).keyed "loss" (by decide)) <|
    .cons ((DoubleText.spelled legal.osnrDb).keyed "osnr" (by decide)) <|
    .cons (spans.keyed "spans" (by decide)) .nil

/-- The line of a used span up to its failure domains. -/
theorem Legal.spanUse_spelled {index : Nat} {value : PlanSpanUse K}
    (legal : (PlanEntry.spanUse index value).Legal numbers) :
    List.Forall₂ Spelled [7, 20, 99, 198, 196, 24, 24, 69, 69, 25, 25]
      (([text "segspan", formatU64 index] : List Bytes) ++
        ([("id", encodeToken value.id.str),
          ("from", encodeToken value.fromPort.canonicalText),
          ("to", encodeToken value.toPort.canonicalText),
          ("rev", formatU64 value.reversed.toNat),
          ("len", formatU64 value.lengthM.toNat),
          ("loss", formatDouble value.lossDb),
          ("osnr", formatDouble value.osnrDb),
          ("cost", formatU64 value.cost.toNat),
          ("slot", formatU64 value.firstSlot)].map keyedToken)) := by
  simp only [Legal] at legal
  obtain ⟨indexLt, legal⟩ := legal
  have id := legal.id.spelled
  rw [← legal.id.encodeToken_str] at id
  have port {key : PortKey} (valid : key.Valid) :
      Spelled 193 (encodeToken key.canonicalText) := by
    obtain ⟨raw, nonempty, bound⟩ := canonicalText_raw valid
    rw [encodeToken_of_raw nonempty raw]
    exact ⟨nonempty, all_isTokenByte_of_raw raw, bound⟩
  have index := spelled_formatU64_of_lt indexLt (by decide)
  have direction : Spelled 20 (formatU64 value.reversed.toNat) :=
    spelled_formatU64_of_lt value.reversed.toNat_lt (by decide)
  have length := spelled_formatU64 value.lengthM.toNat_lt
  have cost := spelled_formatU64 value.cost.toNat_lt
  have slot := spelled_formatU64_of_lt legal.firstSlot (by decide)
  exact .cons (Spelled.constant (by decide)) <|
    .cons index <|
    .cons (id.keyed "id" (by decide)) <|
    .cons ((port legal.fromPort).keyed "from" (by decide)) <|
    .cons ((port legal.toPort).keyed "to" (by decide)) <|
    .cons (direction.keyed "rev" (by decide)) <|
    .cons (length.keyed "len" (by decide)) <|
    .cons ((DoubleText.spelled legal.lossDb).keyed "loss" (by decide)) <|
    .cons ((DoubleText.spelled legal.osnrDb).keyed "osnr" (by decide)) <|
    .cons (cost.keyed "cost" (by decide)) <|
    .cons (slot.keyed "slot" (by decide)) .nil

/-- A legal entry keeps the limits of the tokenizer when its tokens do. -/
theorem Legal.fitsLine {entry : PlanEntry K} (legal : entry.Legal numbers)
    (short : ∀ token ∈ entry.tokens formatDouble,
      token.length ≤ kMaxTokenBytes) : FitsLine (entry.tokens formatDouble) := by
  have plain := legal.plainRecord
  have long : ∀ token ∈ entry.tokens formatDouble, Spelled kMaxTokenBytes token :=
    fun token member => (plain.each token member).spelled (short token member)
  cases entry with
  | segment value =>
      have ended : List.Forall₂ Spelled
          (if value.endedByRegeneration then [16, kMaxTokenBytes] else [15])
          ((segmentEnd value).map keyedToken) := by
        have resource := long (keyedToken
          ("xc", encodeToken value.regenerationResource.toBytes))
        unfold segmentEnd
        split_ifs with regenerated
        · refine .cons (Spelled.constant (by decide)) (.cons (resource ?_) .nil)
          simp [tokens, fields, segmentEnd, regenerated]
        · exact .cons (Spelled.constant (by decide)) .nil
      refine ⟨?_, short⟩
      have all := spelled_append legal.segment_spelled ended
      rw [List.append_assoc, ← List.map_append] at all
      apply joinTokens_length_le all plain.nonempty
      split_ifs <;> decide
  | spanUse index value =>
      have ended : List.Forall₂ Spelled
          (if value.failureDomains.isEmpty then [] else [kMaxTokenBytes])
          ((domainFields value.failureDomains).map keyedToken) := by
        have domains := long (keyedToken
          ("domains", joinCommas (value.failureDomains.map StrongId.str)))
        unfold domainFields
        split_ifs with none_
        · exact .nil
        · refine .cons (domains ?_) .nil
          simp [tokens, fields, domainFields, none_]
      refine ⟨?_, short⟩
      have all := spelled_append legal.spanUse_spelled ended
      rw [List.append_assoc, ← List.map_append] at all
      apply joinTokens_length_le all plain.nonempty
      split_ifs <;> decide
  | _ =>
      exact fitsLine_of_count plain.nonempty
        (by simp [tokens, positional, fields, assumptionFields]) short

/-! ### Reading the entries of a plan -/

theorem Readable.mono {entry : PlanEntry K} {small large : Nat}
    (readable : entry.Readable small) (order : small ≤ large) :
    entry.Readable large := by
  cases entry with
  | spanUse index value => exact ⟨readable.1.trans_le order, readable.2⟩
  | _ => exact readable

theorem segments_length_le_apply (plan : PlanArtifact K) (entry : PlanEntry K) :
    plan.segments.length ≤ (apply plan entry).segments.length := by
  cases entry <;> simp [apply, addSpanUse]

/-- Entries behind the header and in front of the digest. -/
theorem consumes {entries : List (PlanEntry K)} {reader : PlanReader K}
    {count : Nat} (seen : reader.headerSeen = true)
    (open_ : reader.digestSeen = false)
    (segments : count ≤ reader.plan.segments.length)
    (legal : ∀ entry ∈ entries, entry.Legal numbers)
    (readable : ∀ entry ∈ entries, entry.Readable count)
    (fits : ∀ entry ∈ entries, FitsLine (entry.tokens formatDouble))
    (payload : ∀ entry ∈ entries, entry.keyword? ≠ some .digest) :
    Consumes (readPlanRecord numbers) reader
      (entries.map (tokens formatDouble))
      { reader with plan := entries.foldl apply reader.plan } := by
  induction entries generalizing reader with
  | nil => exact Consumes.nil reader
  | cons entry rest ih =>
      have member : entry ∈ entry :: rest := List.mem_cons_self
      have read := readPlanRecord_tokens seen open_ (legal entry member)
        ((readable entry member).mono segments) (fits entry member)
      have undigested : (entry.keyword? == some .digest) = reader.digestSeen := by
        rw [open_]
        simpa using payload entry member
      rw [undigested] at read
      rw [List.map_cons]
      apply Consumes.cons read
      apply @ih { reader with plan := apply reader.plan entry } seen open_
        (segments.trans (segments_length_le_apply reader.plan entry))
      · exact fun other inRest => legal other (List.mem_cons_of_mem entry inRest)
      · exact fun other inRest => readable other (List.mem_cons_of_mem entry inRest)
      · exact fun other inRest => fits other (List.mem_cons_of_mem entry inRest)
      · exact fun other inRest => payload other (List.mem_cons_of_mem entry inRest)

end PlanEntry

end OpticalPathPlanner
