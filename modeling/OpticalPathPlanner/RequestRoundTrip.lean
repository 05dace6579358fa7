import OpticalPathPlanner.RequestCodec

/-!
# Requests are read back from their text

A request is written as a list of entries, and every legal entry is read back
from its tokens.  Reading the entries in order puts the request together
again, so the canonical text of a valid request decides the request.
-/

namespace OpticalPathPlanner

/-! ### The entries of a request -/

/-- One record of a request, with the value it holds. -/
inductive RequestEntry (K : Type)
  | id (value : RequestId)
  | source (key : PortKey)
  | destination (key : PortKey)
  | width (value : Nat)
  | candidates (value : Nat)
  | regenerations (value : Nat)
  | hops (value : Nat)
  | searchExpansions (value : Nat)
  | searchLabels (value : Nat)
  | maxDistance (value : UInt64)
  | maxSpans (value : UInt32)
  | cost (value : UInt64)
  | snapshotGeneration (value : Generation)
  | snapshotDigest (value : Digest256)
  | disjointness (value : Disjointness)
  | srcgen (entry : SourceId × Generation)
  | excludeNode (id : NodeId)
  | excludeSpan (id : SpanId)
  | excludeCrossConnect (id : CrossConnectId)
  | excludeDomain (id : FailureDomainId)
  | excludePort (key : PortKey)
  | domainLimit (entry : FailureDomainId × UInt32)
  | maxLoss (value : K)
  | minOsnr (value : K)
  | acceptRestoredEvidence (value : Bool)
  | allowRegeneration (value : Bool)
  | allowConversion (value : Bool)
  | requireSpectrumContinuity (value : Bool)
  | allowRepeatedResources (value : Bool)

namespace RequestEntry

variable {K : Type}

def keyword : RequestEntry K → RequestKeyword
  | id _ => .id
  | source _ => .source
  | destination _ => .destination
  | width _ => .width
  | candidates _ => .candidates
  | regenerations _ => .regenerations
  | hops _ => .hops
  | searchExpansions _ => .searchExpansions
  | searchLabels _ => .searchLabels
  | maxDistance _ => .maxDistance
  | maxSpans _ => .maxSpans
  | cost _ => .cost
  | snapshotGeneration _ => .snapshotGeneration
  | snapshotDigest _ => .snapshotDigest
  | disjointness _ => .disjointness
  | srcgen _ => .srcgen
  | excludeNode _ => .excludeNode
  | excludeSpan _ => .excludeSpan
  | excludeCrossConnect _ => .excludeCrossConnect
  | excludeDomain _ => .excludeDomain
  | excludePort _ => .excludePort
  | domainLimit _ => .domainLimit
  | maxLoss _ => .maxLoss
  | minOsnr _ => .minOsnr
  | acceptRestoredEvidence _ => .acceptRestoredEvidence
  | allowRegeneration _ => .allowRegeneration
  | allowConversion _ => .allowConversion
  | requireSpectrumContinuity _ => .requireSpectrumContinuity
  | allowRepeatedResources _ => .allowRepeatedResources

/-- The tokens behind the keyword. -/
def arguments (formatDouble : K → Bytes) : RequestEntry K → List Bytes
  | id value => [encodeToken value.str]
  | source key => [encodeToken key.node.str, encodeToken key.port.str]
  | destination key => [encodeToken key.node.str, encodeToken key.port.str]
  | width value => [formatU64 value]
  | candidates value => [formatU64 value]
  | regenerations value => [formatU64 value]
  | hops value => [formatU64 value]
  | searchExpansions value => [formatU64 value]
  | searchLabels value => [formatU64 value]
  | maxDistance value => [formatU64 value.toNat]
  | maxSpans value => [formatU64 value.toNat]
  | cost value => [formatU64 value.toNat]
  | snapshotGeneration value => [formatU64 value.toNat]
  | snapshotDigest value => [encodeToken value.toHex]
  | disjointness value => [encodeToken value.name]
  | srcgen entry => [encodeToken entry.1.str, formatU64 entry.2.toNat]
  | excludeNode value => [encodeToken value.str]
  | excludeSpan value => [encodeToken value.str]
  | excludeCrossConnect value => [encodeToken value.str]
  | excludeDomain value => [encodeToken value.str]
  | excludePort key => [encodeToken key.node.str, encodeToken key.port.str]
  | domainLimit entry => [encodeToken entry.1.str, formatU64 entry.2.toNat]
  | maxLoss value => [formatDouble value]
  | minOsnr value => [formatDouble value]
  | acceptRestoredEvidence value => [encodeToken (booleanName value)]
  | allowRegeneration value => [encodeToken (booleanName value)]
  | allowConversion value => [encodeToken (booleanName value)]
  | requireSpectrumContinuity value => [encodeToken (booleanName value)]
  | allowRepeatedResources value => [encodeToken (booleanName value)]

def tokens (formatDouble : K → Bytes) (entry : RequestEntry K) : List Bytes :=
  entry.keyword.name :: entry.arguments formatDouble

/-- What the entry does to a request. -/
def apply (request : PlanningRequest K) : RequestEntry K → PlanningRequest K
  | id value => { request with id := value }
  | source key => { request with source := key }
  | destination key => { request with destination := key }
  | width value => { request with channelWidthSlots := value }
  | candidates value => { request with maxCandidates := value }
  | regenerations value => { request with maxRegenerations := value }
  | hops value => { request with maxHops := value }
  | searchExpansions value => { request with maxSearchExpansions := value }
  | searchLabels value => { request with maxSearchLabels := value }
  | maxDistance value => { request with
      constraints := { request.constraints with
        maxTotalDistanceM := some value } }
  | maxSpans value => { request with
      constraints := { request.constraints with
        maxTotalSpanCount := some value } }
  | cost value => { request with maxTotalCost := some value }
  | snapshotGeneration value =>
      { request with requiredSnapshotGeneration := some value }
  | snapshotDigest value =>
      { request with expectedSnapshotDigest := some value }
  | disjointness value => { request with disjointness := value }
  | srcgen entry => { request with
      requiredSourceGenerations :=
        assignEntry entry.1 entry.2 request.requiredSourceGenerations }
  | excludeNode value => { request with
      constraints := { request.constraints with
        excludedNodes := request.constraints.excludedNodes ++ [value] } }
  | excludeSpan value => { request with
      constraints := { request.constraints with
        excludedSpans := request.constraints.excludedSpans ++ [value] } }
  | excludeCrossConnect value => { request with
      constraints := { request.constraints with
        excludedCrossConnects :=
          request.constraints.excludedCrossConnects ++ [value] } }
  | excludeDomain value => { request with
      constraints := { request.constraints with
        excludedFailureDomains :=
          request.constraints.excludedFailureDomains ++ [value] } }
  | excludePort key => { request with
      constraints := { request.constraints with
        excludedPorts := request.constraints.excludedPorts ++ [key] } }
  | domainLimit entry => { request with
      constraints := { request.constraints with
        maxMembersPerFailureDomain := assignEntry entry.1 entry.2
          request.constraints.maxMembersPerFailureDomain } }
  | maxLoss value => { request with
      constraints := { request.constraints with maxTotalLossDb := some value } }
  | minOsnr value => { request with
      constraints := { request.constraints with
        minSegmentOsnrDb := some value } }
  | acceptRestoredEvidence value =>
      { request with acceptRestoredEvidence := value }
  | allowRegeneration value => { request with
      constraints := { request.constraints with allowRegeneration := value } }
  | allowConversion value => { request with
      constraints := { request.constraints with
        allowWavelengthConversion := value } }
  | requireSpectrumContinuity value => { request with
      constraints := { request.constraints with
        requireSpectrumContinuityAcrossRegeneration := value } }
  | allowRepeatedResources value => { request with
      constraints := { request.constraints with
        allowRepeatedResources := value } }

/-- The values the types of the source and the parser of identifiers admit. -/
def Legal {formatDouble : K → Bytes} (numbers : DoubleText formatDouble) :
    RequestEntry K → Prop
  | id value => value.Valid
  | source key => key.Valid
  | destination key => key.Valid
  | width value => value < 2 ^ 16
  | candidates value => value < 2 ^ 32
  | regenerations value => value < 2 ^ 32
  | hops value => value < 2 ^ 32
  | searchExpansions value => value < 2 ^ 64
  | searchLabels value => value < 2 ^ 64
  | srcgen entry => entry.1.Valid
  | excludeNode value => value.Valid
  | excludeSpan value => value.Valid
  | excludeCrossConnect value => value.Valid
  | excludeDomain value => value.Valid
  | excludePort key => key.Valid
  | domainLimit entry => entry.1.Valid
  | maxLoss value => numbers.IsDouble value
  | minOsnr value => numbers.IsDouble value
  | _ => True

variable {formatDouble : K → Bytes} {numbers : DoubleText formatDouble}

theorem readPortKey_eq {key : PortKey} (valid : key.Valid) (name : Bytes) :
    readPortKey [name, encodeToken key.node.str, encodeToken key.port.str] =
      .ok key := by
  simp [readPortKey, requestField, valid.1.encodeToken_str,
    valid.2.encodeToken_str, StrongId.parse_str valid.1, StrongId.parse_str valid.2]

/-- A legal entry is read back from its tokens. -/
theorem readRequestField_tokens {entry : RequestEntry K}
    (legal : entry.Legal numbers) (request : PlanningRequest K) :
    readRequestField numbers request entry.keyword (entry.tokens formatDouble) =
      .ok (apply request entry) := by
  have second : ∀ (name value : Bytes) (rest : List Bytes) (what : Bytes),
      requestField (name :: value :: rest) 1 what = .ok value := by
    intros
    rfl
  have third : ∀ (name value other : Bytes) (rest : List Bytes) (what : Bytes),
      requestField (name :: value :: other :: rest) 2 what = .ok other := by
    intros
    rfl
  cases entry with
  | id value | excludeNode value | excludeSpan value | excludeCrossConnect value
  | excludeDomain value =>
      simp only [Legal] at legal
      simp [readRequestField, keyword, tokens, arguments, second,
        legal.encodeToken_str, StrongId.parse_str legal, apply]
  | source key | destination key | excludePort key =>
      simp only [Legal] at legal
      simp [readRequestField, keyword, tokens, arguments, readPortKey_eq legal,
        apply]
  | width value =>
      simp only [Legal] at legal
      simp [readRequestField, keyword, tokens, arguments, second,
        parseU16_formatU64_nat legal, apply]
      omega
  | candidates value | regenerations value | hops value =>
      simp only [Legal] at legal
      simp [readRequestField, keyword, tokens, arguments, second,
        parseU32_formatU64_nat legal, apply]
      omega
  | searchExpansions value | searchLabels value =>
      simp only [Legal] at legal
      simp [readRequestField, keyword, tokens, arguments, second,
        parseU64_formatU64_nat legal, apply]
      omega
  | srcgen value | domainLimit value =>
      simp only [Legal] at legal
      simp [readRequestField, keyword, tokens, arguments, second, third,
        legal.encodeToken_str, StrongId.parse_str legal, apply]
  | maxLoss value | minOsnr value =>
      simp only [Legal] at legal
      simp [readRequestField, keyword, tokens, arguments, second,
        DoubleText.parseDouble_formatDouble legal, apply]
  | _ =>
      simp [readRequestField, keyword, tokens, arguments, second, apply]

/-- The record names are short. -/
theorem spelled_name (keyword : RequestKeyword) : Spelled 47 keyword.name := by
  cases keyword <;> exact Spelled.constant (by decide)

/-- A legal entry is a line that is split back into its tokens. -/
theorem Legal.clean {entry : RequestEntry K} (legal : entry.Legal numbers) :
    CleanRecord (entry.tokens formatDouble) := by
  have one : ∀ {bound : Nat} {value : Bytes}, Spelled bound value →
      bound ≤ kMaxIdLength → CleanRecord [entry.keyword.name, value] := by
    intro bound value spelled order
    exact CleanRecord.of_spelled (.cons (spelled_name entry.keyword)
      (.cons (spelled.mono order) .nil)) (by decide)
  have two : ∀ {bound : Nat} {value other : Bytes}, Spelled kMaxIdLength value →
      Spelled bound other → bound ≤ kMaxIdLength →
      CleanRecord [entry.keyword.name, value, other] := by
    intro bound value other spelled spelledOther order
    exact CleanRecord.of_spelled (.cons (spelled_name entry.keyword)
      (.cons spelled (.cons (spelledOther.mono order) .nil))) (by decide)
  have number : ∀ {value bound : Nat}, value < bound → bound ≤ 2 ^ 64 →
      CleanRecord [entry.keyword.name, formatU64 value] := by
    intro value bound small order
    exact one (spelled_formatU64 (by omega)) (by decide)
  cases entry with
  | id value | excludeNode value | excludeSpan value | excludeCrossConnect value
  | excludeDomain value =>
      simp only [Legal] at legal
      simp only [tokens, arguments, legal.encodeToken_str]
      exact one legal.spelled (le_refl _)
  | source key | destination key | excludePort key =>
      simp only [Legal] at legal
      simp only [tokens, arguments, legal.1.encodeToken_str,
        legal.2.encodeToken_str]
      exact two legal.1.spelled legal.2.spelled (le_refl _)
  | width value | candidates value | regenerations value | hops value
  | searchExpansions value | searchLabels value =>
      simp only [Legal] at legal
      exact number legal (by decide)
  | maxDistance value | maxSpans value | cost value | snapshotGeneration value =>
      exact number value.toNat_lt (by decide)
  | snapshotDigest value =>
      simp only [tokens, arguments, Digest256.encodeToken_toHex]
      exact one value.spelled (by decide)
  | srcgen value | domainLimit value =>
      simp only [Legal] at legal
      have small := value.2.toNat_lt
      simp only [tokens, arguments, legal.encodeToken_str]
      exact two legal.spelled (spelled_formatU64 (by omega)) (by decide)
  | maxLoss value | minOsnr value =>
      simp only [Legal] at legal
      exact one (DoubleText.spelled legal) (by decide)
  | disjointness value =>
      have spelled : Spelled 6 (encodeToken value.name) := by
        cases value <;> exact Spelled.constant (by decide)
      exact one spelled (by decide)
  | acceptRestoredEvidence value | allowRegeneration value
  | allowConversion value | requireSpectrumContinuity value
  | allowRepeatedResources value =>
      have spelled : Spelled 5 (encodeToken (booleanName value)) := by
        cases value <;> exact Spelled.constant (by decide)
      exact one spelled (by decide)

/-- What reading a list of entries does to a reader behind its header. -/
theorem consumes {entries : List (RequestEntry K)}
    (legal : ∀ entry ∈ entries, entry.Legal numbers) {reader : RequestReader K}
    (seen : reader.headerSeen = true) :
    Consumes (readRequestRecord numbers) reader
      (entries.map (tokens formatDouble))
      { reader with
        request := entries.foldl apply reader.request
        haveId := reader.haveId || entries.any fun entry => entry.keyword == .id
        haveSource := reader.haveSource ||
          entries.any fun entry => entry.keyword == .source
        haveDestination := reader.haveDestination ||
          entries.any fun entry => entry.keyword == .destination } := by
  induction entries generalizing reader with
  | nil => simpa using Consumes.nil reader
  | cons entry rest ih =>
      have read : ∀ number, readRequestRecord numbers reader number
          (entry.tokens formatDouble) = .ok { reader with
            request := apply reader.request entry
            haveId := reader.haveId || entry.keyword == .id
            haveSource := reader.haveSource || entry.keyword == .source
            haveDestination :=
              reader.haveDestination || entry.keyword == .destination } := by
        intro number
        have first : (entry.tokens formatDouble)[0]?.getD [] =
            entry.keyword.name := rfl
        simp [readRequestRecord, seen, first, RequestKeyword.parse_name,
          readRequestField_tokens (legal entry List.mem_cons_self)]
      have readRest := fun (next : RequestReader K) (seen : next.headerSeen) =>
        @ih (fun other member =>
          legal other (List.mem_cons_of_mem entry member)) next seen
      rw [List.map_cons]
      apply Consumes.cons read
      simpa [Bool.or_assoc] using readRest { reader with
        request := apply reader.request entry
        haveId := reader.haveId || entry.keyword == .id
        haveSource := reader.haveSource || entry.keyword == .source
        haveDestination :=
          reader.haveDestination || entry.keyword == .destination } seen

end RequestEntry

/-! ### The text of a request -/

section RoundTrip

open LineAssembler

variable {K : Type} (formatDouble : K → Bytes)

/-- The entries a request is written as. -/
def PlanningRequest.entries (request : PlanningRequest K) :
    List (RequestEntry K) :=
  let constraints := request.constraints
  List.flatten [
    [.id request.id, .source request.source, .destination request.destination,
      .width request.channelWidthSlots, .candidates request.maxCandidates,
      .regenerations request.maxRegenerations, .hops request.maxHops],
    request.maxTotalCost.toList.map .cost,
    [.disjointness request.disjointness,
      .acceptRestoredEvidence request.acceptRestoredEvidence,
      .searchExpansions request.maxSearchExpansions,
      .searchLabels request.maxSearchLabels],
    request.requiredSourceGenerations.map .srcgen,
    request.requiredSnapshotGeneration.toList.map .snapshotGeneration,
    request.expectedSnapshotDigest.toList.map .snapshotDigest,
    constraints.excludedNodes.map .excludeNode,
    constraints.excludedPorts.map .excludePort,
    constraints.excludedSpans.map .excludeSpan,
    constraints.excludedCrossConnects.map .excludeCrossConnect,
    constraints.excludedFailureDomains.map .excludeDomain,
    constraints.maxMembersPerFailureDomain.map .domainLimit,
    constraints.maxTotalDistanceM.toList.map .maxDistance,
    constraints.maxTotalSpanCount.toList.map .maxSpans,
    constraints.maxTotalLossDb.toList.map .maxLoss,
    constraints.minSegmentOsnrDb.toList.map .minOsnr,
    [.allowRegeneration constraints.allowRegeneration,
      .allowConversion constraints.allowWavelengthConversion,
      .requireSpectrumContinuity
        constraints.requireSpectrumContinuityAcrossRegeneration,
      .allowRepeatedResources constraints.allowRepeatedResources]]

theorem requestToText_eq (request : PlanningRequest K) :
    requestToText formatDouble request =
      ([text "OPP-REQUEST", text "1"] ::
        request.entries.map (RequestEntry.tokens formatDouble)).flatMap
          writeRecord := by
  have header : text "OPP-REQUEST 1\n" =
      writeRecord [text "OPP-REQUEST", text "1"] := by decide
  unfold requestToText PlanningRequest.entries
  rw [header]
  simp only [ofRecord_eq, add_joinTokens, addU64_joinTokens, append_joinTokens,
    emit_joinTokens, ne_eq, String.reduceEq, not_false_eq_true, List.nil_append,
    List.cons_append]
  simp only [List.flatten_cons, List.flatten_nil, List.flatMap_append,
    List.map_append, List.flatMap_map,
    List.flatMap_cons, List.flatMap_nil, List.map_map, List.map_cons, List.map_nil,
    Function.comp_def, RequestEntry.tokens, RequestEntry.keyword,
    RequestEntry.arguments, RequestKeyword.name, List.append_nil,
    List.append_assoc]

/-! ### Entries put the request together again -/

/-- Assigning keys in ascending order appends them. -/
theorem foldl_assignEntry {α β : Type} [LinearOrder α] {entries : List (α × β)}
    (sorted : (entries.map Prod.fst).Pairwise (· < ·)) :
    entries.foldl (fun map entry => assignEntry entry.1 entry.2 map) [] =
      entries := by
  have last : ∀ (before : List (α × β)) (key : α) (value : β),
      (∀ entry ∈ before, entry.1 < key) →
        assignEntry key value before = before ++ [(key, value)] := by
    intro before key value below
    induction before with
    | nil => rfl
    | cons entry rest ih =>
        have first := below entry List.mem_cons_self
        rw [assignEntry, if_neg first.not_gt, if_neg first.ne',
          ih fun other member => below other (List.mem_cons_of_mem entry member)]
        rfl
  have general : ∀ (before : List (α × β)),
      ((before ++ entries).map Prod.fst).Pairwise (· < ·) →
        entries.foldl (fun map entry => assignEntry entry.1 entry.2 map) before =
          before ++ entries := by
    clear sorted
    induction entries with
    | nil => simp
    | cons entry rest ih =>
        intro before sorted
        have below : ∀ other ∈ before, other.1 < entry.1 := by
          rw [List.map_append, List.pairwise_append] at sorted
          intro other member
          exact sorted.2.2 other.1 (List.mem_map_of_mem member) entry.1
            (by simp)
        rw [List.foldl_cons, last before entry.1 entry.2 below,
          ih (before ++ [entry]) (by simpa using sorted)]
        simp
  simpa using general [] (by simpa using sorted)

namespace RequestEntry

variable {K : Type}

theorem foldl_excludeNode (values : List NodeId)
    (request : PlanningRequest K) :
    (values.map excludeNode).foldl apply request = { request with
      constraints := { request.constraints with
        excludedNodes := request.constraints.excludedNodes ++ values } } := by
  induction values generalizing request with
  | nil => simp
  | cons value rest ih => simp [apply, ih]

theorem foldl_excludePort (values : List PortKey)
    (request : PlanningRequest K) :
    (values.map excludePort).foldl apply request = { request with
      constraints := { request.constraints with
        excludedPorts := request.constraints.excludedPorts ++ values } } := by
  induction values generalizing request with
  | nil => simp
  | cons value rest ih => simp [apply, ih]

theorem foldl_excludeSpan (values : List SpanId)
    (request : PlanningRequest K) :
    (values.map excludeSpan).foldl apply request = { request with
      constraints := { request.constraints with
        excludedSpans := request.constraints.excludedSpans ++ values } } := by
  induction values generalizing request with
  | nil => simp
  | cons value rest ih => simp [apply, ih]

theorem foldl_excludeCrossConnect (values : List CrossConnectId)
    (request : PlanningRequest K) :
    (values.map excludeCrossConnect).foldl apply request = { request with
      constraints := { request.constraints with
        excludedCrossConnects := request.constraints.excludedCrossConnects ++ values } } := by
  induction values generalizing request with
  | nil => simp
  | cons value rest ih => simp [apply, ih]

theorem foldl_excludeDomain (values : List FailureDomainId)
    (request : PlanningRequest K) :
    (values.map excludeDomain).foldl apply request = { request with
      constraints := { request.constraints with
        excludedFailureDomains := request.constraints.excludedFailureDomains ++ values } } := by
  induction values generalizing request with
  | nil => simp
  | cons value rest ih => simp [apply, ih]

theorem foldl_srcgen (entries : List (SourceId × Generation))
    (request : PlanningRequest K) :
    (entries.map srcgen).foldl apply request = { request with
      requiredSourceGenerations := entries.foldl
        (fun map entry => assignEntry entry.1 entry.2 map)
        request.requiredSourceGenerations } := by
  induction entries generalizing request with
  | nil => rfl
  | cons entry rest ih => simp [apply, ih]

theorem foldl_domainLimit (entries : List (FailureDomainId × UInt32))
    (request : PlanningRequest K) :
    (entries.map domainLimit).foldl apply request = { request with
      constraints := { request.constraints with
        maxMembersPerFailureDomain := entries.foldl
          (fun map entry => assignEntry entry.1 entry.2 map)
          request.constraints.maxMembersPerFailureDomain } } := by
  induction entries generalizing request with
  | nil => rfl
  | cons entry rest ih => simp [apply, ih]

theorem foldl_cost (value : Option UInt64)
    (request : PlanningRequest K) :
    (value.toList.map cost).foldl apply request =
      { request with maxTotalCost := value.or request.maxTotalCost } := by
  cases value <;> rfl

theorem foldl_snapshotGeneration (value : Option Generation)
    (request : PlanningRequest K) :
    (value.toList.map snapshotGeneration).foldl apply request =
      { request with requiredSnapshotGeneration := value.or request.requiredSnapshotGeneration } := by
  cases value <;> rfl

theorem foldl_snapshotDigest (value : Option Digest256)
    (request : PlanningRequest K) :
    (value.toList.map snapshotDigest).foldl apply request =
      { request with expectedSnapshotDigest := value.or request.expectedSnapshotDigest } := by
  cases value <;> rfl

theorem foldl_maxDistance (value : Option UInt64) (request : PlanningRequest K) :
    (value.toList.map maxDistance).foldl apply request = { request with
      constraints := { request.constraints with
        maxTotalDistanceM := value.or request.constraints.maxTotalDistanceM } } := by
  cases value <;> rfl

theorem foldl_maxSpans (value : Option UInt32) (request : PlanningRequest K) :
    (value.toList.map maxSpans).foldl apply request = { request with
      constraints := { request.constraints with
        maxTotalSpanCount := value.or request.constraints.maxTotalSpanCount } } := by
  cases value <;> rfl

theorem foldl_maxLoss (value : Option K) (request : PlanningRequest K) :
    (value.toList.map maxLoss).foldl apply request = { request with
      constraints := { request.constraints with
        maxTotalLossDb := value.or request.constraints.maxTotalLossDb } } := by
  cases value <;> rfl

theorem foldl_minOsnr (value : Option K) (request : PlanningRequest K) :
    (value.toList.map minOsnr).foldl apply request = { request with
      constraints := { request.constraints with
        minSegmentOsnrDb := value.or request.constraints.minSegmentOsnrDb } } := by
  cases value <;> rfl

end RequestEntry

/-- What the types of the source promise of a request, and identifiers the
parser of identifiers accepts. -/
structure PlanningRequest.WellFormed {formatDouble : K → Bytes}
    (numbers : DoubleText formatDouble) (request : PlanningRequest K) : Prop where
  id : request.id.Valid
  source : request.source.Valid
  destination : request.destination.Valid
  excludedNodes : ∀ node ∈ request.constraints.excludedNodes, node.Valid
  excludedPorts : ∀ key ∈ request.constraints.excludedPorts, key.Valid
  excludedSpans : ∀ span ∈ request.constraints.excludedSpans, span.Valid
  excludedCrossConnects :
    ∀ target ∈ request.constraints.excludedCrossConnects, target.Valid
  excludedFailureDomains :
    ∀ domain ∈ request.constraints.excludedFailureDomains, domain.Valid
  memberLimits :
    ∀ entry ∈ request.constraints.maxMembersPerFailureDomain, entry.1.Valid
  sourceGenerations :
    ∀ entry ∈ request.requiredSourceGenerations, entry.1.Valid
  /-- The maps hold their entries in key order, one for each key. -/
  memberLimits_sorted : (request.constraints.maxMembersPerFailureDomain.map
    Prod.fst).Pairwise (· < ·)
  sourceGenerations_sorted :
    (request.requiredSourceGenerations.map Prod.fst).Pairwise (· < ·)
  maxTotalLossDb :
    ∀ loss ∈ request.constraints.maxTotalLossDb, numbers.IsDouble loss
  minSegmentOsnrDb :
    ∀ osnr ∈ request.constraints.minSegmentOsnrDb, numbers.IsDouble osnr

/-- Reading the entries of a request in order gives the request. -/
theorem PlanningRequest.foldl_entries {formatDouble : K → Bytes}
    {numbers : DoubleText formatDouble} {request : PlanningRequest K}
    (wellFormed : request.WellFormed numbers)
    (version : request.formatVersion = kRequestFormatVersion) :
    request.entries.foldl RequestEntry.apply RequestReader.initial.request =
      request := by
  have generations := foldl_assignEntry wellFormed.sourceGenerations_sorted
  have limits := foldl_assignEntry wellFormed.memberLimits_sorted
  unfold PlanningRequest.entries
  simp only [List.foldl_flatten, List.foldl_cons, List.foldl_nil,
    RequestEntry.foldl_excludeNode, RequestEntry.foldl_excludePort,
    RequestEntry.foldl_excludeSpan, RequestEntry.foldl_excludeCrossConnect,
    RequestEntry.foldl_excludeDomain, RequestEntry.foldl_srcgen,
    RequestEntry.foldl_domainLimit, RequestEntry.foldl_cost,
    RequestEntry.foldl_snapshotGeneration, RequestEntry.foldl_snapshotDigest,
    RequestEntry.foldl_maxDistance, RequestEntry.foldl_maxSpans,
    RequestEntry.foldl_maxLoss, RequestEntry.foldl_minOsnr, RequestEntry.apply,
    RequestReader.initial, generations, limits, Option.or_none, List.nil_append,
    ← version]

theorem PlanningRequest.WellFormed.entries_legal {formatDouble : K → Bytes}
    {numbers : DoubleText formatDouble} {request : PlanningRequest K}
    [Field K] [LinearOrder K] (wellFormed : request.WellFormed numbers)
    (valid : request.IsValid) :
    ∀ entry ∈ request.entries, entry.Legal numbers := by
  have width := valid.width_le
  have candidates := valid.candidates_le
  have regenerations := valid.regenerations_le
  have hops := valid.hops_le
  have expansions := valid.expansions
  have labels := valid.labels
  simp only [kMaxSpectrumSlots, kMaxCandidates, kMaxRequestedRegenerations,
    kMaxRequestedHops, kMaxSearchExpansionsCeiling, kMaxSearchLabelsCeiling]
    at width candidates regenerations hops expansions labels
  simp only [PlanningRequest.entries, List.flatten_cons, List.flatten_nil,
    List.append_nil, List.forall_mem_append, List.forall_mem_cons,
    List.forall_mem_map, List.not_mem_nil, false_implies, implies_true,
    RequestEntry.Legal, Option.mem_toList, and_true, true_and]
  exact ⟨⟨wellFormed.id, wellFormed.source, wellFormed.destination, by omega,
      by omega, by omega, by omega⟩, ⟨by omega, by omega⟩,
    wellFormed.sourceGenerations, wellFormed.excludedNodes,
    wellFormed.excludedPorts, wellFormed.excludedSpans,
    wellFormed.excludedCrossConnects, wellFormed.excludedFailureDomains,
    wellFormed.memberLimits, wellFormed.maxTotalLossDb,
    wellFormed.minSegmentOsnrDb⟩

/-- The canonical text of a valid request is read back as that request. -/
theorem parseRequestText_requestToText {formatDouble : K → Bytes}
    {numbers : DoubleText formatDouble} [Field K] [LinearOrder K]
    {request : PlanningRequest K} (wellFormed : request.WellFormed numbers)
    (valid : request.IsValid) :
    parseRequestText numbers (requestToText formatDouble request) =
      .ok request := by
  have legal := wellFormed.entries_legal valid
  have header : ∀ number, readRequestRecord numbers .initial number
      [text "OPP-REQUEST", text "1"] =
        .ok { RequestReader.initial with headerSeen := true } := by
    intro number
    rfl
  have clean : ∀ record ∈ [text "OPP-REQUEST", text "1"] ::
      request.entries.map (RequestEntry.tokens formatDouble),
      CleanRecord record := by
    intro record member
    rcases List.mem_cons.mp member with rfl | inEntries
    · exact CleanRecord.of_spelled
        (.cons (Spelled.constant (by decide) : Spelled 11 _)
          (.cons (Spelled.constant (by decide) : Spelled 1 _) .nil)) (by decide)
    · obtain ⟨entry, isEntry, rfl⟩ := List.mem_map.mp inEntries
      exact (legal entry isEntry).clean
  have read := readRecords_of_consumes clean
    (Consumes.cons header (RequestEntry.consumes legal rfl))
  have ends : (request.entries.any fun entry => entry.keyword == .id) = true ∧
      (request.entries.any fun entry => entry.keyword == .source) = true ∧
      (request.entries.any fun entry => entry.keyword == .destination) = true :=
    ⟨rfl, rfl, rfl⟩
  rw [parseRequestText, requestToText_eq, read]
  simp only [ok_bind, ends.1, ends.2.1, ends.2.2, Bool.or_true]
  rw [PlanningRequest.foldl_entries wellFormed valid.formatVersion]
  rfl

end RoundTrip

section Digests

variable {K : Type} [Field K] [LinearOrder K]

/-- The bytes the request digest is computed over. -/
def Runtime.requestDigestBytes (runtime : Runtime K)
    (request : PlanningRequest K) : Bytes :=
  text "OPP-REQUEST-v1\n" ++ requestToText runtime.formatDouble request

/-- Decoding undoes encoding on valid requests, so two different requests
never share the bytes behind their digests. -/
theorem request_codec_faithful (runtime : Runtime K)
    (numbers : DoubleText runtime.formatDouble) (request : PlanningRequest K)
    (wellFormed : request.WellFormed numbers)
    (valid : request.validate.failed = false) :
    parseRequestText numbers (requestToText runtime.formatDouble request) =
        .ok request ∧
      runtime.computeRequestDigest request =
        runtime.sha256 (runtime.requestDigestBytes request) ∧
      ∀ other : PlanningRequest K, other.WellFormed numbers →
        other.validate.failed = false → other ≠ request →
          requestToText runtime.formatDouble other ≠
              requestToText runtime.formatDouble request ∧
            runtime.requestDigestBytes other ≠
              runtime.requestDigestBytes request := by
  have read := parseRequestText_requestToText wellFormed
    (PlanningRequest.validate_failed_iff.mp valid)
  refine ⟨read, rfl, ?_⟩
  intro other otherWellFormed otherValid different
  have readOther := parseRequestText_requestToText otherWellFormed
    (PlanningRequest.validate_failed_iff.mp otherValid)
  have texts : requestToText runtime.formatDouble other ≠
      requestToText runtime.formatDouble request := by
    intro same
    rw [same, read, Except.ok.injEq] at readOther
    exact different readOther.symm
  refine ⟨texts, ?_⟩
  intro same
  exact texts (List.append_cancel_left same)

end Digests

/-- A request that excludes two nodes and bounds the loss. -/
def guardedRequest : PlanningRequest ℚ where
  id := ⟨text "r"⟩
  source := .of "a" "1"
  destination := .of "b" "1"
  requiredSourceGenerations := [(⟨text "nms"⟩, 3)]
  constraints := {
    excludedNodes := [⟨text "d"⟩, ⟨text "c"⟩]
    maxMembersPerFailureDomain := [(⟨text "duct"⟩, 2)]
    maxTotalLossDb := some 20 }

theorem request_codec_faithful_guardedRequest :
    parseRequestText wholeNumbers
        (requestToText rationalRuntime.formatDouble guardedRequest) =
      .ok guardedRequest := by
  have double : wholeNumbers.IsDouble 20 := ⟨20, by decide, by norm_num⟩
  have wellFormed : guardedRequest.WellFormed wholeNumbers := {
    id := by decide
    source := by decide
    destination := by decide
    excludedNodes := by decide
    excludedPorts := by decide
    excludedSpans := by decide
    excludedCrossConnects := by decide
    excludedFailureDomains := by decide
    memberLimits := by decide
    sourceGenerations := by decide
    memberLimits_sorted := by decide
    sourceGenerations_sorted := by decide
    maxTotalLossDb := by
      rintro loss ⟨⟩
      exact double
    minSegmentOsnrDb := by
      rintro osnr ⟨⟩ }
  exact (request_codec_faithful rationalRuntime wholeNumbers guardedRequest
    wellFormed (by decide +kernel)).1

end OpticalPathPlanner
