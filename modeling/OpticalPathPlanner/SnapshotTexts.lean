import OpticalPathPlanner.RereadSnapshots

/-!
# What the text of a snapshot determines

An identifier is empty until it is set and valid from then on, so its bytes
stand in a token as they are.  The text of a snapshot then determines its
identity, its spectrum and every record up to the two fields that are read
back differently: the description of a source, which is not written, and a
transmit profile named like a state of knowledge.
-/

namespace OpticalPathPlanner

variable {K : Type}

/-- The text of an identifier that was never set, or that was validated. -/
def TrustedText (bytes : Bytes) : Prop :=
  bytes = [] ∨ isValidIdText bytes = true

instance (bytes : Bytes) : Decidable (TrustedText bytes) :=
  inferInstanceAs (Decidable (_ ∨ _))

namespace TrustedText

variable {bytes : Bytes} (trusted : TrustedText bytes)

include trusted

theorem all_isIdByte : bytes.all isIdByte = true := by
  rcases trusted with rfl | valid
  · rfl
  · have isValid : (⟨bytes⟩ : NodeId).Valid := valid
    exact isValid.all_isIdByte

theorem all_isTokenByte : bytes.all isTokenByte = true := by
  have legal := List.all_eq_true.mp trusted.all_isIdByte
  rw [List.all_eq_true]
  intro byte member
  exact isTokenByte_of_isRawTokenCharacter
    (isRawTokenCharacter_of_isIdByte (legal byte member))

theorem ne_comma : ∀ byte ∈ bytes, byte ≠ 44 := by
  rintro _ member rfl
  exact absurd (List.all_eq_true.mp trusted.all_isIdByte 44 member) (by decide)

theorem ne_dash : bytes ≠ text "-" := by
  rcases trusted with rfl | valid
  · decide
  · have isValid : (⟨bytes⟩ : NodeId).Valid := valid
    exact isValid.ne_dash

end TrustedText

/-! ### Spellings that determine what they spell -/

theorem eq_of_read {α ε : Type} {read : Bytes → Except ε α} {first second : α}
    {token other : Bytes} (isFirst : read token = .ok first)
    (isSecond : read other = .ok second) (same : token = other) :
    first = second := by
  rw [same, isSecond] at isFirst
  exact (Except.ok.inj isFirst).symm

theorem injective_of_parse {α : Type} {name : α → Bytes}
    {parse : Bytes → Option α} (reads : ∀ value, parse (name value) = some value) :
    Function.Injective name := by
  intro first second same
  have isFirst := reads first
  rw [same, reads second] at isFirst
  exact (Option.some.inj isFirst).symm

theorem encodeToken_injective : Function.Injective encodeToken := by
  intro first second same
  have notLone (raw : Bytes) : raw.flatMap escapeByte ≠ [37] := by
    intro lone
    have read := decodeEscapes_flatMap raw
    rw [lone] at read
    cases read
  rw [encodeToken_eq, encodeToken_eq] at same
  split_ifs at same with firstEmpty secondEmpty secondEmpty
  · rw [firstEmpty, secondEmpty]
  · exact (notLone second same.symm).elim
  · exact (notLone first same).elim
  · exact eq_of_read (decodeEscapes_flatMap first) (decodeEscapes_flatMap second)
      same

theorem formatU64_injective : Function.Injective formatU64 := by
  intro first second same
  rw [← decimalValue_formatU64 first, same, decimalValue_formatU64]

theorem keyedToken_inj {key : String} {first second : Bytes} :
    keyedToken (key, first) = keyedToken (key, second) ↔ first = second := by
  rw [keyedToken, keyedToken, List.append_right_inj]

theorem Coverage.name_injective : Function.Injective Coverage.name := by
  intro first second same
  cases first <;> cases second <;> first | rfl | exact absurd same (by decide)

theorem directionName_injective : Function.Injective directionName := by
  intro first second same
  cases first <;> cases second <;> first | rfl | exact absurd same (by decide)

/-- The transmit profile that a token stands for. -/
def spelledProfile (token : Bytes) : Evidence (Option ProfileId) :=
  if token = text "-" then .known none else rereadProfile (.known (some ⟨token⟩))

theorem spelledProfile_spellEvidence {evidence : Evidence (Option ProfileId)}
    (trusted : ∀ idText ∈ profileTexts evidence, TrustedText idText) :
    spelledProfile (spellEvidence spellProfile evidence) =
      rereadProfile evidence := by
  cases evidence with
  | unknown => decide
  | conflicting => decide
  | known profile =>
      cases profile with
      | none => rfl
      | some id =>
          have named : id.str ≠ text "-" :=
            (trusted id.str List.mem_cons_self).ne_dash
          rw [spellEvidence, spellProfile, spelledProfile, if_neg named]

/-- Domains without a comma in them are told apart by the commas between them. -/
theorem eq_of_domainFields {first second : List FailureDomainId}
    (firstTrusted : ∀ domain ∈ first, TrustedText domain.str)
    (secondTrusted : ∀ domain ∈ second, TrustedText domain.str)
    (same : (PlanEntry.domainFields first).map keyedToken =
      (PlanEntry.domainFields second).map keyedToken) : first = second := by
  have pieces (domains : List FailureDomainId) (some_ : domains ≠ [])
      (trusted : ∀ domain ∈ domains, TrustedText domain.str) :
      (joinCommas (domains.map StrongId.str)).splitOn 44 =
        domains.map StrongId.str := by
    refine splitOn_joinCommas_of_ne ?_ (by simpa using some_)
    rw [List.forall_mem_map]
    exact fun domain member => (trusted domain member).ne_comma
  unfold PlanEntry.domainFields at same
  simp only [List.isEmpty_iff] at same
  split_ifs at same with firstEmpty secondEmpty secondEmpty
  · rw [firstEmpty, secondEmpty]
  · cases same
  · cases same
  · rw [List.map_singleton, List.map_singleton, List.cons.injEq,
      keyedToken_inj] at same
    have joined := congrArg (List.splitOn 44) same.1
    rw [pieces first firstEmpty firstTrusted,
      pieces second secondEmpty secondTrusted] at joined
    exact List.map_injective_iff.mpr StrongId.str_injective joined

/-! ### Records -/

namespace Submission

variable {formatDouble : K → Bytes} {numbers : DoubleText formatDouble}

/-- Identifiers that are empty or valid, and numbers that are doubles. -/
structure Trusted (numbers : DoubleText formatDouble) (call : Submission K) :
    Prop where
  ids : ∀ idText ∈ call.idTexts, TrustedText idText
  doubles : ∀ evidence ∈ call.published, evidence.IsDouble numbers

theorem Trusted.domains {call : Submission K} (trusted : call.Trusted numbers) :
    ∀ domain ∈ call.domains, TrustedText domain.str := by
  have ids := trusted.ids
  cases call with
  | source record => simp [Submission.domains]
  | reachProfile record => simp [Submission.domains]
  | _ record =>
      simp only [idTexts, List.forall_mem_append, List.forall_mem_map] at ids
      exact ids.2

theorem kind_of_tokens {first second : Submission K}
    (same : first.tokens formatDouble = second.tokens formatDouble) :
    first.kind = second.kind :=
  injective_of_parse RecordKind.parse_name (List.cons.inj same).1

/-- Records of one kind have as many tokens in front of their domains. -/
theorem lengths_of_kind {first second : Submission K}
    (same : first.kind = second.kind) :
    first.positional.length = second.positional.length ∧
      (first.facts formatDouble).length = (second.facts formatDouble).length := by
  cases first <;> cases second <;> first | exact ⟨rfl, rfl⟩ | cases same

/-- Two records that are written alike agree part by part. -/
theorem parts_of_tokens {first second : Submission K}
    (isFirst : first.Trusted numbers) (isSecond : second.Trusted numbers)
    (same : first.tokens formatDouble = second.tokens formatDouble) :
    first.positional = second.positional ∧
      (first.facts formatDouble).map keyedToken =
        (second.facts formatDouble).map keyedToken ∧
      first.domains = second.domains := by
  obtain ⟨positional, facts⟩ :=
    @lengths_of_kind K formatDouble first second (kind_of_tokens same)
  rw [tokens_eq, tokens_eq, List.append_assoc, List.append_assoc] at same
  obtain ⟨front, back⟩ := List.append_inj same (by simp [positional])
  obtain ⟨keyed, listed⟩ := List.append_inj back (by simp [facts])
  exact ⟨(List.cons.inj front).2, keyed,
    eq_of_domainFields isFirst.domains isSecond.domains listed⟩

/-- The identifiers of an arc in its tokens. -/
theorem ends_of_tokens {fromPort toPort otherFrom otherTo : PortKey}
    (same : endTokens fromPort toPort = endTokens otherFrom otherTo) :
    fromPort = otherFrom ∧ toPort = otherTo := by
  obtain ⟨⟨fromNode⟩, ⟨fromId⟩⟩ := fromPort
  obtain ⟨⟨toNode⟩, ⟨toId⟩⟩ := toPort
  simp only [endTokens, List.cons.injEq, encodeToken_injective.eq_iff] at same
  obtain ⟨rfl, rfl, rfl, rfl, -⟩ := same
  exact ⟨rfl, rfl⟩

theorem source_of_parts {record other : SourceRecord}
    (positional : (source record : Submission K).positional =
      (source other : Submission K).positional) :
    record.reread = other.reread := by
  obtain ⟨⟨id⟩, generation, coverage, description⟩ := record
  simp only [Submission.positional, List.cons.injEq,
    encodeToken_injective.eq_iff, formatU64_injective.eq_iff, UInt64.toNat_inj,
    Coverage.name_injective.eq_iff] at positional
  obtain ⟨rfl, rfl, rfl, -⟩ := positional
  rfl

theorem node_of_parts {record other : NodeRecord}
    (positional : (node record : Submission K).positional =
      (node other : Submission K).positional)
    (facts : ((node record : Submission K).facts formatDouble).map keyedToken =
      ((node other : Submission K).facts formatDouble).map keyedToken)
    (domains : record.failureDomains = other.failureDomains) :
    record = other := by
  obtain ⟨⟨id⟩, kind, failureDomains, cost, coverage, admin, ⟨source⟩,
    generation⟩ := record
  simp only [Submission.positional, List.cons.injEq,
    encodeToken_injective.eq_iff,
    (injective_of_parse parseNodeKind_name).eq_iff,
    Coverage.name_injective.eq_iff] at positional
  simp only [Submission.facts, originFields, List.cons_append, List.nil_append,
    List.map_cons, List.cons.injEq, keyedToken_inj, formatU64_injective.eq_iff,
    UInt64.toNat_inj] at facts
  obtain ⟨rfl, rfl, rfl, -⟩ := positional
  obtain ⟨sameAdmin, rfl, rfl, rfl, -⟩ := facts
  cases eq_of_read (readAdmin_spelled admin) (readAdmin_spelled other.admin)
    sameAdmin
  cases domains
  rfl

theorem port_of_parts {record other : PortRecord}
    (isFirst : (port record : Submission K).Trusted numbers)
    (isSecond : (port other : Submission K).Trusted numbers)
    (positional : (port record : Submission K).positional =
      (port other : Submission K).positional)
    (facts : ((port record : Submission K).facts formatDouble).map keyedToken =
      ((port other : Submission K).facts formatDouble).map keyedToken)
    (domains : record.failureDomains = other.failureDomains) :
    record.reread = other.reread := by
  have firstIds := isFirst.ids
  have secondIds := isSecond.ids
  simp only [idTexts, List.forall_mem_append] at firstIds secondIds
  have firstProfile := spelledProfile_spellEvidence firstIds.1.2
  have secondProfile := spelledProfile_spellEvidence secondIds.1.2
  obtain ⟨⟨⟨nodeId⟩, ⟨portId⟩⟩, role, transmit, mask, failureDomains, cost, admin,
    ⟨source⟩, generation⟩ := record
  simp only [Submission.positional, List.cons.injEq,
    encodeToken_injective.eq_iff,
    (injective_of_parse parsePortRole_name).eq_iff] at positional
  simp only [Submission.facts, originFields, List.cons_append, List.nil_append,
    List.map_cons, List.cons.injEq, keyedToken_inj, formatU64_injective.eq_iff,
    UInt64.toNat_inj] at facts
  obtain ⟨rfl, rfl, rfl, -⟩ := positional
  obtain ⟨sameAdmin, sameProfile, sameMask, rfl, rfl, rfl, -⟩ := facts
  cases eq_of_read (readAdmin_spelled admin) (readAdmin_spelled other.admin)
    sameAdmin
  cases eq_of_read (readMask_spelled mask) (readMask_spelled other.blockedSlots)
    sameMask
  cases domains
  dsimp only at firstProfile
  rw [sameProfile, secondProfile] at firstProfile
  rw [PortRecord.reread, PortRecord.reread, firstProfile]

theorem span_of_parts {record other : SpanRecord K}
    (isFirst : (span record : Submission K).Trusted numbers)
    (isSecond : (span other : Submission K).Trusted numbers)
    (positional : (span record).positional = (span other).positional)
    (facts : ((span record).facts formatDouble).map keyedToken =
      ((span other).facts formatDouble).map keyedToken)
    (domains : record.failureDomains = other.failureDomains) :
    record = other := by
  have firstDoubles := isFirst.doubles
  have secondDoubles := isSecond.doubles
  simp only [published, List.forall_mem_cons] at firstDoubles secondDoubles
  have firstLoss := firstDoubles.1.spelled
  have firstOsnr := firstDoubles.2.1.spelled
  obtain ⟨⟨id⟩, fromPort, toPort, bidirectional, length, loss, osnr, mask,
    failureDomains, cost, admin, ⟨source⟩, generation⟩ := record
  simp only [Submission.positional, List.cons.injEq,
    encodeToken_injective.eq_iff] at positional
  obtain ⟨rfl, placed⟩ := positional
  obtain ⟨ends, direction⟩ := List.append_inj placed rfl
  obtain ⟨rfl, rfl⟩ := ends_of_tokens ends
  simp only [List.cons.injEq, encodeToken_injective.eq_iff,
    directionName_injective.eq_iff] at direction
  simp only [Submission.facts, originFields, List.cons_append, List.nil_append,
    List.map_cons, List.cons.injEq, keyedToken_inj, formatU64_injective.eq_iff,
    UInt64.toNat_inj] at facts
  obtain ⟨rfl, -⟩ := direction
  obtain ⟨sameLength, sameLoss, sameOsnr, sameMask, sameAdmin, rfl, rfl, rfl, -⟩ :=
    facts
  cases eq_of_read (readU64_spelled length) (readU64_spelled other.lengthM)
    sameLength
  cases eq_of_read firstLoss secondDoubles.1.spelled sameLoss
  cases eq_of_read firstOsnr secondDoubles.2.1.spelled sameOsnr
  cases eq_of_read (readMask_spelled mask) (readMask_spelled other.blockedSlots)
    sameMask
  cases eq_of_read (readAdmin_spelled admin) (readAdmin_spelled other.admin)
    sameAdmin
  cases domains
  rfl

theorem crossConnect_of_parts {record other : CrossConnectRecord}
    (positional : (crossConnect record : Submission K).positional =
      (crossConnect other : Submission K).positional)
    (facts : ((crossConnect record : Submission K).facts formatDouble).map
        keyedToken =
      ((crossConnect other : Submission K).facts formatDouble).map keyedToken)
    (domains : record.failureDomains = other.failureDomains) :
    record = other := by
  obtain ⟨⟨id⟩, fromPort, toPort, op, mask, failureDomains, cost, admin,
    ⟨source⟩, generation⟩ := record
  simp only [Submission.positional, List.cons.injEq,
    encodeToken_injective.eq_iff] at positional
  obtain ⟨rfl, placed⟩ := positional
  obtain ⟨ends, operation⟩ := List.append_inj placed rfl
  obtain ⟨rfl, rfl⟩ := ends_of_tokens ends
  simp only [List.cons.injEq, encodeToken_injective.eq_iff,
    (injective_of_parse parseCrossConnectOp_name).eq_iff] at operation
  simp only [Submission.facts, originFields, List.cons_append, List.nil_append,
    List.map_cons, List.cons.injEq, keyedToken_inj, formatU64_injective.eq_iff,
    UInt64.toNat_inj] at facts
  obtain ⟨rfl, -⟩ := operation
  obtain ⟨sameMask, sameAdmin, rfl, rfl, rfl, -⟩ := facts
  cases eq_of_read (readMask_spelled mask) (readMask_spelled other.blockedSlots)
    sameMask
  cases eq_of_read (readAdmin_spelled admin) (readAdmin_spelled other.admin)
    sameAdmin
  cases domains
  rfl

theorem profile_of_parts {record other : ReachProfile K}
    (isFirst : (reachProfile record : Submission K).Trusted numbers)
    (isSecond : (reachProfile other : Submission K).Trusted numbers)
    (positional : (reachProfile record).positional =
      (reachProfile other).positional)
    (facts : ((reachProfile record).facts formatDouble).map keyedToken =
      ((reachProfile other).facts formatDouble).map keyedToken) :
    record = other := by
  have firstDoubles := isFirst.doubles
  have secondDoubles := isSecond.doubles
  simp only [published, List.forall_mem_cons] at firstDoubles secondDoubles
  have firstLoss := firstDoubles.1.spelled
  have firstOsnr := firstDoubles.2.1.spelled
  obtain ⟨⟨id⟩, distance, spans, loss, osnr, ⟨source⟩, generation⟩ := record
  simp only [Submission.positional, List.cons.injEq,
    encodeToken_injective.eq_iff] at positional
  simp only [Submission.facts, originFields, List.cons_append, List.nil_append,
    List.map_cons, List.cons.injEq, keyedToken_inj, formatU64_injective.eq_iff,
    UInt64.toNat_inj] at facts
  obtain ⟨rfl, -⟩ := positional
  obtain ⟨sameDistance, sameSpans, sameLoss, sameOsnr, rfl, rfl, -⟩ := facts
  cases eq_of_read (readU64_spelled distance) (readU64_spelled other.maxDistanceM)
    sameDistance
  cases eq_of_read (readU32_spelled spans) (readU32_spelled other.maxSpanCount)
    sameSpans
  cases eq_of_read firstLoss secondDoubles.1.spelled sameLoss
  cases eq_of_read firstOsnr secondDoubles.2.1.spelled sameOsnr
  rfl

/-- The tokens of a record determine it up to what is read back differently. -/
theorem reread_eq_of_tokens {first second : Submission K}
    (isFirst : first.Trusted numbers) (isSecond : second.Trusted numbers)
    (same : first.tokens formatDouble = second.tokens formatDouble) :
    first.reread = second.reread := by
  have kinds := kind_of_tokens same
  obtain ⟨positional, facts, listed⟩ := parts_of_tokens isFirst isSecond same
  cases first with
  | source record =>
      cases second with
      | source other => exact congrArg source (source_of_parts positional)
      | _ => cases kinds
  | node record =>
      cases second with
      | node other =>
          exact congrArg node (node_of_parts positional facts listed)
      | _ => cases kinds
  | port record =>
      cases second with
      | port other =>
          exact congrArg port
            (port_of_parts isFirst isSecond positional facts listed)
      | _ => cases kinds
  | span record =>
      cases second with
      | span other =>
          exact congrArg span
            (span_of_parts isFirst isSecond positional facts listed)
      | _ => cases kinds
  | crossConnect record =>
      cases second with
      | crossConnect other =>
          exact congrArg crossConnect
            (crossConnect_of_parts positional facts listed)
      | _ => cases kinds
  | reachProfile record =>
      cases second with
      | reachProfile other =>
          exact congrArg reachProfile
            (profile_of_parts isFirst isSecond positional facts)
      | _ => cases kinds

/-! ### Tokens are told apart -/

theorem all_spellProfile {evidence : Evidence (Option ProfileId)}
    (trusted : ∀ idText ∈ profileTexts evidence, TrustedText idText) :
    (spellEvidence spellProfile evidence).all isTokenByte = true := by
  cases evidence with
  | unknown => decide
  | conflicting => decide
  | known profile =>
      cases profile with
      | none => decide
      | some id => exact (trusted id.str List.mem_cons_self).all_isTokenByte

theorem all_spellNumber {α : Type} (toNat : α → Nat) (evidence : Evidence α) :
    (spellEvidence (fun value => formatU64 (toNat value)) evidence).all
      isTokenByte = true := by
  cases evidence with
  | known value => exact (plainToken_formatU64 _).bytes
  | unknown => exact (by decide : (text "unknown").all isTokenByte = true)
  | conflicting =>
      exact (by decide : (text "conflicting").all isTokenByte = true)

theorem Trusted.facts_all {call : Submission K} (trusted : call.Trusted numbers) :
    ∀ field ∈ call.facts formatDouble, field.2.all isTokenByte = true := by
  have ids := trusted.ids
  have doubles := trusted.doubles
  cases call with
  | source record => simp [facts]
  | node record =>
      simp only [idTexts, List.forall_mem_append, List.forall_mem_cons] at ids
      simp only [facts, originFields, List.forall_mem_append, List.forall_mem_cons]
      exact ⟨⟨(spelled_admin _).plain, (plainToken_formatU64 _).bytes, by simp⟩,
        ids.1.2.1.all_isTokenByte, (plainToken_formatU64 _).bytes, by simp⟩
  | port record =>
      simp only [idTexts, List.forall_mem_append, List.forall_mem_cons] at ids
      simp only [facts, originFields, List.forall_mem_append, List.forall_mem_cons]
      exact ⟨⟨(spelled_admin _).plain, all_spellProfile ids.1.2,
        (spelled_mask _).plain, (plainToken_formatU64 _).bytes, by simp⟩,
        ids.1.1.2.2.1.all_isTokenByte, (plainToken_formatU64 _).bytes, by simp⟩
  | span record =>
      simp only [idTexts, List.forall_mem_append, List.forall_mem_cons] at ids
      simp only [published, List.forall_mem_cons] at doubles
      simp only [facts, originFields, List.forall_mem_append, List.forall_mem_cons]
      exact ⟨⟨all_spellNumber _ _, doubles.1.spelled_double.plain,
        doubles.2.1.spelled_double.plain, (spelled_mask _).plain,
        (spelled_admin _).plain, (plainToken_formatU64 _).bytes, by simp⟩,
        ids.1.2.2.2.2.2.1.all_isTokenByte, (plainToken_formatU64 _).bytes, by simp⟩
  | crossConnect record =>
      simp only [idTexts, List.forall_mem_append, List.forall_mem_cons] at ids
      simp only [facts, originFields, List.forall_mem_append, List.forall_mem_cons]
      exact ⟨⟨(spelled_mask _).plain, (spelled_admin _).plain,
        (plainToken_formatU64 _).bytes, by simp⟩,
        ids.1.2.2.2.2.2.1.all_isTokenByte, (plainToken_formatU64 _).bytes, by simp⟩
  | reachProfile record =>
      simp only [idTexts, List.forall_mem_cons] at ids
      simp only [published, List.forall_mem_cons] at doubles
      simp only [facts, originFields, List.forall_mem_append, List.forall_mem_cons]
      exact ⟨⟨all_spellNumber _ _, all_spellNumber _ _,
        doubles.1.spelled_double.plain, doubles.2.1.spelled_double.plain, by simp⟩,
        ids.2.1.all_isTokenByte, (plainToken_formatU64 _).bytes, by simp⟩

theorem positional_plain (call : Submission K) :
    ∀ token ∈ call.positional, PlainToken token := by
  cases call <;>
    simp only [positional, endTokens, List.cons_append, List.nil_append,
      List.forall_mem_cons, plainToken_encodeToken, plainToken_formatU64,
      true_and] <;>
    simp

theorem Trusted.plainRecord {call : Submission K} (trusted : call.Trusted numbers) :
    PlainRecord (call.tokens formatDouble) := by
  have keys := List.all_eq_true.mp (call.facts_plain formatDouble)
  have front : ∀ token ∈ (call.facts formatDouble).map keyedToken,
      PlainToken token := by
    rw [List.forall_mem_map]
    intro field member
    have key := keys field member
    rw [Bool.and_eq_true] at key
    exact plainToken_keyedToken (trusted.facts_all field member) key.1
  have back : ∀ token ∈ (PlanEntry.domainFields call.domains).map keyedToken,
      PlainToken token := by
    unfold PlanEntry.domainFields
    split_ifs
    · simp
    · have joined : (joinCommas (call.domains.map StrongId.str)).all isTokenByte =
          true := by
        refine all_joinCommas ?_
        rw [List.forall_mem_map]
        exact fun domain member => (trusted.domains domain member).all_isTokenByte
      have plain : PlainToken (keyedToken
          ("domains", joinCommas (call.domains.map StrongId.str))) :=
        plainToken_keyedToken joined (by decide : plainKey "domains" = true)
      simpa using plain
  rw [tokens_eq]
  refine ⟨by simp, ?_⟩
  simp only [List.forall_mem_append, List.forall_mem_cons]
  exact ⟨⟨⟨(RecordKind.spelled_name _).plainToken, call.positional_plain⟩, front⟩,
    back⟩

theorem kind_reread (call : Submission K) : call.reread.kind = call.kind := by
  cases call <;> rfl

end Submission

/-! ### Snapshots -/

/-- Lists with the same images under one function have the same images under a
function that factors through it. -/
theorem map_eq_map_of_map_eq {α β γ : Type} {image : α → β} {other : α → γ}
    {firsts seconds : List α}
    (factors : ∀ first ∈ firsts, ∀ second ∈ seconds,
      image first = image second → other first = other second)
    (same : firsts.map image = seconds.map image) :
    firsts.map other = seconds.map other := by
  induction firsts generalizing seconds with
  | nil =>
      rw [List.map_nil, eq_comm, List.map_eq_nil_iff] at same
      rw [same]
  | cons first rest ih =>
      cases seconds with
      | nil => cases same
      | cons second others =>
          rw [List.map_cons, List.map_cons, List.cons.injEq] at same
          rw [List.map_cons, List.map_cons,
            factors first List.mem_cons_self second List.mem_cons_self same.1,
            ih (fun left inLeft right inRight =>
              factors left (List.mem_cons_of_mem _ inLeft) right
                (List.mem_cons_of_mem _ inRight)) same.2]

section Submitted

variable {Record : Type} {records others : List Record}
  {submission : Record → Submission K} (submitted : Function.Injective submission)

include submitted

theorem map_reread_of_submitted {rereadRecord : Record → Record}
    (kept : ∀ record, (submission record).reread =
      submission (rereadRecord record))
    (same : (records.map submission).map Submission.reread =
      (others.map submission).map Submission.reread) :
    records.map rereadRecord = others.map rereadRecord := by
  have composed : Submission.reread ∘ submission = submission ∘ rereadRecord :=
    funext kept
  rw [List.map_map, List.map_map, composed, ← List.map_map, ← List.map_map] at same
  exact List.map_injective_iff.mpr submitted same

theorem eq_of_submitted
    (kept : ∀ record, (submission record).reread = submission record)
    (same : (records.map submission).map Submission.reread =
      (others.map submission).map Submission.reread) : records = others := by
  have ids : records.map id = others.map id :=
    map_reread_of_submitted submitted kept same
  rwa [List.map_id, List.map_id] at ids

end Submitted

namespace TopologySnapshot

variable {formatDouble : K → Bytes} {numbers : DoubleText formatDouble}
  {first second : TopologySnapshot K}

/-- Every record has trusted identifiers, and every number is a double. -/
def Trusted (numbers : DoubleText formatDouble) (snapshot : TopologySnapshot K) :
    Prop :=
  ∀ call ∈ snapshot.calls, call.Trusted numbers

/-- The records of one kind. -/
def recordsOf (snapshot : TopologySnapshot K) : RecordKind → List (Submission K)
  | .source => snapshot.sources.map .source
  | .profile => snapshot.reachProfiles.map .reachProfile
  | .node => snapshot.nodes.map .node
  | .port => snapshot.ports.map .port
  | .span => snapshot.spans.map .span
  | .crossConnect => snapshot.crossConnects.map .crossConnect

theorem filter_calls (snapshot : TopologySnapshot K) (kind : RecordKind) :
    snapshot.calls.filter (fun call => call.kind = kind) =
      snapshot.recordsOf kind := by
  cases kind <;>
    simp [calls, recordsOf, List.filter_append, List.filter_map,
      Function.comp_def, Submission.kind]

/-- The same identity, spectrum and records, up to what is read back
differently. -/
structure SameSpelling (first second : TopologySnapshot K) : Prop where
  id : first.id = second.id
  generation : first.generation = second.generation
  spectrum : first.spectrum = second.spectrum
  sources : first.sources.map SourceRecord.reread =
    second.sources.map SourceRecord.reread
  nodes : first.nodes = second.nodes
  ports : first.ports.map PortRecord.reread = second.ports.map PortRecord.reread
  spans : first.spans = second.spans
  crossConnects : first.crossConnects = second.crossConnects
  reachProfiles : first.reachProfiles = second.reachProfiles

theorem frontRecords_plain (snapshot : TopologySnapshot K) :
    ∀ record ∈ snapshot.frontRecords, PlainRecord record := by
  have constant (bytes : Bytes) (holds : (!bytes.isEmpty &&
      bytes.all isTokenByte && decide (bytes.length ≤ 12)) = true) :
      PlainToken bytes := (Spelled.constant holds).plainToken
  have pair (name value : Bytes) (isName : PlainToken name)
      (isValue : PlainToken value) : PlainRecord [name, value] :=
    ⟨by simp, by simpa using ⟨isName, isValue⟩⟩
  simp only [frontRecords, List.forall_mem_cons]
  exact ⟨pair _ _ (constant _ (by decide)) (plainToken_formatU64 _),
    pair _ _ (constant _ (by decide)) (plainToken_encodeToken _),
    pair _ _ (constant _ (by decide)) (plainToken_formatU64 _),
    pair _ _ (constant _ (by decide)) (plainToken_encodeToken _),
    pair _ _ (constant _ (by decide)) (plainToken_formatU64 _), by simp⟩

theorem Trusted.records_plain {snapshot : TopologySnapshot K}
    (trusted : snapshot.Trusted numbers) :
    ∀ record ∈ snapshot.records formatDouble, PlainRecord record := by
  unfold records
  rw [List.forall_mem_append, List.forall_mem_map]
  exact ⟨snapshot.frontRecords_plain, fun call member =>
    (trusted call member).plainRecord⟩

theorem sameRecords_of_calls
    (same : first.calls.map Submission.reread =
      second.calls.map Submission.reread) (kind : RecordKind) :
    (first.recordsOf kind).map Submission.reread =
      (second.recordsOf kind).map Submission.reread := by
  have filtered := congrArg
    (List.filter fun call : Submission K => call.kind = kind) same
  simpa only [List.filter_map, Function.comp_def, Submission.kind_reread,
    filter_calls] using filtered

/-- Snapshots of one text have the same identity, spectrum and records, up to
what is read back differently. -/
theorem sameSpelling_of_text (isFirst : first.Trusted numbers)
    (isSecond : second.Trusted numbers)
    (same : snapshotToText formatDouble first =
      snapshotToText formatDouble second) : first.SameSpelling second := by
  rw [snapshotToText_eq, snapshotToText_eq] at same
  have listed := congrArg textRecords same
  rw [textRecords_flatMap isFirst.records_plain,
    textRecords_flatMap isSecond.records_plain] at listed
  obtain ⟨front, called⟩ := List.append_inj listed rfl
  have calls := sameRecords_of_calls (map_eq_map_of_map_eq
    (fun call member other isOther => Submission.reread_eq_of_tokens
      (isFirst call member) (isSecond other isOther)) called)
  simp only [frontRecords, List.cons.injEq, encodeToken_injective.eq_iff,
    formatU64_injective.eq_iff, UInt64.toNat_inj,
    (injective_of_parse parseGridKind_name).eq_iff,
    StrongId.str_injective.eq_iff, true_and, and_true] at front
  obtain ⟨id, generation, grid, slots⟩ := front
  constructor
  case id => exact id
  case generation => exact generation
  case spectrum =>
    cases firstModel : first.spectrum
    cases secondModel : second.spectrum
    rw [firstModel, secondModel] at grid slots
    rw [SpectrumModel.mk.injEq]
    exact ⟨grid, slots⟩
  case sources =>
    exact map_reread_of_submitted (fun _ _ => Submission.source.inj)
      (fun _ => rfl) (calls .source)
  case ports =>
    exact map_reread_of_submitted (fun _ _ => Submission.port.inj)
      (fun _ => rfl) (calls .port)
  case nodes =>
    exact eq_of_submitted (fun _ _ => Submission.node.inj) (fun _ => rfl)
      (calls .node)
  case spans =>
    exact eq_of_submitted (fun _ _ => Submission.span.inj) (fun _ => rfl)
      (calls .span)
  case crossConnects =>
    exact eq_of_submitted (fun _ _ => Submission.crossConnect.inj)
      (fun _ => rfl) (calls .crossConnect)
  case reachProfiles =>
    exact eq_of_submitted (fun _ _ => Submission.reachProfile.inj)
      (fun _ => rfl) (calls .profile)

end TopologySnapshot

end OpticalPathPlanner
