import OpticalPathPlanner.CanonicalSnapshots
import OpticalPathPlanner.PlanSegments

/-!
# The texts of a plan

Identifiers, numbers and hashes are short, also when they are escaped.  So the
tokens of a plan keep the limit of the tokenizer as soon as the lists of failure
domains do, which stand joined in one token each.
-/

namespace OpticalPathPlanner

open SortedRanges

/-! ### Texts that fit in a token -/

/-- A resource key with a text as long as a port key at most. -/
structure ResourceKey.Brief (key : ResourceKey) : Prop where
  named : key.text ≠ []
  short : key.text.length ≤ 2 * kMaxIdLength + 1

structure PlanAssumption.Brief (assumption : PlanAssumption) : Prop where
  resource : assumption.resource.Brief
  field : assumption.field.length ≤ 96
  value : assumption.value.length ≤ 96

theorem StrongId.Valid.brief {tag : IdentityTag} {id : StrongId tag}
    (valid : id.Valid) (kind : ResourceKind) :
    ResourceKey.Brief ⟨kind, id.str⟩ :=
  ⟨valid.ne_nil, valid.length_le.trans (by decide)⟩

theorem PortKey.Valid.brief {key : PortKey} (valid : key.Valid) :
    (ResourceKey.forPort key).Brief := by
  have node := valid.1.length_le
  have port := valid.2.length_le
  have colon : (text ":").length = 1 := rfl
  refine ⟨?_, ?_⟩
  · have named := SearchContext.forPort_named key
    simpa [ResourceKey.empty] using named
  · simp only [ResourceKey.forPort, PortKey.canonicalText, List.length_append,
      colon]
    omega

theorem ResourceKey.Brief.toBytes_length {key : ResourceKey} (brief : key.Brief) :
    key.toBytes.length ≤ 206 := by
  have short := brief.short
  have kind : key.kind.name.length ≤ 12 := by
    cases key.kind <;> decide
  have colon : (OpticalPathPlanner.text ":").length = 1 := rfl
  rw [ResourceKey.toBytes, List.length_append, List.length_append, colon]
  simp only [kMaxIdLength] at short
  omega

namespace PlanEntry

variable {K : Type} {formatDouble : K → Bytes} {numbers : DoubleText formatDouble}

/-- The texts an entry spells out are short, apart from failure domains. -/
def Brief : PlanEntry K → Prop
  | request id _ => id.Valid
  | snapshot id _ _ => id.Valid
  | endpoints source destination => source.Valid ∧ destination.Valid
  | step value => value.resource.Brief
  | segment value =>
      value.endedByRegeneration = true → value.regenerationResource.Brief
  | reservation value => value.resource.Brief
  | capability value => value.Brief
  | quality value => value.Brief
  | _ => True

theorem keys_short (entry : PlanEntry K) :
    ∀ field ∈ entry.fields formatDouble, (text field.1).length ≤ 8 := by
  have checked : ((entry.fields formatDouble).all fun field =>
      decide ((text field.1).length ≤ 8)) = true := by
    cases entry with
    | segment value =>
        have ending : ((segmentEnd value).all fun field =>
            decide ((text field.1).length ≤ 8)) = true := by
          unfold segmentEnd
          split_ifs <;> rfl
        rw [fields, List.all_append, ending]
        rfl
    | spanUse index value =>
        have domains : ((domainFields value.failureDomains).all fun field =>
            decide ((text field.1).length ≤ 8)) = true := by
          unfold domainFields
          split_ifs <;> rfl
        rw [fields, List.all_append, domains]
        rfl
    | _ => rfl
  intro field member
  simpa using List.all_eq_true.mp checked field member

theorem encodeToken_short {raw : Bytes} (short : raw.length ≤ 206) :
    (encodeToken raw).length ≤ 900 :=
  (encodeToken_length_le raw).trans (by omega)

theorem positional_short {entry : PlanEntry K} (legal : entry.Legal numbers)
    (brief : entry.Brief) : ∀ token ∈ entry.positional, token.length ≤ 900 := by
  have id {tag : IdentityTag} {id : StrongId tag} (valid : id.Valid) :
      (encodeToken id.str).length ≤ 900 :=
    encodeToken_short (valid.length_le.trans (by decide))
  have hex (digest : Digest256) : (encodeToken digest.toHex).length ≤ 900 :=
    encodeToken_short (digest.spelled.short.trans (by decide))
  have number {value : Nat} (small : value < 2 ^ 64) :
      (formatU64 value).length ≤ 900 :=
    (formatU64_length_le small).trans (by decide)
  have name (bytes : Bytes) (short : decide (bytes.length ≤ 900) = true) :
      bytes.length ≤ 900 := by simpa using short
  cases entry with
  | rule version =>
      simp only [Legal] at legal
      subst legal
      exact List.forall_mem_cons.mpr ⟨name _ (by decide),
        List.forall_mem_cons.mpr ⟨number (by decide), by simp⟩⟩
  | request requestId hash =>
      simp only [positional, List.forall_mem_cons]
      exact ⟨name _ (by decide), id brief, hex hash, by simp⟩
  | snapshot snapshotId generation hash =>
      simp only [positional, List.forall_mem_cons]
      exact ⟨name _ (by decide), id brief, number generation.toNat_lt, hex hash,
        by simp⟩
  | binding value =>
      simp only [positional, List.forall_mem_cons]
      exact ⟨name _ (by decide), id legal, by simp⟩
  | step value =>
      simp only [positional, List.forall_mem_cons]
      exact ⟨name _ (by decide), number (legal.index.trans (by decide)), by simp⟩
  | segment value =>
      simp only [positional, List.forall_mem_cons]
      exact ⟨name _ (by decide), number (legal.index.trans (by decide)), by simp⟩
  | spanUse index value =>
      simp only [positional, List.forall_mem_cons]
      exact ⟨name _ (by decide), number (legal.1.trans (by decide)), by simp⟩
  | digest value =>
      simp only [positional, List.forall_mem_cons]
      exact ⟨name _ (by decide), hex value, by simp⟩
  | _ =>
      simp only [positional, List.forall_mem_cons]
      exact ⟨name _ (by decide), by simp⟩

theorem Brief.resource_short {key : ResourceKey} (brief : key.Brief) :
    (encodeToken key.toBytes).length ≤ 900 :=
  encodeToken_short brief.toBytes_length

theorem assumptionFields_short {assumption : PlanAssumption}
    (brief : assumption.Brief) :
    ∀ field ∈ assumptionFields assumption, field.2.length ≤ 900 := by
  simp only [assumptionFields, List.forall_mem_cons]
  exact ⟨Brief.resource_short brief.resource,
    encodeToken_short (brief.field.trans (by decide)),
    encodeToken_short (brief.value.trans (by decide)), by simp⟩

theorem segmentEnd_short {segment : PlanSegment K}
    (brief : segment.endedByRegeneration = true →
      segment.regenerationResource.Brief) :
    ∀ field ∈ segmentEnd segment, field.2.length ≤ 900 := by
  unfold segmentEnd
  split_ifs with ended
  · simp only [List.forall_mem_cons]
    exact ⟨encodeToken_short (by decide), Brief.resource_short (brief ended),
      by simp⟩
  · simp only [List.forall_mem_cons]
    exact ⟨encodeToken_short (by decide), by simp⟩

/-- The failure domains an entry lists. -/
def domains : PlanEntry K → List FailureDomainId
  | spanUse _ value => value.failureDomains
  | _ => []

theorem fields_short {entry : PlanEntry K} (legal : entry.Legal numbers)
    (brief : entry.Brief) : ∀ field ∈ entry.fields formatDouble,
      field ∈ domainFields entry.domains ∨ field.2.length ≤ 900 := by
  have id {tag : IdentityTag} {id : StrongId tag} (valid : id.Valid) :
      (encodeToken id.str).length ≤ 900 :=
    encodeToken_short (valid.length_le.trans (by decide))
  have port {key : PortKey} (valid : key.Valid) :
      (encodeToken key.canonicalText).length ≤ 900 :=
    encodeToken_short (valid.brief.short.trans (by decide))
  have hex (digest : Digest256) : (encodeToken digest.toHex).length ≤ 900 :=
    encodeToken_short (digest.spelled.short.trans (by decide))
  have number {value : Nat} (small : value < 2 ^ 64) :
      (formatU64 value).length ≤ 900 :=
    (formatU64_length_le small).trans (by decide)
  have double {value : K} (isDouble : numbers.IsDouble value) :
      (formatDouble value).length ≤ 900 :=
    (numbers.formatDouble_length value isDouble).trans (by decide)
  cases entry with
  | binding value =>
      simp only [fields, List.forall_mem_cons]
      exact ⟨.inr <| number value.generation.toNat_lt,
        .inr <| hex value.snapshotContribution, by simp⟩
  | endpoints source destination =>
      simp only [fields, List.forall_mem_cons]
      exact ⟨.inr <| id brief.1.1, .inr <| id brief.1.2, .inr <| id brief.2.1,
        .inr <| id brief.2.2, by simp⟩
  | channel width =>
      simp only [fields, List.forall_mem_cons]
      exact ⟨.inr <| number (legal.trans (by decide)), by simp⟩
  | totals cost distance loss hops regenerations =>
      simp only [fields, List.forall_mem_cons]
      exact ⟨.inr <| number cost.toNat_lt, .inr <| number distance.toNat_lt,
        .inr <| double legal.1, .inr <| number (legal.2.1.trans (by decide)),
        .inr <| number (legal.2.2.trans (by decide)), by simp⟩
  | step value =>
      have kind : value.kind.name.length ≤ 206 := by
        cases value.kind <;> decide
      simp only [fields, List.forall_mem_cons]
      exact ⟨.inr <| encodeToken_short kind,
        .inr <| number (legal.segmentIndex.trans (by decide)),
        .inr <| number (legal.reasonBits.trans (by decide)),
        .inr <| number value.cost.toNat_lt, .inr <| Brief.resource_short brief,
        by simp⟩
  | segment value =>
      simp only [fields, List.forall_mem_append, List.forall_mem_cons]
      exact ⟨⟨.inr <| id legal.profile,
        .inr <| number (legal.channelRuns.trans (by decide)),
        .inr <| number value.distanceM.toNat_lt, .inr <| double legal.lossDb,
        .inr <| double legal.osnrDb,
        .inr <| number (legal.spanCount.trans (by decide)), by simp⟩,
        fun field member => .inr (segmentEnd_short brief field member)⟩
  | spanUse index value =>
      have direction : value.reversed.toNat < 2 ^ 64 := by
        cases value.reversed <;> decide
      obtain ⟨-, legal⟩ := legal
      simp only [fields, List.forall_mem_append, List.forall_mem_cons]
      exact ⟨⟨.inr <| id legal.id, .inr <| port legal.fromPort,
        .inr <| port legal.toPort, .inr <| number direction,
        .inr <| number value.lengthM.toNat_lt, .inr <| double legal.lossDb,
        .inr <| double legal.osnrDb, .inr <| number value.cost.toNat_lt,
        .inr <| number (legal.firstSlot.trans (by decide)), by simp⟩, fun field member => .inl member⟩
  | reservation value =>
      simp only [fields, List.forall_mem_cons]
      exact ⟨.inr <| Brief.resource_short brief,
        .inr <| number (legal.firstSlot.trans (by decide)),
        .inr <| number (legal.widthSlots.trans (by decide)),
        .inr <| number (legal.segmentIndex.trans (by decide)), by simp⟩
  | capability value =>
      exact fun field member => .inr (assumptionFields_short brief field member)
  | quality value =>
      exact fun field member => .inr (assumptionFields_short brief field member)
  | exposure value =>
      simp only [fields, List.forall_mem_cons]
      exact ⟨.inr <| id legal.id,
        .inr <| number (legal.memberCount.trans (by decide)),
        .inr <| number (value.limit.toNat_lt.trans (by decide)), by simp⟩
  | _ => simp [fields]

/-- Only the failure domains may be too long for a token. -/
theorem tokens_short_iff {entry : PlanEntry K} (legal : entry.Legal numbers)
    (brief : entry.Brief) :
    (∀ token ∈ entry.tokens formatDouble, token.length ≤ kMaxTokenBytes) ↔
      DomainsShort entry.domains := by
  have key : (text "domains").length = 7 := rfl
  constructor
  · intro short
    by_cases none_ : entry.domains = []
    · rw [none_]
      decide
    · have listed : keyedToken ("domains",
          joinCommas (entry.domains.map StrongId.str)) ∈
            entry.tokens formatDouble := by
        cases entry with
        | spanUse index value =>
            have empty : value.failureDomains.isEmpty = false :=
              List.isEmpty_eq_false_iff.mpr none_
            simp [tokens, fields, domainFields, domains, empty]
        | _ => exact (none_ rfl).elim
      have fits := short _ listed
      simp only [keyedToken, List.length_append, key, List.length_cons,
        List.length_nil] at fits
      unfold DomainsShort
      omega
  · intro fit
    rw [tokens, List.forall_mem_append, List.forall_mem_map]
    refine ⟨fun token member => (positional_short legal brief token
      member).trans (by decide), fun field member => ?_⟩
    rw [keyedToken, List.length_append, List.length_append, List.length_singleton]
    rcases fields_short legal brief field member with inDomains | short
    · unfold domainFields at inDomains
      split_ifs at inDomains
      · cases inDomains
      · obtain rfl := List.mem_singleton.mp inDomains
        simp only
        rw [key]
        unfold DomainsShort at fit
        omega
    · have named := keys_short entry field member
      rw [kMaxTokenBytes]
      omega

end PlanEntry

end OpticalPathPlanner
