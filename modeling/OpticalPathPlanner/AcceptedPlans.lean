import OpticalPathPlanner.PlanRoundTrip

/-!
# Plans that the reader accepts

Whatever the spelling of a record, the reader adds a legal entry to the plan.
So an accepted plan is legal and splits its port keys where they are joined,
and the artifact it came from is read again from its canonical bytes exactly
when no identifier was left at its default and the canonical text keeps the
limits of the reader.
-/

namespace OpticalPathPlanner

/-! ### What a record that was read holds -/

theorem bind_eq_ok_iff {ε α β : Type} {first : Except ε α}
    {next : α → Except ε β} {result : β} :
    first >>= next = .ok result ↔
      ∃ value, first = .ok value ∧ next value = .ok result := by
  cases first with
  | error status => simp
  | ok value => simp

theorem of_failAtLine {α : Type} {number : Nat} {outcome : Except Status α}
    {value : α} (ok : failAtLine number outcome = .ok value) :
    outcome = .ok value := by
  cases outcome with
  | error status => cases ok
  | ok read => exact ok

theorem StrongId.valid_of_parse {tag : IdentityTag} {bytes : Bytes}
    {id : StrongId tag} (parsed : StrongId.parse tag bytes = .ok id) :
    id.Valid := by
  exact (StrongId.parse_eq_ok_iff.mp parsed).2

theorem parseDomainPieces_valid {pieces : List Bytes}
    {domains : List FailureDomainId}
    (read : parseDomainPieces pieces = .ok domains) :
    ∀ domain ∈ domains, domain.Valid := by
  induction pieces generalizing domains with
  | nil =>
      cases read
      simp
  | cons piece rest ih =>
      rw [parseDomainPieces] at read
      obtain ⟨first, readFirst, read⟩ := bind_eq_ok_iff.mp read
      obtain ⟨others, readOthers, read⟩ := bind_eq_ok_iff.mp read
      cases read
      exact List.forall_mem_cons.mpr
        ⟨StrongId.valid_of_parse readFirst, ih readOthers⟩

theorem parseDomainList_valid {bytes : Bytes} {domains : List FailureDomainId}
    (read : parseDomainList bytes = .ok domains) :
    ∀ domain ∈ domains, domain.Valid := by
  unfold parseDomainList at read
  split_ifs at read
  · cases read
    simp
  · exact parseDomainPieces_valid read

/-- A port key is split at the first colon, which the node does not hold. -/
theorem splitPortKey_spec {bytes : Bytes} {key : PortKey}
    (read : splitPortKey bytes = .ok key) : key.Valid ∧ 58 ∉ key.node.str := by
  unfold splitPortKey at read
  split at read
  · cases read
  · rename_i nodeText portText cut
    obtain ⟨node, readNode, read⟩ := bind_eq_ok_iff.mp read
    obtain ⟨port, readPort, read⟩ := bind_eq_ok_iff.mp read
    cases read
    refine ⟨⟨StrongId.valid_of_parse readNode,
      StrongId.valid_of_parse readPort⟩, ?_⟩
    change 58 ∉ node.str
    rw [(StrongId.parse_eq_ok_iff.mp readNode).1]
    exact (eq_append_of_cutAt cut).2

theorem readBinding_spec {values : List Bytes} {binding : SourceBinding}
    (read : readBinding values = .ok binding) : binding.source.Valid := by
  unfold readBinding at read
  split_ifs at read
  simp only [bind_eq_ok_iff, pure_eq_ok, Except.ok.injEq] at read
  obtain ⟨source, readSource, _, _, _, _, _, _, _, _, rfl⟩ := read
  exact StrongId.valid_of_parse readSource

theorem readEndpoints_spec {values : List Bytes} {ends : PortKey × PortKey}
    (read : readEndpoints values = .ok ends) : ends.1.Valid ∧ ends.2.Valid := by
  unfold readEndpoints at read
  simp only [bind_eq_ok_iff, pure_eq_ok, Except.ok.injEq] at read
  obtain ⟨_, _, _, _, _, _, _, _, _, sourceNode, _, sourcePort, _, destinationNode,
    _, destinationPort, rfl⟩ := read
  exact ⟨⟨StrongId.valid_of_parse sourceNode, StrongId.valid_of_parse sourcePort⟩,
    ⟨StrongId.valid_of_parse destinationNode,
      StrongId.valid_of_parse destinationPort⟩⟩

theorem readStep_spec {values : List Bytes} {step : PlanStep}
    (read : readStep values = .ok step) : step.Legal := by
  unfold readStep at read
  split_ifs at read
  obtain ⟨index, _, read⟩ := bind_eq_ok_iff.mp read
  obtain ⟨kindText, _, read⟩ := bind_eq_ok_iff.mp read
  cases kind : parseStepKind kindText with
  | none => simp [kind] at read
  | some value =>
      simp only [kind, bind_eq_ok_iff, pure_eq_ok, Except.ok.injEq] at read
      obtain ⟨_, _, segment, _, _, _, reason, _, _, _, _, _, _, _, resource,
        readResource, rfl⟩ := read
      exact ⟨index.toNat_lt, segment.toNat_lt, reason.toNat_lt,
        named_of_resourceKeyFromString readResource⟩

theorem readReservation_spec {values : List Bytes}
    {reservation : PlanReservation}
    (read : readReservation values = .ok reservation) : reservation.Legal := by
  unfold readReservation at read
  simp only [bind_eq_ok_iff, pure_eq_ok, Except.ok.injEq] at read
  obtain ⟨_, _, resource, readResource, _, _, first, _, _, _, width, _, _, _,
    segment, _, rfl⟩ := read
  exact ⟨named_of_resourceKeyFromString readResource, first.toNat_lt,
    width.toNat_lt, segment.toNat_lt⟩

theorem readAssumption_spec {values : List Bytes} {assumption : PlanAssumption}
    (read : readAssumption values = .ok assumption) :
    assumption.resource.text ≠ [] := by
  unfold readAssumption at read
  simp only [bind_eq_ok_iff, pure_eq_ok, Except.ok.injEq] at read
  obtain ⟨_, _, resource, readResource, _, _, _, _, rfl⟩ := read
  exact named_of_resourceKeyFromString readResource

theorem readExposure_spec {values : List Bytes} {exposure : FailureDomainExposure}
    (read : readExposure values = .ok exposure) : exposure.Legal := by
  unfold readExposure at read
  simp only [bind_eq_ok_iff, pure_eq_ok, Except.ok.injEq] at read
  obtain ⟨_, _, domain, readDomain, _, _, count, _, _, _, limit, _, rfl⟩ := read
  exact ⟨StrongId.valid_of_parse readDomain, count.toNat_lt⟩

section Numbers

variable {K : Type} {formatDouble : K → Bytes} {numbers : DoubleText formatDouble}

theorem readSegment_spec {values : List Bytes} {segment : PlanSegment K}
    (read : readSegment numbers values = .ok segment) :
    segment.Legal numbers ∧ segment.spans = [] := by
  unfold readSegment at read
  split_ifs at read
  simp only [bind_eq_ok_iff] at read
  obtain ⟨index, _, _, _, profile, readProfile, _, _, runs, _, _, _, distance, _,
    _, _, loss, readLoss, _, _, osnr, readOsnr, _, _, spans, _, ending, _,
    read⟩ := read
  have profileValid := StrongId.valid_of_parse readProfile
  have lossDouble := DoubleText.isDouble_of_parseDouble readLoss
  have osnrDouble := DoubleText.isDouble_of_parseDouble readOsnr
  split_ifs at read with regenerated transparent
  · simp only [bind_eq_ok_iff, pure_eq_ok, Except.ok.injEq] at read
    obtain ⟨_, _, resource, readResource, rfl⟩ := read
    exact ⟨⟨index.toNat_lt, profileValid, lossDouble, osnrDouble, spans.toNat_lt,
      runs.toNat_lt, named_of_resourceKeyFromString readResource⟩, rfl⟩
  · cases read
    exact ⟨⟨index.toNat_lt, profileValid, lossDouble, osnrDouble, spans.toNat_lt,
      runs.toNat_lt, rfl⟩, rfl⟩

theorem readSpanUse_spec {values : List Bytes} {use : PlanSpanUse K}
    (read : readSpanUse numbers values = .ok use) :
    use.Legal numbers ∧ use.ColonFree := by
  unfold readSpanUse at read
  simp only [bind_eq_ok_iff] at read
  obtain ⟨_, _, id, readId, _, _, _, _, fromPort, readFrom, toPort, readTo, _, _,
    reversed, _, read⟩ := read
  split_ifs at read
  simp only [bind_eq_ok_iff] at read
  obtain ⟨_, _, length, _, _, _, loss, readLoss, _, _, osnr, readOsnr, _, _, cost,
    _, _, _, slot, _, read⟩ := read
  have fromSplit := splitPortKey_spec readFrom
  have toSplit := splitPortKey_spec readTo
  have idValid := StrongId.valid_of_parse readId
  have lossDouble := DoubleText.isDouble_of_parseDouble readLoss
  have osnrDouble := DoubleText.isDouble_of_parseDouble readOsnr
  split at read
  · obtain ⟨domains, readDomains, read⟩ := bind_eq_ok_iff.mp read
    cases read
    exact ⟨⟨idValid, fromSplit.1, toSplit.1, lossDouble, osnrDouble, slot.toNat_lt,
      parseDomainList_valid readDomains⟩, fromSplit.2, toSplit.2⟩
  · cases read
    exact ⟨⟨idValid, fromSplit.1, toSplit.1, lossDouble, osnrDouble, slot.toNat_lt,
      by simp⟩, fromSplit.2, toSplit.2⟩

/-- Every record of the plan format adds a legal entry that is read back when
its tokens fit. -/
theorem readPlanField_spec {plan next : PlanArtifact K} {keyword : PlanKeyword}
    {values : List Bytes}
    (read : readPlanField numbers plan keyword values = .ok next) :
    ∃ entry : PlanEntry K, entry.keyword? = some keyword ∧
      entry.Legal numbers ∧ entry.Readable plan.segments.length ∧
        next = PlanEntry.apply plan entry := by
  unfold readPlanField at read
  cases keyword with
  | digest =>
      simp only at read
      split_ifs at read
      obtain ⟨digest, _, read⟩ := bind_eq_ok_iff.mp read
      cases read
      exact ⟨.digest digest, rfl, trivial, trivial, rfl⟩
  | request =>
      simp only at read
      split_ifs at read
      simp only [bind_eq_ok_iff, pure_eq_ok, Except.ok.injEq] at read
      obtain ⟨id, readId, digest, _, rfl⟩ := read
      exact ⟨.request id digest, rfl, trivial, StrongId.valid_of_parse readId, rfl⟩
  | snapshot =>
      simp only at read
      split_ifs at read
      simp only [bind_eq_ok_iff, pure_eq_ok, Except.ok.injEq] at read
      obtain ⟨id, readId, generation, _, digest, _, rfl⟩ := read
      exact ⟨.snapshot id generation digest, rfl, trivial,
        StrongId.valid_of_parse readId, rfl⟩
  | binding =>
      obtain ⟨binding, readParts, read⟩ := bind_eq_ok_iff.mp read
      cases read
      exact ⟨.binding binding, rfl, readBinding_spec readParts, trivial, rfl⟩
  | endpoints =>
      obtain ⟨ends, readParts, read⟩ := bind_eq_ok_iff.mp read
      cases read
      exact ⟨.endpoints ends.1 ends.2, rfl, trivial, readEndpoints_spec readParts,
        rfl⟩
  | channel =>
      simp only [bind_eq_ok_iff, pure_eq_ok, Except.ok.injEq] at read
      obtain ⟨_, _, width, _, rfl⟩ := read
      exact ⟨.channel width.toNat, rfl, width.toNat_lt, trivial, rfl⟩
  | totals =>
      simp only [bind_eq_ok_iff, pure_eq_ok, Except.ok.injEq] at read
      obtain ⟨_, _, cost, _, _, _, distance, _, _, _, loss, readLoss, _, _, hops, _,
        _, _, regenerations, _, rfl⟩ := read
      exact ⟨.totals cost distance loss hops.toNat regenerations.toNat, rfl,
        ⟨DoubleText.isDouble_of_parseDouble readLoss, hops.toNat_lt,
          regenerations.toNat_lt⟩, trivial, rfl⟩
  | step =>
      obtain ⟨step, readParts, read⟩ := bind_eq_ok_iff.mp read
      cases read
      exact ⟨.step step, rfl, readStep_spec readParts, trivial, rfl⟩
  | segment =>
      obtain ⟨segment, readParts, read⟩ := bind_eq_ok_iff.mp read
      cases read
      obtain ⟨legal, noSpans⟩ := readSegment_spec readParts
      refine ⟨.segment segment, rfl, legal, trivial, ?_⟩
      rw [PlanEntry.apply, ← noSpans]
  | segspan =>
      simp only at read
      split_ifs at read
      obtain ⟨index, _, read⟩ := bind_eq_ok_iff.mp read
      split_ifs at read with beyond
      obtain ⟨use, readParts, read⟩ := bind_eq_ok_iff.mp read
      cases read
      obtain ⟨legal, colonFree⟩ := readSpanUse_spec readParts
      exact ⟨.spanUse index.toNat use, rfl, ⟨index.toNat_lt, legal⟩,
        ⟨not_le.mp beyond, colonFree⟩, rfl⟩
  | reservation =>
      obtain ⟨reservation, readParts, read⟩ := bind_eq_ok_iff.mp read
      cases read
      exact ⟨.reservation reservation, rfl, readReservation_spec readParts, trivial,
        rfl⟩
  | capability =>
      obtain ⟨assumption, readParts, read⟩ := bind_eq_ok_iff.mp read
      cases read
      exact ⟨.capability assumption, rfl, readAssumption_spec readParts, trivial,
        rfl⟩
  | quality =>
      obtain ⟨assumption, readParts, read⟩ := bind_eq_ok_iff.mp read
      cases read
      exact ⟨.quality assumption, rfl, readAssumption_spec readParts, trivial, rfl⟩
  | exposure =>
      obtain ⟨exposure, readParts, read⟩ := bind_eq_ok_iff.mp read
      cases read
      exact ⟨.exposure exposure, rfl, readExposure_spec readParts, trivial, rfl⟩

/-- What reading one record does: the header opens an empty plan, any other
record adds an entry under its name. -/
theorem readPlanRecord_spec {reader next : PlanReader K} {number : Nat}
    {values : List Bytes}
    (read : readPlanRecord numbers reader number values = .ok next) :
    (reader.headerSeen = false ∧ tokenAt values 0 = text "OPP-PLAN" ∧
        next = { reader with
          plan := { reader.plan with formatVersion := kPlanFormatVersion }
          headerSeen := true }) ∨
      reader.headerSeen = true ∧ reader.digestSeen = false ∧
        ∃ entry : PlanEntry K,
          tokenAt values 0 = tokenAt (entry.tokens formatDouble) 0 ∧
            entry.Legal numbers ∧
            entry.Readable reader.plan.segments.length ∧
            next = { reader with
              plan := PlanEntry.apply reader.plan entry
              digestSeen := entry.keyword? == some .digest } := by
  unfold readPlanRecord at read
  split_ifs at read with unseen closed rule
  · left
    unfold readPlanHeader at read
    split_ifs at read with shape
    obtain ⟨version, _, read⟩ := bind_eq_ok_iff.mp read
    split_ifs at read with supported
    cases read
    refine ⟨unseen, ?_, ?_⟩
    · have magic : values[0]? = some (text "OPP-PLAN") := by
        by_contra other
        exact shape (.inr other)
      rw [tokenAt, magic]
      rfl
    · rw [not_not.mp supported]
  · right
    obtain ⟨plan, readRule_, read⟩ := bind_eq_ok_iff.mp read
    unfold readRule at readRule_
    obtain ⟨version, _, readRule_⟩ := bind_eq_ok_iff.mp readRule_
    split_ifs at readRule_ with supported
    cases readRule_
    cases read
    refine ⟨by simpa using unseen, by simpa using closed, .rule version.toNat,
      rule, not_not.mp supported, trivial, ?_⟩
    simp [PlanEntry.apply, PlanEntry.keyword?, closed]
  · right
    cases parsed : PlanKeyword.parse (tokenAt values 0) with
    | none => simp [parsed, failAtLine] at read
    | some keyword =>
        simp only [parsed] at read
        obtain ⟨plan, readField, read⟩ := bind_eq_ok_iff.mp read
        cases read
        obtain ⟨entry, named, legal, readable, rfl⟩ :=
          readPlanField_spec (of_failAtLine readField)
        refine ⟨by simpa using unseen, by simpa using closed, entry, ?_, legal,
          readable, ?_⟩
        · rw [PlanEntry.tokenAt_zero named]
          exact (name_of_findName parsed).symm
        · simp [named]

/-! ### What every reachable reader holds -/

theorem forall_mem_modify {α : Type} {holds : α → Prop} {change : α → α}
    {values : List α} {index : Nat} (all : ∀ value ∈ values, holds value)
    (changed : ∀ value ∈ values, holds (change value)) :
    ∀ value ∈ values.modify index change, holds value := by
  induction values generalizing index with
  | nil => simp
  | cons first rest ih =>
      rw [List.forall_mem_cons] at all changed
      cases index with
      | zero => exact List.forall_mem_cons.mpr ⟨changed.1, all.2⟩
      | succ index => exact List.forall_mem_cons.mpr ⟨all.1, ih all.2 changed.2⟩

theorem PlanSegment.Legal.withSpans {segment : PlanSegment K}
    (legal : segment.Legal numbers) (spans : List (PlanSpanUse K)) :
    PlanSegment.Legal numbers { segment with spans := spans } :=
  ⟨legal.index, legal.profile, legal.lossDb, legal.osnrDb, legal.spanCount,
    legal.channelRuns, legal.regeneration⟩

namespace PlanArtifact

theorem forall_mem_entries {holds : PlanEntry K → Prop} {plan : PlanArtifact K} :
    (∀ entry ∈ plan.entries, holds entry) ↔
      holds (.rule plan.ruleVersion) ∧
      holds (.request plan.requestId plan.requestDigest) ∧
      holds (.snapshot plan.snapshotId plan.snapshotGeneration
        plan.snapshotDigest) ∧
      (∀ value ∈ plan.boundSources, holds (.binding value)) ∧
      holds (.endpoints plan.source plan.destination) ∧
      holds (.channel plan.channelWidthSlots) ∧
      holds (.totals plan.totalCost plan.totalDistanceM plan.totalLossDb plan.hops
        plan.regenerations) ∧
      (∀ value ∈ plan.steps, holds (.step value)) ∧
      (∀ value ∈ plan.segments, holds (.segment value) ∧
        ∀ use ∈ value.spans, holds (.spanUse value.index use)) ∧
      (∀ value ∈ plan.reservations, holds (.reservation value)) ∧
      (∀ value ∈ plan.capabilityAssumptions, holds (.capability value)) ∧
      (∀ value ∈ plan.qualityAssumptions, holds (.quality value)) ∧
      (∀ value ∈ plan.failureDomainExposure, holds (.exposure value)) ∧
      holds (.digest plan.digest) := by
  have spans : (∀ entry ∈ plan.segments.flatMap fun segment =>
      segment.spans.map (PlanEntry.spanUse segment.index), holds entry) ↔
      ∀ value ∈ plan.segments, ∀ use ∈ value.spans,
        holds (.spanUse value.index use) := by
    simp only [List.forall_mem_flatMap, List.forall_mem_map]
  simp only [entries, frontEntries, backEntries, List.flatten_cons,
    List.flatten_nil, List.append_nil, List.forall_mem_append,
    List.forall_mem_cons, List.forall_mem_map, List.not_mem_nil, false_implies,
    implies_true, and_true, spans, forall_and]
  tauto

/-- Adding a legal entry to a plan of legal entries. -/
theorem forall_mem_entries_apply {plan : PlanArtifact K} {entry : PlanEntry K}
    (all : ∀ other ∈ plan.entries, other.Legal numbers)
    (legal : entry.Legal numbers) :
    ∀ other ∈ (PlanEntry.apply plan entry).entries, other.Legal numbers := by
  rw [forall_mem_entries] at all ⊢
  obtain ⟨rule, request, snapshot, bindings, endpoints, channel, totals, steps,
    segments, reservations, capabilities, qualities, exposures, digest⟩ := all
  cases entry with
  | segment value =>
      have added : ∀ other ∈ plan.segments ++ [{ value with spans := [] }],
          (PlanEntry.segment other).Legal numbers ∧
            ∀ use ∈ other.spans,
              (PlanEntry.spanUse other.index use).Legal numbers := by
        rw [List.forall_mem_append, List.forall_mem_singleton]
        exact ⟨segments, legal.withSpans [], by simp⟩
      exact ⟨rule, request, snapshot, bindings, endpoints, channel, totals, steps,
        added, reservations, capabilities, qualities, exposures, digest⟩
  | spanUse index use =>
      have extended : ∀ value ∈ plan.segments,
          (PlanEntry.segment { value with
            spans := value.spans ++ [use] }).Legal numbers ∧
            ∀ other ∈ value.spans ++ [use],
              (PlanEntry.spanUse value.index other).Legal numbers := by
        intro value member
        have valueLegal := (segments value member).1
        refine ⟨valueLegal.withSpans _, ?_⟩
        rw [List.forall_mem_append, List.forall_mem_singleton]
        exact ⟨(segments value member).2, valueLegal.index, legal.2⟩
      have added := @forall_mem_modify _ _ _ _ index segments extended
      exact ⟨rule, request, snapshot, bindings, endpoints, channel, totals, steps,
        added, reservations, capabilities, qualities, exposures, digest⟩
  | _ =>
      simp only [PlanEntry.apply, List.forall_mem_append, List.forall_mem_singleton]
      tauto

end PlanArtifact

theorem PlanArtifact.ColonFree.apply {plan : PlanArtifact K} {entry : PlanEntry K}
    {count : Nat} (colonFree : plan.ColonFree) (readable : entry.Readable count) :
    (PlanEntry.apply plan entry).ColonFree := by
  cases entry with
  | segment value =>
      intro segment member
      rcases List.mem_append.mp member with old | new
      · exact colonFree segment old
      · rw [List.mem_singleton.mp new]
        simp
  | spanUse index use =>
      apply forall_mem_modify colonFree
      intro segment member
      rw [List.forall_mem_append, List.forall_mem_singleton]
      exact ⟨colonFree segment member, readable.2⟩
  | _ => exact colonFree

/-- Some record has this name. -/
def Declares (records : List (List Bytes)) (name : String) : Prop :=
  ∃ record ∈ records, tokenAt record 0 = text name

theorem declares_append {records : List (List Bytes)} {values : List Bytes}
    {name : String} :
    Declares (records ++ [values]) name ↔
      Declares records name ∨ tokenAt values 0 = text name := by
  simp [Declares, or_and_right, exists_or]

/-- What reading these records leaves behind. -/
structure PlanReader.Sound (numbers : DoubleText formatDouble)
    (records : List (List Bytes)) (reader : PlanReader K) : Prop where
  formatVersion : reader.plan.formatVersion = kPlanFormatVersion
  legal : ∀ entry ∈ reader.plan.entries, entry.Legal numbers
  colonFree : reader.plan.ColonFree
  requestId : reader.plan.requestId.Valid ↔ Declares records "request"
  snapshotId : reader.plan.snapshotId.Valid ↔ Declares records "snapshot"
  source : reader.plan.source.Valid ↔ Declares records "endpoints"
  destination : reader.plan.destination.Valid ↔ Declares records "endpoints"

theorem PlanReader.Sound.initial [Zero K] (zero : numbers.IsDouble 0) :
    (PlanReader.initial : PlanReader K).Sound numbers [] := by
  have absent : ∀ name, ¬ Declares [] name := by simp [Declares]
  have unnamed : ∀ tag, ¬ (default : StrongId tag).Valid := by
    intro tag
    exact Bool.false_ne_true
  refine ⟨rfl, ?_, by simp [PlanReader.initial, PlanArtifact.blank,
    PlanArtifact.ColonFree], ?_, ?_, ?_, ?_⟩
  · rw [PlanArtifact.forall_mem_entries]
    simp only [PlanReader.initial, PlanArtifact.blank, List.not_mem_nil,
      false_implies, implies_true, PlanEntry.Legal, and_true, true_and]
    exact ⟨rfl, by decide, zero, by decide⟩
  · exact iff_of_false (unnamed _) (absent _)
  · exact iff_of_false (unnamed _) (absent _)
  · exact iff_of_false (fun valid => unnamed _ valid.1) (absent _)
  · exact iff_of_false (fun valid => unnamed _ valid.1) (absent _)

theorem PlanReader.Sound.step {records : List (List Bytes)}
    {reader next : PlanReader K} {number : Nat} {values : List Bytes}
    (sound : reader.Sound numbers records)
    (read : readPlanRecord numbers reader number values = .ok next) :
    next.Sound numbers (records ++ [values]) := by
  rcases readPlanRecord_spec read with ⟨_, magic, rfl⟩ |
    ⟨_, _, entry, named, legal, readable, rfl⟩
  · have unnamed : ∀ name : String, name ≠ "OPP-PLAN" →
        (Declares (records ++ [values]) name ↔ Declares records name) := by
      intro name other
      rw [declares_append, magic, or_iff_left]
      exact fun same => other (text_injective same).symm
    refine ⟨rfl, ?_, sound.colonFree, ?_, ?_, ?_, ?_⟩
    · have all := sound.legal
      rw [PlanArtifact.forall_mem_entries] at all ⊢
      exact all
    · rw [unnamed _ (by decide)]
      exact sound.requestId
    · rw [unnamed _ (by decide)]
      exact sound.snapshotId
    · rw [unnamed _ (by decide)]
      exact sound.source
    · rw [unnamed _ (by decide)]
      exact sound.destination
  · have version : (PlanEntry.apply reader.plan entry).formatVersion =
        kPlanFormatVersion := by
      rw [← sound.formatVersion]
      cases entry <;> rfl
    refine ⟨version,
      PlanArtifact.forall_mem_entries_apply sound.legal legal,
      sound.colonFree.apply readable, ?_, ?_, ?_, ?_⟩ <;>
      rw [declares_append, named]
    · rw [← sound.requestId]
      cases entry with
      | request id hash => exact iff_of_true readable (.inr rfl)
      | _ => simp [PlanEntry.apply, addSpanUse, PlanEntry.tokens,
          PlanEntry.positional, tokenAt, text_injective.eq_iff]
    · rw [← sound.snapshotId]
      cases entry with
      | snapshot id generation hash => exact iff_of_true readable (.inr rfl)
      | _ => simp [PlanEntry.apply, addSpanUse, PlanEntry.tokens,
          PlanEntry.positional, tokenAt, text_injective.eq_iff]
    · rw [← sound.source]
      cases entry with
      | endpoints source destination => exact iff_of_true readable.1 (.inr rfl)
      | _ => simp [PlanEntry.apply, addSpanUse, PlanEntry.tokens,
          PlanEntry.positional, tokenAt, text_injective.eq_iff]
    · rw [← sound.destination]
      cases entry with
      | endpoints source destination => exact iff_of_true readable.2 (.inr rfl)
      | _ => simp [PlanEntry.apply, addSpanUse, PlanEntry.tokens,
          PlanEntry.positional, tokenAt, text_injective.eq_iff]

end Numbers

/-! ### Reading the canonical bytes -/

section Parser

variable {K : Type} [Field K] [LinearOrder K] {runtime : Runtime K}
  {numbers : DoubleText runtime.formatDouble} {plan : PlanArtifact K}

/-- What the reader promises of a plan it accepts. -/
theorem accepted_of_parsePlanArtifact (zero : numbers.IsDouble 0) {bytes : Bytes}
    (accepted : parsePlanArtifact runtime numbers bytes = .ok plan) :
    plan.Legal numbers ∧ plan.ColonFree ∧
      (plan.EndsValid ↔ Declares (textRecords bytes) "request" ∧
        Declares (textRecords bytes) "snapshot" ∧
        Declares (textRecords bytes) "endpoints") := by
  unfold parsePlanArtifact at accepted
  split_ifs at accepted
  obtain ⟨reader, read, accepted⟩ := bind_eq_ok_iff.mp accepted
  obtain ⟨rfl, _, _, complete⟩ := acceptPlan_eq_ok_iff.mp accepted
  have sound : reader.Sound numbers (textRecords bytes) :=
    readRecords_invariant (.initial zero) (fun _ sound read => sound.step read) read
  refine ⟨⟨sound.formatVersion, sound.legal, complete⟩, sound.colonFree, ?_⟩
  rw [← sound.requestId, ← sound.snapshotId]
  constructor
  · intro ends
    exact ⟨ends.requestId, ends.snapshotId, sound.source.mp ends.source⟩
  · rintro ⟨request, snapshot, endpoints⟩
    exact ⟨request, snapshot, sound.source.mpr endpoints,
      sound.destination.mpr endpoints⟩

namespace PlanArtifact.Legal

theorem plainRecords (legal : plan.Legal numbers) :
    ∀ record ∈ plan.records runtime.formatDouble, PlainRecord record := by
  intro record member
  rcases List.mem_cons.mp member with rfl | inEntries
  · exact legal.headerRecord_clean.plain
  · obtain ⟨entry, isEntry, rfl⟩ := List.mem_map.mp inEntries
    exact (legal.entries entry isEntry).plainRecord

/-- The records of a legal plan, read one by one. -/
theorem consumes (legal : plan.Legal numbers) (ends : plan.EndsValid)
    (colonFree : plan.ColonFree) (fits : plan.TokensFit runtime.formatDouble) :
    Consumes (readPlanRecord numbers) .initial
      (plan.records runtime.formatDouble)
      { plan := plan, headerSeen := true, digestSeen := true } := by
  have fitsLine : ∀ entry ∈ plan.entries,
      FitsLine (entry.tokens runtime.formatDouble) :=
    fun entry member => (legal.entries entry member).fitsLine (fits entry member)
  have front : ∀ entry ∈ plan.frontEntries, entry ∈ plan.entries :=
    fun entry member => List.mem_append_left _ (List.mem_append_left _ member)
  have back : ∀ entry ∈ plan.backEntries, entry ∈ plan.entries :=
    fun entry member => List.mem_append_left _ (List.mem_append_right _ member)
  have last : PlanEntry.digest plan.digest ∈ plan.entries :=
    List.mem_append_right _ List.mem_cons_self
  obtain ⟨frontReadable, backReadable⟩ := legal.readable ends colonFree
  have payload := payload plan
  rw [List.forall_mem_append] at payload
  unfold records
  apply Consumes.cons legal.readPlanHeader_eq
  unfold PlanArtifact.entries
  rw [List.map_append, List.map_append]
  refine Consumes.append (Consumes.append
    (PlanEntry.consumes rfl rfl (Nat.zero_le _)
      (fun entry member => legal.entries entry (front entry member)) frontReadable
      (fun entry member => fitsLine entry (front entry member)) payload.1)
    (PlanEntry.consumes rfl rfl ?_
      (fun entry member => legal.entries entry (back entry member)) backReadable
      (fun entry member => fitsLine entry (back entry member)) payload.2))
    (Consumes.single fun number => ?_)
  · simp only [foldl_frontEntries legal.formatVersion, List.length_map, le_refl]
  · have read := @PlanEntry.readPlanRecord_tokens K runtime.formatDouble numbers
      (.digest plan.digest)
    rw [read rfl rfl trivial trivial (fitsLine _ last)]
    have whole := foldl_entries legal.formatVersion legal.complete.segmentIndices
    unfold PlanArtifact.entries at whole
    rw [List.foldl_append, List.foldl_append] at whole
    rw [List.foldl_cons, List.foldl_nil] at whole
    rw [whole]
    rfl

/-- A legal plan is read back from its canonical bytes exactly when its
identifiers are valid and the bytes keep the limits of the reader. -/
theorem parse_canonicalBytes_iff (legal : plan.Legal numbers)
    (zero : numbers.IsDouble 0) :
    parsePlanArtifact runtime numbers
        (plan.canonicalBytes runtime.formatDouble) = .ok plan ↔
      plan.EndsValid ∧ plan.ColonFree ∧ plan.TokensFit runtime.formatDouble ∧
        (plan.canonicalBytes runtime.formatDouble).length ≤
          kMaxPlanArtifactBytes := by
  have plain := legal.plainRecords
  constructor
  · intro read
    obtain ⟨_, colonFree, ends⟩ := accepted_of_parsePlanArtifact zero read
    rw [canonicalBytes_eq, textRecords_flatMap plain] at ends
    have declared : ∀ entry ∈ plan.entries, ∀ name,
        tokenAt (entry.tokens runtime.formatDouble) 0 = text name →
        Declares (plan.records runtime.formatDouble) name := by
      intro entry member name named
      exact ⟨_, List.mem_cons_of_mem _ (List.mem_map_of_mem member), named⟩
    have all := forall_mem_entries.mp declared
    refine ⟨ends.mpr ⟨all.2.1 _ rfl, all.2.2.1 _ rfl, all.2.2.2.2.1 _ rfl⟩,
      colonFree, ?_⟩
    unfold parsePlanArtifact at read
    split_ifs at read with large
    refine ⟨?_, not_lt.mp large⟩
    obtain ⟨reader, read, _⟩ := bind_eq_ok_iff.mp read
    rw [canonicalBytes_eq] at read
    have fits := ((readRecords_flatMap_eq_ok_iff plain).mp read).1
    intro entry member
    exact (fits _ (List.mem_cons_of_mem _ (List.mem_map_of_mem member))).token
  · rintro ⟨ends, colonFree, fits, small⟩
    have clean : ∀ record ∈ plan.records runtime.formatDouble,
        CleanRecord record := by
      intro record member
      rcases List.mem_cons.mp member with rfl | inEntries
      · exact legal.headerRecord_clean
      · obtain ⟨entry, isEntry, rfl⟩ := List.mem_map.mp inEntries
        exact ⟨(legal.entries entry isEntry).plainRecord,
          (legal.entries entry isEntry).fitsLine (fits entry isEntry)⟩
    have read := readRecords_of_consumes clean
      (legal.consumes ends colonFree fits)
    rw [parsePlanArtifact, if_neg (not_lt.mpr small), canonicalBytes_eq, read,
      ok_bind]
    exact acceptPlan_eq_ok_iff.mpr ⟨rfl, rfl, rfl, legal.complete⟩

end PlanArtifact.Legal

/-- An accepted artifact is read again from the canonical bytes of its plan
exactly when it holds the records of both identifiers and of the endpoints and
the canonical bytes keep the limits of the reader. -/
theorem accepted_plan_reread_iff (zero : numbers.IsDouble 0) {bytes : Bytes}
    (accepted : parsePlanArtifact runtime numbers bytes = .ok plan) :
    parsePlanArtifact runtime numbers
        (plan.canonicalBytes runtime.formatDouble) = .ok plan ↔
      (Declares (textRecords bytes) "request" ∧
        Declares (textRecords bytes) "snapshot" ∧
        Declares (textRecords bytes) "endpoints") ∧
      plan.TokensFit runtime.formatDouble ∧
      (plan.canonicalBytes runtime.formatDouble).length ≤
        kMaxPlanArtifactBytes := by
  obtain ⟨legal, colonFree, ends⟩ := accepted_of_parsePlanArtifact zero accepted
  rw [legal.parse_canonicalBytes_iff zero, ends]
  exact and_congr_right fun _ => and_iff_right colonFree

end Parser

/-- A plan of one step whose identifiers are all in place. -/
def boundPlan : PlanArtifact ℚ :=
  let plan := { (PlanArtifact.blank : PlanArtifact ℚ) with
    requestId := ⟨text "r"⟩
    snapshotId := ⟨text "s"⟩
    source := .of "a" "1"
    destination := .of "b" "1"
    steps := [⟨0, .node, ⟨.node, text "a"⟩, 0, 0, 0⟩]
    segments := [⟨0, ⟨text "p"⟩, [], 0, 0, 0, 0, 1, false, default⟩] }
  { plan with digest := rationalRuntime.computePlanDigest plan }

theorem accepted_plan_reread_iff_boundPlan :
    Declares (textRecords
        (boundPlan.canonicalBytes rationalRuntime.formatDouble)) "request" ∧
      boundPlan.TokensFit rationalRuntime.formatDouble := by
  have zero : wholeNumbers.IsDouble 0 := ⟨0, by decide, by norm_num⟩
  have accepted : parsePlanArtifact rationalRuntime wholeNumbers
      (boundPlan.canonicalBytes rationalRuntime.formatDouble) = .ok boundPlan := by
    decide +kernel
  have conditions := (accepted_plan_reread_iff zero accepted).mp accepted
  exact ⟨conditions.1.1, conditions.2.1⟩

/-- An artifact that names no request, no snapshot and no endpoints. -/
def unboundArtifact : Bytes :=
  text "OPP-PLAN 1\n" ++
  text "step 0 kind=node seg=0 reason=0 cost=0 res=node:a\n" ++
  text "segment 0 profile=p runs=1 distance=0 loss=0 osnr=0 spans=0 " ++
  text "end=transparent\n" ++
  text "digest ba1dd93e2a9fcfb35aebd3c12c51129f959ff85f4d63a22a06ada08eb956c568\n"

/-- The unbound artifact is accepted, and the canonical bytes of its plan are
refused: they spell the absent identifiers as empty tokens. -/
theorem unboundArtifact_not_reread :
    ∃ plan, parsePlanArtifact rationalRuntime wholeNumbers unboundArtifact =
        .ok plan ∧
      parsePlanArtifact rationalRuntime wholeNumbers
        (plan.canonicalBytes rationalRuntime.formatDouble) ≠ .ok plan := by
  have runs : ((parsePlanArtifact rationalRuntime wholeNumbers
      unboundArtifact).toOption.map fun plan =>
        (parsePlanArtifact rationalRuntime wholeNumbers
          (plan.canonicalBytes rationalRuntime.formatDouble)).isOk) =
      some false := by decide +kernel
  obtain ⟨plan, accepted, refused⟩ := Option.map_eq_some_iff.mp runs
  refine ⟨plan, ?_, ?_⟩
  · cases read : parsePlanArtifact rationalRuntime wholeNumbers unboundArtifact with
    | error status =>
        rw [read] at accepted
        cases accepted
    | ok other =>
        rw [read] at accepted
        cases accepted
        rfl
  · intro again
    rw [again] at refused
    cases refused

end OpticalPathPlanner
