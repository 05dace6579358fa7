import OpticalPathPlanner.PlanEntries

/-!
# Plans are read back from their text

The entries of a plan put the plan together again.  The canonical bytes of a
legal plan are read back as that plan exactly when its identifiers are valid,
no node of a span use holds a colon, and the text keeps the limits of the
reader.
-/

namespace OpticalPathPlanner

namespace PlanEntry

variable {K : Type}

/-! ### Entries put the plan together again -/

theorem foldl_binding (values : List SourceBinding) (plan : PlanArtifact K) :
    (values.map binding).foldl apply plan =
      { plan with boundSources := plan.boundSources ++ values } := by
  induction values generalizing plan with
  | nil => simp
  | cons value rest ih => simp [apply, ih]

theorem foldl_step (values : List PlanStep) (plan : PlanArtifact K) :
    (values.map step).foldl apply plan =
      { plan with steps := plan.steps ++ values } := by
  induction values generalizing plan with
  | nil => simp
  | cons value rest ih => simp [apply, ih]

theorem foldl_segment (values : List (PlanSegment K)) (plan : PlanArtifact K) :
    (values.map segment).foldl apply plan =
      { plan with segments := plan.segments ++
          values.map fun value => { value with spans := [] } } := by
  induction values generalizing plan with
  | nil => simp
  | cons value rest ih => simp [apply, ih]

theorem foldl_reservation (values : List PlanReservation)
    (plan : PlanArtifact K) :
    (values.map reservation).foldl apply plan =
      { plan with reservations := plan.reservations ++ values } := by
  induction values generalizing plan with
  | nil => simp
  | cons value rest ih => simp [apply, ih]

theorem foldl_capability (values : List PlanAssumption) (plan : PlanArtifact K) :
    (values.map capability).foldl apply plan =
      { plan with
        capabilityAssumptions := plan.capabilityAssumptions ++ values } := by
  induction values generalizing plan with
  | nil => simp
  | cons value rest ih => simp [apply, ih]

theorem foldl_quality (values : List PlanAssumption) (plan : PlanArtifact K) :
    (values.map quality).foldl apply plan =
      { plan with qualityAssumptions := plan.qualityAssumptions ++ values } := by
  induction values generalizing plan with
  | nil => simp
  | cons value rest ih => simp [apply, ih]

theorem foldl_exposure (values : List FailureDomainExposure)
    (plan : PlanArtifact K) :
    (values.map exposure).foldl apply plan =
      { plan with
        failureDomainExposure := plan.failureDomainExposure ++ values } := by
  induction values generalizing plan with
  | nil => simp
  | cons value rest ih => simp [apply, ih]

theorem modify_append_cons {α : Type} (before : List α) (value : α)
    (after : List α) (change : α → α) :
    (before ++ value :: after).modify before.length change =
      before ++ change value :: after := by
  induction before with
  | nil => rfl
  | cons first rest ih => simpa using ih

/-- The span uses of one segment, added to it one by one. -/
theorem foldl_spanUse {before after : List (PlanSegment K)}
    {value : PlanSegment K} {index : Nat} (place : before.length = index)
    (uses start : List (PlanSpanUse K)) (plan : PlanArtifact K) :
    (uses.map (spanUse index)).foldl apply
        { plan with
          segments := before ++ { value with spans := start } :: after } =
      { plan with
        segments := before ++ { value with spans := start ++ uses } :: after } := by
  subst place
  induction uses generalizing start with
  | nil => simp
  | cons use rest ih =>
      rw [List.map_cons, List.foldl_cons, apply, addSpanUse]
      simp only [modify_append_cons]
      rw [ih]
      simp

/-- The span uses of all segments, numbered from zero. -/
theorem foldl_spanUses (before values : List (PlanSegment K))
    (plan : PlanArtifact K)
    (dense : values.map PlanSegment.index =
      List.range' before.length values.length) :
    (values.flatMap fun value =>
        value.spans.map (spanUse value.index)).foldl apply
        { plan with
          segments := before ++ values.map fun value =>
            { value with spans := [] } } =
      { plan with segments := before ++ values } := by
  induction values generalizing before with
  | nil => simp
  | cons value rest ih =>
      rw [List.map_cons, List.length_cons, List.range'_succ,
        List.cons.injEq] at dense
      rw [List.flatMap_cons, List.foldl_append, List.map_cons,
        foldl_spanUse dense.1.symm]
      have next := ih (before ++ [value]) (by simpa using dense.2)
      simpa using next

end PlanEntry

/-! ### The text of a plan -/

namespace PlanArtifact

open LineAssembler PlanEntry

variable {K : Type}

/-- The entries up to the segments. -/
def frontEntries (plan : PlanArtifact K) : List (PlanEntry K) :=
  List.flatten [
    [.rule plan.ruleVersion, .request plan.requestId plan.requestDigest,
      .snapshot plan.snapshotId plan.snapshotGeneration plan.snapshotDigest],
    plan.boundSources.map .binding,
    [.endpoints plan.source plan.destination, .channel plan.channelWidthSlots,
      .totals plan.totalCost plan.totalDistanceM plan.totalLossDb plan.hops
        plan.regenerations],
    plan.steps.map .step,
    plan.segments.map .segment]

/-- The entries behind the segments. -/
def backEntries (plan : PlanArtifact K) : List (PlanEntry K) :=
  List.flatten [
    plan.segments.flatMap fun segment =>
      segment.spans.map (.spanUse segment.index),
    plan.reservations.map .reservation,
    plan.capabilityAssumptions.map .capability,
    plan.qualityAssumptions.map .quality,
    plan.failureDomainExposure.map .exposure]

def entries (plan : PlanArtifact K) : List (PlanEntry K) :=
  plan.frontEntries ++ plan.backEntries ++ [.digest plan.digest]

def headerRecord (plan : PlanArtifact K) : List Bytes :=
  [text "OPP-PLAN", formatU64 plan.formatVersion]

variable (formatDouble : K → Bytes)

def records (plan : PlanArtifact K) : List (List Bytes) :=
  plan.headerRecord :: plan.entries.map (tokens formatDouble)

theorem planStepLine_eq (step : PlanStep) :
    planStepLine step =
      writeRecord ((.step step : PlanEntry K).tokens formatDouble) := by
  simp only [planStepLine, ofRecord_eq, addU64_joinTokens, addKeyU64, addKeyToken,
    addKeyRaw_joinTokens, emit_joinTokens, ne_eq, String.reduceEq,
    not_false_eq_true]
  rfl

theorem planSegmentLine_eq (segment : PlanSegment K) :
    planSegmentLine formatDouble segment =
      writeRecord ((.segment segment : PlanEntry K).tokens formatDouble) := by
  simp only [planSegmentLine, tokens, positional, fields, segmentEnd,
    ofRecord_eq, addU64_joinTokens, addKeyU64, addKeyToken, addKeyRaw_joinTokens,
    ne_eq, String.reduceEq, not_false_eq_true]
  split_ifs <;> rfl

theorem planSpanUseLine_eq (index : Nat) (use : PlanSpanUse K) :
    planSpanUseLine formatDouble index use =
      writeRecord ((.spanUse index use : PlanEntry K).tokens formatDouble) := by
  simp only [planSpanUseLine, tokens, positional, fields, domainFields,
    addDomains, ofRecord_eq, addU64_joinTokens, addKeyU64, addKeyToken,
    addKeyRaw_joinTokens, ne_eq, String.reduceEq, not_false_eq_true]
  split_ifs <;> rfl

theorem planReservationLine_eq (reservation : PlanReservation) :
    planReservationLine reservation =
      writeRecord ((.reservation reservation : PlanEntry K).tokens
        formatDouble) := by
  simp only [planReservationLine, ofRecord_eq, addKeyU64, addKeyToken,
    addKeyRaw_joinTokens, emit_joinTokens, ne_eq, String.reduceEq,
    not_false_eq_true]
  rfl

theorem planAssumptionLine_eq (assumption : PlanAssumption) :
    planAssumptionLine "capability" assumption =
        writeRecord ((.capability assumption : PlanEntry K).tokens
          formatDouble) ∧
      planAssumptionLine "quality" assumption =
        writeRecord ((.quality assumption : PlanEntry K).tokens
          formatDouble) := by
  simp only [planAssumptionLine, ofRecord_eq, addKeyToken, addKeyRaw_joinTokens,
    emit_joinTokens, ne_eq, String.reduceEq, not_false_eq_true]
  exact ⟨rfl, rfl⟩

theorem planExposureLine_eq (exposure : FailureDomainExposure) :
    planExposureLine exposure =
      writeRecord ((.exposure exposure : PlanEntry K).tokens formatDouble) := by
  simp only [planExposureLine, ofRecord_eq, addKeyU64, addKeyToken,
    addKeyRaw_joinTokens, emit_joinTokens, ne_eq, String.reduceEq,
    not_false_eq_true]
  rfl

theorem canonicalBytes_eq (plan : PlanArtifact K) :
    plan.canonicalBytes formatDouble =
      (plan.records formatDouble).flatMap writeRecord := by
  have header : text "OPP-PLAN " ++ formatU64 plan.formatVersion ++ [10] =
      writeRecord plan.headerRecord := by
    have magic : text "OPP-PLAN " = text "OPP-PLAN" ++ [32] := by decide
    rw [magic]
    simp [writeRecord, joinTokens, headerRecord]
  have capability : planAssumptionLine "capability" = fun assumption =>
      writeRecord ((.capability assumption : PlanEntry K).tokens formatDouble) :=
    funext fun assumption => (planAssumptionLine_eq formatDouble assumption).1
  have quality : planAssumptionLine "quality" = fun assumption =>
      writeRecord ((.quality assumption : PlanEntry K).tokens formatDouble) :=
    funext fun assumption => (planAssumptionLine_eq formatDouble assumption).2
  unfold canonicalBytes digestPayload records entries frontEntries backEntries
  rw [header, funext (planStepLine_eq formatDouble),
    funext (planSegmentLine_eq formatDouble),
    funext (planReservationLine_eq formatDouble), capability, quality,
    funext (planExposureLine_eq formatDouble)]
  simp only [ofRecord_eq, add_joinTokens, addU64_joinTokens, addKeyU64,
    addKeyToken, addKeyRaw_joinTokens, emit_joinTokens, ne_eq, String.reduceEq,
    not_false_eq_true, funext (planSpanUseLine_eq formatDouble _)]
  simp only [List.flatten_cons, List.flatten_nil, List.flatMap_append,
    List.map_append, List.flatMap_map, List.flatMap_cons, List.flatMap_nil,
    List.map_map, List.map_cons, List.map_nil, List.map_flatMap,
    List.flatMap_assoc, Function.comp_def, List.append_nil, List.append_assoc]
  rfl

variable {formatDouble}

/-- What the entries up to the segments leave behind. -/
theorem foldl_frontEntries [Zero K] {plan : PlanArtifact K}
    (version : plan.formatVersion = kPlanFormatVersion) :
    plan.frontEntries.foldl apply
        { (blank : PlanArtifact K) with formatVersion := kPlanFormatVersion } =
      { plan with
        segments := plan.segments.map fun segment => { segment with spans := [] }
        reservations := []
        capabilityAssumptions := []
        qualityAssumptions := []
        failureDomainExposure := []
        digest := default } := by
  unfold frontEntries
  simp only [List.foldl_flatten, List.foldl_cons, List.foldl_nil, foldl_binding,
    foldl_step, foldl_segment, apply, blank, List.nil_append, version]

theorem foldl_backEntries {plan start : PlanArtifact K}
    (dense : plan.segments.map PlanSegment.index =
      List.range plan.segments.length)
    (segments : start.segments =
      plan.segments.map fun segment => { segment with spans := [] }) :
    plan.backEntries.foldl apply start =
      { start with
        segments := plan.segments
        reservations := start.reservations ++ plan.reservations
        capabilityAssumptions :=
          start.capabilityAssumptions ++ plan.capabilityAssumptions
        qualityAssumptions := start.qualityAssumptions ++ plan.qualityAssumptions
        failureDomainExposure :=
          start.failureDomainExposure ++ plan.failureDomainExposure } := by
  have spans := foldl_spanUses [] plan.segments start
    (by simpa [List.range_eq_range'] using dense)
  rw [List.nil_append, ← segments] at spans
  unfold backEntries
  simp only [List.foldl_flatten, List.foldl_cons, List.foldl_nil]
  rw [spans, foldl_reservation, foldl_capability, foldl_quality, foldl_exposure]
  rfl

/-- The entries of a plan put a blank plan together again. -/
theorem foldl_entries [Zero K] {plan : PlanArtifact K}
    (version : plan.formatVersion = kPlanFormatVersion)
    (dense : plan.segments.map PlanSegment.index =
      List.range plan.segments.length) :
    plan.entries.foldl apply { (blank : PlanArtifact K) with
      formatVersion := kPlanFormatVersion } = plan := by
  unfold entries
  rw [List.foldl_append, List.foldl_append, foldl_frontEntries version,
    foldl_backEntries dense rfl]
  rfl

end PlanArtifact

/-! ### Accepting a plan -/

section Accepting

variable {K : Type} [Field K] [LinearOrder K] {runtime : Runtime K}
  {numbers : DoubleText runtime.formatDouble}

/-- What the types of the source and the planner promise of a plan. -/
structure PlanArtifact.Legal (numbers : DoubleText runtime.formatDouble)
    (plan : PlanArtifact K) : Prop where
  formatVersion : plan.formatVersion = kPlanFormatVersion
  entries : ∀ entry ∈ plan.entries, entry.Legal numbers
  complete : plan.Complete runtime

/-- The identifiers of the endpoints, the request and the snapshot. -/
structure PlanArtifact.EndsValid (plan : PlanArtifact K) : Prop where
  requestId : plan.requestId.Valid
  snapshotId : plan.snapshotId.Valid
  source : plan.source.Valid
  destination : plan.destination.Valid

def PlanArtifact.ColonFree (plan : PlanArtifact K) : Prop :=
  ∀ segment ∈ plan.segments, ∀ use ∈ segment.spans, use.ColonFree

/-- No token of the canonical text is longer than the tokenizer admits. -/
def PlanArtifact.TokensFit (formatDouble : K → Bytes) (plan : PlanArtifact K) :
    Prop :=
  ∀ entry ∈ plan.entries, ∀ token ∈ entry.tokens formatDouble,
    token.length ≤ kMaxTokenBytes

namespace PlanArtifact.Legal

variable {plan : PlanArtifact K}

theorem headerRecord_clean (legal : plan.Legal numbers) :
    CleanRecord plan.headerRecord := by
  have small : plan.formatVersion < 2 ^ 64 := by
    rw [legal.formatVersion]
    decide
  exact CleanRecord.of_spelled
    (.cons (Spelled.constant (by decide) : Spelled 8 _)
      (.cons (spelled_formatU64 small) .nil)) (by decide)

theorem readPlanHeader_eq (legal : plan.Legal numbers) (number : Nat) :
    readPlanRecord numbers .initial number plan.headerRecord =
      .ok { plan := { (.blank : PlanArtifact K) with
              formatVersion := kPlanFormatVersion }
            headerSeen := true } := by
  have read : parseU32 (formatU64 1) = .ok 1 := parseU32_formatU64_nat (by decide)
  simp [readPlanRecord, readPlanHeader, PlanReader.initial, headerRecord, tokenAt,
    legal.formatVersion, kPlanFormatVersion, read]

theorem readable (legal : plan.Legal numbers) (ends : plan.EndsValid)
    (colonFree : plan.ColonFree) :
    (∀ entry ∈ plan.frontEntries, entry.Readable 0) ∧
      ∀ entry ∈ plan.backEntries, entry.Readable plan.segments.length := by
  constructor
  · simp only [frontEntries, List.flatten_cons, List.flatten_nil,
      List.append_nil, List.forall_mem_append, List.forall_mem_cons,
      List.forall_mem_map, List.not_mem_nil, false_implies, implies_true,
      PlanEntry.Readable, and_true, true_and]
    exact ⟨⟨ends.requestId, ends.snapshotId⟩, ends.source, ends.destination⟩
  · simp only [backEntries, List.flatten_cons, List.flatten_nil,
      List.append_nil, List.forall_mem_append, List.forall_mem_map,
      List.mem_flatMap, implies_true, PlanEntry.Readable, and_true]
    rintro entry ⟨segment, isSegment, inSpans⟩
    obtain ⟨use, isUse, rfl⟩ := List.mem_map.mp inSpans
    refine ⟨?_, colonFree segment isSegment use isUse⟩
    have index : segment.index ∈ plan.segments.map PlanSegment.index :=
      List.mem_map_of_mem isSegment
    rw [legal.complete.segmentIndices, List.mem_range] at index
    exact index

omit [Field K] [LinearOrder K] in
theorem payload (plan : PlanArtifact K) :
    ∀ entry ∈ plan.frontEntries ++ plan.backEntries,
      entry.keyword? ≠ some .digest := by
  simp only [frontEntries, backEntries, List.flatten_cons, List.flatten_nil,
    List.append_nil, List.forall_mem_append, List.forall_mem_cons,
    List.forall_mem_map, List.forall_mem_flatMap, List.not_mem_nil, false_implies,
    implies_true, PlanEntry.keyword?, and_true]
  simp

end PlanArtifact.Legal

end Accepting

end OpticalPathPlanner
