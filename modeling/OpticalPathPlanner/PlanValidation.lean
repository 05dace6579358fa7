import OpticalPathPlanner.PlanCodec

/-!
# Validating plans against current evidence

`validatePlanBindings` compares what a plan is bound to with a snapshot and
never looks at a route.  `revalidatePlan` asks every step and every segment of
the plan again, from the resource keys the plan carries.
-/

namespace OpticalPathPlanner

def PlanValidity.name : PlanValidity → Bytes
  | .valid => text "VALID"
  | .stale => text "STALE"
  | .contentMismatch => text "CONTENT_MISMATCH"
  | .missingEvidence => text "MISSING_EVIDENCE"
  | .integrityFailure => text "INTEGRITY_FAILURE"
  | .unsupported => text "UNSUPPORTED"
  | .refused => text "REFUSED"
  | .notFresh => text "NOT_FRESH"

structure SourceMismatch where
  source : SourceId
  bound : Generation
  current : Generation
  present : Bool
deriving DecidableEq, Repr

structure RevalidationFailure where
  stepIndex : Nat
  resource : ResourceKey
  reason : CutReason
  detail : Bytes
deriving DecidableEq, Repr

structure ValidationReport where
  validity : PlanValidity
  status : Status := okStatus
  sourceMismatches : List SourceMismatch := []
  boundSnapshotDigest : Digest256
  currentSnapshotDigest : Digest256
  revalidated : Bool := false
  failures : List RevalidationFailure := []
deriving DecidableEq, Repr

namespace ValidationReport

def boolText (value : Bool) : Bytes := if value then text "true" else text "false"

def mismatchText (mismatch : SourceMismatch) : Bytes :=
  List.flatten [text "source_mismatch ", mismatch.source.str,
    text " bound=", formatU64 mismatch.bound.toNat,
    text " current=", formatU64 mismatch.current.toNat,
    text " present=", boolText mismatch.present, text "\n"]

def failureText (failure : RevalidationFailure) : Bytes :=
  List.flatten [text "failure step=", formatU64 failure.stepIndex,
    text " resource=", failure.resource.toBytes,
    text " reason=", failure.reason.name, text " ", failure.detail, text "\n"]

def explainText (report : ValidationReport) : Bytes :=
  List.flatten [text "validity: ", report.validity.name, text "\n",
    if report.status.failed then
      List.flatten [text "status: ", report.status.code.name, text " ",
        report.status.detail, text "\n"]
    else [],
    text "bound_snapshot_digest: ", report.boundSnapshotDigest.toHex, text "\n",
    text "current_snapshot_digest: ", report.currentSnapshotDigest.toHex,
    text "\n",
    text "revalidated: ", boolText report.revalidated, text "\n",
    report.sourceMismatches.flatMap mismatchText,
    report.failures.flatMap failureText]

end ValidationReport

section Validation

variable {K : Type} [Field K] [LinearOrder K] (runtime : Runtime K)

/-! ### Bindings -/

/-- How a binding compares with the sources of a snapshot, when it differs. -/
def bindingMismatch (snapshot : TopologySnapshot K) (binding : SourceBinding) :
    Option SourceMismatch :=
  let present := snapshot.hasSource binding.source
  let current := if present then snapshot.sourceGeneration binding.source else 0
  if !present || current != binding.generation then
    some ⟨binding.source, binding.generation, current, present⟩
  else
    none

def validatePlanBindings (plan : PlanArtifact K) (snapshot : TopologySnapshot K)
    (policy : ValidationPolicy) : ValidationReport :=
  let seal_ := plan.verifySeal runtime
  let mismatches := plan.boundSources.filterMap (bindingMismatch snapshot)
  let report : ValidationReport := {
    validity := .refused
    boundSnapshotDigest := plan.snapshotDigest
    currentSnapshotDigest := snapshot.digest }
  if plan.formatVersion ≠ kPlanFormatVersion ∨
      plan.ruleVersion ≠ kPlanningRuleVersion then
    { report with
      validity := .unsupported
      status := failure .unsupported (text ("plan was produced by a format or " ++
        "planning rule revision this runtime does not reproduce")) }
  else if seal_.failed then
    { report with validity := .integrityFailure, status := seal_ }
  else if snapshot.freshness ≠ .fresh ∧ policy.acceptRestoredEvidence = false then
    { report with
      validity := .notFresh
      status := failure .stale (text ("the snapshot was restored from " ++
        "persistence and the caller did not accept restored evidence")) }
  else if !mismatches.isEmpty then
    { report with
      validity := .stale
      status := failure .stale (text ("at least one bound evidence generation " ++
        "no longer matches the current snapshot"))
      sourceMismatches := mismatches }
  else if plan.snapshotDigest ≠ snapshot.digest then
    { report with
      validity := .contentMismatch
      status := failure .stale (text ("source generations match but the " ++
        "snapshot content digest changed")) }
  else
    { report with validity := .valid }

/-- Stale evidence validates nothing for those who do not accept it. -/
theorem validatePlanBindings_stale {plan : PlanArtifact K}
    {snapshot : TopologySnapshot K} {policy : ValidationPolicy}
    (stale : snapshot.freshness ≠ .fresh)
    (strict : policy.acceptRestoredEvidence = false) :
    (validatePlanBindings runtime plan snapshot policy).validity ≠ .valid := by
  have refused : snapshot.freshness ≠ .fresh ∧
      policy.acceptRestoredEvidence = false := ⟨stale, strict⟩
  unfold validatePlanBindings
  simp only [if_pos refused]
  split_ifs <;> exact PlanValidity.noConfusion

/-! ### Steps -/

/-- The first record with the given key, in record order. -/
def firstWith {Record Key : Type} [DecidableEq Key] (keyOf : Record → Key)
    (records : List Record) (key : Key) : Option Record :=
  records.find? fun record => decide (keyOf record = key)

/-- The slots of the spectrum that evidence does not block. -/
def usableMask (spectrum : SpectrumModel) (blocked : Evidence SlotMask) :
    SlotMask :=
  let usable :=
    match blocked.value? with
    | some mask => SlotMask.removeBlocked spectrum.slotCount mask
    | none => SlotMask.all spectrum.slotCount
  usable.firstSlotMask 1

/-- The slots a channel takes, numbered as 16-bit words. -/
def Channel.slots (channel : Channel) : SlotMask :=
  (List.range channel.widthSlots).foldl
    (fun mask offset => mask.set ((channel.firstSlot + offset) % 2 ^ 16))
    SlotMask.none

def isUp (admin : Evidence AdminState) : Bool := admin.value? == some .up

/-- What is wrong with a step, if anything is. -/
def stepFailure (snapshot : TopologySnapshot K) (plan : PlanArtifact K)
    (step : PlanStep) : Option RevalidationFailure :=
  let fail (reason : CutReason) (detail : String) : Option RevalidationFailure :=
    some ⟨step.index, step.resource, reason, text detail⟩
  match step.resource.kind with
  | .port =>
      match cutAt 58 step.resource.text with
      | none => fail .none "malformed port resource key"
      | some (nodeText, portText) =>
          match StrongId.parse .node nodeText, StrongId.parse .port portText with
          | .ok node, .ok port =>
              match snapshot.findPort ⟨node, port⟩ with
              | none => fail .unresolvedReference "port is absent from the snapshot"
              | some record =>
                  if isUp record.admin then none
                  else fail .destinationAdminDown
                    "port is not published as administratively up"
          | _, _ => fail .none "malformed port resource key"
  | .node =>
      match StrongId.parse .node step.resource.text with
      | .error _ => fail .none "malformed node resource key"
      | .ok id =>
          match snapshot.findNode id with
          | none => fail .unresolvedReference "node is absent from the snapshot"
          | some record =>
              if isUp record.admin then none
              else fail .destinationAdminDown
                "node is not published as administratively up"
  | .span =>
      match StrongId.parse .span step.resource.text with
      | .error _ => fail .none "malformed span resource key"
      | .ok id =>
          match firstWith SpanRecord.id snapshot.spans id with
          | none => fail .unresolvedReference "span is absent from the snapshot"
          | some record =>
              if !isUp record.admin then
                fail .spanAdminDown "span is not published as administratively up"
              else
                match firstWith PlanReservation.resource plan.reservations
                    step.resource with
                | none => fail .none
                    "plan carries no spectrum requirement for this span"
                | some reservation =>
                    if reservation.channel.slots.isSubsetOf
                        (usableMask snapshot.spectrum record.blockedSlots) then
                      none
                    else fail .portSpectrumEmpty ("the recorded channel is no " ++
                      "longer inside the span's usable spectrum")
  | .crossConnect =>
      match StrongId.parse .crossConnect step.resource.text with
      | .error _ => fail .none "malformed cross-connect resource key"
      | .ok id =>
          match firstWith CrossConnectRecord.id snapshot.crossConnects id with
          | none => fail .unresolvedReference
              "cross-connect is absent from the snapshot"
          | some record =>
              if isUp record.admin then none
              else fail .crossConnectAdminDown
                "cross-connect is not published as administratively up"
  | .failureDomain | .reachProfile | .channel | .source => none

/-! ### Segments -/

/-- What the span uses of a segment add up to against a snapshot. -/
structure SegmentSums (K : Type) where
  distance : UInt64 := 0
  loss : K
  osnrInverse : K
  spans : Nat := 0

def SegmentSums.add (snapshot : TopologySnapshot K) (sums : SegmentSums K)
    (use : PlanSpanUse K) : SegmentSums K :=
  match firstWith SpanRecord.id snapshot.spans use.id with
  | none => sums
  | some record => {
      distance := match record.lengthM.value? with
        | some length => sums.distance + length
        | none => sums.distance
      loss := match record.lossDb.value? with
        | some loss => sums.loss + loss
        | none => sums.loss
      osnrInverse := match record.osnrDb.value? with
        | some osnr => sums.osnrInverse + runtime.osnrToInverse osnr
        | none => sums.osnrInverse
      spans := sums.spans + 1 }

def segmentSums (snapshot : TopologySnapshot K) (segment : PlanSegment K) :
    SegmentSums K :=
  segment.spans.foldl (SegmentSums.add runtime snapshot)
    { loss := 0, osnrInverse := 0 }

def segmentFailure (snapshot : TopologySnapshot K) (segment : PlanSegment K) :
    Option RevalidationFailure :=
  let sums := segmentSums runtime snapshot segment
  let osnr := runtime.reportedOsnr sums.osnrInverse
  if sums.distance ≠ segment.distanceM ∨
      sums.spans % 2 ^ 32 ≠ segment.spanCount ∨
      |sums.loss - segment.lossDb| > Runtime.tolerance ∨
      |osnr - segment.osnrDb| > Runtime.tolerance then
    some ⟨0, .forReachProfile segment.profile, .none, text ("segment accounting " ++
      "does not reproduce against the current snapshot")⟩
  else
    none

/-- Derive every decision of a plan again. -/
def revalidatePlan (plan : PlanArtifact K) (snapshot : TopologySnapshot K)
    (policy : ValidationPolicy) : ValidationReport :=
  let report := validatePlanBindings runtime plan snapshot
    { acceptRestoredEvidence := policy.acceptRestoredEvidence }
  if report.validity ≠ .valid ∧ policy.revalidateOnMismatch = false then report
  else
    let failures := plan.steps.filterMap (stepFailure snapshot plan) ++
      plan.segments.filterMap (segmentFailure runtime snapshot)
    let report := { report with revalidated := true, failures := failures }
    if failures.isEmpty then
      if report.validity ≠ .valid then
        { report with status := failure .stale (text ("bound generations changed, " ++
            "but every plan decision still reproduces against the current " ++
            "snapshot")) }
      else report
    else if report.validity = .valid then
      { report with
        validity := .missingEvidence
        status := failure .internal (text ("plan decisions no longer reproduce " ++
          "against the snapshot it is bound to")) }
    else
      { report with status := failure .stale (text ("plan decisions no longer " ++
          "reproduce against the current snapshot")) }

end Validation

end OpticalPathPlanner
