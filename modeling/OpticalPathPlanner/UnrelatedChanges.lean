import OpticalPathPlanner.ReproducedPlans

/-!
# Changes that a plan does not notice

Revalidation looks up what the steps and segments of a plan name, and nothing
else.  So a plan that reproduces on the snapshot it was planned on reproduces on
every later one that publishes the same about these resources, whatever was
added, withdrawn or changed elsewhere.
-/

namespace OpticalPathPlanner

variable {K E : Type}

/-! ### What revalidation reads -/

namespace TopologySnapshot

variable (snapshot : TopologySnapshot K)

def portAdmin (key : PortKey) : Option (Evidence AdminState) :=
  (snapshot.findPort key).map PortRecord.admin

def nodeAdmin (id : NodeId) : Option (Evidence AdminState) :=
  (snapshot.findNode id).map NodeRecord.admin

def crossConnectAdmin (id : CrossConnectId) : Option (Evidence AdminState) :=
  (firstWith CrossConnectRecord.id snapshot.crossConnects id).map
    CrossConnectRecord.admin

/-- What is published about the use of a span. -/
def spanUse (id : SpanId) : Option (Evidence AdminState × Evidence SlotMask) :=
  (firstWith SpanRecord.id snapshot.spans id).map fun record =>
    (record.admin, record.blockedSlots)

/-- What a span adds to the sums of its segment. -/
def spanQuality (id : SpanId) :
    Option (Evidence UInt64 × Evidence K × Evidence K) :=
  (firstWith SpanRecord.id snapshot.spans id).map fun record =>
    (record.lengthM, record.lossDb, record.osnrDb)

end TopologySnapshot

/-- The two snapshots publish the same about what the step names. -/
structure PlanStep.Unchanged (snapshot other : TopologySnapshot K) (step : PlanStep) :
    Prop where
  port : step.resource.kind = .port → ∀ parts ∈ cutAt 58 step.resource.text,
    other.portAdmin ⟨⟨parts.1⟩, ⟨parts.2⟩⟩ = snapshot.portAdmin ⟨⟨parts.1⟩, ⟨parts.2⟩⟩
  node : step.resource.kind = .node →
    other.nodeAdmin ⟨step.resource.text⟩ = snapshot.nodeAdmin ⟨step.resource.text⟩
  span : step.resource.kind = .span →
    other.spanUse ⟨step.resource.text⟩ = snapshot.spanUse ⟨step.resource.text⟩
  crossConnect : step.resource.kind = .crossConnect →
    other.crossConnectAdmin ⟨step.resource.text⟩ =
      snapshot.crossConnectAdmin ⟨step.resource.text⟩

/-- The two snapshots publish the same about all that the plan names. -/
structure PlanArtifact.Unchanged (snapshot other : TopologySnapshot K)
    (plan : PlanArtifact K) : Prop where
  slots : other.spectrum.slotCount = snapshot.spectrum.slotCount
  steps : ∀ step ∈ plan.steps, step.Unchanged snapshot other
  segments : ∀ segment ∈ plan.segments, ∀ use ∈ segment.spans,
    other.spanQuality use.id = snapshot.spanQuality use.id

instance (snapshot other : TopologySnapshot K) (step : PlanStep) :
    Decidable (step.Unchanged snapshot other) :=
  decidable_of_iff
    ((step.resource.kind = .port → ∀ parts ∈ cutAt 58 step.resource.text,
        other.portAdmin ⟨⟨parts.1⟩, ⟨parts.2⟩⟩ =
          snapshot.portAdmin ⟨⟨parts.1⟩, ⟨parts.2⟩⟩) ∧
      (step.resource.kind = .node →
        other.nodeAdmin ⟨step.resource.text⟩ = snapshot.nodeAdmin ⟨step.resource.text⟩) ∧
      (step.resource.kind = .span →
        other.spanUse ⟨step.resource.text⟩ = snapshot.spanUse ⟨step.resource.text⟩) ∧
      (step.resource.kind = .crossConnect →
        other.crossConnectAdmin ⟨step.resource.text⟩ =
          snapshot.crossConnectAdmin ⟨step.resource.text⟩))
    ⟨fun ⟨port, node, span, crossConnect⟩ => ⟨port, node, span, crossConnect⟩,
      fun ⟨port, node, span, crossConnect⟩ => ⟨port, node, span, crossConnect⟩⟩

instance [DecidableEq K] (snapshot other : TopologySnapshot K) (plan : PlanArtifact K) :
    Decidable (plan.Unchanged snapshot other) :=
  decidable_of_iff
    (other.spectrum.slotCount = snapshot.spectrum.slotCount ∧
      (∀ step ∈ plan.steps, step.Unchanged snapshot other) ∧
      ∀ segment ∈ plan.segments, ∀ use ∈ segment.spans,
        other.spanQuality use.id = snapshot.spanQuality use.id)
    ⟨fun ⟨slots, steps, segments⟩ => ⟨slots, steps, segments⟩,
      fun ⟨slots, steps, segments⟩ => ⟨slots, steps, segments⟩⟩

section Unchanged

variable {snapshot other : TopologySnapshot K} {plan : PlanArtifact K} {step : PlanStep}

theorem StrongId.eq_of_parse {tag : IdentityTag} {bytes : Bytes} {id : StrongId tag}
    (parsed : StrongId.parse tag bytes = .ok id) : id = ⟨bytes⟩ := by
  obtain ⟨rfl, -⟩ := StrongId.parse_eq_ok_iff.mp parsed
  rfl

/-- Two records that publish the same, if there are any. -/
theorem map_eq_map_cases {Record View : Type} {view : Record → View}
    {left found : Option Record} (same : left.map view = found.map view) :
    (left = none ∧ found = none) ∨ ∃ first second, left = some first ∧
      found = some second ∧ view first = view second := by
  cases left with
  | none =>
      cases found with
      | none => exact .inl ⟨rfl, rfl⟩
      | some second => simp at same
  | some first =>
      cases found with
      | none => simp at same
      | some second => exact .inr ⟨first, second, rfl, rfl, by simpa using same⟩

theorem usableMask_congr {first second : SpectrumModel}
    (slots : first.slotCount = second.slotCount) (blocked : Evidence SlotMask) :
    usableMask first blocked = usableMask second blocked := by
  unfold usableMask
  rw [slots]

theorem stepFailure_unchanged
    (slots : other.spectrum.slotCount = snapshot.spectrum.slotCount)
    (unchanged : step.Unchanged snapshot other) :
    stepFailure other plan step = stepFailure snapshot plan step := by
  unfold stepFailure
  cases kind : step.resource.kind with
  | port =>
      simp only
      cases cut : cutAt 58 step.resource.text with
      | none => rfl
      | some parts =>
          obtain ⟨nodeText, portText⟩ := parts
          cases isNode : StrongId.parse .node nodeText with
          | error _ => simp only [isNode]
          | ok node =>
              cases isPort : StrongId.parse .port portText with
              | error _ => simp only [isNode, isPort]
              | ok port =>
                  obtain rfl := StrongId.eq_of_parse isNode
                  obtain rfl := StrongId.eq_of_parse isPort
                  simp only [isNode, isPort]
                  rcases map_eq_map_cases (unchanged.port kind _ cut) with
                    ⟨gone, absent⟩ | ⟨first, second, found, known, same⟩
                  · simp only [gone, absent]
                  · simp only [found, known, same]
  | node =>
      simp only
      cases isNode : StrongId.parse .node step.resource.text with
      | error _ => rfl
      | ok id =>
          obtain rfl := StrongId.eq_of_parse isNode
          simp only
          rcases map_eq_map_cases (unchanged.node kind) with
            ⟨gone, absent⟩ | ⟨first, second, found, known, same⟩
          · simp only [gone, absent]
          · simp only [found, known, same]
  | span =>
      simp only
      cases isSpan : StrongId.parse .span step.resource.text with
      | error _ => rfl
      | ok id =>
          obtain rfl := StrongId.eq_of_parse isSpan
          simp only
          rcases map_eq_map_cases (unchanged.span kind) with
            ⟨gone, absent⟩ | ⟨first, second, found, known, same⟩
          · simp only [gone, absent]
          · obtain ⟨admin, blocked⟩ := Prod.mk.inj same
            simp only [found, known, admin, blocked, usableMask_congr slots]
  | crossConnect =>
      simp only
      cases isConnect : StrongId.parse .crossConnect step.resource.text with
      | error _ => rfl
      | ok id =>
          obtain rfl := StrongId.eq_of_parse isConnect
          simp only
          rcases map_eq_map_cases (unchanged.crossConnect kind) with
            ⟨gone, absent⟩ | ⟨first, second, found, known, same⟩
          · simp only [gone, absent]
          · simp only [found, known, same]
  | failureDomain | reachProfile | channel | source => rfl

variable [Field K] [LinearOrder K] {runtime : Runtime K}

theorem segmentSums_unchanged {segment : PlanSegment K}
    (unchanged : ∀ use ∈ segment.spans,
      other.spanQuality use.id = snapshot.spanQuality use.id) :
    segmentSums runtime other segment = segmentSums runtime snapshot segment := by
  refine List.foldl_ext _ _ _ fun sums use member => ?_
  unfold SegmentSums.add
  rcases map_eq_map_cases (unchanged use member) with
    ⟨gone, absent⟩ | ⟨first, second, found, known, same⟩
  · simp only [gone, absent]
  · obtain ⟨length, rest⟩ := Prod.mk.inj same
    obtain ⟨loss, osnr⟩ := Prod.mk.inj rest
    simp only [found, known, length, loss, osnr]

/-- Revalidation finds the same failures. -/
theorem failures_unchanged (unchanged : plan.Unchanged snapshot other) :
    plan.steps.filterMap (stepFailure other plan) ++
        plan.segments.filterMap (segmentFailure runtime other) =
      plan.steps.filterMap (stepFailure snapshot plan) ++
        plan.segments.filterMap (segmentFailure runtime snapshot) := by
  congr 1
  · exact List.filterMap_congr fun step member =>
      stepFailure_unchanged unchanged.slots (unchanged.steps step member)
  · refine List.filterMap_congr fun segment member => ?_
    unfold segmentFailure
    rw [segmentSums_unchanged (unchanged.segments segment member)]

end Unchanged

/-! ### What a candidate is bound to -/

section Bindings

variable [Field K] [LinearOrder K] {runtime : Runtime K}

/-- The snapshot is as good as the one a plan was planned on, for those who
validate under the policy. -/
structure TopologySnapshot.StandsFor (current planned : TopologySnapshot K)
    (policy : ValidationPolicy) : Prop where
  admitted : current.freshness = .fresh ∨ policy.acceptRestoredEvidence = true
  digest : current.digest = planned.digest
  sources : ∀ record ∈ planned.sources, current.hasSource record.id = true ∧
    current.sourceGeneration record.id = record.generation

omit [Field K] [LinearOrder K] in
theorem bindingMismatch_eq_none_iff {snapshot : TopologySnapshot K}
    {binding : SourceBinding} :
    bindingMismatch snapshot binding = none ↔
      snapshot.hasSource binding.source = true ∧
        snapshot.sourceGeneration binding.source = binding.generation := by
  unfold bindingMismatch
  cases present : snapshot.hasSource binding.source with
  | false => simp
  | true => simp

theorem boundSources_finishPlan (ctx : SearchContext K) (request : PlanningRequest K)
    (requestDigest : Digest256) (arcCount : Nat) (builder : PlanBuilder K) :
    (ctx.finishPlan request requestDigest arcCount builder).boundSources =
      ctx.snapshot.sources.map fun source => ⟨source.id, source.generation,
        ctx.runtime.sourceContributionDigest ctx.snapshot source.id⟩ :=
  rfl

/-- A candidate is valid against the snapshots that stand for the one it was
planned on, and against no others. -/
theorem candidate_bindings_iff {plannerOptions : PlannerOptions}
    {driver : SearchDriver E} {planned current : TopologySnapshot K}
    {request : PlanningRequest K} {env : E} {candidate : PlanArtifact K}
    (offered : candidate ∈
      (plan runtime plannerOptions driver planned request env).1.candidates)
    (policy : ValidationPolicy) :
    (validatePlanBindings runtime candidate current policy).validity = .valid ↔
      current.StandsFor planned policy := by
  obtain ⟨-, arcs, exclusions, passEnv, path, -, -, -, built⟩ :=
    takesRoute_of_candidate offered
  obtain ⟨-, -, -, builder, -, -, -, -, finished⟩ :=
    SearchContext.run_of_buildPlan built
  have bound : candidate.BoundTo runtime planned := by
    rw [finished]
    exact finishPlan_boundTo (searchContext runtime planned request) request _ _ _
  have sources : candidate.boundSources = planned.sources.map fun source =>
      ⟨source.id, source.generation,
        runtime.sourceContributionDigest planned source.id⟩ := by
    rw [finished, boundSources_finishPlan]
    rfl
  have agree : candidate.boundSources.filterMap (bindingMismatch current) = [] ↔
      ∀ record ∈ planned.sources, current.hasSource record.id = true ∧
        current.sourceGeneration record.id = record.generation := by
    rw [List.filterMap_eq_nil_iff, sources, List.forall_mem_map]
    exact forall₂_congr fun record _ => bindingMismatch_eq_none_iff
  have sealed_ := verifySeal_failed_iff.mpr bound.sealed_
  unfold validatePlanBindings
  simp only [bound.formatVersion, bound.ruleVersion, sealed_, ne_eq, not_true_eq_false,
    or_self, if_false, Bool.false_eq_true]
  split_ifs with restored mismatched same
  · refine iff_of_false (by simp) fun stands => ?_
    rcases stands.admitted with fresh | accepted
    · exact restored.1 fresh
    · simp [accepted] at restored
  · refine iff_of_false (by simp) fun stands => ?_
    rw [agree.mpr stands.sources] at mismatched
    simp at mismatched
  · refine iff_of_true rfl ⟨?_, same.symm.trans bound.digest, ?_⟩
    · by_cases fresh : current.freshness = .fresh
      · exact .inl fresh
      · exact .inr (by simpa [fresh] using restored)
    · exact agree.mp (by simpa using mismatched)
  · refine iff_of_false (by simp) fun stands => ?_
    exact same (bound.digest.trans stands.digest.symm)

/-- A sealed snapshot stands for itself. -/
theorem IsBuilt.standsFor {snapshot : TopologySnapshot K}
    (built : IsBuilt runtime snapshot) {policy : ValidationPolicy}
    (admitted : snapshot.freshness = .fresh ∨ policy.acceptRestoredEvidence = true) :
    snapshot.StandsFor snapshot policy := by
  refine ⟨admitted, rfl, fun record member => ?_⟩
  have kept : bindingMismatch snapshot ⟨record.id, record.generation, ⟨0⟩⟩ = none :=
    bindingMismatch_of_mem built.wellFormed member rfl rfl
  exact bindingMismatch_eq_none_iff.mp kept

end Bindings

/-! ### Candidates elsewhere -/

section Candidates

variable [Field K] [LinearOrder K] {runtime : Runtime K} {options : PlannerOptions}
  {driver : SearchDriver E} {snapshot : TopologySnapshot K} {request : PlanningRequest K}

def stillReproduces : Bytes :=
  text ("bound generations changed, but every plan decision still reproduces " ++
    "against the current snapshot")

/-- A report without failures says of the bindings what it found. -/
theorem revalidatePlan_of_noFailures {plan : PlanArtifact K}
    {other : TopologySnapshot K} {policy : ValidationPolicy}
    (asked : policy.revalidateOnMismatch = true)
    (none_ : plan.steps.filterMap (stepFailure other plan) ++
      plan.segments.filterMap (segmentFailure runtime other) = []) :
    (revalidatePlan runtime plan other policy).validity =
        (validatePlanBindings runtime plan other
          { acceptRestoredEvidence := policy.acceptRestoredEvidence }).validity ∧
      ((revalidatePlan runtime plan other policy).validity ≠ .valid →
        (revalidatePlan runtime plan other policy).status =
          failure .stale stillReproduces) := by
  unfold revalidatePlan
  simp only [asked, Bool.true_eq_false, and_false, if_false, none_, List.isEmpty_nil,
    if_true]
  split_ifs with mismatch
  · exact ⟨rfl, fun _ => rfl⟩
  · exact ⟨rfl, fun differs => absurd differs mismatch⟩

theorem failures_of_asked {plan : PlanArtifact K} {other : TopologySnapshot K}
    {policy : ValidationPolicy} (asked : policy.revalidateOnMismatch = true) :
    (revalidatePlan runtime plan other policy).failures =
      plan.steps.filterMap (stepFailure other plan) ++
        plan.segments.filterMap (segmentFailure runtime other) := by
  unfold revalidatePlan
  simp only [asked, Bool.true_eq_false, and_false, if_false]
  split_ifs <;> rfl

/-- A candidate only notices changes of what it names.  On any snapshot that
publishes the same about its steps and segments as the one it was planned on,
however the rest differs, a revalidation that is asked for finds nothing wrong
exactly when the candidate reproduces at home.  It then reports the candidate valid
if the snapshot stands for the other one, and else that only the bindings have
changed. -/
theorem unrelated_changes_tolerated [IsStrictOrderedRing K]
    (built : IsBuilt runtime snapshot) (keys : snapshot.KeysValid) (env : E)
    (candidate : PlanArtifact K)
    (offered : candidate ∈
      (plan runtime options driver snapshot request env).1.candidates)
    (other : TopologySnapshot K) (unchanged : candidate.Unchanged snapshot other)
    (policy : ValidationPolicy) (asked : policy.revalidateOnMismatch = true) :
    ((revalidatePlan runtime candidate other policy).failures = [] ↔
        Reproduces runtime snapshot candidate) ∧
      (Reproduces runtime snapshot candidate →
        ((revalidatePlan runtime candidate other policy).validity = .valid ↔
            other.StandsFor snapshot policy) ∧
          (¬ other.StandsFor snapshot policy →
            (revalidatePlan runtime candidate other policy).status =
              failure .stale stillReproduces)) := by
  obtain ⟨searching, arcs, takes⟩ := takesRoute_of_candidate offered
  have valid := requestOutcome_eq_none_iff.mp
    (earlyOutcome_eq_none_iff.mp searching).1
  obtain ⟨hops, startPort, label, ancestors, builder, travels, finished⟩ :=
    takes.travels built.wellFormed searching
  have atHome := travels.reproduces_iff built keys valid finished
  have noFailures : candidate.steps.filterMap (stepFailure other candidate) ++
      candidate.segments.filterMap (segmentFailure runtime other) = [] ↔
        Reproduces runtime snapshot candidate := by
    rw [failures_unchanged unchanged, List.append_eq_nil_iff,
      List.filterMap_eq_nil_iff, List.filterMap_eq_nil_iff]
    exact atHome
  have bindings : (validatePlanBindings runtime candidate other
      { acceptRestoredEvidence := policy.acceptRestoredEvidence }).validity = .valid ↔
        other.StandsFor snapshot
          { acceptRestoredEvidence := policy.acceptRestoredEvidence } :=
    candidate_bindings_iff offered _
  have stands : other.StandsFor snapshot
      { acceptRestoredEvidence := policy.acceptRestoredEvidence } ↔
        other.StandsFor snapshot policy :=
    ⟨fun ⟨admitted, digest, sources⟩ => ⟨admitted, digest, sources⟩,
      fun ⟨admitted, digest, sources⟩ => ⟨admitted, digest, sources⟩⟩
  refine ⟨by rw [failures_of_asked asked, noFailures], fun reproduces => ?_⟩
  obtain ⟨same, status⟩ :=
    revalidatePlan_of_noFailures asked (noFailures.mpr reproduces)
  have iff : (revalidatePlan runtime candidate other policy).validity = .valid ↔
      other.StandsFor snapshot policy := by
    rw [same, bindings, stands]
  exact ⟨iff, fun differs => status fun isValid => differs (iff.mp isValid)⟩

end Candidates

/-- The single span, later, with another node beside it. -/
def besideIsland : SnapshotBuilder ℚ :=
  singleSpan.submitAll [.node (.published "c")]

theorem unrelated_changes_tolerated_besideIsland :
    ∃ candidate ∈ (singleSpan.planned acrossSpan).candidates,
      Reproduces rationalRuntime (singleSpan.finished rationalRuntime) candidate ∧
        (revalidatePlan rationalRuntime candidate (besideIsland.finished rationalRuntime)
          { revalidateOnMismatch := true }).status = failure .stale stillReproduces := by
  have reached : (singleSpan.planned acrossSpan).candidates.head?.map (fun candidate =>
      (decide (candidate.Unchanged (singleSpan.finished rationalRuntime)
          (besideIsland.finished rationalRuntime)),
        (revalidatePlan rationalRuntime candidate (besideIsland.finished rationalRuntime)
          { revalidateOnMismatch := true }).failures.isEmpty)) = some (true, true) := by
    decide +kernel
  have differ : (besideIsland.finished rationalRuntime).digest ≠
      (singleSpan.finished rationalRuntime).digest := by
    decide +kernel
  obtain ⟨candidate, first, parts⟩ := Option.map_eq_some_iff.mp reached
  simp only [Prod.mk.injEq, decide_eq_true_eq, List.isEmpty_iff] at parts
  obtain ⟨unchanged, noFailures⟩ := parts
  have offered := List.mem_of_mem_head? first
  have built : IsBuilt rationalRuntime (singleSpan.finished rationalRuntime) :=
    isBuilt_finished (by decide +kernel)
  have keys : (singleSpan.finished rationalRuntime).KeysValid := by
    decide +kernel
  rw [SnapshotBuilder.planned] at offered
  obtain ⟨reproduces, elsewhere⟩ := unrelated_changes_tolerated built keys () candidate
    offered
    (besideIsland.finished rationalRuntime) unchanged { revalidateOnMismatch := true } rfl
  have home := reproduces.mp noFailures
  exact ⟨candidate, List.mem_of_mem_head? first, home,
    (elsewhere home).2 fun stands => differ stands.digest⟩

end OpticalPathPlanner
