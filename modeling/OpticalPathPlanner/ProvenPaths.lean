import OpticalPathPlanner.PlanSegments

/-!
# Proven paths and their plans

The search returns arcs, and planning walks them a second time.  The two walks
agree: a proven path visits no port twice, its plan can always be built, and
the plan shows the accumulators of the labels and stays within the published
limits, up to the tolerance of the comparisons.
-/

namespace OpticalPathPlanner

open SortedRanges Traced

variable {K E : Type} [Field K] [LinearOrder K]

/-- The limits of a published profile and of the request on a segment, with a
slack for the values that are compared as decibels. -/
structure SegmentWithinLimits (slack : K) (snapshot : TopologySnapshot K)
    (constraints : ConstraintSet K) (segment : PlanSegment K) : Prop where
  spans : ∀ profile limit,
    snapshot.findReachProfile segment.profile = some profile →
    profile.maxSpanCount.value? = some limit →
    segment.spanCount ≤ limit.toNat
  distance : ∀ profile limit,
    snapshot.findReachProfile segment.profile = some profile →
    profile.maxDistanceM.value? = some limit → segment.distanceM ≤ limit
  loss : ∀ profile limit,
    snapshot.findReachProfile segment.profile = some profile →
    profile.maxLossDb.value? = some limit → segment.lossDb ≤ limit + slack
  osnr : ∀ profile limit,
    snapshot.findReachProfile segment.profile = some profile →
    profile.minOsnrDb.value? = some limit → limit ≤ segment.osnrDb + slack
  requestedOsnr : ∀ floor, constraints.minSegmentOsnrDb = some floor →
    floor ≤ segment.osnrDb + slack

/-- What planning makes of a path with these labels. -/
structure PlansPath (slack : K) (runtime : Runtime K)
    (snapshot : TopologySnapshot K) (request : PlanningRequest K)
    (path : RawPath) (plan : PlanArtifact K) (label : Label K)
    (ancestors : List (Label K)) : Prop where
  walked : ∃ startPort, snapshot.portIndex request.source = some startPort ∧
    (searchContext runtime snapshot request).walk startPort path.arcs =
      some (label :: ancestors)
  arrived : snapshot.portIndex request.destination = some label.portIndex
  settled : path.cost = label.cost ∧ path.hops = label.hops ∧
    path.regenerations = label.regenerations
  portSimple : ((label :: ancestors).map
    (searchContext runtime snapshot request).portKey).Nodup
  stripped : stripCycles snapshot request.source path.arcs = path.arcs
  builds : (searchContext runtime snapshot request).buildPlan request
    (runtime.computeRequestDigest request)
    (stripCycles snapshot request.source path.arcs) = .ok plan
  totals : plan.totalCost = label.cost ∧ plan.hops = label.hops ∧
    plan.regenerations = label.regenerations
  segments : List.Forall₂ (searchContext runtime snapshot request).SegmentOf
    plan.segments ((searchContext runtime snapshot request).segmentEnds
      (label :: ancestors))
  limits : ∀ segment ∈ plan.segments, segment.spanCount ≠ 0 →
    SegmentWithinLimits slack snapshot request.constraints segment

/-- Every span of a segment adds noise. -/
theorem SearchContext.Travelled.noise [IsStrictOrderedRing K]
    {ctx : SearchContext K}
    {rules : RouteRules K} {request : PlanningRequest K} {startPort : Nat}
    {hops : List (Hop K)} {path : List (Label K)} {builder : PlanBuilder K}
    (travelled : ctx.Travelled rules request startPort hops path builder) :
    ∀ label ∈ path, 0 ≤ label.osnrInverse ∧
      (label.spanCount ≠ 0 → 0 < label.osnrInverse) := by
  induction travelled with
  | start started _ _ =>
      intro label member
      rw [List.mem_singleton.mp member, started.label_eq]
      exact ⟨le_rfl, fun some_ => (some_ rfl).elim⟩
  | @span _ current next _ _ index _ _ _ osnr _ before departs step allows proven
      built ih =>
      have earlier := (ih current (List.mem_cons_self ..)).1
      have published : (ctx.spanInfo index).osnrDb = some osnr := by
        rw [spanInfo, built.osnrDb]
        rfl
      have added : next.osnrInverse =
          current.osnrInverse + ctx.runtime.osnrToInverse osnr := by
        rw [step.next_eq]
        simp [published]
      have positive : 0 < next.osnrInverse := by
        rw [added]
        exact add_pos_of_nonneg_of_pos earlier
          (ctx.runtime.osnrToInverse_pos osnr)
      exact List.forall_mem_cons.mpr ⟨⟨positive.le, fun _ => positive⟩, ih⟩
  | @crossConnect _ current next _ _ _ index before departs step allows proven
      built ih =>
      refine List.forall_mem_cons.mpr ⟨?_, ih⟩
      have earlier := ih current (List.mem_cons_self ..)
      rw [step.next_eq]
      cases (ctx.crossConnect index).op with
      | express => exact earlier
      | convert => exact earlier
      | regenerate => exact ⟨le_rfl, fun some_ => (some_ rfl).elim⟩

theorem Runtime.reportedOsnr_eq (runtime : Runtime K) {inverse : K}
    (positive : 0 < inverse) :
    runtime.reportedOsnr inverse = runtime.inverseToOsnr inverse := by
  rw [reportedOsnr, inverseToOsnr, if_neg (not_le.mpr positive),
    if_neg (not_le.mpr positive)]

/-- A segment that shows a judged label is within the limits of its profile,
up to the tolerance. -/
theorem SearchContext.SegmentOf.withinLimits {ctx : SearchContext K}
    {segment : PlanSegment K} {label : Label K}
    (shows : ctx.SegmentOf segment label) (judged : ctx.Judged label)
    (noise : label.spanCount ≠ 0 → 0 < label.osnrInverse)
    (some_ : segment.spanCount ≠ 0) :
    SegmentWithinLimits Runtime.tolerance ctx.snapshot ctx.constraints
      segment := by
  have spanned : label.spanCount ≠ 0 := shows.spanCount ▸ some_
  have within := judged.reach spanned
  have osnr : segment.osnrDb = ctx.runtime.inverseToOsnr label.osnrInverse := by
    rw [shows.osnrDb, ctx.runtime.reportedOsnr_eq (noise spanned)]
  have profileOf {profile : ReachProfile K}
      (found : ctx.snapshot.findReachProfile segment.profile = some profile) :
      ∃ index, label.profileIndex = some index ∧ ctx.profile index = profile := by
    obtain ⟨index, isIndex, atIndex⟩ := Option.bind_eq_some_iff.mp found
    rw [shows.profile] at isIndex
    exact ⟨index, isIndex, by simp [SearchContext.profile, atIndex]⟩
  refine ⟨?_, ?_, ?_, ?_, ?_⟩
  · intro profile limit found limited
    obtain ⟨index, isIndex, rfl⟩ := profileOf found
    rw [shows.spanCount]
    exact within.spans index limit isIndex limited
  · intro profile limit found limited
    obtain ⟨index, isIndex, rfl⟩ := profileOf found
    rw [shows.distanceM]
    exact within.distance index limit isIndex limited
  · intro profile limit found limited
    obtain ⟨index, isIndex, rfl⟩ := profileOf found
    rw [shows.lossDb]
    exact within.loss index limit isIndex limited
  · intro profile limit found limited
    obtain ⟨index, isIndex, rfl⟩ := profileOf found
    rw [osnr]
    exact within.osnr index limit isIndex limited
  · intro floor limited
    rw [osnr]
    exact within.requestedOsnr floor limited

theorem exists_of_forall₂ {α β : Type} {relation : α → β → Prop}
    {left : List α} {right : List β} (related : List.Forall₂ relation left right)
    {value : α} (member : value ∈ left) :
    ∃ other ∈ right, relation value other := by
  induction related with
  | nil => cases member
  | cons first rest ih =>
      rcases List.mem_cons.mp member with rfl | later
      · exact ⟨_, List.mem_cons_self .., first⟩
      · obtain ⟨other, inRest, holds⟩ := ih later
        exact ⟨other, List.mem_cons_of_mem _ inRest, holds⟩

/-! ### Plans of paths -/

section Plans

variable {runtime : Runtime K} {options : PlannerOptions}
  {driver : SearchDriver E} {snapshot : TopologySnapshot K}
  {request : PlanningRequest K}

/-- A search that returns a path has both endpoints. -/
theorem ports_of_returned {env : E} {path : RawPath}
    (returned : path ∈ (runSearch runtime snapshot request options driver
      env).1.paths) :
    ∃ startPort destinationPort,
      snapshot.portIndex request.source = some startPort ∧
        snapshot.portIndex request.destination = some destinationPort := by
  cases source : snapshot.portIndex request.source with
  | none =>
      unfold runSearch at returned
      rw [source] at returned
      cases returned
  | some startPort =>
      cases destination : snapshot.portIndex request.destination with
      | none =>
          unfold runSearch at returned
          rw [source, destination] at returned
          cases returned
      | some destinationPort => exact ⟨startPort, destinationPort, rfl, rfl⟩

/-- A proven path of a search on the request itself is a proven route. -/
theorem travels_of_search (formed : snapshot.WellFormed) {env : E}
    {path : RawPath}
    (returned : path ∈ (runSearch runtime snapshot request options driver
      env).1.paths) (proven : path.proven = true) :
    ∃ hops startPort label ancestors builder,
      Travels runtime snapshot request path.arcs hops startPort label ancestors
        builder ∧
      path.cost = label.cost ∧ path.hops = label.hops ∧
        path.regenerations = label.regenerations := by
  obtain ⟨startPort, destinationPort, source, destination⟩ :=
    ports_of_returned returned
  have ends : SearchEnds runtime snapshot request options driver env startPort
      destinationPort _ := runSearch_ends runtime snapshot request options driver
    env source destination
  generalize runSearch runtime snapshot request options driver env = search
    at ends returned
  cases ends with
  | refused noStart => cases returned
  | cancelled requested => cases returned
  | finished started ran ended =>
      obtain ⟨entry, _, arrived, rfl, walked⟩ := ended.of_mem_paths returned
      have route : ProvenRoute runtime snapshot request entry.arcs :=
        ⟨startPort, entry.label, entry.ancestors, source,
          destination.trans (congrArg some arrived.symm), walked, proven⟩
      obtain ⟨hops, otherPort, label, ancestors, builder, travels⟩ :=
        route.travels formed
      cases source.symm.trans travels.source
      cases travels.rebuilt.walked.symm.trans walked
      exact ⟨hops, startPort, _, _, builder, travels, rfl, rfl, rfl⟩

/-- A proven path of a pass is a proven route of the request. -/
theorem travels_of_pass (formed : snapshot.WellFormed) {exclusions : Exclusions}
    {env : E} {path : RawPath}
    (returned : path ∈ (passSearch runtime options driver snapshot request
      exclusions env).1.paths) (proven : path.proven = true) :
    ∃ hops startPort label ancestors builder,
      Travels runtime snapshot request path.arcs hops startPort label ancestors
        builder ∧
      path.cost = label.cost ∧ path.hops = label.hops ∧
        path.regenerations = label.regenerations := by
  obtain ⟨startPort, destinationPort, source, destination⟩ :=
    ports_of_returned returned
  rw [working_source] at source
  rw [working_destination] at destination
  obtain ⟨label, ancestors, builder, followed, settled⟩ :=
    followed_of_path formed source destination returned proven
  obtain ⟨hops, travels⟩ := followed.travels formed
  exact ⟨hops, startPort, label, ancestors, builder, travels, settled⟩

/-- The plan of a proven route has the totals of its label. -/
theorem Travels.totals {arcs : List ArcRef} {hops : List (Hop K)}
    {startPort : Nat} {label : Label K} {ancestors : List (Label K)}
    {builder : PlanBuilder K}
    (travels : Travels runtime snapshot request arcs hops startPort label ancestors
      builder) (requestDigest : Digest256) {plan : PlanArtifact K}
    (planned : plan = (searchContext runtime snapshot request).finishPlan request
      requestDigest arcs.length builder) :
    plan.totalCost = label.cost ∧ plan.hops = label.hops ∧
      plan.regenerations = label.regenerations := by
  have agrees := travels.travelled.simulates rfl travels.source label rfl
  obtain ⟨cost, regenerations⟩ := finishPlan_totals request
    (searchContext runtime snapshot request) requestDigest arcs.length builder
  subst planned
  refine ⟨cost.trans agrees.cost, ?_, regenerations.trans agrees.regenerations⟩
  rw [finishPlan_hops, ← TopologySnapshot.length_of_hops travels.resolved]
  exact (travels.travelled.withinLimits label rfl).hops_eq.symm

theorem Travels.plan_key {arcs : List ArcRef} {hops : List (Hop K)}
    {startPort : Nat} {label : Label K} {ancestors : List (Label K)}
    {builder : PlanBuilder K}
    (travels : Travels runtime snapshot request arcs hops startPort label ancestors
      builder) (requestDigest : Digest256) {plan : PlanArtifact K}
    (planned : plan = (searchContext runtime snapshot request).finishPlan request
      requestDigest arcs.length builder) : plan.key = label.key := by
  obtain ⟨cost, hopCount, regenerations⟩ := travels.totals requestDigest planned
  rw [PlanArtifact.key, cost, hopCount, regenerations]
  rfl

/-- The plan of a proven route. -/
theorem Travels.plansPath [IsStrictOrderedRing K] (formed : snapshot.WellFormed)
    {path : RawPath} {hops : List (Hop K)} {startPort : Nat} {label : Label K}
    {ancestors : List (Label K)} {builder : PlanBuilder K}
    (travels : Travels runtime snapshot request path.arcs hops startPort label
      ancestors builder)
    (settled : path.cost = label.cost ∧ path.hops = label.hops ∧
      path.regenerations = label.regenerations) :
    PlansPath Runtime.tolerance runtime snapshot request path
      ((searchContext runtime snapshot request).finishPlan request
        (runtime.computeRequestDigest request) path.arcs.length builder) label
      ancestors := by
  have segments := travels.segments (runtime.computeRequestDigest request)
  refine ⟨⟨startPort, travels.source, travels.rebuilt.walked⟩,
    travels.destination, settled, travels.rebuilt.portKeys_nodup travels.source,
    travels.rebuilt.stripCycles_eq travels.source,
    travels.rebuilt.buildPlan_eq formed rfl travels.source travels.destination _,
    travels.totals _ rfl, segments, ?_⟩
  intro segment member some_
  obtain ⟨last, isEnd, shows⟩ := exists_of_forall₂ segments member
  have onPath := SearchContext.mem_of_mem_segmentEnds isEnd
  exact shows.withinLimits (travels.travelled.judged last onPath)
    (travels.travelled.noise last onPath).2 some_

/-- A search between existing endpoints fails only when it is cancelled. -/
theorem SearchEnds.cancelled_of_failed {env : E} {startPort destinationPort : Nat}
    {search : SearchOutcome × E}
    (ends : SearchEnds runtime snapshot request options driver env startPort
      destinationPort search) (failed : search.1.status.failed = true) :
    search.1.status.code = .cancelled := by
  cases ends with
  | refused noStart => cases failed
  | cancelled requested => rfl
  | finished started ran ended => cases failed

theorem exists_plansPath_of_pass [IsStrictOrderedRing K]
    (formed : snapshot.WellFormed) {exclusions : Exclusions} {env : E}
    {path : RawPath}
    (returned : path ∈ (passSearch runtime options driver snapshot request
      exclusions env).1.paths) (proven : path.proven = true) :
    ∃ plan label ancestors, PlansPath Runtime.tolerance runtime snapshot request
      path plan label ancestors := by
  obtain ⟨_, _, label, ancestors, _, travels, settled⟩ :=
    travels_of_pass formed returned proven
  exact ⟨_, label, ancestors, travels.plansPath formed settled⟩

/-- Once planning searches, only the caller can end it early. -/
theorem PassFails.cancelled [IsStrictOrderedRing K]
    (formed : snapshot.WellFormed)
    (searching : earlyOutcome snapshot request = none) {outcome : PlanOutcome}
    (fails : PassFails runtime options driver snapshot request outcome) :
    outcome = .cancelled := by
  obtain ⟨startPort, destinationPort, source, destination⟩ :=
    ports_of_searching searching
  obtain ⟨exclusions, passEnv, ⟨failed, same⟩ |
    ⟨_, path, returned, proven, status, refused⟩⟩ := fails
  · have code := (passSearch_ends exclusions source
      destination).cancelled_of_failed failed
    rw [if_pos code] at same
    exact same
  · obtain ⟨_, _, _, plans⟩ := exists_plansPath_of_pass formed returned proven
    cases plans.builds.symm.trans refused

/-- What the search proves can be planned: every proven path of every search,
with its totals and its segments, and planning is refused for its request
only. -/
theorem proven_paths_planned [IsStrictOrderedRing K]
    (built : IsBuilt runtime snapshot) (env : E) :
    (∀ path ∈ (runSearch runtime snapshot request options driver env).1.paths,
      path.proven = true → ∃ plan label ancestors,
        PlansPath Runtime.tolerance runtime snapshot request path plan label
          ancestors) ∧
    (∀ exclusions, ∀ path ∈ (passSearch runtime options driver snapshot request
        exclusions env).1.paths,
      path.proven = true → ∃ plan label ancestors,
        PlansPath Runtime.tolerance runtime snapshot request path plan label
          ancestors) ∧
    ((plan runtime options driver snapshot request env).1.outcome = .refused →
      ∃ early, earlyOutcome snapshot request = some early ∧
        early.outcome = .refused) := by
  have formed := built.wellFormed
  refine ⟨?_, fun _ _ => exists_plansPath_of_pass formed, ?_⟩
  · intro path returned proven
    obtain ⟨_, _, label, ancestors, _, travels, settled⟩ :=
      travels_of_search formed returned proven
    exact ⟨_, label, ancestors, travels.plansPath formed settled⟩
  · intro refused
    have ends : PlanEnds runtime options driver snapshot request env _ :=
      plan_ends
    generalize plan runtime options driver snapshot request env = run
      at ends refused
    cases ends with
    | @early outcome ends =>
        rw [finaliseResult_outcome] at refused
        exact ⟨outcome, ends, refused⟩
    | failed searching failed =>
        cases refused.symm.trans (failed.outcome.cancelled formed searching)
    | unplanned _ _ _ _ _ outcome =>
        simp only at refused
        rw [outcome] at refused
        split_ifs at refused
    | planned _ _ _ _ _ _ outcome => cases outcome.symm.trans refused

theorem proven_paths_planned_singleSpan :
    ∃ path ∈ (runSearch rationalRuntime (singleSpan.finished rationalRuntime)
        acrossSpan {} .idle ()).1.paths,
      ∃ plan label ancestors, PlansPath Runtime.tolerance rationalRuntime
        (singleSpan.finished rationalRuntime) acrossSpan path plan label
        ancestors := by
  have some_ : ∃ path ∈ (runSearch rationalRuntime
      (singleSpan.finished rationalRuntime) acrossSpan {} .idle ()).1.paths,
      path.proven = true := by decide +kernel
  have built : IsBuilt rationalRuntime (singleSpan.finished rationalRuntime) :=
    isBuilt_finished (by decide +kernel)
  obtain ⟨path, returned, proven⟩ := some_
  have planned := (proven_paths_planned built ()).1 path returned proven
  exact ⟨path, returned, planned⟩

/-- One span that loses half a tolerance more than its profile allows. -/
def lossySpan : SnapshotBuilder ℚ :=
  (SnapshotBuilder.new ⟨text "lossy"⟩ 1 {} {}).submitAll [
    .source { id := ⟨text "nms"⟩ },
    .node (.published "a"), .node (.published "b"),
    .reachProfile (.published "line" 100000 4 20 10),
    .port (.published (.of "a" "1") "line"),
    .port (.published (.of "b" "1") "line"),
    .span (.published "ab" (.of "a" "1") (.of "b" "1") 80000
      (20 + 1 / 2000000000) 30)]

/-- Without the tolerance the limits do not hold. -/
theorem lossySpan_exceeds_limit :
    ¬ ∀ path ∈ (runSearch rationalRuntime (lossySpan.finished rationalRuntime)
        acrossSpan {} .idle ()).1.paths,
      path.proven = true → ∃ plan label ancestors,
        PlansPath 0 rationalRuntime (lossySpan.finished rationalRuntime)
          acrossSpan path plan label ancestors := by
  have some_ : ∃ path ∈ (runSearch rationalRuntime
      (lossySpan.finished rationalRuntime) acrossSpan {} .idle ()).1.paths,
      path.proven = true ∧ path.arcs = [⟨.span, 0, false⟩] := by decide +kernel
  have losses : ((searchContext rationalRuntime
      (lossySpan.finished rationalRuntime) acrossSpan).buildPlan acrossSpan
        (rationalRuntime.computeRequestDigest acrossSpan)
        [⟨.span, 0, false⟩]).toOption.map (fun plan =>
          plan.segments.map fun segment =>
            (segment.profile, segment.spanCount, segment.lossDb)) =
      some [(⟨text "line"⟩, 1, 20 + 1 / 2000000000)] := by decide +kernel
  have limit : ((lossySpan.finished rationalRuntime).findReachProfile
      ⟨text "line"⟩).map (fun profile => profile.maxLossDb.value?) =
      some (some 20) := by decide +kernel
  intro allPlanned
  obtain ⟨path, returned, proven, isSpan⟩ := some_
  obtain ⟨plan, label, ancestors, planned⟩ := allPlanned path returned proven
  have builds := planned.builds
  rw [planned.stripped, isSpan] at builds
  rw [builds, Except.toOption, Option.map_some, Option.some.injEq] at losses
  obtain ⟨segment, single, shown⟩ := List.map_eq_singleton_iff.mp losses
  obtain ⟨isLine, spans, loss⟩ : segment.profile = ⟨text "line"⟩ ∧
      segment.spanCount = 1 ∧ segment.lossDb = 20 + 1 / 2000000000 := by
    simpa using shown
  obtain ⟨profile, found, published⟩ := Option.map_eq_some_iff.mp limit
  have within := planned.limits segment (by simp [single]) (by simp [spans])
  have below := within.loss profile 20 (by rw [isLine, found]) published
  rw [loss] at below
  norm_num at below

end Plans

end OpticalPathPlanner
