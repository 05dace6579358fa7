import OpticalPathPlanner.RouteDiscovery

/-!
# Outcomes and the routes that exist

What the outcome of planning says about all routes of a request.  Dominance
compares labels, but what a route may still do also depends on the ports it has
visited and on the domain members it has used; conversions and regenerations
make up for a worse label.  So an infeasible outcome and a proven optimum are
right as far as pruning keeps a way to every route, which it does over express
cross-connects and without member limits.
-/

namespace OpticalPathPlanner

open SortedRanges Traced DominanceSearch

variable {K E : Type} [Field K] [LinearOrder K]

/-! ### Searches that prune -/

section Pruning

variable (runtime : Runtime K) (snapshot : TopologySnapshot K)
  (request : PlanningRequest K)

/-- The routes that a search may have settled when it has dropped no route but
for a settled one whose label dominates it, in whatever order it went. -/
def PrunedSearch (settled : List ArcRef → Prop) : Prop :=
  ∃ startPort destinationPort,
    snapshot.portIndex request.source = some startPort ∧
    snapshot.portIndex request.destination = some destinationPort ∧
    Explores ((searchContext runtime snapshot request).Valid startPort)
      ((searchContext runtime snapshot request).Arrives startPort
        destinationPort) settled (fun _ => False)
      ((searchContext runtime snapshot request).Beats startPort) ∧
    settled []

variable {runtime snapshot request}

/-- Pruning keeps a way to a good route exactly when no search that prunes can
miss all of them. -/
theorem keepsRoute_iff {arcs : List ArcRef} {label : Label K}
    (ends : RouteEnds runtime snapshot request arcs label)
    (good : Label K → Prop) :
    KeepsRoute runtime snapshot request good ↔
      ∀ settled, PrunedSearch runtime snapshot request settled →
        ∃ found last, settled found ∧
          RouteEnds runtime snapshot request found last ∧ good last := by
  obtain ⟨startPort, source, destination, _⟩ := ends
  have same : KeepsRoute runtime snapshot request good ↔
      (searchContext runtime snapshot request).SurvivesPruning startPort
        label.portIndex ((searchContext runtime snapshot request).ArrivesWith
          startPort label.portIndex good) := by
    constructor
    · rintro ⟨otherStart, otherTarget, otherSource, otherDestination, survives⟩
      cases otherSource.symm.trans source
      cases otherDestination.symm.trans destination
      exact survives
    · intro survives
      exact ⟨startPort, label.portIndex, source, destination, survives⟩
  rw [same, SearchContext.SurvivesPruning, robust_iff_explores]
  constructor
  · rintro finds settled ⟨otherStart, otherTarget, otherSource,
      otherDestination, explores, rootSettled⟩
    cases otherSource.symm.trans source
    cases otherDestination.symm.trans destination
    obtain ⟨found, isSettled, last, labelled, arrived, isGood⟩ :=
      finds settled explores rootSettled
    exact ⟨found, last, isSettled, ⟨startPort, source,
      destination.trans (congrArg some arrived.symm), labelled⟩, isGood⟩
  · intro finds settled explores rootSettled
    obtain ⟨found, last, isSettled, reached, isGood⟩ := finds settled
      ⟨startPort, label.portIndex, source, destination, explores, rootSettled⟩
    exact ⟨found, isSettled, reached.arrivesWith source destination isGood⟩

end Pruning

section Outcomes

variable {runtime : Runtime K} {options : PlannerOptions}
  {driver : SearchDriver E} {snapshot : TopologySnapshot K}
  {request : PlanningRequest K} {env : E}

/-! ### Infeasible outcomes -/

/-- An infeasible outcome after a search: nothing was returned, nothing was cut
short. -/
theorem no_path_of_infeasible (searching : earlyOutcome snapshot request = none)
    {unproven : Bool}
    (built : firstPlans runtime options driver snapshot request env =
      .ok ([], unproven)) (allProven : unproven = false) :
    (firstSearch runtime options driver snapshot request env).paths = [] := by
  have valid := requestOutcome_eq_none_iff.mp
    (earlyOutcome_eq_none_iff.mp searching).1
  obtain ⟨leftEq, _⟩ := unproven_of_buildPaths_nil (buildBudget_pos valid) built
  simpa [allProven] using leftEq

/-- An infeasible outcome is right when pruning keeps a way to some route
whenever there is one.  It does so over express cross-connects without member
limits, and in general exactly when no search that prunes by dominance can miss
every route. -/
theorem infeasible_sound_of_keepsRoute [IsStrictOrderedRing K]
    (built : IsBuilt runtime snapshot) (env : E) :
    (((∃ arcs label, RouteEnds runtime snapshot request arcs label) →
        KeepsRoute runtime snapshot request fun _ => True) →
      (plan runtime options driver snapshot request env).1.outcome =
        .infeasible →
      ¬ ∃ arcs label, RouteEnds runtime snapshot request arcs label) ∧
    (snapshot.allExpress = true →
      request.constraints.maxMembersPerFailureDomain = [] →
      (∃ arcs label, RouteEnds runtime snapshot request arcs label) →
      KeepsRoute runtime snapshot request fun _ => True) ∧
    ∀ arcs label, RouteEnds runtime snapshot request arcs label →
      (KeepsRoute runtime snapshot request (fun _ => True) ↔
        ∀ settled, PrunedSearch runtime snapshot request settled →
          ∃ found last, settled found ∧
            RouteEnds runtime snapshot request found last) := by
  refine ⟨?_, ?_, ?_⟩
  · intro keeps infeasible exists_
    obtain ⟨arcs, label, startPort, source, destination, _⟩ := id exists_
    have ends : PlanEnds runtime options driver snapshot request env _ := plan_ends
    generalize plan runtime options driver snapshot request env = run
      at ends infeasible
    cases ends with
    | early early =>
        refine ((earlyOutcome_outcome early).2 infeasible).2 ?_
        exact endpointOutcome_eq_none_iff.mpr
          ⟨⟨startPort, source⟩, label.portIndex, destination⟩
    | failed _ failed => exact (failed.outcome.outcome_ne.2 infeasible).elim
    | planned _ _ _ _ _ _ outcome => cases outcome.symm.trans infeasible
    | unplanned searching succeeded noPlan _ _ outcome =>
        rw [outcome] at infeasible
        split_ifs at infeasible with openEnd
        simp only [Bool.or_eq_true, not_or, Bool.not_eq_true] at openEnd
        obtain ⟨⟨⟨allProven, complete⟩, _⟩, _⟩ := openEnd
        have noPath := no_path_of_infeasible searching noPlan allProven
        exact (no_route_of_no_path (firstSearch_ends source destination succeeded)
          complete source destination noPath).2 (keeps exists_)
  · rintro express unlimited ⟨arcs, label, ends⟩
    exact ends.keepsRoute built.wellFormed express unlimited
      (fun _ _ _ => id) trivial
  · intro arcs label ends
    simpa using keepsRoute_iff ends fun _ => True

/-- A request for a better signal than any span offers. -/
def aboveNoise : PlanningRequest ℚ :=
  { acrossSpan with constraints := { minSegmentOsnrDb := some 50 } }

theorem infeasible_sound_of_keepsRoute_singleSpan :
    (singleSpan.planned aboveNoise).outcome = .infeasible ∧
      ¬ ∃ arcs label, RouteEnds rationalRuntime
        (singleSpan.finished rationalRuntime) aboveNoise arcs label := by
  have infeasible : (singleSpan.planned aboveNoise).outcome = .infeasible := by
    decide +kernel
  have built : IsBuilt rationalRuntime (singleSpan.finished rationalRuntime) :=
    isBuilt_finished (by decide +kernel)
  have express : (singleSpan.finished rationalRuntime).allExpress = true := by
    decide +kernel
  refine ⟨infeasible, ?_⟩
  rw [SnapshotBuilder.planned] at infeasible
  obtain ⟨sound, kept, _⟩ := @infeasible_sound_of_keepsRoute ℚ Unit _ _
    rationalRuntime {} .idle (singleSpan.finished rationalRuntime) aboveNoise _
    built ()
  exact sound (kept express rfl) infeasible

/-- Two spans to the middle, of which the cheaper one shares a failure domain
with the only span that leads on. -/
def sharedDomain : SnapshotBuilder ℚ :=
  (SnapshotBuilder.new ⟨text "shared"⟩ 1 {} {}).submitAll [
    .source { id := ⟨text "nms"⟩ },
    .node (.published "a"), .node (.published "b"), .node (.published "m"),
    .reachProfile (.published "line" 100000 4 25 10),
    .port (.published (.of "a" "1") "line"),
    .port (.published (.of "b" "1") "line"),
    .port (.published (.of "m" "1") "line"),
    .span { SpanRecord.published "am1" (.of "a" "1") (.of "m" "1") 40000 10 30
      with cost := 1, failureDomains := [⟨text "fire"⟩] },
    .span { SpanRecord.published "am2" (.of "a" "1") (.of "m" "1") 40000 10 30
      with cost := 2 },
    .span { SpanRecord.published "mb" (.of "m" "1") (.of "b" "1") 40000 10 30
      with failureDomains := [⟨text "fire"⟩] }]

/-- A request that allows one member of the failure domain. -/
def oneInFire : PlanningRequest ℚ :=
  { acrossSpan with
    constraints := { maxMembersPerFailureDomain := [(⟨text "fire"⟩, 1)] } }

/-- The cheaper label at the middle drops the one that could go on. -/
theorem sharedDomain_infeasible_with_route :
    ¬ ((sharedDomain.planned oneInFire).outcome = .infeasible →
      ¬ ∃ arcs label, RouteEnds rationalRuntime
        (sharedDomain.finished rationalRuntime) oneInFire arcs label) := by
  have infeasible : (sharedDomain.planned oneInFire).outcome = .infeasible := by
    decide +kernel
  have route : ProvenRoute rationalRuntime (sharedDomain.finished rationalRuntime)
      oneInFire [⟨.span, 1, false⟩, ⟨.span, 2, false⟩] := by decide +kernel
  intro sound
  obtain ⟨label, ends, _⟩ := provenRoute_iff_exists_ends.mp route
  exact sound infeasible ⟨_, label, ends⟩

/-! ### Optimal candidates -/

/-- A plan stands where its path stood in the search order, and shows a
route. -/
theorem BuildsInto.key_eq [IsStrictOrderedRing K] (formed : snapshot.WellFormed)
    {exclusions : Exclusions} {path : RawPath} {plan : PlanArtifact K}
    (returned : path ∈ (passSearch runtime options driver snapshot request
      exclusions env).1.paths)
    (builds : BuildsInto (searchContext runtime snapshot request) request
      (runtime.computeRequestDigest request) path plan) :
    plan.key = path.key ∧ ∃ label,
      RouteEnds runtime snapshot request path.arcs label ∧
        plan.key = label.key := by
  obtain ⟨hops, startPort, label, ancestors, builder, travels, settled⟩ :=
    travels_of_pass formed returned builds.1
  have plans := travels.plansPath formed settled
  have keyed : plan.key = label.key :=
    travels.plan_key _ (Except.ok.inj (builds.2.symm.trans plans.builds))
  obtain ⟨pathCost, pathHops, pathRegenerations⟩ := settled
  refine ⟨keyed.trans ?_, label, ⟨startPort, travels.source, travels.destination,
    SearchContext.labelAt_of_walk travels.rebuilt.walked⟩, keyed⟩
  rw [RawPath.key, pathCost, pathHops, pathRegenerations]
  rfl

/-- The paths of every pass are in search order. -/
theorem passSearch_paths_sorted (exclusions : Exclusions) (env : E) :
    (passSearch runtime options driver snapshot request exclusions
      env).1.paths.Pairwise fun first second => first.key ≤ second.key := by
  rcases List.eq_nil_or_concat (passSearch runtime options driver snapshot request
    exclusions env).1.paths with noPath | ⟨front, last, some_⟩
  · rw [noPath]
    exact List.Pairwise.nil
  · have returned : last ∈ (passSearch runtime options driver snapshot request
        exclusions env).1.paths := by
      rw [some_]
      simp
    obtain ⟨startPort, destinationPort, source, destination⟩ :=
      ports_of_returned returned
    have ends : SearchEnds runtime snapshot (request.working runtime exclusions)
        options driver env startPort destinationPort
        (passSearch runtime options driver snapshot request exclusions env) :=
      runSearch_ends runtime snapshot _ options driver env source destination
    generalize passSearch runtime options driver snapshot request exclusions env =
      search at ends
    cases ends with
    | refused noStart => exact List.Pairwise.nil
    | cancelled requested => exact List.Pairwise.nil
    | finished started ran ended => exact ended.paths_sorted

/-- The best plan of a pass is no later in the search order than any proven path
of it. -/
theorem best_key_le [IsStrictOrderedRing K] (formed : snapshot.WellFormed)
    {exclusions : Exclusions} {budget : Nat} (room : 0 < budget)
    {plans others : List (PlanArtifact K)} {unproven : Bool}
    {best : PlanArtifact K}
    (built : buildPaths (searchContext runtime snapshot request) request
      (runtime.computeRequestDigest request) budget [] false
      (passSearch runtime options driver snapshot request exclusions
        env).1.paths = .ok (plans, unproven))
    (ordered : runtime.routine.sort planLess plans = best :: others)
    {path : RawPath}
    (returned : path ∈ (passSearch runtime options driver snapshot request
      exclusions env).1.paths) (proven : path.proven = true) :
    best.key ≤ path.key := by
  have sorted : (passSearch runtime options driver snapshot request exclusions
      env).1.paths.Pairwise fun first second => first.key ≤ second.key :=
    passSearch_paths_sorted exclusions env
  -- Building keeps the first proven path, and the paths are in search order.
  obtain ⟨first, found⟩ := Option.isSome_iff_exists.mp
    (List.find?_isSome.mpr ⟨path, returned, proven⟩)
  obtain ⟨firstProven, front, rest, split, skipped⟩ :=
    List.find?_eq_some_iff_append.mp found
  rw [split] at built
  obtain ⟨plan, isPlan, builds⟩ := mem_buildPaths_of_first room
    (fun other member => by simpa using skipped other member) firstProven built
  have inPaths : first ∈ (passSearch runtime options driver snapshot request
      exclusions env).1.paths := by
    rw [split]
    simp
  have keyed := (builds.key_eq formed inPaths).1
  have firstLe : first.key ≤ path.key := by
    rw [split] at returned sorted
    rcases List.mem_append.mp returned with inFront | inRest
    · have impossible := skipped path inFront
      simp [proven] at impossible
    · rcases List.mem_cons.mp inRest with rfl | later
      · exact le_rfl
      · exact (List.pairwise_cons.mp (List.pairwise_append.mp sorted).2.1).1 path
          later
  exact (key_le_of_sort ordered isPlan).trans (keyed.le.trans firstLe)

/-- The path behind the best plan of a pass. -/
theorem exists_path_of_best {ctx : SearchContext K} {requestDigest : Digest256}
    {budget : Nat} {paths : List RawPath} {plans others : List (PlanArtifact K)}
    {unproven : Bool} {best : PlanArtifact K}
    (built : buildPaths ctx request requestDigest budget [] false paths =
      .ok (plans, unproven))
    (ordered : runtime.routine.sort planLess plans = best :: others) :
    ∃ path ∈ paths, BuildsInto ctx request requestDigest path best := by
  have isPlan : best ∈ plans := by
    rw [← (runtime.routine.perm planLess plans).mem_iff, ordered]
    exact List.mem_cons_self ..
  rcases (mem_of_buildPaths built).2 best isPlan with impossible | behind
  · cases impossible
  · exact behind

/-- The best plan of a first pass that was not cut short is no later than any
proven route that pruning keeps. -/
theorem best_key_le_of_keepsRoute [IsStrictOrderedRing K]
    (formed : snapshot.WellFormed)
    (searching : earlyOutcome snapshot request = none)
    (succeeded : (firstSearch runtime options driver snapshot request
      env).status.failed = false)
    (complete : (firstSearch runtime options driver snapshot request
      env).statistics.truncated = false)
    {plans others : List (PlanArtifact K)} {unproven : Bool}
    {best : PlanArtifact K}
    (built : firstPlans runtime options driver snapshot request env =
      .ok (plans, unproven))
    (ordered : runtime.routine.sort planLess plans = best :: others)
    {bound : LabelKey}
    (keeps : KeepsRoute runtime snapshot request (Label.ProvenWithin bound)) :
    best.key ≤ bound := by
  obtain ⟨startPort, destinationPort, source, destination⟩ :=
    ports_of_searching searching
  have ends := firstSearch_ends source destination succeeded
  have valid := requestOutcome_eq_none_iff.mp
    (earlyOutcome_eq_none_iff.mp searching).1
  rcases offers_or_below ends complete source destination keeps with
    ⟨path, returned, proven, within⟩ | below
  · exact (best_key_le formed (buildBudget_pos valid) built ordered returned
      proven).trans within
  · obtain ⟨path, returned, builds⟩ := exists_path_of_best built ordered
    rw [(builds.key_eq formed returned).1]
    exact (below path returned).le

theorem FirstPassEnds.complete_of_provedOptimum {startPort destinationPort : Nat}
    {search : SearchOutcome}
    (ends : FirstPassEnds runtime options driver snapshot request startPort
      destinationPort search) (proved : search.provedOptimum = true) :
    search.statistics.truncated = false := by
  cases ends with
  | refused noRoute => cases proved
  | finished context candidates target rootValid ended =>
      simp only [SearchState.outcome, Bool.and_eq_true,
        Bool.not_eq_true'] at proved
      exact proved.1.1.2

/-- A proven optimum is right about every proven route whose value pruning
keeps a way to.  It keeps one to each of them over express cross-connects
without member limits, and in general exactly when no search that prunes by
dominance can miss every proven route that is as good. -/
theorem optimum_sound_of_keepsRoute [IsStrictOrderedRing K]
    (built : IsBuilt runtime snapshot) (env : E) :
    ((plan runtime options driver snapshot request env).1.outcome = .feasible →
      (plan runtime options driver snapshot request env).1.optimalityProven =
        true →
      ∃ best, (plan runtime options driver snapshot request
          env).1.candidates.head? = some best ∧
        ∀ arcs label, RouteEnds runtime snapshot request arcs label →
          label.proven = true →
          KeepsRoute runtime snapshot request (Label.ProvenWithin label.key) →
          best.key ≤ label.key) ∧
    (snapshot.allExpress = true →
      request.constraints.maxMembersPerFailureDomain = [] →
      ∀ arcs label, RouteEnds runtime snapshot request arcs label →
        label.proven = true →
        KeepsRoute runtime snapshot request (Label.ProvenWithin label.key)) ∧
    ∀ arcs label, RouteEnds runtime snapshot request arcs label →
      (KeepsRoute runtime snapshot request (Label.ProvenWithin label.key) ↔
        ∀ settled, PrunedSearch runtime snapshot request settled →
          ∃ found last, settled found ∧
            RouteEnds runtime snapshot request found last ∧
            last.ProvenWithin label.key) := by
  have formed := built.wellFormed
  refine ⟨?_, ?_, fun _ _ ends => keepsRoute_iff ends _⟩
  · intro feasible optimal
    have ends : PlanEnds runtime options driver snapshot request env _ := plan_ends
    generalize plan runtime options driver snapshot request env = run
      at ends feasible optimal
    cases ends with
    | early early => exact ((earlyOutcome_outcome early).1 feasible).elim
    | failed _ failed => exact (failed.outcome.outcome_ne.1 feasible).elim
    | unplanned _ _ _ _ _ outcome =>
        rw [outcome] at feasible
        split_ifs at feasible
    | @planned result last unproven plans others best searching succeeded
        planned ordered candidates offered outcome optimality =>
        rw [optimality, Bool.and_eq_true] at optimal
        obtain ⟨startPort, destinationPort, source, destination⟩ :=
          ports_of_searching searching
        have complete := (firstSearch_ends source destination
          succeeded).complete_of_provedOptimum optimal.1
        exact ⟨best, candidates, fun arcs label _ _ keeps =>
          best_key_le_of_keepsRoute formed searching succeeded complete planned
            ordered keeps⟩
  · intro express unlimited arcs label ends proven
    exact ends.keepsProven formed express unlimited proven

theorem optimum_sound_of_keepsRoute_singleSpan :
    ∃ best, (singleSpan.planned acrossSpan).candidates.head? = some best ∧
      ∀ arcs label, RouteEnds rationalRuntime
          (singleSpan.finished rationalRuntime) acrossSpan arcs label →
        label.proven = true → best.key ≤ label.key := by
  have feasible : (singleSpan.planned acrossSpan).outcome = .feasible := by
    decide +kernel
  have optimal : (singleSpan.planned acrossSpan).optimalityProven = true := by
    decide +kernel
  have built : IsBuilt rationalRuntime (singleSpan.finished rationalRuntime) :=
    isBuilt_finished (by decide +kernel)
  have express : (singleSpan.finished rationalRuntime).allExpress = true := by
    decide +kernel
  rw [SnapshotBuilder.planned] at feasible optimal ⊢
  obtain ⟨sound, kept, _⟩ := @optimum_sound_of_keepsRoute ℚ Unit _ _
    rationalRuntime {} .idle (singleSpan.finished rationalRuntime) acrossSpan _
    built ()
  obtain ⟨best, first, least⟩ := sound feasible optimal
  exact ⟨best, first, fun arcs label ends proven =>
    least arcs label ends proven (kept express rfl arcs label ends proven)⟩

/-- A span of one kilometre in one direction. -/
def oneWay (id : String) (fromPort toPort : PortKey) (cost : UInt64)
    (blocked : SlotMask) : SpanRecord ℚ :=
  { SpanRecord.published id fromPort toPort 1000 1 60 with
    bidirectional := false
    cost := cost
    blockedSlots := .known blocked }

/-- Two slots, and two ways to a conversion: the cheaper way leads through the
port that the converted channel needs later. -/
def conversionDetour : SnapshotBuilder ℚ :=
  (SnapshotBuilder.new ⟨text "detour"⟩ 1 { slotCount := 2 } {}).submitAll [
    .source { id := ⟨text "nms"⟩ },
    .node (.published "a"), .node (.published "b"), .node (.published "m"),
    .node (.published "x"), .node (.published "y"),
    .reachProfile (.published "line" 100000 9 25 10),
    .port (.published (.of "a" "1") "line"),
    .port (.published (.of "b" "1") "line"),
    .port (.published (.of "m" "1") "line"),
    .port (.published (.of "m" "2") "line"),
    .port (.published (.of "x" "1") "line"),
    .port (.published (.of "y" "1") "line"),
    .span (oneWay "ab" (.of "a" "1") (.of "b" "1") 100 .none),
    .span (oneWay "ax" (.of "a" "1") (.of "x" "1") 1 (SlotMask.none.set 1)),
    .span (oneWay "ay" (.of "a" "1") (.of "y" "1") 2 (SlotMask.none.set 1)),
    .span (oneWay "mx" (.of "m" "2") (.of "x" "1") 1 .none),
    .span (oneWay "xb" (.of "x" "1") (.of "b" "1") 1 (SlotMask.none.set 0)),
    .span (oneWay "xm" (.of "x" "1") (.of "m" "1") 1 .none),
    .span (oneWay "ym" (.of "y" "1") (.of "m" "1") 2 .none),
    .crossConnect (.published "mm" (.of "m" "1") (.of "m" "2") .convert)]

/-- The label over `x` drops the label over `y` before the conversion, but only
the route over `y` may enter `x` behind it. -/
theorem conversionDetour_optimum_missed :
    ¬ ((conversionDetour.finished rationalRuntime).allPublished = true →
      acrossSpan.constraints.maxMembersPerFailureDomain = [] →
      (conversionDetour.planned acrossSpan).outcome = .feasible →
      (conversionDetour.planned acrossSpan).optimalityProven = true →
      ∃ best, (conversionDetour.planned acrossSpan).candidates.head? =
          some best ∧
        ∀ arcs label, RouteEnds rationalRuntime
            (conversionDetour.finished rationalRuntime) acrossSpan arcs label →
          label.proven = true → best.key ≤ label.key) := by
  have published : (conversionDetour.finished rationalRuntime).allPublished =
      true := by decide +kernel
  have feasible : (conversionDetour.planned acrossSpan).outcome = .feasible := by
    decide +kernel
  have optimal : (conversionDetour.planned acrossSpan).optimalityProven =
      true := by decide +kernel
  have offered : (conversionDetour.planned acrossSpan).candidates.head?.map
      PlanArtifact.key = some ⟨100, 1, 0⟩ := by decide +kernel
  have source : (conversionDetour.finished rationalRuntime).portIndex
      acrossSpan.source = some 0 := by decide +kernel
  have route : ((searchContext rationalRuntime
      (conversionDetour.finished rationalRuntime) acrossSpan).labelAt 0
        [⟨.span, 2, false⟩, ⟨.span, 6, false⟩, ⟨.crossConnect, 0, false⟩,
          ⟨.span, 3, false⟩, ⟨.span, 4, false⟩]).map
        (fun label => (label.portIndex, label.proven, label.key)) =
      some (1, true, ⟨6, 5, 0⟩) := by decide +kernel
  have destination : (conversionDetour.finished rationalRuntime).portIndex
      acrossSpan.destination = some 1 := by decide +kernel
  intro sound
  obtain ⟨best, first, least⟩ := sound published rfl feasible optimal
  rw [first, Option.map_some, Option.some.injEq] at offered
  obtain ⟨label, labelled, shown⟩ := Option.map_eq_some_iff.mp route
  obtain ⟨isDestination, proven, keyed⟩ : label.portIndex = 1 ∧
      label.proven = true ∧ label.key = ⟨6, 5, 0⟩ := by simpa using shown
  have below := least _ label
    ⟨0, source, destination.trans (congrArg some isDestination.symm), labelled⟩
    proven
  rw [offered, keyed] at below
  exact absurd below (by decide)

end Outcomes

end OpticalPathPlanner
