import OpticalPathPlanner.PassChains
import OpticalPathPlanner.TransparentPlanning

/-!
# Alternatives of a search

A search stops once it has settled as many labels at the destination as
candidates are asked for.  It counts a label when it settles it and goes on
counting it when a later label of the same key displaces it.  So a result may
have fewer candidates than asked for although routes are left, unless enough
of the routes that a search can settle are neither displaced nor planned
alike.
-/

namespace OpticalPathPlanner

open SortedRanges Traced

variable {K E : Type} [Field K] [LinearOrder K]

/-! ### Listing walks -/

namespace SearchContext

variable (ctx : SearchContext K) (startPort : Nat)

/-- The walks with a number of arcs, each with its path. -/
def walksOf : Nat → List (List ArcRef × List (Label K))
  | 0 => (ctx.walk startPort []).toList.map fun path => ([], path)
  | count + 1 => (walksOf count).flatMap fun walked =>
      (walked.2.head?.toList.flatMap fun label =>
        ctx.outgoingArcs label.portIndex).filterMap fun arc =>
          (ctx.extendPath walked.2 arc).map fun path => (walked.1 ++ [arc], path)

variable {ctx startPort}

theorem mem_walksOf_of_walk {arcs : List ArcRef} {path : List (Label K)}
    (walked : ctx.walk startPort arcs = some path) :
    (arcs, path) ∈ ctx.walksOf startPort arcs.length := by
  induction arcs using List.reverseRecOn generalizing path with
  | nil => simp [walksOf, walked]
  | append_singleton arcs arc ih =>
      obtain ⟨current, ancestors, next, before, rfl, leaves, yielded⟩ :=
        walk_concat.mp walked
      have extended : ctx.extendPath (current :: ancestors) arc =
          some (next :: current :: ancestors) :=
        extendPath_eq_some_iff.mpr
          ⟨current, ancestors, next, rfl, rfl, leaves, yielded⟩
      rw [List.length_append, List.length_singleton, walksOf, List.mem_flatMap]
      refine ⟨_, ih before, List.mem_filterMap.mpr ⟨arc, by simpa using leaves, ?_⟩⟩
      rw [extended]
      rfl

theorem walksOf_eq_nil_of_le {count more : Nat}
    (ended : ctx.walksOf startPort count = []) (longer : count ≤ more) :
    ctx.walksOf startPort more = [] := by
  induction longer with
  | refl => exact ended
  | step _ ih => rw [walksOf, ih, List.flatMap_nil]

/-- When no walk has a number of arcs, the shorter ones are all. -/
theorem length_lt_of_walksOf_eq_nil {count : Nat} {arcs : List ArcRef}
    {path : List (Label K)} (ended : ctx.walksOf startPort count = [])
    (walked : ctx.walk startPort arcs = some path) : arcs.length < count := by
  by_contra longer
  have listed := mem_walksOf_of_walk walked
  rw [walksOf_eq_nil_of_le ended (not_lt.mp longer)] at listed
  cases listed

end SearchContext

section Listing

variable (runtime : Runtime K) (snapshot : TopologySnapshot K)
  (request : PlanningRequest K)

/-- The routes of fewer arcs than the number. -/
def listRoutes (count : Nat) : List (List ArcRef) :=
  match snapshot.portIndex request.source with
  | none => []
  | some startPort =>
      ((List.range count).flatMap
        ((searchContext runtime snapshot request).walksOf startPort)).filterMap
          fun walked =>
            if walked.2.head?.map Label.portIndex =
                snapshot.portIndex request.destination then
              some walked.1
            else none

/-- No walk from the source has that many arcs. -/
def walksEnd (count : Nat) : Bool :=
  match snapshot.portIndex request.source with
  | none => true
  | some startPort =>
      ((searchContext runtime snapshot request).walksOf startPort count).isEmpty

variable {runtime snapshot request}

theorem RouteEnds.mem_listRoutes {count : Nat}
    (ended : walksEnd runtime snapshot request count = true) {arcs : List ArcRef}
    {label : Label K} (ends : RouteEnds runtime snapshot request arcs label) :
    arcs ∈ listRoutes runtime snapshot request count := by
  obtain ⟨startPort, source, destination, labelled⟩ := ends
  obtain ⟨ancestors, walked⟩ := SearchContext.labelAt_eq_some_iff.mp labelled
  simp only [walksEnd, source, List.isEmpty_iff] at ended
  simp only [listRoutes, source, List.mem_filterMap, List.mem_flatMap,
    List.mem_range]
  exact ⟨(arcs, label :: ancestors),
    ⟨_, SearchContext.length_lt_of_walksOf_eq_nil ended walked,
      SearchContext.mem_walksOf_of_walk walked⟩, by simp [destination]⟩

end Listing

/-! ### The plans of a pass -/

section Build

variable {ctx : SearchContext K} {request : PlanningRequest K}
  {requestDigest : Digest256} {budget : Nat}

/-- As long as there is room, every proven path has its plan or one of the
same digest. -/
theorem buildPaths_covers {paths : List RawPath} {built out : List (PlanArtifact K)}
    {unproven left : Bool}
    (finished : buildPaths ctx request requestDigest budget built unproven
      paths = .ok (out, left)) (room : out.length < budget)
    {path : RawPath} (member : path ∈ paths) (proven : path.proven = true) :
    ∃ own, BuildsInto ctx request requestDigest path own ∧
      ∃ plan ∈ out, plan.digest = own.digest := by
  induction paths generalizing built unproven with
  | nil => cases member
  | cons first rest ih =>
      simp only [buildPaths] at finished
      split_ifs at finished with notProven full
      · rcases List.mem_cons.mp member with rfl | inRest
        · simp [proven] at notProven
        · exact ih finished inRest
      · cases finished
        omega
      · split at finished
        · cases finished
        · next plan succeeded =>
            split_ifs at finished with repeated
            · rcases List.mem_cons.mp member with rfl | inRest
              · obtain ⟨other, isBuilt, same⟩ := List.any_eq_true.mp repeated
                exact ⟨plan, ⟨proven, succeeded⟩, other,
                  (mem_of_buildPaths finished).1.subset isBuilt,
                  of_decide_eq_true same⟩
              · exact ih finished inRest
            · rcases List.mem_cons.mp member with rfl | inRest
              · exact ⟨plan, ⟨proven, succeeded⟩, plan,
                  (mem_of_buildPaths finished).1.subset (by simp), rfl⟩
              · exact ih finished inRest

/-- No digest is built twice. -/
theorem buildPaths_distinct {paths : List RawPath}
    {built out : List (PlanArtifact K)} {unproven left : Bool}
    (finished : buildPaths ctx request requestDigest budget built unproven
      paths = .ok (out, left))
    (distinct : built.Pairwise fun first second => first.digest ≠ second.digest) :
    out.Pairwise fun first second => first.digest ≠ second.digest := by
  induction paths generalizing built unproven with
  | nil =>
      cases finished
      exact distinct
  | cons first rest ih =>
      simp only [buildPaths] at finished
      split_ifs at finished with notProven full
      · exact ih finished distinct
      · cases finished
        exact distinct
      · split at finished
        · cases finished
        · next plan succeeded =>
            split_ifs at finished with repeated
            · exact ih finished distinct
            · refine ih finished (List.pairwise_append.mpr
                ⟨distinct, List.pairwise_singleton _ _, ?_⟩)
              intro other isBuilt new isNew same
              rw [List.mem_singleton.mp isNew] at same
              exact repeated (List.any_eq_true.mpr
                ⟨other, isBuilt, decide_eq_true same⟩)

end Build

/-! ### What a search has kept -/

namespace SearchSetup

variable {setup : SearchSetup K E} {startPort : Nat}
  {settled pending : List (SearchLabel K)} {final : SearchState K E}

/-- A settled label at the destination that no other one of its bucket
dominates has its route returned. -/
theorem Ended.returned_of_undominated
    (ended : setup.Ended startPort settled pending final) {done : SearchLabel K}
    (member : done ∈ final.destinationLabels)
    (undominated : ∀ other ∈ final.destinationLabels,
      (other.arcs, other.label) ≠ (done.arcs, done.label) →
      other.label.bucket = done.label.bucket →
      ¬ Label.Dominates other.label done.label) :
    ∃ path ∈ final.paths, path.arcs = done.arcs ∧
      path.proven = done.label.proven := by
  obtain ⟨isSettled, arrived⟩ := ended.mem_destinationLabels.mp member
  obtain ⟨keeper, inBucket, better⟩ := ended.consistent.covered done isSettled
  obtain ⟨keeperSettled, sameBucket, retained⟩ :=
    ended.consistent.buckets _ keeper inBucket
  have keeperMember : keeper ∈ final.destinationLabels :=
    ended.mem_destinationLabels.mpr
      ⟨keeperSettled, (congrArg Prod.fst sameBucket).trans arrived⟩
  have same : (keeper.arcs, keeper.label) = (done.arcs, done.label) := by
    by_contra other
    exact undominated keeper keeperMember other sameBucket better
  obtain ⟨arcs, label⟩ := Prod.mk.inj same
  exact ⟨keeper.rawPath, List.mem_map.mpr ⟨keeper, List.mem_filter.mpr
    ⟨keeperMember, List.contains_iff_mem.mpr retained⟩, rfl⟩, arcs,
    congrArg Label.proven label⟩

end SearchSetup

/-! ### Enough alternatives -/

section Alternatives

variable (runtime : Runtime K) (snapshot : TopologySnapshot K)
  (request : PlanningRequest K)

/-- The plan of a route. -/
def PlansRoute (arcs : List ArcRef) (plan : PlanArtifact K) : Prop :=
  (searchContext runtime snapshot request).buildPlan request
    (runtime.computeRequestDigest request)
    (stripCycles snapshot request.source arcs) = .ok plan

/-- Routes in an order in which a search can settle them: by key, and none
dominated by an earlier one of its bucket. -/
structure SettlesInTurn (routes : List (List ArcRef × Label K)) : Prop where
  ends : ∀ route ∈ routes, RouteEnds runtime snapshot request route.1 route.2
  inOrder : routes.Pairwise fun first second => first.2.key ≤ second.2.key
  undominated : routes.Pairwise fun first second =>
    first.2.bucket = second.2.bucket → ¬ Label.Dominates first.2 second.2

/-- Some way from the source is longer than all of the routes. -/
def SomeWayBeyond (routes : List (List ArcRef × Label K)) : Prop :=
  ∃ startPort arcs label, snapshot.portIndex request.source = some startPort ∧
    (searchContext runtime snapshot request).labelAt startPort arcs = some label ∧
    ∀ route ∈ routes, route.2.key < label.key

/-- As many of the routes as the request asks for are planned differently and
are not dominated by another one. -/
def LeavesEnough (routes : List (List ArcRef × Label K)) : Prop :=
  ∃ kept : List (List ArcRef × Label K),
    request.maxCandidates ≤ kept.length ∧ kept ⊆ routes ∧
    (∀ route ∈ kept, ∀ other ∈ routes, other ≠ route →
      other.2.bucket = route.2.bucket → ¬ Label.Dominates other.2 route.2) ∧
    kept.Pairwise fun first second => ∀ plan other,
      PlansRoute runtime snapshot request first.1 plan →
      PlansRoute runtime snapshot request second.1 other →
      plan.digest ≠ other.digest

variable {runtime snapshot request} {options : PlannerOptions}
  {driver : SearchDriver E} {env : E}

/-- No route is settled twice. -/
theorem SettlesInTurn.arcs_nodup {routes : List (List ArcRef × Label K)}
    (inTurn : SettlesInTurn runtime snapshot request routes) :
    (routes.map Prod.fst).Nodup := by
  refine List.pairwise_map.mpr (inTurn.undominated.imp_of_mem ?_)
  intro first second isFirst isSecond undominated same
  obtain ⟨startPort, source, _, labelled⟩ := inTurn.ends first isFirst
  obtain ⟨otherPort, otherSource, _, otherLabelled⟩ := inTurn.ends second isSecond
  cases otherSource.symm.trans source
  rw [same, otherLabelled] at labelled
  obtain label := Option.some.inj labelled
  rw [label] at undominated
  exact undominated rfl (Label.Dominates.refl _)

/-- The candidates of a request that is searched once. -/
theorem candidates_of_single (single : request.iterative = false)
    (feasible : (plan runtime options driver snapshot request env).1.outcome =
      .feasible) :
    ∃ plans unproven, earlyOutcome snapshot request = none ∧
      (firstSearch runtime options driver snapshot request
        env).status.failed = false ∧
      firstPlans runtime options driver snapshot request env =
        .ok (plans, unproven) ∧
      (plan runtime options driver snapshot request env).1.candidates =
        (runtime.routine.sort planLess plans).take request.maxCandidates := by
  have ends : PlanEnds runtime options driver snapshot request env _ := plan_ends
  generalize same : plan runtime options driver snapshot request env = run
    at ends feasible ⊢
  cases ends with
  | early ends => exact ((earlyOutcome_outcome ends).1 feasible).elim
  | failed _ failed => exact (failed.outcome.outcome_ne.1 feasible).elim
  | unplanned _ _ _ _ _ outcome =>
      simp only at feasible
      rw [outcome] at feasible
      split_ifs at feasible
  | @planned result last unproven plans others best searching succeeded built
      ordered =>
      refine ⟨plans, unproven, searching, succeeded, built, ?_⟩
      rw [← same, plan_of_single single searching]
      have pass : buildPaths (searchContext runtime snapshot request) request
          (firstState runtime options driver snapshot request
            env).result.requestDigest request.buildBudget [] false
          (firstSearch runtime options driver snapshot request env).paths =
            .ok (plans, unproven) := built
      simp only [afterSearch, succeeded, Bool.false_eq_true, if_false, pass,
        ordered, single]
      rw [finishPasses, finaliseResult_candidates, classify_candidates]
      rfl

/-- Routes that are planned differently have no more plans than there are. -/
theorem length_le_of_planned {plans : List (PlanArtifact K)}
    {kept : List (List ArcRef × Label K)}
    (differ : kept.Pairwise fun first second => ∀ plan other,
      PlansRoute runtime snapshot request first.1 plan →
      PlansRoute runtime snapshot request second.1 other →
      plan.digest ≠ other.digest)
    (planned : ∀ route ∈ kept, ∃ own, PlansRoute runtime snapshot request
      route.1 own ∧ ∃ plan ∈ plans, plan.digest = own.digest) :
    kept.length ≤ plans.length := by
  have digests : ∀ route ∈ kept, ∃ digest ∈ plans.map PlanArtifact.digest,
      ∃ own, PlansRoute runtime snapshot request route.1 own ∧
        own.digest = digest := by
    intro route isKept
    obtain ⟨own, plansRoute, plan, isPlan, same⟩ := planned route isKept
    exact ⟨own.digest, List.mem_map.mpr ⟨plan, isPlan, same⟩, own, plansRoute, rfl⟩
  have : Nonempty Digest256 := ⟨⟨0⟩⟩
  choose! digest among owned using digests
  have distinct : (kept.map digest).Nodup := by
    refine List.pairwise_map.mpr (differ.imp_of_mem ?_)
    intro first second isFirst isSecond apart
    obtain ⟨plan, plansFirst, firstDigest⟩ := owned first isFirst
    obtain ⟨other, plansSecond, secondDigest⟩ := owned second isSecond
    rw [← firstDigest, ← secondDigest]
    exact apart plan other plansFirst plansSecond
  have subset : kept.map digest ⊆ plans.map PlanArtifact.digest := by
    intro entry member
    obtain ⟨route, isKept, rfl⟩ := List.mem_map.mp member
    exact among route isKept
  simpa using (List.subperm_of_subset distinct subset).length_le

/-- The main loop of a first pass with a path came to an end. -/
theorem firstPass_ran {startPort destinationPort : Nat}
    (source : snapshot.portIndex request.source = some startPort)
    (destination : snapshot.portIndex request.destination = some destinationPort)
    (succeeded : (firstSearch runtime options driver snapshot request
      env).status.failed = false)
    (some_ : (firstSearch runtime options driver snapshot request env).paths ≠ []) :
    ∃ final settled pending,
      FirstPassRan runtime options driver snapshot request env final ∧
      (searchSetup runtime snapshot (request.working runtime {}) options driver
        destinationPort).Ended startPort settled pending final := by
  have ends : SearchEnds runtime snapshot (request.working runtime {}) options
      driver env startPort destinationPort
      (passSearch runtime options driver snapshot request {} env) :=
    passSearch_ends {} source destination
  unfold firstSearch at succeeded some_
  generalize passSearch runtime options driver snapshot request {} env = search
    at succeeded some_ ends
  cases ends with
  | refused noStart => exact (some_ rfl).elim
  | cancelled requested => cases succeeded
  | @finished _ final settled pending started ran ended =>
      exact ⟨final, settled, pending,
        ⟨startPort, destinationPort, _, source, destination, started, ran⟩, ended⟩

/-- A first pass that was not cut short has drained its queue, or settled
enough routes in turn and returned those that no other one dominates. -/
theorem drained_or_settles {startPort destinationPort : Nat}
    {settled pending : List (SearchLabel K)} {final : SearchState K E}
    (ended : (searchSetup runtime snapshot (request.working runtime {}) options
      driver destinationPort).Ended startPort settled pending final)
    (complete : final.truncated = false)
    (source : snapshot.portIndex request.source = some startPort)
    (destination :
      snapshot.portIndex request.destination = some destinationPort) :
    (final.frontier = [] ∧ final.stoppedOnKey = false) ∨ ∃ routes,
      SettlesInTurn runtime snapshot request routes ∧
      SomeWayBeyond runtime snapshot request routes ∧
      (request.working runtime {}).maxCandidates ≤ routes.length ∧
      ∀ route ∈ routes, (∀ other ∈ routes, other ≠ route →
          other.2.bucket = route.2.bucket →
          ¬ Label.Dominates other.2 route.2) →
        ∃ path ∈ final.paths, path.arcs = route.1 := by
  rcases ended.reason with truncated | ⟨goesOn, queue, _⟩ |
    ⟨_, key, last, enough, open_, later⟩
  · rw [complete] at truncated
    cases truncated
  · exact .inl ⟨queue, goesOn⟩
  · refine .inr ⟨final.destinationLabels.map fun done => (done.arcs, done.label),
      ⟨?_, ?_, ?_⟩, ?_, ?_, ?_⟩
    · simp only [List.forall_mem_map]
      intro done member
      obtain ⟨isSettled, arrived⟩ := ended.mem_destinationLabels.mp member
      have labelled :=
        ended.consistent.labelAt (List.mem_append_left _ isSettled)
      refine ⟨startPort, source, destination.trans (congrArg some arrived.symm), ?_⟩
      rw [← searchContext_working_empty]
      exact labelled
    · exact List.pairwise_map.mpr ended.destinations_sorted
    · exact List.pairwise_map.mpr ended.destinations_undominated
    · obtain ⟨waiting, isPending⟩ := List.exists_mem_of_ne_nil _ open_
      have labelled :=
        ended.consistent.labelAt (List.mem_append_right _ isPending)
      refine ⟨startPort, waiting.arcs, waiting.label, source, ?_, ?_⟩
      · rw [← searchContext_working_empty]
        exact labelled
      · simp only [List.forall_mem_map]
        intro done member
        exact (ended.key_le_last last member).trans_lt (later waiting isPending)
    · rw [List.length_map, ← ended.tracked.count]
      exact enough
    · simp only [List.forall_mem_map]
      intro done member undominated
      obtain ⟨path, returned, arcs, _⟩ :=
        ended.returned_of_undominated member undominated
      exact ⟨path, returned, arcs⟩

/-- A path of a first pass is a route. -/
theorem FirstPassEnds.route_of_path {startPort destinationPort : Nat}
    {search : SearchOutcome}
    (ends : FirstPassEnds runtime options driver snapshot request startPort
      destinationPort search)
    (source : snapshot.portIndex request.source = some startPort)
    (destination :
      snapshot.portIndex request.destination = some destinationPort)
    {path : RawPath} (returned : path ∈ search.paths) :
    ∃ label, RouteEnds runtime snapshot request path.arcs label ∧
      path.proven = label.proven := by
  cases ends with
  | refused noRoute => cases returned
  | @finished final settled pending setup context candidates target rootValid
      ended =>
      subst target
      obtain ⟨entry, isSettled, arrived, rfl, _⟩ := ended.of_mem_paths returned
      have labelled := ended.consistent.labelAt (List.mem_append_left _ isSettled)
      rw [context] at labelled
      exact ⟨entry.label, ⟨startPort, source,
        destination.trans (congrArg some arrived.symm), labelled⟩, rfl⟩

/-- A result with fewer candidates than asked for comes from a search that has
drained its queue, and has the plan of every path it returned. -/
def Exhaustive (runtime : Runtime K) (options : PlannerOptions)
    (driver : SearchDriver E) (snapshot : TopologySnapshot K)
    (request : PlanningRequest K) (env : E) : Prop :=
  (plan runtime options driver snapshot request env).1.outcome = .feasible →
  (plan runtime options driver snapshot request env).1.candidates.length <
    request.maxCandidates →
  (∃ final, FirstPassRan runtime options driver snapshot request env final ∧
    final.frontier = [] ∧ final.stoppedOnKey = false) ∧
  ∀ path ∈ (firstSearch runtime options driver snapshot request env).paths,
    ∃ own, PlansRoute runtime snapshot request path.arcs own ∧
      ∃ candidate ∈
        (plan runtime options driver snapshot request env).1.candidates,
        candidate.digest = own.digest

end Alternatives

def twoAcross : PlanningRequest ℚ := { acrossSpan with maxCandidates := 2 }

/-- Two spans of one cost, of which the shorter one is settled later, and two
that cost more. -/
def tiedSpans : SnapshotBuilder ℚ :=
  (SnapshotBuilder.new ⟨text "tied"⟩ 1 {} {}).submitAll [
    .source { id := ⟨text "nms"⟩ },
    .node (.published "a"), .node (.published "b"),
    .reachProfile (.published "line" 100000 4 25 10),
    .port (.published (.of "a" "1") "line"),
    .port (.published (.of "b" "1") "line"),
    .span (.published "ab1" (.of "a" "1") (.of "b" "1") 80000 20 30),
    .span (.published "ab2" (.of "a" "1") (.of "b" "1") 40000 10 30),
    .span { SpanRecord.published "ab3" (.of "a" "1") (.of "b" "1") 40000 10 30
      with cost := 5 },
    .span { SpanRecord.published "ab4" (.of "a" "1") (.of "b" "1") 40000 10 30
      with cost := 6 }]

end OpticalPathPlanner
