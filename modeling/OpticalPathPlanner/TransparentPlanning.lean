import OpticalPathPlanner.OptimalRoutes

/-!
# Planning over express cross-connects

Without conversions, regenerations and member limits the search loses no
route.  What is left is its early stop, which counts the labels it settles at
the destination whether they are proven or not.  Where everything is published
that makes no difference, and planning agrees with the enumeration of all
routes.
-/

namespace OpticalPathPlanner

open SortedRanges Traced

variable {K E : Type} [Field K] [LinearOrder K]

section Transparent

variable {runtime : Runtime K} {options : PlannerOptions}
  {driver : SearchDriver E} {snapshot : TopologySnapshot K}
  {request : PlanningRequest K} {env : E}

/-! ### Completeness -/

/-- Where everything is published, every route is proven. -/
theorem RouteEnds.proven (built : IsBuilt runtime snapshot)
    (published : snapshot.allPublished = true)
    (covered : snapshot.coverageComplete = true)
    {arcs : List ArcRef} {label : Label K}
    (ends : RouteEnds runtime snapshot request arcs label) :
    label.proven = true := by
  obtain ⟨startPort, source, _, labelled⟩ := ends
  have facts : (searchContext runtime snapshot request).Published :=
    ⟨built.wellFormed, built.covered covered, published⟩
  exact facts.proven_of_walk source labelled

theorem working_eq_of_single (single : request.disjointness = .none)
    (exclusions : Exclusions) : request.working runtime exclusions = request := by
  rw [PlanningRequest.working, if_neg]
  simp [PlanningRequest.iterative, single]

/-- Two spans between the same ports, of which the cheaper one does not publish
its length. -/
def cheapUnpublished : SnapshotBuilder ℚ :=
  (SnapshotBuilder.new ⟨text "cheap"⟩ 1 {} {}).submitAll [
    .source { id := ⟨text "nms"⟩ },
    .node (.published "a"), .node (.published "b"),
    .reachProfile (.published "line" 100000 4 25 10),
    .port (.published (.of "a" "1") "line"),
    .port (.published (.of "b" "1") "line"),
    .span { SpanRecord.published "ab1" (.of "a" "1") (.of "b" "1") 80000 20 30
      with lengthM := .unknown, cost := 1 },
    .span { SpanRecord.published "ab2" (.of "a" "1") (.of "b" "1") 80000 20 30
      with cost := 2 }]

theorem FirstPassEnds.of_mem_paths {startPort destinationPort : Nat}
    {search : SearchOutcome}
    (ends : FirstPassEnds runtime options driver snapshot request startPort
      destinationPort search)
    (source : snapshot.portIndex request.source = some startPort)
    (destination : snapshot.portIndex request.destination = some destinationPort)
    {path : RawPath} (returned : path ∈ search.paths) :
    ∃ label, RouteEnds runtime snapshot request path.arcs label ∧
      path.proven = label.proven := by
  cases ends with
  | refused noRoute => cases returned
  | @finished final settled pending setup context candidates target rootValid
      ended =>
      subst target
      obtain ⟨entry, _, arrived, rfl, walked⟩ := ended.of_mem_paths returned
      rw [context] at walked
      exact ⟨entry.label, ⟨startPort, source,
        destination.trans (congrArg some arrived.symm),
        SearchContext.labelAt_of_walk walked⟩, rfl⟩

/-- Planning as the enumeration of all routes would do it.  In a covered
snapshot with everything published and express cross-connects only, a request
without member limits is feasible exactly when it has a route, the first
candidate is the least of the routes and known to be, and otherwise the request
is infeasible. -/
theorem plan_exact_of_published [IsStrictOrderedRing K]
    (built : IsBuilt runtime snapshot) (published : snapshot.allPublished = true)
    (covered : snapshot.coverageComplete = true)
    (express : snapshot.allExpress = true)
    (unlimited : request.constraints.maxMembersPerFailureDomain = [])
    (searching : earlyOutcome snapshot request = none)
    (complete : (firstSearch runtime options driver snapshot request
      env).statistics.truncated = false)
    (notCancelled : (plan runtime options driver snapshot request
      env).1.outcome ≠ .cancelled) :
    ((plan runtime options driver snapshot request env).1.outcome = .feasible ↔
      ∃ arcs label, RouteEnds runtime snapshot request arcs label) ∧
    ((plan runtime options driver snapshot request env).1.outcome = .feasible →
      (plan runtime options driver snapshot request env).1.optimalityProven =
        true ∧
      ∃ best, (plan runtime options driver snapshot request
          env).1.candidates.head? = some best ∧
        (∃ arcs label, RouteEnds runtime snapshot request arcs label ∧
          best.key = label.key) ∧
        ∀ arcs label, RouteEnds runtime snapshot request arcs label →
          best.key ≤ label.key) ∧
    ((¬ ∃ arcs label, RouteEnds runtime snapshot request arcs label) →
      (plan runtime options driver snapshot request env).1.outcome =
        .infeasible) := by
  have formed := built.wellFormed
  have valid := requestOutcome_eq_none_iff.mp
    (earlyOutcome_eq_none_iff.mp searching).1
  obtain ⟨startPort, destinationPort, source, destination⟩ :=
    ports_of_searching searching
  have ends : PlanEnds runtime options driver snapshot request env _ := plan_ends
  generalize plan runtime options driver snapshot request env = run
    at ends notCancelled ⊢
  cases ends with
  | early early => cases searching.symm.trans early
  | failed _ failed =>
      exact (notCancelled (failed.outcome.cancelled formed searching)).elim
  | @planned result last unproven plans others best _ succeeded planned ordered
      candidates offered outcome optimality =>
      obtain ⟨path, returned, builds⟩ := exists_path_of_best planned ordered
      obtain ⟨_, label, route, keyed⟩ := builds.key_eq formed returned
      have proved := provedOptimum_of_proven
        (firstSearch_ends source destination succeeded) complete covered returned
        builds.1
      refine ⟨⟨fun _ => ⟨_, label, route⟩, fun _ => outcome⟩, fun _ => ⟨?_, best,
        candidates, ⟨_, label, route, keyed⟩, ?_⟩,
        fun noRoute => (noRoute ⟨_, label, route⟩).elim⟩
      · rw [optimality, proved, covered]
        rfl
      · intro arcs other ends
        have proven := ends.proven built published covered
        exact best_key_le_of_keepsRoute formed searching succeeded complete
          planned ordered (ends.keepsProven formed express unlimited proven)
  | @unplanned result last unproven _ succeeded noPlan _ _ outcome =>
      have ends := firstSearch_ends source destination succeeded
      obtain ⟨leftEq, allUnproven⟩ :=
        unproven_of_buildPaths_nil (buildBudget_pos valid) noPlan
      have noPath : (firstSearch runtime options driver snapshot request
          env).paths = [] := by
        rw [List.eq_nil_iff_forall_not_mem]
        intro path returned
        obtain ⟨label, route, same⟩ :=
          ends.of_mem_paths source destination returned
        have proven := route.proven built published covered
        rw [← same, allUnproven path returned] at proven
        cases proven
      obtain ⟨exhausted, lost⟩ :=
        no_route_of_no_path ends complete source destination noPath
      have noRoute :
          ¬ ∃ arcs label, RouteEnds runtime snapshot request arcs label := by
        rintro ⟨arcs, label, route⟩
        exact lost (route.keepsRoute formed express unlimited (fun _ _ _ => id)
          trivial)
      have infeasible : result.outcome = .infeasible := by
        simp [outcome, leftEq, noPath, complete, exhausted, covered]
      refine ⟨⟨fun feasible => ?_, fun route => (noRoute route).elim⟩,
        fun feasible => ?_, fun _ => infeasible⟩
      · cases infeasible.symm.trans feasible
      · cases infeasible.symm.trans feasible

theorem plan_exact_of_published_singleSpan :
    (singleSpan.planned acrossSpan).outcome = .feasible ∧
      ∃ best, (singleSpan.planned acrossSpan).candidates.head? = some best ∧
        ∀ arcs label, RouteEnds rationalRuntime
          (singleSpan.finished rationalRuntime) acrossSpan arcs label →
            best.key ≤ label.key := by
  have built : IsBuilt rationalRuntime (singleSpan.finished rationalRuntime) :=
    isBuilt_finished (by decide +kernel)
  have complete : (firstSearch rationalRuntime {} .idle
      (singleSpan.finished rationalRuntime) acrossSpan ()).statistics.truncated =
        false := by decide +kernel
  have feasible : (singleSpan.planned acrossSpan).outcome = .feasible := by
    decide +kernel
  refine ⟨feasible, ?_⟩
  rw [SnapshotBuilder.planned] at feasible ⊢
  obtain ⟨_, found, _⟩ := plan_exact_of_published built (by decide +kernel)
    (by decide +kernel) (by decide +kernel) rfl (by decide +kernel) complete
    (by rw [feasible]; exact nofun)
  obtain ⟨_, best, first, _, least⟩ := found feasible
  exact ⟨best, first, least⟩

end Transparent

end OpticalPathPlanner
