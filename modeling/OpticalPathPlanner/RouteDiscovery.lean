import OpticalPathPlanner.ExpressRoutes
import OpticalPathPlanner.ProvenPaths
import OpticalPathPlanner.PublishedNetworks

/-!
# Routes that planning finds

The routes of a request on one side, the outcome of planning on the other.  A
search drops a label when a settled one dominates it, and stops when it has
settled enough labels at the destination.  This file says when neither costs a
route: what pruning leaves open is found, and what is found first is best.
-/

namespace OpticalPathPlanner

open SortedRanges Traced DominanceSearch

variable {K E : Type} [Field K] [LinearOrder K]

/-- The position of a path in the search order. -/
def RawPath.key (path : RawPath) : LabelKey :=
  ⟨path.cost, path.hops, path.regenerations⟩

/-- Rests on published evidence and is no later in the search order than the
bound. -/
def Label.ProvenWithin (bound : LabelKey) (label : Label K) : Prop :=
  label.proven = true ∧ label.key ≤ bound

omit [Field K] in
theorem Label.ProvenWithin.of_dominates {bound : LabelKey}
    {better worse : Label K} (order : Label.Dominates better worse)
    (within : worse.ProvenWithin bound) : better.ProvenWithin bound :=
  ⟨order.proven within.1, order.key_le.trans within.2⟩

/-- A route that goes on moves up in the search order. -/
theorem SearchContext.key_le_of_append {ctx : SearchContext K} {startPort : Nat}
    {arcs rest : List ArcRef} {label last : Label K}
    (front : ctx.labelAt startPort arcs = some label)
    (whole : ctx.labelAt startPort (arcs ++ rest) = some last) :
    label.key ≤ last.key := by
  induction rest using List.reverseRecOn generalizing last with
  | nil =>
      rw [List.append_nil, front] at whole
      cases whole
      exact le_rfl
  | append_singleton rest arc ih =>
      rw [← List.append_assoc] at whole
      obtain ⟨ancestors, walked⟩ := labelAt_eq_some_iff.mp whole
      obtain ⟨current, before, next, earlier, same, _, yielded⟩ :=
        walk_concat.mp walked
      cases same
      have further := (yields_expandArc_iff.mp yielded).1.key_lt
      exact (ih (labelAt_of_walk earlier)).trans further.le

namespace SearchSetup

variable {setup : SearchSetup K E} {startPort : Nat}
  {settled pending : List (SearchLabel K)} {final : SearchState K E}

/-! ### What a search has settled at the destination -/

theorem Ended.destinations_sorted
    (ended : setup.Ended startPort settled pending final) :
    final.destinationLabels.Pairwise fun first second =>
      first.label.key ≤ second.label.key := by
  rw [← List.reverse_reverse final.destinationLabels,
    ended.tracked.destinations, List.pairwise_reverse]
  exact ended.consistent.inOrder.filter _

/-- No label at the destination is dominated by one that was settled before
it. -/
theorem Ended.destinations_undominated
    (ended : setup.Ended startPort settled pending final) :
    final.destinationLabels.Pairwise fun first second =>
      first.label.bucket = second.label.bucket →
        ¬ Label.Dominates first.label second.label := by
  rw [← List.reverse_reverse final.destinationLabels,
    ended.tracked.destinations, List.pairwise_reverse]
  exact ended.consistent.undominated.filter _

theorem Ended.key_le_last (ended : setup.Ended startPort settled pending final)
    {key : LabelKey} (last : final.lastDestinationKey = some key)
    {done : SearchLabel K} (member : done ∈ final.destinationLabels) :
    done.label.key ≤ key := by
  have sorted := ended.destinations_sorted
  have tracked := ended.tracked.lastKey
  rw [last] at tracked
  obtain ⟨latest, isLast, rfl⟩ := Option.map_eq_some_iff.mp tracked.symm
  obtain ⟨front, split⟩ := List.getLast?_eq_some_iff.mp isLast
  rw [split] at member sorted
  rcases List.mem_append.mp member with earlier | same
  · exact (List.pairwise_append.mp sorted).2.2 done earlier latest
      (List.mem_singleton_self _)
  · rw [List.mem_singleton.mp same]

/-- A search that was not cut short and settled nothing at the destination has
nothing left to do. -/
theorem Ended.pending_eq_nil
    (ended : setup.Ended startPort settled pending final)
    (complete : final.truncated = false)
    (noLabel : final.destinationLabels = []) :
    pending = [] ∧ final.frontier = [] := by
  rcases ended.reason with truncated | ⟨_, queue, none_⟩ | ⟨_, key, last, _⟩
  · rw [complete] at truncated
    cases truncated
  · exact ⟨none_, queue⟩
  · rw [ended.tracked.lastKey, noLabel] at last
    cases last

/-- A settled label does not dominate a later one of its bucket. -/
theorem Consistent.not_dominates_of_key_lt {state : SearchState K E}
    (consistent : setup.Consistent startPort settled state)
    {first second : SearchLabel K} (firstSettled : first ∈ settled)
    (secondSettled : second ∈ settled)
    (earlier : first.label.key < second.label.key)
    (sameBucket : first.label.bucket = second.label.bucket) :
    ¬ Label.Dominates first.label second.label := by
  obtain ⟨position, inRange, rfl⟩ := List.mem_iff_getElem.mp firstSettled
  obtain ⟨other, otherInRange, rfl⟩ := List.mem_iff_getElem.mp secondSettled
  rcases lt_trichotomy position other with newer | rfl | older
  · have inOrder := List.pairwise_iff_getElem.mp consistent.inOrder position other
      inRange otherInRange newer
    exact absurd (inOrder.trans_lt earlier) (lt_irrefl _)
  · exact absurd earlier (lt_irrefl _)
  · exact List.pairwise_iff_getElem.mp consistent.undominated other position
      otherInRange inRange older sameBucket

/-- A proven label within the bound that survives pruning has a returned path
that is as good, unless the search has settled enough labels below the bound
to stop before. -/
theorem Ended.offers_or_stops
    (ended : setup.Ended startPort settled pending final)
    (complete : final.truncated = false)
    (rootValid : setup.Valid startPort []) {bound : LabelKey}
    (survives : setup.SurvivesPruning startPort setup.destinationPort
      (setup.ArrivesWith startPort setup.destinationPort
        (Label.ProvenWithin bound))) :
    (∃ path ∈ final.paths, path.proven = true ∧ path.key ≤ bound) ∨
      (setup.request.maxCandidates ≤ final.destinationLabels.length ∧
        ∀ done ∈ final.destinationLabels, done.label.key < bound) := by
  rcases ended.finds complete rootValid survives with
    ⟨done, isSettled, label, reached, arrived, good⟩ |
      ⟨waiting, isPending, rest, label, reached, _, good⟩
  · have here := ended.consistent.labelAt (List.mem_append_left _ isSettled)
    cases here.symm.trans reached
    obtain ⟨keeper, _, returned, better⟩ := ended.exists_path isSettled arrived
    obtain ⟨proven, within⟩ := good.of_dominates better
    exact .inl ⟨_, returned, proven, within⟩
  · right
    have here := ended.consistent.labelAt (List.mem_append_right _ isPending)
    have ahead : waiting.label.key ≤ bound :=
      (SearchContext.key_le_of_append here reached).trans good.2
    rcases ended.reason with truncated | ⟨_, _, none_⟩ |
      ⟨_, key, last, enough, _, later⟩
    · rw [complete] at truncated
      cases truncated
    · rw [none_] at isPending
      cases isPending
    · rw [ended.tracked.count] at enough
      refine ⟨enough, fun done member => ?_⟩
      exact (ended.key_le_last last member).trans_lt
        ((later waiting isPending).trans_le ahead)

/-- Over express cross-connects no route comes before a settled label at the
destination and dominates it. -/
theorem Ended.key_le_of_better [IsStrictOrderedRing K]
    (ended : setup.Ended startPort settled pending final)
    (transparent : setup.Transparent) (complete : final.truncated = false)
    (rootValid : setup.Valid startPort []) {done : SearchLabel K}
    (member : done ∈ final.destinationLabels) {arcs : List ArcRef}
    {label : Label K} (labelled : setup.labelAt startPort arcs = some label)
    (sameBucket : label.bucket = done.label.bucket)
    (dominates : Label.Dominates label done.label) :
    done.label.key ≤ label.key := by
  obtain ⟨isSettled, arrived⟩ := ended.mem_destinationLabels.mp member
  by_contra before
  rw [not_le] at before
  let rival : Label K → Prop := fun other =>
    other.profileIndex = done.label.profileIndex ∧
      Label.Dominates other done.label ∧ other.key < done.label.key
  have reached : setup.ArrivesWith startPort setup.destinationPort rival arcs :=
    ⟨label, labelled, (congrArg Prod.fst sameBucket).trans arrived,
      congrArg Prod.snd sameBucket, dominates, before⟩
  have inherited : ∀ better worse, SearchContext.Better better worse →
      rival worse → rival better := by
    rintro better worse ⟨order, sameProfile⟩ ⟨profile, below, earlier⟩
    exact ⟨sameProfile.trans profile, order.trans below,
      order.key_le.trans_lt earlier⟩
  have survives := transparent.survivesPruning inherited reached
  rcases ended.finds complete rootValid survives with
    ⟨rivalEntry, rivalSettled, found, foundAt, foundArrived, profile, better,
      earlier⟩ | ⟨waiting, isPending, rest, found, foundAt, _, _, _, earlier⟩
  · have here := ended.consistent.labelAt (List.mem_append_left _ rivalSettled)
    cases here.symm.trans foundAt
    have bucket : rivalEntry.label.bucket = done.label.bucket :=
      Prod.ext (foundArrived.trans arrived.symm) profile
    exact ended.consistent.not_dominates_of_key_lt rivalSettled isSettled earlier
      bucket better
  · have here := ended.consistent.labelAt (List.mem_append_right _ isPending)
    have ahead := ended.consistent.ahead done isSettled waiting isPending
    have further := SearchContext.key_le_of_append here foundAt
    exact absurd ((ahead.trans further).trans_lt earlier) (lt_irrefl _)

end SearchSetup

/-! ### Routes of a request -/

section Routes

variable (runtime : Runtime K) (snapshot : TopologySnapshot K)
  (request : PlanningRequest K)

/-- The arcs lead from the source to the destination, visit no port twice and
pass every check of the search under the rules of the request, with every
unpublished fact read in their favour; the label is the one they end in. -/
def RouteEnds (arcs : List ArcRef) (label : Label K) : Prop :=
  ∃ startPort, snapshot.portIndex request.source = some startPort ∧
    snapshot.portIndex request.destination = some label.portIndex ∧
    (searchContext runtime snapshot request).labelAt startPort arcs = some label

/-- Pruning leaves a way to a route with a good label open: a route, or a
prefix with a next arc such that both the extended prefix and some prefix of
every route whose label dominates it keep a way open. -/
def KeepsRoute (good : Label K → Prop) : Prop :=
  ∃ startPort destinationPort,
    snapshot.portIndex request.source = some startPort ∧
    snapshot.portIndex request.destination = some destinationPort ∧
    (searchContext runtime snapshot request).SurvivesPruning startPort
      destinationPort ((searchContext runtime snapshot request).ArrivesWith
        startPort destinationPort good)

/-- Unproven routes before the bound in search order.  None is dominated by a
route that comes before it in that order, or in the list. -/
structure CrowdsBelow (bound : LabelKey)
    (routes : List (List ArcRef × Label K)) : Prop where
  ends : ∀ route ∈ routes, RouteEnds runtime snapshot request route.1 route.2
  unproven : ∀ route ∈ routes, route.2.proven = false
  below : ∀ route ∈ routes, route.2.key < bound
  leading : ∀ route ∈ routes, ∀ arcs label,
    RouteEnds runtime snapshot request arcs label →
    label.bucket = route.2.bucket → Label.Dominates label route.2 →
    route.2.key ≤ label.key
  inOrder : routes.Pairwise fun first second => first.2.key ≤ second.2.key
  undominated : routes.Pairwise fun first second =>
    first.2.bucket = second.2.bucket → ¬ Label.Dominates first.2 second.2

variable {runtime snapshot request}

theorem provenRoute_iff_exists_ends {arcs : List ArcRef} :
    ProvenRoute runtime snapshot request arcs ↔
      ∃ label, RouteEnds runtime snapshot request arcs label ∧
        label.proven = true := by
  constructor
  · rintro ⟨startPort, label, ancestors, source, destination, walked, proven⟩
    exact ⟨label, ⟨startPort, source, destination,
      SearchContext.labelAt_of_walk walked⟩, proven⟩
  · rintro ⟨label, ⟨startPort, source, destination, ends⟩, proven⟩
    obtain ⟨ancestors, walked⟩ := SearchContext.labelAt_eq_some_iff.mp ends
    exact ⟨startPort, label, ancestors, source, destination, walked, proven⟩

theorem RouteEnds.arrivesWith {arcs : List ArcRef} {label : Label K}
    (ends : RouteEnds runtime snapshot request arcs label)
    {startPort destinationPort : Nat}
    (source : snapshot.portIndex request.source = some startPort)
    (destination : snapshot.portIndex request.destination = some destinationPort)
    {good : Label K → Prop} (isGood : good label) :
    (searchContext runtime snapshot request).ArrivesWith startPort
      destinationPort good arcs := by
  obtain ⟨otherPort, otherSource, arrives, labelled⟩ := ends
  cases otherSource.symm.trans source
  cases arrives.symm.trans destination
  exact ⟨label, labelled, rfl, isGood⟩

theorem transparent_of_express (formed : snapshot.WellFormed)
    (express : snapshot.allExpress = true)
    (unlimited : request.constraints.maxMembersPerFailureDomain = []) :
    (searchContext runtime snapshot request).Transparent where
  formed := formed
  express record member := by
    simpa using List.all_eq_true.mp express record member
  unlimited := unlimited

/-- Over express cross-connects and without member limits, pruning keeps a way
to whatever a better label inherits. -/
theorem RouteEnds.keepsRoute [IsStrictOrderedRing K]
    (formed : snapshot.WellFormed) (express : snapshot.allExpress = true)
    (unlimited : request.constraints.maxMembersPerFailureDomain = [])
    {good : Label K → Prop}
    (inherited : ∀ better worse, Label.Dominates better worse → good worse →
      good better)
    {arcs : List ArcRef} {label : Label K}
    (ends : RouteEnds runtime snapshot request arcs label)
    (isGood : good label) : KeepsRoute runtime snapshot request good := by
  obtain ⟨startPort, source, destination, _⟩ := id ends
  exact ⟨startPort, label.portIndex, source, destination,
    (transparent_of_express formed express unlimited).survivesPruning
      (fun _ _ better => inherited _ _ better.1)
      (ends.arrivesWith source destination isGood)⟩

theorem RouteEnds.keepsProven [IsStrictOrderedRing K]
    (formed : snapshot.WellFormed) (express : snapshot.allExpress = true)
    (unlimited : request.constraints.maxMembersPerFailureDomain = [])
    {arcs : List ArcRef} {label : Label K}
    (ends : RouteEnds runtime snapshot request arcs label)
    (proven : label.proven = true) :
    KeepsRoute runtime snapshot request (Label.ProvenWithin label.key) :=
  ends.keepsRoute formed express unlimited
    (fun _ _ better within => within.of_dominates better) ⟨proven, le_rfl⟩

theorem KeepsRoute.survives {good : Label K → Prop}
    (keeps : KeepsRoute runtime snapshot request good)
    {startPort destinationPort : Nat}
    (source : snapshot.portIndex request.source = some startPort)
    (destination :
      snapshot.portIndex request.destination = some destinationPort) :
    (searchContext runtime snapshot request).SurvivesPruning startPort
      destinationPort ((searchContext runtime snapshot request).ArrivesWith
        startPort destinationPort good) := by
  obtain ⟨otherStart, otherTarget, otherSource, otherDestination, survives⟩ :=
    keeps
  cases otherSource.symm.trans source
  cases otherDestination.symm.trans destination
  exact survives

/-- What pruning keeps open exists. -/
theorem KeepsRoute.exists_route {good : Label K → Prop}
    (keeps : KeepsRoute runtime snapshot request good) :
    ∃ arcs label, RouteEnds runtime snapshot request arcs label ∧
      good label := by
  obtain ⟨startPort, destinationPort, source, destination, survives⟩ := keeps
  obtain ⟨arcs, label, labelled, rfl, isGood⟩ := Robust.exists_goal survives
  exact ⟨_, label, ⟨startPort, source, destination, labelled⟩, isGood⟩

end Routes

/-! ### The first pass over the routes -/

section FirstPass

variable {runtime : Runtime K} {options : PlannerOptions}
  {driver : SearchDriver E} {snapshot : TopologySnapshot K}
  {request : PlanningRequest K} {env : E}

theorem searchContext_working_empty :
    searchContext runtime snapshot (request.working runtime {}) =
      searchContext runtime snapshot request := by
  rw [searchContext, searchContext, working_empty_toRouteRules]

/-- The first pass had no start label, or its rounds came to an end. -/
inductive FirstPassEnds (runtime : Runtime K) (options : PlannerOptions)
    (driver : SearchDriver E) (snapshot : TopologySnapshot K)
    (request : PlanningRequest K) (startPort destinationPort : Nat) :
    SearchOutcome → Prop
  | refused (noRoute : ∀ arcs,
        ¬ (searchContext runtime snapshot request).Valid startPort arcs) :
      FirstPassEnds runtime options driver snapshot request startPort
        destinationPort { SearchOutcome.empty with exhausted := true }
  | finished {final : SearchState K E} {settled pending : List (SearchLabel K)}
      {setup : SearchSetup K E}
      (context : setup.toSearchContext = searchContext runtime snapshot request)
      (candidates : setup.request.maxCandidates =
        (request.working runtime {}).maxCandidates)
      (target : setup.destinationPort = destinationPort)
      (rootValid : setup.Valid startPort [])
      (ended : setup.Ended startPort settled pending final) :
      FirstPassEnds runtime options driver snapshot request startPort
        destinationPort (final.outcome snapshot.coverageComplete)

theorem firstSearch_ends {startPort destinationPort : Nat}
    (source : snapshot.portIndex request.source = some startPort)
    (destination : snapshot.portIndex request.destination = some destinationPort)
    (succeeded : (firstSearch runtime options driver snapshot request
      env).status.failed = false) :
    FirstPassEnds runtime options driver snapshot request startPort
      destinationPort
      (firstSearch runtime options driver snapshot request env) := by
  have ends : SearchEnds runtime snapshot (request.working runtime {}) options
      driver env startPort destinationPort
      (passSearch runtime options driver snapshot request {} env) :=
    passSearch_ends {} source destination
  unfold firstSearch at succeeded ⊢
  generalize passSearch runtime options driver snapshot request {} env = search
    at succeeded ends
  cases ends with
  | refused noStart =>
      refine .refused fun arcs => ?_
      have noRoute := not_valid_of_startState_eq_none runtime snapshot
        (request.working runtime {}) env noStart arcs
      rwa [searchContext_working_empty] at noRoute
  | cancelled requested => cases succeeded
  | finished started ran ended =>
      have rootValid : (searchSetup runtime snapshot (request.working runtime {})
          options driver destinationPort).Valid startPort [] :=
        valid_nil_of_startState runtime snapshot (request.working runtime {}) env
          started
      refine .finished ?_ ?_ ?_ rootValid ended
      · exact searchContext_working_empty
      · rfl
      · rfl

/-- The first pass returns a path as good as a route that pruning keeps, or it
has stopped on paths that all come before it. -/
theorem offers_or_below {startPort destinationPort : Nat}
    {search : SearchOutcome}
    (ends : FirstPassEnds runtime options driver snapshot request startPort
      destinationPort search)
    (complete : search.statistics.truncated = false)
    (source : snapshot.portIndex request.source = some startPort)
    (destination : snapshot.portIndex request.destination = some destinationPort)
    {bound : LabelKey}
    (keeps : KeepsRoute runtime snapshot request (Label.ProvenWithin bound)) :
    (∃ path ∈ search.paths, path.proven = true ∧ path.key ≤ bound) ∨
      ∀ path ∈ search.paths, path.key < bound := by
  have survives := keeps.survives source destination
  cases ends with
  | refused noRoute => exact .inr nofun
  | @finished final settled pending setup context candidates target rootValid
      ended =>
      subst target
      rw [← context] at survives
      rcases ended.offers_or_stops complete rootValid survives with
        offered | ⟨_, below⟩
      · exact .inl offered
      · refine .inr fun path returned => ?_
        obtain ⟨entry, isSettled, arrived, rfl, _⟩ := ended.of_mem_paths returned
        exact below entry (ended.mem_destinationLabels.mpr ⟨isSettled, arrived⟩)

/-- A first pass over express cross-connects that proves no path has stopped on
a crowd of unproven routes before every proven one. -/
theorem crowds_of_unproven [IsStrictOrderedRing K]
    {startPort destinationPort : Nat} {search : SearchOutcome}
    (ends : FirstPassEnds runtime options driver snapshot request startPort
      destinationPort search)
    (complete : search.statistics.truncated = false)
    (source : snapshot.portIndex request.source = some startPort)
    (destination : snapshot.portIndex request.destination = some destinationPort)
    (transparent : (searchContext runtime snapshot request).Transparent)
    {bound : LabelKey}
    (keeps : KeepsRoute runtime snapshot request (Label.ProvenWithin bound))
    (unproven : ∀ path ∈ search.paths, path.proven = false) :
    ∃ routes, CrowdsBelow runtime snapshot request bound routes ∧
      (request.working runtime {}).maxCandidates ≤ routes.length := by
  have survives := keeps.survives source destination
  cases ends with
  | refused noRoute =>
      obtain ⟨arcs, label, labelled, _⟩ := Robust.exists_goal survives
      exact (noRoute _ ⟨label, labelled⟩).elim
  | @finished final settled pending setup context candidates target rootValid
      ended =>
      subst target
      rw [← context] at survives
      rcases ended.offers_or_stops complete rootValid survives with
        ⟨path, returned, proven, _⟩ | ⟨enough, below⟩
      · rw [unproven path returned] at proven
        cases proven
      · refine ⟨final.destinationLabels.map fun done => (done.arcs, done.label),
          ⟨?_, ?_, ?_, ?_, ?_, ?_⟩, ?_⟩
        · simp only [List.forall_mem_map]
          intro done member
          obtain ⟨isSettled, arrived⟩ := ended.mem_destinationLabels.mp member
          have labelled :=
            ended.consistent.labelAt (List.mem_append_left _ isSettled)
          rw [context] at labelled
          exact ⟨startPort, source, destination.trans (congrArg some arrived.symm),
            labelled⟩
        · simp only [List.forall_mem_map]
          intro done member
          obtain ⟨isSettled, arrived⟩ := ended.mem_destinationLabels.mp member
          obtain ⟨keeper, _, returned, better⟩ :=
            ended.exists_path isSettled arrived
          cases proven : done.label.proven with
          | false => rfl
          | true =>
              have keeperProven := unproven _ returned
              change keeper.label.proven = false at keeperProven
              rw [better.proven proven] at keeperProven
              cases keeperProven
        · simpa only [List.forall_mem_map] using below
        · simp only [List.forall_mem_map]
          rintro done member arcs label ⟨otherPort, otherSource, _, labelled⟩
          cases otherSource.symm.trans source
          rw [← context] at labelled transparent
          exact ended.key_le_of_better transparent complete rootValid member
            labelled
        · exact List.pairwise_map.mpr ended.destinations_sorted
        · exact List.pairwise_map.mpr ended.destinations_undominated
        · rw [← candidates, List.length_map]
          exact enough

/-- A first pass that was not cut short and returned nothing has missed no
route that pruning keeps, and has emptied its queue. -/
theorem no_route_of_no_path {startPort destinationPort : Nat}
    {search : SearchOutcome}
    (ends : FirstPassEnds runtime options driver snapshot request startPort
      destinationPort search)
    (complete : search.statistics.truncated = false)
    (source : snapshot.portIndex request.source = some startPort)
    (destination : snapshot.portIndex request.destination = some destinationPort)
    (noPath : search.paths = []) :
    search.exhausted = true ∧
      ¬ KeepsRoute runtime snapshot request fun _ => True := by
  cases ends with
  | refused noRoute =>
      refine ⟨rfl, fun keeps => ?_⟩
      obtain ⟨arcs, label, ⟨otherPort, otherSource, _, labelled⟩, _⟩ :=
        keeps.exists_route
      cases otherSource.symm.trans source
      exact noRoute arcs ⟨label, labelled⟩
  | @finished final settled pending setup context candidates target rootValid
      ended =>
      subst target
      have noLabel := ended.paths_eq_nil_iff.mp noPath
      have open_ : final.truncated = false := complete
      obtain ⟨nothingLeft, queue⟩ := ended.pending_eq_nil open_ noLabel
      refine ⟨by simp [SearchState.outcome, SearchState.isExhausted, queue, open_],
        ?_⟩
      intro keeps
      have survives := keeps.survives source destination
      rw [← context] at survives
      rcases ended.finds open_ rootValid survives with
        ⟨done, isSettled, label, reached, arrived, _⟩ | ⟨waiting, isPending, _⟩
      · have here := ended.consistent.labelAt (List.mem_append_left _ isSettled)
        cases here.symm.trans reached
        have settledThere := ended.mem_destinationLabels.mpr ⟨isSettled, arrived⟩
        rw [noLabel] at settledThere
        cases settledThere
      · rw [nothingLeft] at isPending
        cases isPending

/-- A first pass that was not cut short proves its optimum when it returns a
proven path. -/
theorem provedOptimum_of_proven {startPort destinationPort : Nat}
    {search : SearchOutcome}
    (ends : FirstPassEnds runtime options driver snapshot request startPort
      destinationPort search)
    (complete : search.statistics.truncated = false)
    (covered : snapshot.coverageComplete = true) {path : RawPath}
    (returned : path ∈ search.paths) (proven : path.proven = true) :
    search.provedOptimum = true := by
  cases ends with
  | refused noRoute => cases returned
  | @finished final settled pending setup context candidates target rootValid
      ended =>
      have open_ : final.truncated = false := complete
      have some_ : final.paths.any RawPath.proven = true :=
        List.any_eq_true.mpr ⟨path, returned, proven⟩
      have ending : (final.stoppedOnKey || final.isExhausted) = true := by
        rcases ended.reason with truncated | ⟨_, queue, _⟩ | ⟨stopped, _⟩
        · rw [open_] at truncated
          cases truncated
        · simp [SearchState.isExhausted, queue, open_]
        · simp [stopped]
      simp [SearchState.outcome, ending, open_, covered, some_]

end FirstPass

end OpticalPathPlanner
