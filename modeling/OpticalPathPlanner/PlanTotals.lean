import OpticalPathPlanner.FailureDomains
import OpticalPathPlanner.PlanSegments

/-!
# Totals of candidates

The cost and the distance of a plan against the exact sums over the records of
its route, and the ceilings a request puts on whole routes.  The search adds
costs with a check on every arc but not at the source, and it measures
distance, spans and loss from the last regeneration on.
-/

namespace OpticalPathPlanner

open SortedRanges Traced

variable {K E : Type} [Field K] [LinearOrder K]

/-! ### Exact sums -/

namespace TopologySnapshot

variable {K : Type} (snapshot : TopologySnapshot K)

def nodeCost (node : Option NodeRecord) : Nat :=
  (node.map fun record => record.transitCost.toNat).getD 0

/-- The cost of standing on the source. -/
def sourceCost (start : PortRecord) : Nat :=
  start.transitCost.toNat + nodeCost (snapshot.findNode start.key.node)

def hopCost (hop : Hop K) : Nat :=
  hop.link.cost.toNat + hop.target.transitCost.toNat +
    nodeCost (snapshot.enteredBy hop)

/-- The exact cost of a route. -/
def routeCost (start : PortRecord) (hops : List (Hop K)) : Nat :=
  snapshot.sourceCost start + (hops.map snapshot.hopCost).sum

end TopologySnapshot

/-- The exact length of a route. -/
def routeLength (hops : List (Hop K)) : Nat :=
  (hops.map fun hop => hop.link.lengthM.toNat).sum

theorem foldl_add_toNat {α : Type} (amount : α → UInt64) (entries : List α)
    (start : UInt64) :
    (entries.foldl (fun total entry => total + amount entry) start).toNat =
      (start.toNat + (entries.map fun entry => (amount entry).toNat).sum) %
        2 ^ 64 := by
  induction entries generalizing start with
  | nil =>
      have bound := start.toNat_lt
      simp [Nat.mod_eq_of_lt bound]
  | cons entry rest ih =>
      rw [List.foldl_cons, ih, UInt64.toNat_add, List.map_cons, List.sum_cons]
      omega

namespace SearchContext

variable {ctx : SearchContext K} {rules : RouteRules K}
  {request : PlanningRequest K} {startPort : Nat}

theorem toNat_transitionNodeCost (link : Link K) {fromPort toPort : Nat}
    (departs : link.departure = (ctx.port fromPort).key)
    (arrives : (ctx.port toPort).key = link.arrival) :
    (ctx.transitionNodeCost fromPort toPort).toNat =
      TopologySnapshot.nodeCost
        (ctx.snapshot.enteredBy ⟨link, ctx.port toPort⟩) := by
  have cost : ctx.nodeCostBetween (ctx.port fromPort).key
      (ctx.port toPort).key = ctx.transitionNodeCost fromPort toPort :=
    nodeCostBetween_eq ctx.rules fromPort toPort
  rw [← cost]
  unfold nodeCostBetween TopologySnapshot.enteredBy TopologySnapshot.nodeCost
  simp only [departs, ← arrives, eq_comm (a := (ctx.port toPort).key.node)]
  split_ifs
  · rfl
  · cases ctx.snapshot.findNode (ctx.port toPort).key.node <;> rfl

/-- The cost of a label is the exact cost of its walk, once the source is paid
for. -/
theorem Travelled.cost {hops : List (Hop K)} {path : List (Label K)}
    {builder : PlanBuilder K}
    (travelled : ctx.Travelled rules request startPort hops path builder) :
    ∀ label ∈ path.head?, label.cost.toNat =
      (ctx.startCost startPort).toNat + (hops.map ctx.snapshot.hopCost).sum := by
  induction travelled with
  | start started _ _ =>
      rintro _ ⟨⟩
      rw [started.label_eq]
      rfl
  | @span hops current next _ _ index reversed _ _ _ _ before departs step allows
      proven built ih =>
      rintro _ ⟨⟩
      have added : next.cost.toNat = current.cost.toNat +
          (ctx.span index).cost.toNat + _ + _ := extendCost_eq_some step.cost
      have entered := toNat_transitionNodeCost
        (.span (ctx.span index) reversed) departs
        (port_key_of_portIndex step.target)
      rw [ih current rfl, entered] at added
      simp only [List.map_append, List.sum_append, List.map_cons, List.map_nil,
        List.sum_cons, List.sum_nil, TopologySnapshot.hopCost, Link.cost]
      omega
  | @crossConnect hops current next _ _ _ index before departs step allows
      proven built ih =>
      rintro _ ⟨⟩
      have added := extendCost_eq_some step.cost
      have entered := toNat_transitionNodeCost
        (.crossConnect (ctx.crossConnect index)) departs
        (port_key_of_portIndex step.target)
      rw [ih current rfl, entered] at added
      simp only [List.map_append, List.sum_append, List.map_cons, List.map_nil,
        List.sum_cons, List.sum_nil, TopologySnapshot.hopCost, Link.cost]
      omega

/-- The cost of the source wraps at 64 bits. -/
theorem toNat_startCost :
    (ctx.startCost startPort).toNat =
      ctx.snapshot.sourceCost (ctx.port startPort) % 2 ^ 64 := by
  rw [startCost_eq, UInt64.toNat_add]
  unfold TopologySnapshot.sourceCost TopologySnapshot.nodeCost
  cases ctx.snapshot.findNode (ctx.port startPort).key.node <;> rfl

end SearchContext

section Totals

variable {runtime : Runtime K} {options : PlannerOptions}
  {driver : SearchDriver E} {snapshot : TopologySnapshot K}
  {request : PlanningRequest K} {arcs : List ArcRef} {hops : List (Hop K)}
  {startPort : Nat} {label : Label K} {ancestors : List (Label K)}
  {builder : PlanBuilder K}

variable (request) in
theorem finishPlan_totalDistanceM (ctx : SearchContext K)
    (requestDigest : Digest256) (arcCount : Nat) (builder : PlanBuilder K) :
    (ctx.finishPlan request requestDigest arcCount builder).totalDistanceM =
      (ctx.finishPlan request requestDigest arcCount builder).segments.foldl
        (fun total segment => total + segment.distanceM) 0 :=
  rfl

/-- The distance of a plan is the length of its route, modulo 64 bits. -/
theorem Travels.totalDistanceM_eq
    (travels : Travels runtime snapshot request arcs hops startPort label
      ancestors builder) (requestDigest : Digest256) :
    ((searchContext runtime snapshot request).finishPlan request requestDigest
        arcs.length builder).totalDistanceM.toNat =
      routeLength hops % 2 ^ 64 := by
  have segments := travels.segments requestDigest
  have lengths := travels.travelled.distances
  rw [finishPlan_totalDistanceM, foldl_add_toNat, routeLength, ← lengths]
  generalize ((searchContext runtime snapshot request).finishPlan request
    requestDigest arcs.length builder).segments = shown at segments ⊢
  generalize (searchContext runtime snapshot request).segmentEnds
    (label :: ancestors) = ends at segments
  have same : (shown.map fun segment => segment.distanceM.toNat) =
      ends.map fun label => label.distanceM.toNat := by
    induction segments with
    | nil => rfl
    | cons shows _ ih => rw [List.map_cons, List.map_cons, ih, shows.distanceM]
  rw [same]
  simp

theorem Travels.totalCost_eq
    (travels : Travels runtime snapshot request arcs hops startPort label
      ancestors builder) (requestDigest : Digest256) :
    ((searchContext runtime snapshot request).finishPlan request requestDigest
        arcs.length builder).totalCost.toNat =
      snapshot.sourceCost ((searchContext runtime snapshot request).port
        startPort) % 2 ^ 64 + (hops.map snapshot.hopCost).sum := by
  have agrees := travels.travelled.simulates rfl travels.source label rfl
  have cost := travels.travelled.cost label rfl
  rw [(finishPlan_totals request _ requestDigest arcs.length builder).1,
    agrees.cost, cost, SearchContext.toNat_startCost]
  rfl

/-- The totals of a plan are exact, and so is the value that was held against
the cost limit. -/
structure TotalsExact (snapshot : TopologySnapshot K)
    (request : PlanningRequest K) (candidate : PlanArtifact K)
    (start : PortRecord) (hops : List (Hop K)) : Prop where
  cost : candidate.totalCost.toNat = snapshot.routeCost start hops
  distance : candidate.totalDistanceM.toNat = routeLength hops
  limit : ∀ limit, request.maxTotalCost = some limit →
    snapshot.routeCost start hops ≤ limit.toNat

theorem Travels.totalsExact_iff
    (distinct : request.source ≠ request.destination)
    (travels : Travels runtime snapshot request arcs hops startPort label
      ancestors builder) (requestDigest : Digest256) :
    TotalsExact snapshot request
        ((searchContext runtime snapshot request).finishPlan request
          requestDigest arcs.length builder)
        ((searchContext runtime snapshot request).port startPort) hops ↔
      snapshot.sourceCost ((searchContext runtime snapshot request).port
        startPort) < 2 ^ 64 ∧ routeLength hops < 2 ^ 64 := by
  have cost := travels.totalCost_eq requestDigest
  have distance := travels.totalDistanceM_eq requestDigest
  have limits := travels.withinLimits distinct requestDigest
  constructor
  · intro exact_
    have costEq := exact_.cost
    have distanceEq := exact_.distance
    rw [cost, TopologySnapshot.routeCost] at costEq
    rw [distance] at distanceEq
    constructor <;> omega
  · rintro ⟨source, length⟩
    rw [Nat.mod_eq_of_lt source] at cost
    rw [Nat.mod_eq_of_lt length] at distance
    refine ⟨cost, distance, ?_⟩
    intro limit limited
    have below := limits.costLimit limit limited
    rw [UInt64.le_iff_toNat_le, cost] at below
    exact below

/-- A single span between a port and a node of the given costs. -/
def costedSource (portCost nodeCost : UInt64) : SnapshotBuilder ℚ :=
  (SnapshotBuilder.new ⟨text "costed"⟩ 1 {} {}).submitAll [
    .source { id := ⟨text "nms"⟩ },
    .node { NodeRecord.published "a" with transitCost := nodeCost },
    .node (.published "b"),
    .reachProfile (.published "line" 100000 4 25 10),
    .port { PortRecord.published (.of "a" "1") "line" with
      transitCost := portCost },
    .port (.published (.of "b" "1") "line"),
    .span (.published "ab" (.of "a" "1") (.of "b" "1") 80000 20 30)]

end Totals

/-! ### Ceilings on whole routes -/

section Ceilings

/-- The totals of a plan are within the ceilings of a request. -/
structure WithinTotalCeilings (constraints : ConstraintSet K)
    (candidate : PlanArtifact K) : Prop where
  distance : ∀ limit, constraints.maxTotalDistanceM = some limit →
    candidate.totalDistanceM ≤ limit
  spans : ∀ limit, constraints.maxTotalSpanCount = some limit →
    (candidate.segments.map PlanSegment.spanCount).sum ≤ limit.toNat
  loss : ∀ limit, constraints.maxTotalLossDb = some limit →
    candidate.totalLossDb ≤ limit + Runtime.tolerance

/-- A request without ceilings on whole routes. -/
structure ConstraintSet.Unbounded (constraints : ConstraintSet K) : Prop where
  distance : constraints.maxTotalDistanceM = none
  spans : constraints.maxTotalSpanCount = none
  loss : constraints.maxTotalLossDb = none

/-- A route without a regeneration. -/
def Transparent (hops : List (Hop K)) : Prop :=
  ∀ hop ∈ hops, hop.link.regenerates = false

theorem ConstraintSet.Unbounded.within {constraints : ConstraintSet K}
    (unbounded : constraints.Unbounded) (candidate : PlanArtifact K) :
    WithinTotalCeilings constraints candidate := by
  refine ⟨?_, ?_, ?_⟩
  · simp [unbounded.distance]
  · simp [unbounded.spans]
  · simp [unbounded.loss]

variable {runtime : Runtime K} {options : PlannerOptions}
  {driver : SearchDriver E} {snapshot : TopologySnapshot K}
  {request : PlanningRequest K} {arcs : List ArcRef} {hops : List (Hop K)}
  {startPort : Nat} {label : Label K} {ancestors : List (Label K)}
  {builder : PlanBuilder K}

/-- The ceilings of a valid request are not negative. -/
theorem maxTotalLossDb_nonneg (valid : request.IsValid) {limit : K}
    (limited : request.constraints.maxTotalLossDb = some limit) :
    0 ≤ limit := by
  have checks := firstFailure_failed_iff.mp valid.constraints
  have check := checks (validateOptionalNonNegative
    request.constraints.maxTotalLossDb "max_total_loss_db") (by simp)
  rw [limited] at check
  simp only [validateOptionalNonNegative] at check
  rw [failed_ite_failure rfl] at check
  exact not_not.mp (not_or.mp check.1).1

variable [IsStrictOrderedRing K]

/-- On a route without a regeneration the open segment is the whole route. -/
theorem Travels.withinTotalCeilings (valid : request.IsValid)
    (travels : Travels runtime snapshot request arcs hops startPort label
      ancestors builder) (requestDigest : Digest256)
    (transparent : Transparent hops) :
    WithinTotalCeilings request.constraints
      ((searchContext runtime snapshot request).finishPlan request requestDigest
        arcs.length builder) := by
  have segments := travels.segments requestDigest
  have judged := travels.travelled.judged label (List.mem_cons_self ..)
  rw [SearchContext.segmentEnds_cons,
    travels.travelled.closedEnds_eq_nil transparent, List.reverse_nil,
    List.nil_append] at segments
  obtain ⟨segment, rest, shows, none_, single⟩ :=
    List.forall₂_cons_right_iff.mp segments
  rw [List.forall₂_nil_right_iff.mp none_] at single
  have distance : ((searchContext runtime snapshot request).finishPlan request
      requestDigest arcs.length builder).totalDistanceM = label.distanceM := by
    rw [finishPlan_totalDistanceM, single, ← shows.distanceM]
    simp
  have loss : ((searchContext runtime snapshot request).finishPlan request
      requestDigest arcs.length builder).totalLossDb = label.lossDb := by
    change List.foldl (fun total segment => total + segment.lossDb) 0
      ((searchContext runtime snapshot request).finishPlan request requestDigest
        arcs.length builder).segments = _
    rw [single, ← shows.lossDb]
    simp
  have spans : (((searchContext runtime snapshot request).finishPlan request
      requestDigest arcs.length builder).segments.map
        PlanSegment.spanCount).sum = label.spanCount := by
    rw [single, ← shows.spanCount]
    simp
  by_cases none_ : label.spanCount = 0
  · obtain ⟨noDistance, noLoss, _⟩ := judged.empty none_
    refine ⟨?_, ?_, ?_⟩
    · intro limit _
      rw [distance, noDistance]
      exact UInt64.zero_le
    · intro limit _
      rw [spans, none_]
      exact Nat.zero_le _
    · intro limit limited
      rw [loss, noLoss]
      exact add_nonneg (maxTotalLossDb_nonneg valid limited)
        Runtime.tolerance_pos.le
  · have within := judged.ceilings none_
    refine ⟨?_, ?_, ?_⟩
    · intro limit limited
      rw [distance]
      exact within.distance limit limited
    · intro limit limited
      rw [spans]
      exact within.spans limit limited
    · intro limit limited
      rw [loss]
      exact within.loss limit limited

/-- A request for at most 100 km. -/
def within100km : PlanningRequest ℚ :=
  { acrossSpan with constraints := { maxTotalDistanceM := some 100000 } }

/-- Two spans of 60 km with a regeneration between them. -/
def regeneratedLine : SnapshotBuilder ℚ :=
  (SnapshotBuilder.new ⟨text "line"⟩ 1 {} {}).submitAll [
    .source { id := ⟨text "nms"⟩ },
    .node (.published "a"), .node (.published "b"), .node (.published "m"),
    .reachProfile (.published "line" 100000 4 25 10),
    .port (.published (.of "a" "1") "line"),
    .port (.published (.of "b" "1") "line"),
    .port (.published (.of "m" "1") "line"),
    .port (.published (.of "m" "2") "line"),
    .span (.published "am" (.of "a" "1") (.of "m" "1") 60000 15 30),
    .span (.published "mb" (.of "m" "2") (.of "b" "1") 60000 15 30),
    .crossConnect (.published "mm" (.of "m" "1") (.of "m" "2") .regenerate)]

end Ceilings

end OpticalPathPlanner
