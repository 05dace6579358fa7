import OpticalPathPlanner.CandidateOrder

/-!
# Requests that ask for more

A request that excludes more, allows less or sets closer bounds has fewer routes,
and those it has it shares with the looser one, label by label.  So what planning
concludes about the looser request binds it about the other: an infeasible demand
stays infeasible, and a proven optimum stays out of reach.
-/

namespace OpticalPathPlanner

open SortedRanges Traced

variable {K E : Type}

/-! ### Looser rules -/

/-- Whatever stays within the second bound stays within the first. -/
def LooserBound {α : Type} [LE α] (loose strict : Option α) : Prop :=
  ∀ limit, loose = some limit → ∃ lower, strict = some lower ∧ lower ≤ limit

/-- The first constraints allow what the second ones do. -/
structure ConstraintSet.Loosens [LE K] (loose strict : ConstraintSet K) : Prop where
  nodes : loose.excludedNodes ⊆ strict.excludedNodes
  ports : loose.excludedPorts ⊆ strict.excludedPorts
  spans : loose.excludedSpans ⊆ strict.excludedSpans
  crossConnects : loose.excludedCrossConnects ⊆ strict.excludedCrossConnects
  domains : loose.excludedFailureDomains ⊆ strict.excludedFailureDomains
  members : ∀ limit ∈ loose.maxMembersPerFailureDomain, ∃ lower ≤ limit.2,
    (limit.1, lower) ∈ strict.maxMembersPerFailureDomain
  distance : LooserBound loose.maxTotalDistanceM strict.maxTotalDistanceM
  spanCount : LooserBound loose.maxTotalSpanCount strict.maxTotalSpanCount
  loss : LooserBound loose.maxTotalLossDb strict.maxTotalLossDb
  osnr : ∀ floor, loose.minSegmentOsnrDb = some floor →
    ∃ higher, strict.minSegmentOsnrDb = some higher ∧ floor ≤ higher
  regeneration : strict.allowRegeneration = true → loose.allowRegeneration = true
  conversion : strict.allowWavelengthConversion = true →
    loose.allowWavelengthConversion = true

/-- The first rules allow what the second ones do, over channels of one width. -/
structure RouteRules.Loosens [LE K] (loose strict : RouteRules K) : Prop where
  width : loose.channelWidthSlots = strict.channelWidthSlots
  regenerations : strict.maxRegenerations ≤ loose.maxRegenerations
  hops : strict.maxHops ≤ loose.maxHops
  cost : LooserBound loose.maxTotalCost strict.maxTotalCost
  constraints : loose.constraints.Loosens strict.constraints

/-- The first request asks for a connection between the same ports under looser
rules. -/
structure PlanningRequest.Loosens [LE K] (loose strict : PlanningRequest K) :
    Prop where
  source : loose.source = strict.source
  destination : loose.destination = strict.destination
  rules : loose.toRouteRules.Loosens strict.toRouteRules

/-! ### Steps under looser rules -/

namespace SearchContext

variable [Field K] [LinearOrder K] {ctx : SearchContext K} {loose strict : RouteRules K}
  (loosens : loose.Loosens strict)

include loosens

theorem nodeExcluded_of_loosens {id : NodeId}
    (allowed : (ctx.under strict).nodeExcluded id = false) :
    (ctx.under loose).nodeExcluded id = false := by
  rw [nodeExcluded_eq_false_iff] at allowed ⊢
  exact fun excluded => allowed (loosens.constraints.nodes excluded)

theorem portExcluded_of_loosens {key : PortKey}
    (allowed : (ctx.under strict).portExcluded key = false) :
    (ctx.under loose).portExcluded key = false := by
  rw [portExcluded_eq_false_iff] at allowed ⊢
  exact fun excluded => allowed (loosens.constraints.ports excluded)

theorem domainsExcluded_of_loosens {listed : List FailureDomainId}
    (allowed : (ctx.under strict).domainsExcluded listed = false) :
    (ctx.under loose).domainsExcluded listed = false := by
  rw [domainsExcluded_eq_false_iff] at allowed ⊢
  exact fun domain member excluded =>
    allowed domain member (loosens.constraints.domains excluded)

theorem costCeilingExceeded_of_loosens {cost : UInt64}
    (within : (ctx.under strict).costCeilingExceeded cost = false) :
    (ctx.under loose).costCeilingExceeded cost = false := by
  unfold costCeilingExceeded at within ⊢
  cases ceiling : (ctx.under loose).rules.maxTotalCost with
  | none => rfl
  | some limit =>
      obtain ⟨lower, asked, below⟩ := loosens.cost limit ceiling
      have asked : (ctx.under strict).rules.maxTotalCost = some lower := asked
      simp only [asked, gt_iff_lt, decide_eq_false_iff_not, UInt64.not_lt] at within ⊢
      exact UInt64.le_trans within below

theorem PathAllows.of_loosens {current : Label K} {ancestors : List (Label K)}
    {arc : ArcRef} {toPort : Nat}
    (allows : (ctx.under strict).PathAllows current ancestors arc toPort) :
    (ctx.under loose).PathAllows current ancestors arc toPort := by
  refine ⟨allows.loopFree, allows.noBacktrack, ?_⟩
  have members := allows.members
  unfold memberLimitExceeded at members ⊢
  rw [List.any_eq_false] at members ⊢
  intro limit listed
  obtain ⟨lower, below, also⟩ := loosens.constraints.members limit listed
  have kept := members (limit.1, lower) also
  simp only [under_pathMembers, decide_eq_true_eq, not_lt, gt_iff_lt] at kept ⊢
  exact kept.trans (UInt32.le_iff_toNat_le.mp below)

theorem WithinReach.of_loosens {label : Label K}
    (within : (ctx.under strict).WithinReach label) :
    (ctx.under loose).WithinReach label := by
  refine ⟨within.spans, within.distance, within.loss, within.osnr, fun floor asked => ?_⟩
  obtain ⟨higher, askedToo, above⟩ := loosens.constraints.osnr floor asked
  exact above.trans (within.requestedOsnr higher askedToo)

theorem WithinCeilings.of_loosens [IsStrictOrderedRing K] {label : Label K}
    (within : (ctx.under strict).WithinCeilings label) :
    (ctx.under loose).WithinCeilings label := by
  refine ⟨fun limit asked => ?_, fun limit asked => ?_, fun limit asked => ?_⟩
  · obtain ⟨lower, askedToo, below⟩ := loosens.constraints.distance limit asked
    exact UInt64.le_trans (within.distance lower askedToo) below
  · obtain ⟨lower, askedToo, below⟩ := loosens.constraints.spanCount limit asked
    exact (within.spans lower askedToo).trans (UInt32.le_iff_toNat_le.mp below)
  · obtain ⟨lower, askedToo, below⟩ := loosens.constraints.loss limit asked
    have kept := within.loss lower askedToo
    linarith

/-- What the rules say of a channel is in their width. -/
theorem StartStep.of_loosens {portIndex : Nat} {label : Label K}
    (started : (ctx.under strict).StartStep portIndex label) :
    (ctx.under loose).StartStep portIndex label := by
  have allowed := started.allowed
  simp only [Bool.or_eq_false_iff] at allowed
  obtain ⟨⟨port, node⟩, clear⟩ := allowed
  have portAllowed := portExcluded_of_loosens loosens port
  have nodeAllowed := nodeExcluded_of_loosens loosens node
  have domainsAllowed := domainsExcluded_of_loosens loosens clear
  obtain ⟨width, _, _, _, _⟩ := loosens
  obtain ⟨looseWidth, _, _, _, _⟩ := loose
  obtain ⟨strictWidth, _, _, _, _⟩ := strict
  obtain rfl : looseWidth = strictWidth := width
  refine ⟨?_, started.admin, started.transmitter, started.channel, started.label_eq⟩
  simp only [Bool.or_eq_false_iff]
  exact ⟨⟨portAllowed, nodeAllowed⟩, domainsAllowed⟩

theorem SpanStep.of_loosens [IsStrictOrderedRing K] {current next : Label K}
    {arc : SpanArc} (step : (ctx.under strict).SpanStep current arc next) :
    (ctx.under loose).SpanStep current arc next := by
  have allowed := step.allowed
  simp only [Bool.or_eq_false_iff] at allowed
  obtain ⟨⟨span, node⟩, port⟩ := allowed
  have spanAllowed : (ctx.under loose).spanExcluded
      ((ctx.under loose).span arc.spanIndex).id = false := by
    rw [spanExcluded_eq_false_iff] at span ⊢
    exact fun excluded => span (loosens.constraints.spans excluded)
  have nodeAllowed := nodeExcluded_of_loosens loosens node
  have portAllowed := portExcluded_of_loosens loosens port
  have domainsAllowed := domainsExcluded_of_loosens loosens step.domains
  have hopLimit := step.hopLimit.trans loosens.hops
  have ceiling := costCeilingExceeded_of_loosens loosens step.ceiling
  have reach := step.reach.of_loosens loosens
  have ceilings := step.ceilings.of_loosens loosens
  obtain ⟨width, _, _, _, _⟩ := loosens
  obtain ⟨looseWidth, _, _, _, _⟩ := loose
  obtain ⟨strictWidth, _, _, _, _⟩ := strict
  obtain rfl : looseWidth = strictWidth := width
  refine ⟨step.target, ?_, domainsAllowed, step.admin, hopLimit, step.cost, ceiling,
    step.distance, step.portAdmin, step.next_eq, step.channel, reach, ceilings⟩
  simp only [Bool.or_eq_false_iff]
  exact ⟨⟨spanAllowed, nodeAllowed⟩, portAllowed⟩

theorem CrossConnectStep.of_loosens {current next : Label K} {index : Nat}
    (step : (ctx.under strict).CrossConnectStep current index next) :
    (ctx.under loose).CrossConnectStep current index next := by
  have allowed := step.allowed
  simp only [Bool.or_eq_false_iff] at allowed
  obtain ⟨⟨record, node⟩, port⟩ := allowed
  have recordAllowed : (ctx.under loose).crossConnectExcluded
      ((ctx.under loose).crossConnect index).id = false := by
    rw [crossConnectExcluded_eq_false_iff] at record ⊢
    exact fun excluded => record (loosens.constraints.crossConnects excluded)
  have nodeAllowed := nodeExcluded_of_loosens loosens node
  have portAllowed := portExcluded_of_loosens loosens port
  have domainsAllowed := domainsExcluded_of_loosens loosens step.domains
  have hopLimit := step.hopLimit.trans loosens.hops
  have ceiling := costCeilingExceeded_of_loosens loosens step.ceiling
  have operation : (ctx.under loose).OperationAllowed
      ((ctx.under loose).crossConnect index).op current next.portIndex :=
    ⟨fun regenerates => loosens.constraints.regeneration
        (step.operation.regeneration regenerates),
      fun converts => loosens.constraints.conversion (step.operation.conversion converts),
      fun regenerates => (step.operation.regenerationLimit regenerates).trans_le
        loosens.regenerations, step.operation.transmitter⟩
  obtain ⟨width, _, _, _, _⟩ := loosens
  obtain ⟨looseWidth, _, _, _, _⟩ := loose
  obtain ⟨strictWidth, _, _, _, _⟩ := strict
  obtain rfl : looseWidth = strictWidth := width
  refine ⟨?_, step.admin, step.target, domainsAllowed, operation, hopLimit, step.cost,
    ceiling, step.portAdmin, step.next_eq, step.channel⟩
  simp only [Bool.or_eq_false_iff]
  exact ⟨⟨recordAllowed, nodeAllowed⟩, portAllowed⟩

theorem LabelStep.of_loosens [IsStrictOrderedRing K] {current next : Label K}
    {arc : ArcRef} (step : (ctx.under strict).LabelStep current arc next) :
    (ctx.under loose).LabelStep current arc next := by
  obtain ⟨kind, index, reversed⟩ := arc
  cases kind with
  | crossConnect => exact CrossConnectStep.of_loosens loosens step
  | span => exact SpanStep.of_loosens loosens step

/-- A walk under the stricter rules is one under the looser rules, with the same
labels. -/
theorem walk_of_loosens [IsStrictOrderedRing K] {startPort : Nat} {arcs : List ArcRef}
    {path : List (Label K)} (walked : (ctx.under strict).walk startPort arcs = some path) :
    (ctx.under loose).walk startPort arcs = some path := by
  induction arcs using List.reverseRecOn generalizing path with
  | nil =>
      obtain ⟨label, started, rfl⟩ := walk_nil.mp walked
      exact walk_nil.mpr ⟨label, yields_startLabel_iff.mpr
        ((yields_startLabel_iff.mp started).of_loosens loosens), rfl⟩
  | append_singleton arcs arc ih =>
      obtain ⟨current, ancestors, next, before, rfl, leaves, yielded⟩ :=
        walk_concat.mp walked
      obtain ⟨step, allows⟩ := yields_expandArc_iff.mp yielded
      exact walk_concat.mpr ⟨current, ancestors, next, ih before, rfl, leaves,
        yields_expandArc_iff.mpr ⟨step.of_loosens loosens, allows.of_loosens loosens⟩⟩

end SearchContext

/-! ### Outcomes and routes -/

section Requests

variable [Field K] [LinearOrder K] {runtime : Runtime K} {options : PlannerOptions}
  {driver : SearchDriver E} {snapshot : TopologySnapshot K}
  {request loose strict : PlanningRequest K}

/-- The route of a candidate, at the key of the candidate. -/
theorem routeEnds_of_candidate (formed : snapshot.WellFormed) {env : E}
    {candidate : PlanArtifact K}
    (offered : candidate ∈
      (plan runtime options driver snapshot request env).1.candidates) :
    ∃ arcs label, RouteEnds runtime snapshot request arcs label ∧
      label.proven = true ∧ candidate.key = label.key := by
  obtain ⟨searching, arcs, takes⟩ := takesRoute_of_candidate offered
  obtain ⟨hops, startPort, label, ancestors, builder, travels, finished⟩ :=
    takes.travels formed searching
  exact ⟨arcs, label, ⟨startPort, travels.source, travels.destination,
    SearchContext.labelAt_of_walk travels.rebuilt.walked⟩, travels.proven,
    travels.plan_key _ finished⟩

/-- A feasible outcome shows a candidate first. -/
theorem exists_candidate_of_feasible {env : E}
    (feasible : (plan runtime options driver snapshot request env).1.outcome =
      .feasible) :
    ∃ candidate, candidate ∈
      (plan runtime options driver snapshot request env).1.candidates := by
  have ends : PlanEnds runtime options driver snapshot request env _ := plan_ends
  generalize plan runtime options driver snapshot request env = run at ends feasible ⊢
  cases ends with
  | early early => exact ((earlyOutcome_outcome early).1 feasible).elim
  | failed _ failed => exact (failed.outcome.outcome_ne.1 feasible).elim
  | unplanned _ _ _ _ _ outcome =>
      rw [outcome] at feasible
      split_ifs at feasible
  | planned _ _ _ _ candidates _ _ _ => exact ⟨_, List.mem_of_head? candidates⟩

variable (runtime snapshot request) in
/-- Pruning keeps a way to some route if there is one, and to a proven route that
is as good as any proven one. -/
structure PruningKeeps : Prop where
  route : ∀ arcs label, RouteEnds runtime snapshot request arcs label →
    KeepsRoute runtime snapshot request fun _ => True
  proven : ∀ arcs label, RouteEnds runtime snapshot request arcs label →
    label.proven = true →
    KeepsRoute runtime snapshot request (Label.ProvenWithin label.key)

/-- Where pruning keeps a way to some route, an infeasible demand has none. -/
theorem PruningKeeps.no_route (keeps : PruningKeeps runtime snapshot request) {env : E}
    (infeasible : (plan runtime options driver snapshot request env).1.outcome =
      .infeasible) {arcs : List ArcRef} {label : Label K} :
    ¬ RouteEnds runtime snapshot request arcs label := by
  intro route
  obtain ⟨startPort, source, destination, -⟩ := id route
  have ends : PlanEnds runtime options driver snapshot request env _ := plan_ends
  generalize plan runtime options driver snapshot request env = run at ends infeasible
  cases ends with
  | early early =>
      refine ((earlyOutcome_outcome early).2 infeasible).2 ?_
      exact endpointOutcome_eq_none_iff.mpr ⟨⟨startPort, source⟩, _, destination⟩
  | failed _ failed => exact (failed.outcome.outcome_ne.2 infeasible).elim
  | planned _ _ _ _ _ _ outcome => cases outcome.symm.trans infeasible
  | unplanned searching succeeded noPlan _ _ outcome =>
      rw [outcome] at infeasible
      split_ifs at infeasible with openEnd
      simp only [Bool.or_eq_true, not_or, Bool.not_eq_true] at openEnd
      obtain ⟨⟨⟨allProven, complete⟩, -⟩, -⟩ := openEnd
      have noPath := no_path_of_infeasible searching noPlan allProven
      exact (no_route_of_no_path (firstSearch_ends source destination succeeded)
        complete source destination noPath).2 (keeps.route arcs label route)

variable [IsStrictOrderedRing K]

/-- It does over express cross-connects, as long as no domain is limited. -/
theorem PruningKeeps.of_express (formed : snapshot.WellFormed)
    (express : snapshot.allExpress = true)
    (unlimited : request.constraints.maxMembersPerFailureDomain = []) :
    PruningKeeps runtime snapshot request :=
  ⟨fun _ _ ends => ends.keepsRoute formed express unlimited (fun _ _ _ => id) trivial,
    fun _ _ ends proven => ends.keepsProven formed express unlimited proven⟩

/-- Where pruning keeps a way to the best proven route, a proven optimum is no
later than any. -/
theorem PruningKeeps.best_key_le (keeps : PruningKeeps runtime snapshot request)
    (formed : snapshot.WellFormed) {env : E}
    (feasible : (plan runtime options driver snapshot request env).1.outcome = .feasible)
    (optimal : (plan runtime options driver snapshot request env).1.optimalityProven =
      true) :
    ∃ best, (plan runtime options driver snapshot request env).1.candidates.head? =
        some best ∧
      ∀ arcs label, RouteEnds runtime snapshot request arcs label →
        label.proven = true → best.key ≤ label.key := by
  have ends : PlanEnds runtime options driver snapshot request env _ := plan_ends
  generalize plan runtime options driver snapshot request env = run
    at ends feasible optimal ⊢
  cases ends with
  | early early => exact ((earlyOutcome_outcome early).1 feasible).elim
  | failed _ failed => exact (failed.outcome.outcome_ne.1 feasible).elim
  | unplanned _ _ _ _ _ outcome =>
      rw [outcome] at feasible
      split_ifs at feasible
  | @planned result last unproven plans others best searching succeeded
      planned ordered candidates offered outcome optimality =>
      rw [optimality, Bool.and_eq_true] at optimal
      obtain ⟨startPort, destinationPort, source, destination⟩ :=
        ports_of_searching searching
      have complete := (firstSearch_ends source destination
        succeeded).complete_of_provedOptimum optimal.1
      exact ⟨best, candidates, fun arcs label ends proven =>
        best_key_le_of_keepsRoute formed searching succeeded complete planned ordered
          (keeps.proven arcs label ends proven)⟩

/-! ### Under looser requests -/

/-- The routes of the stricter request are routes of the looser one. -/
theorem RouteEnds.of_loosens (loosens : loose.Loosens strict) {arcs : List ArcRef}
    {label : Label K} (ends : RouteEnds runtime snapshot strict arcs label) :
    RouteEnds runtime snapshot loose arcs label := by
  obtain ⟨startPort, source, destination, labelled⟩ := ends
  obtain ⟨ancestors, walked⟩ := SearchContext.labelAt_eq_some_iff.mp labelled
  have walkedToo : ((searchContext runtime snapshot strict).under
      loose.toRouteRules).walk startPort arcs = some (label :: ancestors) :=
    SearchContext.walk_of_loosens loosens.rules walked
  exact ⟨startPort, loosens.source ▸ source, loosens.destination ▸ destination,
    SearchContext.labelAt_of_walk walkedToo⟩

end Requests

/-- A request that leaves only the dearer of the unequal spans, with less loss than
the profile allows. -/
def acrossDearer : PlanningRequest ℚ :=
  { acrossSpan with
    maxHops := 4
    constraints := { excludedSpans := [⟨text "ab1"⟩], maxTotalLossDb := some 22 } }

theorem loosens_acrossDearer : acrossSpan.Loosens acrossDearer where
  source := rfl
  destination := rfl
  rules :=
    { width := rfl
      regenerations := le_rfl
      hops := by decide
      cost := by simp [LooserBound, acrossSpan]
      constraints := by constructor <;> simp [LooserBound, acrossSpan, acrossDearer] }

end OpticalPathPlanner
