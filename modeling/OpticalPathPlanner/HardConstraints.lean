import OpticalPathPlanner.RouteHops

/-!
# Hard constraints of candidates

What the search enforces with cuts, or through the proven flag, holds along
the route of every candidate: the exclusions, the administrative states, the
allowed operations and the limits on hops, regenerations and cost.
-/

namespace OpticalPathPlanner

open SortedRanges Traced

variable {K E : Type} [Field K] [LinearOrder K]

/-- A port a route may stand on. -/
structure PortAllowed (constraints : ConstraintSet K) (record : PortRecord) :
    Prop where
  port : record.key ∉ constraints.excludedPorts
  node : record.key.node ∉ constraints.excludedNodes
  admin : record.admin = .known .up

/-- A span or a cross-connect a route may use. -/
def LinkAllowed (constraints : ConstraintSet K) : Link K → Prop
  | .span record _ =>
      record.id ∉ constraints.excludedSpans ∧ record.admin = .known .up
  | .crossConnect record =>
      record.id ∉ constraints.excludedCrossConnects ∧
        record.admin = .known .up ∧
        (record.op = .regenerate → constraints.allowRegeneration = true) ∧
        (record.op = .convert → constraints.allowWavelengthConversion = true)

def Link.regenerates : Link K → Bool
  | .span _ _ => false
  | .crossConnect record => decide (record.op = .regenerate)

/-- The records of a route respect the constraints of a request. -/
structure RouteRespects (request : PlanningRequest K) (start : PortRecord)
    (hops : List (Hop K)) : Prop where
  source : start.key = request.source
  connected : Connected request.source hops request.destination
  portSimple : (request.source :: hops.map (·.link.arrival)).Nodup
  startAllowed : PortAllowed request.constraints start
  links : ∀ hop ∈ hops, LinkAllowed request.constraints hop.link
  targets : ∀ hop ∈ hops, PortAllowed request.constraints hop.target

/-- The plan of a route counts it right and stays within the limits. -/
structure PlanWithinLimits (request : PlanningRequest K)
    (plan : PlanArtifact K) (hops : List (Hop K)) : Prop where
  hops_eq : plan.hops = hops.length
  regenerations_eq :
    plan.regenerations = hops.countP fun hop => hop.link.regenerates
  hopLimit : plan.hops ≤ request.maxHops
  regenerationLimit : plan.regenerations ≤ request.maxRegenerations
  costLimit : ∀ limit, request.maxTotalCost = some limit →
    plan.totalCost ≤ limit

namespace SearchContext

variable {ctx : SearchContext K} {rules : RouteRules K}
  {request : PlanningRequest K} {startPort : Nat}

/-! ### Along a walk -/

theorem StartStep.portAllowed {label : Label K}
    (started : ctx.StartStep startPort label) (proven : label.proven = true) :
    PortAllowed ctx.constraints (ctx.port startPort) := by
  have allowed := started.allowed
  simp only [Bool.or_eq_false_iff] at allowed
  obtain ⟨⟨port, node⟩, _⟩ := allowed
  exact ⟨portExcluded_eq_false_iff.mp port, nodeExcluded_eq_false_iff.mp node,
    (started.published proven).1.admin⟩

theorem SpanStep.allows {current next : Label K} {index : Nat} {reversed : Bool}
    (step : ctx.SpanStep current ⟨index, reversed⟩ next)
    (proven : next.proven = true) :
    LinkAllowed ctx.constraints (.span (ctx.span index) reversed) ∧
      PortAllowed ctx.constraints (ctx.port next.portIndex) := by
  have key : (ctx.port next.portIndex).key = ctx.spanTarget ⟨index, reversed⟩ :=
    port_key_of_portIndex step.target
  obtain ⟨⟨length, loss, osnr, published⟩, _⟩ := step.published proven
  have allowed := step.allowed
  rw [← key] at allowed
  simp only [Bool.or_eq_false_iff] at allowed
  obtain ⟨⟨span, node⟩, port⟩ := allowed
  exact ⟨⟨spanExcluded_eq_false_iff.mp span, published.admin⟩,
    portExcluded_eq_false_iff.mp port, nodeExcluded_eq_false_iff.mp node,
    published.port.admin⟩

theorem CrossConnectStep.allows {current next : Label K} {index : Nat}
    (step : ctx.CrossConnectStep current index next)
    (proven : next.proven = true) :
    LinkAllowed ctx.constraints (.crossConnect (ctx.crossConnect index)) ∧
      PortAllowed ctx.constraints (ctx.port next.portIndex) := by
  have key : (ctx.port next.portIndex).key = (ctx.crossConnect index).toPort :=
    port_key_of_portIndex step.target
  have published := step.published proven
  have allowed := step.allowed
  rw [← key] at allowed
  simp only [Bool.or_eq_false_iff] at allowed
  obtain ⟨⟨record, node⟩, port⟩ := allowed
  exact ⟨⟨crossConnectExcluded_eq_false_iff.mp record, published.admin,
      step.operation.regeneration, step.operation.conversion⟩,
    portExcluded_eq_false_iff.mp port, nodeExcluded_eq_false_iff.mp node,
    published.port.admin⟩

/-- The links and the ports of a walk are allowed. -/
theorem Travelled.allowed {hops : List (Hop K)} {path : List (Label K)}
    {builder : PlanBuilder K}
    (travelled : ctx.Travelled rules request startPort hops path builder) :
    PortAllowed ctx.constraints (ctx.port startPort) ∧
      ∀ hop ∈ hops, LinkAllowed ctx.constraints hop.link ∧
        PortAllowed ctx.constraints hop.target := by
  induction travelled with
  | start started proven _ => exact ⟨started.portAllowed proven, by simp⟩
  | span before departs step allows proven built ih =>
      exact ⟨ih.1, List.forall_mem_append.mpr ⟨ih.2,
        List.forall_mem_singleton.mpr (step.allows proven)⟩⟩
  | crossConnect before departs step allows proven built ih =>
      exact ⟨ih.1, List.forall_mem_append.mpr ⟨ih.2,
        List.forall_mem_singleton.mpr (step.allows proven)⟩⟩

/-- The hops of a walk follow each other, and spell the ports of its labels. -/
theorem Travelled.connected
    (source : ctx.snapshot.portIndex request.source = some startPort)
    {hops : List (Hop K)} {path : List (Label K)} {builder : PlanBuilder K}
    (travelled : ctx.Travelled rules request startPort hops path builder) :
    (∀ label ∈ path.head?, Connected request.source hops (ctx.portKey label)) ∧
      (path.map ctx.portKey).reverse =
        request.source :: hops.map (·.link.arrival) := by
  induction travelled with
  | @start label _ started _ _ =>
      have key : ctx.portKey label = request.source := by
        rw [portKey, congrArg Label.portIndex started.label_eq]
        exact port_key_of_portIndex source
      refine ⟨?_, by simp [key]⟩
      rintro _ ⟨⟩
      exact key.symm
  | @span hops current next ancestors _ index reversed _ _ _ _ before departs
      step allows proven built ih =>
      obtain ⟨connected, spelled⟩ := ih
      have key : ctx.portKey next = (ctx.span index).arrival reversed :=
        port_key_of_portIndex step.target
      refine ⟨?_, ?_⟩
      · rintro _ ⟨⟩
        rw [key]
        exact (connected current rfl).concat departs key
      · rw [List.map_cons, List.reverse_cons, spelled, key]
        simp [Link.arrival]
  | @crossConnect hops current next ancestors _ _ index before departs step
      allows proven built ih =>
      obtain ⟨connected, spelled⟩ := ih
      have key : ctx.portKey next = (ctx.crossConnect index).toPort :=
        port_key_of_portIndex step.target
      refine ⟨?_, ?_⟩
      · rintro _ ⟨⟩
        rw [key]
        exact (connected current rfl).concat departs key
      · rw [List.map_cons, List.reverse_cons, spelled, key]
        simp [Link.arrival]

/-- What a label counts, and the limits on it. -/
structure WithinLimits (ctx : SearchContext K) (hops : List (Hop K))
    (label : Label K) : Prop where
  hops_eq : label.hops = hops.length
  regenerations_eq :
    label.regenerations = hops.countP fun hop => hop.link.regenerates
  hopLimit : hops ≠ [] → label.hops ≤ ctx.rules.maxHops
  regenerationLimit : label.regenerations ≤ ctx.rules.maxRegenerations
  ceiling : hops ≠ [] → ctx.costCeilingExceeded label.cost = false

theorem Travelled.withinLimits {hops : List (Hop K)} {path : List (Label K)}
    {builder : PlanBuilder K}
    (travelled : ctx.Travelled rules request startPort hops path builder) :
    ∀ label ∈ path.head?, WithinLimits ctx hops label := by
  induction travelled with
  | start started _ _ =>
      rintro _ ⟨⟩
      have labelEq := started.label_eq
      exact ⟨by rw [labelEq]; rfl, by rw [labelEq]; rfl, by simp,
        by rw [labelEq]; exact Nat.zero_le _, by simp⟩
  | @span hops current next _ _ index reversed _ _ _ _ before departs step
      allows proven built ih =>
      rintro _ ⟨⟩
      have earlier := ih current rfl
      have hopsEq : next.hops = current.hops + 1 := by rw [step.next_eq]
      have regenerationsEq : next.regenerations = current.regenerations := by
        rw [step.next_eq]
      refine ⟨?_, ?_, ?_, ?_, fun _ => step.ceiling⟩
      · simp [hopsEq, earlier.hops_eq]
      · simp [regenerationsEq, earlier.regenerations_eq, Link.regenerates]
      · intro _
        rw [hopsEq]
        exact step.hopLimit
      · rw [regenerationsEq]
        exact earlier.regenerationLimit
  | @crossConnect hops current next _ _ _ index before departs step allows
      proven built ih =>
      rintro _ ⟨⟩
      have earlier := ih current rfl
      have hopsEq : next.hops = current.hops + 1 := by
        rw [step.next_eq, operated_hops]
      have regenerationsEq : next.regenerations = current.regenerations +
          if (ctx.crossConnect index).op = .regenerate then 1 else 0 := by
        rw [step.next_eq]
        cases (ctx.crossConnect index).op <;> rfl
      refine ⟨?_, ?_, ?_, ?_, fun _ => step.ceiling⟩
      · simp [hopsEq, earlier.hops_eq]
      · simp [regenerationsEq, earlier.regenerations_eq, Link.regenerates,
          List.countP_singleton]
      · intro _
        rw [hopsEq]
        exact step.hopLimit
      · rw [regenerationsEq]
        split_ifs with regenerates
        · exact step.operation.regenerationLimit regenerates
        · exact earlier.regenerationLimit

end SearchContext

/-! ### Candidates -/

section Candidates

variable {runtime : Runtime K} {options : PlannerOptions}
  {driver : SearchDriver E} {snapshot : TopologySnapshot K}
  {request : PlanningRequest K}

/-- Source and destination of a searched request differ. -/
theorem distinct_of_searching (searching : earlyOutcome snapshot request = none) :
    request.source ≠ request.destination :=
  (requestOutcome_eq_none_iff.mp (earlyOutcome_eq_none_iff.mp searching).1).distinct

variable (request) in
theorem finishPlan_hops (ctx : SearchContext K) (requestDigest : Digest256)
    (arcCount : Nat) (builder : PlanBuilder K) :
    (ctx.finishPlan request requestDigest arcCount builder).hops = arcCount :=
  rfl

variable (request) in
theorem finishPlan_totals (ctx : SearchContext K) (requestDigest : Digest256)
    (arcCount : Nat) (builder : PlanBuilder K) :
    (ctx.finishPlan request requestDigest arcCount builder).totalCost =
        builder.totalCost ∧
      (ctx.finishPlan request requestDigest arcCount builder).regenerations =
        builder.regenerations := by
  unfold SearchContext.finishPlan
  rw [SearchContext.closeSegment_eq]
  simp only
  split_ifs <;> exact ⟨rfl, rfl⟩

/-- The route of a candidate respects the constraints of the request. -/
theorem Travels.respects {arcs : List ArcRef} {hops : List (Hop K)}
    {startPort : Nat} {label : Label K} {ancestors : List (Label K)}
    {builder : PlanBuilder K}
    (travels : Travels runtime snapshot request arcs hops startPort label
      ancestors builder) :
    RouteRespects request ((searchContext runtime snapshot request).port
      startPort) hops := by
  obtain ⟨start, along⟩ := travels.travelled.allowed
  obtain ⟨connected, spelled⟩ := travels.travelled.connected travels.source
  have simple := travels.rebuilt.portKeys_nodup travels.source
  rw [← List.nodup_reverse, spelled] at simple
  have arrived : (searchContext runtime snapshot request).portKey label =
      request.destination :=
    SearchContext.port_key_of_portIndex travels.destination
  refine ⟨SearchContext.port_key_of_portIndex travels.source, ?_, simple, start,
    fun hop member => (along hop member).1, fun hop member => (along hop member).2⟩
  rw [← arrived]
  exact connected label rfl

theorem Travels.ne_nil {arcs : List ArcRef} {hops : List (Hop K)}
    {startPort : Nat} {label : Label K} {ancestors : List (Label K)}
    {builder : PlanBuilder K} (distinct : request.source ≠ request.destination)
    (travels : Travels runtime snapshot request arcs hops startPort label
      ancestors builder) : hops ≠ [] := by
  rintro rfl
  exact distinct travels.respects.connected

theorem Travels.withinLimits {arcs : List ArcRef} {hops : List (Hop K)}
    {startPort : Nat} {label : Label K} {ancestors : List (Label K)}
    {builder : PlanBuilder K} (distinct : request.source ≠ request.destination)
    (travels : Travels runtime snapshot request arcs hops startPort label
      ancestors builder) (requestDigest : Digest256) :
    PlanWithinLimits request ((searchContext runtime snapshot request).finishPlan
      request requestDigest arcs.length builder) hops := by
  have some_ := travels.ne_nil distinct
  have within := travels.travelled.withinLimits label rfl
  have agrees := travels.rebuilt.simulates rfl travels.source label rfl
  have length := TopologySnapshot.length_of_hops travels.resolved
  obtain ⟨cost, regenerations⟩ := finishPlan_totals request
    (searchContext runtime snapshot request) requestDigest arcs.length builder
  refine ⟨?_, ?_, ?_, ?_, ?_⟩
  · rw [finishPlan_hops, length]
  · rw [regenerations, agrees.regenerations, within.regenerations_eq]
  · rw [finishPlan_hops, ← length, ← within.hops_eq]
    exact within.hopLimit some_
  · rw [regenerations, agrees.regenerations]
    exact within.regenerationLimit
  · intro limit limited
    have below := within.ceiling some_
    have rule : (searchContext runtime snapshot request).rules.maxTotalCost =
        some limit := limited
    rw [cost, agrees.cost]
    simpa [SearchContext.costCeilingExceeded, rule, UInt64.not_lt] using below

/-- The hard constraints hold of every candidate and of the route it was built
from. -/
theorem candidate_respects_constraints (built : IsBuilt runtime snapshot)
    (env : E) (candidate : PlanArtifact K)
    (offered : candidate ∈
      (plan runtime options driver snapshot request env).1.candidates) :
    (∃ arcs start hops, BuiltFrom runtime snapshot request options driver
        candidate arcs start hops) ∧
      ∀ arcs start hops,
        BuiltFrom runtime snapshot request options driver candidate arcs start
          hops →
        RouteRespects request start hops ∧
          PlanWithinLimits request candidate hops := by
  refine ⟨exists_builtFrom built.wellFormed offered, ?_⟩
  intro arcs start hops from_
  obtain ⟨searching, _⟩ := takesRoute_of_candidate offered
  obtain ⟨startPort, label, ancestors, builder, travels, rfl, rfl⟩ :=
    from_.travels built.wellFormed searching
  exact ⟨travels.respects,
    travels.withinLimits (distinct_of_searching searching) _⟩

/-- One span between two nodes, with everything published. -/
def singleSpan : SnapshotBuilder ℚ :=
  (SnapshotBuilder.new ⟨text "single"⟩ 1 {} {}).submitAll [
    .source { id := ⟨text "nms"⟩ },
    .node (.published "a"), .node (.published "b"),
    .reachProfile (.published "line" 100000 4 25 10),
    .port (.published (.of "a" "1") "line"),
    .port (.published (.of "b" "1") "line"),
    .span (.published "ab" (.of "a" "1") (.of "b" "1") 80000 20 30)]

/-- A request across the single span. -/
def acrossSpan : PlanningRequest ℚ where
  id := ⟨text "r"⟩
  source := .of "a" "1"
  destination := .of "b" "1"

theorem candidate_respects_constraints_singleSpan :
    ∃ candidate ∈ (singleSpan.planned acrossSpan).candidates,
      (∃ arcs start hops, BuiltFrom rationalRuntime
        (singleSpan.finished rationalRuntime) acrossSpan {} .idle candidate arcs
        start hops) ∧
      ∀ arcs start hops,
        BuiltFrom rationalRuntime (singleSpan.finished rationalRuntime)
          acrossSpan {} .idle candidate arcs start hops →
        RouteRespects acrossSpan start hops ∧
          PlanWithinLimits acrossSpan candidate hops := by
  have some_ : (singleSpan.planned acrossSpan).candidates ≠ [] := by
    decide +kernel
  obtain ⟨candidate, offered⟩ := List.exists_mem_of_ne_nil _ some_
  have built : IsBuilt rationalRuntime (singleSpan.finished rationalRuntime) :=
    isBuilt_finished (by decide +kernel)
  refine ⟨candidate, offered, ?_⟩
  rw [SnapshotBuilder.planned] at offered
  exact candidate_respects_constraints built () candidate offered

end Candidates

end OpticalPathPlanner
