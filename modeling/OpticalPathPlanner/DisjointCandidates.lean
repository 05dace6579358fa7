import OpticalPathPlanner.PassChains
import OpticalPathPlanner.PublishedNetworks

/-!
# Disjoint candidates

What the passes over disjoint candidates achieve.  Candidates share no span.
A second candidate that avoids the nodes of the first one is never found,
because the node of the source is excluded with the others.  Candidates may
share a failure domain that sits on a resource no exclusion check looks at.
-/

namespace OpticalPathPlanner

open SortedRanges Traced

variable {K E : Type} [Field K] [LinearOrder K]

/-! ### The steps of a plan -/

section Steps

variable {K : Type}

def nodeKeys (node : Option NodeRecord) : List ResourceKey :=
  node.toList.map fun record => .forNode record.id

/-- The resources of the steps a plan records at its source. -/
def TopologySnapshot.startKeys (snapshot : TopologySnapshot K)
    (source : PortKey) : List ResourceKey :=
  .forPort source :: nodeKeys (snapshot.findNode source.node)

/-- The resources of the steps a plan records for a hop. -/
def TopologySnapshot.hopKeys (snapshot : TopologySnapshot K) (hop : Hop K) :
    List ResourceKey :=
  match hop.link with
  | .span record _ => .forSpan record.id :: nodeKeys (snapshot.enteredBy hop)
  | .crossConnect record => .forCrossConnect record.id ::
      if record.op = .express then []
      else .forPort hop.target.key :: nodeKeys (snapshot.enteredBy hop)

/-- A plan has a step over the span. -/
def PlanArtifact.usesSpan (plan : PlanArtifact K) (id : SpanId) : Prop :=
  ResourceKey.forSpan id ∈ plan.steps.map PlanStep.resource

theorem forSpan_not_mem_nodeKeys (id : SpanId) (node : Option NodeRecord) :
    ResourceKey.forSpan id ∉ nodeKeys node := by
  intro member
  obtain ⟨record, _, same⟩ := List.mem_map.mp member
  cases congrArg ResourceKey.kind same

/-- Span steps stand for the spans of a route. -/
theorem forSpan_mem_hopKeys {snapshot : TopologySnapshot K} {hop : Hop K}
    {id : SpanId} :
    ResourceKey.forSpan id ∈ snapshot.hopKeys hop ↔
      ∃ record reversed, hop.link = .span record reversed ∧ record.id = id := by
  unfold TopologySnapshot.hopKeys
  cases link : hop.link with
  | span record reversed =>
      rw [List.mem_cons]
      constructor
      · rintro (same | entered)
        · exact ⟨record, reversed, rfl,
            (ResourceKey.forSpan_injective same).symm⟩
        · exact (forSpan_not_mem_nodeKeys id _ entered).elim
      · rintro ⟨_, _, same, rfl⟩
        cases same
        exact .inl rfl
  | crossConnect record =>
      constructor
      · intro member
        rcases List.mem_cons.mp member with same | later
        · cases congrArg ResourceKey.kind same
        · split_ifs at later
          · cases later
          · rcases List.mem_cons.mp later with same | entered
            · cases congrArg ResourceKey.kind same
            · exact (forSpan_not_mem_nodeKeys id _ entered).elim
      · rintro ⟨_, _, same, _⟩
        cases same

end Steps

namespace SearchContext

variable {ctx : SearchContext K} {rules : RouteRules K}
  {request : PlanningRequest K} {startPort : Nat}

theorem enteredSteps_resources (index segment : Nat) (hop : Hop K) :
    (ctx.enteredSteps index segment hop.link.departure
        hop.link.arrival).map PlanStep.resource =
      nodeKeys (ctx.snapshot.enteredBy hop) := by
  unfold enteredSteps enteredNode TopologySnapshot.enteredBy nodeKeys
  split_ifs
  · rfl
  · cases ctx.snapshot.findNode hop.link.arrival.node <;> rfl

/-- The steps of a builder name the resources of its walk. -/
theorem Travelled.stepKeys
    (source : ctx.snapshot.portIndex request.source = some startPort)
    {hops : List (Hop K)} {path : List (Label K)} {builder : PlanBuilder K}
    (travelled : ctx.Travelled rules request startPort hops path builder) :
    builder.steps.map PlanStep.resource =
      ctx.snapshot.startKeys request.source ++
        hops.flatMap ctx.snapshot.hopKeys := by
  induction travelled with
  | start started _ _ =>
      rw [startBuilder_eq]
      unfold startNodeSteps TopologySnapshot.startKeys nodeKeys
      change _ :: List.map _ (((ctx.snapshot.findNode _).map _).getD []) = _
      cases ctx.snapshot.findNode request.source.node <;> rfl
  | @span hops current next _ builder index reversed _ _ _ _ before departs step
      allows proven built ih =>
      have port := before.currentPort source current rfl
      have entered := (ctx.under rules).enteredSteps_resources
        (builder.steps.length + 1) builder.segmentIndex
        ⟨.span (ctx.span index) reversed, ctx.port next.portIndex⟩
      rw [useSpan_eq, port, portKey, ← departs]
      simp only [List.map_append, List.map_cons, List.map_nil, ih,
        List.flatMap_append, List.flatMap_singleton, List.append_assoc]
      congr 2
      exact congrArg (List.cons _) entered
  | @crossConnect hops current next _ builder switched index before departs step
      allows proven built ih =>
      have port := before.currentPort source current rfl
      have key : (ctx.port next.portIndex).key = (ctx.crossConnect index).toPort :=
        port_key_of_portIndex step.target
      obtain ⟨steps, _, _, _, stays⟩ := built.segment.frame
      rw [useCrossConnect_eq, stays, port, portKey, ← departs]
      simp only [List.map_append, List.map_cons, List.map_nil, steps, ih,
        List.flatMap_append, List.flatMap_singleton, List.append_assoc]
      congr 2
      unfold targetSteps TopologySnapshot.hopKeys
      by_cases express : (ctx.crossConnect index).op = .express
      · simp [express]
      · have entered := (ctx.under rules).enteredSteps_resources
          (builder.steps.length + 1 + 1) switched.segmentIndex
          ⟨.crossConnect (ctx.crossConnect index), ctx.port next.portIndex⟩
        simp only [express, if_false, List.map_cons, key]
        exact congrArg (fun rest => _ :: _ :: rest) entered

end SearchContext

/-! ### Routes under the exclusions of earlier plans -/

section Exclusion

omit [Field K] [LinearOrder K] in
theorem mem_stepNodes {steps : List PlanStep} {id : NodeId}
    (parses : isValidIdText id.str = true)
    (recorded : ResourceKey.forNode id ∈ steps.map PlanStep.resource) :
    id ∈ steps.flatMap stepNodes := by
  obtain ⟨step, member, same⟩ := List.mem_map.mp recorded
  refine List.mem_flatMap.mpr ⟨step, member, ?_⟩
  simp [stepNodes, same, ResourceKey.forNode, parsedNode, StrongId.parse, parses]

omit [Field K] [LinearOrder K] in
theorem mem_stepSpans {steps : List PlanStep} {id : SpanId}
    (parses : isValidIdText id.str = true)
    (recorded : ResourceKey.forSpan id ∈ steps.map PlanStep.resource) :
    id ∈ steps.flatMap stepSpans := by
  obtain ⟨step, member, same⟩ := List.mem_map.mp recorded
  refine List.mem_flatMap.mpr ⟨step, member, ?_⟩
  simp [stepSpans, same, ResourceKey.forSpan, StrongId.parse, parses]

theorem mem_sortUnique (runtime : Runtime K) {α : Type} [LinearOrder α]
    {values : List α} {value : α} :
    value ∈ sortUnique runtime values ↔ value ∈ values := by
  unfold sortUnique
  rw [mem_destutter_iff, runtime.routine.mem_sortValues]

/-- A finished plan keeps the steps of its builder and may add the step of the
destination port. -/
theorem finishPlan_stepKeys (ctx : SearchContext K) (request : PlanningRequest K)
    (requestDigest : Digest256) (arcCount : Nat) (builder : PlanBuilder K) :
    ∃ arrival, (ctx.finishPlan request requestDigest arcCount
          builder).steps.map PlanStep.resource =
        builder.steps.map PlanStep.resource ++ arrival ∧
      ∀ key ∈ arrival, key = .forPort request.destination := by
  unfold SearchContext.finishPlan
  rw [SearchContext.closeSegment_eq]
  simp only
  split_ifs
  · exact ⟨[], by simp [Runtime.sealPlan], by simp⟩
  · refine ⟨[.forPort request.destination], ?_, by simp⟩
    simp [Runtime.sealPlan, PlanBuilder.pushStep]

variable (runtime : Runtime K) (options : PlannerOptions)
  (driver : SearchDriver E) (snapshot : TopologySnapshot K)
  (request : PlanningRequest K)

/-- The identities that exclusions are read back from are written in the
identity alphabet, as the precondition of a trusted identity asks. -/
structure IdsParse : Prop where
  source : isValidIdText request.source.node.str = true
  spans : ∀ record ∈ snapshot.spans, isValidIdText record.id.str = true

/-- The context of the pass after a list of accepted plans. -/
def contextAfter (front : List (PlanArtifact K)) : SearchContext K :=
  (searchContext runtime snapshot request).alsoExcluding
    (sortUnique runtime (exclusionsOf request.disjointness front).nodes)
    (sortUnique runtime (exclusionsOf request.disjointness front).spans)
    (sortUnique runtime (exclusionsOf request.disjointness front).domains)

/-- The candidate is the plan of a route, which was found under the exclusions
of the plans before it. -/
structure TravelsAfter (front : List (PlanArtifact K))
    (candidate : PlanArtifact K) (arcs : List ArcRef) (hops : List (Hop K))
    (startPort : Nat) (label : Label K) (ancestors : List (Label K))
    (builder : PlanBuilder K) : Prop where
  takes : TakesRoute runtime options driver snapshot request candidate arcs
  travels : Travels runtime snapshot request arcs hops startPort label ancestors
    builder
  plan_eq : candidate = (searchContext runtime snapshot request).finishPlan
    request (runtime.computeRequestDigest request) arcs.length builder
  after : (contextAfter runtime snapshot request front).Travelled
    request.toRouteRules request startPort hops (label :: ancestors) builder

variable {runtime options driver snapshot request}

/-- A pass searches in the context after the plans it excludes. -/
theorem passContext_eq_contextAfter (iterative : request.iterative = true)
    (front : List (PlanArtifact K)) :
    passContext runtime snapshot request
        (exclusionsOf request.disjointness front) =
      contextAfter runtime snapshot request front := by
  obtain ⟨nodes, spans, domains, rules, sorted⟩ := working_toRouteRules runtime
    request (exclusionsOf request.disjointness front)
  obtain ⟨rfl, rfl, rfl⟩ := sorted iterative
  unfold passContext searchContext
  rw [rules]
  rfl

theorem FoundAfter.travelsAfter (formed : snapshot.WellFormed)
    (searching : earlyOutcome snapshot request = none)
    (iterative : request.iterative = true) {front : List (PlanArtifact K)}
    {candidate : PlanArtifact K}
    (found : FoundAfter runtime options driver snapshot request front candidate) :
    ∃ arcs hops startPort label ancestors builder,
      TravelsAfter runtime options driver snapshot request front candidate arcs
        hops startPort label ancestors builder := by
  obtain ⟨env, path, returned, builds⟩ := found
  obtain ⟨startPort, label, ancestors, builder, followed, planned⟩ :=
    followed_of_builds formed searching returned builds
  have rebuilt := followed.rebuilt
  rw [passContext_eq_contextAfter iterative] at rebuilt
  have relaxed := rebuilt.of_alsoExcluding
  obtain ⟨hops, resolved, after⟩ := rebuilt.travelled formed
  obtain ⟨others, sameArcs, travelled⟩ := relaxed.travelled formed
  cases Option.some.inj (resolved.symm.trans sameArcs)
  exact ⟨path.arcs, hops, startPort, label, ancestors, builder,
    ⟨_, env, path, returned, rfl, builds⟩,
    ⟨followed.source, followed.destination, resolved, followed.proven, relaxed,
      travelled⟩, planned, after⟩

/-- A proven route has a step over the node of its source. -/
theorem Travels.forNode_source_mem {arcs : List ArcRef} {hops : List (Hop K)}
    {startPort : Nat} {label : Label K} {ancestors : List (Label K)}
    {builder : PlanBuilder K}
    (travels : Travels runtime snapshot request arcs hops startPort label
      ancestors builder) :
    ResourceKey.forNode request.source.node ∈
      builder.steps.map PlanStep.resource := by
  obtain ⟨start, started, proven⟩ := travels.rebuilt.started
  have covered := (started.published proven).1.covered
  have key : ((searchContext runtime snapshot request).port startPort).key =
      request.source := SearchContext.port_key_of_portIndex travels.source
  rw [travels.travelled.stepKeys travels.source]
  refine List.mem_append_left _ (List.mem_cons_of_mem _ ?_)
  cases found : snapshot.nodeIndex request.source.node with
  | none =>
      simp only [SearchContext.portInfo, key] at covered
      rw [show (searchContext runtime snapshot request).snapshot.nodeIndex
        request.source.node = none from found] at covered
      cases covered
  | some index =>
      obtain ⟨record, atIndex, same⟩ :=
        TopologySnapshot.getElem?_of_nodeIndex found
      have node : (searchContext runtime snapshot request).snapshot.findNode
          request.source.node = some record :=
        TopologySnapshot.findNode_of_nodeIndex found atIndex
      rw [node, ← same]
      exact List.mem_cons_self ..

/-- After a plan under node disjointness no further plan is found: the node of
the source is excluded with the others. -/
theorem not_foundAfter_of_node (formed : snapshot.WellFormed)
    (searching : earlyOutcome snapshot request = none)
    (ids : IdsParse snapshot request) (iterative : request.iterative = true)
    (disjoint : request.disjointness = .node) {first second : PlanArtifact K}
    (before : FoundAfter runtime options driver snapshot request [] first) :
    ¬ FoundAfter runtime options driver snapshot request [first] second := by
  intro found
  obtain ⟨_, _, _, _, _, firstBuilder, earlier⟩ :=
    before.travelsAfter formed searching iterative
  obtain ⟨_, _, startPort, _, _, _, later⟩ :=
    found.travelsAfter formed searching iterative
  obtain ⟨arrival, steps, _⟩ := finishPlan_stepKeys
    (searchContext runtime snapshot request) request
    (runtime.computeRequestDigest request) _ firstBuilder
  have recorded : ResourceKey.forNode request.source.node ∈
      first.steps.map PlanStep.resource := by
    rw [earlier.plan_eq, steps]
    exact List.mem_append_left _ earlier.travels.forNode_source_mem
  have excluded : request.source.node ∈
      (contextAfter runtime snapshot request [first]).constraints.excludedNodes := by
    refine List.mem_append_right _ ((mem_sortUnique runtime).mpr ?_)
    rw [disjoint]
    exact mem_exclusionsOf_nodes (List.mem_singleton.mpr rfl)
      (mem_stepNodes ids.source recorded)
  have allowed := later.after.allowed.1.node
  have key : ((contextAfter runtime snapshot request [first]).port
      startPort).key = request.source :=
    SearchContext.port_key_of_portIndex later.travels.source
  rw [key] at allowed
  exact allowed excluded

theorem afterSearch_candidates_length (single : request.iterative = false)
    (search : SearchOutcome) {state : PassState K E}
    (none_ : state.accepted = []) (clean : state.result.candidates = []) :
    (finishPasses runtime snapshot request (afterSearch runtime snapshot request
      search state)).1.candidates.length ≤ request.maxCandidates := by
  refine afterSearch_elim ?failed ?refused ?unplanned ?planned
  case failed =>
    intro _
    simp [finishPasses, finaliseResult_candidates, clean]
  case refused =>
    intro _ _ _
    simp [finishPasses, finaliseResult_candidates, clean]
  case unplanned =>
    intro _ _ _ _ _
    simp [finishPasses, finaliseResult_candidates, classify_candidates,
      withoutPlan_accepted, none_]
  case planned =>
    intro _ _ _ _ _ _ _
    rw [single]
    simp [finishPasses, finaliseResult_candidates, classify_candidates, none_]

/-- A request that is searched once gets at most the candidates it asks for. -/
theorem candidates_length_le_of_single (single : request.iterative = false)
    (env : E) :
    (plan runtime options driver snapshot request env).1.candidates.length ≤
      request.maxCandidates := by
  cases searching : earlyOutcome snapshot request with
  | some ended =>
      unfold plan
      rw [searching]
      exact Nat.zero_le _
  | none =>
      rw [plan_of_single single searching]
      exact afterSearch_candidates_length single _ rfl rfl

/-- The route of the first candidate when the first pass finds a single path. -/
theorem takesRoute_first {driver : SearchDriver Unit} {only : List ArcRef}
    (iterative : request.iterative = true)
    (paths : (passSearch runtime options driver snapshot request {}
      ()).1.paths.map RawPath.arcs = [only]) {first : PlanArtifact K}
    (head : first ∈ (plan runtime options driver snapshot request
      ()).1.candidates.head?) :
    TakesRoute runtime options driver snapshot request first only := by
  obtain ⟨rest, listed⟩ := List.head?_eq_some_iff.mp head
  have chained : Chained runtime options driver snapshot request _ :=
    candidates_chained iterative ()
  obtain ⟨env, path, returned, builds⟩ := chained [] first rest listed
  have member := List.mem_map_of_mem (f := RawPath.arcs) returned
  have same : path.arcs ∈ [only] := paths ▸ member
  exact ⟨_, env, path, returned, List.mem_singleton.mp same, builds⟩

/-- Node disjointness never gives more than one candidate. -/
theorem candidates_length_le_one (formed : snapshot.WellFormed)
    (ids : IdsParse snapshot request) (disjoint : request.disjointness = .node)
    (env : E) :
    (plan runtime options driver snapshot request env).1.candidates.length ≤
      1 := by
  cases iterative : request.iterative with
  | false =>
      have few : request.maxCandidates ≤ 1 := by
        simpa [PlanningRequest.iterative, disjoint] using iterative
      exact (candidates_length_le_of_single iterative env).trans few
  | true =>
      have chained : Chained runtime options driver snapshot request _ :=
        candidates_chained iterative env
      match listed :
          (plan runtime options driver snapshot request env).1.candidates with
      | [] => exact Nat.zero_le _
      | [_] => exact le_rfl
      | first :: second :: rest =>
          rw [listed] at chained
          have offered : first ∈
              (plan runtime options driver snapshot request env).1.candidates := by
            rw [listed]
            exact List.mem_cons_self ..
          exact (not_foundAfter_of_node formed
            (takesRoute_of_candidate offered).1 ids iterative disjoint
            (chained [] first (second :: rest) rfl)
            (chained [first] second rest rfl)).elim

end Exclusion

/-! ### Node-disjoint candidates -/

section Nodes

/-- The nodes of the ports a route stands on. -/
def routeNodes {K : Type} (start : PortRecord) (hops : List (Hop K)) :
    List NodeId :=
  start.key.node :: hops.map fun hop => hop.target.key.node

/-- Two routes share no node but those of the endpoints. -/
def NodeDisjoint {K : Type} (request : PlanningRequest K) (start : PortRecord)
    (first second : List (Hop K)) : Prop :=
  ∀ node ∈ routeNodes start first, node ∈ routeNodes start second →
    node = request.source.node ∨ node = request.destination.node

instance {K : Type} (request : PlanningRequest K) (start : PortRecord)
    (first second : List (Hop K)) :
    Decidable (NodeDisjoint request start first second) :=
  inferInstanceAs (Decidable (∀ node ∈ routeNodes start first,
    node ∈ routeNodes start second →
      node = request.source.node ∨ node = request.destination.node))

variable (runtime : Runtime K) (options : PlannerOptions)
  (driver : SearchDriver E) (snapshot : TopologySnapshot K)
  (request : PlanningRequest K)

/-- Beside the first candidate there is a proven route that shares with it no
node but those of the endpoints. -/
def SecondRouteExists (env : E) : Prop :=
  ∃ first ∈ (plan runtime options driver snapshot request
      env).1.candidates.head?,
    ∃ arcs start hops, BuiltFrom runtime snapshot request options driver first
        arcs start hops ∧
      ∃ otherArcs otherHops, ProvenRoute runtime snapshot request otherArcs ∧
        snapshot.hops otherArcs = some otherHops ∧
        NodeDisjoint request start hops otherHops

variable {runtime options driver snapshot request}

/-- A second route is never returned, whether or not there is one. -/
theorem second_route_found_iff (built : IsBuilt runtime snapshot)
    (ids : IdsParse snapshot request) (disjoint : request.disjointness = .node)
    (env : E) :
    (plan runtime options driver snapshot request env).1.candidates.length ≤
        1 ∧
      ((SecondRouteExists runtime options driver snapshot request env →
          2 ≤ (plan runtime options driver snapshot request
            env).1.candidates.length) ↔
        ¬ SecondRouteExists runtime options driver snapshot request env) := by
  have one : (plan runtime options driver snapshot request
      env).1.candidates.length ≤ 1 :=
    candidates_length_le_one built.wellFormed ids disjoint env
  refine ⟨one, ?_, fun none_ some_ => (none_ some_).elim⟩
  intro found exists_
  have two := found exists_
  omega

/-- Two ways from one node to another, each through a node of its own. -/
def twoWays : SnapshotBuilder ℚ :=
  (SnapshotBuilder.new ⟨text "ways"⟩ 1 {} {}).submitAll [
    .source { id := ⟨text "nms"⟩ },
    .node (.published "a"), .node (.published "b"), .node (.published "m"),
    .node (.published "n"),
    .reachProfile (.published "line" 100000 4 25 10),
    .port (.published (.of "a" "1") "line"),
    .port (.published (.of "b" "1") "line"),
    .port (.published (.of "m" "1") "line"),
    .port (.published (.of "n" "1") "line"),
    .span (.published "am" (.of "a" "1") (.of "m" "1") 40000 10 30),
    .span (.published "an" (.of "a" "1") (.of "n" "1") 40000 10 30),
    .span (.published "mb" (.of "m" "1") (.of "b" "1") 40000 10 30),
    .span (.published "nb" (.of "n" "1") (.of "b" "1") 40000 10 30)]

/-- A request for two routes that share no node. -/
def twoByNode : PlanningRequest ℚ :=
  { acrossSpan with maxCandidates := 2, disjointness := .node }

theorem twoWays_idsParse :
    IdsParse (twoWays.finished rationalRuntime) twoByNode :=
  ⟨by decide +kernel, by decide +kernel⟩

theorem twoWays_secondRouteExists :
    SecondRouteExists rationalRuntime {} .idle (twoWays.finished rationalRuntime)
      twoByNode () := by
  have some_ : (twoWays.planned twoByNode).candidates.head?.isSome = true := by
    decide +kernel
  have paths : (passSearch rationalRuntime {} .idle
      (twoWays.finished rationalRuntime) twoByNode {} ()).1.paths.map
        RawPath.arcs = [[⟨.span, 0, false⟩, ⟨.span, 2, false⟩]] := by
    decide +kernel
  have other : ProvenRoute rationalRuntime (twoWays.finished rationalRuntime)
      twoByNode [⟨.span, 1, false⟩, ⟨.span, 3, false⟩] := by decide +kernel
  have apart : (((twoWays.finished rationalRuntime).findPort
      twoByNode.source).bind fun start =>
        ((twoWays.finished rationalRuntime).hops
          [⟨.span, 0, false⟩, ⟨.span, 2, false⟩]).bind fun hops =>
          ((twoWays.finished rationalRuntime).hops
            [⟨.span, 1, false⟩, ⟨.span, 3, false⟩]).map fun otherHops =>
              decide (NodeDisjoint twoByNode start hops otherHops)) =
      some true := by decide +kernel
  obtain ⟨first, head⟩ := Option.isSome_iff_exists.mp some_
  rw [SnapshotBuilder.planned] at head
  obtain ⟨start, source, apart⟩ := Option.bind_eq_some_iff.mp apart
  obtain ⟨hops, resolved, apart⟩ := Option.bind_eq_some_iff.mp apart
  obtain ⟨otherHops, otherResolved, disjoint⟩ := Option.map_eq_some_iff.mp apart
  exact ⟨first, head, _, start, hops,
    ⟨takesRoute_first rfl paths head, source, resolved⟩, _, otherHops, other,
    otherResolved, of_decide_eq_true disjoint⟩

theorem second_route_found_iff_twoWays :
    SecondRouteExists rationalRuntime {} .idle (twoWays.finished rationalRuntime)
        twoByNode () ∧
      (twoWays.planned twoByNode).candidates.length ≤ 1 := by
  have built : IsBuilt rationalRuntime (twoWays.finished rationalRuntime) :=
    isBuilt_finished (by decide +kernel)
  refine ⟨twoWays_secondRouteExists, ?_⟩
  rw [SnapshotBuilder.planned]
  exact (second_route_found_iff built twoWays_idsParse rfl ()).1

/-- Everything is published, nothing is truncated, and the second route is not
found. -/
theorem twoWays_second_route_missed :
    ¬ ((twoWays.finished rationalRuntime).allPublished = true →
      (twoWays.finished rationalRuntime).allExpress = true →
      twoByNode.disjointness = .node → 2 ≤ twoByNode.maxCandidates →
      twoByNode.constraints.maxMembersPerFailureDomain = [] →
      (twoWays.planned twoByNode).statistics.truncated = false →
      SecondRouteExists rationalRuntime {} .idle
        (twoWays.finished rationalRuntime) twoByNode () →
      2 ≤ (twoWays.planned twoByNode).candidates.length) := by
  intro found
  have two := found (by decide +kernel) (by decide +kernel) rfl (by decide) rfl
    (by decide +kernel) twoWays_secondRouteExists
  exact absurd two (by decide +kernel)

end Nodes

/-! ### Pairwise disjointness -/

section Pairwise

/-- A plan reports the domain. -/
def PlanArtifact.exposes {K : Type} (plan : PlanArtifact K)
    (domain : FailureDomainId) : Prop :=
  domain ∈ plan.failureDomainExposure.map FailureDomainExposure.id

namespace TopologySnapshot

variable {K : Type} (snapshot : TopologySnapshot K)

/-- The domains the exclusion checks look at along a route. -/
def checkedDomains (start : PortRecord) (hops : List (Hop K)) :
    List FailureDomainId :=
  start.failureDomains ++ hops.flatMap fun hop => hop.link.failureDomains

/-- The domains a plan notes at resources no exclusion check looks at: the node
of the source, the ports it arrives at, and the nodes it enters other than by
an express cross-connect. -/
def uncheckedDomains (start : PortRecord) (hops : List (Hop K)) :
    List FailureDomainId :=
  (nodeResource (snapshot.findNode start.key.node)).flatten ++
    hops.flatMap fun hop => hop.target.failureDomains ++
      (if hop.link.express then []
        else nodeResource (snapshot.enteredBy hop)).flatten

variable {snapshot}

theorem mem_planResources_iff {start : PortRecord} {hops : List (Hop K)}
    {domain : FailureDomainId} :
    domain ∈ (snapshot.planResources start hops).flatten ↔
      domain ∈ checkedDomains start hops ∨
        domain ∈ snapshot.uncheckedDomains start hops := by
  have onHop (hop : Hop K) : (snapshot.notedResources hop).flatten =
      hop.link.failureDomains ++ (hop.target.failureDomains ++
        (if hop.link.express then []
          else nodeResource (snapshot.enteredBy hop)).flatten) := by
    simp [notedResources]
  have onHops : (hops.flatMap snapshot.notedResources).flatten =
      hops.flatMap fun hop => (snapshot.notedResources hop).flatten := by
    simp [List.flatMap_def, List.flatten_flatten, Function.comp_def]
  unfold planResources startResources checkedDomains uncheckedDomains
  rw [List.flatten_append, onHops, List.flatten_cons]
  simp only [onHop, List.mem_append, List.mem_flatMap]
  constructor
  · rintro ((port | node) | ⟨hop, member, link | arrival⟩)
    · exact .inl (.inl port)
    · exact .inr (.inl node)
    · exact .inl (.inr ⟨hop, member, link⟩)
    · exact .inr (.inr ⟨hop, member, arrival⟩)
  · rintro ((port | ⟨hop, member, link⟩) | (node | ⟨hop, member, arrival⟩))
    · exact .inl (.inl port)
    · exact .inr ⟨hop, member, .inl link⟩
    · exact .inl (.inr node)
    · exact .inr ⟨hop, member, .inr arrival⟩

end TopologySnapshot

variable {runtime : Runtime K} {options : PlannerOptions}
  {driver : SearchDriver E} {snapshot : TopologySnapshot K}
  {request : PlanningRequest K} {arcs : List ArcRef} {hops : List (Hop K)}
  {startPort : Nat} {label : Label K} {ancestors : List (Label K)}
  {builder : PlanBuilder K}

/-- A plan reports the domains it noted along its route. -/
theorem Travels.exposes_iff
    (travels : Travels runtime snapshot request arcs hops startPort label
      ancestors builder) (requestDigest : Digest256)
    {domain : FailureDomainId} :
    ((searchContext runtime snapshot request).finishPlan request requestDigest
        arcs.length builder).exposes domain ↔
      domain ∈ (snapshot.planResources ((searchContext runtime snapshot
        request).port startPort) hops).flatten := by
  have tallies := travels.travelled.tallies travels.source
  unfold PlanArtifact.exposes
  rw [finishPlan_exposure, List.map_map]
  exact tallies.listed domain

/-- A plan has steps over the spans of its route. -/
theorem Travels.usesSpan_iff
    (travels : Travels runtime snapshot request arcs hops startPort label
      ancestors builder) (requestDigest : Digest256) {id : SpanId} :
    ((searchContext runtime snapshot request).finishPlan request requestDigest
        arcs.length builder).usesSpan id ↔
      ∃ hop ∈ hops, ∃ record reversed, hop.link = .span record reversed ∧
        record.id = id := by
  obtain ⟨arrival, steps, ports⟩ := finishPlan_stepKeys
    (searchContext runtime snapshot request) request requestDigest arcs.length
    builder
  have notPort {key : PortKey} : ResourceKey.forSpan id ≠ .forPort key := by
    intro same
    cases congrArg ResourceKey.kind same
  unfold PlanArtifact.usesSpan
  rw [steps, travels.travelled.stepKeys travels.source]
  constructor
  · intro member
    rcases List.mem_append.mp member with along | last
    · rcases List.mem_append.mp along with atStart | onHop
      · rcases List.mem_cons.mp atStart with port | node
        · exact (notPort port).elim
        · exact (forSpan_not_mem_nodeKeys id _ node).elim
      · obtain ⟨hop, ofRoute, named⟩ := List.mem_flatMap.mp onHop
        exact ⟨hop, ofRoute, forSpan_mem_hopKeys.mp named⟩
    · exact (notPort (ports _ last)).elim
  · rintro ⟨hop, ofRoute, named⟩
    exact List.mem_append_left _ (List.mem_append_right _
      (List.mem_flatMap.mpr ⟨hop, ofRoute, forSpan_mem_hopKeys.mpr named⟩))

variable (runtime options driver snapshot request) in
/-- Two candidates are disjoint in the way the request asks for. -/
structure DisjointBy (first second : PlanArtifact K) : Prop where
  spans : request.disjointness = .span →
    ∀ id, first.usesSpan id → ¬ second.usesSpan id
  domains : request.disjointness = .failureDomain →
    ∀ domain, first.exposes domain → ¬ second.exposes domain
  nodes : request.disjointness = .node →
    ∀ firstArcs secondArcs start firstHops secondHops,
      BuiltFrom runtime snapshot request options driver first firstArcs start
        firstHops →
      BuiltFrom runtime snapshot request options driver second secondArcs start
        secondHops →
      NodeDisjoint request start firstHops secondHops

/-- A route whose checked resources avoid the domains that a plan of another
route notes avoids them altogether. -/
def TopologySnapshot.KeptApart {K : Type} (snapshot : TopologySnapshot K)
    (start : PortRecord) (first second : List (Hop K)) : Prop :=
  (∀ domain ∈ (snapshot.planResources start first).flatten,
      domain ∉ TopologySnapshot.checkedDomains start second) →
    ∀ domain ∈ (snapshot.planResources start first).flatten,
      domain ∉ snapshot.uncheckedDomains start second

section After

variable {front : List (PlanArtifact K)} {first second : PlanArtifact K}

/-- A later candidate uses no span of an earlier one. -/
theorem TravelsAfter.spans_disjoint (ids : IdsParse snapshot request)
    (disjoint : request.disjointness = .span)
    (found : TravelsAfter runtime options driver snapshot request front second
      arcs hops startPort label ancestors builder) (earlier : first ∈ front)
    {id : SpanId} (used : first.usesSpan id) : ¬ second.usesSpan id := by
  rw [found.plan_eq, found.travels.usesSpan_iff]
  rintro ⟨⟨_, target⟩, member, record, reversed, rfl, rfl⟩
  have parses := ids.spans record
    (TopologySnapshot.mem_spans_of_hops found.travels.resolved member)
  refine (found.after.allowed.2 _ member).1.1 ?_
  refine List.mem_append_right _ ((mem_sortUnique runtime).mpr ?_)
  rw [disjoint]
  exact mem_exclusionsOf_spans earlier (mem_stepSpans parses used)

/-- The checked resources of a later candidate avoid what an earlier one
reports. -/
theorem TravelsAfter.checked_disjoint
    (disjoint : request.disjointness = .failureDomain)
    (found : TravelsAfter runtime options driver snapshot request front second
      arcs hops startPort label ancestors builder) (earlier : first ∈ front)
    {domain : FailureDomainId} (reported : first.exposes domain) :
    domain ∉ TopologySnapshot.checkedDomains ((searchContext runtime snapshot
      request).port startPort) hops := by
  obtain ⟨exposure, listed, rfl⟩ := List.mem_map.mp reported
  have excluded : exposure.id ∈ (contextAfter runtime snapshot request
      front).constraints.excludedFailureDomains := by
    refine List.mem_append_right _ ((mem_sortUnique runtime).mpr ?_)
    rw [disjoint]
    exact mem_exclusionsOf_domains earlier listed
  obtain ⟨start, links⟩ := found.after.checked
  intro checked
  rcases List.mem_append.mp checked with atStart | onHop
  · exact start exposure.id atStart excluded
  · obtain ⟨hop, member, ofHop⟩ := List.mem_flatMap.mp onHop
    exact links hop member exposure.id ofHop excluded

/-- A later candidate is disjoint from an earlier one that reports none of the
domains it notes without a check. -/
theorem TravelsAfter.disjointBy (ids : IdsParse snapshot request)
    (notNode : request.disjointness ≠ .node)
    (found : TravelsAfter runtime options driver snapshot request front second
      arcs hops startPort label ancestors builder) (earlier : first ∈ front)
    (clear : request.disjointness = .failureDomain →
      ∀ domain ∈ snapshot.uncheckedDomains ((searchContext runtime snapshot
        request).port startPort) hops, ¬ first.exposes domain) :
    DisjointBy runtime options driver snapshot request first second := by
  refine ⟨fun disjoint id used => found.spans_disjoint ids disjoint earlier used,
    ?_, fun byNode => (notNode byNode).elim⟩
  intro disjoint domain reported
  rw [found.plan_eq, found.travels.exposes_iff,
    TopologySnapshot.mem_planResources_iff]
  rintro (checked | unchecked)
  · exact found.checked_disjoint disjoint earlier reported checked
  · exact clear disjoint domain unchecked reported

/-- When a candidate has one before it, the passes found it after the others,
and the request does not ask for disjoint nodes. -/
theorem exists_travelsAfter (formed : snapshot.WellFormed)
    (ids : IdsParse snapshot request) {env : E} {back : List (PlanArtifact K)}
    (split : (plan runtime options driver snapshot request env).1.candidates =
      front ++ second :: back) (earlier : first ∈ front)
    (asked : request.disjointness ≠ .none) :
    request.disjointness ≠ .node ∧
      ∃ arcs hops startPort label ancestors builder,
        TravelsAfter runtime options driver snapshot request front second arcs
          hops startPort label ancestors builder := by
  have two : 2 ≤ (plan runtime options driver snapshot request
      env).1.candidates.length := by
    have some_ := List.length_pos_of_mem earlier
    rw [split, List.length_append, List.length_cons]
    omega
  have offered : second ∈
      (plan runtime options driver snapshot request env).1.candidates := by
    rw [split]
    exact List.mem_append_right _ (List.mem_cons_self ..)
  obtain ⟨searching, _⟩ := takesRoute_of_candidate offered
  have iterative : request.iterative = true := by
    by_contra single
    rw [Bool.not_eq_true] at single
    have few : request.maxCandidates ≤ 1 := by
      simpa [PlanningRequest.iterative, asked] using single
    have bound : (plan runtime options driver snapshot request
      env).1.candidates.length ≤ _ := candidates_length_le_of_single single env
    omega
  refine ⟨?_, ?_⟩
  · intro byNode
    have one : (plan runtime options driver snapshot request
        env).1.candidates.length ≤ 1 :=
      candidates_length_le_one formed ids byNode env
    omega
  · exact (candidates_chained iterative env front second back
      split).travelsAfter formed searching iterative

end After

omit [Field K] [LinearOrder K] in
theorem pairwise_of_splits {relation : PlanArtifact K → PlanArtifact K → Prop}
    {plans : List (PlanArtifact K)}
    (related : ∀ front second back, plans = front ++ second :: back →
      ∀ first ∈ front, relation first second) : plans.Pairwise relation := by
  rw [List.pairwise_iff_getElem]
  intro i j inI inJ before
  refine related (plans.take j) (plans[j]) (plans.drop (j + 1)) ?_ _ ?_
  · rw [List.getElem_cons_drop, List.take_append_drop]
  · exact List.mem_take_iff_getElem.mpr ⟨i, by omega, rfl⟩

/-- Where no port and no node lists a domain, everything is checked. -/
theorem TopologySnapshot.keptApart_of_bare {K : Type}
    {snapshot : TopologySnapshot K} {arcs : List ArcRef} {start : PortRecord}
    {first second : List (Hop K)}
    (barePorts : ∀ port ∈ snapshot.ports, port.failureDomains = [])
    (bareNodes : ∀ node ∈ snapshot.nodes, node.failureDomains = [])
    (resolved : snapshot.hops arcs = some second) :
    snapshot.KeptApart start first second := by
  have bareNode (node : Option NodeRecord)
      (listed : ∀ record, node = some record → record ∈ snapshot.nodes) :
      (nodeResource node).flatten = [] := by
    cases node with
    | none => rfl
    | some record => simp [nodeResource, bareNodes record (listed record rfl)]
  have atStart := bareNode (snapshot.findNode start.key.node) fun _ found =>
    SearchContext.mem_nodes_of_findNode found
  intro _ domain _ unchecked
  rcases List.mem_append.mp unchecked with node | onHop
  · rw [atStart] at node
    cases node
  · obtain ⟨hop, member, noted⟩ := List.mem_flatMap.mp onHop
    have entered := bareNode (snapshot.enteredBy hop) fun record found => by
      unfold enteredBy at found
      split_ifs at found
      exact SearchContext.mem_nodes_of_findNode found
    rw [barePorts hop.target (mem_ports_of_hops resolved member),
      List.nil_append] at noted
    split_ifs at noted
    · cases noted
    · rw [entered] at noted
      cases noted

/-- Two spans between the same ports, each in a domain of its own, and the
domains of the far port. -/
def parallelSpans (domains : List FailureDomainId) : SnapshotBuilder ℚ :=
  (SnapshotBuilder.new ⟨text "parallel"⟩ 1 {} {}).submitAll [
    .source { id := ⟨text "nms"⟩ },
    .node (.published "a"), .node (.published "b"),
    .reachProfile (.published "line" 100000 4 25 10),
    .port (.published (.of "a" "1") "line"),
    .port { PortRecord.published (.of "b" "1") "line" with
      failureDomains := domains },
    .span { SpanRecord.published "ab1" (.of "a" "1") (.of "b" "1") 80000 20 30
      with failureDomains := [⟨text "north"⟩] },
    .span { SpanRecord.published "ab2" (.of "a" "1") (.of "b" "1") 80000 20 30
      with failureDomains := [⟨text "south"⟩] }]

/-- A request for two routes that share no failure domain. -/
def twoByDomain : PlanningRequest ℚ :=
  { acrossSpan with maxCandidates := 2, disjointness := .failureDomain }

end Pairwise

end OpticalPathPlanner
