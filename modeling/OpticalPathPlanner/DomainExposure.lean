import OpticalPathPlanner.FailureDomains

/-!
# Exposure and exclusion of failure domains

The exposure a plan reports against the resources of its route, the count
that the search holds against the member limits, and the domains a request
excludes.
-/

namespace OpticalPathPlanner

open SortedRanges Traced

variable {K E : Type} [Field K] [LinearOrder K]

namespace SearchContext

variable {ctx : SearchContext K} {rules : RouteRules K}
  {request : PlanningRequest K} {startPort : Nat}

/-! ### The count of the search -/

theorem mem_ports_of_portIndex {key : PortKey} {index : Nat}
    (found : ctx.snapshot.portIndex key = some index) :
    ctx.port index ∈ ctx.snapshot.ports := by
  obtain ⟨record, atIndex, _⟩ := TopologySnapshot.getElem?_of_portIndex found
  rw [port_eq atIndex]
  exact List.mem_of_getElem? atIndex

omit [Field K] [LinearOrder K] in
theorem mem_nodes_of_findNode {snapshot : TopologySnapshot K} {id : NodeId}
    {node : NodeRecord} (found : snapshot.findNode id = some node) :
    node ∈ snapshot.nodes := by
  unfold TopologySnapshot.findNode at found
  obtain ⟨index, _, atIndex⟩ := Option.bind_eq_some_iff.mp found
  exact List.mem_of_getElem? atIndex

theorem nodeResource_ordered {node : Option NodeRecord}
    (ordered : ctx.snapshot.DomainsOrdered)
    (listed : ∀ record, node = some record → record ∈ ctx.snapshot.nodes) :
    ∀ resource ∈ TopologySnapshot.nodeResource node,
      resource.Pairwise (· < ·) := by
  intro resource member
  obtain ⟨record, isNode, rfl⟩ := List.mem_map.mp member
  exact ordered.nodes record (listed record (Option.mem_toList.mp isNode))

theorem enteredBy_ordered (ordered : ctx.snapshot.DomainsOrdered)
    (hop : Hop K) :
    ∀ resource ∈ TopologySnapshot.nodeResource (ctx.snapshot.enteredBy hop),
      resource.Pairwise (· < ·) := by
  refine nodeResource_ordered ordered ?_
  intro record entered
  unfold TopologySnapshot.enteredBy at entered
  split_ifs at entered
  exact mem_nodes_of_findNode entered

/-- Every resource of a walk lists its domains in order. -/
theorem Travelled.resources_ordered (ordered : ctx.snapshot.DomainsOrdered)
    (source : ctx.snapshot.portIndex request.source = some startPort)
    {hops : List (Hop K)} {path : List (Label K)} {builder : PlanBuilder K}
    (travelled : ctx.Travelled rules request startPort hops path builder) :
    ∀ resource ∈ ctx.snapshot.routeResources (ctx.port startPort) hops,
      resource.Pairwise (· < ·) := by
  have extend {hops : List (Hop K)} {hop : Hop K}
      (earlier : ∀ resource ∈
        ctx.snapshot.routeResources (ctx.port startPort) hops,
        resource.Pairwise (· < ·))
      (link : hop.link.failureDomains.Pairwise (· < ·))
      (target : hop.target.failureDomains.Pairwise (· < ·)) :
      ∀ resource ∈ ctx.snapshot.routeResources (ctx.port startPort)
        (hops ++ [hop]), resource.Pairwise (· < ·) := by
    unfold TopologySnapshot.routeResources at earlier ⊢
    rw [List.flatMap_append, List.flatMap_singleton, ← List.append_assoc]
    refine List.forall_mem_append.mpr ⟨earlier, ?_⟩
    refine List.forall_mem_cons.mpr ⟨link, List.forall_mem_cons.mpr ⟨target, ?_⟩⟩
    exact enteredBy_ordered ordered hop
  induction travelled with
  | start started _ _ =>
      unfold TopologySnapshot.routeResources TopologySnapshot.startResources
      rw [List.flatMap_nil, List.append_nil]
      refine List.forall_mem_cons.mpr
        ⟨ordered.ports _ (mem_ports_of_portIndex source), ?_⟩
      exact nodeResource_ordered ordered fun record found =>
        mem_nodes_of_findNode found
  | span before departs step allows proven built ih =>
      exact extend ih (ordered.spans _ (List.mem_of_getElem? built.record))
        (ordered.ports _ (mem_ports_of_portIndex step.target))
  | crossConnect before departs step allows proven built ih =>
      exact extend ih
        (ordered.crossConnects _ (List.mem_of_getElem? built.atIndex))
        (ordered.ports _ (mem_ports_of_portIndex step.target))

theorem toNat_binarySearch {resource : List FailureDomainId}
    (ordered : resource.Pairwise (· < ·)) (domain : FailureDomainId) :
    (binarySearch resource domain).toNat =
      if decide (domain ∈ resource) then 1 else 0 := by
  have sorted : resource.Pairwise (· ≤ ·) := ordered.imp le_of_lt
  by_cases member : domain ∈ resource
  · rw [(binarySearch_iff sorted).mpr member]
    simp [member]
  · have missing : binarySearch resource domain = false := by
      rw [← Bool.not_eq_true, binarySearch_iff sorted]
      exact member
    rw [missing]
    simp [member]

/-- A node is found under its own id only. -/
theorem nodeIndex_inj {first second : NodeId} {index : Nat}
    (firstFound : ctx.snapshot.nodeIndex first = some index)
    (secondFound : ctx.snapshot.nodeIndex second = some index) :
    first = second := by
  obtain ⟨record, atIndex, firstId⟩ :=
    TopologySnapshot.getElem?_of_nodeIndex firstFound
  obtain ⟨other, otherAt, secondId⟩ :=
    TopologySnapshot.getElem?_of_nodeIndex secondFound
  rw [atIndex] at otherAt
  cases otherAt
  exact firstId.symm.trans secondId

/-- The members at a port, with its node when the node is newly entered. -/
theorem portMembers_eq (ordered : ctx.snapshot.DomainsOrdered)
    {portIndex : Nat} (isPort : ctx.port portIndex ∈ ctx.snapshot.ports)
    (fromNode : Option NodeId) (domain : FailureDomainId) :
    ctx.portMembers (fromNode.bind ctx.snapshot.nodeIndex) portIndex domain =
      ((ctx.port portIndex).failureDomains ::
        TopologySnapshot.nodeResource
          (if fromNode = some (ctx.port portIndex).key.node then none
          else ctx.snapshot.findNode (ctx.port portIndex).key.node)).countP
        fun resource => decide (domain ∈ resource) := by
  have port := toNat_binarySearch (ordered.ports _ isPort) domain
  unfold portMembers
  simp only [portInfo_nodeIndex]
  rw [List.countP_cons, port, Nat.add_comm]
  congr 1
  cases found : ctx.snapshot.nodeIndex (ctx.port portIndex).key.node with
  | none =>
      rw [TopologySnapshot.findNode_eq_none_of_nodeIndex found]
      simp [TopologySnapshot.nodeResource]
  | some index =>
      obtain ⟨record, atIndex, _⟩ := TopologySnapshot.getElem?_of_nodeIndex found
      have node := toNat_binarySearch
        (ordered.nodes record (List.mem_of_getElem? atIndex)) domain
      rw [TopologySnapshot.findNode_of_nodeIndex found atIndex]
      by_cases same : fromNode = some (ctx.port portIndex).key.node
      · rw [if_pos same]
        simp [same, found, TopologySnapshot.nodeResource]
      · have differs : some index ≠ fromNode.bind ctx.snapshot.nodeIndex := by
          intro equal
          obtain ⟨id, isId, other⟩ := Option.bind_eq_some_iff.mp equal.symm
          exact same (isId.trans (congrArg some (nodeIndex_inj other found)))
        rw [if_neg same]
        simp only [if_neg differs, SearchContext.node, atIndex, Option.getD_some,
          node, TopologySnapshot.nodeResource, Option.toList_some,
          List.map_cons, List.map_nil, List.countP_singleton]

theorem pathMembers_cons {label parent : Label K} {rest : List (Label K)}
    {arc : ArcRef} (arrival : label.arrival = some arc)
    (domain : FailureDomainId) :
    ctx.pathMembers domain (label :: parent :: rest) =
      ctx.arcMembers arc parent.portIndex label.portIndex domain +
        ctx.pathMembers domain (parent :: rest) := by
  rw [pathMembers.eq_def]
  simp only [arrival]

/-- The members an arc adds are those of its hop. -/
theorem arcMembers_eq (ordered : ctx.snapshot.DomainsOrdered) (arc : ArcRef)
    (link : Link K) {fromPort toPort : Nat}
    (isPort : ctx.port toPort ∈ ctx.snapshot.ports)
    (domains : ctx.arcDomains arc = link.failureDomains)
    (linkOrdered : link.failureDomains.Pairwise (· < ·))
    (departs : link.departure = (ctx.port fromPort).key)
    (arrives : (ctx.port toPort).key = link.arrival)
    (domain : FailureDomainId) :
    ctx.arcMembers arc fromPort toPort domain =
      (ctx.snapshot.hopResources ⟨link, ctx.port toPort⟩).countP fun resource =>
        decide (domain ∈ resource) := by
  have members := portMembers_eq ordered isPort
    (some (ctx.port fromPort).key.node) domain
  rw [Option.bind_some] at members
  have entered : ctx.snapshot.enteredBy ⟨link, ctx.port toPort⟩ =
      if some (ctx.port fromPort).key.node = some (ctx.port toPort).key.node
        then none else ctx.snapshot.findNode (ctx.port toPort).key.node := by
    unfold TopologySnapshot.enteredBy
    simp only [departs, ← arrives, Option.some.injEq,
      eq_comm (a := (ctx.port toPort).key.node)]
  rw [arcMembers, portInfo_nodeIndex, members, domains,
    toNat_binarySearch linkOrdered, TopologySnapshot.hopResources, entered,
    List.countP_cons (a := link.failureDomains), Nat.add_comm]

/-- The search counts every resource of a walk. -/
theorem Travelled.pathMembers_eq (ordered : ctx.snapshot.DomainsOrdered)
    (source : ctx.snapshot.portIndex request.source = some startPort)
    {hops : List (Hop K)} {path : List (Label K)} {builder : PlanBuilder K}
    (travelled : ctx.Travelled rules request startPort hops path builder)
    (domain : FailureDomainId) :
    ctx.pathMembers domain path =
      ctx.snapshot.routeMembers (ctx.port startPort) hops domain := by
  induction travelled with
  | start started _ _ =>
      have labelEq := started.label_eq
      have members := portMembers_eq ordered (mem_ports_of_portIndex source) none
        domain
      rw [labelEq]
      simpa [pathMembers, TopologySnapshot.routeMembers,
        TopologySnapshot.routeResources, TopologySnapshot.startResources] using
        members
  | @span hops current next ancestors _ index reversed _ _ _ _ before departs
      step allows proven built ih =>
      have arrival : next.arrival = some ⟨.span, index, reversed⟩ := by
        rw [step.next_eq]
      have members := arcMembers_eq ordered ⟨.span, index, reversed⟩
        (.span (ctx.span index) reversed)
        (mem_ports_of_portIndex step.target) rfl
        (ordered.spans _ (List.mem_of_getElem? built.record)) departs
        (port_key_of_portIndex step.target) domain
      rw [TopologySnapshot.routeMembers_concat, ← ih, pathMembers_cons arrival,
        members, Nat.add_comm]
  | @crossConnect hops current next ancestors _ _ index before departs step
      allows proven built ih =>
      have arrival : next.arrival = some ⟨.crossConnect, index, false⟩ := by
        rw [step.next_eq, operated_arrival]
      have members := arcMembers_eq ordered ⟨.crossConnect, index, false⟩
        (.crossConnect (ctx.crossConnect index))
        (mem_ports_of_portIndex step.target) rfl
        (ordered.crossConnects _ (List.mem_of_getElem? built.atIndex)) departs
        (port_key_of_portIndex step.target) domain
      rw [TopologySnapshot.routeMembers_concat, ← ih, pathMembers_cons arrival,
        members, Nat.add_comm]

/-- A walk of at least one arc stays within the member limits. -/
theorem Travelled.members_le {hops : List (Hop K)} {path : List (Label K)}
    {builder : PlanBuilder K}
    (travelled : ctx.Travelled rules request startPort hops path builder)
    (some_ : hops ≠ []) {limit : FailureDomainId × UInt32}
    (limited : limit ∈ ctx.constraints.maxMembersPerFailureDomain) :
    ctx.pathMembers limit.1 path ≤ limit.2.toNat := by
  have within {current : Label K} {ancestors : List (Label K)} {arc : ArcRef}
      {toPort : Nat} (allows : ctx.PathAllows current ancestors arc toPort) :
      ctx.pathMembers limit.1 (current :: ancestors) +
        ctx.arcMembers arc current.portIndex toPort limit.1 ≤
          limit.2.toNat := by
    have members := allows.members
    unfold memberLimitExceeded at members
    rw [List.any_eq_false] at members
    simpa using members limit limited
  cases travelled with
  | start _ _ _ => exact (some_ rfl).elim
  | span before departs step allows proven built =>
      have arrival := congrArg Label.arrival step.next_eq
      rw [pathMembers_cons arrival, Nat.add_comm]
      exact within allows
  | crossConnect before departs step allows proven built =>
      have arrival := congrArg Label.arrival step.next_eq
      rw [operated_arrival] at arrival
      rw [pathMembers_cons arrival, Nat.add_comm]
      exact within allows

end SearchContext

/-! ### The exposure of a plan -/

section Exposure

/-- The members a plan reports for a domain, zero if it lists none. -/
def PlanArtifact.exposureTo (plan : PlanArtifact K) (domain : FailureDomainId) :
    Nat :=
  ((plan.failureDomainExposure.find? fun exposure =>
    exposure.id = domain).map FailureDomainExposure.memberCount).getD 0

/-- The resources of a hop that a plan leaves out: the node that an express
cross-connect enters. -/
def TopologySnapshot.unnotedResources (snapshot : TopologySnapshot K)
    (hop : Hop K) : List (List FailureDomainId) :=
  if hop.link.express then nodeResource (snapshot.enteredBy hop) else []

/-- No express cross-connect enters another node that lists a domain. -/
def TopologySnapshot.ExpressEntersNoDomain (snapshot : TopologySnapshot K)
    (hops : List (Hop K)) : Prop :=
  ∀ hop ∈ hops, hop.link.express = true →
    ∀ node, snapshot.enteredBy hop = some node → node.failureDomains = []

omit [Field K] [LinearOrder K] in
theorem routeMembers_eq_add {snapshot : TopologySnapshot K} (start : PortRecord)
    (hops : List (Hop K)) (domain : FailureDomainId) :
    snapshot.routeMembers start hops domain =
      ((snapshot.planResources start hops).countP fun resource =>
        decide (domain ∈ resource)) +
      (hops.flatMap snapshot.unnotedResources).countP fun resource =>
        decide (domain ∈ resource) := by
  have hopEq (hop : Hop K) :
      ((snapshot.hopResources hop).countP fun resource =>
          decide (domain ∈ resource)) =
        ((snapshot.notedResources hop).countP fun resource =>
          decide (domain ∈ resource)) +
        (snapshot.unnotedResources hop).countP fun resource =>
          decide (domain ∈ resource) := by
    unfold TopologySnapshot.hopResources TopologySnapshot.notedResources
      TopologySnapshot.unnotedResources
    cases hop.link.express
    · simp
    · simp only [if_true, List.countP_cons, List.countP_nil]
      omega
  induction hops using List.reverseRecOn with
  | nil => simp [TopologySnapshot.routeMembers, TopologySnapshot.routeResources,
      TopologySnapshot.planResources]
  | append_singleton hops hop ih =>
      rw [TopologySnapshot.routeMembers_concat, ih, hopEq,
        TopologySnapshot.planResources_concat, List.flatMap_append,
        List.flatMap_singleton, List.countP_append, List.countP_append]
      omega

omit [Field K] [LinearOrder K] in
theorem expressEntersNoDomain_iff {snapshot : TopologySnapshot K}
    {hops : List (Hop K)} :
    snapshot.ExpressEntersNoDomain hops ↔
      ∀ domain, ((hops.flatMap snapshot.unnotedResources).countP fun resource =>
        decide (domain ∈ resource)) = 0 := by
  simp only [List.countP_eq_zero, decide_eq_true_eq]
  constructor
  · intro clear domain resource member inResource
    obtain ⟨hop, onRoute, ofHop⟩ := List.mem_flatMap.mp member
    unfold TopologySnapshot.unnotedResources at ofHop
    split_ifs at ofHop with express
    · obtain ⟨node, entered, rfl⟩ := List.mem_map.mp ofHop
      rw [clear hop onRoute express node (Option.mem_toList.mp entered)]
        at inResource
      cases inResource
    · cases ofHop
  · intro zero hop onRoute express node entered
    refine List.eq_nil_iff_forall_not_mem.mpr fun domain => zero domain _ ?_
    refine List.mem_flatMap.mpr ⟨hop, onRoute, ?_⟩
    unfold TopologySnapshot.unnotedResources
    rw [if_pos express, entered]
    exact List.mem_singleton.mpr rfl

variable {runtime : Runtime K} {options : PlannerOptions}
  {driver : SearchDriver E} {snapshot : TopologySnapshot K}
  {request : PlanningRequest K} {arcs : List ArcRef} {hops : List (Hop K)}
  {startPort : Nat} {label : Label K} {ancestors : List (Label K)}
  {builder : PlanBuilder K}

variable (request) in
theorem finishPlan_exposure (ctx : SearchContext K) (requestDigest : Digest256)
    (arcCount : Nat) (builder : PlanBuilder K) :
    (ctx.finishPlan request requestDigest arcCount
        builder).failureDomainExposure =
      builder.domainCounts.map fun entry =>
        ⟨entry.1, entry.2, ctx.memberLimit entry.1⟩ := by
  unfold SearchContext.finishPlan
  rw [SearchContext.closeSegment_eq]
  simp only
  split_ifs <;> rfl

/-- What a plan reports is what its builder counted. -/
theorem Travels.exposureTo_eq (built : IsBuilt runtime snapshot)
    (travels : Travels runtime snapshot request arcs hops startPort label
      ancestors builder) (requestDigest : Digest256)
    (domain : FailureDomainId) :
    ((searchContext runtime snapshot request).finishPlan request requestDigest
        arcs.length builder).exposureTo domain =
      (snapshot.planResources ((searchContext runtime snapshot request).port
        startPort) hops).countP fun resource => decide (domain ∈ resource) := by
  have tallies := travels.travelled.tallies travels.source
  have ordered := travels.travelled.resources_ordered built.domainsOrdered
    travels.source
  have noted := count_flatten_eq_countP (fun resource member => ordered resource
    (TopologySnapshot.mem_routeResources_of_planResources member)) domain
  rw [PlanArtifact.exposureTo, finishPlan_exposure]
  refine Eq.trans ?_ ((tallies.count domain).trans noted)
  rw [membersOf, List.find?_map, Option.map_map]
  rfl

variable (runtime snapshot request) in
/-- The exposure of a plan is that of its route, is the count the search made
at the last arc, and is within the limits of the request. -/
structure ExposureExact (candidate : PlanArtifact K) (arcs : List ArcRef)
    (start : PortRecord) (hops : List (Hop K)) : Prop where
  reported : ∀ domain, candidate.exposureTo domain =
    snapshot.routeMembers start hops domain
  counted : ∀ startPort path,
    snapshot.portIndex request.source = some startPort →
    (searchContext runtime snapshot request).walk startPort arcs = some path →
    ∀ domain, candidate.exposureTo domain =
      (searchContext runtime snapshot request).pathMembers domain path
  limited : ∀ limit ∈ request.constraints.maxMembersPerFailureDomain,
    candidate.exposureTo limit.1 ≤ limit.2.toNat

theorem Travels.exposureExact_iff (built : IsBuilt runtime snapshot)
    (distinct : request.source ≠ request.destination)
    (travels : Travels runtime snapshot request arcs hops startPort label
      ancestors builder) (requestDigest : Digest256) :
    ExposureExact runtime snapshot request
        ((searchContext runtime snapshot request).finishPlan request
          requestDigest arcs.length builder) arcs
        ((searchContext runtime snapshot request).port startPort) hops ↔
      snapshot.ExpressEntersNoDomain hops := by
  have reported := travels.exposureTo_eq built requestDigest
  have counted := travels.travelled.pathMembers_eq built.domainsOrdered
    travels.source
  rw [expressEntersNoDomain_iff]
  constructor
  · intro exact_ domain
    have same := exact_.reported domain
    rw [reported, routeMembers_eq_add] at same
    omega
  · intro clear
    have same (domain : FailureDomainId) :
        ((searchContext runtime snapshot request).finishPlan request
          requestDigest arcs.length builder).exposureTo domain =
        snapshot.routeMembers ((searchContext runtime snapshot request).port
          startPort) hops domain := by
      rw [reported, routeMembers_eq_add, clear domain, Nat.add_zero]
    refine ⟨same, ?_, ?_⟩
    · intro otherPort path source walked domain
      cases travels.source.symm.trans source
      cases travels.rebuilt.walked.symm.trans walked
      rw [same]
      exact (counted domain).symm
    · intro limit limited
      rw [same]
      refine le_trans (le_of_eq ?_) (travels.travelled.members_le
        (travels.ne_nil distinct) limited)
      exact (counted limit.1).symm

/-- An express cross-connect between two nodes, of which the second lists a
failure domain. -/
def jointConnect : SnapshotBuilder ℚ :=
  (SnapshotBuilder.new ⟨text "joint"⟩ 1 {} {}).submitAll [
    .source { id := ⟨text "nms"⟩ },
    .node (.published "a"),
    .node { NodeRecord.published "b" with failureDomains := [⟨text "fire"⟩] },
    .reachProfile (.published "line" 100000 4 25 10),
    .port (.published (.of "a" "1") "line"),
    .port (.published (.of "b" "1") "line"),
    .crossConnect (.published "ab" (.of "a" "1") (.of "b" "1") .express)]

end Exposure

/-! ### Excluded domains -/

section Exclusion

/-- Neither the exposure of a plan nor a resource of its route is in a domain
that the request excludes. -/
structure AvoidsExcludedDomains (snapshot : TopologySnapshot K)
    (constraints : ConstraintSet K) (candidate : PlanArtifact K)
    (start : PortRecord) (hops : List (Hop K)) : Prop where
  exposure : ∀ exposure ∈ candidate.failureDomainExposure,
    exposure.id ∉ constraints.excludedFailureDomains
  resources : ∀ resource ∈ snapshot.routeResources start hops,
    ∀ domain ∈ resource, domain ∉ constraints.excludedFailureDomains

/-- The resources no exclusion check looks at: the node of the source, the
ports a route arrives at and the nodes it enters. -/
def TopologySnapshot.uncheckedResources (snapshot : TopologySnapshot K)
    (start : PortRecord) (hops : List (Hop K)) : List (List FailureDomainId) :=
  nodeResource (snapshot.findNode start.key.node) ++
    hops.flatMap fun hop =>
      hop.target.failureDomains :: nodeResource (snapshot.enteredBy hop)

/-- No unchecked resource of the route is in an excluded domain. -/
def UncheckedClear (snapshot : TopologySnapshot K)
    (constraints : ConstraintSet K) (start : PortRecord) (hops : List (Hop K)) :
    Prop :=
  ∀ resource ∈ snapshot.uncheckedResources start hops, ∀ domain ∈ resource,
    domain ∉ constraints.excludedFailureDomains

/-- The search tests the source port and every arc. -/
theorem SearchContext.Travelled.checked {ctx : SearchContext K}
    {rules : RouteRules K} {request : PlanningRequest K} {startPort : Nat}
    {hops : List (Hop K)} {path : List (Label K)} {builder : PlanBuilder K}
    (travelled : ctx.Travelled rules request startPort hops path builder) :
    (∀ domain ∈ (ctx.port startPort).failureDomains,
        domain ∉ ctx.constraints.excludedFailureDomains) ∧
      ∀ hop ∈ hops, ∀ domain ∈ hop.link.failureDomains,
        domain ∉ ctx.constraints.excludedFailureDomains := by
  induction travelled with
  | start started _ _ =>
      have allowed := started.allowed
      rw [Bool.or_eq_false_iff] at allowed
      exact ⟨domainsExcluded_eq_false_iff.mp allowed.2, by simp⟩
  | span before departs step allows proven built ih =>
      exact ⟨ih.1, List.forall_mem_append.mpr ⟨ih.2,
        List.forall_mem_singleton.mpr
          (domainsExcluded_eq_false_iff.mp step.domains)⟩⟩
  | crossConnect before departs step allows proven built ih =>
      exact ⟨ih.1, List.forall_mem_append.mpr ⟨ih.2,
        List.forall_mem_singleton.mpr
          (domainsExcluded_eq_false_iff.mp step.domains)⟩⟩

variable {runtime : Runtime K} {options : PlannerOptions}
  {driver : SearchDriver E} {snapshot : TopologySnapshot K}
  {request : PlanningRequest K} {arcs : List ArcRef} {hops : List (Hop K)}
  {startPort : Nat} {label : Label K} {ancestors : List (Label K)}
  {builder : PlanBuilder K}

/-- Every reported domain is listed by a resource of the route. -/
theorem Travels.exists_resource_of_exposure
    (travels : Travels runtime snapshot request arcs hops startPort label
      ancestors builder) (requestDigest : Digest256)
    {exposure : FailureDomainExposure}
    (reported : exposure ∈ ((searchContext runtime snapshot request).finishPlan
      request requestDigest arcs.length builder).failureDomainExposure) :
    ∃ resource ∈ snapshot.routeResources ((searchContext runtime snapshot
      request).port startPort) hops, exposure.id ∈ resource := by
  have tallies := travels.travelled.tallies travels.source
  rw [finishPlan_exposure] at reported
  obtain ⟨entry, counted, rfl⟩ := List.mem_map.mp reported
  have listed := (tallies.listed entry.1).mp (List.mem_map_of_mem counted)
  obtain ⟨resource, noted, member⟩ := List.mem_flatten.mp listed
  exact ⟨resource, TopologySnapshot.mem_routeResources_of_planResources noted,
    member⟩

theorem Travels.avoidsExcludedDomains_iff
    (travels : Travels runtime snapshot request arcs hops startPort label
      ancestors builder) (requestDigest : Digest256) :
    AvoidsExcludedDomains snapshot request.constraints
        ((searchContext runtime snapshot request).finishPlan request
          requestDigest arcs.length builder)
        ((searchContext runtime snapshot request).port startPort) hops ↔
      UncheckedClear snapshot request.constraints
        ((searchContext runtime snapshot request).port startPort) hops := by
  obtain ⟨start, links⟩ := travels.travelled.checked
  constructor
  · intro avoids resource unchecked
    refine avoids.resources resource ?_
    unfold TopologySnapshot.uncheckedResources at unchecked
    unfold TopologySnapshot.routeResources TopologySnapshot.startResources
    rcases List.mem_append.mp unchecked with atStart | onHop
    · exact List.mem_append_left _ (List.mem_cons_of_mem _ atStart)
    · obtain ⟨hop, member, ofHop⟩ := List.mem_flatMap.mp onHop
      exact List.mem_append_right _ (List.mem_flatMap.mpr
        ⟨hop, member, List.mem_cons_of_mem _ ofHop⟩)
  · intro clear
    unfold UncheckedClear TopologySnapshot.uncheckedResources at clear
    obtain ⟨startClear, hopsClear⟩ := List.forall_mem_append.mp clear
    have resources : ∀ resource ∈ snapshot.routeResources
        ((searchContext runtime snapshot request).port startPort) hops,
        ∀ domain ∈ resource,
          domain ∉ request.constraints.excludedFailureDomains := by
      refine List.forall_mem_append.mpr
        ⟨List.forall_mem_cons.mpr ⟨start, startClear⟩, ?_⟩
      intro resource onHop
      obtain ⟨hop, member, ofHop⟩ := List.mem_flatMap.mp onHop
      rcases List.mem_cons.mp ofHop with rfl | unchecked
      · exact links hop member
      · exact hopsClear resource
          (List.mem_flatMap.mpr ⟨hop, member, unchecked⟩)
    refine ⟨?_, resources⟩
    intro exposure reported
    obtain ⟨resource, ofRoute, member⟩ :=
      travels.exists_resource_of_exposure requestDigest reported
    exact resources resource ofRoute exposure.id member

/-- A request that excludes the domain of a fire section. -/
def avoidingFire : PlanningRequest ℚ :=
  { acrossSpan with
    constraints := { excludedFailureDomains := [⟨text "fire"⟩] } }

/-- One span whose far port is in the excluded domain, if so asked. -/
def portInDomain (domains : List FailureDomainId) : SnapshotBuilder ℚ :=
  (SnapshotBuilder.new ⟨text "port"⟩ 1 {} {}).submitAll [
    .source { id := ⟨text "nms"⟩ },
    .node (.published "a"), .node (.published "b"),
    .reachProfile (.published "line" 100000 4 25 10),
    .port (.published (.of "a" "1") "line"),
    .port { PortRecord.published (.of "b" "1") "line" with
      failureDomains := domains },
    .span (.published "ab" (.of "a" "1") (.of "b" "1") 80000 20 30)]

end Exclusion

end OpticalPathPlanner
