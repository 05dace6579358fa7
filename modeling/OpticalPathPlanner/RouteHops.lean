import OpticalPathPlanner.CandidateRoutes

/-!
# Routes as records

The arcs of a route with the records they stand for.  A proven walk of a pass
is read here as a list of hops, each with the span or the cross-connect it
uses and the port it arrives at, and a walk of a pass with more exclusions is
a walk under the request's own rules.
-/

namespace OpticalPathPlanner

open SortedRanges Traced

/-! ### Hops -/

/-- The record an arc stands for. -/
inductive Link (K : Type)
  | span (record : SpanRecord K) (reversed : Bool)
  | crossConnect (record : CrossConnectRecord)

namespace Link

variable {K : Type}

def departure : Link K → PortKey
  | span record reversed => record.departure reversed
  | crossConnect record => record.fromPort

def arrival : Link K → PortKey
  | span record reversed => record.arrival reversed
  | crossConnect record => record.toPort

def cost : Link K → UInt64
  | span record _ => record.cost
  | crossConnect record => record.cost

def admin : Link K → Evidence AdminState
  | span record _ => record.admin
  | crossConnect record => record.admin

def failureDomains : Link K → List FailureDomainId
  | span record _ => record.failureDomains
  | crossConnect record => record.failureDomains

/-- The published length of a span; a cross-connect has none. -/
def lengthM : Link K → UInt64
  | span record _ => record.lengthM.value?.getD 0
  | crossConnect _ => 0

end Link

/-- A link together with the record of the port it arrives at. -/
structure Hop (K : Type) where
  link : Link K
  target : PortRecord

namespace TopologySnapshot

variable {K : Type} (snapshot : TopologySnapshot K)

def linkOf (arc : ArcRef) : Option (Link K) :=
  match arc.kind with
  | .span => snapshot.spans[arc.index]?.map fun record =>
      .span record arc.reversed
  | .crossConnect => snapshot.crossConnects[arc.index]?.map .crossConnect

def hopOf (arc : ArcRef) : Option (Hop K) :=
  (snapshot.linkOf arc).bind fun link =>
    (snapshot.findPort link.arrival).map fun target => ⟨link, target⟩

/-- The hops of an arc sequence, if every arc resolves. -/
def hops (arcs : List ArcRef) : Option (List (Hop K)) :=
  arcs.mapM snapshot.hopOf

variable {snapshot}

theorem hops_concat {arcs : List ArcRef} {arc : ArcRef} {hops : List (Hop K)}
    {hop : Hop K} (earlier : snapshot.hops arcs = some hops)
    (last : snapshot.hopOf arc = some hop) :
    snapshot.hops (arcs ++ [arc]) = some (hops ++ [hop]) := by
  unfold TopologySnapshot.hops at earlier ⊢
  rw [List.mapM_append, earlier]
  simp [last]

theorem exists_arc_of_hops {arcs : List ArcRef} {hops : List (Hop K)}
    {hop : Hop K} (resolved : snapshot.hops arcs = some hops)
    (member : hop ∈ hops) : ∃ arc ∈ arcs, snapshot.hopOf arc = some hop := by
  unfold TopologySnapshot.hops at resolved
  induction arcs generalizing hops with
  | nil =>
      cases resolved
      cases member
  | cons arc arcs ih =>
      rw [List.mapM_cons] at resolved
      simp only [Option.bind_eq_bind, Option.bind_eq_some_iff,
        Option.pure_def] at resolved
      obtain ⟨first, isFirst, rest, others, same⟩ := resolved
      cases same
      rcases List.mem_cons.mp member with rfl | later
      · exact ⟨arc, List.mem_cons_self .., isFirst⟩
      · obtain ⟨other, isArc, resolves⟩ := ih others later
        exact ⟨other, List.mem_cons_of_mem _ isArc, resolves⟩

/-- The link and the target of a hop are records of the snapshot. -/
theorem records_of_hops {arcs : List ArcRef} {hops : List (Hop K)} {hop : Hop K}
    (resolved : snapshot.hops arcs = some hops) (member : hop ∈ hops) :
    (∃ arc, snapshot.linkOf arc = some hop.link) ∧
      snapshot.findPort hop.link.arrival = some hop.target := by
  obtain ⟨arc, _, resolves⟩ := exists_arc_of_hops resolved member
  unfold hopOf at resolves
  obtain ⟨link, isLink, isTarget⟩ := Option.bind_eq_some_iff.mp resolves
  obtain ⟨target, found, same⟩ := Option.map_eq_some_iff.mp isTarget
  cases same
  exact ⟨⟨arc, isLink⟩, found⟩

/-- The cross-connects of a route are records of the snapshot. -/
theorem mem_crossConnects_of_hops {arcs : List ArcRef} {hops : List (Hop K)}
    {record : CrossConnectRecord} {target : PortRecord}
    (resolved : snapshot.hops arcs = some hops)
    (member : ⟨.crossConnect record, target⟩ ∈ hops) :
    record ∈ snapshot.crossConnects := by
  obtain ⟨⟨arc, isLink⟩, _⟩ := records_of_hops resolved member
  unfold linkOf at isLink
  split at isLink
  · obtain ⟨_, _, impossible⟩ := Option.map_eq_some_iff.mp isLink
    cases impossible
  · obtain ⟨found, atIndex, same⟩ := Option.map_eq_some_iff.mp isLink
    cases same
    exact List.mem_of_getElem? atIndex

theorem mem_spans_of_hops {arcs : List ArcRef} {hops : List (Hop K)}
    {record : SpanRecord K} {reversed : Bool} {target : PortRecord}
    (resolved : snapshot.hops arcs = some hops)
    (member : ⟨.span record reversed, target⟩ ∈ hops) :
    record ∈ snapshot.spans := by
  obtain ⟨⟨arc, isLink⟩, _⟩ := records_of_hops resolved member
  unfold linkOf at isLink
  split at isLink
  · obtain ⟨found, atIndex, same⟩ := Option.map_eq_some_iff.mp isLink
    cases same
    exact List.mem_of_getElem? atIndex
  · obtain ⟨_, _, impossible⟩ := Option.map_eq_some_iff.mp isLink
    cases impossible

theorem mem_ports_of_hops {arcs : List ArcRef} {hops : List (Hop K)}
    {hop : Hop K} (resolved : snapshot.hops arcs = some hops)
    (member : hop ∈ hops) : hop.target ∈ snapshot.ports := by
  obtain ⟨index, _, atIndex, _⟩ :=
    findPort_eq_some (records_of_hops resolved member).2
  exact List.mem_of_getElem? atIndex

theorem length_of_hops {arcs : List ArcRef} {hops : List (Hop K)}
    (resolved : snapshot.hops arcs = some hops) :
    hops.length = arcs.length := by
  unfold TopologySnapshot.hops at resolved
  induction arcs generalizing hops with
  | nil =>
      cases resolved
      rfl
  | cons arc arcs ih =>
      rw [List.mapM_cons] at resolved
      simp only [Option.bind_eq_bind, Option.bind_eq_some_iff,
        Option.pure_def] at resolved
      obtain ⟨hop, _, rest, others, same⟩ := resolved
      cases same
      simp [ih others]

end TopologySnapshot

/-- The hops follow each other from one port to another. -/
def Connected {K : Type} (first : PortKey) : List (Hop K) → PortKey → Prop
  | [], last => first = last
  | hop :: rest, last =>
      hop.link.departure = first ∧ hop.target.key = hop.link.arrival ∧
        Connected hop.link.arrival rest last

theorem Connected.concat {K : Type} {first middle : PortKey}
    {hops : List (Hop K)} {hop : Hop K} (before : Connected first hops middle)
    (departs : hop.link.departure = middle)
    (arrives : hop.target.key = hop.link.arrival) :
    Connected first (hops ++ [hop]) hop.link.arrival := by
  induction hops generalizing first with
  | nil => exact ⟨departs.trans before.symm, arrives, rfl⟩
  | cons head rest ih => exact ⟨before.1, before.2.1, ih before.2.2⟩

/-! ### Walks as hops -/

namespace SearchContext

variable {K : Type} [Field K] [LinearOrder K] (ctx : SearchContext K)

/-- A proven walk with the records it uses and the builder that follows it. -/
inductive Travelled (rules : RouteRules K) (request : PlanningRequest K)
    (startPort : Nat) :
    List (Hop K) → List (Label K) → PlanBuilder K → Prop
  | start {label : Label K} {profile : ProfileId}
      (started : ctx.StartStep startPort label)
      (proven : label.proven = true)
      (transmits : (ctx.port startPort).transmitProfile =
        .known (some profile)) :
      Travelled rules request startPort [] [label]
        ((ctx.under rules).startBuilder request (ctx.port startPort) profile)
  | span {hops : List (Hop K)} {current next : Label K}
      {ancestors : List (Label K)} {builder : PlanBuilder K} {index : Nat}
      {reversed : Bool} {length : UInt64} {loss osnr : K} {slot : Nat}
      (before : Travelled rules request startPort hops (current :: ancestors)
        builder)
      (departs : (ctx.span index).departure reversed =
        (ctx.port current.portIndex).key)
      (step : ctx.SpanStep current ⟨index, reversed⟩ next)
      (allows : ctx.PathAllows current ancestors ⟨.span, index, reversed⟩
        next.portIndex)
      (proven : next.proven = true)
      (built : (ctx.under rules).SpanBuild builder index reversed
        (ctx.span index) (ctx.port next.portIndex) length loss osnr next.mask
        slot) :
      Travelled rules request startPort
        (hops ++ [⟨.span (ctx.span index) reversed, ctx.port next.portIndex⟩])
        (next :: current :: ancestors)
        ((ctx.under rules).useSpan builder (ctx.span index) reversed
          (ctx.port next.portIndex) length loss osnr next.mask slot)
  | crossConnect {hops : List (Hop K)} {current next : Label K}
      {ancestors : List (Label K)} {builder switched : PlanBuilder K}
      {index : Nat}
      (before : Travelled rules request startPort hops (current :: ancestors)
        builder)
      (departs : (ctx.crossConnect index).fromPort =
        (ctx.port current.portIndex).key)
      (step : ctx.CrossConnectStep current index next)
      (allows : ctx.PathAllows current ancestors ⟨.crossConnect, index, false⟩
        next.portIndex)
      (proven : next.proven = true)
      (built : (ctx.under rules).CrossConnectBuild builder index
        (ctx.crossConnect index) (ctx.port next.portIndex) switched) :
      Travelled rules request startPort
        (hops ++ [⟨.crossConnect (ctx.crossConnect index),
          ctx.port next.portIndex⟩])
        (next :: current :: ancestors)
        ((ctx.under rules).useCrossConnect switched (ctx.crossConnect index)
          (ctx.port next.portIndex))

variable {ctx} {rules : RouteRules K} {request : PlanningRequest K}
  {startPort : Nat}

/-- The records of a followed walk. -/
theorem Rebuilt.travelled (formed : ctx.snapshot.WellFormed)
    {arcs : List ArcRef} {path : List (Label K)} {builder : PlanBuilder K}
    (rebuilt : ctx.Rebuilt rules request startPort arcs path builder) :
    ∃ hops, ctx.snapshot.hops arcs = some hops ∧
      ctx.Travelled rules request startPort hops path builder := by
  induction rebuilt with
  | start started proven transmits =>
      exact ⟨[], rfl, .start started proven transmits⟩
  | @span _ current next _ _ index reversed _ _ _ _ before leaves step allows
      proven built ih =>
      obtain ⟨hops, resolved, travelled⟩ := ih
      obtain ⟨record, _, atIndex, fromCurrent, _⟩ := formed.spanArcs _ _
        (mem_outgoingArcs_span.mp leaves)
      have departs : (ctx.span index).departure reversed =
          (ctx.port current.portIndex).key := by
        rw [span_eq atIndex]
        exact (port_key_of_portIndex fromCurrent).symm
      have hop : ctx.snapshot.hopOf ⟨.span, index, reversed⟩ =
          some ⟨.span (ctx.span index) reversed, ctx.port next.portIndex⟩ := by
        have record : ctx.snapshot.spans[index]? = some (ctx.span index) :=
          built.record
        have target : ctx.snapshot.findPort ((ctx.span index).arrival reversed) =
            some (ctx.port next.portIndex) := findPort_eq_port step.target
        simp [TopologySnapshot.hopOf, TopologySnapshot.linkOf, record,
          Link.arrival, target]
      exact ⟨_, TopologySnapshot.hops_concat resolved hop,
        .span travelled departs step allows proven built⟩
  | @crossConnect _ current next _ _ _ index before leaves step allows proven
      built ih =>
      obtain ⟨hops, resolved, travelled⟩ := ih
      obtain ⟨record, _, atIndex, fromCurrent, _⟩ := formed.crossConnectArcs _ _
        (mem_outgoingArcs_crossConnect.mp leaves).1
      have departs : (ctx.crossConnect index).fromPort =
          (ctx.port current.portIndex).key := by
        rw [crossConnect_eq atIndex]
        exact (port_key_of_portIndex fromCurrent).symm
      have hop : ctx.snapshot.hopOf ⟨.crossConnect, index, false⟩ =
          some ⟨.crossConnect (ctx.crossConnect index),
            ctx.port next.portIndex⟩ := by
        have record : ctx.snapshot.crossConnects[index]? =
            some (ctx.crossConnect index) := built.atIndex
        have target : ctx.snapshot.findPort (ctx.crossConnect index).toPort =
            some (ctx.port next.portIndex) := findPort_eq_port step.target
        simp [TopologySnapshot.hopOf, TopologySnapshot.linkOf, record,
          Link.arrival, target]
      exact ⟨_, TopologySnapshot.hops_concat resolved hop,
        .crossConnect travelled departs step allows proven built⟩

end SearchContext

/-! ### More exclusions -/

section Excluding

variable {K : Type} [Field K] [LinearOrder K]

/-- The same rules with more exclusions. -/
def RouteRules.alsoExcluding (rules : RouteRules K) (nodes : List NodeId)
    (spans : List SpanId) (domains : List FailureDomainId) : RouteRules K :=
  { rules with
    constraints := { rules.constraints with
      excludedNodes := rules.constraints.excludedNodes ++ nodes
      excludedSpans := rules.constraints.excludedSpans ++ spans
      excludedFailureDomains :=
        rules.constraints.excludedFailureDomains ++ domains } }

/-- The second exclusions hold all of the first. -/
structure Exclusions.Within (few more : Exclusions) : Prop where
  nodes : few.nodes ⊆ more.nodes
  spans : few.spans ⊆ more.spans
  domains : few.domains ⊆ more.domains

/-- What a pass excludes beyond the request. -/
theorem working_toRouteRules (runtime : Runtime K) (request : PlanningRequest K)
    (exclusions : Exclusions) :
    ∃ nodes spans domains,
      (request.working runtime exclusions).toRouteRules =
        request.toRouteRules.alsoExcluding nodes spans domains ∧
      (request.iterative = true →
        nodes = sortUnique runtime exclusions.nodes ∧
          spans = sortUnique runtime exclusions.spans ∧
          domains = sortUnique runtime exclusions.domains) := by
  unfold PlanningRequest.working
  split_ifs with iterative
  · exact ⟨_, _, _, rfl, fun _ => ⟨rfl, rfl, rfl⟩⟩
  · refine ⟨[], [], [], ?_, fun repeats => (iterative repeats).elim⟩
    simp [RouteRules.alsoExcluding]

namespace SearchContext

variable {ctx : SearchContext K} {few more : Exclusions}

/-- The context of a search with more exclusions. -/
def alsoExcluding (ctx : SearchContext K) (nodes : List NodeId)
    (spans : List SpanId) (domains : List FailureDomainId) : SearchContext K :=
  ctx.under (ctx.rules.alsoExcluding nodes spans domains)

def besides (ctx : SearchContext K) (exclusions : Exclusions) : SearchContext K :=
  ctx.alsoExcluding exclusions.nodes exclusions.spans exclusions.domains

theorem besides_empty : ctx.besides {} = ctx := by
  simp [besides, alsoExcluding, RouteRules.alsoExcluding, under]

private theorem mem_append_of_subset {α : Type} {listed first second : List α}
    {value : α} (subset : first ⊆ second) (member : value ∈ listed ++ first) :
    value ∈ listed ++ second :=
  List.mem_append.mpr ((List.mem_append.mp member).imp_right fun inFirst =>
    subset inFirst)

private theorem binarySearch_eq_false_iff {α : Type} [LinearOrder α]
    (routine : SortRoutine) (range : List α) (value : α) :
    binarySearch (routine.sortValues range) value = false ↔ value ∉ range := by
  rw [← Bool.not_eq_true, binarySearch_sortValues]

theorem nodeExcluded_eq_false_iff {id : NodeId} :
    ctx.nodeExcluded id = false ↔ id ∉ ctx.constraints.excludedNodes :=
  binarySearch_eq_false_iff _ _ _

theorem portExcluded_eq_false_iff {key : PortKey} :
    ctx.portExcluded key = false ↔ key ∉ ctx.constraints.excludedPorts :=
  binarySearch_eq_false_iff _ _ _

theorem spanExcluded_eq_false_iff {id : SpanId} :
    ctx.spanExcluded id = false ↔ id ∉ ctx.constraints.excludedSpans :=
  binarySearch_eq_false_iff _ _ _

theorem crossConnectExcluded_eq_false_iff {id : CrossConnectId} :
    ctx.crossConnectExcluded id = false ↔
      id ∉ ctx.constraints.excludedCrossConnects :=
  binarySearch_eq_false_iff _ _ _

theorem domainsExcluded_eq_false_iff {listed : List FailureDomainId} :
    ctx.domainsExcluded listed = false ↔
      ∀ domain ∈ listed, domain ∉ ctx.constraints.excludedFailureDomains := by
  unfold domainsExcluded
  rw [List.any_eq_false]
  simp only [Bool.not_eq_true, binarySearch_eq_false_iff]

/-- What is not excluded under more exclusions is not excluded under fewer. -/
theorem nodeExcluded_of_within (within : few.Within more) {id : NodeId}
    (allowed : (ctx.besides more).nodeExcluded id = false) :
    (ctx.besides few).nodeExcluded id = false := by
  rw [nodeExcluded_eq_false_iff] at allowed ⊢
  exact fun excluded => allowed (mem_append_of_subset within.nodes excluded)

theorem spanExcluded_of_within (within : few.Within more) {id : SpanId}
    (allowed : (ctx.besides more).spanExcluded id = false) :
    (ctx.besides few).spanExcluded id = false := by
  rw [spanExcluded_eq_false_iff] at allowed ⊢
  exact fun excluded => allowed (mem_append_of_subset within.spans excluded)

theorem domainsExcluded_of_within (within : few.Within more)
    {listed : List FailureDomainId}
    (allowed : (ctx.besides more).domainsExcluded listed = false) :
    (ctx.besides few).domainsExcluded listed = false := by
  rw [domainsExcluded_eq_false_iff] at allowed ⊢
  exact fun domain member excluded =>
    allowed domain member (mem_append_of_subset within.domains excluded)

/-- Members are counted from the records alone. -/
theorem under_pathMembers (rules : RouteRules K) (domain : FailureDomainId)
    (path : List (Label K)) :
    (ctx.under rules).pathMembers domain path = ctx.pathMembers domain path := by
  induction path with
  | nil => rfl
  | cons label rest ih =>
      unfold pathMembers
      rw [ih]
      rfl

theorem PathAllows.of_within {current : Label K} {ancestors : List (Label K)}
    {arc : ArcRef} {toPort : Nat}
    (allows : (ctx.besides more).PathAllows current ancestors arc toPort) :
    (ctx.besides few).PathAllows current ancestors arc toPort := by
  refine ⟨allows.loopFree, allows.noBacktrack, ?_⟩
  have members := allows.members
  unfold memberLimitExceeded besides alsoExcluding at members ⊢
  simp only [under_pathMembers] at members ⊢
  exact members

theorem StartStep.of_within (within : few.Within more) {portIndex : Nat}
    {label : Label K} (started : (ctx.besides more).StartStep portIndex label) :
    (ctx.besides few).StartStep portIndex label := by
  refine ⟨?_, started.admin, started.transmitter, started.channel,
    started.label_eq⟩
  have allowed := started.allowed
  simp only [Bool.or_eq_false_iff] at allowed ⊢
  obtain ⟨⟨port, node⟩, clear⟩ := allowed
  exact ⟨⟨port, nodeExcluded_of_within within node⟩,
    domainsExcluded_of_within within clear⟩

theorem SpanStep.of_within (within : few.Within more) {current next : Label K}
    {arc : SpanArc} (step : (ctx.besides more).SpanStep current arc next) :
    (ctx.besides few).SpanStep current arc next := by
  refine ⟨step.target, ?_, domainsExcluded_of_within within step.domains,
    step.admin, step.hopLimit, step.cost, step.ceiling, step.distance,
    step.portAdmin, step.next_eq, step.channel,
    ⟨step.reach.spans, step.reach.distance, step.reach.loss, step.reach.osnr,
      step.reach.requestedOsnr⟩,
    ⟨step.ceilings.distance, step.ceilings.spans, step.ceilings.loss⟩⟩
  have allowed := step.allowed
  simp only [Bool.or_eq_false_iff] at allowed ⊢
  obtain ⟨⟨span, node⟩, port⟩ := allowed
  exact ⟨⟨spanExcluded_of_within within span,
    nodeExcluded_of_within within node⟩, port⟩

theorem CrossConnectStep.of_within (within : few.Within more)
    {current next : Label K} {index : Nat}
    (step : (ctx.besides more).CrossConnectStep current index next) :
    (ctx.besides few).CrossConnectStep current index next := by
  refine ⟨?_, step.admin, step.target,
    domainsExcluded_of_within within step.domains,
    ⟨step.operation.regeneration, step.operation.conversion,
      step.operation.regenerationLimit, step.operation.transmitter⟩,
    step.hopLimit, step.cost, step.ceiling, step.portAdmin, step.next_eq,
    step.channel⟩
  have allowed := step.allowed
  simp only [Bool.or_eq_false_iff] at allowed ⊢
  obtain ⟨⟨record, node⟩, port⟩ := allowed
  exact ⟨⟨record, nodeExcluded_of_within within node⟩, port⟩

/-- A walk under more exclusions is a walk under fewer. -/
theorem Rebuilt.of_within (within : few.Within more) {rules : RouteRules K}
    {request : PlanningRequest K} {startPort : Nat} {arcs : List ArcRef}
    {path : List (Label K)} {builder : PlanBuilder K}
    (rebuilt : (ctx.besides more).Rebuilt rules request startPort arcs path
      builder) :
    (ctx.besides few).Rebuilt rules request startPort arcs path builder := by
  induction rebuilt with
  | start started proven transmits =>
      exact .start (started.of_within within) proven transmits
  | span before leaves step allows proven built ih =>
      exact .span ih leaves (step.of_within within) allows.of_within proven built
  | crossConnect before leaves step allows proven built ih =>
      exact .crossConnect ih leaves (step.of_within within) allows.of_within
        proven built

theorem Rebuilt.of_alsoExcluding {nodes : List NodeId} {spans : List SpanId}
    {domains : List FailureDomainId} {rules : RouteRules K}
    {request : PlanningRequest K} {startPort : Nat} {arcs : List ArcRef}
    {path : List (Label K)} {builder : PlanBuilder K}
    (rebuilt : (ctx.alsoExcluding nodes spans domains).Rebuilt rules request
      startPort arcs path builder) :
    ctx.Rebuilt rules request startPort arcs path builder := by
  have fewer : Exclusions.Within {} ⟨nodes, spans, domains⟩ :=
    ⟨List.nil_subset _, List.nil_subset _, List.nil_subset _⟩
  have relaxed : (ctx.besides {}).Rebuilt rules request startPort arcs path
      builder := Rebuilt.of_within fewer rebuilt
  rwa [besides_empty] at relaxed

end SearchContext

end Excluding

/-! ### Routes of a request -/

section Routes

variable {K E : Type} [Field K] [LinearOrder K] (runtime : Runtime K)
  (snapshot : TopologySnapshot K) (request : PlanningRequest K)

/-- The arcs lead from the source to the destination, pass every check of the
search under the rules of the request, and rest on published evidence only. -/
def ProvenRoute (arcs : List ArcRef) : Prop :=
  ∃ startPort label ancestors,
    snapshot.portIndex request.source = some startPort ∧
    snapshot.portIndex request.destination = some label.portIndex ∧
    (searchContext runtime snapshot request).walk startPort arcs =
      some (label :: ancestors) ∧
    label.proven = true

/-- The check behind a proven route. -/
def isProvenRoute (arcs : List ArcRef) : Bool :=
  match snapshot.portIndex request.source with
  | none => false
  | some startPort =>
      match (searchContext runtime snapshot request).walk startPort arcs with
      | some (label :: _) => label.proven &&
          decide (snapshot.portIndex request.destination = some label.portIndex)
      | _ => false

theorem isProvenRoute_iff {arcs : List ArcRef} :
    isProvenRoute runtime snapshot request arcs = true ↔
      ProvenRoute runtime snapshot request arcs := by
  unfold isProvenRoute ProvenRoute
  constructor
  · intro checked
    split at checked
    · cases checked
    · next startPort source =>
        split at checked
        · next label ancestors walked =>
            rw [Bool.and_eq_true, decide_eq_true_eq] at checked
            exact ⟨startPort, label, ancestors, source, checked.2, walked,
              checked.1⟩
        · cases checked
  · rintro ⟨startPort, label, ancestors, source, destination, walked, proven⟩
    simp [source, walked, proven, destination]

instance (arcs : List ArcRef) :
    Decidable (ProvenRoute runtime snapshot request arcs) :=
  decidable_of_iff _ (isProvenRoute_iff runtime snapshot request)

/-- A proven route with its records, its labels and the builder that follows
it. -/
structure Travels (arcs : List ArcRef) (hops : List (Hop K)) (startPort : Nat)
    (label : Label K) (ancestors : List (Label K)) (builder : PlanBuilder K) :
    Prop where
  source : snapshot.portIndex request.source = some startPort
  destination : snapshot.portIndex request.destination = some label.portIndex
  resolved : snapshot.hops arcs = some hops
  proven : label.proven = true
  rebuilt : (searchContext runtime snapshot request).Rebuilt
    request.toRouteRules request startPort arcs (label :: ancestors) builder
  travelled : (searchContext runtime snapshot request).Travelled
    request.toRouteRules request startPort hops (label :: ancestors) builder

variable {runtime snapshot request}

theorem Travels.provenRoute {arcs : List ArcRef} {hops : List (Hop K)}
    {startPort : Nat} {label : Label K} {ancestors : List (Label K)}
    {builder : PlanBuilder K}
    (travels : Travels runtime snapshot request arcs hops startPort label
      ancestors builder) : ProvenRoute runtime snapshot request arcs :=
  ⟨startPort, label, ancestors, travels.source, travels.destination,
    travels.rebuilt.walked, travels.proven⟩

theorem Travels.findPort_source {arcs : List ArcRef} {hops : List (Hop K)}
    {startPort : Nat} {label : Label K} {ancestors : List (Label K)}
    {builder : PlanBuilder K}
    (travels : Travels runtime snapshot request arcs hops startPort label
      ancestors builder) :
    snapshot.findPort request.source =
      some ((searchContext runtime snapshot request).port startPort) := by
  have found : (searchContext runtime snapshot request).snapshot.findPort
      request.source = some _ := SearchContext.findPort_eq_port travels.source
  exact found

theorem ProvenRoute.travels (formed : snapshot.WellFormed) {arcs : List ArcRef}
    (route : ProvenRoute runtime snapshot request arcs) :
    ∃ hops startPort label ancestors builder,
      Travels runtime snapshot request arcs hops startPort label ancestors
        builder := by
  obtain ⟨startPort, label, ancestors, source, destination, walked, proven⟩ :=
    route
  have followed : ∃ builder, (searchContext runtime snapshot request).Rebuilt
      request.toRouteRules request startPort arcs (label :: ancestors) builder :=
    SearchContext.rebuilt_of_walk formed rfl source walked proven
  obtain ⟨builder, rebuilt⟩ := followed
  obtain ⟨hops, resolved, travelled⟩ := rebuilt.travelled formed
  exact ⟨hops, startPort, label, ancestors, builder, source, destination,
    resolved, proven, rebuilt, travelled⟩

/-- The walk of a pass is one under the rules of the request itself. -/
theorem Followed.travels (formed : snapshot.WellFormed) {exclusions : Exclusions}
    {startPort : Nat} {arcs : List ArcRef} {label : Label K}
    {ancestors : List (Label K)} {builder : PlanBuilder K}
    (followed : Followed runtime snapshot request exclusions startPort arcs label
      ancestors builder) :
    ∃ hops, Travels runtime snapshot request arcs hops startPort label ancestors
      builder := by
  obtain ⟨nodes, spans, domains, rules, _⟩ :=
    working_toRouteRules runtime request exclusions
  have rebuilt := followed.rebuilt
  have context : passContext runtime snapshot request exclusions =
      (searchContext runtime snapshot request).alsoExcluding nodes spans
        domains := by
    unfold passContext searchContext
    rw [rules]
    rfl
  rw [context] at rebuilt
  have relaxed := rebuilt.of_alsoExcluding
  obtain ⟨hops, resolved, travelled⟩ := relaxed.travelled formed
  exact ⟨hops, followed.source, followed.destination, resolved, followed.proven,
    relaxed, travelled⟩

/-- The route of a candidate, under the rules of the request itself. -/
theorem TakesRoute.travels {options : PlannerOptions} {driver : SearchDriver E}
    (formed : snapshot.WellFormed)
    (searching : earlyOutcome snapshot request = none)
    {candidate : PlanArtifact K} {arcs : List ArcRef}
    (takes : TakesRoute runtime options driver snapshot request candidate arcs) :
    ∃ hops startPort label ancestors builder,
      Travels runtime snapshot request arcs hops startPort label ancestors
        builder ∧
      candidate = (searchContext runtime snapshot request).finishPlan request
        (runtime.computeRequestDigest request) arcs.length builder := by
  obtain ⟨exclusions, startPort, label, ancestors, builder, followed, planned⟩ :=
    takes.followed formed searching
  obtain ⟨hops, travels⟩ := followed.travels formed
  exact ⟨hops, startPort, label, ancestors, builder, travels, planned⟩

/-- The route of a candidate when one search finds a single path. -/
theorem TakesRoute.eq_of_paths {options : PlannerOptions}
    {driver : SearchDriver Unit} {candidate : PlanArtifact K}
    {arcs only : List ArcRef}
    (takes : TakesRoute runtime options driver snapshot request candidate arcs)
    (single : request.iterative = false)
    (paths : (runSearch runtime snapshot request options driver
      ()).1.paths.map RawPath.arcs = [only]) : arcs = only := by
  obtain ⟨exclusions, env, path, returned, rfl, _⟩ := takes
  unfold passSearch PlanningRequest.working at returned
  rw [if_neg (by simp [single])] at returned
  have member := List.mem_map_of_mem (f := RawPath.arcs) returned
  rw [paths, List.mem_singleton] at member
  exact member

variable (runtime snapshot request) in
/-- The candidate was built from these arcs, which start at this port and stand
for these hops. -/
structure BuiltFrom (options : PlannerOptions) (driver : SearchDriver E)
    (candidate : PlanArtifact K) (arcs : List ArcRef) (start : PortRecord)
    (hops : List (Hop K)) : Prop where
  takes : TakesRoute runtime options driver snapshot request candidate arcs
  source : snapshot.findPort request.source = some start
  resolved : snapshot.hops arcs = some hops

section BuiltFrom

variable {options : PlannerOptions} {driver : SearchDriver E}
  {candidate : PlanArtifact K} {arcs : List ArcRef} {start : PortRecord}
  {hops : List (Hop K)}

theorem BuiltFrom.travels (formed : snapshot.WellFormed)
    (searching : earlyOutcome snapshot request = none)
    (from_ : BuiltFrom runtime snapshot request options driver candidate arcs
      start hops) :
    ∃ startPort label ancestors builder,
      Travels runtime snapshot request arcs hops startPort label ancestors
        builder ∧
      start = (searchContext runtime snapshot request).port startPort ∧
      candidate = (searchContext runtime snapshot request).finishPlan request
        (runtime.computeRequestDigest request) arcs.length builder := by
  obtain ⟨others, startPort, label, ancestors, builder, travels, planned⟩ :=
    from_.takes.travels formed searching
  have same := from_.source.symm.trans travels.findPort_source
  cases from_.resolved.symm.trans travels.resolved
  exact ⟨startPort, label, ancestors, builder, travels, Option.some.inj same,
    planned⟩

/-- Every candidate was built from a route. -/
theorem exists_builtFrom (formed : snapshot.WellFormed) {env : E}
    (offered : candidate ∈
      (plan runtime options driver snapshot request env).1.candidates) :
    ∃ arcs start hops, BuiltFrom runtime snapshot request options driver
      candidate arcs start hops := by
  obtain ⟨searching, arcs, takes⟩ := takesRoute_of_candidate offered
  obtain ⟨hops, startPort, label, ancestors, builder, travels, _⟩ :=
    takes.travels formed searching
  exact ⟨arcs, _, hops, takes, travels.findPort_source, travels.resolved⟩

/-- A property of candidates that a condition on their routes decides. -/
theorem holds_iff_of_travels (formed : snapshot.WellFormed)
    (holds : PlanArtifact K → List ArcRef → PortRecord → List (Hop K) → Prop)
    (condition : PortRecord → List (Hop K) → Prop)
    (decides : ∀ arcs hops startPort label ancestors builder,
      earlyOutcome snapshot request = none →
      Travels runtime snapshot request arcs hops startPort label ancestors
        builder →
      (holds ((searchContext runtime snapshot request).finishPlan request
          (runtime.computeRequestDigest request) arcs.length builder) arcs
          ((searchContext runtime snapshot request).port startPort) hops ↔
        condition ((searchContext runtime snapshot request).port startPort)
          hops)) (env : E) :
    ((∀ arcs start hops, ProvenRoute runtime snapshot request arcs →
        snapshot.findPort request.source = some start →
        snapshot.hops arcs = some hops → condition start hops) →
      ∀ candidate ∈
        (plan runtime options driver snapshot request env).1.candidates,
      ∀ arcs start hops, BuiltFrom runtime snapshot request options driver
          candidate arcs start hops → holds candidate arcs start hops) ∧
    ∀ candidate ∈
      (plan runtime options driver snapshot request env).1.candidates,
    ∀ arcs start hops, BuiltFrom runtime snapshot request options driver
        candidate arcs start hops →
      (holds candidate arcs start hops ↔ condition start hops) := by
  have each : ∀ candidate ∈
      (plan runtime options driver snapshot request env).1.candidates,
      ∀ arcs start hops, BuiltFrom runtime snapshot request options driver
          candidate arcs start hops →
        ProvenRoute runtime snapshot request arcs ∧
          (holds candidate arcs start hops ↔ condition start hops) := by
    intro candidate offered arcs start hops from_
    obtain ⟨searching, _⟩ := takesRoute_of_candidate offered
    obtain ⟨startPort, label, ancestors, builder, travels, rfl, rfl⟩ :=
      from_.travels formed searching
    exact ⟨travels.provenRoute, decides _ _ _ _ _ _ searching travels⟩
  refine ⟨?_, fun candidate offered arcs start hops from_ =>
    (each candidate offered arcs start hops from_).2⟩
  intro clear candidate offered arcs start hops from_
  obtain ⟨route, decided⟩ := each candidate offered arcs start hops from_
  exact decided.mpr (clear arcs start hops route from_.source from_.resolved)

end BuiltFrom

end Routes

end OpticalPathPlanner
