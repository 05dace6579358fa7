import OpticalPathPlanner.PlanSimulation
import OpticalPathPlanner.PlannerOutcomes

/-!
# The routes of candidates

Every candidate was built from the arcs of a proven walk of some search pass.
The walk is free of cycles, so nothing is stripped from it, and building never
fails on it.
-/

namespace OpticalPathPlanner

open SortedRanges Traced

variable {K E : Type} [Field K] [LinearOrder K]

/-! ### Walks without cycles -/

omit [Field K] [LinearOrder K] in
/-- Nothing is stripped from arcs that arrive at new ports only. -/
theorem stripFrom_eq_append {snapshot : TopologySnapshot K} {arcs : List ArcRef}
    {keys : List PortKey}
    (arrivals : List.Forall₂
      (fun arc key => arrivalPort snapshot arc = .ok key) arcs keys) :
    ∀ {output : List ArcRef} {visited : List PortKey},
      (visited ++ keys).Nodup →
        stripFrom snapshot output visited arcs = output ++ arcs := by
  induction arrivals with
  | nil =>
      intro output visited _
      simp [stripFrom]
  | @cons arc key arcs keys arrives _ ih =>
      intro output visited simple
      have fresh : key ∉ visited := by
        intro again
        exact List.disjoint_of_nodup_append simple again (List.mem_cons_self ..)
      simp only [stripFrom, arrives, fresh, if_false]
      rw [ih]
      · simp
      · simpa using simple

namespace SearchContext

variable {ctx : SearchContext K} {rules : RouteRules K}
  {request : PlanningRequest K} {startPort : Nat} {arcs : List ArcRef}
  {path : List (Label K)} {builder : PlanBuilder K}

/-- A followed walk is a walk. -/
theorem Rebuilt.walked
    (rebuilt : ctx.Rebuilt rules request startPort arcs path builder) :
    ctx.walk startPort arcs = some path := by
  induction rebuilt with
  | start started _ _ =>
      exact walk_nil.mpr ⟨_, yields_startLabel_iff.mpr started, rfl⟩
  | span before leaves step allows _ _ ih =>
      exact walk_concat.mpr ⟨_, _, _, ih, rfl, leaves,
        yields_expandArc_iff.mpr ⟨step, allows⟩⟩
  | crossConnect before leaves step allows _ _ ih =>
      exact walk_concat.mpr ⟨_, _, _, ih, rfl, leaves,
        yields_expandArc_iff.mpr ⟨step, allows⟩⟩

/-- The key of the port a label stands on. -/
def portKey (ctx : SearchContext K) (label : Label K) : PortKey :=
  (ctx.port label.portIndex).key

/-- The ports of a followed walk, in the order of the walk. -/
theorem Rebuilt.arrivals
    (source : ctx.snapshot.portIndex request.source = some startPort)
    (rebuilt : ctx.Rebuilt rules request startPort arcs path builder) :
    (∃ keys, List.Forall₂
        (fun arc key => arrivalPort ctx.snapshot arc = .ok key) arcs keys ∧
      (path.map ctx.portKey).reverse = request.source :: keys) ∧
      ∀ label ∈ path, ctx.snapshot.portIndex (ctx.portKey label) =
        some label.portIndex := by
  induction rebuilt with
  | @start label _ started _ _ =>
      have port := congrArg Label.portIndex started.label_eq
      have key : ctx.portKey label = request.source := by
        rw [portKey, port]
        exact port_key_of_portIndex source
      refine ⟨⟨[], .nil, by simp [key]⟩, ?_⟩
      intro other member
      rw [List.mem_singleton.mp member, key, port]
      exact source
  | @span arcs current next ancestors builder index reversed length loss osnr
      slot before leaves step allows proven built ih =>
      obtain ⟨⟨keys, earlier, spelled⟩, resolved⟩ := ih
      have key : ctx.portKey next = (ctx.span index).arrival reversed :=
        port_key_of_portIndex step.target
      refine ⟨⟨keys ++ [ctx.portKey next], ?_, by
        rw [List.map_cons, List.reverse_cons, spelled, List.cons_append]⟩, ?_⟩
      · refine List.rel_append earlier (.cons ?_ .nil)
        have atIndex : ctx.snapshot.spans[index]? = some (ctx.span index) :=
          built.record
        simp only [arrivalPort, atIndex, key]
      · intro other member
        rcases List.mem_cons.mp member with rfl | older
        · rw [key]
          exact step.target
        · exact resolved other older
  | @crossConnect arcs current next ancestors builder switched index before
      leaves step allows proven built ih =>
      obtain ⟨⟨keys, earlier, spelled⟩, resolved⟩ := ih
      have key : ctx.portKey next = (ctx.crossConnect index).toPort :=
        port_key_of_portIndex step.target
      refine ⟨⟨keys ++ [ctx.portKey next], ?_, by
        rw [List.map_cons, List.reverse_cons, spelled, List.cons_append]⟩, ?_⟩
      · refine List.rel_append earlier (.cons ?_ .nil)
        have atIndex : ctx.snapshot.crossConnects[index]? =
            some (ctx.crossConnect index) := built.atIndex
        simp only [arrivalPort, atIndex, key]
      · intro other member
        rcases List.mem_cons.mp member with rfl | older
        · rw [key]
          exact step.target
        · exact resolved other older

theorem Rebuilt.portKeys_nodup
    (source : ctx.snapshot.portIndex request.source = some startPort)
    (rebuilt : ctx.Rebuilt rules request startPort arcs path builder) :
    (path.map ctx.portKey).Nodup := by
  have simple := ports_nodup_of_walk rebuilt.walked
  have resolved := (rebuilt.arrivals source).2
  refine List.Nodup.map_on ?_ (List.Nodup.of_map _ simple)
  intro first inFirst second inSecond same
  have firstFound := resolved first inFirst
  rw [same, resolved second inSecond] at firstFound
  exact List.inj_on_of_nodup_map simple inFirst inSecond
    (Option.some.inj firstFound).symm

/-- A followed walk has no cycle to strip. -/
theorem Rebuilt.stripCycles_eq
    (source : ctx.snapshot.portIndex request.source = some startPort)
    (rebuilt : ctx.Rebuilt rules request startPort arcs path builder) :
    stripCycles ctx.snapshot request.source arcs = arcs := by
  obtain ⟨⟨keys, arrivals, spelled⟩, _⟩ := rebuilt.arrivals source
  have simple := rebuilt.portKeys_nodup source
  rw [← List.nodup_reverse, spelled] at simple
  exact stripFrom_eq_append arrivals simple

/-! ### Assumptions with names -/

omit [Field K] [LinearOrder K] in
theorem unnamedAssumption_append {first second : List PlanAssumption} :
    unnamedAssumption (first ++ second) =
      (unnamedAssumption first || unnamedAssumption second) :=
  List.any_append

theorem forPort_named (key : PortKey) :
    (ResourceKey.forPort key).empty = false := by
  have colonText : text ":" = [58] := by decide +kernel
  simp [ResourceKey.forPort, ResourceKey.empty, PortKey.canonicalText, colonText]

theorem Rebuilt.named (formed : ctx.snapshot.WellFormed)
    (rebuilt : ctx.Rebuilt rules request startPort arcs path builder) :
    unnamedAssumption builder.capability = false ∧
      unnamedAssumption builder.quality = false := by
  have fields : (text "transmit_profile").isEmpty = false ∧
      (text "blocked_slots").isEmpty = false ∧
      (text "operation").isEmpty = false ∧ (text "length_m").isEmpty = false ∧
      (text "loss_db").isEmpty = false ∧ (text "osnr_db").isEmpty = false := by
    decide +kernel
  obtain ⟨transmitProfile, blockedSlots, operation, lengthM, lossDb, osnrDb⟩ :=
    fields
  induction rebuilt with
  | start _ _ _ =>
      rw [startBuilder_eq]
      simp [unnamedAssumption, forPort_named, transmitProfile, blockedSlots]
  | @span _ _ _ _ _ index _ _ _ _ _ before leaves step allows proven built ih =>
      have named := formed.spanNamed _ (List.mem_of_getElem? built.record)
      have spanNamed : (ResourceKey.forSpan (ctx.span index).id).empty = false := by
        simpa [SpanRecord.named, StrongId.empty, ResourceKey.forSpan,
          ResourceKey.empty] using named
      rw [useSpan_eq]
      simp only [unnamedAssumption_append, ih, Bool.false_or]
      simp [unnamedAssumption, spanNamed, blockedSlots, lengthM, lossDb, osnrDb]
  | @crossConnect _ _ next _ builder switched index before leaves step allows
      proven built ih =>
      have named := formed.crossConnectNamed _
        (List.mem_of_getElem? built.atIndex)
      have recordNamed : (ResourceKey.forCrossConnect
          (ctx.crossConnect index).id).empty = false := by
        simpa [CrossConnectRecord.named, StrongId.empty,
          ResourceKey.forCrossConnect, ResourceKey.empty] using named
      have switchedNamed : unnamedAssumption switched.capability = false ∧
          unnamedAssumption switched.quality = false := by
        cases built.segment with
        | express op mask_eq slot_eq =>
            rw [noteSlot_eq]
            exact ih
        | convert op mask_eq slot_eq => exact ih
        | regenerate op transmits =>
            rw [closeSegment_eq]
            simp only [PlanBuilder.assumeCapability, unnamedAssumption_append, ih,
              Bool.false_or]
            simp [unnamedAssumption, forPort_named, transmitProfile]
      rw [useCrossConnect_eq]
      simp only [unnamedAssumption_append, switchedNamed, Bool.false_or]
      simp [unnamedAssumption, recordNamed, forPort_named, operation, blockedSlots]

/-- A followed walk starts from a proven start label. -/
theorem Rebuilt.started
    (rebuilt : ctx.Rebuilt rules request startPort arcs path builder) :
    ∃ label, ctx.StartStep startPort label ∧ label.proven = true := by
  induction rebuilt with
  | start started proven _ => exact ⟨_, started, proven⟩
  | span _ _ _ _ _ _ ih => exact ih
  | crossConnect _ _ _ _ _ _ ih => exact ih

/-- Building succeeds on a followed walk to the destination. -/
theorem Rebuilt.buildPlan_eq {label : Label K} {ancestors : List (Label K)}
    (formed : ctx.snapshot.WellFormed)
    (width : rules.channelWidthSlots = ctx.rules.channelWidthSlots)
    (source : ctx.snapshot.portIndex request.source = some startPort)
    (destination : ctx.snapshot.portIndex request.destination =
      some label.portIndex)
    (rebuilt : ctx.Rebuilt rules request startPort arcs (label :: ancestors)
      builder) (requestDigest : Digest256) :
    (ctx.under rules).buildPlan request requestDigest
        (stripCycles ctx.snapshot request.source arcs) =
      .ok ((ctx.under rules).finishPlan request requestDigest arcs.length
        builder) := by
  obtain ⟨profile, transmits, ran⟩ := rebuilt.foldlM_eq
  obtain ⟨capability, quality⟩ := rebuilt.named formed
  have agrees := rebuilt.simulates width source label rfl
  have startFound : (ctx.under rules).snapshot.findPort request.source =
      some (ctx.port startPort) := findPort_eq_port source
  obtain ⟨start, started, startProven⟩ := rebuilt.started
  have startSlots : (ctx.port startPort).blockedSlots.hasValue = true :=
    (started.published startProven).1.blockedSlots
  have arrived : builder.currentPort = request.destination :=
    agrees.port.trans (port_key_of_portIndex destination)
  have destinationFound : ((ctx.under rules).snapshot.findPort
      builder.currentPort).isNone = false := by
    rw [arrived]
    have found : (ctx.under rules).snapshot.findPort request.destination =
        some _ := findPort_eq_port destination
    rw [found]
    rfl
  rw [rebuilt.stripCycles_eq source]
  unfold buildPlan
  simp only [startFound, transmits, Evidence.value?_known, startSlots,
    Bool.not_true, Bool.false_eq_true, if_false, ran, arrived, ne_eq,
    not_true_eq_false, capability, quality]
  rw [← arrived, destinationFound]
  simp

end SearchContext

/-! ### Candidates -/

section Candidates

variable (runtime : Runtime K) (options : PlannerOptions)
  (driver : SearchDriver E) (snapshot : TopologySnapshot K)
  (request : PlanningRequest K)

/-- A pass returned the arcs as a proven path, and the plan was built from
them. -/
def TakesRoute (plan : PlanArtifact K) (arcs : List ArcRef) : Prop :=
  ∃ exclusions env,
    ∃ path ∈ (passSearch runtime options driver snapshot request exclusions
        env).1.paths,
      path.arcs = arcs ∧ BuildsInto (searchContext runtime snapshot request)
        request (runtime.computeRequestDigest request) path plan

/-- The search context of a pass. -/
def passContext (exclusions : Exclusions) : SearchContext K :=
  searchContext runtime snapshot (request.working runtime exclusions)

/-- A proven walk of a pass to the destination, with the builder that followed
it. -/
structure Followed (exclusions : Exclusions) (startPort : Nat)
    (arcs : List ArcRef) (label : Label K) (ancestors : List (Label K))
    (builder : PlanBuilder K) : Prop where
  source : snapshot.portIndex request.source = some startPort
  destination : snapshot.portIndex request.destination = some label.portIndex
  proven : label.proven = true
  rebuilt : (passContext runtime snapshot request exclusions).Rebuilt
    request.toRouteRules request startPort arcs (label :: ancestors) builder

variable {runtime options driver snapshot request}

theorem Followed.simulates {exclusions : Exclusions} {startPort : Nat}
    {arcs : List ArcRef} {label : Label K} {ancestors : List (Label K)}
    {builder : PlanBuilder K}
    (followed : Followed runtime snapshot request exclusions startPort arcs label
      ancestors builder) :
    (passContext runtime snapshot request exclusions).Simulates label builder :=
  followed.rebuilt.simulates
    (working_channelWidthSlots runtime request exclusions).symm followed.source
    label rfl

/-- The plan of a followed walk. -/
theorem Followed.buildPlan_eq {exclusions : Exclusions} {startPort : Nat}
    {arcs : List ArcRef} {label : Label K} {ancestors : List (Label K)}
    {builder : PlanBuilder K} (formed : snapshot.WellFormed)
    (followed : Followed runtime snapshot request exclusions startPort arcs label
      ancestors builder) (requestDigest : Digest256) :
    (searchContext runtime snapshot request).buildPlan request requestDigest
        (stripCycles snapshot request.source arcs) =
      .ok ((searchContext runtime snapshot request).finishPlan request
        requestDigest arcs.length builder) :=
  followed.rebuilt.buildPlan_eq formed
    (working_channelWidthSlots runtime request exclusions).symm followed.source
    followed.destination requestDigest

/-- Every proven path of a pass is a walk that can be followed. -/
theorem followed_of_path (formed : snapshot.WellFormed) {startPort destinationPort : Nat}
    (source : snapshot.portIndex request.source = some startPort)
    (destination :
      snapshot.portIndex request.destination = some destinationPort)
    {exclusions : Exclusions} {env : E} {path : RawPath}
    (returned : path ∈ (passSearch runtime options driver snapshot request
      exclusions env).1.paths) (proven : path.proven = true) :
    ∃ label ancestors builder,
      Followed runtime snapshot request exclusions startPort path.arcs label
        ancestors builder ∧
      path.cost = label.cost ∧ path.hops = label.hops ∧
        path.regenerations = label.regenerations := by
  have ends : SearchEnds runtime snapshot (request.working runtime exclusions)
      options driver env startPort destinationPort
      (passSearch runtime options driver snapshot request exclusions env) :=
    passSearch_ends exclusions source destination
  generalize passSearch runtime options driver snapshot request exclusions env =
    search at ends returned
  cases ends with
  | refused noStart => cases returned
  | cancelled requested => cases returned
  | finished started ran ended =>
      obtain ⟨entry, _, arrived, rfl, walked⟩ := ended.of_mem_paths returned
      obtain ⟨builder, rebuilt⟩ := SearchContext.rebuilt_of_walk formed
        (working_channelWidthSlots runtime request exclusions).symm source walked
        proven
      refine ⟨entry.label, entry.ancestors, builder,
        ⟨source, ?_, proven, rebuilt⟩, rfl, rfl, rfl⟩
      rw [destination]
      exact congrArg some arrived.symm

/-- A candidate takes a route. -/
theorem takesRoute_of_candidate {env : E} {candidate : PlanArtifact K}
    (member : candidate ∈
      (plan runtime options driver snapshot request env).1.candidates) :
    earlyOutcome snapshot request = none ∧
      ∃ arcs, TakesRoute runtime options driver snapshot request candidate
        arcs := by
  have ends : PlanEnds runtime options driver snapshot request env _ := plan_ends
  generalize plan runtime options driver snapshot request env = run
    at ends member
  cases ends with
  | early _ => cases member
  | failed _ failed =>
      rw [failed.candidates] at member
      cases member
  | unplanned _ _ _ candidates _ _ =>
      rw [candidates] at member
      cases member
  | planned searching _ _ _ _ offered _ _ =>
      obtain ⟨exclusions, passEnv, path, returned, builds⟩ :=
        offered candidate member
      exact ⟨searching, path.arcs, exclusions, passEnv, path, returned, rfl,
        builds⟩

/-- The walk and the plan of a path that a pass built. -/
theorem followed_of_builds (formed : snapshot.WellFormed)
    (searching : earlyOutcome snapshot request = none)
    {exclusions : Exclusions} {env : E} {path : RawPath}
    {candidate : PlanArtifact K}
    (returned : path ∈ (passSearch runtime options driver snapshot request
      exclusions env).1.paths)
    (builds : BuildsInto (searchContext runtime snapshot request) request
      (runtime.computeRequestDigest request) path candidate) :
    ∃ startPort label ancestors builder,
      Followed runtime snapshot request exclusions startPort path.arcs label
        ancestors builder ∧
      candidate = (searchContext runtime snapshot request).finishPlan request
        (runtime.computeRequestDigest request) path.arcs.length builder := by
  obtain ⟨startPort, destinationPort, source, destination⟩ :=
    ports_of_searching searching
  obtain ⟨proven, built⟩ := builds
  obtain ⟨label, ancestors, builder, followed, _⟩ :=
    followed_of_path formed source destination returned proven
  refine ⟨startPort, label, ancestors, builder, followed, ?_⟩
  have same := followed.buildPlan_eq formed
    (runtime.computeRequestDigest request)
  exact Except.ok.inj (built.symm.trans same)

/-- The walk and the plan of a route that was taken. -/
theorem TakesRoute.followed (formed : snapshot.WellFormed)
    (searching : earlyOutcome snapshot request = none)
    {candidate : PlanArtifact K} {arcs : List ArcRef}
    (takes : TakesRoute runtime options driver snapshot request candidate arcs) :
    ∃ exclusions startPort label ancestors builder,
      Followed runtime snapshot request exclusions startPort arcs label ancestors
        builder ∧
      candidate = (searchContext runtime snapshot request).finishPlan request
        (runtime.computeRequestDigest request) arcs.length builder := by
  obtain ⟨exclusions, env, path, returned, rfl, builds⟩ := takes
  exact ⟨exclusions, followed_of_builds formed searching returned builds⟩

end Candidates

end OpticalPathPlanner
