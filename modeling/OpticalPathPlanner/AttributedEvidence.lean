import OpticalPathPlanner.PlannerRuns
import OpticalPathPlanner.RereadSnapshots

/-!
# Evidence under another attribution

Planning asks the source records of a snapshot for their ids and generations,
and the provenance of a restored snapshot shows in one witness.  So a snapshot
plans alike under source records that are spelled alike and under another
provenance: the search does not see the difference at all, and the plans bind
to the same sources.
-/

namespace OpticalPathPlanner

open SortedRanges Traced

variable {K E : Type}

/-- The same evidence under other source records and another provenance. -/
def TopologySnapshot.underSources (snapshot : TopologySnapshot K)
    (sources : List SourceRecord) (producer : IncarnationId) (epoch : UInt64) :
    TopologySnapshot K :=
  { snapshot with
    sources := sources
    restoredFromIncarnation := producer
    restoredFromEpoch := epoch }

variable {sources : List SourceRecord} {producer : IncarnationId} {epoch : UInt64}

/-! ### The search -/

section Search

variable [Field K] [LinearOrder K]

namespace SearchContext

variable (ctx : SearchContext K)

variable (sources producer epoch) in
def underSources : SearchContext K :=
  { ctx with snapshot := ctx.snapshot.underSources sources producer epoch }

theorem pathMembers_underSources (domain : FailureDomainId) (path : List (Label K)) :
    (ctx.underSources sources producer epoch).pathMembers domain path =
      ctx.pathMembers domain path := by
  induction path with
  | nil => rfl
  | cons label rest ih =>
      simp only [pathMembers, ih]
      rfl

theorem memberLimitExceeded_underSources (path : List (Label K)) (fromPort : Nat)
    (arc : ArcRef) (toPort : Nat) :
    (ctx.underSources sources producer epoch).memberLimitExceeded path fromPort arc
        toPort =
      ctx.memberLimitExceeded path fromPort arc toPort := by
  simp only [memberLimitExceeded, pathMembers_underSources]
  rfl

theorem enterSpan_underSources (record : SpanRecord K) (info : SpanInfo K)
    (current : Label K) (ancestors : List (Label K)) (arc : SpanArc) :
    (ctx.underSources sources producer epoch).enterSpan record info current
        ancestors arc =
      ctx.enterSpan record info current ancestors arc := by
  simp only [enterSpan, memberLimitExceeded_underSources]
  rfl

theorem enterCrossConnect_underSources (record : CrossConnectRecord)
    (info : CrossConnectInfo) (current : Label K) (ancestors : List (Label K))
    (index : Nat) :
    (ctx.underSources sources producer epoch).enterCrossConnect record info current
        ancestors index =
      ctx.enterCrossConnect record info current ancestors index := by
  simp only [enterCrossConnect, memberLimitExceeded_underSources]
  rfl

theorem expandArc_underSources (current : Label K) (ancestors : List (Label K))
    (arc : ArcRef) :
    (ctx.underSources sources producer epoch).expandArc current ancestors arc =
      ctx.expandArc current ancestors arc := by
  obtain ⟨kind, index, reversed⟩ := arc
  cases kind with
  | crossConnect =>
      exact congrArg (fun entered : Traced Note (Nat × UInt64) =>
          entered >>= fun entry => ctx.crossConnectLabel (ctx.crossConnect index)
            (ctx.crossConnectInfo index) current index entry.1 entry.2)
        (ctx.enterCrossConnect_underSources _ _ _ _ _)
  | span =>
      exact congrArg (fun entered : Traced Note (Nat × UInt64) =>
          entered >>= fun entry => ctx.spanLabel (ctx.span index)
            (ctx.spanInfo index) current ⟨index, reversed⟩ entry.1 entry.2)
        (ctx.enterSpan_underSources _ _ _ _ _)

end SearchContext

namespace SearchSetup

variable (setup : SearchSetup K E)

variable (sources producer epoch) in
def underSources : SearchSetup K E :=
  { setup with
    toSearchContext := setup.toSearchContext.underSources sources producer epoch }

theorem expandArcs_underSources (entry : SearchLabel K) (arcs : List ArcRef)
    (state : SearchState K E) :
    (setup.underSources sources producer epoch).expandArcs entry arcs state =
      setup.expandArcs entry arcs state := by
  induction arcs generalizing state with
  | nil => rfl
  | cons arc rest ih =>
      have expanded : (setup.underSources sources producer epoch).expandArc
          entry.label entry.ancestors arc =
            setup.expandArc entry.label entry.ancestors arc :=
        setup.expandArc_underSources _ _ _
      rw [expandArcs, expandArcs, expanded]
      cases (setup.expandArc entry.label entry.ancestors arc).result with
      | none => exact ih _
      | some next =>
          dsimp only
          rw [ih]
          rfl

theorem round_underSources (state : SearchState K E) :
    (setup.underSources sources producer epoch).round state = setup.round state := by
  unfold round
  cases state.frontier with
  | nil => rfl
  | cons entry rest =>
      unfold visit settle
      simp only [expandArcs_underSources]
      rfl

theorem rounds_underSources (fuel : Nat) (state : SearchState K E) :
    (setup.underSources sources producer epoch).rounds fuel state =
      setup.rounds fuel state := by
  induction fuel generalizing state with
  | zero => rfl
  | succ fuel ih =>
      rw [rounds, rounds, round_underSources]
      cases setup.round state with
      | running next => exact ih next
      | finished next => rfl
      | cancelled next => rfl

end SearchSetup

variable {runtime : Runtime K} {snapshot : TopologySnapshot K}

theorem runSearch_underSources (request : PlanningRequest K)
    (options : PlannerOptions) (driver : SearchDriver E) (env : E) :
    runSearch runtime (snapshot.underSources sources producer epoch) request options
        driver env =
      runSearch runtime snapshot request options driver env := by
  have setup (port : Nat) :
      searchSetup runtime (snapshot.underSources sources producer epoch) request
          options driver port =
        (searchSetup runtime snapshot request options driver port).underSources
          sources producer epoch := rfl
  unfold runSearch
  simp only [setup, SearchSetup.rounds_underSources]
  rfl

omit [Field K] [LinearOrder K] in
theorem stripCycles_underSources (source : PortKey) (arcs : List ArcRef) :
    stripCycles (snapshot.underSources sources producer epoch) source arcs =
      stripCycles snapshot source arcs := by
  have from_ (output : List ArcRef) (visited : List PortKey) :
      stripFrom (snapshot.underSources sources producer epoch) output visited arcs =
        stripFrom snapshot output visited arcs := by
    induction arcs generalizing output visited with
    | nil => rfl
    | cons arc rest ih =>
        simp only [stripFrom, ih]
        rfl
  exact from_ _ _

end Search

/-! ### Sources that are spelled alike -/

section Spelled

variable {snapshot : TopologySnapshot K}
  (spelled : sources.map SourceRecord.reread =
    snapshot.sources.map SourceRecord.reread)

include spelled

/-- What a text keeps of a source is the same. -/
theorem map_of_spelled {α : Type} (field : SourceRecord → α)
    (kept : ∀ source, field source.reread = field source) :
    sources.map field = snapshot.sources.map field := by
  have same := congrArg (List.map field) spelled
  simpa only [List.map_map, Function.comp_def, kept] using same

theorem snapshotToText_underSources (formatDouble : K → Bytes) :
    snapshotToText formatDouble (snapshot.underSources sources producer epoch) =
      snapshotToText formatDouble snapshot := by
  have lines : sources.flatMap sourceLine = snapshot.sources.flatMap sourceLine := by
    rw [List.flatMap_def, List.flatMap_def]
    exact congrArg List.flatten (map_of_spelled spelled sourceLine fun _ => rfl)
  unfold snapshotToText
  simp only [TopologySnapshot.underSources, lines]

theorem sourceIndex_underSources (id : SourceId) :
    (snapshot.underSources sources producer epoch).sourceIndex id =
      snapshot.sourceIndex id := by
  unfold TopologySnapshot.sourceIndex
  rw [findByKey_map, findByKey_map SourceRecord.id snapshot.sources]
  exact congrArg (fun ids => findByKey (fun key : SourceId => key) ids id)
    (map_of_spelled spelled SourceRecord.id fun _ => rfl)

omit spelled in
theorem sourceGeneration_eq (snapshot : TopologySnapshot K) (id : SourceId) :
    snapshot.sourceGeneration id =
      ((snapshot.sourceIndex id).bind fun index =>
        (snapshot.sources.map SourceRecord.generation)[index]?).getD 0 := by
  unfold TopologySnapshot.sourceGeneration
  cases snapshot.sourceIndex id with
  | none => rfl
  | some index =>
      simp only [Option.bind_some, List.getElem?_map]
      cases snapshot.sources[index]? <;> rfl

theorem sourceGeneration_underSources (id : SourceId) :
    (snapshot.underSources sources producer epoch).sourceGeneration id =
      snapshot.sourceGeneration id := by
  have generations : (snapshot.underSources sources producer epoch).sources.map
      SourceRecord.generation = snapshot.sources.map SourceRecord.generation :=
    map_of_spelled spelled SourceRecord.generation fun _ => rfl
  rw [sourceGeneration_eq, sourceGeneration_eq, sourceIndex_underSources spelled,
    generations]

theorem sourceOutcome_underSources (entry : SourceId × Generation) :
    sourceOutcome (snapshot.underSources sources producer epoch) entry =
      sourceOutcome snapshot entry := by
  unfold sourceOutcome TopologySnapshot.hasSource
  rw [sourceIndex_underSources spelled, sourceGeneration_underSources spelled]

/-- The same condition ends planning before the search. -/
theorem earlyOutcome_underSources [Field K] [LinearOrder K]
    (request : PlanningRequest K) :
    (earlyOutcome (snapshot.underSources sources producer epoch) request).map
        EarlyOutcome.outcome =
      (earlyOutcome snapshot request).map EarlyOutcome.outcome := by
  have listed : sourceOutcome (snapshot.underSources sources producer epoch) =
      sourceOutcome snapshot :=
    funext fun entry => sourceOutcome_underSources spelled entry
  unfold earlyOutcome
  rw [listed]
  cases requestOutcome request with
  | some early => rfl
  | none =>
      have fresh (provenance : TopologySnapshot K)
          (same : provenance.freshness = snapshot.freshness) :
          (freshnessOutcome provenance request).map EarlyOutcome.outcome =
            if snapshot.freshness ≠ .fresh ∧ ¬ request.acceptRestoredEvidence then
              some .indeterminate
            else none := by
        unfold freshnessOutcome
        rw [same]
        split_ifs <;> rfl
      have first := fresh (snapshot.underSources sources producer epoch) rfl
      have second := fresh snapshot rfl
      split_ifs at first second with stale
      · obtain ⟨early, isEarly, outcome⟩ := Option.map_eq_some_iff.mp first
        obtain ⟨other, isOther, otherOutcome⟩ := Option.map_eq_some_iff.mp second
        rw [isEarly, isOther]
        exact congrArg some (outcome.trans otherOutcome.symm)
      · rw [Option.map_eq_none_iff.mp first, Option.map_eq_none_iff.mp second]
        rfl

/-! ### Plans and passes -/

variable [Field K] [LinearOrder K] {runtime : Runtime K}

/-- The plan of a walk binds to the same sources. -/
theorem finishPlan_underSources (rules : RouteRules K) (request : PlanningRequest K)
    (requestDigest : Digest256) (arcCount : Nat) (builder : PlanBuilder K) :
    SearchContext.finishPlan
        ⟨runtime, snapshot.underSources sources producer epoch, rules⟩ request
        requestDigest arcCount builder =
      SearchContext.finishPlan ⟨runtime, snapshot, rules⟩ request requestDigest
        arcCount builder := by
  have digests (source : SourceId) : runtime.sourceContributionDigest
      (snapshot.underSources sources producer epoch) source =
        runtime.sourceContributionDigest snapshot source := by
    unfold Runtime.sourceContributionDigest sourceContributionText
    rw [snapshotToText_underSources spelled]
  have bound : (snapshot.underSources sources producer epoch).sources.map
      (fun source => (⟨source.id, source.generation,
        runtime.sourceContributionDigest snapshot source.id⟩ : SourceBinding)) =
        snapshot.sources.map _ :=
    map_of_spelled spelled _ fun _ => rfl
  unfold SearchContext.finishPlan
  simp only [digests]
  rw [bound]
  rfl

theorem buildPlan_underSources (rules : RouteRules K) (request : PlanningRequest K)
    (requestDigest : Digest256) (arcs : List ArcRef) :
    SearchContext.buildPlan
        ⟨runtime, snapshot.underSources sources producer epoch, rules⟩ request
        requestDigest arcs =
      SearchContext.buildPlan ⟨runtime, snapshot, rules⟩ request requestDigest
        arcs := by
  unfold SearchContext.buildPlan
  simp only [finishPlan_underSources spelled]
  rfl

theorem buildPaths_underSources (rules : RouteRules K) (request : PlanningRequest K)
    (requestDigest : Digest256) (budget : Nat) (built : List (PlanArtifact K))
    (unproven : Bool) (paths : List RawPath) :
    buildPaths ⟨runtime, snapshot.underSources sources producer epoch, rules⟩ request
        requestDigest budget built unproven paths =
      buildPaths ⟨runtime, snapshot, rules⟩ request requestDigest budget built
        unproven paths := by
  induction paths generalizing built unproven with
  | nil => rfl
  | cons path rest ih =>
      simp only [buildPaths, buildPlan_underSources spelled, stripCycles_underSources,
        ih]

variable {options : PlannerOptions} {driver : SearchDriver E}
  {request : PlanningRequest K}

theorem runPass_underSources (pass : Nat) (state : PassState K E) :
    runPass runtime options driver (snapshot.underSources sources producer epoch)
        request pass state =
      runPass runtime options driver snapshot request pass state := by
  unfold runPass afterSearch searchContext
  simp only [runSearch_underSources, buildPaths_underSources spelled]
  rfl

theorem runPasses_underSources (remaining pass : Nat) (state : PassState K E) :
    runPasses runtime options driver (snapshot.underSources sources producer epoch)
        request remaining pass state =
      runPasses runtime options driver snapshot request remaining pass state := by
  induction remaining generalizing pass state with
  | zero => rfl
  | succ remaining ih =>
      rw [runPasses, runPasses, runPass_underSources spelled]
      cases runPass runtime options driver snapshot request pass state with
      | next state => exact ih _ _
      | stop state => rfl
      | done result env => rfl

/-- Planning comes to the same outcome with the same candidates. -/
theorem plan_underSources (env : E) :
    (plan runtime options driver (snapshot.underSources sources producer epoch)
        request env).1.outcome =
      (plan runtime options driver snapshot request env).1.outcome ∧
    (plan runtime options driver (snapshot.underSources sources producer epoch)
        request env).1.candidates =
      (plan runtime options driver snapshot request env).1.candidates := by
  have early : (earlyOutcome (snapshot.underSources sources producer epoch)
      request).map EarlyOutcome.outcome =
        (earlyOutcome snapshot request).map EarlyOutcome.outcome :=
    earlyOutcome_underSources spelled request
  unfold plan
  cases isEarly : earlyOutcome snapshot request with
  | some ended =>
      rw [isEarly, Option.map_some] at early
      obtain ⟨other, isOther, outcome⟩ := Option.map_eq_some_iff.mp early
      rw [isOther]
      exact ⟨outcome, rfl⟩
  | none =>
      rw [isEarly, Option.map_none, Option.map_eq_none_iff] at early
      rw [early]
      dsimp only
      rw [runPasses_underSources spelled]
      exact ⟨rfl, rfl⟩

end Spelled

end OpticalPathPlanner
