import OpticalPathPlanner.BuildPlan

/-!
# The planner

`plan` validates a request against a snapshot, runs one search pass, or one
pass per candidate when the candidates have to be disjoint, builds the plans
of the proven paths and classifies the outcome.
-/

namespace OpticalPathPlanner

open SortedRanges

variable {K E : Type}

def kPlanBuildBudget : Nat := 64

/-! ### Merging passes -/

/-- Add the count of a reason, in the order in which reasons first appear. -/
def mergeCut (cuts : List CutCount) (cut : CutCount) : List CutCount :=
  if cuts.any fun entry => entry.reason = cut.reason then
    cuts.map fun entry =>
      if entry.reason = cut.reason then
        { entry with count := entry.count + cut.count }
      else entry
  else cuts ++ [cut]

def mergeStatistics (total pass : PlanningStatistics) : PlanningStatistics where
  labelsCreated := total.labelsCreated + pass.labelsCreated
  labelsExpanded := total.labelsExpanded + pass.labelsExpanded
  labelsDominated := total.labelsDominated + pass.labelsDominated
  peakFrontier := max total.peakFrontier pass.peakFrontier
  arcsExamined := total.arcsExamined + pass.arcsExamined
  statesVisited := max total.statesVisited pass.statesVisited
  truncated := total.truncated || pass.truncated

def mergeSearch (result : PlanningResult K) (search : SearchOutcome) :
    PlanningResult K :=
  { result with
    statistics := mergeStatistics result.statistics search.statistics
    limitations := result.limitations ||| search.limitations
    witnesses := result.witnesses ++ search.witnesses
    cuts := search.cuts.foldl mergeCut result.cuts }

/-! ### Exclusions of accepted candidates -/

/-- What the accepted candidates add to the exclusions of the next pass. -/
structure Exclusions where
  nodes : List NodeId := []
  spans : List SpanId := []
  domains : List FailureDomainId := []

/-- The byte between the node and the port of a port key's text. -/
def colon : UInt8 := 58

def parsedNode (bytes : Bytes) : List NodeId :=
  match StrongId.parse .node bytes with
  | .ok id => [id]
  | .error _ => []

/-- The nodes a step names: a node step by its text, a port step by the text
before the first colon. -/
def stepNodes (step : PlanStep) : List NodeId :=
  match step.resource.kind with
  | .node => parsedNode step.resource.text
  | .port =>
      if colon ∈ step.resource.text then
        parsedNode (step.resource.text.takeWhile (· ≠ colon))
      else []
  | _ => []

def stepSpans (step : PlanStep) : List SpanId :=
  match step.resource.kind with
  | .span =>
      match StrongId.parse .span step.resource.text with
      | .ok id => [id]
      | .error _ => []
  | _ => []

def extendExclusions (plan : PlanArtifact K) (kind : Disjointness)
    (exclusions : Exclusions) : Exclusions :=
  match kind with
  | .none => exclusions
  | .node => { exclusions with
      nodes := exclusions.nodes ++ plan.steps.flatMap stepNodes }
  | .span => { exclusions with
      spans := exclusions.spans ++ plan.steps.flatMap stepSpans }
  | .failureDomain => { exclusions with
      domains := exclusions.domains ++
        plan.failureDomainExposure.map FailureDomainExposure.id }

variable [Field K] [LinearOrder K] (runtime : Runtime K)

def sortUnique {α : Type} [LinearOrder α] (values : List α) : List α :=
  (runtime.routine.sortValues values).destutter (· ≠ ·)

/-- The request of one pass over disjoint candidates. -/
def PlanningRequest.excluding (request : PlanningRequest K)
    (exclusions : Exclusions) : PlanningRequest K :=
  { request with
    maxCandidates := 1
    disjointness := .none
    constraints := { request.constraints with
      excludedNodes := request.constraints.excludedNodes ++
        sortUnique runtime exclusions.nodes
      excludedSpans := request.constraints.excludedSpans ++
        sortUnique runtime exclusions.spans
      excludedFailureDomains := request.constraints.excludedFailureDomains ++
        sortUnique runtime exclusions.domains } }

/-! ### Results -/

def Witness.sortKey (entry : Witness) : Nat ×ₗ ResourceKey ×ₗ Bytes :=
  toLex (entry.reason.number, toLex (entry.resource, entry.detail))

def finaliseResult (result : PlanningResult K) : PlanningResult K :=
  runtime.sealResult
    { result with
      witnesses := ((runtime.routine.sortBy Witness.sortKey
        result.witnesses).destutter (· ≠ ·)).take kMaxWitnessEntries
      cuts := runtime.routine.sortBy (fun cut => cut.reason.number)
        result.cuts }

/-- The result before anything is known. -/
def emptyResult (snapshot : TopologySnapshot K) (request : PlanningRequest K) :
    PlanningResult K where
  outcome := .refused
  status := okStatus
  requestDigest := runtime.computeRequestDigest request
  snapshotDigest := snapshot.digest
  candidates := []
  witnesses := []
  limitations := 0
  cuts := []
  statistics := {}
  optimalityProven := false
  resultDigest := ⟨0⟩

/-! ### Conditions that end planning before the search -/

/-- An outcome that is known without a search. -/
structure EarlyOutcome where
  outcome : PlanOutcome
  status : Status
  limitations : Nat := 0
  witnesses : List Witness := []
  cuts : List CutCount := []

def EarlyOutcome.apply (early : EarlyOutcome) (result : PlanningResult K) :
    PlanningResult K :=
  { result with
    outcome := early.outcome
    status := early.status
    limitations := result.limitations ||| early.limitations
    witnesses := result.witnesses ++ early.witnesses
    cuts := result.cuts ++ early.cuts }

def requestOutcome (request : PlanningRequest K) : Option EarlyOutcome :=
  let status := request.validate
  if status.failed then
    some
      { outcome := if status.code = .unsupported then .unsupported else .refused
        status := status }
  else none

def freshnessOutcome (snapshot : TopologySnapshot K)
    (request : PlanningRequest K) : Option EarlyOutcome :=
  if snapshot.freshness ≠ .fresh ∧ ¬ request.acceptRestoredEvidence then
    some
      { outcome := .indeterminate
        status := failure .stale (text ("the snapshot was restored from " ++
          "persistence and the caller did not accept restored evidence"))
        limitations := kLimitationRestoredEvidence ||| kLimitationStaleEvidence
        witnesses := [⟨.unresolvedReference, .forSource ⟨text "snapshot"⟩,
          text "restored from incarnation " ++
            snapshot.restoredFromIncarnation.toHex⟩] }
  else none

def generationOutcome (snapshot : TopologySnapshot K)
    (request : PlanningRequest K) : Option EarlyOutcome :=
  match request.requiredSnapshotGeneration with
  | none => none
  | some required =>
      if snapshot.generation < required then
        some
          { outcome := .indeterminate
            status := failure .stale (text "snapshot generation " ++
              formatU64 snapshot.generation.toNat ++
              text " is older than the requested minimum " ++
              formatU64 required.toNat)
            limitations := kLimitationStaleEvidence }
      else none

def digestOutcome (snapshot : TopologySnapshot K)
    (request : PlanningRequest K) : Option EarlyOutcome :=
  match request.expectedSnapshotDigest with
  | none => none
  | some expected =>
      if expected ≠ snapshot.digest then
        some
          { outcome := .indeterminate
            status := failure .stale (text
              "snapshot digest does not match the digest the request pinned")
            limitations := kLimitationStaleEvidence }
      else none

def sourceOutcome (snapshot : TopologySnapshot K)
    (entry : SourceId × Generation) : Option EarlyOutcome :=
  if !snapshot.hasSource entry.1 then
    some
      { outcome := .indeterminate
        status := failure .stale (text "source '" ++ entry.1.str ++
          text "' is required by the request but is absent from the snapshot")
        limitations := kLimitationStaleEvidence
        witnesses := [⟨.unresolvedReference, .forSource entry.1,
          text "required evidence source is absent"⟩] }
  else if snapshot.sourceGeneration entry.1 < entry.2 then
    some
      { outcome := .indeterminate
        status := failure .stale (text "source '" ++ entry.1.str ++
          text "' publishes generation " ++
          formatU64 (snapshot.sourceGeneration entry.1).toNat ++
          text " but the request requires at least " ++
          formatU64 entry.2.toNat)
        limitations := kLimitationStaleEvidence }
  else none

def gridOutcome (snapshot : TopologySnapshot K) (request : PlanningRequest K) :
    Option EarlyOutcome :=
  if snapshot.spectrum.grid = .fixed50GHz ∧ request.channelWidthSlots ≠ 1 then
    some
      { outcome := .unsupported
        status := failure .unsupported (text ("a fixed 50 GHz grid carries " ++
          "single-slot channels; multi-slot widths are only modelled on the " ++
          "flexible grid")) }
  else none

def endpointOutcome (snapshot : TopologySnapshot K)
    (request : PlanningRequest K) : Option EarlyOutcome :=
  let sourcePresent := (snapshot.findPort request.source).isSome
  let destinationPresent := (snapshot.findPort request.destination).isSome
  let reason : CutReason :=
    if sourcePresent then .destinationAbsent else .sourceAbsent
  if sourcePresent && destinationPresent then none
  else if snapshot.coverageComplete then
    some { outcome := .infeasible, status := okStatus, cuts := [⟨reason, 1⟩] }
  else
    some
      { outcome := .indeterminate
        status := failure .notFound (text ("an endpoint has no record and the " ++
          "snapshot does not claim complete coverage"))
        limitations := kLimitationUnknownAdjacency
        witnesses := [⟨reason, .forPort
          (if sourcePresent then request.destination else request.source),
          text "no record for this port"⟩]
        cuts := [⟨reason, 1⟩] }

/-- The first condition that ends planning before the search. -/
def earlyOutcome (snapshot : TopologySnapshot K) (request : PlanningRequest K) :
    Option EarlyOutcome :=
  requestOutcome request <|> freshnessOutcome snapshot request <|>
    generationOutcome snapshot request <|> digestOutcome snapshot request <|>
    request.requiredSourceGenerations.findSome? (sourceOutcome snapshot) <|>
    gridOutcome snapshot request <|> endpointOutcome snapshot request

/-! ### Building the plans of a pass -/

/-- The plans of the proven paths, in the order of the paths and without
repeated digests, and whether an unproven path was passed over. -/
def buildPaths (ctx : SearchContext K) (request : PlanningRequest K)
    (requestDigest : Digest256) (budget : Nat) (built : List (PlanArtifact K))
    (unproven : Bool) :
    List RawPath → Except Status (List (PlanArtifact K) × Bool)
  | [] => .ok (built, unproven)
  | path :: rest =>
      if !path.proven then buildPaths ctx request requestDigest budget built true rest
      else if built.length ≥ budget then .ok (built, unproven)
      else
        match ctx.buildPlan request requestDigest
          (stripCycles ctx.snapshot request.source path.arcs) with
        | .error status => .error status
        | .ok plan =>
            if built.any fun other => other.digest = plan.digest then
              buildPaths ctx request requestDigest budget built unproven rest
            else
              buildPaths ctx request requestDigest budget (built ++ [plan]) unproven rest

/-! ### Passes -/

structure PassState (K E : Type) where
  result : PlanningResult K
  accepted : List (PlanArtifact K)
  exclusions : Exclusions
  firstPassProvedOptimum : Bool
  stoppedOnKnowledgeGap : Bool
  stoppedOnTruncation : Bool
  stoppingStatus : Status
  env : E

/-- How a pass ends: the next pass follows, the passes are over, or planning
as a whole returns. -/
inductive PassProgress (K E : Type)
  | next (state : PassState K E)
  | stop (state : PassState K E)
  | done (result : PlanningResult K) (env : E)

def PlanningRequest.iterative (request : PlanningRequest K) : Bool :=
  request.disjointness ≠ .none && decide (request.maxCandidates > 1)

def PlanningRequest.buildBudget (request : PlanningRequest K) : Nat :=
  if request.iterative then 1
  else if request.disjointness = .none then request.maxCandidates
  else min kPlanBuildBudget (request.maxCandidates * 8)

/-- Why a pass without a plan ends the passes. -/
def PassState.withoutPlan (snapshot : TopologySnapshot K)
    (search : SearchOutcome) (unproven : Bool) (state : PassState K E) :
    PassState K E :=
  if unproven then
    { state with
      stoppedOnKnowledgeGap := true
      stoppingStatus := failure .stale (text ("a route exists only under " ++
        "unpublished evidence, so neither feasibility nor infeasibility can " ++
        "be proven")) }
  else if search.statistics.truncated || !search.exhausted then
    { state with
      stoppedOnTruncation := true
      stoppingStatus := failure .truncated (text ("the search reached its " ++
        "configured bound before exhausting the reachable state space")) }
  else if !snapshot.coverageComplete then
    { state with
      stoppedOnKnowledgeGap := true
      stoppingStatus := failure .stale (text ("the snapshot does not claim " ++
        "complete coverage, so absence of a route cannot be proven"))
      result := { state.result with
        limitations := state.result.limitations |||
          (kLimitationUnknownAdjacency ||| kLimitationUnresolvedReference) } }
  else state

/-- What a pass does with the outcome of its search. -/
def afterSearch (snapshot : TopologySnapshot K) (request : PlanningRequest K)
    (search : SearchOutcome) (state : PassState K E) : PassProgress K E :=
  if search.status.failed then
    .done (finaliseResult runtime { state.result with
      outcome := if search.status.code = .cancelled then .cancelled else .refused
      status := search.status }) state.env
  else
    match buildPaths (searchContext runtime snapshot request) request
      state.result.requestDigest request.buildBudget [] false search.paths with
    | .error status => .done (finaliseResult runtime { state.result with
        outcome := .refused
        status := status }) state.env
    | .ok (built, unproven) =>
        match runtime.routine.sort planLess built with
        | [] => .stop (state.withoutPlan snapshot search unproven)
        | best :: others =>
            if request.iterative then
              .next { state with
                accepted := state.accepted ++ [best]
                exclusions := extendExclusions best request.disjointness
                  state.exclusions }
            else
              .stop { state with
                accepted := state.accepted ++ (best :: others).take
                  (request.maxCandidates - state.accepted.length) }

/-- The request a pass searches with. -/
def PlanningRequest.working (request : PlanningRequest K)
    (exclusions : Exclusions) : PlanningRequest K :=
  if request.iterative then request.excluding runtime exclusions else request

def runPass (options : PlannerOptions) (driver : SearchDriver E)
    (snapshot : TopologySnapshot K) (request : PlanningRequest K) (pass : Nat)
    (state : PassState K E) : PassProgress K E :=
  let working := request.working runtime state.exclusions
  if request.iterative && working.validate.failed then
    .stop { state with stoppingStatus := working.validate }
  else
    let searched := runSearch runtime snapshot working options driver state.env
    afterSearch runtime snapshot request searched.1 { state with
      result := mergeSearch state.result searched.1
      firstPassProvedOptimum :=
        if pass = 0 then searched.1.provedOptimum
        else state.firstPassProvedOptimum
      env := searched.2 }

/-- The passes from a pass number on. -/
def runPasses (options : PlannerOptions) (driver : SearchDriver E)
    (snapshot : TopologySnapshot K) (request : PlanningRequest K) :
    Nat → Nat → PassState K E → PassProgress K E
  | 0, _, state => .stop state
  | remaining + 1, pass, state =>
      match runPass runtime options driver snapshot request pass state with
      | .next next =>
          runPasses options driver snapshot request remaining (pass + 1) next
      | ended => ended

/-! ### Classification -/

def noteIfSet (condition : Bool) (bit : Nat) : Nat :=
  if condition then bit else 0

def classify (snapshot : TopologySnapshot K) (request : PlanningRequest K)
    (state : PassState K E) : PlanningResult K :=
  let result := { state.result with candidates := state.accepted }
  if !state.accepted.isEmpty then
    let proven := state.firstPassProvedOptimum && snapshot.coverageComplete
    { result with
      outcome := .feasible
      status := okStatus
      optimalityProven := proven
      limitations := result.limitations |||
        noteIfSet (request.iterative &&
          decide (state.accepted.length < request.maxCandidates) &&
          !state.stoppedOnKnowledgeGap && !state.stoppedOnTruncation)
          kLimitationDisjointnessGreedy |||
        noteIfSet (!proven) kLimitationOptimalityNotProven }
  else if state.stoppedOnKnowledgeGap then
    { result with outcome := .indeterminate, status := state.stoppingStatus }
  else if state.stoppedOnTruncation then
    { result with
      outcome := .indeterminate
      status := state.stoppingStatus
      limitations := result.limitations ||| kLimitationSearchTruncated }
  else
    { result with
      outcome := .infeasible
      status := okStatus
      optimalityProven := false }

def startPasses (snapshot : TopologySnapshot K) (request : PlanningRequest K)
    (env : E) : PassState K E where
  result := emptyResult runtime snapshot request
  accepted := []
  exclusions := {}
  firstPassProvedOptimum := false
  stoppedOnKnowledgeGap := false
  stoppedOnTruncation := false
  stoppingStatus := okStatus
  env := env

/-- The result of the passes. -/
def finishPasses (snapshot : TopologySnapshot K) (request : PlanningRequest K) :
    PassProgress K E → PlanningResult K × E
  | .done result final => (result, final)
  | .next state | .stop state =>
      (finaliseResult runtime (classify snapshot request state), state.env)

/-- Planning, with the state in which it leaves the caller. -/
def plan (options : PlannerOptions) (driver : SearchDriver E)
    (snapshot : TopologySnapshot K) (request : PlanningRequest K) (env : E) :
    PlanningResult K × E :=
  match earlyOutcome snapshot request with
  | some early => (finaliseResult runtime
      (early.apply (emptyResult runtime snapshot request)), env)
  | none =>
      finishPasses runtime snapshot request
        (runPasses runtime options driver snapshot request
          (if request.iterative then request.maxCandidates else 1) 0
          (startPasses runtime snapshot request env))

/-- Planning over the records of a builder, on the rational runtime and
without token or observer. -/
def SnapshotBuilder.planned (builder : SnapshotBuilder ℚ)
    (request : PlanningRequest ℚ) : PlanningResult ℚ :=
  (plan rationalRuntime {} .idle (builder.finished rationalRuntime) request ()).1

end OpticalPathPlanner
