import OpticalPathPlanner.ArcExpansion
import Mathlib

/-!
# The label search

A best-first search over port states.  Labels leave a queue in key order; a
label that a retained label of its bucket dominates is dropped, any other is
settled, takes the place of the labels it dominates and is expanded.  The
search ends when the queue is empty, when enough destination labels are
settled and the next key is larger, or at one of its bounds.

The caller's cancellation token and observer are a driver over a state of
their own: the token is polled once in every round and the observer sees the
statistics of every settled label.
-/

namespace OpticalPathPlanner

structure PlannerOptions where
  expansionCeiling : Nat := kMaxSearchExpansionsCeiling
  labelCeiling : Nat := kMaxSearchLabelsCeiling
deriving DecidableEq, Repr

/-- The caller's side of a search. -/
structure SearchDriver (E : Type) where
  isRequested : E → Bool × E
  observer : PlanningStatistics → E → E

/-- A driver that never asks for cancellation. -/
def SearchDriver.NeverCancels {E : Type} (driver : SearchDriver E) : Prop :=
  ∀ env, (driver.isRequested env).1 = false

/-- A driver without token and observer. -/
def SearchDriver.idle : SearchDriver Unit where
  isRequested _ := (false, ())
  observer _ _ := ()

structure RawPath where
  arcs : List ArcRef
  cost : UInt64
  hops : Nat
  regenerations : Nat
  proven : Bool
deriving DecidableEq, Repr

structure SearchOutcome where
  status : Status
  exhausted : Bool
  provedOptimum : Bool
  paths : List RawPath
  limitations : Nat
  witnesses : List Witness
  cuts : List CutCount
  statistics : PlanningStatistics

/-! ### What the notes add up to -/

def Note.isCut (reason : CutReason) : Note → Bool
  | .cut other => other = reason
  | _ => false

def cutCounts (notes : List Note) : List CutCount :=
  CutReason.all.filterMap fun reason =>
    let count := notes.countP (Note.isCut reason)
    if count = 0 then none else some ⟨reason, count⟩

def noteLimitations (notes : List Note) : Nat :=
  notes.foldl (fun bits note =>
    match note with
    | .limitation bit => bits ||| bit
    | _ => bits) 0

/-- At most one witness for a reason and a resource, and a bounded number. -/
def addWitness (witnesses : List Witness) (entry : Witness) : List Witness :=
  if witnesses.length ≥ kMaxWitnessEntries then witnesses
  else if witnesses.any fun existing =>
      existing.reason = entry.reason && existing.resource = entry.resource then
    witnesses
  else witnesses ++ [entry]

def noteWitnesses (notes : List Note) : List Witness :=
  notes.foldl (fun witnesses note =>
    match note with
    | .witness entry => addWitness witnesses entry
    | _ => witnesses) []

/-! ### The state of a search -/

abbrev Buckets (K : Type) :=
  AList fun _ : Nat × Option Nat => List (SearchLabel K)

structure SearchState (K E : Type) where
  frontier : List (SearchLabel K)
  buckets : Buckets K
  /-- Indices of the labels that no settled label has displaced. -/
  retained : List Nat
  /-- Indices of the settled labels. -/
  expanded : List Nat
  /-- Size of the label table, which is also the next sequence number. -/
  labelCount : Nat
  destinationLabels : List (SearchLabel K)
  retainedDestinationCount : Nat
  lastDestinationKey : Option LabelKey
  stoppedOnKey : Bool
  truncated : Bool
  notes : List Note
  statistics : PlanningStatistics
  env : E

/-- How a round of the main loop ends. -/
inductive Progress (K E : Type)
  | running (state : SearchState K E)
  | finished (state : SearchState K E)
  | cancelled (state : SearchState K E)

namespace SearchState

variable {K E : Type}

def initial (env : E) : SearchState K E where
  frontier := []
  buckets := ∅
  retained := []
  expanded := []
  labelCount := 0
  destinationLabels := []
  retainedDestinationCount := 0
  lastDestinationKey := none
  stoppedOnKey := false
  truncated := false
  notes := []
  statistics := {}
  env := env

def pushLabel (state : SearchState K E) (label : Label K)
    (ancestors : List (Label K)) : SearchState K E :=
  { state with
    frontier := SearchLabel.push ⟨label, ancestors, state.labelCount⟩
      state.frontier
    labelCount := state.labelCount + 1 }

/-- One more arc was examined. -/
def examine (state : SearchState K E) (notes : List Note) : SearchState K E :=
  { state with
    notes := state.notes ++ notes
    statistics := { state.statistics with
      arcsExamined := state.statistics.arcsExamined + 1 } }

/-- The search ran into one of its bounds. -/
def truncate (state : SearchState K E) : SearchState K E :=
  { state with
    truncated := true
    notes := state.notes ++ [.cut .searchTruncated] }

def addNotes (state : SearchState K E) (notes : List Note) :
    SearchState K E :=
  { state with notes := state.notes ++ notes }

/-- The retained labels a label is compared with. -/
def bucketOf (state : SearchState K E) (entry : SearchLabel K) :
    List (SearchLabel K) :=
  ((state.buckets.lookup entry.label.bucket).getD []).filter
    fun other => state.retained.contains other.sequence

variable [LinearOrder K]

def isDominated (state : SearchState K E) (entry : SearchLabel K) : Bool :=
  (state.bucketOf entry).any fun other => other.label.dominates entry.label

/-- A label of the bucket that the entry displaces. -/
def displaced (entry other : SearchLabel K) : Bool :=
  !other.label.dominates entry.label && entry.label.dominates other.label

/-- The scan of the bucket of a label.  It runs to its end even when a
dominator is found. -/
def scanBucket (state : SearchState K E) (entry : SearchLabel K) :
    SearchState K E :=
  { state with
    buckets := state.buckets.insert entry.label.bucket
      ((state.bucketOf entry).filter fun other => !displaced entry other)
    retained := state.retained.filter fun sequence =>
      !(state.bucketOf entry).any fun other =>
        displaced entry other && other.sequence = sequence }

def discard (state : SearchState K E) : SearchState K E :=
  { state with
    statistics := { state.statistics with
      labelsDominated := state.statistics.labelsDominated + 1 }
    notes := state.notes ++ [.cut .dominated] }

def keep (driver : SearchDriver E) (state : SearchState K E)
    (entry : SearchLabel K) : SearchState K E :=
  let buckets := state.buckets.insert entry.label.bucket
    (((state.buckets.lookup entry.label.bucket).getD []) ++ [entry])
  let statistics := { state.statistics with
    labelsExpanded := state.statistics.labelsExpanded + 1
    statesVisited := buckets.entries.length
    peakFrontier := max state.statistics.peakFrontier state.frontier.length }
  { state with
    buckets := buckets
    retained := entry.sequence :: state.retained
    expanded := entry.sequence :: state.expanded
    statistics := statistics
    env := driver.observer statistics state.env }

def reachDestination (state : SearchState K E) (entry : SearchLabel K) :
    SearchState K E :=
  { state with
    destinationLabels := state.destinationLabels ++ [entry]
    retainedDestinationCount := state.retainedDestinationCount + 1
    lastDestinationKey := some entry.label.key }

/-- Enough destination labels are settled and the next key is larger. -/
def stopsOnKey (maxCandidates : Nat) (state : SearchState K E)
    (entry : SearchLabel K) : Bool :=
  match state.lastDestinationKey with
  | none => false
  | some key => state.retainedDestinationCount ≥ maxCandidates &&
      keyLess key entry.label.key

end SearchState

/-- A search with its bounds, its caller and its destination. -/
structure SearchSetup (K E : Type) [Field K] [LinearOrder K]
    extends SearchContext K where
  request : PlanningRequest K
  options : PlannerOptions
  driver : SearchDriver E
  destinationPort : Nat

namespace SearchSetup

open SearchState

variable {K E : Type} [Field K] [LinearOrder K] (setup : SearchSetup K E)

def labelLimit : Nat :=
  min setup.options.labelCeiling setup.request.maxSearchLabels

def expansionLimit : Nat :=
  min setup.options.expansionCeiling setup.request.maxSearchExpansions

/-- Expand the arcs of a settled label, up to the bound on labels. -/
def expandArcs (entry : SearchLabel K) :
    List ArcRef → SearchState K E → SearchState K E
  | [], state => state
  | arc :: rest, state =>
      let examined :=
        state.examine (setup.expandArc entry.label entry.ancestors arc).notes
      match (setup.expandArc entry.label entry.ancestors arc).result with
      | none => expandArcs entry rest examined
      | some next =>
          if state.labelCount ≥ setup.labelLimit then examined.truncate
          else expandArcs entry rest (examined.pushLabel next entry.path)

/-- A settled label at the destination ends a route; any other is expanded. -/
def settle (entry : SearchLabel K) (state : SearchState K E) :
    Progress K E :=
  if entry.label.portIndex = setup.destinationPort then
    .running (state.reachDestination entry)
  else
    let next := setup.expandArcs entry
      (setup.outgoingArcs entry.label.portIndex) state
    if next.truncated then .finished next else .running next

/-- What the search does with the label it took from the queue. -/
def visit (entry : SearchLabel K) (state : SearchState K E) : Progress K E :=
  if state.expanded.contains entry.sequence then .running state
  else if state.stopsOnKey setup.request.maxCandidates entry then
    .finished { state with stoppedOnKey := true }
  else if state.isDominated entry then
    .running (state.scanBucket entry).discard
  else
    setup.settle entry ((state.scanBucket entry).keep setup.driver entry)

/-- One round of the main loop. -/
def round (state : SearchState K E) : Progress K E :=
  match state.frontier with
  | [] => .finished state
  | entry :: rest =>
      let (requested, env) := setup.driver.isRequested state.env
      if requested then .cancelled { state with env := env }
      else if state.statistics.labelsExpanded ≥ setup.expansionLimit then
        .finished ({ state with env := env } : SearchState K E).truncate
      else
        setup.visit entry { state with env := env, frontier := rest }

/-- The main loop, for at most the given number of rounds. -/
def rounds : Nat → SearchState K E → Progress K E
  | 0, state => .running state
  | fuel + 1, state =>
      match setup.round state with
      | .running next => rounds fuel next
      | ended => ended

/-- Every round takes a label from the queue and the table is bounded. -/
def fuel : Nat := max 1 setup.labelLimit + 1

end SearchSetup

/-! ### The start label -/

namespace SearchContext

open Traced SortedRanges

variable {K : Type} [Field K] [LinearOrder K] (ctx : SearchContext K)

/-- The cost at the source.  The addition wraps, as in the source. -/
def startCost (portIndex : Nat) : UInt64 :=
  match (ctx.portInfo portIndex).nodeIndex with
  | some node => (ctx.port portIndex).transitCost + (ctx.node node).transitCost
  | none => (ctx.port portIndex).transitCost

def startLabel (portIndex : Nat) : Traced Note (Label K) := do
  stopIf (ctx.portExcluded (ctx.port portIndex).key ||
    ctx.nodeExcluded (ctx.port portIndex).key.node ||
    ctx.domainsExcluded (ctx.port portIndex).failureDomains)
    (.cut .portExcluded)
  let proven ← ctx.admitPort true portIndex .sourceAdminDown
  let proven ← doubtIf proven (!(ctx.portInfo portIndex).maskKnown)
    kLimitationUnknownSpectrum .unknownSpectrum
    (.forPort (ctx.port portIndex).key) "port spectrum capability not published"
  stopIf (ctx.portInfo portIndex).transmitAbsent (.cut .segmentProfileAbsent)
  let proven ← doubtIf proven ((ctx.portInfo portIndex).transmit != .good)
    kLimitationUnknownQualityField .transmitProfileUnknown
    (.forPort (ctx.port portIndex).key) "transmit reach profile not published"
  stopIf (ctx.portInfo portIndex).baseMask.isEmpty (.cut .portSpectrumEmpty)
  pure
    { portIndex := portIndex
      arrival := none
      profileIndex := (ctx.portInfo portIndex).profileIndex
      mask := (ctx.portInfo portIndex).baseMask
      cost := ctx.startCost portIndex
      distanceM := 0
      lossDb := 0
      osnrInverse := 0
      spanCount := 0
      hops := 0
      regenerations := 0
      proven := proven }

end SearchContext

/-! ### The outcome -/

namespace SearchLabel

variable {K : Type}

/-- The arcs of a path, from its last label back to the start. -/
def arcsBack : List (Label K) → List ArcRef
  | [] => []
  | label :: rest =>
      match label.arrival with
      | none => []
      | some arc => arc :: arcsBack rest

def rawPath (entry : SearchLabel K) : RawPath where
  arcs := (arcsBack entry.path).reverse
  cost := entry.label.cost
  hops := entry.label.hops
  regenerations := entry.label.regenerations
  proven := entry.label.proven

end SearchLabel

/-- An outcome before anything is known. -/
def SearchOutcome.empty : SearchOutcome where
  status := okStatus
  exhausted := false
  provedOptimum := false
  paths := []
  limitations := 0
  witnesses := []
  cuts := []
  statistics := {}

namespace SearchState

variable {K E : Type}

def isExhausted (state : SearchState K E) : Bool :=
  state.frontier.isEmpty && !state.truncated

/-- The retained destination paths in the order they were settled. -/
def paths (state : SearchState K E) : List RawPath :=
  (state.destinationLabels.filter fun entry =>
    state.retained.contains entry.sequence).map SearchLabel.rawPath

def outcome (coverageComplete : Bool) (state : SearchState K E) :
    SearchOutcome where
  status := okStatus
  exhausted := state.isExhausted
  provedOptimum := (state.stoppedOnKey || state.isExhausted) &&
    !state.truncated && coverageComplete &&
    (state.paths.isEmpty || state.paths.any RawPath.proven)
  paths := state.paths
  limitations := noteLimitations state.notes |||
    (if state.truncated then kLimitationSearchTruncated else 0)
  witnesses := noteWitnesses state.notes
  cuts := cutCounts state.notes
  statistics := { state.statistics with
    truncated := state.truncated
    labelsCreated := state.labelCount }

end SearchState

/-- The state in which the main loop starts, or nothing when the start label
is refused. -/
def SearchContext.startState {K E : Type} [Field K] [LinearOrder K]
    (ctx : SearchContext K) (startPort : Nat) (env : E) :
    Option (SearchState K E) :=
  (ctx.startLabel startPort).result.map fun label =>
    ((SearchState.initial env).addNotes (ctx.startLabel startPort).notes).pushLabel
      label []

/-- What a request is searched with. -/
def searchContext {K : Type} [Field K] [LinearOrder K] (runtime : Runtime K)
    (snapshot : TopologySnapshot K) (request : PlanningRequest K) :
    SearchContext K :=
  ⟨runtime, snapshot, request.toRouteRules⟩

/-- The setup of a search towards a port. -/
def searchSetup {K E : Type} [Field K] [LinearOrder K] (runtime : Runtime K)
    (snapshot : TopologySnapshot K) (request : PlanningRequest K)
    (options : PlannerOptions) (driver : SearchDriver E)
    (destinationPort : Nat) : SearchSetup K E :=
  { searchContext runtime snapshot request with
    request := request
    options := options
    driver := driver
    destinationPort := destinationPort }

/-- The search.  A start label that is refused leaves an exhausted outcome
without explanation. -/
def runSearch {K E : Type} [Field K] [LinearOrder K] (runtime : Runtime K)
    (snapshot : TopologySnapshot K) (request : PlanningRequest K)
    (options : PlannerOptions) (driver : SearchDriver E) (env : E) :
    SearchOutcome × E :=
  match snapshot.portIndex request.source,
      snapshot.portIndex request.destination with
  | some startPort, some destinationPort =>
      match (searchContext runtime snapshot request).startState startPort env with
      | none => ({ SearchOutcome.empty with exhausted := true }, env)
      | some state =>
          let setup := searchSetup runtime snapshot request options driver
            destinationPort
          match setup.rounds setup.fuel state with
          | .running final | .finished final =>
              (final.outcome snapshot.coverageComplete, final.env)
          | .cancelled final =>
              ({ SearchOutcome.empty with
                  status := failure .cancelled
                    (text "the caller cancelled the search")
                  statistics := final.statistics }, final.env)
  | _, _ =>
      ({ SearchOutcome.empty with
          status := failure .internal
            (text "search requires both endpoints to exist in the snapshot")
          exhausted := true }, env)

end OpticalPathPlanner
