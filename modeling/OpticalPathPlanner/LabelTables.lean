import OpticalPathPlanner.RunSearch

/-!
# The label table of a search

The search as the source stores it: labels are rows of a table that only
grows, a row names the row of its parent by a 32-bit index, and the queue,
the buckets and the destination labels hold such indices.  A path is read off
the table by following parents.  Reading a row that is not there, or
following parents without end, leaves nothing.
-/

namespace OpticalPathPlanner

/-- No row. -/
def kNoIndex : UInt32 := 0xffffffff

structure LabelRow (K : Type) where
  label : Label K
  parent : UInt32 := kNoIndex
  sequence : Nat := 0
  retained : Bool := false
  expanded : Bool := false

structure QueueEntry where
  key : LabelKey
  sequence : Nat
  label : UInt32

namespace QueueEntry

/-- The order in which entries leave the queue. -/
def before (lhs rhs : QueueEntry) : Bool :=
  if lhs.key ≠ rhs.key then keyLess lhs.key rhs.key
  else decide (lhs.sequence < rhs.sequence)

/-- Insert into a queue kept in leaving order. -/
def push (entry : QueueEntry) : List QueueEntry → List QueueEntry
  | [] => [entry]
  | head :: rest =>
      if entry.before head then entry :: head :: rest
      else head :: push entry rest

end QueueEntry

/-- The variables of a search over a label table. -/
structure LabelTable (K E : Type) where
  labels : List (LabelRow K)
  frontier : List QueueEntry
  buckets : AList fun _ : Nat × Option Nat => List UInt32
  sequence : Nat
  destinationLabels : List UInt32
  retainedDestinationCount : Nat
  lastDestinationKey : Option LabelKey
  stoppedOnKey : Bool
  truncated : Bool
  notes : List Note
  statistics : PlanningStatistics
  env : E

/-- How a round over a label table ends. -/
inductive TableProgress (K E : Type)
  | running (table : LabelTable K E)
  | finished (table : LabelTable K E)
  | cancelled (table : LabelTable K E)

/-! ### Rows -/

section Rows

variable {K : Type}

/-- The labels from a row back to the start, over at most the given number of
rows. -/
def pathFrom (labels : List (LabelRow K)) :
    Nat → UInt32 → Option (List (Label K))
  | 0, _ => none
  | fuel + 1, cursor => do
      let row ← labels[cursor.toNat]?
      if row.parent = kNoIndex then pure [row.label]
      else
        let above ← pathFrom labels fuel row.parent
        pure (row.label :: above)

/-- A path has no more labels than the table, or parents go round in circles. -/
def pathOf (labels : List (LabelRow K)) (index : UInt32) :
    Option (List (Label K)) :=
  pathFrom labels labels.length index

def displace (row : LabelRow K) : LabelRow K :=
  { row with retained := false }

def settleRow (row : LabelRow K) : LabelRow K :=
  { row with retained := true, expanded := true }

variable [LinearOrder K]

/-- The scan of a bucket: the rows it displaces, whether a retained label
dominates the current one, and the indices it keeps. -/
def scanRows (current : Label K) :
    List UInt32 → List (LabelRow K) → Option (List (LabelRow K) × Bool × List UInt32)
  | [], labels => some (labels, false, [])
  | other :: rest, labels => do
      let row ← labels[other.toNat]?
      if !row.retained then scanRows current rest labels
      else if row.label.dominates current then
        let scanned ← scanRows current rest labels
        pure (scanned.1, true, other :: scanned.2.2)
      else if current.dominates row.label then
        scanRows current rest (labels.modify other.toNat displace)
      else
        let scanned ← scanRows current rest labels
        pure (scanned.1, scanned.2.1, other :: scanned.2.2)

end Rows

namespace LabelTable

variable {K E : Type}

def initial (env : E) : LabelTable K E where
  labels := []
  frontier := []
  buckets := ∅
  sequence := 0
  destinationLabels := []
  retainedDestinationCount := 0
  lastDestinationKey := none
  stoppedOnKey := false
  truncated := false
  notes := []
  statistics := {}
  env := env

def pushLabel (table : LabelTable K E) (label : Label K) (parent : UInt32) :
    LabelTable K E :=
  { table with
    sequence := table.sequence + 1
    labels := table.labels ++
      [{ label := label, parent := parent, sequence := table.sequence }]
    frontier := QueueEntry.push
      ⟨label.key, table.sequence, UInt32.ofNat table.labels.length⟩
      table.frontier }

def examine (table : LabelTable K E) (notes : List Note) : LabelTable K E :=
  { table with
    notes := table.notes ++ notes
    statistics := { table.statistics with
      arcsExamined := table.statistics.arcsExamined + 1 } }

def truncate (table : LabelTable K E) : LabelTable K E :=
  { table with
    truncated := true
    notes := table.notes ++ [.cut .searchTruncated] }

def addNotes (table : LabelTable K E) (notes : List Note) : LabelTable K E :=
  { table with notes := table.notes ++ notes }

def bucket (table : LabelTable K E) (current : Label K) : List UInt32 :=
  (table.buckets.lookup current.bucket).getD []

/-- What the scan of a bucket leaves. -/
def afterScan (table : LabelTable K E) (current : Label K)
    (labels : List (LabelRow K)) (bucket : List UInt32) : LabelTable K E :=
  { table with
    labels := labels
    buckets := table.buckets.insert current.bucket bucket }

def discard (table : LabelTable K E) : LabelTable K E :=
  { table with
    statistics := { table.statistics with
      labelsDominated := table.statistics.labelsDominated + 1 }
    notes := table.notes ++ [.cut .dominated] }

def keep (driver : SearchDriver E) (table : LabelTable K E) (current : Label K)
    (index : UInt32) : LabelTable K E :=
  let buckets := table.buckets.insert current.bucket
    (table.bucket current ++ [index])
  let statistics := { table.statistics with
    labelsExpanded := table.statistics.labelsExpanded + 1
    statesVisited := buckets.entries.length
    peakFrontier := max table.statistics.peakFrontier table.frontier.length }
  { table with
    labels := table.labels.modify index.toNat settleRow
    buckets := buckets
    statistics := statistics
    env := driver.observer statistics table.env }

def reachDestination (table : LabelTable K E) (current : Label K)
    (index : UInt32) : LabelTable K E :=
  { table with
    destinationLabels := table.destinationLabels ++ [index]
    retainedDestinationCount := table.retainedDestinationCount + 1
    lastDestinationKey := some current.key }

def stopsOnKey (maxCandidates : Nat) (table : LabelTable K E)
    (entry : QueueEntry) : Bool :=
  match table.lastDestinationKey with
  | none => false
  | some key => table.retainedDestinationCount ≥ maxCandidates &&
      keyLess key entry.key

end LabelTable

namespace SearchSetup

variable {K E : Type} [Field K] [LinearOrder K] (setup : SearchSetup K E)

/-- Expand the arcs of a settled row, up to the bound on labels. -/
def expandRow (current : Label K) (index : UInt32) :
    List ArcRef → LabelTable K E → Option (LabelTable K E)
  | [], table => some table
  | arc :: rest, table => do
      let path ← pathOf table.labels index
      let expansion := setup.expandArc current path.tail arc
      let examined := table.examine expansion.notes
      match expansion.result with
      | none => expandRow current index rest examined
      | some next =>
          if table.labels.length ≥ setup.labelLimit then some examined.truncate
          else expandRow current index rest (examined.pushLabel next index)

def settleTable (current : Label K) (index : UInt32) (table : LabelTable K E) :
    Option (TableProgress K E) :=
  if current.portIndex = setup.destinationPort then
    some (.running (table.reachDestination current index))
  else do
    let next ← setup.expandRow current index
      (setup.outgoingArcs current.portIndex) table
    pure (if next.truncated then .finished next else .running next)

/-- What the search does with the entry it took from the queue. -/
def visitRow (entry : QueueEntry) (table : LabelTable K E) :
    Option (TableProgress K E) := do
  let row ← table.labels[entry.label.toNat]?
  if row.expanded then pure (.running table)
  else if table.stopsOnKey setup.request.maxCandidates entry then
    pure (.finished { table with stoppedOnKey := true })
  else
    let scanned ← scanRows row.label (table.bucket row.label) table.labels
    let after := table.afterScan row.label scanned.1 scanned.2.2
    if scanned.2.1 then pure (.running after.discard)
    else
      setup.settleTable row.label entry.label
        (after.keep setup.driver row.label entry.label)

/-- One round of the main loop over a label table. -/
def roundTable (table : LabelTable K E) : Option (TableProgress K E) :=
  match table.frontier with
  | [] => some (.finished table)
  | entry :: rest =>
      let (requested, env) := setup.driver.isRequested table.env
      if requested then some (.cancelled { table with env := env })
      else if table.statistics.labelsExpanded ≥ setup.expansionLimit then
        some (.finished ({ table with env := env } : LabelTable K E).truncate)
      else
        setup.visitRow entry { table with env := env, frontier := rest }

/-- The main loop, for at most the given number of rounds. -/
def roundsTable : Nat → LabelTable K E → Option (TableProgress K E)
  | 0, table => some (.running table)
  | fuel + 1, table =>
      match setup.roundTable table with
      | some (.running next) => roundsTable fuel next
      | ended => ended

end SearchSetup

/-! ### The outcome -/

namespace LabelTable

variable {K E : Type}

def isExhausted (table : LabelTable K E) : Bool :=
  table.frontier.isEmpty && !table.truncated

/-- The path to a destination label, if that is still retained. -/
def rawPathAt (table : LabelTable K E) (index : UInt32) :
    Option (Option RawPath) := do
  let row ← table.labels[index.toNat]?
  if !row.retained then pure none
  else
    let path ← pathOf table.labels index
    pure (some
      { arcs := (SearchLabel.arcsBack path).reverse
        cost := row.label.cost
        hops := row.label.hops
        regenerations := row.label.regenerations
        proven := row.label.proven })

/-- The retained destination paths in the order they were settled. -/
def paths (table : LabelTable K E) : Option (List RawPath) := do
  let paths ← table.destinationLabels.mapM table.rawPathAt
  pure (paths.filterMap id)

def outcome (coverageComplete : Bool) (table : LabelTable K E) :
    Option SearchOutcome := do
  let paths ← table.paths
  pure
    { status := okStatus
      exhausted := table.isExhausted
      provedOptimum := (table.stoppedOnKey || table.isExhausted) &&
        !table.truncated && coverageComplete &&
        (paths.isEmpty || paths.any RawPath.proven)
      paths := paths
      limitations := noteLimitations table.notes |||
        (if table.truncated then kLimitationSearchTruncated else 0)
      witnesses := noteWitnesses table.notes
      cuts := cutCounts table.notes
      statistics := { table.statistics with
        truncated := table.truncated
        labelsCreated := table.labels.length } }

end LabelTable

def SearchContext.startTable {K E : Type} [Field K] [LinearOrder K]
    (ctx : SearchContext K) (startPort : Nat) (env : E) :
    Option (LabelTable K E) :=
  (ctx.startLabel startPort).result.map fun label =>
    ((LabelTable.initial env).addNotes (ctx.startLabel startPort).notes).pushLabel
      label kNoIndex

/-- The search over a label table; nothing when it reads a row that is not
there, follows parents without end or does not end itself. -/
def runTableSearch {K E : Type} [Field K] [LinearOrder K] (runtime : Runtime K)
    (snapshot : TopologySnapshot K) (request : PlanningRequest K)
    (options : PlannerOptions) (driver : SearchDriver E) (env : E) :
    Option (SearchOutcome × E) :=
  match snapshot.portIndex request.source,
      snapshot.portIndex request.destination with
  | some startPort, some destinationPort =>
      match (searchContext runtime snapshot request).startTable startPort env with
      | none => some ({ SearchOutcome.empty with exhausted := true }, env)
      | some table =>
          let setup := searchSetup runtime snapshot request options driver
            destinationPort
          match setup.roundsTable setup.fuel table with
          | some (.finished final) =>
              (final.outcome snapshot.coverageComplete).map fun outcome =>
                (outcome, final.env)
          | some (.cancelled final) =>
              some ({ SearchOutcome.empty with
                  status := failure .cancelled
                    (text "the caller cancelled the search")
                  statistics := final.statistics }, final.env)
          | some (.running _) => none
          | none => none
  | _, _ =>
      some ({ SearchOutcome.empty with
          status := failure .internal
            (text "search requires both endpoints to exist in the snapshot")
          exhausted := true }, env)

end OpticalPathPlanner
