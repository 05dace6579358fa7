import OpticalPathPlanner.SearchRounds
import OpticalPathPlanner.DominanceSearch

/-!
# What a search returns

The outcome of a search in terms of routes.  Its paths are walks to the
destination, it returns a path as soon as it has settled a label at the
destination, and a search that was not cut short has seen a goal whenever a
goal can be reached in spite of pruning.
-/

namespace OpticalPathPlanner

open Traced DominanceSearch

variable {K E : Type} [Field K] [LinearOrder K]

namespace SearchContext

variable (ctx : SearchContext K) (startPort destinationPort : Nat)

/-- The label at the end of an arc sequence that passes every check. -/
def labelAt (arcs : List ArcRef) : Option (Label K) :=
  (ctx.walk startPort arcs).bind List.head?

/-- The arc sequence passes every check. -/
def Valid (arcs : List ArcRef) : Prop :=
  ∃ label, ctx.labelAt startPort arcs = some label

/-- The arc sequence passes every check and ends on the destination. -/
def Arrives (arcs : List ArcRef) : Prop :=
  ∃ label, ctx.labelAt startPort arcs = some label ∧
    label.portIndex = destinationPort

/-- The arc sequence passes every check and ends on the destination in a good
label. -/
def ArrivesWith (good : Label K → Prop) (arcs : List ArcRef) : Prop :=
  ∃ label, ctx.labelAt startPort arcs = some label ∧
    label.portIndex = destinationPort ∧ good label

/-- One arc sequence ends in a label that dominates the label of another, in
the same bucket. -/
def Beats (other arcs : List ArcRef) : Prop :=
  ∃ better label, ctx.labelAt startPort other = some better ∧
    ctx.labelAt startPort arcs = some label ∧
    better.bucket = label.bucket ∧ Label.Dominates better label

/-- Pruning leaves a way to a goal open. -/
def SurvivesPruning (goal : List ArcRef → Prop) : Prop :=
  Robust (ctx.Valid startPort) (ctx.Arrives startPort destinationPort) goal
    (ctx.Beats startPort) []

variable {ctx startPort destinationPort}

theorem labelAt_of_walk {arcs : List ArcRef} {label : Label K}
    {ancestors : List (Label K)}
    (walked : ctx.walk startPort arcs = some (label :: ancestors)) :
    ctx.labelAt startPort arcs = some label := by
  rw [labelAt, walked]
  rfl

theorem walk_ne_nil {arcs : List ArcRef} :
    ctx.walk startPort arcs ≠ some [] := by
  intro walked
  induction arcs using List.reverseRecOn with
  | nil =>
      obtain ⟨_, _, impossible⟩ := walk_nil.mp walked
      cases impossible
  | append_singleton arcs arc _ =>
      obtain ⟨_, _, _, _, impossible, _⟩ := walk_concat.mp walked
      cases impossible

theorem labelAt_eq_some_iff {arcs : List ArcRef} {label : Label K} :
    ctx.labelAt startPort arcs = some label ↔
      ∃ ancestors, ctx.walk startPort arcs = some (label :: ancestors) := by
  constructor
  · intro found
    obtain ⟨path, walked, head⟩ := Option.bind_eq_some_iff.mp found
    cases path with
    | nil => cases head
    | cons first ancestors =>
        cases head
        exact ⟨ancestors, walked⟩
  · rintro ⟨ancestors, walked⟩
    exact labelAt_of_walk walked

/-- A walk starts on the start port. -/
theorem port_mem_of_walk {arcs : List ArcRef} {path : List (Label K)}
    (walked : ctx.walk startPort arcs = some path) :
    startPort ∈ path.map Label.portIndex := by
  induction arcs using List.reverseRecOn generalizing path with
  | nil =>
      obtain ⟨label, started, rfl⟩ := walk_nil.mp walked
      have port := congrArg Label.portIndex
        (yields_startLabel_iff.mp started).label_eq
      simp [port]
  | append_singleton arcs arc ih =>
      obtain ⟨current, ancestors, next, before, rfl, _⟩ := walk_concat.mp walked
      exact List.mem_cons_of_mem _ (ih before)

/-- The path of a shorter walk is the older part of the path. -/
theorem walk_of_append {arcs rest : List ArcRef} {path : List (Label K)}
    (walked : ctx.walk startPort (arcs ++ rest) = some path) :
    ∃ recent front, ctx.walk startPort arcs = some front ∧
      path = recent ++ front ∧ recent.length = rest.length := by
  induction rest using List.reverseRecOn generalizing path with
  | nil =>
      rw [List.append_nil] at walked
      exact ⟨[], path, walked, rfl, rfl⟩
  | append_singleton rest arc ih =>
      rw [← List.append_assoc] at walked
      obtain ⟨current, ancestors, next, before, rfl, _⟩ := walk_concat.mp walked
      obtain ⟨recent, front, shorter, split, length⟩ := ih before
      exact ⟨next :: recent, front, shorter, by rw [split]; rfl,
        by simp [length]⟩

/-- A route that goes on has not arrived yet. -/
theorem not_arrives_of_longer {arcs rest : List ArcRef} {arc : ArcRef}
    (longer : ctx.Arrives startPort destinationPort (arcs ++ arc :: rest)) :
    ¬ ctx.Arrives startPort destinationPort arcs := by
  rintro ⟨early, earlyAt, earlyArrived⟩
  obtain ⟨label, labelAt, arrived⟩ := longer
  obtain ⟨ancestors, walked⟩ := labelAt_eq_some_iff.mp labelAt
  obtain ⟨older, earlyWalked⟩ := labelAt_eq_some_iff.mp earlyAt
  obtain ⟨recent, front, shorter, split, length⟩ := walk_of_append walked
  rw [earlyWalked] at shorter
  cases shorter
  cases recent with
  | nil => cases length
  | cons last recent =>
      obtain ⟨rfl, rfl⟩ := List.cons.inj split
      have simple := ports_nodup_of_walk walked
      refine (List.nodup_cons.mp simple).1 ?_
      rw [arrived, ← earlyArrived]
      simp

theorem valid_of_append {arcs rest : List ArcRef}
    (longer : ctx.Valid startPort (arcs ++ rest)) :
    ctx.Valid startPort arcs := by
  obtain ⟨label, labelAt⟩ := longer
  obtain ⟨ancestors, walked⟩ := labelAt_eq_some_iff.mp labelAt
  obtain ⟨_, front, shorter, _, _⟩ := walk_of_append walked
  cases front with
  | nil => exact (walk_ne_nil shorter).elim
  | cons head tail => exact ⟨head, labelAt_of_walk shorter⟩

/-- Only the empty route ends where it starts, so nothing else beats it. -/
theorem eq_nil_of_beats_nil {other : List ArcRef}
    (beats : ctx.Beats startPort other []) : other = [] := by
  obtain ⟨better, label, otherAt, rootAt, sameBucket, _⟩ := beats
  obtain ⟨ancestors, walked⟩ := labelAt_eq_some_iff.mp otherAt
  obtain ⟨rootAncestors, rootWalked⟩ := labelAt_eq_some_iff.mp rootAt
  obtain ⟨start, started, rootPath⟩ := walk_nil.mp rootWalked
  cases rootPath
  have rootPort := congrArg Label.portIndex
    (yields_startLabel_iff.mp started).label_eq
  have samePort : better.portIndex = startPort :=
    (congrArg Prod.fst sameBucket).trans rootPort
  induction other using List.reverseRecOn with
  | nil => rfl
  | append_singleton arcs arc _ =>
      obtain ⟨current, before, next, earlier, path, _⟩ := walk_concat.mp walked
      have simple := ports_nodup_of_walk walked
      cases path
      have visited := port_mem_of_walk earlier
      rw [← samePort] at visited
      exact ((List.nodup_cons.mp simple).1 visited).elim

end SearchContext

namespace SearchSetup

variable {setup : SearchSetup K E} {startPort : Nat}
  {settled pending : List (SearchLabel K)} {final : SearchState K E}

/-! ### The routes a search has seen -/

theorem Consistent.labelAt
    (consistent : setup.Consistent startPort settled
      { final with frontier := pending })
    {entry : SearchLabel K} (held : entry ∈ settled ++ pending) :
    setup.labelAt startPort entry.arcs = some entry.label :=
  SearchContext.labelAt_of_walk (consistent.walked entry held)

/-- A search that has seen every continuation of its settled labels explores
the routes. -/
theorem Consistent.explores
    (consistent : setup.Consistent startPort settled
      { final with frontier := pending })
    (explored : setup.Explored startPort settled pending) :
    Explores (setup.Valid startPort)
      (setup.Arrives startPort setup.destinationPort)
      (fun arcs => ∃ entry ∈ settled, entry.arcs = arcs)
      (fun arcs => ∃ entry ∈ pending, entry.arcs = arcs)
      (setup.Beats startPort) := by
  have classify {arcs : List ArcRef} {label : Label K}
      {path : List (Label K)}
      (walked : setup.walk startPort arcs = some (label :: path))
      (seen : Seen settled pending path label) :
      (∃ entry ∈ settled, entry.arcs = arcs) ∨
        (∃ entry ∈ pending, entry.arcs = arcs) ∨
        ∃ other, (∃ entry ∈ settled, entry.arcs = other) ∧
          setup.Beats startPort other arcs := by
    rcases seen with ⟨entry, held, same⟩ | ⟨other, isSettled, sameBucket, better⟩
    · rw [← same] at walked
      have sameArcs := SearchContext.arcsBack_of_walk walked
      rcases List.mem_append.mp held with inSettled | inPending
      · exact .inl ⟨entry, inSettled, sameArcs⟩
      · exact .inr (.inl ⟨entry, inPending, sameArcs⟩)
    · have otherAt := consistent.labelAt (List.mem_append_left _ isSettled)
      exact .inr (.inr ⟨other.arcs, ⟨other, isSettled, rfl⟩, other.label, label,
        otherAt, SearchContext.labelAt_of_walk walked, sameBucket, better⟩)
  constructor
  case root =>
    rintro ⟨label, rootAt⟩
    obtain ⟨ancestors, walked⟩ := SearchContext.labelAt_eq_some_iff.mp rootAt
    obtain ⟨start, yielded, path⟩ := SearchContext.walk_nil.mp walked
    cases path
    exact classify walked (explored.root label yielded)
  case step =>
    rintro _ arc ⟨entry, isSettled, rfl⟩ open_ ⟨label, nextAt⟩
    obtain ⟨ancestors, walked⟩ := SearchContext.labelAt_eq_some_iff.mp nextAt
    obtain ⟨current, before, next, earlier, path, leaves, yielded⟩ :=
      SearchContext.walk_concat.mp walked
    have held : entry ∈ settled ++ pending := List.mem_append_left _ isSettled
    rw [consistent.walked entry held] at earlier
    obtain ⟨rfl, rfl⟩ := List.cons.inj (Option.some.inj earlier)
    cases path
    refine classify walked
      (explored.children entry isSettled ?_ arc leaves label yielded)
    intro arrived
    exact open_ ⟨entry.label, consistent.labelAt held, arrived⟩
  case closed =>
    rintro route arc ⟨entry, isSettled, sameArcs⟩
    have walked := consistent.walked entry (List.mem_append_left _ isSettled)
    rw [sameArcs] at walked
    obtain ⟨current, before, next, earlier, path, _⟩ :=
      SearchContext.walk_concat.mp walked
    have ancestors : entry.ancestors = current :: before :=
      (List.cons.inj path).2
    obtain ⟨parent, parentSettled, parentPath⟩ := consistent.parents entry
      (List.mem_append_left _ isSettled) (by simp [ancestors])
    rw [← ancestors, ← parentPath] at earlier
    exact ⟨parent, parentSettled, SearchContext.arcsBack_of_walk earlier⟩

/-- Such a search has settled a goal or still holds a label on the way to one,
if a goal survives pruning. -/
theorem Consistent.finds
    (consistent : setup.Consistent startPort settled
      { final with frontier := pending })
    (explored : setup.Explored startPort settled pending)
    {goal : List ArcRef → Prop} (rootValid : setup.Valid startPort [])
    (survives : setup.SurvivesPruning startPort setup.destinationPort goal) :
    (∃ entry ∈ settled, goal entry.arcs) ∨
      ∃ entry ∈ pending, ∃ rest, goal (entry.arcs ++ rest) := by
  rcases (consistent.explores explored).reaches_from_root rootValid
    (fun _ => SearchContext.eq_nil_of_beats_nil) survives with
    ⟨_, ⟨entry, isSettled, rfl⟩, reached⟩ |
      ⟨_, rest, ⟨entry, isPending, rfl⟩, reached⟩
  · exact .inl ⟨entry, isSettled, reached⟩
  · exact .inr ⟨entry, isPending, rest, reached⟩

theorem Ended.finds (ended : setup.Ended startPort settled pending final)
    (complete : final.truncated = false) {goal : List ArcRef → Prop}
    (rootValid : setup.Valid startPort [])
    (survives : setup.SurvivesPruning startPort setup.destinationPort goal) :
    (∃ entry ∈ settled, goal entry.arcs) ∨
      ∃ entry ∈ pending, ∃ rest, goal (entry.arcs ++ rest) :=
  ended.consistent.finds (ended.explored complete) rootValid survives

/-! ### The paths of an outcome -/

theorem Ended.mem_destinationLabels
    (ended : setup.Ended startPort settled pending final)
    {entry : SearchLabel K} :
    entry ∈ final.destinationLabels ↔ entry ∈ settled ∧
      entry.label.portIndex = setup.destinationPort := by
  rw [← List.mem_reverse, ended.tracked.destinations, List.mem_filter]
  simp

/-- A returned path is the route of a settled label at the destination. -/
theorem Ended.of_mem_paths (ended : setup.Ended startPort settled pending final)
    {path : RawPath} (returned : path ∈ final.paths) :
    ∃ entry ∈ settled, entry.label.portIndex = setup.destinationPort ∧
      path = entry.rawPath ∧
      setup.walk startPort path.arcs = some entry.path := by
  obtain ⟨entry, member, rfl⟩ := List.mem_map.mp returned
  have isDestination := ended.mem_destinationLabels.mp (List.mem_filter.mp member).1
  exact ⟨entry, isDestination.1, isDestination.2, rfl,
    ended.consistent.walked entry (List.mem_append_left _ isDestination.1)⟩

/-- Every settled label at the destination has a returned path that is at
least as good. -/
theorem Ended.exists_path (ended : setup.Ended startPort settled pending final)
    {done : SearchLabel K} (isSettled : done ∈ settled)
    (arrived : done.label.portIndex = setup.destinationPort) :
    ∃ keeper ∈ settled, keeper.rawPath ∈ final.paths ∧
      Label.Dominates keeper.label done.label := by
  obtain ⟨keeper, inBucket, better⟩ := ended.consistent.covered done isSettled
  obtain ⟨keeperSettled, sameBucket, retained⟩ :=
    ended.consistent.buckets _ keeper inBucket
  have keeperArrived : keeper.label.portIndex = setup.destinationPort :=
    (congrArg Prod.fst sameBucket).trans arrived
  refine ⟨keeper, keeperSettled, List.mem_map.mpr ⟨keeper, ?_, rfl⟩, better⟩
  exact List.mem_filter.mpr
    ⟨ended.mem_destinationLabels.mpr ⟨keeperSettled, keeperArrived⟩,
      List.contains_iff_mem.mpr retained⟩

theorem Ended.paths_eq_nil_iff
    (ended : setup.Ended startPort settled pending final) :
    final.paths = [] ↔ final.destinationLabels = [] := by
  constructor
  · intro noPath
    rw [List.eq_nil_iff_forall_not_mem]
    intro done member
    obtain ⟨isSettled, arrived⟩ := ended.mem_destinationLabels.mp member
    obtain ⟨keeper, _, returned, _⟩ := ended.exists_path isSettled arrived
    rw [noPath] at returned
    cases returned
  · intro noLabel
    rw [SearchState.paths, noLabel]
    rfl

/-- Paths are returned in search order. -/
theorem Ended.paths_sorted
    (ended : setup.Ended startPort settled pending final) :
    final.paths.Pairwise fun first second =>
      (⟨first.cost, first.hops, first.regenerations⟩ : LabelKey) ≤
        ⟨second.cost, second.hops, second.regenerations⟩ := by
  have ordered : final.destinationLabels.Pairwise fun first second =>
      first.label.key ≤ second.label.key := by
    rw [← List.reverse_reverse final.destinationLabels,
      ended.tracked.destinations, List.pairwise_reverse]
    exact ended.consistent.inOrder.filter _
  exact List.pairwise_map.mpr (ordered.filter _)

end SearchSetup

/-! ### The search as a whole -/

section Search

variable (runtime : Runtime K) (snapshot : TopologySnapshot K)
  (request : PlanningRequest K) (options : PlannerOptions)
  (driver : SearchDriver E) (env : E) (startPort destinationPort : Nat)

/-- The ways a search between two ports can go. -/
inductive SearchEnds : SearchOutcome × E → Prop
  | refused
      (noStart : (searchContext runtime snapshot request).startState startPort
        env = none) :
      SearchEnds ({ SearchOutcome.empty with exhausted := true }, env)
  | finished {state final : SearchState K E}
      {settled pending : List (SearchLabel K)}
      (started : (searchContext runtime snapshot request).startState startPort
        env = some state)
      (ran : (searchSetup runtime snapshot request options driver
        destinationPort).rounds (searchSetup runtime snapshot request options
          driver destinationPort).fuel state = .finished final)
      (ended : (searchSetup runtime snapshot request options driver
        destinationPort).Ended startPort settled pending final) :
      SearchEnds (final.outcome snapshot.coverageComplete, final.env)
  | cancelled {last : E} {statistics : PlanningStatistics}
      (requested : ∃ asked, (driver.isRequested asked).1 = true) :
      SearchEnds ({ SearchOutcome.empty with
        status := failure .cancelled (text "the caller cancelled the search")
        statistics := statistics }, last)

variable {startPort destinationPort}

theorem runSearch_ends
    (source : snapshot.portIndex request.source = some startPort)
    (destination :
      snapshot.portIndex request.destination = some destinationPort) :
    SearchEnds runtime snapshot request options driver env startPort
      destinationPort
      (runSearch runtime snapshot request options driver env) := by
  unfold runSearch
  rw [source, destination]
  simp only
  cases started : (searchContext runtime snapshot request).startState startPort
      env with
  | none => exact .refused started
  | some state =>
      simp only
      have begins : (searchSetup runtime snapshot request options driver
          destinationPort).startState startPort env = some state := started
      obtain ⟨invariant, enough⟩ := SearchSetup.invariant_startState begins
      rcases invariant.rounds_end enough with
        ⟨final, settled, pending, ran, ended⟩ | ⟨final, asked, ran, requested⟩
      · rw [ran]
        exact .finished started ran ended
      · rw [ran]
        exact .cancelled ⟨asked, requested⟩

/-- A start state exists exactly when the empty route passes its checks. -/
theorem valid_nil_of_startState {state : SearchState K E}
    (started : (searchContext runtime snapshot request).startState startPort
      env = some state) :
    (searchContext runtime snapshot request).Valid startPort [] := by
  obtain ⟨label, yielded, _⟩ := Option.map_eq_some_iff.mp started
  exact ⟨label, SearchContext.labelAt_of_walk
    (SearchContext.walk_nil.mpr ⟨label, yielded, rfl⟩)⟩

theorem not_valid_of_startState_eq_none
    (noStart : (searchContext runtime snapshot request).startState startPort
      env = none) (arcs : List ArcRef) :
    ¬ (searchContext runtime snapshot request).Valid startPort arcs := by
  rintro ⟨label, found⟩
  have refused := Option.map_eq_none_iff.mp noStart
  rw [SearchContext.labelAt, SearchContext.walk, refused] at found
  cases found

end Search

end OpticalPathPlanner
