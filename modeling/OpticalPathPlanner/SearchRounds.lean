import OpticalPathPlanner.SearchRuns

/-!
# Rounds of a search

One round of the main loop keeps the invariants of the state, and a search
that has enough rounds ends.  What a search leaves behind is read off its last
state: it drained its queue, it stopped because enough destination labels were
settled, or it ran into one of its bounds.
-/

namespace OpticalPathPlanner

open Traced

variable {K E : Type} [Field K] [LinearOrder K]

namespace SearchSetup

variable {setup : SearchSetup K E} {startPort : Nat}

/-! ### Adding the children of a settled label -/

section Children

variable {settled pushed : List (SearchLabel K)} {state out : SearchState K E}
  {entry : SearchLabel K}

/-- A child of a settled label is the end of a walk. -/
theorem walk_child {child : SearchLabel K} {arc : ArcRef}
    (walked : setup.walk startPort entry.arcs = some entry.path)
    (ancestors : child.ancestors = entry.path)
    (leaves : arc ∈ setup.outgoingArcs entry.label.portIndex)
    (yielded :
      (setup.expandArc entry.label entry.ancestors arc).Yields child.label) :
    setup.walk startPort child.arcs = some child.path := by
  have extended : setup.walk startPort (entry.arcs ++ [arc]) =
      some (child.label :: entry.path) :=
    SearchContext.walk_concat.mpr
      ⟨entry.label, entry.ancestors, child.label, walked, rfl, leaves, yielded⟩
  have path : child.path = child.label :: entry.path := by
    rw [SearchLabel.path, ancestors]
  have arcs : child.arcs = entry.arcs ++ [arc] := by
    rw [SearchLabel.arcs, path]
    exact SearchContext.arcsBack_of_walk extended
  rw [arcs, path, extended]

theorem Consistent.expand
    (consistent : setup.Consistent startPort (entry :: settled) state)
    (expansion : setup.Expansion entry
      (setup.outgoingArcs entry.label.portIndex) state out pushed) :
    setup.Consistent startPort (entry :: settled) out := by
  have frontier : ((entry :: settled) ++ out.frontier).Perm
      (pushed ++ ((entry :: settled) ++ state.frontier)) := by
    refine (List.Perm.append_left _ expansion.frontier).trans ?_
    rw [← List.append_assoc, ← List.append_assoc]
    exact List.Perm.append_right _ List.perm_append_comm
  have split : ∀ other ∈ (entry :: settled) ++ out.frontier,
      other ∈ pushed ∨ other ∈ (entry :: settled) ++ state.frontier :=
    fun other member => List.mem_append.mp (frontier.mem_iff.mp member)
  have sequences : ∀ child ∈ pushed, state.labelCount ≤ child.sequence ∧
      child.sequence < state.labelCount + pushed.length := by
    intro child member
    have inRange := List.mem_map_of_mem (f := SearchLabel.sequence) member
    rw [expansion.sequences, List.mem_range'_1] at inRange
    exact inRange
  have walkedEntry := consistent.walked entry
    (List.mem_append_left _ (List.mem_cons_self ..))
  have isOutgoing : ∀ child ∈ pushed, child.ancestors = entry.path ∧
      ∃ arc ∈ setup.outgoingArcs entry.label.portIndex,
        (setup.expandArc entry.label entry.ancestors arc).Yields child.label :=
    expansion.children
  constructor
  case walked =>
    intro other member
    rcases split other member with isChild | before
    · obtain ⟨ancestors, arc, leaves, yielded⟩ := isOutgoing other isChild
      exact walk_child walkedEntry ancestors leaves yielded
    · exact consistent.walked other before
  case distinct =>
    rw [(frontier.map _).nodup_iff, List.map_append, List.nodup_append]
    refine ⟨?_, consistent.distinct, ?_⟩
    · rw [expansion.sequences]
      exact List.nodup_range'
    · rintro sequence isNew other isOld rfl
      obtain ⟨child, isChild, rfl⟩ := List.mem_map.mp isNew
      obtain ⟨old, before, same⟩ := List.mem_map.mp isOld
      have below := consistent.bounded old before
      have above := (sequences child isChild).1
      omega
  case bounded =>
    intro other member
    rw [expansion.labelCount]
    rcases split other member with isChild | before
    · exact (sequences other isChild).2
    · have below := consistent.bounded other before
      omega
  case expanded =>
    rw [expansion.frame]
    exact consistent.expanded
  case sorted => exact expansion.sorted consistent.sorted
  case ahead =>
    intro done isSettled other inFrontier
    rcases List.mem_append.mp (expansion.frontier.mem_iff.mp inFrontier) with
      isChild | before
    · obtain ⟨_, arc, _, yielded⟩ := isOutgoing other isChild
      have later := (SearchContext.yields_expandArc_iff.mp yielded).1.key_lt
      refine le_trans ?_ later.le
      rcases List.mem_cons.mp isSettled with rfl | earlier
      · exact le_rfl
      · exact (List.pairwise_cons.mp consistent.inOrder).1 done earlier
    · exact consistent.ahead done isSettled other before
  case inOrder => exact consistent.inOrder
  case undominated => exact consistent.undominated
  case parents =>
    intro other member hasParent
    rcases split other member with isChild | before
    · exact ⟨entry, List.mem_cons_self .., (isOutgoing other isChild).1.symm⟩
    · exact consistent.parents other before hasParent
  case buckets =>
    rw [expansion.frame]
    exact consistent.buckets
  case covered =>
    rw [expansion.frame]
    exact consistent.covered

omit [Field K] in
theorem Seen.mono {settled pending more later : List (SearchLabel K)}
    {path : List (Label K)} {label : Label K}
    (seen : Seen settled pending path label)
    (held : ∀ other ∈ settled ++ pending, other ∈ more ++ later)
    (kept : ∀ done ∈ settled, done ∈ more) : Seen more later path label := by
  rcases seen with ⟨other, member, same⟩ | ⟨other, isSettled, dominates⟩
  · exact .inl ⟨other, held other member, same⟩
  · exact .inr ⟨other, kept other isSettled, dominates⟩

omit [Field K] in
/-- A dominated label that is dropped has still been seen. -/
theorem Seen.drop {settled rest : List (SearchLabel K)}
    {path : List (Label K)} {label : Label K} {keeper : SearchLabel K}
    (seen : Seen settled (entry :: rest) path label)
    (isSettled : keeper ∈ settled)
    (sameBucket : keeper.label.bucket = entry.label.bucket)
    (dominates : Label.Dominates keeper.label entry.label) :
    Seen settled rest path label := by
  rcases seen with ⟨other, member, same⟩ | beaten
  · rcases List.mem_append.mp member with inSettled | inPending
    · exact .inl ⟨other, List.mem_append_left _ inSettled, same⟩
    · rcases List.mem_cons.mp inPending with rfl | inRest
      · have sameLabel : other.label = label := (List.cons.inj same).1
        subst sameLabel
        exact .inr ⟨keeper, isSettled, sameBucket, dominates⟩
      · exact .inl ⟨other, List.mem_append_right _ inRest, same⟩
  · exact .inr beaten

omit [Field K] [LinearOrder K] in
private theorem mem_move {settled rest : List (SearchLabel K)} :
    ∀ other ∈ settled ++ entry :: rest, other ∈ (entry :: settled) ++ rest :=
  fun _ member => List.perm_middle.mem_iff.mp member

theorem Explored.discard {rest : List (SearchLabel K)} {keeper : SearchLabel K}
    (explored : setup.Explored startPort settled (entry :: rest))
    (isSettled : keeper ∈ settled)
    (sameBucket : keeper.label.bucket = entry.label.bucket)
    (dominates : Label.Dominates keeper.label entry.label) :
    setup.Explored startPort settled rest where
  root label starts :=
    (explored.root label starts).drop isSettled sameBucket dominates
  children done inSettled open_ arc leaves next yielded :=
    (explored.children done inSettled open_ arc leaves next yielded).drop
      isSettled sameBucket dominates

/-- Settling a label at the destination leaves nothing to expand. -/
theorem Explored.reach {rest : List (SearchLabel K)}
    (explored : setup.Explored startPort settled (entry :: rest))
    (arrived : entry.label.portIndex = setup.destinationPort) :
    setup.Explored startPort (entry :: settled) rest where
  root label starts := (explored.root label starts).mono mem_move
    fun _ => List.mem_cons_of_mem _
  children done inSettled open_ arc leaves next yielded := by
    rcases List.mem_cons.mp inSettled with rfl | earlier
    · exact (open_ arrived).elim
    · exact (explored.children done earlier open_ arc leaves next yielded).mono
        mem_move fun _ => List.mem_cons_of_mem _

/-- When the bound on labels is not hit, every continuation of the settled
label has been seen. -/
theorem Explored.expand
    (explored : setup.Explored startPort settled (entry :: state.frontier))
    (expansion : setup.Expansion entry
      (setup.outgoingArcs entry.label.portIndex) state out pushed)
    (complete : out.truncated = false) :
    setup.Explored startPort (entry :: settled) out.frontier := by
  have held : ∀ other ∈ settled ++ entry :: state.frontier,
      other ∈ (entry :: settled) ++ out.frontier := by
    intro other member
    rcases List.mem_append.mp (mem_move other member) with inSettled | waiting
    · exact List.mem_append_left _ inSettled
    · exact List.mem_append_right _
        (expansion.frontier.mem_iff.mpr (List.mem_append_right _ waiting))
  constructor
  case root =>
    exact fun label starts => (explored.root label starts).mono held
      fun _ => List.mem_cons_of_mem _
  case children =>
    intro done inSettled open_ arc leaves next yielded
    rcases List.mem_cons.mp inSettled with rfl | earlier
    · obtain ⟨child, isChild, rfl⟩ :=
        expansion.complete complete arc leaves next yielded
      refine .inl ⟨child, List.mem_append_right _
        (expansion.frontier.mem_iff.mpr (List.mem_append_left _ isChild)), ?_⟩
      rw [SearchLabel.path, (expansion.children child isChild).1]
    · exact (explored.children done earlier open_ arc leaves next yielded).mono
        held fun _ => List.mem_cons_of_mem _

end Children

/-! ### Rounds -/

/-- How a search ends.  `pending` holds the labels it never settled. -/
structure Ended (setup : SearchSetup K E) (startPort : Nat)
    (settled pending : List (SearchLabel K)) (final : SearchState K E) :
    Prop where
  consistent : setup.Consistent startPort settled
    { final with frontier := pending }
  tracked : setup.Tracked settled final
  explored : final.truncated = false →
    setup.Explored startPort settled pending
  reason : final.truncated = true ∨
    (final.stoppedOnKey = false ∧ final.frontier = [] ∧ pending = []) ∨
    (final.stoppedOnKey = true ∧ ∃ key, final.lastDestinationKey = some key ∧
      setup.request.maxCandidates ≤ final.retainedDestinationCount ∧
      pending ≠ [] ∧ ∀ entry ∈ pending, key < entry.label.key)

section Rounds

variable {settled rest : List (SearchLabel K)} {state next final : SearchState K E}
  {entry : SearchLabel K} {env : E}

theorem Tracked.skip (tracked : setup.Tracked settled state)
    (elsewhere : entry.label.portIndex ≠ setup.destinationPort)
    (sameLabels : next.destinationLabels = state.destinationLabels)
    (sameCount : next.retainedDestinationCount = state.retainedDestinationCount)
    (sameKey : next.lastDestinationKey = state.lastDestinationKey) :
    setup.Tracked (entry :: settled) next where
  destinations := by
    rw [sameLabels, tracked.destinations, List.filter_cons_of_neg]
    simpa using elsewhere
  count := by rw [sameCount, sameLabels, tracked.count]
  lastKey := by rw [sameKey, sameLabels, tracked.lastKey]

theorem Tracked.reach (tracked : setup.Tracked settled state)
    (arrived : entry.label.portIndex = setup.destinationPort) :
    setup.Tracked (entry :: settled) (state.reachDestination entry) where
  destinations := by
    rw [List.filter_cons_of_pos (by simpa using arrived),
      ← tracked.destinations]
    simp [SearchState.reachDestination]
  count := by
    simp [SearchState.reachDestination, tracked.count]
  lastKey := by
    simp [SearchState.reachDestination]

/-- Rounds a state can still take: the labels in the queue and the labels that
still fit into the table. -/
def remaining (setup : SearchSetup K E) (state : SearchState K E) : Nat :=
  state.frontier.length + (max 1 setup.labelLimit - state.labelCount)

/-- A round that goes on keeps the invariant and uses up one of the remaining
rounds; a round that ends leaves a search that has ended. -/
def Advances (setup : SearchSetup K E) (startPort : Nat)
    (state : SearchState K E) : Progress K E → Prop
  | .running next => (∃ settled, setup.Invariant startPort settled next) ∧
      setup.remaining next + 1 = setup.remaining state
  | .finished final => ∃ settled pending,
      setup.Ended startPort settled pending final
  | .cancelled _ => ∃ env, (setup.driver.isRequested env).1 = true

theorem Invariant.not_expanded (invariant : setup.Invariant startPort settled state)
    (first : state.frontier = entry :: rest) :
    state.expanded.contains entry.sequence = false := by
  have distinct := invariant.consistent.distinct
  rw [first, List.map_append, List.map_cons, List.nodup_append] at distinct
  rw [Bool.eq_false_iff, ne_eq, List.contains_iff_mem,
    invariant.consistent.expanded]
  intro member
  exact distinct.2.2 _ member _ (List.mem_cons_self ..) rfl

theorem Invariant.advances_discard
    (invariant : setup.Invariant startPort settled state)
    (first : state.frontier = entry :: rest)
    (dominated : (popped state env rest).isDominated entry = true) :
    setup.Advances startPort state
      (.running ((popped state env rest).scanBucket entry).discard) := by
  have consistent := invariant.consistent
  obtain ⟨keeper, inBucket, dominates⟩ := consistent.isDominated_iff.mp dominated
  obtain ⟨isSettled, sameBucket, _⟩ := consistent.buckets _ keeper inBucket
  have explored := invariant.explored
  rw [first] at explored
  refine ⟨⟨settled, consistent.discard first dominated,
    ⟨invariant.tracked.destinations, invariant.tracked.count,
      invariant.tracked.lastKey⟩,
    explored.discard isSettled sameBucket dominates, invariant.notTruncated,
    invariant.notStopped, invariant.labelsBounded⟩, ?_⟩
  change rest.length + (max 1 setup.labelLimit - state.labelCount) + 1 = _
  rw [remaining, first, List.length_cons]
  omega

theorem Invariant.advances_reach
    (invariant : setup.Invariant startPort settled state)
    (first : state.frontier = entry :: rest)
    (notDominated : ¬ (popped state env rest).isDominated entry = true)
    (arrived : entry.label.portIndex = setup.destinationPort) :
    setup.Advances startPort state
      (.running ((((popped state env rest).scanBucket entry).keep setup.driver
        entry).reachDestination entry)) := by
  have kept := invariant.consistent.keep first notDominated setup.driver
  have explored := invariant.explored
  rw [first] at explored
  have tracked : setup.Tracked settled
      (((popped state env rest).scanBucket entry).keep setup.driver entry) :=
    ⟨invariant.tracked.destinations, invariant.tracked.count,
      invariant.tracked.lastKey⟩
  refine ⟨⟨entry :: settled,
    ⟨kept.walked, kept.distinct, kept.bounded, kept.expanded, kept.sorted,
      kept.ahead, kept.inOrder, kept.undominated, kept.parents, kept.buckets,
      kept.covered⟩,
    tracked.reach arrived, explored.reach arrived, invariant.notTruncated,
    invariant.notStopped, invariant.labelsBounded⟩, ?_⟩
  change rest.length + (max 1 setup.labelLimit - state.labelCount) + 1 = _
  rw [remaining, first, List.length_cons]
  omega

theorem Invariant.advances_expand
    (invariant : setup.Invariant startPort settled state)
    (first : state.frontier = entry :: rest)
    (notDominated : ¬ (popped state env rest).isDominated entry = true)
    (elsewhere : entry.label.portIndex ≠ setup.destinationPort)
    {kept out : SearchState K E} {pushed : List (SearchLabel K)}
    (keptEq : kept =
      ((popped state env rest).scanBucket entry).keep setup.driver entry)
    (expansion : setup.Expansion entry
      (setup.outgoingArcs entry.label.portIndex) kept out pushed) :
    setup.Advances startPort state
      (if out.truncated then .finished out else .running out) := by
  have keptConsistent : setup.Consistent startPort (entry :: settled) kept := by
    rw [keptEq]
    exact invariant.consistent.keep first notDominated setup.driver
  have consistent := keptConsistent.expand expansion
  have tracked : setup.Tracked (entry :: settled) out := by
    refine invariant.tracked.skip elsewhere ?_ ?_ ?_ <;>
      rw [expansion.frame, keptEq] <;> rfl
  have explored := invariant.explored
  rw [first] at explored
  have frontier : kept.frontier = rest := by rw [keptEq]; rfl
  have labelCount : kept.labelCount = state.labelCount := by rw [keptEq]; rfl
  by_cases truncated : out.truncated = true
  · rw [if_pos truncated]
    exact ⟨entry :: settled, out.frontier, consistent, tracked,
      fun complete => by simp [truncated] at complete, .inl truncated⟩
  · rw [if_neg truncated]
    have complete : out.truncated = false := by simpa using truncated
    have bounded := invariant.labelsBounded
    have withinLimit := expansion.withinLimit
    have counted := expansion.labelCount
    have size := expansion.frontier.length_eq
    rw [List.length_append, frontier] at size
    rw [labelCount] at withinLimit counted
    refine ⟨⟨entry :: settled, consistent, tracked, ?_, complete, ?_, ?_⟩, ?_⟩
    · rw [← frontier] at explored
      exact explored.expand expansion complete
    · rw [expansion.frame, keptEq]
      exact invariant.notStopped
    · omega
    · rw [remaining, remaining, first, List.length_cons]
      omega

theorem Invariant.advances_stop
    (invariant : setup.Invariant startPort settled state)
    (first : state.frontier = entry :: rest)
    (stops : (popped state env rest).stopsOnKey
      setup.request.maxCandidates entry = true) :
    setup.Advances startPort state
      (.finished { popped state env rest with stoppedOnKey := true }) := by
  have consistent := invariant.consistent
  have explored := invariant.explored
  rw [first] at explored
  refine ⟨settled, entry :: rest, ?_, ⟨invariant.tracked.destinations,
    invariant.tracked.count, invariant.tracked.lastKey⟩, fun _ => explored,
    .inr (.inr ⟨rfl, ?_⟩)⟩
  · rw [← first]
    exact ⟨consistent.walked, consistent.distinct, consistent.bounded,
      consistent.expanded, consistent.sorted, consistent.ahead,
      consistent.inOrder, consistent.undominated, consistent.parents,
      consistent.buckets, consistent.covered⟩
  · unfold SearchState.stopsOnKey at stops
    cases last : (popped state env rest).lastDestinationKey with
    | none => simp [last] at stops
    | some key =>
        simp only [last, Bool.and_eq_true, decide_eq_true_eq] at stops
        refine ⟨key, rfl, stops.1, List.cons_ne_nil _ _, ?_⟩
        have beyond := keyLess_iff.mp stops.2
        intro other member
        rcases List.mem_cons.mp member with rfl | inRest
        · exact beyond
        · exact beyond.trans_le (consistent.entry_le first other inRest)

theorem Invariant.advances_visit
    (invariant : setup.Invariant startPort settled state)
    (first : state.frontier = entry :: rest) :
    setup.Advances startPort state
      (setup.visit entry (popped state env rest)) := by
  have fresh : (popped state env rest).expanded.contains entry.sequence = false :=
    invariant.not_expanded first
  unfold visit
  rw [fresh, if_neg Bool.false_ne_true]
  by_cases stops : (popped state env rest).stopsOnKey
      setup.request.maxCandidates entry = true
  · rw [if_pos stops]
    exact invariant.advances_stop first stops
  · rw [if_neg stops]
    by_cases dominated : (popped state env rest).isDominated entry = true
    · rw [if_pos dominated]
      exact invariant.advances_discard first dominated
    · rw [if_neg dominated]
      unfold settle
      by_cases arrived : entry.label.portIndex = setup.destinationPort
      · rw [if_pos arrived]
        exact invariant.advances_reach first dominated arrived
      · rw [if_neg arrived]
        obtain ⟨pushed, expansion⟩ := expansion_expandArcs entry
          (setup.outgoingArcs entry.label.portIndex)
          (((popped state env rest).scanBucket entry).keep setup.driver entry)
        exact invariant.advances_expand first dominated arrived rfl expansion

theorem Invariant.advances_round
    (invariant : setup.Invariant startPort settled state) :
    setup.Advances startPort state (setup.round state) := by
  unfold round
  cases first : state.frontier with
  | nil =>
      refine ⟨settled, [], ?_, invariant.tracked, fun _ => ?_,
        .inr (.inl ⟨invariant.notStopped, first, rfl⟩)⟩
      · rw [← first]
        exact invariant.consistent
      · rw [← first]
        exact invariant.explored
  | cons entry rest =>
      simp only
      split_ifs with requested full
      · exact ⟨state.env, requested⟩
      · have consistent := invariant.consistent
        exact ⟨settled, state.frontier,
          ⟨consistent.walked, consistent.distinct, consistent.bounded,
            consistent.expanded, consistent.sorted, consistent.ahead,
            consistent.inOrder, consistent.undominated, consistent.parents,
            consistent.buckets, consistent.covered⟩,
          ⟨invariant.tracked.destinations, invariant.tracked.count,
            invariant.tracked.lastKey⟩, nofun, .inl rfl⟩
      · exact invariant.advances_visit first

/-- A search with more rounds than it can take ends. -/
theorem Invariant.rounds_end
    (invariant : setup.Invariant startPort settled state) {fuel : Nat}
    (enough : setup.remaining state < fuel) :
    (∃ final done pending, setup.rounds fuel state = .finished final ∧
      setup.Ended startPort done pending final) ∨
    ∃ final env, setup.rounds fuel state = .cancelled final ∧
      (setup.driver.isRequested env).1 = true := by
  induction fuel generalizing settled state with
  | zero => omega
  | succ fuel ih =>
      have advances := invariant.advances_round
      unfold rounds
      cases progress : setup.round state with
      | running next =>
          rw [progress] at advances
          obtain ⟨⟨_, nextInvariant⟩, fewer⟩ := advances
          exact ih nextInvariant (by omega)
      | finished final =>
          rw [progress] at advances
          obtain ⟨done, pending, ended⟩ := advances
          exact .inl ⟨final, done, pending, rfl, ended⟩
      | cancelled final =>
          rw [progress] at advances
          obtain ⟨env, requested⟩ := advances
          exact .inr ⟨final, env, rfl, requested⟩

/-- The state with the start label alone satisfies the invariant, and the
search has rounds enough for it. -/
theorem invariant_startState
    (started : setup.startState startPort env = some state) :
    setup.Invariant startPort [] state ∧ setup.remaining state < setup.fuel := by
  obtain ⟨label, yielded, rfl⟩ := Option.map_eq_some_iff.mp started
  have start := SearchContext.yields_startLabel_iff.mp yielded
  have noArrival := congrArg Label.arrival start.label_eq
  have walked : setup.walk startPort [] = some [label] :=
    SearchContext.walk_nil.mpr ⟨label, yielded, rfl⟩
  refine ⟨⟨?_, ⟨rfl, rfl, rfl⟩, ?_, rfl, rfl, le_max_left _ _⟩, ?_⟩
  · constructor
    case walked =>
      intro entry member
      obtain rfl := List.mem_singleton.mp member
      simpa [SearchLabel.arcs, SearchLabel.path, SearchLabel.arcsBack,
        noArrival] using walked
    case distinct => exact List.nodup_singleton _
    case bounded =>
      intro entry member
      obtain rfl := List.mem_singleton.mp member
      exact Nat.zero_lt_one
    case expanded => rfl
    case sorted => exact List.pairwise_singleton _ _
    case ahead =>
      intro done isSettled
      cases isSettled
    case inOrder => exact List.Pairwise.nil
    case undominated => exact List.Pairwise.nil
    case parents =>
      intro entry member hasParent
      obtain rfl := List.mem_singleton.mp member
      exact (hasParent rfl).elim
    case buckets =>
      intro bucket entry member
      cases member
    case covered =>
      intro done isSettled
      cases isSettled
  · constructor
    case root =>
      intro other otherYields
      rw [Yields, yielded] at otherYields
      cases otherYields
      exact .inl ⟨_, List.mem_singleton_self _, rfl⟩
    case children =>
      intro done isSettled
      cases isSettled
  · change 1 + (max 1 setup.labelLimit - 1) < max 1 setup.labelLimit + 1
    omega

end Rounds

end SearchSetup

end OpticalPathPlanner
