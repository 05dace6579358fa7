import OpticalPathPlanner.Routes

/-!
# Invariants of a search

The labels a search has settled so far, newest first, are not all in its
state: a settled label that a later one displaces is forgotten.  The
invariants therefore speak about a state together with the list of its settled
labels.
-/

namespace OpticalPathPlanner

open Traced

variable {K E : Type} [Field K] [LinearOrder K]

/-- The arcs of a label, from the start. -/
def SearchLabel.arcs (entry : SearchLabel K) : List ArcRef :=
  (SearchLabel.arcsBack entry.path).reverse

def SearchState.bucketAt (state : SearchState K E) (key : Nat × Option Nat) :
    List (SearchLabel K) :=
  (state.buckets.lookup key).getD []

namespace SearchSetup

variable (setup : SearchSetup K E) (startPort : Nat)

/-- Every label is the end of a walk, the queue is in order, and each settled
label has a retained label in its bucket that is at least as good. -/
structure Consistent (settled : List (SearchLabel K))
    (state : SearchState K E) : Prop where
  walked : ∀ entry ∈ settled ++ state.frontier,
    setup.walk startPort entry.arcs = some entry.path
  distinct : ((settled ++ state.frontier).map SearchLabel.sequence).Nodup
  bounded : ∀ entry ∈ settled ++ state.frontier,
    entry.sequence < state.labelCount
  expanded : state.expanded = settled.map SearchLabel.sequence
  sorted : SearchLabel.Sorted state.frontier
  ahead : ∀ done ∈ settled, ∀ entry ∈ state.frontier,
    done.label.key ≤ entry.label.key
  inOrder : settled.Pairwise fun later earlier =>
    earlier.label.key ≤ later.label.key
  undominated : settled.Pairwise fun later earlier =>
    earlier.label.bucket = later.label.bucket →
      ¬ Label.Dominates earlier.label later.label
  parents : ∀ entry ∈ settled ++ state.frontier, entry.ancestors ≠ [] →
    ∃ parent ∈ settled, parent.path = entry.ancestors
  buckets : ∀ key, ∀ entry ∈ state.bucketAt key, entry ∈ settled ∧
    entry.label.bucket = key ∧ entry.sequence ∈ state.retained
  covered : ∀ done ∈ settled, ∃ keeper ∈ state.bucketAt done.label.bucket,
    Label.Dominates keeper.label done.label

/-- The destination labels are the settled labels at the destination. -/
structure Tracked (settled : List (SearchLabel K))
    (state : SearchState K E) : Prop where
  destinations : state.destinationLabels.reverse =
    settled.filter fun done => done.label.portIndex = setup.destinationPort
  count : state.retainedDestinationCount = state.destinationLabels.length
  lastKey : state.lastDestinationKey =
    state.destinationLabels.getLast?.map fun done => done.label.key

/-- A label that the search has dealt with or still holds. -/
def Seen (settled pending : List (SearchLabel K)) (path : List (Label K))
    (label : Label K) : Prop :=
  (∃ entry ∈ settled ++ pending, entry.path = label :: path) ∨
    ∃ other ∈ settled, other.label.bucket = label.bucket ∧
      Label.Dominates other.label label

/-- Every continuation of a settled label has been seen. -/
structure Explored (settled pending : List (SearchLabel K)) : Prop where
  root : ∀ label, (setup.startLabel startPort).Yields label →
    Seen settled pending [] label
  children : ∀ done ∈ settled,
    done.label.portIndex ≠ setup.destinationPort →
    ∀ arc ∈ setup.outgoingArcs done.label.portIndex, ∀ next,
      (setup.expandArc done.label done.ancestors arc).Yields next →
        Seen settled pending done.path next

/-- What holds at the start of every round. -/
structure Invariant (settled : List (SearchLabel K))
    (state : SearchState K E) : Prop where
  consistent : setup.Consistent startPort settled state
  tracked : setup.Tracked settled state
  explored : setup.Explored startPort settled state.frontier
  notTruncated : state.truncated = false
  notStopped : state.stoppedOnKey = false
  labelsBounded : state.labelCount ≤ max 1 setup.labelLimit

/-! ### Expanding a label -/

/-- What the expansion of a label adds to the queue. -/
structure Expansion (entry : SearchLabel K) (arcs : List ArcRef)
    (state out : SearchState K E) (pushed : List (SearchLabel K)) : Prop where
  frame : out = { state with
    frontier := out.frontier
    labelCount := out.labelCount
    truncated := out.truncated
    notes := out.notes
    statistics := out.statistics }
  frontier : out.frontier.Perm (pushed ++ state.frontier)
  sorted : SearchLabel.Sorted state.frontier → SearchLabel.Sorted out.frontier
  children : ∀ child ∈ pushed, child.ancestors = entry.path ∧
    ∃ arc ∈ arcs,
      (setup.expandArc entry.label entry.ancestors arc).Yields child.label
  sequences : pushed.map SearchLabel.sequence =
    List.range' state.labelCount pushed.length
  labelCount : out.labelCount = state.labelCount + pushed.length
  withinLimit : out.labelCount ≤ max state.labelCount setup.labelLimit
  keepsTruncated : out.truncated = false → state.truncated = false
  complete : out.truncated = false → ∀ arc ∈ arcs, ∀ next,
    (setup.expandArc entry.label entry.ancestors arc).Yields next →
      ∃ child ∈ pushed, child.label = next

variable {setup startPort}

private theorem Expansion.skip {entry : SearchLabel K} {arc : ArcRef}
    {rest : List ArcRef} {state out : SearchState K E} {notes : List Note}
    {pushed : List (SearchLabel K)}
    (refused : (setup.expandArc entry.label entry.ancestors arc).result = none)
    (after : setup.Expansion entry rest (state.examine notes) out pushed) :
    setup.Expansion entry (arc :: rest) state out pushed where
  frame := after.frame
  frontier := after.frontier
  sorted := after.sorted
  children child member := by
    obtain ⟨ancestors, other, inRest, yielded⟩ := after.children child member
    exact ⟨ancestors, other, List.mem_cons_of_mem _ inRest, yielded⟩
  sequences := after.sequences
  labelCount := after.labelCount
  withinLimit := after.withinLimit
  keepsTruncated := after.keepsTruncated
  complete open_ other member next yielded := by
    rcases List.mem_cons.mp member with rfl | inRest
    · rw [Yields, refused] at yielded
      cases yielded
    · exact after.complete open_ other inRest next yielded

private theorem Expansion.add {entry : SearchLabel K} {arc : ArcRef}
    {rest : List ArcRef} {state out : SearchState K E} {notes : List Note}
    {label : Label K} {pushed : List (SearchLabel K)}
    (accepted : (setup.expandArc entry.label entry.ancestors arc).Yields label)
    (room : state.labelCount < setup.labelLimit)
    (after : setup.Expansion entry rest
      ((state.examine notes).pushLabel label entry.path) out pushed) :
    setup.Expansion entry (arc :: rest) state out
      (⟨label, entry.path, state.labelCount⟩ :: pushed) where
  frame := after.frame
  frontier := by
    refine after.frontier.trans ?_
    have placed := SearchLabel.perm_push ⟨label, entry.path, state.labelCount⟩
      state.frontier
    exact (List.Perm.append_left pushed placed).trans List.perm_middle
  sorted ordered := after.sorted ordered.push
  children child member := by
    rcases List.mem_cons.mp member with rfl | pushedLater
    · exact ⟨rfl, arc, List.mem_cons_self .., accepted⟩
    · obtain ⟨ancestors, other, inRest, yielded⟩ :=
        after.children child pushedLater
      exact ⟨ancestors, other, List.mem_cons_of_mem _ inRest, yielded⟩
  sequences := by
    rw [List.map_cons, after.sequences, List.length_cons, List.range'_succ]
    rfl
  labelCount := by
    rw [after.labelCount, List.length_cons]
    change state.labelCount + 1 + pushed.length = _
    omega
  withinLimit := by
    have bound := after.withinLimit
    change out.labelCount ≤ max (state.labelCount + 1) setup.labelLimit at bound
    omega
  keepsTruncated := after.keepsTruncated
  complete open_ other member next yielded := by
    rcases List.mem_cons.mp member with rfl | inRest
    · rw [Yields] at accepted yielded
      rw [accepted] at yielded
      cases yielded
      exact ⟨_, List.mem_cons_self .., rfl⟩
    · obtain ⟨child, inPushed, same⟩ :=
        after.complete open_ other inRest next yielded
      exact ⟨child, List.mem_cons_of_mem _ inPushed, same⟩

theorem expansion_expandArcs (entry : SearchLabel K) (arcs : List ArcRef)
    (state : SearchState K E) :
    ∃ pushed, setup.Expansion entry arcs state
      (setup.expandArcs entry arcs state) pushed := by
  induction arcs generalizing state with
  | nil =>
      exact ⟨[], rfl, List.Perm.refl _, id, by simp, rfl, rfl, le_max_left _ _,
        id, by simp⟩
  | cons arc rest ih =>
      simp only [expandArcs]
      cases result : (setup.expandArc entry.label entry.ancestors arc).result with
      | none =>
          obtain ⟨pushed, after⟩ := ih (state.examine
            (setup.expandArc entry.label entry.ancestors arc).notes)
          exact ⟨pushed, Expansion.skip result after⟩
      | some label =>
          by_cases full : state.labelCount ≥ setup.labelLimit
          · simp only [full, if_true]
            exact ⟨[], rfl, List.Perm.refl _, id, by simp, rfl, rfl,
              le_max_left _ _, nofun, nofun⟩
          · simp only [full, if_false]
            obtain ⟨pushed, after⟩ := ih ((state.examine
              (setup.expandArc entry.label entry.ancestors arc).notes).pushLabel
                label entry.path)
            exact ⟨_, Expansion.add result (not_le.mp full) after⟩

/-! ### Scanning a bucket -/

section Scan

variable {settled rest : List (SearchLabel K)} {state : SearchState K E}
  {entry : SearchLabel K} {env : E}

omit [Field K] in
theorem displaced_iff {entry other : SearchLabel K} :
    SearchState.displaced entry other = true ↔
      ¬ Label.Dominates other.label entry.label ∧
        Label.Dominates entry.label other.label := by
  rw [SearchState.displaced, Bool.and_eq_true, Bool.not_eq_true',
    ← Label.dominates_iff, ← Label.dominates_iff, Bool.not_eq_true]

/-- The state after a label has left the queue. -/
def popped (state : SearchState K E) (env : E) (rest : List (SearchLabel K)) :
    SearchState K E :=
  { state with env := env, frontier := rest }

theorem Consistent.bucketOf_eq
    (consistent : setup.Consistent startPort settled state) :
    (popped state env rest).bucketOf entry =
      state.bucketAt entry.label.bucket := by
  refine List.filter_eq_self.mpr fun other member => ?_
  have retained := (consistent.buckets _ other member).2.2
  exact List.contains_iff_mem.mpr retained

theorem Consistent.isDominated_iff
    (consistent : setup.Consistent startPort settled state) :
    (popped state env rest).isDominated entry = true ↔
      ∃ keeper ∈ state.bucketAt entry.label.bucket,
        Label.Dominates keeper.label entry.label := by
  rw [SearchState.isDominated, consistent.bucketOf_eq, List.any_eq_true]
  simp only [Label.dominates_iff]

/-- A label that no retained label dominates is dominated by no settled label
of its bucket. -/
theorem Consistent.undominated_of_not_isDominated
    (consistent : setup.Consistent startPort settled state)
    (kept : ¬ (popped state env rest).isDominated entry = true)
    {done : SearchLabel K} (isSettled : done ∈ settled)
    (sameBucket : done.label.bucket = entry.label.bucket) :
    ¬ Label.Dominates done.label entry.label := by
  intro dominates
  obtain ⟨keeper, inBucket, better⟩ := consistent.covered done isSettled
  rw [sameBucket] at inBucket
  exact kept (consistent.isDominated_iff.mpr
    ⟨keeper, inBucket, better.trans dominates⟩)

theorem Consistent.mem_bucketAt_scan
    (consistent : setup.Consistent startPort settled state)
    {key : Nat × Option Nat} {member : SearchLabel K} :
    member ∈ ((popped state env rest).scanBucket entry).bucketAt key ↔
      member ∈ state.bucketAt key ∧ (key = entry.label.bucket →
        ¬ SearchState.displaced entry member = true) := by
  unfold SearchState.scanBucket SearchState.bucketAt
  by_cases same : key = entry.label.bucket
  · subst same
    rw [AList.lookup_insert, Option.getD_some, consistent.bucketOf_eq,
      List.mem_filter]
    simp [SearchState.bucketAt]
  · rw [AList.lookup_insert_ne same]
    simp [same, popped]

theorem Consistent.eq_of_sequence
    (consistent : setup.Consistent startPort settled state)
    {first second : SearchLabel K} (firstSettled : first ∈ settled)
    (secondSettled : second ∈ settled)
    (same : first.sequence = second.sequence) : first = second := by
  have distinct : (settled.map SearchLabel.sequence).Nodup := by
    have whole := consistent.distinct
    rw [List.map_append] at whole
    exact (List.nodup_append.mp whole).1
  exact List.inj_on_of_nodup_map distinct firstSettled secondSettled same

/-- What the scan leaves in the buckets is settled and retained. -/
theorem Consistent.buckets_scan
    (consistent : setup.Consistent startPort settled state)
    {key : Nat × Option Nat} {member : SearchLabel K}
    (inBucket :
      member ∈ ((popped state env rest).scanBucket entry).bucketAt key) :
    member ∈ settled ∧ member.label.bucket = key ∧
      member.sequence ∈ ((popped state env rest).scanBucket entry).retained := by
  obtain ⟨before, notDisplaced⟩ := consistent.mem_bucketAt_scan.mp inBucket
  obtain ⟨isSettled, bucketEq, retained⟩ := consistent.buckets key member before
  refine ⟨isSettled, bucketEq, List.mem_filter.mpr ⟨retained, ?_⟩⟩
  rw [consistent.bucketOf_eq, Bool.not_eq_true', List.any_eq_false]
  intro other inOther displacedHere
  obtain ⟨displaced, sameSequence⟩ := Bool.and_eq_true_iff.mp displacedHere
  obtain ⟨otherSettled, otherBucket, _⟩ := consistent.buckets _ other inOther
  have same := consistent.eq_of_sequence otherSettled isSettled
    (of_decide_eq_true sameSequence)
  subst same
  exact notDisplaced (bucketEq.symm.trans otherBucket) displaced

/-- After the scan a settled label is covered by a label that is still in its
bucket, or by the label that was compared. -/
theorem Consistent.covered_scan
    (consistent : setup.Consistent startPort settled state)
    (entry : SearchLabel K) (env : E) (rest : List (SearchLabel K))
    {done : SearchLabel K} (isSettled : done ∈ settled) :
    (∃ keeper ∈ ((popped state env rest).scanBucket entry).bucketAt
        done.label.bucket, Label.Dominates keeper.label done.label) ∨
      (done.label.bucket = entry.label.bucket ∧
        Label.Dominates entry.label done.label) := by
  obtain ⟨keeper, inBucket, better⟩ := consistent.covered done isSettled
  by_cases gone : done.label.bucket = entry.label.bucket ∧
      SearchState.displaced entry keeper = true
  · have dominates := (displaced_iff.mp gone.2).2
    exact .inr ⟨gone.1, dominates.trans better⟩
  · refine .inl ⟨keeper, consistent.mem_bucketAt_scan.mpr ⟨inBucket, ?_⟩, better⟩
    intro sameBucket displaced
    exact gone ⟨sameBucket, displaced⟩

/-- Dropping a dominated label keeps the state consistent. -/
theorem Consistent.discard
    (consistent : setup.Consistent startPort settled state)
    (next : state.frontier = entry :: rest)
    (dominated : (popped state env rest).isDominated entry = true) :
    setup.Consistent startPort settled
      ((popped state env rest).scanBucket entry).discard := by
  have smaller : ∀ other ∈ settled ++ rest, other ∈ settled ++ state.frontier := by
    intro other member
    rw [next]
    rcases List.mem_append.mp member with inSettled | inRest
    · exact List.mem_append_left _ inSettled
    · exact List.mem_append_right _ (List.mem_cons_of_mem _ inRest)
  obtain ⟨dominator, inBucket, better⟩ := consistent.isDominated_iff.mp dominated
  constructor
  case walked => exact fun other member => consistent.walked other (smaller other member)
  case distinct =>
    refine consistent.distinct.sublist (List.Sublist.map _ ?_)
    rw [next]
    exact List.Sublist.append_left (List.sublist_cons_self _ _) _
  case bounded => exact fun other member => consistent.bounded other (smaller other member)
  case expanded => exact consistent.expanded
  case sorted =>
    have sorted := consistent.sorted
    rw [next] at sorted
    exact (List.pairwise_cons.mp sorted).2
  case ahead =>
    intro done isSettled other inRest
    refine consistent.ahead done isSettled other ?_
    rw [next]
    exact List.mem_cons_of_mem _ inRest
  case inOrder => exact consistent.inOrder
  case undominated => exact consistent.undominated
  case parents => exact fun other member => consistent.parents other (smaller other member)
  case buckets => exact fun key member inKey => consistent.buckets_scan inKey
  case covered =>
    intro done isSettled
    rcases consistent.covered_scan entry env rest isSettled with
      covered | ⟨sameBucket, dominates⟩
    · exact covered
    · refine ⟨dominator, ?_, better.trans dominates⟩
      refine consistent.mem_bucketAt_scan.mpr ⟨?_, fun _ displaced => ?_⟩
      · rw [sameBucket]
        exact inBucket
      · exact (displaced_iff.mp displaced).1 better

/-- The popped label, and the labels settled before it, are no later in the
search order than what is left in the queue. -/
theorem Consistent.entry_le
    (consistent : setup.Consistent startPort settled state)
    (next : state.frontier = entry :: rest) :
    ∀ other ∈ rest, entry.label.key ≤ other.label.key := by
  have sorted := consistent.sorted
  rw [next] at sorted
  exact (List.pairwise_cons.mp sorted).1

omit [Field K] [LinearOrder K] in
theorem perm_settle (next : state.frontier = entry :: rest) :
    ((entry :: settled) ++ rest).Perm (settled ++ state.frontier) := by
  rw [next]
  exact List.perm_middle.symm

omit [Field K] [LinearOrder K] in
theorem mem_bucketAt_keep {driver : SearchDriver E} {key : Nat × Option Nat}
    {member : SearchLabel K} :
    member ∈ (state.keep driver entry).bucketAt key ↔
      member ∈ state.bucketAt key ∨
        (key = entry.label.bucket ∧ member = entry) := by
  unfold SearchState.keep SearchState.bucketAt
  by_cases same : key = entry.label.bucket
  · subst same
    simp [AList.lookup_insert]
  · simp [AList.lookup_insert_ne same, same]

/-- Settling a label that no retained label dominates keeps the state
consistent. -/
theorem Consistent.keep
    (consistent : setup.Consistent startPort settled state)
    (next : state.frontier = entry :: rest)
    (notDominated : ¬ (popped state env rest).isDominated entry = true)
    (driver : SearchDriver E) :
    setup.Consistent startPort (entry :: settled)
      (((popped state env rest).scanBucket entry).keep driver entry) := by
  have same : ((entry :: settled) ++ rest).Perm (settled ++ state.frontier) :=
    perm_settle next
  have isNext : entry ∈ state.frontier := by
    rw [next]
    exact List.mem_cons_self ..
  constructor
  case walked =>
    exact fun other member => consistent.walked other (same.mem_iff.mp member)
  case distinct => exact (same.map _).nodup_iff.mpr consistent.distinct
  case bounded =>
    exact fun other member => consistent.bounded other (same.mem_iff.mp member)
  case expanded => exact congrArg (entry.sequence :: ·) consistent.expanded
  case sorted =>
    have sorted := consistent.sorted
    rw [next] at sorted
    exact (List.pairwise_cons.mp sorted).2
  case ahead =>
    intro done isSettled other inRest
    have entryLe := consistent.entry_le next other inRest
    rcases List.mem_cons.mp isSettled with rfl | earlier
    · exact entryLe
    · exact (consistent.ahead done earlier entry isNext).trans entryLe
  case inOrder =>
    exact List.pairwise_cons.mpr
      ⟨fun done earlier => consistent.ahead done earlier entry isNext,
        consistent.inOrder⟩
  case undominated =>
    exact List.pairwise_cons.mpr
      ⟨fun done earlier =>
        consistent.undominated_of_not_isDominated notDominated earlier,
        consistent.undominated⟩
  case parents =>
    intro other member hasParent
    obtain ⟨parent, isSettled, path⟩ :=
      consistent.parents other (same.mem_iff.mp member) hasParent
    exact ⟨parent, List.mem_cons_of_mem _ isSettled, path⟩
  case buckets =>
    intro key member inBucket
    rcases mem_bucketAt_keep.mp inBucket with before | ⟨sameKey, rfl⟩
    · obtain ⟨isSettled, bucketEq, retained⟩ := consistent.buckets_scan before
      exact ⟨List.mem_cons_of_mem _ isSettled, bucketEq,
        List.mem_cons_of_mem _ retained⟩
    · exact ⟨List.mem_cons_self .., sameKey.symm, List.mem_cons_self ..⟩
  case covered =>
    intro done isSettled
    rcases List.mem_cons.mp isSettled with rfl | earlier
    · exact ⟨done, mem_bucketAt_keep.mpr (.inr ⟨rfl, rfl⟩), .refl _⟩
    · rcases consistent.covered_scan entry env rest earlier with
        ⟨keeper, inBucket, better⟩ | ⟨sameBucket, dominates⟩
      · exact ⟨keeper, mem_bucketAt_keep.mpr (.inl inBucket), better⟩
      · exact ⟨entry, mem_bucketAt_keep.mpr (.inr ⟨sameBucket, rfl⟩), dominates⟩

end Scan

end SearchSetup

end OpticalPathPlanner
