import OpticalPathPlanner.BoundedSearches
import OpticalPathPlanner.SearchRuns

/-!
# The label table and the search state

A search state that carries whole paths stands for a label table: its search
labels are the rows that the queue, the buckets and the destination labels of
the table name by index, each with the path that its parents spell.  The two
searches go through the same rounds, as long as 32 bits hold every index.
-/

namespace OpticalPathPlanner

variable {K E : Type}

/-! ### Rows and search labels -/

/-- A row stands for a search label: the same place, and the same path. -/
structure Shows (labels : List (LabelRow K)) (index : UInt32)
    (entry : SearchLabel K) : Prop where
  place : entry.sequence = index.toNat
  follows : pathOf labels index = some entry.path

theorem pathFrom_of_grows {earlier later : List (LabelRow K)}
    (grows : Grows earlier later) {fuel more : Nat} (enough : fuel ≤ more)
    {index : UInt32} {path : List (Label K)}
    (follows : pathFrom earlier fuel index = some path) :
    pathFrom later more index = some path := by
  induction fuel generalizing more index path with
  | zero => cases follows
  | succ fuel ih =>
      obtain ⟨more, rfl⟩ := Nat.exists_eq_add_of_lt (Nat.lt_of_succ_le enough)
      rw [pathFrom] at follows ⊢
      obtain ⟨row, found, rest⟩ := Option.bind_eq_some_iff.mp follows
      obtain ⟨grown, atGrown, label, parent, _⟩ := grows index.toNat row found
      simp only [atGrown, Option.bind_eq_bind, Option.bind_some, label, parent]
      by_cases root : row.parent = kNoIndex
      · rwa [if_pos root] at rest ⊢
      · rw [if_neg root] at rest ⊢
        obtain ⟨above, leads, spelled⟩ := Option.bind_eq_some_iff.mp rest
        rw [ih (by omega) leads]
        exact spelled

theorem Shows.of_grows {earlier later : List (LabelRow K)} {index : UInt32}
    {entry : SearchLabel K} (shows_ : Shows earlier index entry)
    (grows : Grows earlier later) : Shows later index entry :=
  ⟨shows_.place, pathFrom_of_grows grows grows.length_le shows_.follows⟩

/-- The row of a search label carries its label. -/
theorem Shows.row {labels : List (LabelRow K)} {index : UInt32}
    {entry : SearchLabel K} (shows_ : Shows labels index entry) :
    ∃ row, labels[index.toNat]? = some row ∧ row.label = entry.label := by
  have follows := shows_.follows
  rw [pathOf] at follows
  generalize labels.length = fuel at follows
  cases fuel with
  | zero => cases follows
  | succ fuel =>
      rw [pathFrom] at follows
      obtain ⟨row, found, rest⟩ := Option.bind_eq_some_iff.mp follows
      refine ⟨row, found, ?_⟩
      by_cases root : row.parent = kNoIndex
      · rw [if_pos root] at rest
        exact (List.cons.inj (Option.some.inj rest)).1
      · rw [if_neg root] at rest
        obtain ⟨above, _, spelled⟩ := Option.bind_eq_some_iff.mp rest
        exact (List.cons.inj (Option.some.inj spelled)).1

/-- One row stands for one search label. -/
theorem Shows.unique {labels : List (LabelRow K)} {index : UInt32}
    {first second : SearchLabel K} (left : Shows labels index first)
    (right : Shows labels index second) : first = second := by
  have paths := Option.some.inj (left.follows.symm.trans right.follows)
  obtain ⟨label, ancestors⟩ := List.cons.inj paths
  cases first
  cases second
  rw [SearchLabel.mk.injEq]
  exact ⟨label, ancestors, left.place.trans right.place.symm⟩

theorem Shows.place_inj {labels : List (LabelRow K)} {index other : UInt32}
    {first second : SearchLabel K} (left : Shows labels index first)
    (right : Shows labels other second) (same : first.sequence = second.sequence) :
    first = second := by
  rw [left.place, right.place, UInt32.toNat_inj] at same
  subst same
  exact left.unique right

theorem Shows.of_mem {labels : List (LabelRow K)} {indices : List UInt32}
    {entries : List (SearchLabel K)}
    (shown : List.Forall₂ (Shows labels) indices entries) {entry : SearchLabel K}
    (member : entry ∈ entries) : ∃ index, Shows labels index entry := by
  induction shown with
  | nil => cases member
  | @cons index other _ _ first _ ih =>
      rcases List.mem_cons.mp member with rfl | later
      · exact ⟨index, first⟩
      · exact ih later

/-- An entry of one queue stands for an entry of the other. -/
structure Queues (labels : List (LabelRow K)) (entry : QueueEntry)
    (label : SearchLabel K) : Prop where
  key : entry.key = label.label.key
  sequence : entry.sequence = label.sequence
  shows_ : Shows labels entry.label label

theorem before_eq {labels : List (LabelRow K)} {first second : QueueEntry}
    {earlier later : SearchLabel K} (left : Queues labels first earlier)
    (right : Queues labels second later) :
    first.before second = earlier.before later := by
  rw [QueueEntry.before, SearchLabel.before, left.key, right.key, left.sequence,
    right.sequence]

theorem forall₂_push {labels : List (LabelRow K)} {entry : QueueEntry}
    {label : SearchLabel K} {queue : List QueueEntry} {queued : List (SearchLabel K)}
    (added : Queues labels entry label)
    (waiting : List.Forall₂ (Queues labels) queue queued) :
    List.Forall₂ (Queues labels) (QueueEntry.push entry queue)
      (SearchLabel.push label queued) := by
  induction waiting with
  | nil => exact .cons added .nil
  | cons first rest ih =>
      rw [QueueEntry.push, SearchLabel.push, before_eq added first]
      split
      · exact .cons added (.cons first rest)
      · exact .cons first ih

/-! ### Tables and states -/

/-- A search state stands for a label table. -/
structure Stands (table : LabelTable K E) (state : SearchState K E) : Prop where
  count : state.labelCount = table.labels.length
  sequence : table.sequence = table.labels.length
  frontier : List.Forall₂ (Queues table.labels) table.frontier state.frontier
  keys : table.buckets.keys = state.buckets.keys
  buckets : ∀ key, List.Forall₂ (Shows table.labels)
    ((table.buckets.lookup key).getD []) ((state.buckets.lookup key).getD [])
  retained : ∀ (index : Nat) (row : LabelRow K), table.labels[index]? = some row →
    row.retained = state.retained.contains index
  expanded : ∀ (index : Nat) (row : LabelRow K), table.labels[index]? = some row →
    row.expanded = state.expanded.contains index
  present : ∀ index ∈ state.retained ++ state.expanded, index < table.labels.length
  destinations : List.Forall₂ (Shows table.labels) table.destinationLabels
    state.destinationLabels
  destinationCount :
    table.retainedDestinationCount = state.retainedDestinationCount
  lastKey : table.lastDestinationKey = state.lastDestinationKey
  stopped : table.stoppedOnKey = state.stoppedOnKey
  truncated : table.truncated = state.truncated
  notes : table.notes = state.notes
  statistics : table.statistics = state.statistics
  env : table.env = state.env

theorem Shows.forall₂_of_grows {earlier later : List (LabelRow K)}
    (grows : Grows earlier later) {indices : List UInt32}
    {entries : List (SearchLabel K)}
    (shown : List.Forall₂ (Shows earlier) indices entries) :
    List.Forall₂ (Shows later) indices entries :=
  shown.imp fun _ _ each => each.of_grows grows

theorem Queues.forall₂_of_grows {earlier later : List (LabelRow K)}
    (grows : Grows earlier later) {queue : List QueueEntry}
    {queued : List (SearchLabel K)}
    (waiting : List.Forall₂ (Queues earlier) queue queued) :
    List.Forall₂ (Queues later) queue queued :=
  waiting.imp fun _ _ each => ⟨each.key, each.sequence, each.shows_.of_grows grows⟩

namespace Stands

variable {table : LabelTable K E} {state : SearchState K E}

theorem examine (stands : Stands table state) (notes : List Note) :
    Stands (table.examine notes) (state.examine notes) where
  count := stands.count
  sequence := stands.sequence
  frontier := stands.frontier
  keys := stands.keys
  buckets := stands.buckets
  retained := stands.retained
  expanded := stands.expanded
  present := stands.present
  destinations := stands.destinations
  destinationCount := stands.destinationCount
  lastKey := stands.lastKey
  stopped := stands.stopped
  truncated := stands.truncated
  notes := by rw [LabelTable.examine, SearchState.examine, stands.notes]
  statistics := by rw [LabelTable.examine, SearchState.examine, stands.statistics]
  env := stands.env

theorem truncate (stands : Stands table state) :
    Stands table.truncate state.truncate :=
  { stands with
    truncated := rfl
    notes := by rw [LabelTable.truncate, SearchState.truncate, stands.notes] }

/-- A new row stands for a new search label below the path of its parent. -/
theorem pushLabel (stands : Stands table state) (label : Label K)
    {parent : UInt32} {ancestors : List (Label K)}
    (small : table.labels.length < 2 ^ 32)
    (above : if parent = kNoIndex then ancestors = []
      else pathOf table.labels parent = some ancestors) :
    Stands (table.pushLabel label parent) (state.pushLabel label ancestors) := by
  have grows : Grows table.labels (table.pushLabel label parent).labels :=
    grows_append _ _
  have length : (table.pushLabel label parent).labels.length =
      table.labels.length + 1 := List.length_append
  have place : (UInt32.ofNat table.labels.length).toNat = table.labels.length :=
    UInt32.toNat_ofNat_of_lt' small
  have last : (table.pushLabel label parent).labels[table.labels.length]? =
      some { label := label, parent := parent, sequence := table.sequence } := by
    simp [LabelTable.pushLabel]
  have added : Shows (table.pushLabel label parent).labels
      (UInt32.ofNat table.labels.length) ⟨label, ancestors, state.labelCount⟩ := by
    refine ⟨by rw [place, stands.count], ?_⟩
    rw [pathOf, length, pathFrom, place, last]
    simp only [Option.bind_eq_bind, Option.bind_some]
    by_cases root : parent = kNoIndex
    · rw [if_pos root] at above ⊢
      rw [above]
      rfl
    · rw [if_neg root] at above ⊢
      rw [pathFrom_of_grows grows le_rfl above]
      rfl
  have new (index : Nat) (row : LabelRow K)
      (found : (table.pushLabel label parent).labels[index]? = some row) :
      table.labels[index]? = some row ∨ index = table.labels.length ∧
        row = { label := label, parent := parent, sequence := table.sequence } := by
    have within := (List.getElem?_eq_some_iff.mp found).1
    rw [length] at within
    rcases Nat.lt_succ_iff_lt_or_eq.mp within with before | rfl
    · rw [LabelTable.pushLabel, List.getElem?_append_left before] at found
      exact .inl found
    · exact .inr ⟨rfl, Option.some.inj (found.symm.trans last)⟩
  have absent (indices : List Nat)
      (present : ∀ index ∈ indices, index < table.labels.length) :
      indices.contains table.labels.length = false := by
    rw [Bool.eq_false_iff, ne_eq, List.contains_iff_mem]
    exact fun member => (present _ member).false
  constructor
  case count => exact congrArg (· + 1) stands.count |>.trans length.symm
  case sequence => exact congrArg (· + 1) stands.sequence |>.trans length.symm
  case frontier =>
    exact forall₂_push ⟨rfl, stands.sequence.trans stands.count.symm, added⟩
      (Queues.forall₂_of_grows grows stands.frontier)
  case keys => exact stands.keys
  case buckets => exact fun key => Shows.forall₂_of_grows grows (stands.buckets key)
  case retained =>
    intro index row found
    rcases new index row found with earlier | ⟨rfl, rfl⟩
    · exact stands.retained index row earlier
    · exact (absent _ fun index member =>
        stands.present index (List.mem_append_left _ member)).symm
  case expanded =>
    intro index row found
    rcases new index row found with earlier | ⟨rfl, rfl⟩
    · exact stands.expanded index row earlier
    · exact (absent _ fun index member =>
        stands.present index (List.mem_append_right _ member)).symm
  case present =>
    intro index member
    rw [length]
    exact Nat.lt_succ_of_lt (stands.present index member)
  case destinations => exact Shows.forall₂_of_grows grows stands.destinations
  case destinationCount => exact stands.destinationCount
  case lastKey => exact stands.lastKey
  case stopped => exact stands.stopped
  case truncated => exact stands.truncated
  case notes => exact stands.notes
  case statistics => exact stands.statistics
  case env => exact stands.env

end Stands

/-! ### Live labels -/

/-- The search labels of a bucket that are still retained. -/
def liveOf (retained : List Nat) (entries : List (SearchLabel K)) :
    List (SearchLabel K) :=
  entries.filter fun other => retained.contains other.sequence

section Displacing

variable {other : SearchLabel K} {rest : List (SearchLabel K)} {retained : List Nat}

/-- A displaced row takes all its search labels out of the live ones. -/
theorem mem_liveOf_displaced
    (unique : ∀ label ∈ rest, label.sequence = other.sequence → label = other)
    {label : SearchLabel K} :
    label ∈ liveOf (retained.filter (· != other.sequence)) rest ↔
      label ∈ liveOf retained rest ∧ label ≠ other := by
  simp only [liveOf, List.mem_filter, List.contains_iff_mem, bne_iff_ne]
  constructor
  · rintro ⟨member, live, elsewhere⟩
    exact ⟨⟨member, live⟩, fun same => elsewhere (congrArg _ same)⟩
  · rintro ⟨⟨member, live⟩, differs⟩
    exact ⟨member, live, fun same => differs (unique label member same)⟩

theorem liveOf_cons_of_retained (live : retained.contains other.sequence = true) :
    liveOf retained (other :: rest) = other :: liveOf retained rest :=
  List.filter_cons_of_pos live

theorem any_liveOf_displaced {test : SearchLabel K → Bool}
    (unique : ∀ label ∈ rest, label.sequence = other.sequence → label = other)
    (fails : test other = false) :
    (liveOf (retained.filter (· != other.sequence)) rest).any test =
      (other :: liveOf retained rest).any test := by
  rw [List.any_cons, fails, Bool.false_or, Bool.eq_iff_iff, List.any_eq_true,
    List.any_eq_true]
  constructor
  · rintro ⟨label, member, passes⟩
    exact ⟨label, ((mem_liveOf_displaced unique).mp member).1, passes⟩
  · rintro ⟨label, member, passes⟩
    refine ⟨label, (mem_liveOf_displaced unique).mpr ⟨member, ?_⟩, passes⟩
    rintro rfl
    rw [fails] at passes
    cases passes

theorem filter_liveOf_displaced {test : SearchLabel K → Bool}
    (unique : ∀ label ∈ rest, label.sequence = other.sequence → label = other)
    (fails : test other = false) :
    (liveOf (retained.filter (· != other.sequence)) rest).filter test =
      (other :: liveOf retained rest).filter test := by
  rw [List.filter_cons_of_neg (by simp [fails]), liveOf, liveOf, List.filter_filter,
    List.filter_filter]
  refine List.filter_congr ?_
  intro label member
  by_cases same : label.sequence = other.sequence
  · rw [unique label member same, fails, Bool.false_and, Bool.false_and]
  · rw [Bool.eq_iff_iff]
    simp [same]

end Displacing

/-! ### Expanding -/

section Searches

variable [Field K] [LinearOrder K] {setup : SearchSetup K E}
  {table : LabelTable K E} {state : SearchState K E} {index : UInt32}
  {entry : SearchLabel K}

theorem Stands.expandRow (small : setup.labelLimit < 2 ^ 32)
    {arcs : List ArcRef} (stands : Stands table state)
    (shows_ : Shows table.labels index entry) :
    ∃ out, setup.expandRow entry.label index arcs table = some out ∧
      Stands out (setup.expandArcs entry arcs state) := by
  induction arcs generalizing table state with
  | nil => exact ⟨table, rfl, stands⟩
  | cons arc rest ih =>
      rw [SearchSetup.expandRow, SearchSetup.expandArcs, shows_.follows]
      simp only [Option.bind_eq_bind, Option.bind_some, SearchLabel.path,
        List.tail_cons]
      have examined := stands.examine
        (setup.expandArc entry.label entry.ancestors arc).notes
      cases (setup.expandArc entry.label entry.ancestors arc).result with
      | none => exact ih examined shows_
      | some label =>
          dsimp only
          rw [stands.count]
          by_cases full : table.labels.length ≥ setup.labelLimit
          · rw [if_pos full, if_pos full]
            exact ⟨_, rfl, examined.truncate⟩
          · rw [if_neg full, if_neg full]
            rw [Nat.not_le] at full
            obtain ⟨row, found, _⟩ := shows_.row
            have within := (List.getElem?_eq_some_iff.mp found).1
            have notRoot : index ≠ kNoIndex := by
              rintro rfl
              change 4294967295 < _ at within
              omega
            have above : if index = kNoIndex then entry.path = []
                else pathOf table.labels index = some entry.path := by
              rw [if_neg notRoot]
              exact shows_.follows
            have pushed := examined.pushLabel label (full.trans small) above
            exact ih pushed (shows_.of_grows (grows_append _ _))

/-! ### Scanning -/

/-- The places that stay retained when an entry displaces some of them. -/
def stillRetained (entry : SearchLabel K) (entries : List (SearchLabel K))
    (retained : List Nat) : List Nat :=
  retained.filter fun sequence =>
    !(liveOf retained entries).any fun other =>
      SearchState.displaced entry other && other.sequence = sequence

omit [Field K] in
theorem stillRetained_displaced {other : SearchLabel K}
    {rest : List (SearchLabel K)} {retained : List Nat}
    (unique : ∀ label ∈ rest, label.sequence = other.sequence → label = other)
    (live : retained.contains other.sequence = true)
    (displaced : SearchState.displaced entry other = true) :
    stillRetained entry rest (retained.filter (· != other.sequence)) =
      stillRetained entry (other :: rest) retained := by
  rw [stillRetained, stillRetained, List.filter_filter,
    liveOf_cons_of_retained live]
  refine List.filter_congr ?_
  intro place _
  by_cases same : other.sequence = place
  · subst same
    simp [displaced]
  · rw [any_liveOf_displaced unique (by simp [same])]
    simp [Ne.symm same]

omit [Field K] in
theorem stillRetained_cons {other : SearchLabel K} {rest : List (SearchLabel K)}
    {retained : List Nat} (live : retained.contains other.sequence = true)
    (stays : SearchState.displaced entry other = false) :
    stillRetained entry (other :: rest) retained =
      stillRetained entry rest retained := by
  simp [stillRetained, liveOf_cons_of_retained live, stays]

/-- What a scan over rows does, in terms of the search labels they stand for. -/
structure Scans (entry : SearchLabel K) (entries : List (SearchLabel K))
    (retained : List Nat) (labels : List (LabelRow K))
    (scanned : List (LabelRow K) × Bool × List UInt32) : Prop where
  grows : Grows labels scanned.1
  length : scanned.1.length = labels.length
  dominated : scanned.2.1 =
    (liveOf retained entries).any fun other => other.label.dominates entry.label
  kept : List.Forall₂ (Shows scanned.1) scanned.2.2
    ((liveOf retained entries).filter fun other =>
      !SearchState.displaced entry other)
  flags : ∀ (place : Nat) (row : LabelRow K), scanned.1[place]? = some row →
    row.retained = (stillRetained entry entries retained).contains place
  expanded : ∀ (place : Nat) (row : LabelRow K), scanned.1[place]? = some row →
    ∃ old : LabelRow K, labels[place]? = some old ∧ row.expanded = old.expanded

omit [Field K] [LinearOrder K] in
/-- Displacing a row takes its place out of the retained ones. -/
theorem retained_displace {labels : List (LabelRow K)} {retained : List Nat}
    {other : SearchLabel K} {place : Nat}
    (flags : ∀ (spot : Nat) (row : LabelRow K), labels[spot]? = some row →
      row.retained = retained.contains spot)
    (same : other.sequence = place) :
    ∀ (spot : Nat) (row : LabelRow K),
      (labels.modify place displace)[spot]? = some row →
        row.retained =
          (retained.filter (· != other.sequence)).contains spot := by
  intro spot row found
  rw [List.getElem?_modify] at found
  obtain ⟨former, atFormer, rfl⟩ := Option.map_eq_some_iff.mp found
  subst same
  by_cases here : other.sequence = spot
  · subst here
    simp [displace]
  · have differs : spot ≠ other.sequence := Ne.symm here
    rw [if_neg here, flags spot former atFormer, Bool.eq_iff_iff]
    simp [differs]

omit [Field K] in
theorem scanRows_scans {labels : List (LabelRow K)} {retained : List Nat}
    {bucket : List UInt32} {entries : List (SearchLabel K)}
    (shown : List.Forall₂ (Shows labels) bucket entries)
    (flags : ∀ (place : Nat) (row : LabelRow K), labels[place]? = some row →
      row.retained = retained.contains place) :
    ∃ scanned, scanRows entry.label bucket labels = some scanned ∧
      Scans entry entries retained labels scanned := by
  induction bucket generalizing labels retained entries with
  | nil =>
      cases shown
      refine ⟨_, rfl, .refl _, rfl, rfl, .nil, ?_, fun _ row found =>
        ⟨row, found, rfl⟩⟩
      intro place row found
      rw [flags place row found]
      simp [stillRetained, liveOf]
  | cons place bucket ih =>
      cases shown with
      | @cons _ other _ rest first others =>
          obtain ⟨row, found, label⟩ := first.row
          have live := flags place.toNat row found
          rw [← first.place] at live
          have unique : ∀ label ∈ rest, label.sequence = other.sequence →
              label = other := by
            intro label member same
            obtain ⟨index, shows_⟩ := Shows.of_mem others member
            exact shows_.place_inj first same
          rw [scanRows, found]
          simp only [Option.bind_eq_bind, Option.bind_some, label]
          obtain ⟨scanned, scans, spec⟩ := ih others flags
          by_cases kept : retained.contains other.sequence = true
          · have rowLive := live.trans kept
            by_cases dominates : other.label.dominates entry.label = true
            · have stays : SearchState.displaced entry other = false := by
                simp [SearchState.displaced, dominates]
              refine ⟨(scanned.1, true, place :: scanned.2.2),
                by simp [rowLive, dominates, scans], spec.grows, spec.length, ?_, ?_,
                ?_, spec.expanded⟩
              · simp [liveOf_cons_of_retained kept, dominates]
              · rw [liveOf_cons_of_retained kept,
                  List.filter_cons_of_pos (by simp [stays])]
                exact .cons (first.of_grows spec.grows) spec.kept
              · rw [stillRetained_cons kept stays]
                exact spec.flags
            · by_cases displaces : entry.label.dominates other.label = true
              · have gone : SearchState.displaced entry other = true := by
                  simp [SearchState.displaced, dominates, displaces]
                have grows := grows_displace labels place.toNat
                have later : List.Forall₂ (Shows (labels.modify place.toNat displace))
                    bucket rest := Shows.forall₂_of_grows grows others
                obtain ⟨scanned, scans, spec⟩ := ih later
                  (retained_displace flags first.place)
                refine ⟨scanned, by simp [rowLive, dominates, displaces, scans],
                  grows.trans spec.grows,
                  spec.length.trans (List.length_modify ..), ?_, ?_, ?_, ?_⟩
                · rw [spec.dominated, any_liveOf_displaced unique (by simp [dominates]),
                    liveOf_cons_of_retained kept]
                · rw [liveOf_cons_of_retained kept,
                    ← filter_liveOf_displaced unique (by simp [gone])]
                  exact spec.kept
                · rw [← stillRetained_displaced unique kept gone]
                  exact spec.flags
                · intro spot row atSpot
                  obtain ⟨old, atOld, same⟩ := spec.expanded spot row atSpot
                  rw [List.getElem?_modify] at atOld
                  obtain ⟨former, atFormer, rfl⟩ := Option.map_eq_some_iff.mp atOld
                  refine ⟨former, atFormer, same.trans ?_⟩
                  split <;> rfl
              · have stays : SearchState.displaced entry other = false := by
                  simp [SearchState.displaced, displaces]
                refine ⟨(scanned.1, scanned.2.1, place :: scanned.2.2),
                  by simp [rowLive, dominates, displaces, scans], spec.grows,
                  spec.length, ?_, ?_, ?_, spec.expanded⟩
                · simp [liveOf_cons_of_retained kept, dominates, spec.dominated]
                · rw [liveOf_cons_of_retained kept,
                    List.filter_cons_of_pos (by simp [stays])]
                  exact .cons (first.of_grows spec.grows) spec.kept
                · rw [stillRetained_cons kept stays]
                  exact spec.flags
          · have dead : liveOf retained (other :: rest) = liveOf retained rest :=
              List.filter_cons_of_neg kept
            have rowDead := live.trans (Bool.eq_false_iff.mpr kept)
            refine ⟨scanned, by simp [rowDead, scans], spec.grows, spec.length, ?_, ?_,
              ?_, spec.expanded⟩
            · rw [dead, spec.dominated]
            · rw [dead]
              exact spec.kept
            · rw [stillRetained, dead]
              exact spec.flags

omit [Field K] in
/-- The scan of a bucket leaves a table that the scanned state stands for. -/
theorem Stands.scan (stands : Stands table state)
    {scanned : List (LabelRow K) × Bool × List UInt32}
    (scans : Scans entry ((state.buckets.lookup entry.label.bucket).getD [])
      state.retained table.labels scanned) :
    Stands (table.afterScan entry.label scanned.1 scanned.2.2)
      (state.scanBucket entry) where
  count := stands.count.trans scans.length.symm
  sequence := stands.sequence.trans scans.length.symm
  frontier := Queues.forall₂_of_grows scans.grows stands.frontier
  keys := by
    simp only [LabelTable.afterScan, SearchState.scanBucket, AList.keys_insert,
      stands.keys]
  buckets key := by
    simp only [LabelTable.afterScan, SearchState.scanBucket]
    by_cases here : key = entry.label.bucket
    · rw [here, AList.lookup_insert, AList.lookup_insert]
      exact scans.kept
    · rw [AList.lookup_insert_ne here, AList.lookup_insert_ne here]
      exact Shows.forall₂_of_grows scans.grows (stands.buckets key)
  retained := scans.flags
  expanded place row found := by
    obtain ⟨old, atOld, same⟩ := scans.expanded place row found
    exact same.trans (stands.expanded place old atOld)
  present place member := by
    refine (stands.present place ?_).trans_eq scans.length.symm
    rcases List.mem_append.mp member with retained | expanded
    · exact List.mem_append_left _ (List.mem_of_mem_filter retained)
    · exact List.mem_append_right _ expanded
  destinations := Shows.forall₂_of_grows scans.grows stands.destinations
  destinationCount := stands.destinationCount
  lastKey := stands.lastKey
  stopped := stands.stopped
  truncated := stands.truncated
  notes := stands.notes
  statistics := stands.statistics
  env := stands.env

/-! ### Settling -/

omit [Field K] [LinearOrder K] in
theorem Stands.discard (stands : Stands table state) :
    Stands table.discard state.discard :=
  { stands with
    notes := by rw [LabelTable.discard, SearchState.discard, stands.notes]
    statistics := by
      rw [LabelTable.discard, SearchState.discard, stands.statistics] }

omit [Field K] [LinearOrder K] in
theorem Stands.keep (driver : SearchDriver E) (stands : Stands table state)
    (shows_ : Shows table.labels index entry) :
    Stands (table.keep driver entry.label index) (state.keep driver entry) := by
  have grows := grows_settleRow table.labels index.toNat
  have length : (table.labels.modify index.toNat settleRow).length =
      table.labels.length := List.length_modify ..
  have keys : (table.buckets.insert entry.label.bucket
      (table.bucket entry.label ++ [index])).keys =
      (state.buckets.insert entry.label.bucket
        (((state.buckets.lookup entry.label.bucket).getD []) ++ [entry])).keys := by
    rw [AList.keys_insert, AList.keys_insert, stands.keys]
  have visited := congrArg List.length keys
  simp only [AList.keys, List.keys, List.length_map] at visited
  have waiting := stands.frontier.length_eq
  obtain ⟨settled, atSettled, _⟩ := shows_.row
  have within := (List.getElem?_eq_some_iff.mp atSettled).1
  have rows {flag : LabelRow K → Bool} {places : List Nat}
      (set : ∀ row : LabelRow K, flag (settleRow row) = true)
      (flags : ∀ (place : Nat) (row : LabelRow K), table.labels[place]? = some row →
        flag row = places.contains place) (place : Nat) (row : LabelRow K)
      (found : (table.labels.modify index.toNat settleRow)[place]? = some row) :
      flag row = (entry.sequence :: places).contains place := by
    rw [List.getElem?_modify] at found
    obtain ⟨former, atFormer, rfl⟩ := Option.map_eq_some_iff.mp found
    rw [shows_.place, List.contains_cons]
    by_cases here : index.toNat = place
    · rw [if_pos here, set, here, beq_self_eq_true, Bool.true_or]
    · rw [if_neg here, flags place former atFormer,
        beq_eq_false_iff_ne.mpr (Ne.symm here), Bool.false_or]
  have statistics : (table.keep driver entry.label index).statistics =
      (state.keep driver entry).statistics := by
    simp only [LabelTable.keep, SearchState.keep, stands.statistics, visited, waiting]
  constructor
  case count => exact stands.count.trans length.symm
  case sequence => exact stands.sequence.trans length.symm
  case frontier => exact Queues.forall₂_of_grows grows stands.frontier
  case keys => exact keys
  case buckets =>
    intro key
    simp only [LabelTable.keep, SearchState.keep]
    by_cases here : key = entry.label.bucket
    · rw [here, AList.lookup_insert, AList.lookup_insert]
      exact List.rel_append
        (Shows.forall₂_of_grows grows (stands.buckets entry.label.bucket))
        (.cons (shows_.of_grows grows) .nil)
    · rw [AList.lookup_insert_ne here, AList.lookup_insert_ne here]
      exact Shows.forall₂_of_grows grows (stands.buckets key)
  case retained => exact rows (fun _ => rfl) stands.retained
  case expanded => exact rows (fun _ => rfl) stands.expanded
  case present =>
    intro place member
    refine lt_of_lt_of_eq ?_ length.symm
    simp only [SearchState.keep, List.cons_append, List.mem_cons,
      List.mem_append] at member
    rcases member with rfl | retained | rfl | expanded
    · rwa [shows_.place]
    · exact stands.present place (List.mem_append_left _ retained)
    · rwa [shows_.place]
    · exact stands.present place (List.mem_append_right _ expanded)
  case destinations => exact Shows.forall₂_of_grows grows stands.destinations
  case destinationCount => exact stands.destinationCount
  case lastKey => exact stands.lastKey
  case stopped => exact stands.stopped
  case truncated => exact stands.truncated
  case notes => exact stands.notes
  case statistics => exact statistics
  case env =>
    change driver.observer (table.keep driver entry.label index).statistics
      table.env = driver.observer (state.keep driver entry).statistics state.env
    rw [statistics, stands.env]

omit [Field K] [LinearOrder K] in
theorem Stands.reachDestination (stands : Stands table state)
    (shows_ : Shows table.labels index entry) :
    Stands (table.reachDestination entry.label index)
      (state.reachDestination entry) :=
  { stands with
    destinations := List.rel_append stands.destinations (.cons shows_ .nil)
    destinationCount := congrArg (· + 1) stands.destinationCount
    lastKey := rfl }

/-! ### Rounds -/

/-- Both rounds end in one way, one state standing for the other. -/
inductive Tracks : TableProgress K E → Progress K E → Prop
  | running {table : LabelTable K E} {state : SearchState K E}
      (stands : Stands table state) : Tracks (.running table) (.running state)
  | finished {table : LabelTable K E} {state : SearchState K E}
      (stands : Stands table state) : Tracks (.finished table) (.finished state)
  | cancelled {table : LabelTable K E} {state : SearchState K E}
      (stands : Stands table state) : Tracks (.cancelled table) (.cancelled state)

theorem Stands.settle (small : setup.labelLimit < 2 ^ 32)
    (stands : Stands table state) (shows_ : Shows table.labels index entry) :
    ∃ progress, setup.settleTable entry.label index table = some progress ∧
      Tracks progress (setup.settle entry state) := by
  unfold SearchSetup.settleTable SearchSetup.settle
  by_cases arrived : entry.label.portIndex = setup.destinationPort
  · rw [if_pos arrived, if_pos arrived]
    exact ⟨_, rfl, .running (stands.reachDestination shows_)⟩
  · rw [if_neg arrived, if_neg arrived]
    obtain ⟨next, expanded, after⟩ := @Stands.expandRow _ _ _ _ setup _ _ _ _ small
      (setup.outgoingArcs entry.label.portIndex) stands shows_
    simp only [Option.bind_eq_bind, Option.pure_def, expanded, Option.bind_some]
    rw [after.truncated]
    split
    · exact ⟨_, rfl, .finished after⟩
    · exact ⟨_, rfl, .running after⟩

omit [Field K] [LinearOrder K] in
theorem Stands.stopsOnKey (stands : Stands table state) {queued : QueueEntry}
    (waits : Queues table.labels queued entry) (maxCandidates : Nat) :
    table.stopsOnKey maxCandidates queued =
      state.stopsOnKey maxCandidates entry := by
  cases last : state.lastDestinationKey <;>
    simp [LabelTable.stopsOnKey, SearchState.stopsOnKey, stands.lastKey,
      stands.destinationCount, waits.key, last]

theorem Stands.visit (small : setup.labelLimit < 2 ^ 32)
    (stands : Stands table state) {queued : QueueEntry}
    (waits : Queues table.labels queued entry) :
    ∃ progress, setup.visitRow queued table = some progress ∧
      Tracks progress (setup.visit entry state) := by
  obtain ⟨row, found, label⟩ := waits.shows_.row
  have flag := stands.expanded _ row found
  rw [← waits.shows_.place] at flag
  unfold SearchSetup.visitRow SearchSetup.visit
  simp only [Option.bind_eq_bind, Option.pure_def, found, Option.bind_some, flag,
    label, stands.stopsOnKey waits]
  by_cases again : state.expanded.contains entry.sequence = true
  · rw [if_pos again, if_pos again]
    exact ⟨_, rfl, .running stands⟩
  · rw [if_neg again, if_neg again]
    by_cases stops : state.stopsOnKey setup.request.maxCandidates entry = true
    · rw [if_pos stops, if_pos stops]
      exact ⟨_, rfl, .finished { stands with stopped := rfl }⟩
    · rw [if_neg stops, if_neg stops]
      obtain ⟨scanned, ran, scans⟩ := scanRows_scans
        (stands.buckets entry.label.bucket) stands.retained
      have scannedRows : scanRows entry.label (table.bucket entry.label)
          table.labels = some scanned := ran
      have dominated : scanned.2.1 = state.isDominated entry := scans.dominated
      have after := stands.scan scans
      rw [scannedRows, Option.bind_some, dominated]
      by_cases beaten : state.isDominated entry = true
      · rw [if_pos beaten, if_pos beaten]
        exact ⟨_, rfl, .running after.discard⟩
      · rw [if_neg beaten, if_neg beaten]
        have shows_ := waits.shows_.of_grows scans.grows
        exact (after.keep setup.driver shows_).settle small
          (shows_.of_grows (grows_settleRow scanned.1 queued.label.toNat))

theorem Stands.round (small : setup.labelLimit < 2 ^ 32)
    (stands : Stands table state) :
    ∃ progress, setup.roundTable table = some progress ∧
      Tracks progress (setup.round state) := by
  have waiting := stands.frontier
  unfold SearchSetup.roundTable SearchSetup.round
  cases entries : table.frontier with
  | nil =>
      rw [entries] at waiting
      rw [List.forall₂_nil_left_iff.mp waiting]
      exact ⟨_, rfl, .finished stands⟩
  | cons queued rest =>
      rw [entries] at waiting
      obtain ⟨entry, others, waits, later, same⟩ :=
        List.forall₂_cons_left_iff.mp waiting
      have queue : List.Forall₂ (Queues table.labels) (queued :: rest)
          (entry :: others) := .cons waits later
      rw [same, stands.env, stands.statistics]
      dsimp only
      by_cases requested : (setup.driver.isRequested state.env).1 = true
      · rw [if_pos requested, if_pos requested]
        exact ⟨_, rfl, .cancelled { stands with
          frontier := queue
          statistics := rfl
          env := rfl }⟩
      · rw [if_neg requested, if_neg requested]
        by_cases full :
            state.statistics.labelsExpanded ≥ setup.expansionLimit
        · rw [if_pos full, if_pos full]
          refine ⟨_, rfl, .finished (Stands.truncate ?_)⟩
          exact { stands with
            frontier := queue
            statistics := rfl
            env := rfl }
        · rw [if_neg full, if_neg full]
          refine Stands.visit small ?_ waits
          exact { stands with
            frontier := later
            statistics := rfl
            env := rfl }

theorem Stands.rounds (small : setup.labelLimit < 2 ^ 32) {fuel : Nat}
    (stands : Stands table state) :
    ∃ progress, setup.roundsTable fuel table = some progress ∧
      Tracks progress (setup.rounds fuel state) := by
  induction fuel generalizing table state with
  | zero => exact ⟨_, rfl, .running stands⟩
  | succ fuel ih =>
      obtain ⟨progress, ran, tracks⟩ := Stands.round small stands
      rw [SearchSetup.roundsTable, SearchSetup.rounds, ran]
      generalize setup.round state = ended at tracks
      cases tracks with
      | running after => exact ih after
      | finished after => exact ⟨_, rfl, .finished after⟩
      | cancelled after => exact ⟨_, rfl, .cancelled after⟩

/-! ### Outcomes -/

theorem filterMap_ite {α β : Type} (test : α → Bool) (spell : α → β)
    (items : List α) :
    (items.filterMap fun item => if test item then some (spell item) else none) =
      (items.filter test).map spell := by
  induction items with
  | nil => rfl
  | cons item rest ih => cases kept : test item <;> simp [kept, ih]

omit [Field K] [LinearOrder K] in
theorem Stands.rawPathAt (stands : Stands table state)
    (shows_ : Shows table.labels index entry) :
    table.rawPathAt index =
      some (if state.retained.contains entry.sequence then
        some entry.rawPath else none) := by
  obtain ⟨row, found, label⟩ := shows_.row
  have flag := stands.retained _ row found
  rw [← shows_.place] at flag
  simp only [LabelTable.rawPathAt, Option.bind_eq_bind, Option.pure_def, found,
    Option.bind_some, flag, shows_.follows, label, SearchLabel.rawPath]
  cases state.retained.contains entry.sequence <;> rfl

omit [Field K] [LinearOrder K] in
theorem Stands.paths (stands : Stands table state) :
    table.paths = some state.paths := by
  have read : ∀ {indices : List UInt32} {entries : List (SearchLabel K)},
      List.Forall₂ (Shows table.labels) indices entries →
      indices.mapM table.rawPathAt = some (entries.map fun entry =>
        if state.retained.contains entry.sequence then
          some entry.rawPath else none) := by
    intro indices entries shown
    induction shown with
    | nil => rfl
    | cons first _ ih =>
        rw [List.mapM_cons, stands.rawPathAt first, ih]
        rfl
  rw [LabelTable.paths, read stands.destinations, SearchState.paths]
  simp only [Option.bind_eq_bind, Option.bind_some, Option.pure_def,
    Option.some.injEq, List.filterMap_map]
  exact filterMap_ite (fun entry => state.retained.contains entry.sequence)
    SearchLabel.rawPath state.destinationLabels

omit [Field K] [LinearOrder K] in
theorem Stands.outcome (stands : Stands table state) (coverageComplete : Bool) :
    table.outcome coverageComplete = some (state.outcome coverageComplete) := by
  have waiting : table.frontier.isEmpty = state.frontier.isEmpty := by
    rw [Bool.eq_iff_iff, List.isEmpty_iff_length_eq_zero,
      List.isEmpty_iff_length_eq_zero, stands.frontier.length_eq]
  have exhausted : table.isExhausted = state.isExhausted := by
    rw [LabelTable.isExhausted, SearchState.isExhausted, waiting, stands.truncated]
  rw [LabelTable.outcome, SearchState.outcome, stands.paths, exhausted,
    stands.notes, stands.stopped, stands.truncated, stands.statistics,
    ← stands.count]
  rfl

/-! ### The whole search -/

omit [Field K] [LinearOrder K] in
theorem stands_initial (notes : List Note) (env : E) :
    Stands ((LabelTable.initial env : LabelTable K E).addNotes notes)
      ((SearchState.initial env).addNotes notes) where
  count := rfl
  sequence := rfl
  frontier := .nil
  keys := rfl
  buckets _ := .nil
  retained _ _ found := by cases found
  expanded _ _ found := by cases found
  present _ member := by cases member
  destinations := .nil
  destinationCount := rfl
  lastKey := rfl
  stopped := rfl
  truncated := rfl
  notes := rfl
  statistics := rfl
  env := rfl

variable {runtime : Runtime K} {snapshot : TopologySnapshot K}
  {request : PlanningRequest K} {options : PlannerOptions} {driver : SearchDriver E}
  {env : E}

/-- As long as 32 bits hold every index, the search over the label table is the
search over search labels. -/
theorem runTableSearch_eq
    (small : min options.labelCeiling request.maxSearchLabels < 2 ^ 32) :
    runTableSearch runtime snapshot request options driver env =
      some (runSearch runtime snapshot request options driver env) := by
  cases source : snapshot.portIndex request.source with
  | none => simp [runTableSearch, runSearch, source]
  | some startPort =>
      cases destination : snapshot.portIndex request.destination with
      | none => simp [runTableSearch, runSearch, source, destination]
      | some destinationPort =>
          rw [runTableSearch, runSearch]
          simp only [source, destination, SearchContext.startState]
          cases started :
              (searchContext runtime snapshot request).startTable startPort env with
          | none =>
              rw [SearchContext.startTable, Option.map_eq_none_iff] at started
              rw [started]
              rfl
          | some table =>
              obtain ⟨sound, enough⟩ := soundTable_search options driver
                destinationPort started
              obtain ⟨label, result, rfl⟩ := Option.map_eq_some_iff.mp started
              have root : if kNoIndex = kNoIndex then ([] : List (Label K)) = []
                  else pathOf ([] : List (LabelRow K)) kNoIndex = some [] := by
                rw [if_pos rfl]
              have stands := (stands_initial ((searchContext runtime snapshot
                request).startLabel startPort).notes env).pushLabel label
                  (Nat.two_pow_pos 32) root
              obtain ⟨progress, ran, tracks⟩ := @Stands.rounds _ _ _ _
                (searchSetup runtime snapshot request options driver
                  destinationPort) _ _ small (searchSetup runtime snapshot request
                    options driver destinationPort).fuel stands
              obtain ⟨final, -, ended⟩ := sound.rounds_end enough
              rw [result, Option.map_some]
              dsimp only
              rw [ran] at ended ⊢
              generalize (searchSetup runtime snapshot request options driver
                destinationPort).rounds _ _ = last at tracks ⊢
              cases tracks with
              | running after => rcases ended with ended | ended <;> cases ended
              | finished after =>
                  simp only [after.outcome, Option.map_some, after.env]
              | cancelled after =>
                  simp only [after.statistics, after.env]

end Searches

end OpticalPathPlanner
