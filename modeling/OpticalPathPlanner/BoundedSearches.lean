import OpticalPathPlanner.LabelTables
import OpticalPathPlanner.Routes

/-!
# Searches within their bounds

A search over a label table ends.  Every parent comes before its children, so
parents can be followed from every row; the table and the counters stay within
the bounds of the search; and no row is expanded twice.
-/

namespace OpticalPathPlanner

variable {K E : Type}

/-! ### Rows that stay -/

/-- The rows of a table are rows of a later one, with their labels and parents,
and a row that was expanded still is. -/
def Grows (earlier later : List (LabelRow K)) : Prop :=
  ∀ (index : Nat) (row : LabelRow K), earlier[index]? = some row →
    ∃ grown : LabelRow K, later[index]? = some grown ∧ grown.label = row.label ∧
      grown.parent = row.parent ∧ (row.expanded = true → grown.expanded = true)

theorem Grows.refl (labels : List (LabelRow K)) : Grows labels labels :=
  fun _ row found => ⟨row, found, rfl, rfl, id⟩

theorem Grows.trans {first second third : List (LabelRow K)}
    (left : Grows first second) (right : Grows second third) :
    Grows first third := by
  intro index row found
  obtain ⟨middle, atMiddle, label, parent, expanded⟩ := left index row found
  obtain ⟨last, atLast, sameLabel, sameParent, still⟩ :=
    right index middle atMiddle
  exact ⟨last, atLast, sameLabel.trans label, sameParent.trans parent,
    still ∘ expanded⟩

theorem grows_append (labels more : List (LabelRow K)) :
    Grows labels (labels ++ more) := by
  intro index row found
  have within := (List.getElem?_eq_some_iff.mp found).1
  exact ⟨row, by rw [List.getElem?_append_left within, found], rfl, rfl, id⟩

theorem grows_modify (change : LabelRow K → LabelRow K)
    (label : ∀ row, (change row).label = row.label)
    (parent : ∀ row, (change row).parent = row.parent)
    (expanded : ∀ row, row.expanded = true → (change row).expanded = true)
    (labels : List (LabelRow K)) (place : Nat) :
    Grows labels (labels.modify place change) := by
  intro index row found
  rw [List.getElem?_modify, found]
  by_cases here : place = index
  · exact ⟨change row, by simp [here], label row, parent row, expanded row⟩
  · exact ⟨row, by simp [here], rfl, rfl, id⟩

theorem grows_displace (labels : List (LabelRow K)) (place : Nat) :
    Grows labels (labels.modify place displace) :=
  grows_modify displace (fun _ => rfl) (fun _ => rfl) (fun _ => id) labels place

theorem grows_settleRow (labels : List (LabelRow K)) (place : Nat) :
    Grows labels (labels.modify place settleRow) :=
  grows_modify settleRow (fun _ => rfl) (fun _ => rfl) (fun _ _ => rfl) labels place

theorem Grows.length_le {earlier later : List (LabelRow K)}
    (grows : Grows earlier later) : earlier.length ≤ later.length := by
  by_contra shorter
  rw [Nat.not_le] at shorter
  obtain ⟨_, found, _⟩ := grows later.length _ (List.getElem?_eq_getElem shorter)
  rw [List.getElem?_eq_none le_rfl] at found
  cases found

/-! ### Parents -/

/-- The start row has no parent, and any other parent comes before its row. -/
def InOrder (labels : List (LabelRow K)) : Prop :=
  ∀ (index : Nat) (row : LabelRow K), labels[index]? = some row →
    if row.label.isStart then row.parent = kNoIndex else row.parent.toNat < index

theorem InOrder.of_grows {earlier later : List (LabelRow K)}
    (inOrder : InOrder earlier) (grows : Grows earlier later)
    (length : later.length = earlier.length) : InOrder later := by
  intro index row found
  have within := (List.getElem?_eq_some_iff.mp found).1
  rw [length] at within
  obtain ⟨grown, same, label, parent, _⟩ :=
    grows index _ (List.getElem?_eq_getElem within)
  obtain rfl : grown = row := Option.some.inj (same.symm.trans found)
  rw [label, parent]
  exact inOrder index _ (List.getElem?_eq_getElem within)

theorem InOrder.concat {labels : List (LabelRow K)} {row : LabelRow K}
    (inOrder : InOrder labels)
    (last : if row.label.isStart then row.parent = kNoIndex
      else row.parent.toNat < labels.length) : InOrder (labels ++ [row]) := by
  intro index other found
  rcases Nat.lt_or_ge index labels.length with before | from_
  · rw [List.getElem?_append_left before] at found
    exact inOrder index other found
  · rw [List.getElem?_append_right from_] at found
    obtain ⟨here, rfl⟩ := List.getElem?_eq_some_iff.mp found
    rw [List.length_singleton, Nat.lt_one_iff, Nat.sub_eq_zero_iff_le] at here
    obtain rfl := le_antisymm here from_
    simpa using last

/-- Following parents from a row ends. -/
theorem InOrder.pathFrom_isSome {labels : List (LabelRow K)}
    (inOrder : InOrder labels) {fuel : Nat} {index : UInt32}
    (within : index.toNat < labels.length) (enough : index.toNat < fuel) :
    (pathFrom labels fuel index).isSome := by
  induction fuel generalizing index with
  | zero => omega
  | succ fuel ih =>
      have found := List.getElem?_eq_getElem within
      have placed := inOrder index.toNat _ found
      rw [pathFrom, found]
      by_cases root : labels[index.toNat].parent = kNoIndex
      · simp [root]
      · have earlier : labels[index.toNat].parent.toNat < index.toNat := by
          split at placed
          · exact (root placed).elim
          · exact placed
        have above := ih (earlier.trans within) (by omega)
        obtain ⟨path, follows⟩ := Option.isSome_iff_exists.mp above
        simp [root, follows]

theorem InOrder.pathOf_isSome {labels : List (LabelRow K)}
    (inOrder : InOrder labels) {index : UInt32}
    (within : index.toNat < labels.length) : (pathOf labels index).isSome :=
  inOrder.pathFrom_isSome within within

/-! ### Scanning a bucket -/

variable [LinearOrder K]

/-- Scanning a bucket of rows that are there only displaces some of them. -/
theorem scanRows_isSome {current : Label K} {bucket : List UInt32}
    {labels : List (LabelRow K)}
    (within : ∀ index ∈ bucket, index.toNat < labels.length) :
    ∃ scanned, scanRows current bucket labels = some scanned ∧
      Grows labels scanned.1 ∧ scanned.1.length = labels.length ∧
      ∀ index ∈ scanned.2.2, index ∈ bucket := by
  induction bucket generalizing labels with
  | nil => exact ⟨_, rfl, .refl labels, rfl, fun _ member => member⟩
  | cons other rest ih =>
      obtain ⟨here, others⟩ := List.forall_mem_cons.mp within
      have found := List.getElem?_eq_getElem here
      obtain ⟨scanned, scans, grows, length, kept⟩ := ih others
      rw [scanRows, found]
      by_cases retained : labels[other.toNat].retained = true
      · by_cases dominated : labels[other.toNat].label.dominates current = true
        · refine ⟨(scanned.1, true, other :: scanned.2.2),
            by simp [retained, dominated, scans], grows, length, ?_⟩
          exact List.forall_mem_cons.mpr ⟨List.mem_cons_self ..,
            fun index member => List.mem_cons_of_mem _ (kept index member)⟩
        · by_cases displaces : current.dominates labels[other.toNat].label = true
          · have still : ∀ index ∈ rest, index.toNat <
                (labels.modify other.toNat displace).length := by
              rw [List.length_modify]
              exact others
            obtain ⟨scanned, scans, grows, length, kept⟩ := ih still
            refine ⟨scanned, by simp [retained, dominated, displaces, scans],
              (grows_displace labels other.toNat).trans grows, ?_,
              fun index member => List.mem_cons_of_mem _ (kept index member)⟩
            rw [length, List.length_modify]
          · refine ⟨(scanned.1, scanned.2.1, other :: scanned.2.2),
              by simp [retained, dominated, displaces, scans], grows, length, ?_⟩
            exact List.forall_mem_cons.mpr ⟨List.mem_cons_self ..,
              fun index member => List.mem_cons_of_mem _ (kept index member)⟩
      · exact ⟨scanned, by simp [retained, scans], grows, length,
          fun index member => List.mem_cons_of_mem _ (kept index member)⟩

namespace QueueEntry

theorem mem_push {entry other : QueueEntry} {queue : List QueueEntry} :
    other ∈ push entry queue ↔ other = entry ∨ other ∈ queue := by
  induction queue with
  | nil => rw [push, List.mem_singleton]; simp
  | cons head rest ih =>
      rw [push]
      split
      · rw [List.mem_cons]
      · rw [List.mem_cons, ih, List.mem_cons]
        exact or_left_comm

theorem length_push (entry : QueueEntry) (queue : List QueueEntry) :
    (push entry queue).length = queue.length + 1 := by
  induction queue with
  | nil => rfl
  | cons head rest ih =>
      rw [push]
      split
      · rfl
      · rw [List.length_cons, ih, List.length_cons]

end QueueEntry

/-! ### Rounds -/

/-- The table a round leaves. -/
def TableProgress.table : TableProgress K E → LabelTable K E
  | .running table => table
  | .finished table => table
  | .cancelled table => table

namespace SearchSetup

variable [Field K] {setup : SearchSetup K E} {table next later : LabelTable K E}
  {start final : LabelTable K E} {index : UInt32} {current : Label K}

variable (setup) in
/-- What holds of a table throughout a search: rows in order, indices of rows
that are there, and the bounds of the search. -/
structure SoundTable (table : LabelTable K E) : Prop where
  inOrder : InOrder table.labels
  queued : ∀ entry ∈ table.frontier, entry.label.toNat < table.labels.length
  bucketed : ∀ key, ∀ index ∈ (table.buckets.lookup key).getD [],
    index.toNat < table.labels.length
  reached : ∀ index ∈ table.destinationLabels, index.toNat < table.labels.length
  labels : table.labels.length ≤ max 1 setup.labelLimit
  expansions : table.statistics.labelsExpanded ≤ setup.expansionLimit

/-- Rows that are there stay there. -/
theorem SoundTable.of_grows {labels : List (LabelRow K)}
    (sound : setup.SoundTable table) (grows : Grows table.labels labels)
    (length : labels.length = table.labels.length) :
    setup.SoundTable { table with labels := labels } where
  inOrder := sound.inOrder.of_grows grows length
  queued := by rw [length]; exact sound.queued
  bucketed := by rw [length]; exact sound.bucketed
  reached := by rw [length]; exact sound.reached
  labels := by rw [length]; exact sound.labels
  expansions := sound.expansions

theorem SoundTable.pushLabel {label : Label K} (sound : setup.SoundTable table)
    (notStart : label.isStart = false) (parent : index.toNat < table.labels.length)
    (room : table.labels.length < setup.labelLimit) :
    setup.SoundTable (table.pushLabel label index) := by
  have grown : (table.pushLabel label index).labels.length =
      table.labels.length + 1 := List.length_append
  constructor
  · refine sound.inOrder.concat ?_
    simp [notStart, parent]
  · intro entry member
    rw [grown]
    rcases QueueEntry.mem_push.mp member with rfl | waiting
    · rw [UInt32.toNat_ofNat']
      exact Nat.lt_succ_of_le (Nat.mod_le _ _)
    · exact Nat.lt_succ_of_lt (sound.queued entry waiting)
  · intro key other member
    rw [grown]
    exact Nat.lt_succ_of_lt (sound.bucketed key other member)
  · intro other member
    rw [grown]
    exact Nat.lt_succ_of_lt (sound.reached other member)
  · rw [grown]
    exact le_max_of_le_right room
  · exact sound.expansions

/-- A label behind an arc is not a start label. -/
theorem not_isStart_of_yields {ancestors : List (Label K)} {arc : ArcRef}
    {label : Label K}
    (yielded : (setup.expandArc current ancestors arc).Yields label) :
    label.isStart = false := by
  obtain ⟨kind, place, reversed⟩ := arc
  have step := (SearchContext.yields_expandArc_iff.mp yielded).1
  cases kind with
  | crossConnect =>
      have step : setup.CrossConnectStep current place label := step
      rw [Label.isStart, step.next_eq, SearchContext.operated_arrival]
      rfl
  | span =>
      have step : setup.SpanStep current ⟨place, reversed⟩ label := step
      rw [Label.isStart, step.next_eq]
      rfl

/-- Expanding a row adds a queue entry for each row it adds. -/
theorem SoundTable.expandRow {arcs : List ArcRef} (sound : setup.SoundTable table)
    (within : index.toNat < table.labels.length) :
    ∃ out, setup.expandRow current index arcs table = some out ∧
      setup.SoundTable out ∧ Grows table.labels out.labels ∧
      out.frontier.length + table.labels.length =
        table.frontier.length + out.labels.length ∧
      out.statistics.labelsExpanded = table.statistics.labelsExpanded := by
  induction arcs generalizing table with
  | nil => exact ⟨table, rfl, sound, .refl _, rfl, rfl⟩
  | cons arc rest ih =>
      obtain ⟨path, follows⟩ :=
        Option.isSome_iff_exists.mp (sound.inOrder.pathOf_isSome within)
      rw [SearchSetup.expandRow, follows]
      simp only [Option.bind_eq_bind, Option.bind_some]
      have examinedSound : setup.SoundTable
          (table.examine (setup.expandArc current path.tail arc).notes) :=
        ⟨sound.inOrder, sound.queued, sound.bucketed, sound.reached, sound.labels,
          sound.expansions⟩
      cases yielded : (setup.expandArc current path.tail arc).result with
      | none => exact ih examinedSound within
      | some label =>
          dsimp only
          by_cases full : table.labels.length ≥ setup.labelLimit
          · rw [if_pos full]
            exact ⟨_, rfl, ⟨sound.inOrder, sound.queued, sound.bucketed,
              sound.reached, sound.labels, sound.expansions⟩, .refl _, rfl, rfl⟩
          · rw [if_neg full]
            have grows := grows_append table.labels
              [{ label := label, parent := index, sequence := table.sequence }]
            obtain ⟨out, expands, outSound, more, lengths, expansions⟩ :=
              ih (examinedSound.pushLabel (not_isStart_of_yields yielded) within
                (Nat.lt_of_not_le full)) (within.trans_le grows.length_le)
            refine ⟨out, expands, outSound, grows.trans more, ?_, expansions⟩
            have queue := QueueEntry.length_push
              ⟨label.key, table.sequence, UInt32.ofNat table.labels.length⟩
              table.frontier
            simp only [LabelTable.pushLabel, LabelTable.examine,
              List.length_append, List.length_singleton, queue] at lengths
            omega

/-- Rounds a table can still take: the entries in the queue and the rows that
still fit. -/
def remainingTable (setup : SearchSetup K E) (table : LabelTable K E) : Nat :=
  table.frontier.length + (max 1 setup.labelLimit - table.labels.length)

/-- What one round does: it keeps the table sound and its rows, it uses up one
of the remaining rounds unless it ends the search, and when it counts an
expansion, it is the first one of the row at the head of the queue. -/
structure RoundSound (setup : SearchSetup K E) (entry : QueueEntry)
    (table : LabelTable K E) (progress : TableProgress K E) : Prop where
  sound : setup.SoundTable progress.table
  grows : Grows table.labels progress.table.labels
  uses : ∀ next, progress = .running next →
    setup.remainingTable next = setup.remainingTable table
  expands : progress.table.statistics.labelsExpanded =
      table.statistics.labelsExpanded ∨
    progress.table.statistics.labelsExpanded =
        table.statistics.labelsExpanded + 1 ∧
      (∃ row, table.labels[entry.label.toNat]? = some row ∧ row.expanded = false) ∧
      ∃ row, progress.table.labels[entry.label.toNat]? = some row ∧
        row.expanded = true

theorem SoundTable.keep {driver : SearchDriver E} (sound : setup.SoundTable table)
    (within : index.toNat < table.labels.length)
    (room : table.statistics.labelsExpanded < setup.expansionLimit) :
    setup.SoundTable (table.keep driver current index) := by
  have length : (table.labels.modify index.toNat settleRow).length =
      table.labels.length := List.length_modify ..
  have settled := sound.of_grows (grows_settleRow table.labels index.toNat) length
  refine ⟨settled.inOrder, settled.queued, ?_, settled.reached, settled.labels, room⟩
  intro key other member
  change other.toNat < (table.labels.modify index.toNat settleRow).length
  rw [length]
  by_cases same : key = current.bucket
  · subst same
    rw [LabelTable.keep, AList.lookup_insert, Option.getD_some] at member
    rcases List.mem_append.mp member with earlier | added
    · exact sound.bucketed _ other earlier
    · rw [List.mem_singleton.mp added]
      exact within
  · rw [LabelTable.keep, AList.lookup_insert_ne same] at member
    exact sound.bucketed key other member

theorem SoundTable.afterScan {labels : List (LabelRow K)} {bucket : List UInt32}
    (sound : setup.SoundTable table) (grows : Grows table.labels labels)
    (length : labels.length = table.labels.length)
    (kept : ∀ other ∈ bucket, other ∈ table.bucket current) :
    setup.SoundTable (table.afterScan current labels bucket) := by
  have scanned := sound.of_grows grows length
  refine ⟨scanned.inOrder, scanned.queued, ?_, scanned.reached, scanned.labels,
    scanned.expansions⟩
  intro key other member
  by_cases same : key = current.bucket
  · subst same
    rw [LabelTable.afterScan, AList.lookup_insert, Option.getD_some] at member
    exact scanned.bucketed _ other (kept other member)
  · rw [LabelTable.afterScan, AList.lookup_insert_ne same] at member
    exact scanned.bucketed key other member

variable (current) in
/-- What the search does with a row that it settles for the first time. -/
theorem SoundTable.settleTable {row : LabelRow K} (sound : setup.SoundTable table)
    (found : table.labels[index.toNat]? = some row)
    (room : table.statistics.labelsExpanded < setup.expansionLimit) :
    ∃ progress, setup.settleTable current index
        (table.keep setup.driver current index) = some progress ∧
      setup.SoundTable progress.table ∧ Grows table.labels progress.table.labels ∧
      (∀ next, progress = .running next →
        setup.remainingTable next = setup.remainingTable table) ∧
      progress.table.statistics.labelsExpanded =
        table.statistics.labelsExpanded + 1 ∧
      ∃ settled, progress.table.labels[index.toNat]? = some settled ∧
        settled.expanded = true := by
  have within := (List.getElem?_eq_some_iff.mp found).1
  have keptSound : setup.SoundTable (table.keep setup.driver current index) :=
    sound.keep within room
  have grows : Grows table.labels (table.keep setup.driver current index).labels :=
    grows_settleRow table.labels index.toNat
  have length : (table.keep setup.driver current index).labels.length =
      table.labels.length := List.length_modify ..
  have settled : (table.keep setup.driver current index).labels[index.toNat]? =
      some (settleRow row) := by
    simp [LabelTable.keep, found]
  have counted : (table.keep setup.driver current index).statistics.labelsExpanded =
      table.statistics.labelsExpanded + 1 := rfl
  have waiting : (table.keep setup.driver current index).frontier =
      table.frontier := rfl
  generalize table.keep setup.driver current index = kept at *
  rw [SearchSetup.settleTable]
  by_cases arrived : current.portIndex = setup.destinationPort
  · rw [if_pos arrived]
    refine ⟨_, rfl, ⟨keptSound.inOrder, keptSound.queued, keptSound.bucketed, ?_,
      keptSound.labels, keptSound.expansions⟩, grows, ?_, counted, _, settled, rfl⟩
    · intro other member
      rcases List.mem_append.mp member with earlier | added
      · exact keptSound.reached other earlier
      · rw [List.mem_singleton.mp added]
        exact within.trans_eq length.symm
    · rintro next ⟨⟩
      change kept.frontier.length + (_ - kept.labels.length) = _
      rw [waiting, length]
      rfl
  · rw [if_neg arrived]
    obtain ⟨out, expands, outSound, more, lengths, expansions⟩ :=
      keptSound.expandRow (within.trans_eq length.symm)
    obtain ⟨last, atLast, _, _, still⟩ := more index.toNat _ settled
    rw [expands]
    refine ⟨if out.truncated then .finished out else .running out, rfl, ?_⟩
    have left : (if out.truncated then TableProgress.finished out
        else .running out).table = out := by
      split <;> rfl
    rw [left, expansions]
    refine ⟨outSound, grows.trans more, ?_, counted, last, atLast, still rfl⟩
    intro next running
    have bounded := outSound.labels
    have longer := more.length_le
    have same : out = next := by
      split at running
      · cases running
      · exact TableProgress.running.inj running
    subst same
    rw [waiting, length] at lengths
    rw [length] at longer
    rw [remainingTable, remainingTable]
    omega

theorem SoundTable.visitRow {entry : QueueEntry} (sound : setup.SoundTable table)
    (within : entry.label.toNat < table.labels.length)
    (room : table.statistics.labelsExpanded < setup.expansionLimit) :
    ∃ progress, setup.visitRow entry table = some progress ∧
      RoundSound setup entry table progress := by
  have found := List.getElem?_eq_getElem within
  generalize table.labels[entry.label.toNat] = row at found
  rw [SearchSetup.visitRow, found]
  simp only [Option.bind_eq_bind, Option.bind_some, Option.pure_def]
  by_cases expanded : row.expanded = true
  · rw [if_pos expanded]
    exact ⟨_, rfl, sound, .refl _, fun _ same => by cases same; rfl, .inl rfl⟩
  rw [if_neg expanded]
  by_cases stops : table.stopsOnKey setup.request.maxCandidates entry = true
  · rw [if_pos stops]
    exact ⟨_, rfl, ⟨sound.inOrder, sound.queued, sound.bucketed, sound.reached,
      sound.labels, sound.expansions⟩, .refl _, nofun, .inl rfl⟩
  rw [if_neg stops]
  obtain ⟨scanned, scans, grows, length, kept⟩ :
      ∃ scanned, scanRows row.label (table.bucket row.label) table.labels =
          some scanned ∧ Grows table.labels scanned.1 ∧
        scanned.1.length = table.labels.length ∧
        ∀ index ∈ scanned.2.2, index ∈ table.bucket row.label :=
    scanRows_isSome (sound.bucketed row.label.bucket)
  have afterSound := sound.afterScan grows length kept
  rw [scans]
  simp only [Option.bind_some]
  have sameLength : (table.afterScan row.label scanned.1 scanned.2.2).labels.length =
      table.labels.length := length
  by_cases dominated : scanned.2.1 = true
  · rw [if_pos dominated]
    refine ⟨_, rfl, ⟨afterSound.inOrder, afterSound.queued, afterSound.bucketed,
      afterSound.reached, afterSound.labels, afterSound.expansions⟩, grows, ?_,
      .inl rfl⟩
    rintro next ⟨⟩
    change table.frontier.length + (_ - scanned.1.length) = _
    rw [length]
    rfl
  · rw [if_neg dominated]
    obtain ⟨still, atStill, _, _, _⟩ := grows entry.label.toNat row found
    obtain ⟨progress, settles, settledSound, more, uses, counted, settled⟩ :=
      afterSound.settleTable row.label atStill room
    refine ⟨progress, settles, settledSound, grows.trans more, ?_, .inr
      ⟨counted, ⟨row, found, by simpa using expanded⟩, settled⟩⟩
    intro next running
    rw [uses next running, remainingTable, remainingTable, sameLength]
    rfl

theorem SoundTable.roundTable {entry : QueueEntry} {rest : List QueueEntry}
    (sound : setup.SoundTable table) (first : table.frontier = entry :: rest) :
    ∃ progress, setup.roundTable table = some progress ∧
      setup.SoundTable progress.table ∧ Grows table.labels progress.table.labels ∧
      (∀ next, progress = .running next →
        setup.remainingTable next + 1 = setup.remainingTable table) ∧
      (progress.table.statistics.labelsExpanded =
          table.statistics.labelsExpanded ∨
        progress.table.statistics.labelsExpanded =
            table.statistics.labelsExpanded + 1 ∧
          (∃ row, table.labels[entry.label.toNat]? = some row ∧
            row.expanded = false) ∧
          ∃ row, progress.table.labels[entry.label.toNat]? = some row ∧
            row.expanded = true) := by
  have queued := sound.queued
  rw [first] at queued
  obtain ⟨within, others⟩ := List.forall_mem_cons.mp queued
  rw [SearchSetup.roundTable, first]
  dsimp only
  by_cases requested : (setup.driver.isRequested table.env).1 = true
  · rw [if_pos requested]
    exact ⟨_, rfl, ⟨sound.inOrder, queued, sound.bucketed, sound.reached,
      sound.labels, sound.expansions⟩, .refl _, nofun, .inl rfl⟩
  rw [if_neg requested]
  by_cases full : table.statistics.labelsExpanded ≥ setup.expansionLimit
  · rw [if_pos full]
    exact ⟨_, rfl, ⟨sound.inOrder, queued, sound.bucketed, sound.reached,
      sound.labels, sound.expansions⟩, .refl _, nofun, .inl rfl⟩
  rw [if_neg full]
  have popped : setup.SoundTable { table with
      env := (setup.driver.isRequested table.env).2, frontier := rest } :=
    ⟨sound.inOrder, others, sound.bucketed, sound.reached, sound.labels,
      sound.expansions⟩
  obtain ⟨progress, visits, visited⟩ :=
    popped.visitRow within (Nat.lt_of_not_le full)
  refine ⟨progress, visits, visited.sound, visited.grows, ?_, visited.expands⟩
  intro next running
  rw [visited.uses next running]
  change rest.length + (max 1 setup.labelLimit - table.labels.length) + 1 = _
  rw [remainingTable, first, List.length_cons]
  omega

/-! ### Runs -/

variable (setup start) in
/-- The tables at the head of the main loop. -/
inductive ReachesTable : LabelTable K E → Prop
  | start : ReachesTable start
  | round {table next : LabelTable K E} (before : ReachesTable table)
      (progress : setup.roundTable table = some (.running next)) :
      ReachesTable next

variable (setup) in
/-- The next round takes this row from the queue and counts its expansion. -/
def Expands (table : LabelTable K E) (index : UInt32) : Prop :=
  ∃ entry rest progress, table.frontier = entry :: rest ∧ entry.label = index ∧
    setup.roundTable table = some progress ∧
    progress.table.statistics.labelsExpanded =
      table.statistics.labelsExpanded + 1

theorem SoundTable.round_isSome (sound : setup.SoundTable table) :
    ∃ progress, setup.roundTable table = some progress ∧
      setup.SoundTable progress.table ∧
      Grows table.labels progress.table.labels := by
  cases first : table.frontier with
  | nil =>
      refine ⟨.finished table, ?_, sound, .refl _⟩
      rw [SearchSetup.roundTable, first]
  | cons entry rest =>
      obtain ⟨progress, rounds, after, grows, _⟩ := sound.roundTable first
      exact ⟨progress, rounds, after, grows⟩

theorem SoundTable.reaches (sound : setup.SoundTable start)
    (reached : setup.ReachesTable start table) :
    setup.SoundTable table ∧ Grows start.labels table.labels := by
  induction reached with
  | start => exact ⟨sound, .refl _⟩
  | @round table next _ progress ih =>
      obtain ⟨other, rounds, after, grows⟩ := ih.1.round_isSome
      obtain rfl := Option.some.inj (progress.symm.trans rounds)
      exact ⟨after, ih.2.trans grows⟩

/-- A row that was expanded is not expanded again. -/
theorem SoundTable.not_expands_again (sound : setup.SoundTable table)
    (expands : setup.Expands table index)
    (progress : setup.roundTable table = some (.running next))
    (reached : setup.ReachesTable next later) : ¬ setup.Expands later index := by
  obtain ⟨entry, rest, ended, first, rfl, rounds, counted⟩ := expands
  obtain ⟨other, same, after, _, _, effect⟩ := sound.roundTable first
  obtain rfl := Option.some.inj (rounds.symm.trans same)
  obtain rfl := Option.some.inj (progress.symm.trans rounds)
  obtain unchanged | ⟨_, _, row, atRow, expanded⟩ := effect
  · omega
  obtain ⟨laterSound, grows⟩ := SoundTable.reaches after reached
  obtain ⟨grown, atGrown, _, _, still⟩ := grows entry.label.toNat row atRow
  rintro ⟨again, _, ending, firstAgain, sameIndex, roundsAgain, countedAgain⟩
  obtain ⟨_, sameAgain, _, _, _, effectAgain⟩ := laterSound.roundTable firstAgain
  obtain rfl := Option.some.inj (roundsAgain.symm.trans sameAgain)
  obtain unchanged | ⟨_, ⟨fresh, atFresh, notExpanded⟩, _⟩ := effectAgain
  · omega
  rw [sameIndex, atGrown] at atFresh
  obtain rfl := Option.some.inj atFresh
  rw [still expanded] at notExpanded
  cases notExpanded

/-- With more rounds than a table can still take, the main loop ends. -/
theorem SoundTable.rounds_end (sound : setup.SoundTable table) {fuel : Nat}
    (enough : setup.remainingTable table < fuel) :
    ∃ final, setup.SoundTable final ∧
      (setup.roundsTable fuel table = some (.finished final) ∨
        setup.roundsTable fuel table = some (.cancelled final)) := by
  induction fuel generalizing table with
  | zero => omega
  | succ fuel ih =>
      rw [SearchSetup.roundsTable]
      cases first : table.frontier with
      | nil =>
          have rounds : setup.roundTable table = some (.finished table) := by
            rw [SearchSetup.roundTable, first]
          rw [rounds]
          exact ⟨table, sound, .inl rfl⟩
      | cons entry rest =>
          obtain ⟨progress, rounds, after, _, uses, _⟩ := sound.roundTable first
          rw [rounds]
          cases progress with
          | running next =>
              have fewer := uses next rfl
              exact ih after (by omega)
          | finished final => exact ⟨final, after, .inl rfl⟩
          | cancelled final => exact ⟨final, after, .inr rfl⟩

theorem sound_startTable {startPort : Nat} {env : E}
    (started : setup.startTable startPort env = some start) :
    setup.SoundTable start ∧ setup.remainingTable start < setup.fuel := by
  obtain ⟨label, yielded, rfl⟩ := Option.map_eq_some_iff.mp started
  have begins := SearchContext.yields_startLabel_iff.mp yielded
  have isStart : label.isStart = true := by rw [begins.label_eq]; rfl
  refine ⟨⟨?_, ?_, ?_, ?_, le_max_left .., Nat.zero_le _⟩, ?_⟩
  · intro index row found
    obtain ⟨here, rfl⟩ := List.getElem?_eq_some_iff.mp found
    have first : index = 0 := Nat.lt_one_iff.mp here
    subst first
    change if label.isStart then kNoIndex = kNoIndex else _
    rw [if_pos isStart]
  · intro entry member
    obtain rfl := List.mem_singleton.mp member
    exact Nat.zero_lt_one
  · intro key index member
    cases member
  · intro index member
    cases member
  · change 1 + (max 1 setup.labelLimit - 1) < max 1 setup.labelLimit + 1
    omega

end SearchSetup

theorem isSome_mapM {α β : Type} {f : α → Option β} {values : List α}
    (each : ∀ value ∈ values, (f value).isSome) : (values.mapM f).isSome := by
  induction values with
  | nil => rfl
  | cons value rest ih =>
      obtain ⟨here, others⟩ := List.forall_mem_cons.mp each
      obtain ⟨image, applied⟩ := Option.isSome_iff_exists.mp here
      obtain ⟨images, mapped⟩ := Option.isSome_iff_exists.mp (ih others)
      simp [List.mapM_cons, applied, mapped]

variable [Field K]

/-- Reading the destination paths off a sound table ends. -/
theorem SearchSetup.SoundTable.outcome_isSome {setup : SearchSetup K E}
    {table : LabelTable K E} (sound : setup.SoundTable table)
    (coverageComplete : Bool) : (table.outcome coverageComplete).isSome := by
  have paths : (table.destinationLabels.mapM table.rawPathAt).isSome := by
    refine isSome_mapM ?_
    intro index member
    have within := sound.reached index member
    obtain ⟨path, follows⟩ :=
      Option.isSome_iff_exists.mp (sound.inOrder.pathOf_isSome within)
    rw [LabelTable.rawPathAt, List.getElem?_eq_getElem within]
    by_cases retained : table.labels[index.toNat].retained = true
    · simp [retained, follows]
    · simp [retained]
  obtain ⟨listed, reads⟩ := Option.isSome_iff_exists.mp paths
  simp [LabelTable.outcome, LabelTable.paths, reads]

/-- What the bounds of a search mean for a table: parents come before their
children, so a path can be followed back from every row, and the counts stay
within their limits. -/
structure WithinBounds (setup : SearchSetup K E) (table : LabelTable K E) :
    Prop where
  parents : ∀ (index : Nat) (row : LabelRow K), table.labels[index]? = some row →
    row.label.isStart = false → row.parent.toNat < index
  paths : ∀ index : UInt32, index.toNat < table.labels.length →
    (pathOf table.labels index).isSome
  labels : table.labels.length ≤ max 1 setup.labelLimit
  expansions : table.statistics.labelsExpanded ≤ setup.expansionLimit

theorem SearchSetup.SoundTable.withinBounds {setup : SearchSetup K E}
    {table : LabelTable K E} (sound : setup.SoundTable table) :
    WithinBounds setup table where
  parents index row found notStart := by
    have placed := sound.inOrder index row found
    rwa [notStart, if_neg Bool.false_ne_true] at placed
  paths _ within := sound.inOrder.pathOf_isSome within
  labels := sound.labels
  expansions := sound.expansions

section Search

variable {runtime : Runtime K} {snapshot : TopologySnapshot K}
  {request : PlanningRequest K} {options : PlannerOptions}
  {driver : SearchDriver E} {env : E}

variable (options driver) in
theorem soundTable_search {startPort : Nat} {start : LabelTable K E}
    (destinationPort : Nat)
    (started : (searchContext runtime snapshot request).startTable startPort env =
      some start) :
    (searchSetup runtime snapshot request options driver
        destinationPort).SoundTable start ∧
      (searchSetup runtime snapshot request options driver
        destinationPort).remainingTable start <
        (searchSetup runtime snapshot request options driver
          destinationPort).fuel :=
  SearchSetup.sound_startTable started

variable (runtime snapshot request options driver env) in
theorem runTableSearch_isSome :
    (runTableSearch runtime snapshot request options driver env).isSome := by
  cases source : snapshot.portIndex request.source with
  | none => simp [runTableSearch, source]
  | some startPort =>
      cases destination : snapshot.portIndex request.destination with
      | none => simp [runTableSearch, source, destination]
      | some destinationPort =>
          cases started :
              (searchContext runtime snapshot request).startTable startPort env with
          | none => simp [runTableSearch, source, destination, started]
          | some start =>
              obtain ⟨sound, enough⟩ := soundTable_search options driver
                destinationPort started
              obtain ⟨final, finalSound, ended | ended⟩ := sound.rounds_end enough
              · simp [runTableSearch, source, destination, started, ended,
                  finalSound.outcome_isSome]
              · simp [runTableSearch, source, destination, started, ended]

variable (runtime snapshot request options driver env) in
/-- Every search ends with an outcome.  At the head of each round, and after
it, the table is within the bounds of the search, and a row that a round
expands is not expanded by a later round. -/
theorem search_bounded :
    (runTableSearch runtime snapshot request options driver env).isSome ∧
      ∀ startPort destinationPort start,
        (searchContext runtime snapshot request).startTable startPort env =
          some start →
        ∀ table, (searchSetup runtime snapshot request options driver
            destinationPort).ReachesTable start table →
          WithinBounds (searchSetup runtime snapshot request options driver
              destinationPort) table ∧
            ∃ progress, (searchSetup runtime snapshot request options driver
                destinationPort).roundTable table = some progress ∧
              WithinBounds (searchSetup runtime snapshot request options driver
                destinationPort) progress.table ∧
              ∀ index, (searchSetup runtime snapshot request options driver
                  destinationPort).Expands table index →
                ∀ next, progress = .running next → ∀ later,
                  (searchSetup runtime snapshot request options driver
                    destinationPort).ReachesTable next later →
                  ¬ (searchSetup runtime snapshot request options driver
                    destinationPort).Expands later index := by
  refine ⟨runTableSearch_isSome runtime snapshot request options driver env, ?_⟩
  intro startPort destinationPort start started table reached
  obtain ⟨startSound, _⟩ := soundTable_search options driver destinationPort started
  have sound := (startSound.reaches reached).1
  obtain ⟨progress, rounds, after, _⟩ := sound.round_isSome
  refine ⟨sound.withinBounds, progress, rounds, after.withinBounds, ?_⟩
  rintro index expands next rfl later reachedLater
  exact sound.not_expands_again expands rounds reachedLater

end Search

end OpticalPathPlanner
