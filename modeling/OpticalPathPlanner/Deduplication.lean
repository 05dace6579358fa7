import OpticalPathPlanner.SnapshotInvariants
import Mathlib

/-!
# Sorting and collapsing neighbours

Records are sorted by their place and neighbours with one key are collapsed
onto the first.  What comes out is described without the order the records
came in: which keys stay unique, which keys are reported as conflicting and
which records are kept.  The place of a record decides its key, but the key
need not decide the place.
-/

namespace OpticalPathPlanner

open SortedRanges

section Collapse

variable {Record Key Place : Type} [LinearOrder Place]
  (placeOf : Record → Place) (keyOf : Record → Key)

/-- No record of another key sorts between two records of one key. -/
def Grouped (records : List Record) : Prop :=
  ∀ first ∈ records, ∀ middle ∈ records, ∀ last ∈ records,
    keyOf first = keyOf last → placeOf first ≤ placeOf middle →
      placeOf middle ≤ placeOf last → keyOf middle = keyOf first

/-- Two different records have the key. -/
def Disagree (records : List Record) (key : Key) : Prop :=
  ∃ first ∈ records, ∃ second ∈ records,
    keyOf first = key ∧ keyOf second = key ∧ first ≠ second

/-- Two different records have the key, and nothing of another key sorts
between them. -/
def DisagreeInRun (records : List Record) (key : Key) : Prop :=
  ∃ first ∈ records, ∃ second ∈ records,
    keyOf first = key ∧ keyOf second = key ∧ first ≠ second ∧
      placeOf first ≤ placeOf second ∧
      ∀ middle ∈ records, placeOf first ≤ placeOf middle →
        placeOf middle ≤ placeOf second → keyOf middle = key

/-- Every earlier record of the key is cut off by a record of another key. -/
def StartsRun (records : List Record) (record : Record) : Prop :=
  ∀ earlier ∈ records, keyOf earlier = keyOf record →
    placeOf earlier < placeOf record →
      ∃ between ∈ records, placeOf earlier < placeOf between ∧
        placeOf between < placeOf record ∧ keyOf between ≠ keyOf record

variable {placeOf keyOf}

theorem Grouped.subset {records fewer : List Record}
    (grouped : Grouped placeOf keyOf records) (fewerIn : fewer ⊆ records) :
    Grouped placeOf keyOf fewer :=
  fun first inFirst middle inMiddle last inLast =>
    grouped first (fewerIn inFirst) middle (fewerIn inMiddle) last
      (fewerIn inLast)

/-- In grouped records a disagreement is always within a run. -/
theorem Grouped.disagreeInRun_iff {records : List Record}
    (grouped : Grouped placeOf keyOf records) {key : Key} :
    DisagreeInRun placeOf keyOf records key ↔ Disagree keyOf records key := by
  constructor
  · rintro ⟨first, inFirst, second, inSecond, firstKey, secondKey, differ, _⟩
    exact ⟨first, inFirst, second, inSecond, firstKey, secondKey, differ⟩
  · rintro ⟨first, inFirst, second, inSecond, rfl, secondKey, differ⟩
    rcases le_total (placeOf first) (placeOf second) with order | order
    · exact ⟨first, inFirst, second, inSecond, rfl, secondKey, differ, order,
        fun middle inMiddle => grouped first inFirst middle inMiddle second
          inSecond secondKey.symm⟩
    · refine ⟨second, inSecond, first, inFirst, secondKey, rfl, differ.symm,
        order, fun middle inMiddle low high => ?_⟩
      exact (grouped second inSecond middle inMiddle first inFirst secondKey low
        high).trans secondKey

variable [DecidableEq Record] [DecidableEq Key]

theorem collapse_snd_cons (last record : Record) (rest : List Record) :
    (collapse keyOf (some last) (record :: rest)).2 =
      if keyOf last = keyOf record then
        if last = record then (collapse keyOf (some last) rest).2
        else record :: (collapse keyOf (some last) rest).2
      else (collapse keyOf (some record) rest).2 := by
  by_cases same : keyOf last = keyOf record
  · rw [if_pos same]
    simp only [collapse, same, if_true]
  · rw [if_neg same]
    simp only [collapse, same, if_false]

/-- Collapsing loses no key. -/
theorem mem_keys_collapse {last : Record} {records : List Record} {key : Key} :
    key ∈ (last :: (collapse keyOf (some last) records).1).map keyOf ↔
      key ∈ (last :: records).map keyOf := by
  induction records generalizing last with
  | nil => rfl
  | cons record rest ih =>
      rw [collapse_some_cons]
      split_ifs with same
      · rw [ih]
        simp only [List.map_cons, List.mem_cons, same]
        tauto
      · have later := @ih record
        simp only [List.map_cons, List.mem_cons] at later ⊢
        rw [later]

omit [DecidableEq Record] [DecidableEq Key] in
theorem DisagreeInRun.congr {records others : List Record} {key : Key}
    (same : ∀ record, record ∈ records ↔ record ∈ others) :
    DisagreeInRun placeOf keyOf records key ↔
      DisagreeInRun placeOf keyOf others key := by
  simp only [DisagreeInRun, same]

section Sorted

variable (factors : ∀ first second,
  placeOf first = placeOf second → keyOf first = keyOf second)

include factors

omit [DecidableEq Record] [DecidableEq Key] in
/-- A record of another key that sorts before all records of the key does not
matter to it. -/
theorem disagreeInRun_cons_iff {record : Record} {records : List Record}
    {key : Key} (other : keyOf record ≠ key)
    (before : ∀ later ∈ records, keyOf later = key →
      placeOf record ≤ placeOf later) :
    DisagreeInRun placeOf keyOf (record :: records) key ↔
      DisagreeInRun placeOf keyOf records key := by
  have inRest {member : Record} (listed : member ∈ record :: records)
      (memberKey : keyOf member = key) : member ∈ records := by
    rcases List.mem_cons.mp listed with rfl | later
    · exact (other memberKey).elim
    · exact later
  constructor
  · rintro ⟨first, inFirst, second, inSecond, firstKey, secondKey, differ,
      order, run⟩
    exact ⟨first, inRest inFirst firstKey, second, inRest inSecond secondKey,
      firstKey, secondKey, differ, order, fun middle inMiddle =>
        run middle (List.mem_cons_of_mem _ inMiddle)⟩
  · rintro ⟨first, inFirst, second, inSecond, firstKey, secondKey, differ,
      order, run⟩
    refine ⟨first, List.mem_cons_of_mem _ inFirst, second,
      List.mem_cons_of_mem _ inSecond, firstKey, secondKey, differ, order,
      fun middle inMiddle low high => ?_⟩
    rcases List.mem_cons.mp inMiddle with rfl | later
    · exact (factors _ _ (le_antisymm (before first inFirst firstKey) low)).trans
        firstKey
    · exact run middle later low high

omit [DecidableEq Record] [DecidableEq Key] in
/-- A record of the key before it leaves the groups as they are: it stands where
that one does, up to its key. -/
theorem grouped_cons_same_iff {last record : Record} {rest : List Record}
    (sorted : (last :: record :: rest).Pairwise fun first second =>
      placeOf first ≤ placeOf second)
    (same : keyOf last = keyOf record) :
    Grouped placeOf keyOf (last :: record :: rest) ↔
      Grouped placeOf keyOf (last :: rest) := by
  obtain ⟨above, restSorted⟩ := List.pairwise_cons.mp sorted
  have recordAbove := above record (List.mem_cons_self ..)
  have restAbove := (List.pairwise_cons.mp restSorted).1
  refine ⟨fun grouped => grouped.subset ?_, fun grouped => ?_⟩
  · intro other member
    simp only [List.mem_cons] at member ⊢
    tauto
  · intro first inFirst middle inMiddle final inFinal sameKey low high
    have near {other : Record} (inOther : other ∈ last :: record :: rest)
        (below : placeOf other ≤ placeOf record) : keyOf other = keyOf last := by
      rcases List.mem_cons.mp inOther with rfl | later
      · rfl
      · rcases List.mem_cons.mp later with rfl | later
        · exact same.symm
        · exact (factors _ _ (le_antisymm below
            (restAbove other later))).trans same.symm
    have widen {other : Record} (inOther : other ∈ last :: record :: rest)
        (notRecord : other ≠ record) : other ∈ last :: rest := by
      simp only [List.mem_cons] at inOther ⊢
      tauto
    by_cases middleLow : placeOf middle ≤ placeOf record
    · rw [near inMiddle middleLow, near inFirst (low.trans middleLow)]
    · have middleIn := widen inMiddle (by rintro rfl; exact middleLow le_rfl)
      have finalIn := widen inFinal (by rintro rfl; exact middleLow high)
      by_cases isRecord : first = record
      · subst isRecord
        rw [← same] at sameKey ⊢
        exact grouped last (List.mem_cons_self ..) middle middleIn final finalIn
          sameKey (recordAbove.trans low) high
      · exact grouped first (widen inFirst isRecord) middle middleIn final finalIn
          sameKey low high

omit [DecidableEq Record] [DecidableEq Key] in
/-- A record of another key starts a group, and the key before it is not met
again. -/
theorem grouped_cons_other_iff {last record : Record} {rest : List Record}
    (sorted : (last :: record :: rest).Pairwise fun first second =>
      placeOf first ≤ placeOf second)
    (differ : keyOf last ≠ keyOf record) :
    Grouped placeOf keyOf (last :: record :: rest) ↔
      keyOf last ∉ (record :: rest).map keyOf ∧
        Grouped placeOf keyOf (record :: rest) := by
  obtain ⟨above, restSorted⟩ := List.pairwise_cons.mp sorted
  have recordAbove := above record (List.mem_cons_self ..)
  have recordBelow {other : Record} (inOther : other ∈ record :: rest) :
      placeOf record ≤ placeOf other := by
    rcases List.mem_cons.mp inOther with rfl | later
    · exact le_rfl
    · exact (List.pairwise_cons.mp restSorted).1 other later
  constructor
  · intro grouped
    refine ⟨fun repeated => ?_, grouped.subset (List.subset_cons_self ..)⟩
    obtain ⟨other, inOther, sameKey⟩ := List.mem_map.mp repeated
    exact differ (grouped last (List.mem_cons_self ..) record (by simp) other
      (List.mem_cons_of_mem _ inOther) sameKey.symm recordAbove
      (recordBelow inOther)).symm
  · rintro ⟨fresh, grouped⟩ first inFirst middle inMiddle final inFinal sameKey
      low high
    have absent {other : Record} (inOther : other ∈ record :: rest) :
        keyOf other ≠ keyOf last := fun sameAsLast =>
      fresh (List.mem_map.mpr ⟨other, inOther, sameAsLast⟩)
    rcases List.mem_cons.mp inFirst with rfl | firstLater
    · rcases List.mem_cons.mp inFinal with rfl | finalLater
      · exact factors _ _ (le_antisymm high low)
      · exact (absent finalLater sameKey.symm).elim
    · rcases List.mem_cons.mp inFinal with rfl | finalLater
      · exact (absent firstLater sameKey).elim
      · rcases List.mem_cons.mp inMiddle with rfl | middleLater
        · have place := le_antisymm recordAbove
            ((recordBelow firstLater).trans low)
          exact (differ (factors _ _ place)).elim
        · exact grouped first firstLater middle middleLater final finalLater
            sameKey low high

/-- The keys that are kept are unique exactly when the records are grouped. -/
theorem nodup_collapse_iff {last : Record} {records : List Record}
    (sorted : (last :: records).Pairwise fun first second =>
      placeOf first ≤ placeOf second) :
    ((last :: (collapse keyOf (some last) records).1).map keyOf).Nodup ↔
      Grouped placeOf keyOf (last :: records) := by
  induction records generalizing last with
  | nil =>
      refine ⟨fun _ first inFirst middle inMiddle _ _ _ _ _ => ?_,
        fun _ => List.nodup_singleton _⟩
      rw [List.mem_singleton.mp inFirst, List.mem_singleton.mp inMiddle]
  | cons record rest ih =>
      rw [collapse_some_cons]
      split_ifs with same
      · have without : (last :: rest).Pairwise fun first second =>
            placeOf first ≤ placeOf second :=
          sorted.sublist (.cons_cons last (List.sublist_cons_self record rest))
        rw [ih without, grouped_cons_same_iff factors sorted same]
      · rw [List.map_cons, List.nodup_cons, ih (List.pairwise_cons.mp sorted).2,
          mem_keys_collapse, grouped_cons_other_iff factors sorted same]

omit [DecidableEq Record] [DecidableEq Key] in
/-- A record of the key before it does not matter to other keys. -/
theorem disagreeInRun_cons_same_iff {last record : Record} {rest : List Record}
    {key : Key} (sorted : (last :: record :: rest).Pairwise fun first second =>
      placeOf first ≤ placeOf second)
    (same : keyOf last = keyOf record) (notKey : keyOf last ≠ key) :
    DisagreeInRun placeOf keyOf (last :: record :: rest) key ↔
      DisagreeInRun placeOf keyOf (last :: rest) key := by
  have swapped : DisagreeInRun placeOf keyOf (last :: record :: rest) key ↔
      DisagreeInRun placeOf keyOf (record :: last :: rest) key :=
    DisagreeInRun.congr fun other => by
      simp only [List.mem_cons]
      tauto
  rw [swapped]
  refine disagreeInRun_cons_iff factors (same ▸ notKey) fun other inOther otherKey => ?_
  rcases List.mem_cons.mp inOther with rfl | later
  · exact (notKey otherKey).elim
  · exact (List.pairwise_cons.mp (List.pairwise_cons.mp sorted).2).1 other later

omit [DecidableEq Record] [DecidableEq Key] in
/-- A record in front of a record of another key is in no run with a later
one. -/
theorem disagreeInRun_cons_other_iff {last record : Record} {rest : List Record}
    {key : Key} (sorted : (last :: record :: rest).Pairwise fun first second =>
      placeOf first ≤ placeOf second)
    (differ : keyOf last ≠ keyOf record) :
    DisagreeInRun placeOf keyOf (last :: record :: rest) key ↔
      DisagreeInRun placeOf keyOf (record :: rest) key := by
  obtain ⟨above, restSorted⟩ := List.pairwise_cons.mp sorted
  have recordAbove := above record (List.mem_cons_self ..)
  have recordBelow {other : Record} (inOther : other ∈ record :: rest) :
      placeOf record ≤ placeOf other := by
    rcases List.mem_cons.mp inOther with rfl | later
    · exact le_rfl
    · exact (List.pairwise_cons.mp restSorted).1 other later
  by_cases isKey : keyOf last = key
  · constructor
    · rintro ⟨first, inFirst, second, inSecond, firstKey, secondKey, disagree,
        order, run⟩
      have recordKey : keyOf record ≠ key := fun recordKey =>
        differ (isKey.trans recordKey.symm)
      have notCut : ¬ (placeOf first ≤ placeOf record ∧
          placeOf record ≤ placeOf second) := fun cut =>
        recordKey (run record (by simp) cut.1 cut.2)
      rcases List.mem_cons.mp inFirst with rfl | firstLater
      · rcases List.mem_cons.mp inSecond with rfl | secondLater
        · exact (disagree rfl).elim
        · exact (notCut ⟨recordAbove, recordBelow secondLater⟩).elim
      · rcases List.mem_cons.mp inSecond with rfl | secondLater
        · have place := le_antisymm recordAbove ((recordBelow firstLater).trans order)
          exact (differ (factors _ _ place)).elim
        · exact ⟨first, firstLater, second, secondLater, firstKey, secondKey,
            disagree, order, fun middle inMiddle =>
              run middle (List.mem_cons_of_mem _ inMiddle)⟩
    · rintro ⟨first, inFirst, second, inSecond, firstKey, secondKey, disagree,
        order, run⟩
      exact ⟨first, List.mem_cons_of_mem _ inFirst, second,
        List.mem_cons_of_mem _ inSecond, firstKey, secondKey, disagree, order,
        fun middle inMiddle low high => by
          rcases List.mem_cons.mp inMiddle with rfl | later
          · exact isKey
          · exact run middle later low high⟩
  · rw [disagreeInRun_cons_iff factors isKey]
    intro other inOther _
    exact recordAbove.trans (recordBelow inOther)

/-- A key is reported exactly when a run of it holds different records. -/
theorem conflict_collapse_iff {last : Record} {records : List Record}
    {key : Key}
    (sorted : (last :: records).Pairwise fun first second =>
      placeOf first ≤ placeOf second) :
    (∃ record ∈ (collapse keyOf (some last) records).2, keyOf record = key) ↔
      DisagreeInRun placeOf keyOf (last :: records) key := by
  induction records generalizing last with
  | nil =>
      constructor
      · rintro ⟨record, member, _⟩
        cases member
      · rintro ⟨first, inFirst, second, inSecond, _, _, differ, _⟩
        exact (differ ((List.mem_singleton.mp inFirst).trans
          (List.mem_singleton.mp inSecond).symm)).elim
  | cons record rest ih =>
      obtain ⟨above, restSorted⟩ := List.pairwise_cons.mp sorted
      have recordAbove := above record (List.mem_cons_self ..)
      rw [collapse_snd_cons]
      split_ifs with same equal
      · subst equal
        rw [ih restSorted]
        exact DisagreeInRun.congr (by simp)
      · have without : (last :: rest).Pairwise fun first second =>
            placeOf first ≤ placeOf second :=
          sorted.sublist (.cons_cons last (List.sublist_cons_self record rest))
        by_cases isKey : keyOf last = key
        · refine iff_of_true
            ⟨record, List.mem_cons_self .., same.symm.trans isKey⟩
            ⟨last, by simp, record, by simp, isKey, same.symm.trans isKey, equal,
              recordAbove, fun middle inMiddle _ high => ?_⟩
          rcases List.mem_cons.mp inMiddle with rfl | later
          · exact isKey
          · have place : placeOf middle = placeOf record := by
              rcases List.mem_cons.mp later with rfl | later
              · rfl
              · exact le_antisymm high
                  ((List.pairwise_cons.mp restSorted).1 middle later)
            exact (factors _ _ place).trans (same.symm.trans isKey)
        · rw [disagreeInRun_cons_same_iff factors sorted same isKey, ← ih without]
          have notRecord : keyOf record ≠ key := same ▸ isKey
          simp [notRecord]
      · rw [ih restSorted, disagreeInRun_cons_other_iff factors sorted same]

/-- Only records that start a run are kept. -/
theorem startsRun_of_mem_collapse {last : Record} {records : List Record}
    {record : Record}
    (sorted : (last :: records).Pairwise fun first second =>
      placeOf first ≤ placeOf second)
    (kept : record ∈ (collapse keyOf (some last) records).1) :
    StartsRun placeOf keyOf (last :: records) record := by
  induction records generalizing last with
  | nil => cases kept
  | cons head rest ih =>
      obtain ⟨above, restSorted⟩ := List.pairwise_cons.mp sorted
      have headAbove := above head (List.mem_cons_self ..)
      have restAbove := (List.pairwise_cons.mp restSorted).1
      rw [collapse_some_cons] at kept
      split_ifs at kept with same
      · have starts := ih (List.pairwise_cons.mpr ⟨fun other member =>
          above other (List.mem_cons_of_mem _ member),
          (List.pairwise_cons.mp restSorted).2⟩) kept
        intro earlier inEarlier sameKey before
        have lift {between : Record} (inBetween : between ∈ last :: rest) :
            between ∈ last :: head :: rest := by
          simp only [List.mem_cons] at inBetween ⊢
          tauto
        by_cases isHead : earlier = head
        · subst isHead
          obtain ⟨between, inBetween, afterLast, beforeRecord, otherKey⟩ :=
            starts last (List.mem_cons_self ..) (same.trans sameKey)
              (headAbove.trans_lt before)
          refine ⟨between, lift inBetween, lt_of_not_ge fun notAfter => ?_,
            beforeRecord, otherKey⟩
          rcases List.mem_cons.mp inBetween with rfl | later
          · exact lt_irrefl _ afterLast
          · exact otherKey ((factors _ _ (le_antisymm notAfter
              (restAbove between later))).trans sameKey)
        · obtain ⟨between, inBetween, cut⟩ := starts earlier (by
            simp only [List.mem_cons] at inEarlier ⊢
            tauto) sameKey before
          exact ⟨between, lift inBetween, cut⟩
      · intro earlier inEarlier sameKey before
        rcases List.mem_cons.mp kept with rfl | later
        · rcases List.mem_cons.mp inEarlier with rfl | notLast
          · exact (same sameKey).elim
          · rcases List.mem_cons.mp notLast with rfl | inRest
            · exact (lt_irrefl _ before).elim
            · exact (not_lt.mpr (restAbove earlier inRest) before).elim
        · rcases List.mem_cons.mp inEarlier with rfl | notLast
          · have headKey : keyOf head ≠ keyOf record := fun headKey =>
              same (sameKey.trans headKey.symm)
            refine ⟨head, by simp, lt_of_le_of_ne headAbove fun place =>
              same (factors _ _ place), lt_of_le_of_ne
                (restAbove record (mem_of_mem_collapse later)) fun place =>
                  headKey (factors _ _ place), headKey⟩
          · obtain ⟨between, inBetween, cut⟩ :=
              ih restSorted later earlier notLast sameKey before
            exact ⟨between, List.mem_cons_of_mem _ inBetween, cut⟩

end Sorted

/-! ### Whole lists -/

section Whole

variable {records : List Record}

theorem mem_keys_collapse_none {key : Key} :
    key ∈ (collapse keyOf none records).1.map keyOf ↔
      key ∈ records.map keyOf := by
  cases records with
  | nil => rfl
  | cons head rest => exact mem_keys_collapse

section Sorted

variable (factors : ∀ first second,
    placeOf first = placeOf second → keyOf first = keyOf second)
  (sorted : records.Pairwise fun first second =>
    placeOf first ≤ placeOf second)

include factors sorted

theorem nodup_collapse_none_iff :
    ((collapse keyOf none records).1.map keyOf).Nodup ↔
      Grouped placeOf keyOf records := by
  cases records with
  | nil => exact iff_of_true List.nodup_nil (by simp [Grouped])
  | cons head rest => exact nodup_collapse_iff factors sorted

theorem conflict_collapse_none_iff {key : Key} :
    (∃ record ∈ (collapse keyOf none records).2, keyOf record = key) ↔
      DisagreeInRun placeOf keyOf records key := by
  cases records with
  | nil => simp [collapse, DisagreeInRun]
  | cons head rest => exact conflict_collapse_iff factors sorted

theorem startsRun_of_mem_collapse_none {record : Record}
    (kept : record ∈ (collapse keyOf none records).1) :
    StartsRun placeOf keyOf records record := by
  cases records with
  | nil => cases kept
  | cons head rest =>
      rcases List.mem_cons.mp kept with rfl | later
      · intro earlier inEarlier _ before
        rcases List.mem_cons.mp inEarlier with rfl | inRest
        · exact (lt_irrefl _ before).elim
        · exact (not_lt.mpr ((List.pairwise_cons.mp sorted).1 earlier inRest)
            before).elim
      · exact startsRun_of_mem_collapse factors sorted later

end Sorted

/-- Which positions are kept depends on the keys alone. -/
theorem forall₂_collapse {relation : Record → Record → Prop}
    (sameKeys : ∀ first second, relation first second →
      keyOf first = keyOf second)
    {firsts seconds : List Record} (related : List.Forall₂ relation firsts seconds) :
    ∀ {first second : Option Record}, first.map keyOf = second.map keyOf →
      List.Forall₂ relation (collapse keyOf first firsts).1
        (collapse keyOf second seconds).1 := by
  induction related with
  | nil =>
      intro first second _
      cases first <;> cases second <;> exact .nil
  | @cons head other rest others headRelated restRelated ih =>
      intro first second lastSame
      cases first with
      | none =>
          cases second with
          | none =>
              exact .cons headRelated (ih (by simp [sameKeys _ _ headRelated]))
          | some last => cases lastSame
      | some last =>
          cases second with
          | none => cases lastSame
          | some otherLast =>
              have lastKeys : keyOf last = keyOf otherLast := by
                simpa using lastSame
              rw [collapse_some_cons, collapse_some_cons, lastKeys,
                sameKeys _ _ headRelated]
              split_ifs
              · exact ih (by simp [lastKeys])
              · exact .cons headRelated (ih (by simp [sameKeys _ _ headRelated]))

/-! ### The record that stands first -/

theorem collapse_last_congr {first second : Record}
    (same : keyOf first = keyOf second) (records : List Record) :
    (collapse keyOf (some first) records).1 =
      (collapse keyOf (some second) records).1 := by
  induction records with
  | nil => rfl
  | cons head rest ih => rw [collapse_some_cons, collapse_some_cons, same, ih]

theorem collapse_append (last : Option Record) (front back : List Record) :
    (collapse keyOf last (front ++ back)).1 =
      (collapse keyOf last front).1 ++
        (collapse keyOf (front.getLast?.or last) back).1 := by
  induction front generalizing last with
  | nil => cases last <;> rfl
  | cons head rest ih =>
      have lastOf : (head :: rest).getLast? = rest.getLast?.or (some head) := by
        cases rest with
        | nil => rfl
        | cons next rest => simp [List.getLast?_cons]
      cases last with
      | none =>
          change head :: (collapse keyOf (some head) (rest ++ back)).1 =
            head :: (collapse keyOf (some head) rest).1 ++ _
          rw [ih, lastOf, Option.or_none, List.cons_append]
      | some last =>
          rw [List.cons_append, collapse_some_cons, collapse_some_cons]
          split_ifs with same
          · rw [ih, lastOf]
            cases rest.getLast? with
            | none => exact congrArg _ (collapse_last_congr same back)
            | some final => rfl
          · rw [ih, lastOf, List.cons_append]
            cases rest.getLast? <;> rfl

theorem collapse_same_keys {last : Record} {group : List Record}
    (same : ∀ record ∈ group, keyOf record = keyOf last)
    (back : List Record) :
    (collapse keyOf (some last) (group ++ back)).1 =
      (collapse keyOf (some last) back).1 := by
  induction group with
  | nil => rfl
  | cons head rest ih =>
      rw [List.cons_append, collapse_some_cons,
        if_pos (same head (List.mem_cons_self ..)).symm]
      exact ih fun record member => same record (List.mem_cons_of_mem _ member)

/-- A run that starts after other records keeps its first record. -/
theorem collapse_run {front group back : List Record} {record : Record}
    (ends : ∀ last ∈ front.getLast?, keyOf last ≠ keyOf record)
    (same : ∀ other ∈ group, keyOf other = keyOf record) :
    (collapse keyOf none (front ++ record :: (group ++ back))).1 =
      (collapse keyOf none front).1 ++
        record :: (collapse keyOf (some record) back).1 := by
  rw [collapse_append, Option.or_none]
  congr 1
  cases last : front.getLast? with
  | none =>
      change record :: (collapse keyOf (some record) (group ++ back)).1 = _
      rw [collapse_same_keys same]
  | some final =>
      rw [collapse_some_cons, if_neg (ends final last), collapse_same_keys same]

end Whole

/-! ### Sorted by an arbitrary routine -/

section Routine

variable {records others : List Record}

omit [DecidableEq Record] [DecidableEq Key] in
/-- Two routines sort permutations of one list into the same places. -/
theorem forall₂_sortBy (routine other : SortRoutine)
    (perm : records.Perm others) :
    List.Forall₂ (fun first second => placeOf first = placeOf second)
      (routine.sortBy placeOf records) (other.sortBy placeOf others) := by
  have places : (routine.sortBy placeOf records).map placeOf =
      (other.sortBy placeOf others).map placeOf :=
    List.Perm.eq_of_pairwise' (r := (· ≤ ·))
      (List.pairwise_map.mpr (routine.sortBy_sorted placeOf records))
      (List.pairwise_map.mpr (other.sortBy_sorted placeOf others))
      ((((routine.sortBy_perm placeOf records).trans perm).trans
        (other.sortBy_perm placeOf others).symm).map placeOf)
  rw [← List.forall₂_eq_eq_eq, List.forall₂_map_left_iff,
    List.forall₂_map_right_iff] at places
  exact places

omit [DecidableEq Record] [DecidableEq Key] in
theorem StartsRun.congr {record : Record}
    (same : ∀ other, other ∈ records ↔ other ∈ others) :
    StartsRun placeOf keyOf records record ↔
      StartsRun placeOf keyOf others record := by
  simp only [StartsRun, same]

omit [DecidableEq Record] [DecidableEq Key] in
theorem Grouped.congr (same : ∀ other, other ∈ records ↔ other ∈ others) :
    Grouped placeOf keyOf records ↔ Grouped placeOf keyOf others := by
  simp only [Grouped, same]

variable (placeOf keyOf) in
/-- The spelling of the records that are kept. -/
def keptLines (routine : SortRoutine) (line : Record → Bytes)
    (records : List Record) : Bytes :=
  (collapse keyOf none (routine.sortBy placeOf records)).1.flatMap line

variable (placeOf keyOf) in
/-- Records that compete for the start of a run are spelled alike. -/
def TiesAgree (line : Record → Bytes) (records : List Record) : Prop :=
  ∀ first ∈ records, ∀ second ∈ records, placeOf first = placeOf second →
    StartsRun placeOf keyOf records first → line first = line second

variable (factors : ∀ first second,
  placeOf first = placeOf second → keyOf first = keyOf second)

include factors

/-- The kept records of two orders stand in the same places. -/
theorem forall₂_kept (routine other : SortRoutine)
    (perm : records.Perm others) :
    List.Forall₂ (fun first second => placeOf first = placeOf second)
      (collapse keyOf none (routine.sortBy placeOf records)).1
      (collapse keyOf none (other.sortBy placeOf others)).1 :=
  forall₂_collapse factors (forall₂_sortBy routine other perm) rfl

theorem keptLines_eq_of_perm {line : Record → Bytes}
    (routine other : SortRoutine) (perm : records.Perm others)
    (agree : TiesAgree placeOf keyOf line records) :
    keptLines placeOf keyOf routine line records =
      keptLines placeOf keyOf other line others := by
  have places := forall₂_kept factors routine other perm
  have starts : ∀ record ∈ (collapse keyOf none
      (routine.sortBy placeOf records)).1,
      record ∈ records ∧ StartsRun placeOf keyOf records record := by
    intro record kept
    exact ⟨(routine.mem_sortBy _ _ _).mp (mem_of_mem_collapse kept),
      (StartsRun.congr (routine.mem_sortBy _ _)).mp
        (startsRun_of_mem_collapse_none factors
          (routine.sortBy_sorted placeOf records) kept)⟩
  have inRecords : ∀ record ∈ (collapse keyOf none
      (other.sortBy placeOf others)).1, record ∈ records := by
    intro record kept
    exact perm.mem_iff.mpr ((other.mem_sortBy _ _ _).mp (mem_of_mem_collapse kept))
  unfold keptLines
  generalize (collapse keyOf none (routine.sortBy placeOf records)).1 = firsts
    at places starts ⊢
  generalize (collapse keyOf none (other.sortBy placeOf others)).1 = seconds
    at places inRecords ⊢
  induction places with
  | nil => rfl
  | @cons first second firsts seconds place _ ih =>
      have firstStarts := starts first (List.mem_cons_self ..)
      rw [List.flatMap_cons, List.flatMap_cons,
        agree first firstStarts.1 second (inRecords second (List.mem_cons_self ..))
          place firstStarts.2,
        ih (fun record member => starts record (List.mem_cons_of_mem _ member))
          fun record member => inRecords record (List.mem_cons_of_mem _ member)]

omit factors in
omit [DecidableEq Key] in
/-- Records can be put into an order in which a record of our choice stands
first among the records of its place. -/
theorem exists_front_perm (records : List Record) (place : Place) :
    ∃ front back : List Record,
      (front.Pairwise fun first second => placeOf first ≤ placeOf second) ∧
      (∀ record ∈ front, placeOf record < place) ∧
      (back.Pairwise fun first second => placeOf first ≤ placeOf second) ∧
      (∀ record ∈ back, place < placeOf record) ∧
      ∀ record ∈ records, placeOf record = place →
        ∃ group, (∀ other ∈ group, placeOf other = place) ∧
          (front ++ record :: (group ++ back)).Perm records := by
  let sorted := SortRoutine.insertion.sortBy placeOf records
  have perm : sorted.Perm records := SortRoutine.insertion.sortBy_perm _ _
  have ordered := SortRoutine.insertion.sortBy_sorted placeOf records
  let rest := sorted.filter fun record => !decide (placeOf record < place)
  let group := rest.filter fun record => decide (placeOf record = place)
  let back := rest.filter fun record => !decide (placeOf record = place)
  refine ⟨sorted.filter fun record => decide (placeOf record < place), back,
    ordered.filter _, by simp, (ordered.filter _).filter _, ?_, ?_⟩
  · intro record member
    simp only [back, rest, List.mem_filter, Bool.not_eq_true',
      decide_eq_false_iff_not, not_lt] at member
    exact lt_of_le_of_ne member.1.2 (Ne.symm member.2)
  · intro record member atPlace
    have inGroup : record ∈ group := by
      simp [group, rest, atPlace, perm.mem_iff.mpr member]
    refine ⟨group.erase record, fun other inErased => ?_, ?_⟩
    · exact of_decide_eq_true (List.mem_filter.mp (List.mem_of_mem_erase inErased)).2
    · have split := (List.filter_append_perm
        (fun record => decide (placeOf record < place)) sorted).trans perm
      have splitRest := List.filter_append_perm
        (fun record => decide (placeOf record = place)) rest
      refine List.Perm.trans (List.Perm.append_left _ ?_) split
      exact ((List.perm_cons_erase inGroup).symm.append_right back).trans splitRest

/-- When two records that compete for the start of a run are spelled
differently, two orders of the records are. -/
theorem exists_leak {norm : Record → Record} {line : Record → Bytes}
    (disagree : ¬ TiesAgree placeOf keyOf line (records.map norm)) :
    ∃ firsts seconds : List Record,
      firsts.Perm records ∧ seconds.Perm records ∧
      keptLines placeOf keyOf .insertion line (firsts.map norm) ≠
        keptLines placeOf keyOf .insertion line (seconds.map norm) := by
  simp only [TiesAgree, not_forall, List.mem_map] at disagree
  obtain ⟨_, ⟨first, inFirst, rfl⟩, _, ⟨second, inSecond, rfl⟩, place, starts,
    differ⟩ := disagree
  obtain ⟨front, back, frontSorted, below, backSorted, above, choose⟩ :=
    @exists_front_perm _ _ _ (fun record => placeOf (norm record)) _ records
      (placeOf (norm first))
  have chosen {record : Record} (member : record ∈ records)
      (atPlace : placeOf (norm record) = placeOf (norm first)) :
      ∃ order : List Record, order.Perm records ∧
        keptLines placeOf keyOf .insertion line (order.map norm) =
          (collapse keyOf none (front.map norm)).1.flatMap line ++
            (line (norm record) ++
              (collapse keyOf (some (norm first)) (back.map norm)).1.flatMap
                line) := by
    obtain ⟨group, groupPlace, perm⟩ := choose record member atPlace
    refine ⟨_, perm, ?_⟩
    have key := factors _ _ atPlace
    have sorted : ((front ++ record :: (group ++ back)).map norm).Pairwise
        fun first second => placeOf first ≤ placeOf second := by
      refine List.pairwise_map.mpr (List.pairwise_append.mpr
        ⟨frontSorted, List.pairwise_cons.mpr ⟨?_, List.pairwise_append.mpr
          ⟨List.pairwise_of_forall_mem_list ?_, backSorted, ?_⟩⟩, ?_⟩)
      · intro other member
        rcases List.mem_append.mp member with inGroup | inBack
        · rw [atPlace, groupPlace other inGroup]
        · rw [atPlace]
          exact (above other inBack).le
      · intro other inGroup later inLater
        rw [groupPlace other inGroup, groupPlace later inLater]
      · intro other inGroup later inBack
        rw [groupPlace other inGroup]
        exact (above later inBack).le
      · intro other inFront later member
        refine (below other inFront).le.trans ?_
        rcases List.mem_cons.mp member with rfl | member
        · exact atPlace.ge
        · rcases List.mem_append.mp member with inGroup | inBack
          · exact (groupPlace later inGroup).ge
          · exact (above later inBack).le
    have same : SortRoutine.insertion.sortBy placeOf
        ((front ++ record :: (group ++ back)).map norm) =
          (front ++ record :: (group ++ back)).map norm := by
      refine List.Pairwise.insertionSort_eq (sorted.imp fun order => ?_)
      simpa using order
    rw [keptLines, same, List.map_append, List.map_cons, List.map_append,
      collapse_run, List.flatMap_append, List.flatMap_cons,
      collapse_last_congr key]
    · intro last isLast sameKey
      rw [List.getLast?_map] at isLast
      obtain ⟨final, isFinal, rfl⟩ := Option.map_eq_some_iff.mp isLast
      obtain ⟨before, rfl⟩ := List.getLast?_eq_some_iff.mp isFinal
      have inFront : final ∈ before ++ [final] := by simp
      obtain ⟨_, between, afterFinal, beforeFirst, _⟩ := starts (norm final)
        (List.mem_map_of_mem (perm.mem_iff.mp
          (List.mem_append_left _ inFront)))
        (sameKey.trans key) (below final inFront)
      obtain ⟨middle, inMiddle, rfl⟩ := List.mem_map.mp between
      rcases List.mem_append.mp (perm.mem_iff.mpr inMiddle) with early | late
      · refine not_lt.mpr ?_ afterFinal
        rcases List.mem_append.mp early with earlier | isFinal
        · exact (List.pairwise_append.mp frontSorted).2.2 middle earlier final
            (List.mem_singleton_self _)
        · rw [List.mem_singleton.mp isFinal]
      · refine not_lt.mpr ?_ beforeFirst
        rcases List.mem_cons.mp late with rfl | late
        · exact atPlace.ge
        · rcases List.mem_append.mp late with inGroup | inBack
          · exact (groupPlace middle inGroup).ge
          · exact (above middle inBack).le
    · intro other inGroup
      obtain ⟨original, member, rfl⟩ := List.mem_map.mp inGroup
      exact factors _ _ ((groupPlace original member).trans atPlace.symm)
  obtain ⟨firsts, firstPerm, firstLines⟩ := chosen inFirst rfl
  obtain ⟨seconds, secondPerm, secondLines⟩ := chosen inSecond place.symm
  refine ⟨firsts, seconds, firstPerm, secondPerm, ?_⟩
  rw [firstLines, secondLines]
  intro same
  exact differ (List.append_cancel_right (List.append_cancel_left same))

end Routine

end Collapse

end OpticalPathPlanner
