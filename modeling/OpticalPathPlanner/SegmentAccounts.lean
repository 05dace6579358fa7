import OpticalPathPlanner.PlanShapes
import OpticalPathPlanner.PlanValidation

/-!
# Accounts of segments

A plan keeps the uses of its spans next to the totals a segment was closed with.
The builder adds both up from the same records in the same order, so along every
run the totals of a segment are the sums over the uses it kept.
-/

namespace OpticalPathPlanner

variable {K : Type} [Field K] [LinearOrder K]

/-! ### Sums over recorded uses -/

/-- The use shows what a record publishes. -/
structure PlanSpanUse.Shows (use : PlanSpanUse K) (record : SpanRecord K) :
    Prop where
  id : record.id = use.id
  lengthM : record.lengthM = .known use.lengthM
  lossDb : record.lossDb = .known use.lossDb
  osnrDb : record.osnrDb = .known use.osnrDb

def SegmentSums.addUse (runtime : Runtime K) (sums : SegmentSums K)
    (use : PlanSpanUse K) : SegmentSums K where
  distance := sums.distance + use.lengthM
  loss := sums.loss + use.lossDb
  osnrInverse := sums.osnrInverse + runtime.osnrToInverse use.osnrDb
  spans := sums.spans + 1

/-- What some uses add up to, as they were recorded. -/
def recordedSums (runtime : Runtime K) (uses : List (PlanSpanUse K)) :
    SegmentSums K :=
  uses.foldl (SegmentSums.addUse runtime) { loss := 0, osnrInverse := 0 }

theorem recordedSums_concat (runtime : Runtime K) (uses : List (PlanSpanUse K))
    (use : PlanSpanUse K) :
    recordedSums runtime (uses ++ [use]) =
      (recordedSums runtime uses).addUse runtime use :=
  List.foldl_concat ..

/-- The totals of a segment are the given sums. -/
structure PlanSegment.Totals (runtime : Runtime K) (segment : PlanSegment K)
    (sums : SegmentSums K) : Prop where
  distanceM : segment.distanceM = sums.distance
  lossDb : segment.lossDb = sums.loss
  osnrDb : segment.osnrDb = runtime.reportedOsnr sums.osnrInverse
  spanCount : segment.spanCount = sums.spans

/-- A segment adds up the uses it kept, and each of them shows a record of the
snapshot. -/
structure PlanSegment.Balanced (runtime : Runtime K)
    (snapshot : TopologySnapshot K) (segment : PlanSegment K) : Prop where
  totals : segment.Totals runtime (recordedSums runtime segment.spans)
  shown : ∀ use ∈ segment.spans, ∃ record ∈ snapshot.spans, use.Shows record

/-! ### Along a run of the builder -/

namespace SearchContext

variable {ctx : SearchContext K} {request : PlanningRequest K}
  {start : PortRecord} {profile : ProfileId} {arcs : List ArcRef}
  {hops : List (Hop K)} {builder : PlanBuilder K}

/-- What the builder has accumulated since the last regeneration. -/
def openSums (builder : PlanBuilder K) : SegmentSums K where
  distance := builder.segmentDistance
  loss := builder.segmentLoss
  osnrInverse := builder.segmentOsnrInverse
  spans := builder.segmentSpanCount

/-- The closed segments of a builder are balanced, and what it accumulated since
are the uses of the open one. -/
structure Accounted (ctx : SearchContext K) (builder : PlanBuilder K)
    (closed : List (PlanSegment K)) (uses : List (PlanSpanUse K)) : Prop where
  earlier : ∀ segment ∈ closed, segment.index < builder.segmentIndex
  balanced : ∀ segment ∈ closed, segment.Balanced ctx.runtime ctx.snapshot
  current : (builder.segments = closed ∧ uses = []) ∨
    ∃ segment, builder.segments = closed ++ [segment] ∧
      segment.index = builder.segmentIndex ∧ segment.spans = uses
  sums : openSums builder = recordedSums ctx.runtime uses
  shown : ∀ use ∈ uses, ∃ record ∈ ctx.snapshot.spans, use.Shows record

namespace Accounted

variable {closed : List (PlanSegment K)} {uses : List (PlanSpanUse K)}

theorem ensureSegment (accounted : ctx.Accounted builder closed uses) :
    ∃ segment, builder.ensureSegment.segments = closed ++ [segment] ∧
      segment.index = builder.segmentIndex ∧ segment.spans = uses := by
  rcases accounted.current with ⟨segments, none_⟩ | ⟨segment, segments, index, spans⟩
  · have earlier := accounted.earlier
    rw [← segments] at earlier
    obtain ⟨segment, opens, index, spans⟩ := ensureSegment_of_closed earlier
    rw [segments] at opens
    exact ⟨segment, opens, index, spans.trans none_.symm⟩
  · exact ⟨segment, ensureSegment_of_open segments index, index, spans⟩

/-- Closing the open segment writes down what was accumulated. -/
theorem closeSegment (accounted : ctx.Accounted builder closed uses)
    (ended : Bool) (regeneration : PlanSegment K → ResourceKey) :
    ∃ segment, (ctx.closeSegment builder ended regeneration).segments =
        closed ++ [segment] ∧ segment.index = builder.segmentIndex ∧
      segment.Balanced ctx.runtime ctx.snapshot := by
  obtain ⟨segment, opens, index, rfl⟩ := accounted.ensureSegment
  have sums := accounted.sums
  rw [closeSegment_eq]
  dsimp only
  rw [opens, updateLast_concat]
  refine ⟨_, rfl, index, ⟨?_, ?_, ?_, ?_⟩, accounted.shown⟩
  · exact congrArg SegmentSums.distance sums
  · exact congrArg SegmentSums.loss sums
  · exact congrArg (fun sums => ctx.runtime.reportedOsnr sums.osnrInverse) sums
  · exact congrArg SegmentSums.spans sums

/-- A span is added to the sums and to the uses. -/
theorem useSpan (accounted : ctx.Accounted builder closed uses) {index : Nat}
    {reversed : Bool} {span : SpanRecord K} {target : PortRecord}
    {length : UInt64} {loss osnr : K} {mask : SlotMask} {slot : Nat}
    (built : ctx.SpanBuild builder index reversed span target length loss osnr
      mask slot) :
    ctx.Accounted
      (ctx.useSpan builder span reversed target length loss osnr mask slot) closed
      (uses ++ [spanUse span reversed length loss osnr slot]) := by
  obtain ⟨segment, opens, isCurrent, rfl⟩ := accounted.ensureSegment
  have sums : (openSums builder).addUse ctx.runtime
      (spanUse span reversed length loss osnr slot) =
        (recordedSums ctx.runtime segment.spans).addUse ctx.runtime
          (spanUse span reversed length loss osnr slot) := by
    rw [accounted.sums]
  rw [useSpan_eq, opens, updateLast_concat]
  refine ⟨accounted.earlier, accounted.balanced,
    .inr ⟨_, rfl, isCurrent, rfl⟩, ?_, ?_⟩
  · rw [recordedSums_concat]
    exact sums
  · refine List.forall_mem_append.mpr
      ⟨accounted.shown, List.forall_mem_singleton.mpr ?_⟩
    exact ⟨span, List.mem_of_getElem? built.record, rfl, built.lengthM,
      built.lossDb, built.osnrDb⟩

/-- A regeneration starts the next segment with empty sums. -/
theorem regenerate (accounted : ctx.Accounted builder closed uses)
    (record : CrossConnectRecord) {after : PlanBuilder K}
    (segments : after.segments = (ctx.closeSegment builder true
      fun _ => .forCrossConnect record.id).segments)
    (next : after.segmentIndex = builder.segmentIndex + 1)
    (empty : openSums after = recordedSums ctx.runtime []) :
    ∃ closed uses, ctx.Accounted after closed uses := by
  obtain ⟨segment, closes, index, balanced⟩ :=
    accounted.closeSegment true fun _ => .forCrossConnect record.id
  refine ⟨closed ++ [segment], [], ?_, ?_, .inl ⟨segments.trans closes, rfl⟩,
    empty, List.forall_mem_nil _⟩
  · rw [next]
    refine List.forall_mem_append.mpr ⟨fun earlier member => ?_,
      List.forall_mem_singleton.mpr ?_⟩
    · exact (accounted.earlier earlier member).trans (Nat.lt_succ_self _)
    · rw [index]
      exact Nat.lt_succ_self _
  · exact List.forall_mem_append.mpr
      ⟨accounted.balanced, List.forall_mem_singleton.mpr balanced⟩

end Accounted

theorem BuilderRun.accounted
    (run : ctx.BuilderRun request start profile arcs hops builder) :
    ∃ closed uses, ctx.Accounted builder closed uses := by
  induction run with
  | start =>
      rw [startBuilder_eq]
      exact ⟨[], [], List.forall_mem_nil _, List.forall_mem_nil _,
        .inl ⟨rfl, rfl⟩, rfl, List.forall_mem_nil _⟩
  | span before built ih =>
      obtain ⟨closed, uses, accounted⟩ := ih
      exact ⟨closed, _, accounted.useSpan built⟩
  | @crossConnect _ _ builder switched _ _ record target before built ih =>
      obtain ⟨closed, uses, accounted⟩ := ih
      rw [useCrossConnect_eq]
      cases built.segment with
      | express op mask_eq slot_eq =>
          rw [noteSlot_eq]
          exact ⟨closed, uses, accounted.earlier, accounted.balanced,
            accounted.current, accounted.sums, accounted.shown⟩
      | convert op mask_eq slot_eq =>
          exact ⟨closed, uses, accounted.earlier, accounted.balanced,
            accounted.current, accounted.sums, accounted.shown⟩
      | regenerate op transmits =>
          exact accounted.regenerate record rfl rfl rfl

/-- The segments of a finished plan are balanced. -/
theorem BuilderRun.balanced
    (run : ctx.BuilderRun request start profile arcs hops builder)
    (requestDigest : Digest256) (arcCount : Nat) :
    ∀ segment ∈ (ctx.finishPlan request requestDigest arcCount builder).segments,
      segment.Balanced ctx.runtime ctx.snapshot := by
  obtain ⟨closed, uses, accounted⟩ := run.accounted
  obtain ⟨trailing, closes, _, balanced⟩ :=
    accounted.closeSegment false PlanSegment.regenerationResource
  rw [finishPlan_segments, closes]
  exact List.forall_mem_append.mpr
    ⟨accounted.balanced, List.forall_mem_singleton.mpr balanced⟩

end SearchContext

/-! ### Identifiers that several records share -/

/-- Two different records have the key. -/
def SharedBy {Record Key : Type} (keyOf : Record → Key) (records : List Record)
    (key : Key) : Prop :=
  ∃ first ∈ records, ∃ second ∈ records,
    keyOf first = key ∧ keyOf second = key ∧ first ≠ second

theorem mem_of_firstWith {Record Key : Type} [DecidableEq Key]
    {keyOf : Record → Key} {records : List Record} {key : Key} {first : Record}
    (found : firstWith keyOf records key = some first) :
    first ∈ records ∧ keyOf first = key := by
  unfold firstWith at found
  have same := List.find?_some found
  exact ⟨List.mem_of_find?_eq_some found, of_decide_eq_true same⟩

theorem exists_firstWith {Record Key : Type} [DecidableEq Key]
    (keyOf : Record → Key) {records : List Record} {record : Record}
    (member : record ∈ records) :
    ∃ first, firstWith keyOf records (keyOf record) = some first := by
  refine Option.isSome_iff_exists.mp (List.find?_isSome.mpr ?_)
  exact ⟨record, member, decide_eq_true rfl⟩

/-- The first record with a key that is not shared is the only one. -/
theorem firstWith_of_not_shared {Record Key : Type} [DecidableEq Key]
    {keyOf : Record → Key} {records : List Record} {record : Record}
    (member : record ∈ records)
    (own : ¬ SharedBy keyOf records (keyOf record)) :
    firstWith keyOf records (keyOf record) = some record := by
  obtain ⟨first, found⟩ := exists_firstWith keyOf member
  obtain ⟨isRecord, same⟩ := mem_of_firstWith found
  have equal : first = record := by
    by_contra different
    exact own ⟨first, isRecord, record, member, same, rfl, different⟩
  rw [found, equal]

/-! ### Sums against a snapshot -/

section Sums

variable {runtime : Runtime K} {snapshot : TopologySnapshot K}

variable (snapshot) in
/-- The first records with the identifiers that a segment uses. -/
def PlanSegment.firstRecords (segment : PlanSegment K) : List (SpanRecord K) :=
  segment.spans.filterMap fun use =>
    firstWith SpanRecord.id snapshot.spans use.id

variable (runtime) in
/-- What some records publish adds up to. -/
def publishedSums (records : List (SpanRecord K)) : SegmentSums K :=
  records.foldl
    (fun sums record =>
      { distance := sums.distance + record.lengthM.value?.getD 0
        loss := sums.loss + record.lossDb.value?.getD 0
        osnrInverse := sums.osnrInverse +
          (record.osnrDb.value?.map runtime.osnrToInverse).getD 0
        spans := sums.spans + 1 })
    { loss := 0, osnrInverse := 0 }

/-- The sums against a snapshot are those of the first records. -/
theorem segmentSums_eq (segment : PlanSegment K) :
    segmentSums runtime snapshot segment =
      publishedSums runtime (segment.firstRecords snapshot) := by
  unfold segmentSums publishedSums PlanSegment.firstRecords
  rw [List.foldl_filterMap]
  refine List.foldl_ext _ _ _ fun sums use _ => ?_
  unfold SegmentSums.add
  cases firstWith SpanRecord.id snapshot.spans use.id with
  | none => rfl
  | some record =>
      dsimp only
      cases record.lengthM.value? <;> cases record.lossDb.value? <;>
        cases record.osnrDb.value? <;> simp

theorem add_of_shows {use : PlanSpanUse K} {record : SpanRecord K}
    (found : firstWith SpanRecord.id snapshot.spans use.id = some record)
    (shows_ : use.Shows record) (sums : SegmentSums K) :
    SegmentSums.add runtime snapshot sums use = sums.addUse runtime use := by
  unfold SegmentSums.add
  rw [found]
  simp only [shows_.lengthM, shows_.lossDb, shows_.osnrDb, Evidence.value?_known]
  rfl

/-- Without shared identifiers the sums against the snapshot are the recorded
ones. -/
theorem segmentSums_of_not_shared {segment : PlanSegment K}
    (shown : ∀ use ∈ segment.spans, ∃ record ∈ snapshot.spans, use.Shows record)
    (own : ∀ use ∈ segment.spans,
      ¬ SharedBy SpanRecord.id snapshot.spans use.id) :
    segmentSums runtime snapshot segment =
      recordedSums runtime segment.spans := by
  refine List.foldl_ext _ _ _ fun sums use member => ?_
  obtain ⟨record, isRecord, shows_⟩ := shown use member
  have notShared := own use member
  rw [← shows_.id] at notShared
  have found := firstWith_of_not_shared isRecord notShared
  rw [shows_.id] at found
  exact add_of_shows found shows_ sums

/-- Every use is counted whose identifier a record of the snapshot has. -/
theorem spans_segmentSums {segment : PlanSegment K}
    (shown : ∀ use ∈ segment.spans, ∃ record ∈ snapshot.spans,
      use.Shows record) :
    (segmentSums runtime snapshot segment).spans = segment.spans.length := by
  unfold segmentSums
  suffices counts : ∀ (uses : List (PlanSpanUse K)) (sums : SegmentSums K),
      (∀ use ∈ uses, ∃ record ∈ snapshot.spans, use.Shows record) →
      (uses.foldl (SegmentSums.add runtime snapshot) sums).spans =
        sums.spans + uses.length by
    rw [counts segment.spans _ shown, Nat.zero_add]
  intro uses
  induction uses with
  | nil => exact fun _ _ => rfl
  | cons use rest ih =>
      intro sums shown
      obtain ⟨⟨record, isRecord, shows_⟩, later⟩ := List.forall_mem_cons.mp shown
      obtain ⟨first, found⟩ := exists_firstWith SpanRecord.id isRecord
      rw [shows_.id] at found
      have counted : (SegmentSums.add runtime snapshot sums use).spans =
          sums.spans + 1 := by
        unfold SegmentSums.add
        rw [found]
      rw [List.foldl_cons, ih _ later, counted, List.length_cons]
      omega

end Sums

end OpticalPathPlanner
