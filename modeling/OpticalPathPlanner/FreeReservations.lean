import OpticalPathPlanner.BuilderRuns
import OpticalPathPlanner.PlanTotals
import OpticalPathPlanner.RevalidatedPlans
import OpticalPathPlanner.WavelengthRuns

/-!
# Free reservations

A channel may start where a whole window of slots is free, and along a
wavelength run the builder intersects these starts.  So whatever start it picks,
the window behind it is free on every resource of the run so far, and each of
them published its availability.
-/

namespace OpticalPathPlanner

variable {K E : Type}

/-! ### The resources of a run -/

/-- The availability of the resources of a run behind one more hop.  Conversions
and regenerations start a run at the port they arrive at. -/
def extendRun (run : List (Evidence SlotMask)) (hop : Hop K) :
    List (Evidence SlotMask) :=
  if hop.link.changesChannel then [hop.target.blockedSlots]
  else
    match hop.link with
    | .span record _ => run ++ [record.blockedSlots, hop.target.blockedSlots]
    | .crossConnect record =>
        run ++ [record.blockedSlots, hop.target.blockedSlots]

/-- The availability of the resources of the run a route is in. -/
def runAvailability (start : PortRecord) (hops : List (Hop K)) :
    List (Evidence SlotMask) :=
  hops.foldl extendRun [start.blockedSlots]

/-- Each span of a route, with the availability of its run up to the port the
span arrives at. -/
def spanAvailability (run : List (Evidence SlotMask)) :
    List (Hop K) → List (SpanId × List (Evidence SlotMask))
  | [] => []
  | ⟨.span record reversed, target⟩ :: rest =>
      let extended := extendRun run (⟨.span record reversed, target⟩ : Hop K)
      (record.id, extended) :: spanAvailability extended rest
  | ⟨.crossConnect record, target⟩ :: rest =>
      spanAvailability
        (extendRun run (⟨.crossConnect record, target⟩ : Hop K)) rest

/-- The slots of a channel are slots of the model, and every resource of a run
publishes them as not blocked. -/
def FreeOver (spectrum : SpectrumModel) (run : List (Evidence SlotMask))
    (channel : Channel) : Prop :=
  ∀ slot, channel.Covers slot → slot < spectrum.slotCount ∧
    ∀ blocked ∈ run, PublishesFree blocked slot

/-- The reservation of a span is free over the run the span belongs to. -/
structure ReservedFreely (spectrum : SpectrumModel) (width : Nat)
    (reservation : PlanReservation)
    (span : SpanId × List (Evidence SlotMask)) : Prop where
  resource : reservation.resource = .forSpan span.1
  width : reservation.channel.widthSlots = width
  free : FreeOver spectrum span.2 reservation.channel

/-- A plan reserves a free channel on each span of its route, in order. -/
def ReservesFreely (spectrum : SpectrumModel) (plan : PlanArtifact K)
    (start : PortRecord) (hops : List (Hop K)) : Prop :=
  List.Forall₂ (ReservedFreely spectrum plan.channelWidthSlots)
    plan.reservations (spanAvailability [start.blockedSlots] hops)

theorem spanAvailability_append (run : List (Evidence SlotMask))
    (hops more : List (Hop K)) :
    spanAvailability run (hops ++ more) =
      spanAvailability run hops ++
        spanAvailability (hops.foldl extendRun run) more := by
  induction hops generalizing run with
  | nil => rfl
  | cons hop hops ih =>
      obtain ⟨link, arrival⟩ := hop
      cases link with
      | span _ _ => simp [spanAvailability, ih]
      | crossConnect _ => simp [spanAvailability, ih]

theorem spanAvailability_concat_span (run : List (Evidence SlotMask))
    (hops : List (Hop K)) (record : SpanRecord K) (reversed : Bool)
    (target : PortRecord) :
    spanAvailability run (hops ++ [⟨.span record reversed, target⟩]) =
      spanAvailability run hops ++ [(record.id, hops.foldl extendRun run ++
        [record.blockedSlots, target.blockedSlots])] :=
  spanAvailability_append run hops _

theorem spanAvailability_concat_crossConnect (run : List (Evidence SlotMask))
    (hops : List (Hop K)) (record : CrossConnectRecord) (target : PortRecord) :
    spanAvailability run (hops ++ [⟨.crossConnect record, target⟩]) =
      spanAvailability run hops :=
  (spanAvailability_append run hops _).trans (List.append_nil _)

theorem runAvailability_concat (start : PortRecord) (hops : List (Hop K))
    (hop : Hop K) :
    runAvailability start (hops ++ [hop]) =
      extendRun (runAvailability start hops) hop := by
  simp [runAvailability]

/-! ### Windows of free slots -/

namespace FreeOver

variable {spectrum : SpectrumModel} {run more : List (Evidence SlotMask)}
  {channel : Channel}

theorem append (free : FreeOver spectrum run channel)
    (others : FreeOver spectrum more channel) :
    FreeOver spectrum (run ++ more) channel := by
  intro slot covers
  exact ⟨(free slot covers).1, List.forall_mem_append.mpr
    ⟨(free slot covers).2, (others slot covers).2⟩⟩

/-- A start of a published resource has a free window behind it. -/
theorem of_usable {blocked : Evidence SlotMask} {width first : Nat}
    (published : blocked.hasValue = true)
    (isStart : (usableStarts spectrum width blocked).test first = true) :
    FreeOver spectrum [blocked] ⟨first, width⟩ := by
  obtain ⟨mask, known⟩ := Evidence.hasValue_iff.mp published
  rw [usableStarts, known, Evidence.value?_known] at isStart
  obtain ⟨_, _, window⟩ := (SlotMask.test_firstSlotMask _ _ _).mp isStart
  rintro slot ⟨notBefore, below⟩
  change first ≤ slot at notBefore
  change slot < first + width at below
  have free := window (slot - first) (by omega)
  rw [Nat.add_sub_cancel' notBefore, SlotMask.test_removeBlocked,
    Bool.and_eq_true, decide_eq_true_eq, Bool.not_eq_true'] at free
  exact ⟨free.1.1, List.forall_mem_singleton.mpr ⟨mask, known, free.2⟩⟩

/-- A start that is left by the three intersected masks has a window behind it
that is free over the run and on both resources. -/
theorem of_intersect {run : List (Evidence SlotMask)}
    {link target : Evidence SlotMask} {mask : SlotMask} {width first : Nat}
    (soFar : mask.test first = true → FreeOver spectrum run ⟨first, width⟩)
    (linkPublished : link.hasValue = true)
    (targetPublished : target.hasValue = true)
    (isStart : ((mask.intersect (usableStarts spectrum width link)).intersect
      (usableStarts spectrum width target)).test first = true) :
    FreeOver spectrum (run ++ [link, target]) ⟨first, width⟩ := by
  simp only [SlotMask.test_intersect, Bool.and_eq_true] at isStart
  obtain ⟨⟨inMask, onLink⟩, onTarget⟩ := isStart
  have both := (of_usable linkPublished onLink).append
    (of_usable targetPublished onTarget)
  exact (soFar inMask).append both

end FreeOver

/-! ### Along a run of the builder -/

section Builder

variable [Field K] [LinearOrder K]

namespace SearchContext

variable {ctx : SearchContext K} {request : PlanningRequest K}
  {start : PortRecord} {profile : ProfileId} {arcs : List ArcRef}
  {hops : List (Hop K)} {builder : PlanBuilder K}

/-- The starts that are left and the reservations that were made are free over
their runs. -/
structure KeepsFree (ctx : SearchContext K) (start : PortRecord)
    (hops : List (Hop K)) (builder : PlanBuilder K) : Prop where
  starts : ∀ first, builder.mask.test first = true →
    FreeOver ctx.snapshot.spectrum (runAvailability start hops)
      ⟨first, ctx.rules.channelWidthSlots⟩
  reserved : List.Forall₂
    (ReservedFreely ctx.snapshot.spectrum ctx.rules.channelWidthSlots)
    builder.reservations (spanAvailability [start.blockedSlots] hops)

theorem BuilderRun.keepsFree (published : start.blockedSlots.hasValue = true)
    (run : ctx.BuilderRun request start profile arcs hops builder) :
    ctx.KeepsFree start hops builder := by
  induction run with
  | start =>
      rw [startBuilder_eq]
      exact ⟨fun first isStart => FreeOver.of_usable published isStart, .nil⟩
  | @span _ hops builder _ reversed span target _ _ _ mask slot before built ih =>
      have spanPublished : span.blockedSlots.hasValue = true :=
        (Bool.and_eq_true_iff.mp built.evidence).1
      have starts : ∀ first, mask.test first = true →
          FreeOver ctx.snapshot.spectrum
            (runAvailability start hops ++
              [span.blockedSlots, target.blockedSlots])
            ⟨first, ctx.rules.channelWidthSlots⟩ := by
        intro first isStart
        rw [built.mask_eq] at isStart
        exact FreeOver.of_intersect (ih.starts first) spanPublished
          built.portEvidence isStart
      have chosen := ((SlotMask.lowestSetBit_eq_some_iff mask slot).mp
        built.slot_eq).1
      rw [useSpan_eq]
      refine ⟨?_, ?_⟩
      · rw [runAvailability_concat]
        exact starts
      · rw [spanAvailability_concat_span]
        exact List.rel_append ih.reserved
          (.cons ⟨rfl, rfl, starts slot chosen⟩ .nil)
  | @crossConnect _ hops builder switched _ _ record target before built ih =>
      have recordPublished : record.blockedSlots.hasValue = true :=
        (Bool.and_eq_true_iff.mp built.evidence).2
      obtain ⟨_, _, reservations, _⟩ := built.segment.frame
      have mask := built.segment.mask_eq
      rw [useCrossConnect_eq]
      refine ⟨?_, ?_⟩
      · intro first isStart
        change switched.mask.test first = true at isStart
        rw [mask] at isStart
        rw [runAvailability_concat, extendRun]
        by_cases express : record.op = .express
        · rw [if_pos express] at isStart
          rw [if_neg (by simp [Link.changesChannel, express])]
          exact FreeOver.of_intersect (ih.starts first) recordPublished
            built.portEvidence isStart
        · rw [if_neg express] at isStart
          rw [if_pos (by simp [Link.changesChannel, express])]
          exact FreeOver.of_usable built.portEvidence isStart
      · rw [spanAvailability_concat_crossConnect]
        dsimp only
        rw [reservations]
        exact ih.reserved

end SearchContext

/-! ### Candidates -/

variable {runtime : Runtime K} {options : PlannerOptions}
  {driver : SearchDriver E} {snapshot : TopologySnapshot K}
  {request : PlanningRequest K}

theorem finishPlan_channelWidthSlots (ctx : SearchContext K)
    (requestDigest : Digest256) (arcCount : Nat) (builder : PlanBuilder K) :
    (ctx.finishPlan request requestDigest arcCount builder).channelWidthSlots =
      ctx.rules.channelWidthSlots := by
  unfold SearchContext.finishPlan
  rfl

/-- Every candidate is the plan of a route on whose spans it reserves channels
that are free over the whole of their wavelength runs. -/
theorem reservations_free (built : IsBuilt runtime snapshot) (env : E) :
    ∀ candidate ∈
      (plan runtime options driver snapshot request env).1.candidates,
    candidate.channelWidthSlots = request.channelWidthSlots ∧
      (∃ arcs start hops, BuiltFrom runtime snapshot request options driver
        candidate arcs start hops) ∧
      ∀ arcs start hops, BuiltFrom runtime snapshot request options driver
          candidate arcs start hops →
        ReservesFreely snapshot.spectrum candidate start hops := by
  intro candidate offered
  obtain ⟨searching, _⟩ := takesRoute_of_candidate offered
  have some_ := exists_builtFrom built.wellFormed offered
  refine ⟨?_, some_, ?_⟩
  · obtain ⟨arcs, start, hops, from_⟩ := some_
    obtain ⟨_, _, _, _, _, _, rfl⟩ := from_.travels built.wellFormed searching
    exact finishPlan_channelWidthSlots _ _ _ _
  · intro arcs start hops from_
    obtain ⟨startPort, label, ancestors, builder, travels, rfl, rfl⟩ :=
      from_.travels built.wellFormed searching
    obtain ⟨profile, _, published, run⟩ := travels.builderRun
    unfold ReservesFreely
    rw [finishPlan_reservations, finishPlan_channelWidthSlots]
    exact (run.keepsFree published).reserved

theorem reservations_free_regeneratedLine :
    ∃ candidate ∈ (regeneratedLine.planned acrossSpan).candidates,
      ∃ arcs start hops, BuiltFrom rationalRuntime
          (regeneratedLine.finished rationalRuntime) acrossSpan {} .idle candidate
          arcs start hops ∧
        ReservesFreely (regeneratedLine.finished rationalRuntime).spectrum
          candidate start hops := by
  have some_ : (regeneratedLine.planned acrossSpan).candidates ≠ [] := by
    decide +kernel
  have built : IsBuilt rationalRuntime
      (regeneratedLine.finished rationalRuntime) :=
    isBuilt_finished (by decide +kernel)
  obtain ⟨candidate, offered⟩ := List.exists_mem_of_ne_nil _ some_
  refine ⟨candidate, offered, ?_⟩
  rw [SnapshotBuilder.planned] at offered
  obtain ⟨_, ⟨arcs, start, hops, from_⟩, free⟩ :=
    reservations_free built () candidate offered
  exact ⟨arcs, start, hops, from_, free arcs start hops from_⟩

end Builder

end OpticalPathPlanner
