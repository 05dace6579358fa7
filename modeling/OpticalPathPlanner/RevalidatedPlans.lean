import OpticalPathPlanner.HardConstraints
import OpticalPathPlanner.PlanValidation

/-!
# Plans that were validated again

Revalidation asks every step of a sealed plan once more.  A channel is held
against the usable slots of its span as a set of slots: slots above the
capacity of a mask are dropped from that set, and a span without published
availability counts as free.  So a validated plan reserves free slots of the
model exactly when its channels end inside the model and its spans publish
their availability.
-/

namespace OpticalPathPlanner

variable {K : Type}

/-! ### Channels -/

/-- The channel covers the slot. -/
def Channel.Covers (channel : Channel) (slot : Nat) : Prop :=
  channel.firstSlot ≤ slot ∧ slot < channel.firstSlot + channel.widthSlots

theorem Channel.test_slots (channel : Channel) (slot : Nat) :
    channel.slots.test slot = true ↔ slot < 256 ∧
      ∃ offset < channel.widthSlots,
        slot = (channel.firstSlot + offset) % 2 ^ 16 := by
  have slots : channel.slots = ((List.range channel.widthSlots).map fun offset =>
      (channel.firstSlot + offset) % 2 ^ 16).foldl SlotMask.set .none :=
    List.foldl_map.symm
  rw [slots, SlotMask.test_foldl_set, SlotMask.test_none, Bool.false_or,
    decide_eq_true_eq, and_comm]
  simp only [List.mem_map, List.mem_range, eq_comm]

/-- The slots that a mask can hold are the ones that the channel covers. -/
theorem Channel.test_slots_of_covers {channel : Channel} {slot : Nat}
    (covers : channel.Covers slot) (inRange : slot < 256) :
    channel.slots.test slot = true := by
  obtain ⟨first, last⟩ := covers
  refine (channel.test_slots slot).mpr
    ⟨inRange, slot - channel.firstSlot, by omega, ?_⟩
  rw [Nat.add_sub_cancel' first, Nat.mod_eq_of_lt (by omega)]

/-- The validator looks for slots of the model that are not published as
blocked. -/
theorem test_usableMask (spectrum : SpectrumModel) (blocked : Evidence SlotMask)
    (slot : Nat) : (usableMask spectrum blocked).test slot = true ↔
      slot < spectrum.slotCount ∧ slot < 256 ∧
        ∀ mask, blocked = .known mask → mask.test slot = false := by
  have single (mask : SlotMask) :
      (mask.firstSlotMask 1).test slot = true ↔ mask.test slot = true := by
    rw [SlotMask.test_firstSlotMask]
    constructor
    · rintro ⟨-, -, window⟩
      exact window 0 Nat.one_pos
    · intro isSet
      refine ⟨le_rfl, ?_, fun offset small => ?_⟩
      · by_contra outside
        rw [SlotMask.test_eq_false_of_le (by omega)] at isSet
        cases isSet
      · rwa [Nat.lt_one_iff.mp small]
  unfold usableMask
  rw [single]
  cases blocked with
  | known mask => simp [SlotMask.test_removeBlocked, and_assoc]
  | unknown => simp [Evidence.value?]
  | conflicting => simp [Evidence.value?]

/-! ### Span steps -/

/-- The first reservation of a resource is the one the plan makes for it. -/
def PlanArtifact.reservationFor (plan : PlanArtifact K)
    (resource : ResourceKey) : Option PlanReservation :=
  firstWith PlanReservation.resource plan.reservations resource

/-- The first record with an identifier is the one that is looked at. -/
def TopologySnapshot.spanNamed (snapshot : TopologySnapshot K) (name : Bytes) :
    Option (SpanRecord K) :=
  firstWith (fun record => record.id.str) snapshot.spans name

theorem PlanArtifact.mem_of_reservationFor (plan : PlanArtifact K)
    {resource : ResourceKey} {reservation : PlanReservation}
    (reserved : plan.reservationFor resource = some reservation) :
    reservation ∈ plan.reservations := by
  unfold PlanArtifact.reservationFor firstWith at reserved
  exact List.mem_of_find?_eq_some reserved

theorem TopologySnapshot.mem_of_spanNamed {snapshot : TopologySnapshot K}
    {name : Bytes} {record : SpanRecord K}
    (found : snapshot.spanNamed name = some record) :
    record ∈ snapshot.spans := by
  unfold TopologySnapshot.spanNamed firstWith at found
  exact List.mem_of_find?_eq_some found

/-- The slot is published as not blocked. -/
def PublishesFree (blocked : Evidence SlotMask) (slot : Nat) : Prop :=
  ∃ mask, blocked = .known mask ∧ mask.test slot = false

/-- A step that uses a span, by its own kind or by that of its resource. -/
def PlanStep.UsesSpan (step : PlanStep) : Prop :=
  step.kind = .span ∨ step.resource.kind = .span

/-- The plan reserves a channel on the span of the step, all of whose slots
are slots of the model and published as not blocked. -/
def PlanStep.ReservesFree (snapshot : TopologySnapshot K)
    (plan : PlanArtifact K) (step : PlanStep) : Prop :=
  step.resource.kind = .span ∧ ∃ reservation record,
    plan.reservationFor step.resource = some reservation ∧
    snapshot.spanNamed step.resource.text = some record ∧
    ∀ slot, reservation.channel.Covers slot →
      slot < snapshot.spectrum.slotCount ∧
        PublishesFree record.blockedSlots slot

/-- The step names a span, its channel ends inside the model and the span
publishes which slots are blocked. -/
def PlanStep.StaysInside (snapshot : TopologySnapshot K)
    (plan : PlanArtifact K) (step : PlanStep) : Prop :=
  step.resource.kind = .span ∧ ∀ reservation record,
    plan.reservationFor step.resource = some reservation →
    snapshot.spanNamed step.resource.text = some record →
    reservation.channel.widthSlots = 0 ∨
      (reservation.channel.firstSlot + reservation.channel.widthSlots ≤
          snapshot.spectrum.slotCount ∧
        record.blockedSlots.hasValue = true)

/-- What a span step that was not refused rests on. -/
theorem span_of_stepFailure_eq_none {snapshot : TopologySnapshot K}
    {plan : PlanArtifact K} {step : PlanStep}
    (isSpan : step.resource.kind = .span)
    (passed : stepFailure snapshot plan step = none) :
    ∃ reservation record,
      plan.reservationFor step.resource = some reservation ∧
      snapshot.spanNamed step.resource.text = some record ∧
      reservation.channel.slots.isSubsetOf
        (usableMask snapshot.spectrum record.blockedSlots) = true := by
  unfold stepFailure at passed
  rw [isSpan] at passed
  dsimp only at passed
  cases parsed : StrongId.parse .span step.resource.text with
  | error status => simp [parsed] at passed
  | ok id =>
      have named : (fun record : SpanRecord K => decide (record.id = id)) =
          fun record => decide (record.id.str = step.resource.text) := by
        funext record
        rw [decide_eq_decide, ← (StrongId.parse_eq_ok_iff.mp parsed).1]
        exact ⟨congrArg StrongId.str, fun same => StrongId.str_injective same⟩
      simp only [parsed] at passed
      split at passed
      · cases passed
      · next record found =>
          split_ifs at passed with down
          split at passed
          · cases passed
          · next reservation reserved =>
              split_ifs at passed with inside
              refine ⟨reservation, record, reserved, ?_, inside⟩
              unfold firstWith at found
              rw [named] at found
              exact found

/-- A channel inside the usable slots is free exactly when it ends inside the
model and the availability of the span is published. -/
theorem covers_free_iff {spectrum : SpectrumModel} {channel : Channel}
    {blocked : Evidence SlotMask}
    (inside : channel.slots.isSubsetOf (usableMask spectrum blocked) = true) :
    (∀ slot, channel.Covers slot → slot < spectrum.slotCount ∧
        PublishesFree blocked slot) ↔
      channel.widthSlots = 0 ∨
        (channel.firstSlot + channel.widthSlots ≤ spectrum.slotCount ∧
          blocked.hasValue = true) := by
  rw [SlotMask.isSubsetOf_iff] at inside
  constructor
  · intro free
    by_cases narrow : channel.widthSlots = 0
    · exact .inl narrow
    · obtain ⟨below, mask, known, -⟩ := free
        (channel.firstSlot + channel.widthSlots - 1) ⟨by omega, by omega⟩
      exact .inr ⟨by omega, by rw [known]; rfl⟩
  · rintro (narrow | ⟨fits, published⟩) slot covers
    · obtain ⟨first, last⟩ := covers
      omega
    · obtain ⟨mask, known⟩ := Evidence.hasValue_iff.mp published
      have below : slot < spectrum.slotCount := covers.2.trans_le fits
      refine ⟨below, mask, known, ?_⟩
      by_cases inRange : slot < 256
      · have usable := inside slot (Channel.test_slots_of_covers covers inRange)
        exact ((test_usableMask spectrum blocked slot).mp usable).2.2 mask known
      · exact SlotMask.test_eq_false_of_le (not_lt.mp inRange)

/-! ### Validated plans -/

section Validated

variable [Field K] [LinearOrder K] {runtime : Runtime K}
  {plan : PlanArtifact K} {snapshot : TopologySnapshot K}
  {policy : ValidationPolicy}

/-- A valid report has no failures. -/
theorem stepFailure_of_valid
    (valid : (revalidatePlan runtime plan snapshot policy).validity = .valid) :
    ∀ step ∈ plan.steps, stepFailure snapshot plan step = none := by
  unfold revalidatePlan at valid
  dsimp only at valid
  split_ifs at valid with mismatch none_ stale bound
  · exact (mismatch.1 valid).elim
  · exact (stale valid).elim
  · intro step member
    rw [List.isEmpty_iff, List.append_eq_nil_iff, List.filterMap_eq_nil_iff]
      at none_
    exact none_.1 step member
  · exact (bound valid).elim

/-- Every span of a validated plan is reserved on free slots of the model
exactly when every span step stays inside it. -/
theorem validated_reservesFree_iff
    (valid : (revalidatePlan runtime plan snapshot policy).validity = .valid) :
    (∀ step ∈ plan.steps, step.UsesSpan → step.ReservesFree snapshot plan) ↔
      ∀ step ∈ plan.steps, step.UsesSpan → step.StaysInside snapshot plan := by
  refine forall₂_congr fun step member => imp_congr_right fun _ => ?_
  refine and_congr_right fun isSpan => ?_
  obtain ⟨reservation, record, reserved, found, inside⟩ :=
    span_of_stepFailure_eq_none isSpan (stepFailure_of_valid valid step member)
  have free := covers_free_iff inside
  constructor
  · rintro ⟨_, _, sameReservation, sameRecord, slots⟩ other another isOther isAnother
    cases reserved.symm.trans sameReservation
    cases reserved.symm.trans isOther
    cases found.symm.trans sameRecord
    cases found.symm.trans isAnother
    exact free.mp slots
  · intro stays
    exact ⟨reservation, record, reserved, found,
      free.mpr (stays reservation record reserved found)⟩

/-- A candidate with its reservations on a channel, sealed again. -/
def PlanArtifact.movedTo (channel : Channel) (candidate : PlanArtifact ℚ) :
    PlanArtifact ℚ :=
  rationalRuntime.sealPlan { candidate with
    reservations := candidate.reservations.map fun reservation =>
      { reservation with channel := channel } }

/-- The plans for the single span that reserve a channel on it. -/
def plansOn (channel : Channel) : List (PlanArtifact ℚ) :=
  (singleSpan.planned acrossSpan).candidates.map (PlanArtifact.movedTo channel)

theorem validated_reservesFree_iff_plansOn :
    ∃ plan ∈ plansOn ⟨95, 1⟩, ∀ step ∈ plan.steps, step.UsesSpan →
      step.ReservesFree (singleSpan.finished rationalRuntime) plan := by
  have checked : ∃ plan ∈ plansOn ⟨95, 1⟩,
      (revalidatePlan rationalRuntime plan (singleSpan.finished rationalRuntime)
        {}).validity = .valid ∧
      (∀ step ∈ plan.steps, step.kind = .span → step.resource.kind = .span) ∧
      (∀ reservation ∈ plan.reservations, reservation.channel = ⟨95, 1⟩) ∧
      (singleSpan.finished rationalRuntime).spectrum.slotCount = 96 ∧
      ∀ record ∈ (singleSpan.finished rationalRuntime).spans,
        record.blockedSlots.hasValue = true := by
    decide +kernel
  obtain ⟨plan, planned, valid, kinds, channels, slotCount, published⟩ := checked
  refine ⟨plan, planned, (validated_reservesFree_iff valid).mpr ?_⟩
  intro step member uses
  refine ⟨uses.elim (kinds step member) id, ?_⟩
  intro reservation record reserved found
  rw [channels reservation (plan.mem_of_reservationFor reserved), slotCount]
  exact .inr ⟨le_rfl, published record
    (TopologySnapshot.mem_of_spanNamed found)⟩

/-- A channel behind the last slot that a mask can hold is found inside the
usable spectrum. -/
theorem strayChannel_validated :
    ∃ plan ∈ plansOn ⟨300, 1⟩,
      (plan.verifySeal rationalRuntime).failed = false ∧
      (revalidatePlan rationalRuntime plan (singleSpan.finished rationalRuntime)
        {}).validity = .valid ∧
      ¬ ∀ step ∈ plan.steps, step.UsesSpan →
        step.ReservesFree (singleSpan.finished rationalRuntime) plan := by
  have checked : ∃ plan ∈ plansOn ⟨300, 1⟩,
      (plan.verifySeal rationalRuntime).failed = false ∧
      (revalidatePlan rationalRuntime plan (singleSpan.finished rationalRuntime)
        {}).validity = .valid ∧
      (∃ step ∈ plan.steps, step.kind = .span) ∧
      (∀ reservation ∈ plan.reservations, reservation.channel = ⟨300, 1⟩) ∧
      (singleSpan.finished rationalRuntime).spectrum.slotCount = 96 := by
    decide +kernel
  obtain ⟨plan, planned, sealed_, valid, ⟨step, member, isSpan⟩, channels,
    slotCount⟩ := checked
  refine ⟨plan, planned, sealed_, valid, fun free => ?_⟩
  obtain ⟨-, reservation, record, reserved, -, slots⟩ :=
    free step member (.inl isSpan)
  have channel := channels reservation (plan.mem_of_reservationFor reserved)
  rw [channel] at slots
  obtain ⟨below, -⟩ := slots 300 ⟨le_rfl, Nat.lt_succ_self 300⟩
  omega

end Validated

end OpticalPathPlanner
