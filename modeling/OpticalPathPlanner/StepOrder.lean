import OpticalPathPlanner.SearchOutcomes
import OpticalPathPlanner.SnapshotInvariants

/-!
# The order of labels along steps

Whatever a label can do, a label at the same port that is no worse in any of
its quantities can do as well, and stays no worse: over express, conversion and
regeneration alike, as long as the two segments have one profile.  Only
conversion and regeneration can leave a label better than they found it.
-/

namespace OpticalPathPlanner

open Traced

variable {K : Type} [Field K] [LinearOrder K]

/-! ### Bounded sums -/

theorem addCheckedU64_mono {small large rhs sum : UInt64}
    (order : small.toNat ≤ large.toNat)
    (added : addCheckedU64 large rhs = some sum) :
    ∃ less, addCheckedU64 small rhs = some less ∧ less.toNat ≤ sum.toNat := by
  rw [addCheckedU64_eq_some_iff] at added
  have bound := sum.toNat_lt
  refine ⟨small + rhs, addCheckedU64_eq_some_iff.mpr ?_, ?_⟩
  · rw [UInt64.toNat_add, Nat.mod_eq_of_lt (by omega)]
  · rw [UInt64.toNat_add, Nat.mod_eq_of_lt (by omega)]
    omega

namespace SearchContext

variable {ctx : SearchContext K}

theorem extendCost_mono {small large arcCost sum : UInt64}
    {fromPort toPort : Nat} (order : small.toNat ≤ large.toNat)
    (added : ctx.extendCost large arcCost fromPort toPort = some sum) :
    ∃ less, ctx.extendCost small arcCost fromPort toPort = some less ∧
      less.toNat ≤ sum.toNat := by
  unfold extendCost at added
  obtain ⟨withArc, arcAdded, added⟩ := Option.bind_eq_some_iff.mp added
  obtain ⟨withPort, portAdded, added⟩ := Option.bind_eq_some_iff.mp added
  obtain ⟨lessArc, lessArcAdded, lessArcLe⟩ := addCheckedU64_mono order arcAdded
  obtain ⟨lessPort, lessPortAdded, lessPortLe⟩ :=
    addCheckedU64_mono lessArcLe portAdded
  obtain ⟨less, lessAdded, lessLe⟩ := addCheckedU64_mono lessPortLe added
  exact ⟨less, Option.bind_eq_some_iff.mpr ⟨lessArc, lessArcAdded,
    Option.bind_eq_some_iff.mpr ⟨lessPort, lessPortAdded, lessAdded⟩⟩, lessLe⟩

theorem extendDistance_mono {small large sum : UInt64} {length : Option UInt64}
    (order : small.toNat ≤ large.toNat)
    (added : extendDistance large length = some sum) :
    ∃ less, extendDistance small length = some less ∧
      less.toNat ≤ sum.toNat := by
  cases length with
  | none =>
      cases added
      exact ⟨small, rfl, order⟩
  | some length => exact addCheckedU64_mono order added

theorem le_of_extendDistance {distance sum : UInt64} {length : Option UInt64}
    (added : extendDistance distance length = some sum) :
    distance.toNat ≤ sum.toNat := by
  cases length with
  | none =>
      cases added
      exact le_rfl
  | some length =>
      have sumEq := addCheckedU64_eq_some_iff.mp added
      omega

theorem costCeilingExceeded_mono {small large : UInt64}
    (order : small.toNat ≤ large.toNat)
    (within : ctx.costCeilingExceeded large = false) :
    ctx.costCeilingExceeded small = false := by
  unfold costCeilingExceeded at *
  cases limit : ctx.rules.maxTotalCost with
  | none => rfl
  | some ceiling =>
      simp only [limit, gt_iff_lt, decide_eq_false_iff_not, UInt64.lt_iff_toNat_lt,
        not_lt] at within ⊢
      omega

theorem isEmpty_eq_false_of_subset {small large : SlotMask}
    (included : ∀ slot, small.test slot = true → large.test slot = true)
    (some_ : small.isEmpty = false) : large.isEmpty = false := by
  rw [← Bool.not_eq_true] at some_ ⊢
  intro empty
  refine some_ ((SlotMask.isEmpty_iff small).mpr fun slot => ?_)
  have clear := (SlotMask.isEmpty_iff large).mp empty slot
  cases isSet : small.test slot with
  | false => rfl
  | true => rw [included slot isSet] at clear; cases clear

/-! ### The accumulated noise of a label -/

/-- The inverse OSNR of a label is zero or at least that of one span. -/
structure NoiseSound (ctx : SearchContext K) (label : Label K) : Prop where
  nonneg : 0 ≤ label.osnrInverse
  attained : label.osnrInverse = 0 ∨ ∃ osnr, osnr ≤ 10 ^ 6 ∧
    ctx.runtime.osnrToInverse osnr ≤ label.osnrInverse

variable [IsStrictOrderedRing K]

theorem osnr_anti {better worse : Label K} (worseSound : ctx.NoiseSound worse)
    (order : better.osnrInverse ≤ worse.osnrInverse) :
    ctx.runtime.inverseToOsnr worse.osnrInverse ≤
      ctx.runtime.inverseToOsnr better.osnrInverse := by
  rcases worseSound.attained with zero | ⟨osnr, bounded, attained⟩
  · exact ctx.runtime.inverseToOsnr_anti order (le_refl (10 ^ 6 : K))
      (.inl zero.le)
  · exact ctx.runtime.inverseToOsnr_anti order bounded (.inr (.inr attained))

omit [IsStrictOrderedRing K] in
theorem NoiseSound.start {startPort : Nat} {label : Label K}
    (started : ctx.StartStep startPort label) : ctx.NoiseSound label := by
  rw [started.label_eq]
  exact ⟨le_rfl, .inl rfl⟩

/-- A lowest OSNR that the profile of a label or the request asks for. -/
def IsFloor (ctx : SearchContext K) (profileIndex : Option Nat) (floor : K) :
    Prop :=
  ctx.constraints.minSegmentOsnrDb = some floor ∨
    ∃ profile, profileIndex = some profile ∧
      (ctx.profileInfo profile).minOsnrDb = some floor

/-- Every floor that a label keeps is kept with less noise. -/
def KeepsFloors (ctx : SearchContext K) (label : Label K) : Prop :=
  ∀ better : Label K, better.osnrInverse ≤ label.osnrInverse →
    ∀ floor, ctx.IsFloor label.profileIndex floor →
      floor ≤ ctx.runtime.inverseToOsnr label.osnrInverse + Runtime.tolerance →
      floor ≤ ctx.runtime.inverseToOsnr better.osnrInverse + Runtime.tolerance

theorem NoiseSound.keepsFloors {label : Label K} (sound : ctx.NoiseSound label) :
    ctx.KeepsFloors label := by
  intro better order floor _ bound
  have anti := osnr_anti sound order
  linarith

/-- A label without noise has the highest OSNR, unless a floor above it is
asked for. -/
theorem keepsFloors_of_floor_le {label : Label K}
    (inRange : ∀ floor, ctx.IsFloor label.profileIndex floor →
      floor ≤ 10 ^ 9) : ctx.KeepsFloors label := by
  intro better order floor isFloor bound
  by_cases noiseless : better.osnrInverse ≤ 0
  · have highest : ctx.runtime.inverseToOsnr better.osnrInverse = 10 ^ 9 :=
      if_pos noiseless
    have slack : (0 : K) < Runtime.tolerance := Runtime.tolerance_pos
    have below := inRange floor isFloor
    linarith
  · have anti := ctx.runtime.inverseToOsnr_anti order (le_refl (10 ^ 6 : K))
      (.inr (.inl (not_le.mp noiseless)))
    linarith

end SearchContext

/-! ### Labels that are no worse -/

namespace Label

/-- The open segment and the usable channels are no worse. -/
structure SegmentCovers (better worse : Label K) : Prop where
  distanceM : better.distanceM.toNat ≤ worse.distanceM.toNat
  lossDb : better.lossDb ≤ worse.lossDb
  osnrInverse : better.osnrInverse ≤ worse.osnrInverse
  spanCount : better.spanCount ≤ worse.spanCount
  mask : ∀ slot, worse.mask.test slot = true → better.mask.test slot = true

/-- No quantity of the label is worse. -/
structure Covers (better worse : Label K) : Prop
    extends SegmentCovers better worse where
  cost : better.cost.toNat ≤ worse.cost.toNat
  hops : better.hops ≤ worse.hops
  regenerations : better.regenerations ≤ worse.regenerations

omit [Field K]

theorem Covers.refl (label : Label K) : Covers label label :=
  ⟨⟨le_rfl, le_rfl, le_rfl, le_rfl, fun _ => id⟩, le_rfl, le_rfl, le_rfl⟩

theorem SegmentCovers.trans {first second third : Label K}
    (left : SegmentCovers first second) (right : SegmentCovers second third) :
    SegmentCovers first third where
  distanceM := left.distanceM.trans right.distanceM
  lossDb := left.lossDb.trans right.lossDb
  osnrInverse := left.osnrInverse.trans right.osnrInverse
  spanCount := left.spanCount.trans right.spanCount
  mask slot isSet := left.mask slot (right.mask slot isSet)

theorem Covers.trans {first second third : Label K}
    (left : Covers first second) (right : Covers second third) :
    Covers first third where
  toSegmentCovers := left.toSegmentCovers.trans right.toSegmentCovers
  cost := left.cost.trans right.cost
  hops := left.hops.trans right.hops
  regenerations := left.regenerations.trans right.regenerations

theorem Dominates.covers {better worse : Label K} (order : Dominates better worse) :
    Covers better worse :=
  ⟨⟨order.distanceM, order.lossDb, order.osnrInverse, order.spanCount,
    order.mask⟩, order.cost, order.hops, order.regenerations⟩

theorem Covers.dominates {better worse : Label K} (covers : Covers better worse)
    (proven : worse.proven = true → better.proven = true) :
    Dominates better worse :=
  ⟨proven, covers.cost, covers.distanceM, covers.lossDb, covers.osnrInverse,
    covers.spanCount, covers.hops, covers.regenerations, covers.mask⟩

end Label

namespace SearchContext

variable {ctx : SearchContext K} [IsStrictOrderedRing K]

omit [IsStrictOrderedRing K] in
theorem WithinReach.of_better {better worse : Label K}
    (keeps : ctx.KeepsFloors worse) (order : Label.SegmentCovers better worse)
    (sameProfile : better.profileIndex = worse.profileIndex)
    (within : ctx.WithinReach worse) : ctx.WithinReach better where
  spans profile limit isProfile published :=
    order.spanCount.trans
      (within.spans profile limit (sameProfile ▸ isProfile) published)
  distance profile limit isProfile published := by
    have bound := within.distance profile limit (sameProfile ▸ isProfile)
      published
    rw [UInt64.le_iff_toNat_le] at bound ⊢
    exact order.distanceM.trans bound
  loss profile limit isProfile published :=
    order.lossDb.trans
      (within.loss profile limit (sameProfile ▸ isProfile) published)
  osnr profile limit isProfile published := by
    have isWorse := sameProfile ▸ isProfile
    exact keeps better order.osnrInverse limit (.inr ⟨profile, isWorse, published⟩)
      (within.osnr profile limit isWorse published)
  requestedOsnr floor requested :=
    keeps better order.osnrInverse floor (.inl requested)
      (within.requestedOsnr floor requested)

omit [IsStrictOrderedRing K] in
theorem WithinCeilings.of_better {better worse : Label K}
    (order : Label.SegmentCovers better worse)
    (within : ctx.WithinCeilings worse) : ctx.WithinCeilings better where
  distance limit requested := by
    have bound := within.distance limit requested
    rw [UInt64.le_iff_toNat_le] at bound ⊢
    exact order.distanceM.trans bound
  spans limit requested := order.spanCount.trans (within.spans limit requested)
  loss limit requested := order.lossDb.trans (within.loss limit requested)


/-! ### Two steps over one arc -/

section OneArc

variable {strong weak after next : Label K} {arc : ArcRef}

omit [IsStrictOrderedRing K]

theorem LabelStep.port_eq (first : ctx.LabelStep strong arc after)
    (second : ctx.LabelStep weak arc next) :
    after.portIndex = next.portIndex := by
  obtain ⟨kind, index, reversed⟩ := arc
  cases kind with
  | crossConnect =>
      have target := CrossConnectStep.target first
      rw [CrossConnectStep.target second] at target
      exact (Option.some.inj target).symm
  | span =>
      have target := SpanStep.target first
      rw [SpanStep.target second] at target
      exact (Option.some.inj target).symm

theorem LabelStep.profileIndex_eq
    (sameProfile : strong.profileIndex = weak.profileIndex)
    (first : ctx.LabelStep strong arc after)
    (second : ctx.LabelStep weak arc next) :
    after.profileIndex = next.profileIndex := by
  have port := first.port_eq second
  obtain ⟨kind, index, reversed⟩ := arc
  cases kind with
  | crossConnect =>
      have first : ctx.CrossConnectStep strong index after := first
      have second : ctx.CrossConnectStep weak index next := second
      rw [first.next_eq, second.next_eq, port]
      cases (ctx.crossConnect index).op with
      | express => exact sameProfile
      | convert => exact sameProfile
      | regenerate => rfl
  | span =>
      have first : ctx.SpanStep strong ⟨index, reversed⟩ after := first
      have second : ctx.SpanStep weak ⟨index, reversed⟩ next := second
      rw [first.next_eq, second.next_eq]
      exact sameProfile

theorem LabelStep.proven_of
    (proven : weak.proven = true → strong.proven = true)
    (sameProfile : strong.profileIndex = weak.profileIndex)
    (first : ctx.LabelStep strong arc after)
    (second : ctx.LabelStep weak arc next)
    (nextProven : next.proven = true) : after.proven = true := by
  have port := first.port_eq second
  obtain ⟨kind, index, reversed⟩ := arc
  cases kind with
  | crossConnect =>
      have first : ctx.CrossConnectStep strong index after := first
      have second : ctx.CrossConnectStep weak index next := second
      rw [second.next_eq] at nextProven
      rw [first.next_eq, port]
      cases op : (ctx.crossConnect index).op <;>
        simp only [op, operated, Bool.and_eq_true] at nextProven ⊢
      · exact ⟨proven nextProven.1, nextProven.2⟩
      · exact ⟨proven nextProven.1, nextProven.2⟩
      · exact ⟨⟨proven nextProven.1.1, nextProven.1.2⟩, nextProven.2⟩
  | span =>
      have first : ctx.SpanStep strong ⟨index, reversed⟩ after := first
      have second : ctx.SpanStep weak ⟨index, reversed⟩ next := second
      rw [second.next_eq] at nextProven
      rw [first.next_eq, port, sameProfile]
      simp only [Bool.and_eq_true] at nextProven ⊢
      exact ⟨⟨proven nextProven.1.1, nextProven.1.2⟩, nextProven.2⟩

variable (ctx) in
/-- What the operation of a cross-connect leaves of two segments. -/
theorem operated_covers {better worse : Label K} (op : CrossConnectOp)
    (info : CrossConnectInfo) (covers : Label.Covers better worse)
    (samePort : better.portIndex = worse.portIndex) :
    Label.Covers (ctx.operated op info better) (ctx.operated op info worse) := by
  cases op with
  | express =>
      refine ⟨⟨covers.distanceM, covers.lossDb, covers.osnrInverse,
        covers.spanCount, fun slot isSet => ?_⟩, covers.cost, covers.hops,
        covers.regenerations⟩
      simp only [operated, SlotMask.test_intersect, Bool.and_eq_true,
        samePort] at isSet ⊢
      exact ⟨⟨covers.mask slot isSet.1.1, isSet.1.2⟩, isSet.2⟩
  | convert =>
      refine ⟨⟨covers.distanceM, covers.lossDb, covers.osnrInverse,
        covers.spanCount, fun slot isSet => ?_⟩, covers.cost, covers.hops,
        covers.regenerations⟩
      simpa only [operated, samePort] using isSet
  | regenerate =>
      refine ⟨⟨le_rfl, le_rfl, le_rfl, le_rfl, fun slot isSet => ?_⟩,
        covers.cost, covers.hops, Nat.add_le_add_right covers.regenerations 1⟩
      simpa only [operated, samePort] using isSet

/-- Of two labels at one port, the one that is no worse stays no worse. -/
theorem LabelStep.covers [IsStrictOrderedRing K] (covers : Label.Covers strong weak)
    (samePort : strong.portIndex = weak.portIndex)
    (first : ctx.LabelStep strong arc after)
    (second : ctx.LabelStep weak arc next) : Label.Covers after next := by
  have port := first.port_eq second
  obtain ⟨kind, index, reversed⟩ := arc
  cases kind with
  | crossConnect =>
      have first : ctx.CrossConnectStep strong index after := first
      have second : ctx.CrossConnectStep weak index next := second
      have less := extendCost_eq_some first.cost
      have more := extendCost_eq_some second.cost
      have order := covers.cost
      rw [samePort, port] at less
      rw [first.next_eq, second.next_eq]
      refine ctx.operated_covers _ _ ⟨⟨covers.distanceM, covers.lossDb,
        covers.osnrInverse, covers.spanCount, covers.mask⟩, ?_,
        Nat.add_le_add_right covers.hops 1, covers.regenerations⟩ port
      change after.cost.toNat ≤ next.cost.toNat
      omega
  | span =>
      have first : ctx.SpanStep strong ⟨index, reversed⟩ after := first
      have second : ctx.SpanStep weak ⟨index, reversed⟩ next := second
      have less := extendCost_eq_some first.cost
      have more := extendCost_eq_some second.cost
      have order := covers.cost
      rw [samePort, port] at less
      obtain ⟨distance, length, shorter⟩ :=
        extendDistance_mono covers.distanceM second.distance
      obtain rfl := Option.some.inj (length.symm.trans first.distance)
      refine ⟨⟨shorter, ?_, ?_, ?_, ?_⟩, by omega, ?_, ?_⟩
      case refine_4 =>
        intro slot isSet
        rw [second.next_eq] at isSet
        rw [first.next_eq, port]
        simp only [SlotMask.test_intersect, Bool.and_eq_true] at isSet ⊢
        exact ⟨⟨covers.mask slot isSet.1.1, isSet.1.2⟩, isSet.2⟩
      all_goals rw [first.next_eq, second.next_eq]
      · exact add_le_add_left covers.lossDb _
      · exact add_le_add_left covers.osnrInverse _
      · exact Nat.add_le_add_right covers.spanCount 1
      · exact Nat.add_le_add_right covers.hops 1
      · exact covers.regenerations

/-- A label that is no worse crosses every cross-connect. -/
theorem CrossConnectStep.of_covers {index : Nat} (covers : Label.Covers strong weak)
    (samePort : strong.portIndex = weak.portIndex)
    (step : ctx.CrossConnectStep weak index next) :
    ∃ after, ctx.CrossConnectStep strong index after := by
  obtain ⟨cost, added, costLe⟩ := extendCost_mono covers.cost step.cost
  let reached : Label K := { strong with
    portIndex := next.portIndex
    arrival := some ⟨.crossConnect, index, false⟩
    cost := cost
    hops := strong.hops + 1
    proven := strong.proven && ctx.crossConnectSound index next.portIndex }
  have port : (ctx.operated (ctx.crossConnect index).op
      (ctx.crossConnectInfo index) reached).portIndex = next.portIndex :=
    operated_portIndex ..
  have sum : (ctx.operated (ctx.crossConnect index).op
      (ctx.crossConnectInfo index) reached).cost = cost := operated_cost ..
  have channels := ctx.operated_covers (ctx.crossConnect index).op
    (ctx.crossConnectInfo index)
    (⟨⟨covers.distanceM, covers.lossDb, covers.osnrInverse, covers.spanCount,
      covers.mask⟩, costLe, Nat.add_le_add_right covers.hops 1,
      covers.regenerations⟩ : Label.Covers reached { weak with
        portIndex := next.portIndex
        arrival := some ⟨.crossConnect, index, false⟩
        cost := next.cost
        hops := weak.hops + 1
        proven := weak.proven && ctx.crossConnectSound index next.portIndex }) rfl
  rw [← step.next_eq] at channels
  refine ⟨ctx.operated (ctx.crossConnect index).op (ctx.crossConnectInfo index)
    reached, step.allowed, step.admin, ?_, step.domains, ?_, ?_, ?_, ?_, ?_, ?_,
    isEmpty_eq_false_of_subset channels.mask step.channel⟩
  · rw [port]
    exact step.target
  · obtain ⟨regeneration, conversion, limit, transmitter⟩ := step.operation
    refine ⟨regeneration, conversion,
      fun regenerates => covers.regenerations.trans_lt (limit regenerates), ?_⟩
    rw [port]
    exact transmitter
  · exact (Nat.add_le_add_right covers.hops 1).trans step.hopLimit
  · rw [port, sum, samePort]
    exact added
  · rw [sum]
    exact costCeilingExceeded_mono costLe step.ceiling
  · rw [port]
    exact step.portAdmin
  · rw [port, sum]

/-- A label that is no worse crosses every span in a segment of the same
profile. -/
theorem SpanStep.of_covers [IsStrictOrderedRing K] {crossed : SpanArc}
    (keeps : ctx.KeepsFloors next) (covers : Label.Covers strong weak)
    (sameProfile : strong.profileIndex = weak.profileIndex)
    (samePort : strong.portIndex = weak.portIndex)
    (step : ctx.SpanStep weak crossed next) :
    ∃ after, ctx.SpanStep strong crossed after := by
  obtain ⟨cost, added, costLe⟩ := extendCost_mono covers.cost step.cost
  obtain ⟨distance, length, distanceLe⟩ :=
    extendDistance_mono covers.distanceM step.distance
  let after : Label K := { strong with
    portIndex := next.portIndex
    arrival := some ⟨.span, crossed.spanIndex, crossed.reversed⟩
    mask := (strong.mask.intersect
      (ctx.spanInfo crossed.spanIndex).baseMask).intersect
        (ctx.portInfo next.portIndex).baseMask
    cost := cost
    distanceM := distance
    lossDb := strong.lossDb + (ctx.spanInfo crossed.spanIndex).lossDb.getD 0
    osnrInverse := strong.osnrInverse +
      ((ctx.spanInfo crossed.spanIndex).osnrDb.map ctx.runtime.osnrToInverse).getD 0
    spanCount := strong.spanCount + 1
    hops := strong.hops + 1
    proven := strong.proven && ctx.spanSound crossed.spanIndex next.portIndex &&
      ctx.reachSound strong.profileIndex }
  have segment : Label.SegmentCovers after next := by
    refine ⟨distanceLe, ?_, ?_, ?_, ?_⟩
    case refine_4 =>
      intro slot isSet
      rw [step.next_eq] at isSet
      simp only [after, SlotMask.test_intersect, Bool.and_eq_true] at isSet ⊢
      exact ⟨⟨covers.mask slot isSet.1.1, isSet.1.2⟩, isSet.2⟩
    all_goals rw [step.next_eq]
    · exact add_le_add_left covers.lossDb _
    · exact add_le_add_left covers.osnrInverse _
    · exact Nat.add_le_add_right covers.spanCount 1
  have profile : after.profileIndex = next.profileIndex := by
    rw [step.next_eq]
    exact sameProfile
  refine ⟨after, step.target, step.allowed, step.domains, step.admin, ?_, ?_, ?_,
    length, step.portAdmin, rfl, ?_, ?_, ?_⟩
  · exact (Nat.add_le_add_right covers.hops 1).trans step.hopLimit
  · rw [samePort]
    exact added
  · exact costCeilingExceeded_mono costLe step.ceiling
  · exact isEmpty_eq_false_of_subset segment.mask step.channel
  · exact step.reach.of_better keeps segment profile
  · exact step.ceilings.of_better segment

/-- A label that is no worse takes every step in a segment of the same
profile. -/
theorem LabelStep.of_covers [IsStrictOrderedRing K] (keeps : ctx.KeepsFloors next)
    (covers : Label.Covers strong weak)
    (sameProfile : strong.profileIndex = weak.profileIndex)
    (samePort : strong.portIndex = weak.portIndex)
    (step : ctx.LabelStep weak arc next) :
    ∃ after, ctx.LabelStep strong arc after := by
  obtain ⟨kind, index, reversed⟩ := arc
  cases kind with
  | crossConnect => exact CrossConnectStep.of_covers covers samePort step
  | span => exact SpanStep.of_covers keeps covers sameProfile samePort step

end OneArc

/-! ### What a step does to the label it starts from -/

/-- A step over an arc that leaves the port of the label. -/
def Follows (ctx : SearchContext K) (current : Label K) (arc : ArcRef)
    (next : Label K) : Prop :=
  arc ∈ ctx.outgoingArcs current.portIndex ∧ ctx.LabelStep current arc next

/-- The arc converts the channel or regenerates the signal. -/
def Resets (ctx : SearchContext K) (arc : ArcRef) : Prop :=
  arc.kind = .crossConnect ∧ (ctx.crossConnect arc.index).op ≠ .express

instance (arc : ArcRef) : Decidable (ctx.Resets arc) :=
  inferInstanceAs (Decidable (_ ∧ _))

section Worsening

variable {current next : Label K} {arc : ArcRef} {port index : Nat}
  {reversed : Bool}

omit [IsStrictOrderedRing K] in
theorem LabelStep.regenerations_le (step : ctx.LabelStep current arc next) :
    current.regenerations ≤ next.regenerations := by
  obtain ⟨kind, index, reversed⟩ := arc
  cases kind with
  | crossConnect =>
      have step : ctx.CrossConnectStep current index next := step
      rw [step.next_eq]
      cases (ctx.crossConnect index).op with
      | express => exact le_rfl
      | convert => exact le_rfl
      | regenerate => exact Nat.le_succ _
  | span =>
      have step : ctx.SpanStep current ⟨index, reversed⟩ next := step
      rw [step.next_eq]

omit [IsStrictOrderedRing K] in
theorem op_eq_express (plain : ¬ ctx.Resets ⟨.crossConnect, index, reversed⟩) :
    (ctx.crossConnect index).op = .express := by
  by_contra other
  exact plain ⟨rfl, other⟩

omit [IsStrictOrderedRing K] in
theorem LabelStep.profileIndex_of_plain (plain : ¬ ctx.Resets arc)
    (step : ctx.LabelStep current arc next) :
    next.profileIndex = current.profileIndex := by
  obtain ⟨kind, index, reversed⟩ := arc
  cases kind with
  | crossConnect =>
      have step : ctx.CrossConnectStep current index next := step
      rw [step.next_eq, op_eq_express plain]
      rfl
  | span =>
      have step : ctx.SpanStep current ⟨index, reversed⟩ next := step
      rw [step.next_eq]

variable (formed : ctx.snapshot.WellFormed)
include formed

omit [IsStrictOrderedRing K] in
theorem span_mem (leaves : ⟨.span, index, reversed⟩ ∈ ctx.outgoingArcs port) :
    ctx.span index ∈ ctx.snapshot.spans := by
  obtain ⟨span, _, atIndex, _⟩ := formed.spanArcs port ⟨index, reversed⟩
    (mem_outgoingArcs_span.mp leaves)
  rw [span_eq atIndex]
  exact List.mem_of_getElem? atIndex

omit [IsStrictOrderedRing K] in
theorem loss_nonneg (leaves : ⟨.span, index, reversed⟩ ∈ ctx.outgoingArcs port) :
    0 ≤ (ctx.spanInfo index).lossDb.getD 0 := by
  have member := span_mem formed leaves
  change 0 ≤ (ctx.span index).lossDb.value?.getD 0
  cases published : (ctx.span index).lossDb with
  | known loss => exact formed.loss _ member loss published
  | unknown => exact le_rfl
  | conflicting => exact le_rfl

omit [IsStrictOrderedRing K] in
/-- The noise of a span is nothing or that of an OSNR in range. -/
theorem noise_cases (leaves : ⟨.span, index, reversed⟩ ∈ ctx.outgoingArcs port) :
    ((ctx.spanInfo index).osnrDb.map ctx.runtime.osnrToInverse).getD 0 = 0 ∨
      ∃ osnr ≤ 10 ^ 6, ((ctx.spanInfo index).osnrDb.map
        ctx.runtime.osnrToInverse).getD 0 = ctx.runtime.osnrToInverse osnr := by
  have member := span_mem formed leaves
  change ((ctx.span index).osnrDb.value?.map ctx.runtime.osnrToInverse).getD 0 =
      0 ∨ ∃ osnr ≤ 10 ^ 6, ((ctx.span index).osnrDb.value?.map
        ctx.runtime.osnrToInverse).getD 0 = ctx.runtime.osnrToInverse osnr
  cases published : (ctx.span index).osnrDb with
  | known osnr =>
      have inRange := formed.osnr _ member osnr published
      exact .inr ⟨osnr, inRange.trans_eq (by norm_num), rfl⟩
  | unknown => exact .inl rfl
  | conflicting => exact .inl rfl

omit [IsStrictOrderedRing K] in
theorem noise_nonneg (leaves : ⟨.span, index, reversed⟩ ∈ ctx.outgoingArcs port) :
    0 ≤ ((ctx.spanInfo index).osnrDb.map ctx.runtime.osnrToInverse).getD 0 := by
  rcases noise_cases formed leaves with zero | ⟨osnr, _, noise⟩
  · exact zero.symm.le
  · rw [noise]
    exact (ctx.runtime.osnrToInverse_pos osnr).le

/-- Noise stays sound along a step. -/
theorem Follows.noiseSound (sound : ctx.NoiseSound current)
    (step : ctx.Follows current arc next) : ctx.NoiseSound next := by
  obtain ⟨leaves, step⟩ := step
  obtain ⟨kind, index, reversed⟩ := arc
  cases kind with
  | crossConnect =>
      have step : ctx.CrossConnectStep current index next := step
      rw [step.next_eq]
      cases (ctx.crossConnect index).op with
      | express => exact ⟨sound.nonneg, sound.attained⟩
      | convert => exact ⟨sound.nonneg, sound.attained⟩
      | regenerate => exact ⟨le_rfl, .inl rfl⟩
  | span =>
      have step : ctx.SpanStep current ⟨index, reversed⟩ next := step
      have added : next.osnrInverse = current.osnrInverse + ((ctx.spanInfo
          index).osnrDb.map ctx.runtime.osnrToInverse).getD 0 := by
        rw [step.next_eq]
      obtain ⟨nonneg, attained⟩ := sound
      refine ⟨?_, ?_⟩
      · rw [added]
        exact add_nonneg nonneg (noise_nonneg formed leaves)
      · rw [added]
        rcases noise_cases formed leaves with zero | ⟨osnr, bounded, noise⟩
        · rw [zero, add_zero]
          exact attained
        · rw [noise]
          exact .inr ⟨osnr, bounded, by linarith⟩

/-- A step that neither converts nor regenerates improves nothing. -/
theorem Follows.covered (step : ctx.Follows current arc next)
    (plain : ¬ ctx.Resets arc) : Label.Covers current next := by
  obtain ⟨leaves, step⟩ := step
  have cost := step.cost_le
  have hops := step.hops
  have regenerations := step.regenerations_le
  obtain ⟨kind, index, reversed⟩ := arc
  cases kind with
  | crossConnect =>
      have step : ctx.CrossConnectStep current index next := step
      have nextEq := step.next_eq
      rw [op_eq_express plain] at nextEq
      refine ⟨⟨?_, ?_, ?_, ?_, ?_⟩, cost, by omega, regenerations⟩
      all_goals rw [nextEq]
      · exact le_rfl
      · exact le_rfl
      · exact le_rfl
      · exact le_rfl
      · intro slot isSet
        simp only [operated, SlotMask.test_intersect, Bool.and_eq_true] at isSet
        exact isSet.1.1
  | span =>
      have step : ctx.SpanStep current ⟨index, reversed⟩ next := step
      have loss := loss_nonneg formed leaves
      have noise := noise_nonneg formed leaves
      have distance := le_of_extendDistance step.distance
      have nextEq := step.next_eq
      refine ⟨⟨distance, ?_, ?_, ?_, ?_⟩, cost, by omega, regenerations⟩
      all_goals rw [nextEq]
      · exact le_add_of_nonneg_right loss
      · exact le_add_of_nonneg_right noise
      · exact Nat.le_succ _
      · intro slot isSet
        simp only [SlotMask.test_intersect, Bool.and_eq_true] at isSet
        exact isSet.1.1

end Worsening

/-! ### One more arc of a simple walk -/

section SimpleWalks

variable {startPort : Nat} {arcs : List ArcRef} {arc : ArcRef}
  {current next : Label K} {ancestors : List (Label K)}

omit [IsStrictOrderedRing K]

/-- Stepping back over the span a label arrived by leads to a port of its
path. -/
theorem backtrack_mem (formed : ctx.snapshot.WellFormed) {previous : Label K}
    {before : ArcRef} (arrived : ctx.Follows previous before current)
    (step : ctx.Follows current arc next) (isSpan : arc.kind = .span)
    (back : arrivedBySpan current arc.index = true) :
    next.portIndex = current.portIndex ∨
      next.portIndex = previous.portIndex := by
  obtain ⟨kind, index, reversed⟩ := arc
  obtain rfl : kind = .span := isSpan
  have arrival := arrived.2.arrival arrived.1
  rw [arrivedBySpan, arrival] at back
  simp only [Bool.and_eq_true, decide_eq_true_eq] at back
  obtain ⟨beforeKind, beforeIndex, beforeReversed⟩ := before
  obtain ⟨rfl, rfl⟩ := back
  obtain ⟨span, _, atIndex, leftFrom, _⟩ := formed.spanArcs _ _
    (mem_outgoingArcs_span.mp arrived.1)
  obtain ⟨same, _, sameAt, leavesFrom, _⟩ := formed.spanArcs _ _
    (mem_outgoingArcs_span.mp step.1)
  rw [atIndex] at sameAt
  cases sameAt
  have cameTo := SpanStep.target arrived.2
  have goesTo := SpanStep.target step.2
  unfold spanTarget at cameTo goesTo
  rw [span_eq atIndex] at cameTo goesTo
  unfold SpanRecord.arrival at cameTo goesTo
  unfold SpanRecord.departure at leftFrom leavesFrom
  cases beforeReversed <;> cases reversed <;> simp_all

/-- A walk that visits no port twice never turns back over the span it arrived
by. -/
theorem noBacktrack (formed : ctx.snapshot.WellFormed)
    (walked : ctx.walk startPort arcs = some (current :: ancestors))
    (step : ctx.Follows current arc next)
    (loopFree : next.portIndex ∉ (current :: ancestors).map Label.portIndex)
    (isSpan : arc.kind = .span) : arrivedBySpan current arc.index = false := by
  cases back : arrivedBySpan current arc.index with
  | false => rfl
  | true =>
      exfalso
      cases arcs using List.reverseRecOn with
      | nil =>
          obtain ⟨label, started, same⟩ := walk_nil.mp walked
          obtain ⟨rfl, rfl⟩ := List.cons.inj same
          rw [arrivedBySpan, (yields_startLabel_iff.mp started).label_eq] at back
          cases back
      | append_singleton arcs before =>
          obtain ⟨previous, earlier, last, _, same, leaves, yielded⟩ :=
            walk_concat.mp walked
          obtain ⟨rfl, rfl⟩ := List.cons.inj same
          have arrived : ctx.Follows previous before current :=
            ⟨leaves, (yields_expandArc_iff.mp yielded).1⟩
          rcases backtrack_mem formed arrived step isSpan back with here | behind
          · exact loopFree (by simp [here])
          · exact loopFree (by simp [behind])

/-- Without member limits the loop check is all that a walk has to say about
one more arc. -/
theorem walk_concat_of_follows (formed : ctx.snapshot.WellFormed)
    (unlimited : ctx.constraints.maxMembersPerFailureDomain = [])
    (walked : ctx.walk startPort arcs = some (current :: ancestors))
    (step : ctx.Follows current arc next)
    (loopFree : next.portIndex ∉ (current :: ancestors).map Label.portIndex) :
    ctx.walk startPort (arcs ++ [arc]) = some (next :: current :: ancestors) :=
  walk_concat.mpr ⟨_, _, _, walked, rfl, step.1,
    yields_expandArc_iff.mpr ⟨step.2, loopFree,
      noBacktrack formed walked step loopFree,
      by simp [memberLimitExceeded, unlimited]⟩⟩

end SimpleWalks

end SearchContext

end OpticalPathPlanner
