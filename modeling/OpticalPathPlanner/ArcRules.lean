import OpticalPathPlanner.ArcExpansion
import Mathlib

/-!
# What an expansion accepts

The label on the other side of an arc, as a relation.  The relation splits
into a part that looks only at the label being expanded and a part that looks
at the whole path: the loop check, the immediate-backtracking check and the
failure-domain members.  Dominance speaks about the first part only.
-/

namespace OpticalPathPlanner

open SortedRanges Traced

namespace SearchContext

variable {K : Type} [Field K] [LinearOrder K] (ctx : SearchContext K)

/-- Every fact of a port that a proven label relies on is published. -/
def portSound (portIndex : Nat) : Bool :=
  let info := ctx.portInfo portIndex
  decide (info.admin = .good) && !info.conflicting && !info.partialCoverage &&
    !info.unresolvedArcs

/-- The facts of a cross-connect that a proven label relies on. -/
def crossConnectSound (index toPort : Nat) : Bool :=
  let info := ctx.crossConnectInfo index
  decide (info.admin = .good) && ctx.portSound toPort &&
    (info.maskKnown && (ctx.portInfo toPort).maskKnown)

/-- The facts of a span that a proven label relies on. -/
def spanSound (index toPort : Nat) : Bool :=
  let info := ctx.spanInfo index
  (info.lengthM.isSome && info.lossDb.isSome && info.osnrDb.isSome) &&
    decide (info.admin = .good) && !info.conflicting && ctx.portSound toPort &&
    (info.maskKnown && (ctx.portInfo toPort).maskKnown)

/-- The facts of the segment's profile that a proven label relies on. -/
def reachSound (profileIndex : Option Nat) : Bool :=
  match profileIndex with
  | some index => (ctx.profileInfo index).minOsnrDb.isSome
  | none => false

/-- The label after the operation of a cross-connect. -/
def operated (op : CrossConnectOp) (info : CrossConnectInfo) (next : Label K) :
    Label K :=
  let target := ctx.portInfo next.portIndex
  match op with
  | .express => { next with
      mask := (next.mask.intersect info.baseMask).intersect target.baseMask }
  | .convert => { next with mask := target.baseMask }
  | .regenerate => { next with
      profileIndex := target.profileIndex
      mask := target.baseMask
      distanceM := 0
      lossDb := 0
      osnrInverse := 0
      spanCount := 0
      regenerations := next.regenerations + 1
      proven := next.proven && decide (target.transmit = .good) }

@[simp]
theorem operated_portIndex (op : CrossConnectOp) (info : CrossConnectInfo)
    (next : Label K) : (ctx.operated op info next).portIndex = next.portIndex := by
  cases op <;> rfl

@[simp]
theorem operated_arrival (op : CrossConnectOp) (info : CrossConnectInfo)
    (next : Label K) : (ctx.operated op info next).arrival = next.arrival := by
  cases op <;> rfl

@[simp]
theorem operated_cost (op : CrossConnectOp) (info : CrossConnectInfo)
    (next : Label K) : (ctx.operated op info next).cost = next.cost := by
  cases op <;> rfl

@[simp]
theorem operated_hops (op : CrossConnectOp) (info : CrossConnectInfo)
    (next : Label K) : (ctx.operated op info next).hops = next.hops := by
  cases op <;> rfl

/-- The request allows the operation of a cross-connect at this label. -/
structure OperationAllowed (op : CrossConnectOp) (current : Label K)
    (toPort : Nat) : Prop where
  regeneration : op = .regenerate → ctx.constraints.allowRegeneration = true
  conversion : op = .convert →
    ctx.constraints.allowWavelengthConversion = true
  regenerationLimit : op = .regenerate →
    current.regenerations < ctx.rules.maxRegenerations
  transmitter : op = .regenerate → (ctx.portInfo toPort).transmitAbsent = false

/-- One cross-connect step, as far as the label alone decides it. -/
structure CrossConnectStep (current : Label K) (index : Nat)
    (next : Label K) : Prop where
  allowed : (ctx.crossConnectExcluded (ctx.crossConnect index).id ||
    ctx.nodeExcluded (ctx.crossConnect index).toPort.node ||
    ctx.portExcluded (ctx.crossConnect index).toPort) = false
  admin : (ctx.crossConnectInfo index).admin ≠ .blocked
  target : (ctx.crossConnectInfo index).toPort = some next.portIndex
  domains : ctx.domainsExcluded (ctx.crossConnect index).failureDomains = false
  operation : ctx.OperationAllowed (ctx.crossConnect index).op current
    next.portIndex
  hopLimit : current.hops + 1 ≤ ctx.rules.maxHops
  cost : ctx.extendCost current.cost (ctx.crossConnect index).cost
    current.portIndex next.portIndex = some next.cost
  ceiling : ctx.costCeilingExceeded next.cost = false
  portAdmin : (ctx.portInfo next.portIndex).admin ≠ .blocked
  next_eq : next = ctx.operated (ctx.crossConnect index).op
    (ctx.crossConnectInfo index) { current with
      portIndex := next.portIndex
      arrival := some ⟨.crossConnect, index, false⟩
      cost := next.cost
      hops := current.hops + 1
      proven := current.proven && ctx.crossConnectSound index next.portIndex }
  channel : next.mask.isEmpty = false

/-- The open segment stays within the published limits of its profile and
above the OSNR the request asks for. -/
structure WithinReach (label : Label K) : Prop where
  spans : ∀ profile limit, label.profileIndex = some profile →
    (ctx.profileInfo profile).maxSpanCount = some limit →
    label.spanCount ≤ limit.toNat
  distance : ∀ profile limit, label.profileIndex = some profile →
    (ctx.profileInfo profile).maxDistanceM = some limit →
    label.distanceM ≤ limit
  loss : ∀ profile limit, label.profileIndex = some profile →
    (ctx.profileInfo profile).maxLossDb = some limit →
    label.lossDb ≤ limit + Runtime.tolerance
  osnr : ∀ profile limit, label.profileIndex = some profile →
    (ctx.profileInfo profile).minOsnrDb = some limit →
    limit ≤ ctx.runtime.inverseToOsnr label.osnrInverse + Runtime.tolerance
  requestedOsnr : ∀ floor, ctx.constraints.minSegmentOsnrDb = some floor →
    floor ≤ ctx.runtime.inverseToOsnr label.osnrInverse + Runtime.tolerance

/-- The open segment stays within the ceilings of the request. -/
structure WithinCeilings (label : Label K) : Prop where
  distance : ∀ limit, ctx.constraints.maxTotalDistanceM = some limit →
    label.distanceM ≤ limit
  spans : ∀ limit, ctx.constraints.maxTotalSpanCount = some limit →
    label.spanCount ≤ limit.toNat
  loss : ∀ limit, ctx.constraints.maxTotalLossDb = some limit →
    label.lossDb ≤ limit + Runtime.tolerance

variable {ctx}

theorem WithinReach.of_proven {label : Label K} {proven : Bool}
    (within : ctx.WithinReach label) :
    ctx.WithinReach { label with proven := proven } :=
  ⟨within.spans, within.distance, within.loss, within.osnr,
    within.requestedOsnr⟩

theorem WithinCeilings.of_proven {label : Label K} {proven : Bool}
    (within : ctx.WithinCeilings label) :
    ctx.WithinCeilings { label with proven := proven } :=
  ⟨within.distance, within.spans, within.loss⟩

variable (ctx)

/-- The distance after a span, or nothing when 64 bits do not hold it. -/
def extendDistance (distance : UInt64) (length : Option UInt64) :
    Option UInt64 :=
  match length with
  | some length => addCheckedU64 distance length
  | none => some distance

/-- One span step, as far as the label alone decides it. -/
structure SpanStep (current : Label K) (arc : SpanArc) (next : Label K) :
    Prop where
  target : ctx.snapshot.portIndex (ctx.spanTarget arc) = some next.portIndex
  allowed : (ctx.spanExcluded (ctx.span arc.spanIndex).id ||
    ctx.nodeExcluded (ctx.spanTarget arc).node ||
    ctx.portExcluded (ctx.spanTarget arc)) = false
  domains : ctx.domainsExcluded (ctx.span arc.spanIndex).failureDomains = false
  admin : (ctx.spanInfo arc.spanIndex).admin ≠ .blocked
  hopLimit : current.hops + 1 ≤ ctx.rules.maxHops
  cost : ctx.extendCost current.cost (ctx.span arc.spanIndex).cost
    current.portIndex next.portIndex = some next.cost
  ceiling : ctx.costCeilingExceeded next.cost = false
  distance : extendDistance current.distanceM
    (ctx.spanInfo arc.spanIndex).lengthM = some next.distanceM
  portAdmin : (ctx.portInfo next.portIndex).admin ≠ .blocked
  next_eq : next = { current with
    portIndex := next.portIndex
    arrival := some ⟨.span, arc.spanIndex, arc.reversed⟩
    mask := (current.mask.intersect
      (ctx.spanInfo arc.spanIndex).baseMask).intersect
        (ctx.portInfo next.portIndex).baseMask
    cost := next.cost
    distanceM := next.distanceM
    lossDb := current.lossDb + (ctx.spanInfo arc.spanIndex).lossDb.getD 0
    osnrInverse := current.osnrInverse +
      ((ctx.spanInfo arc.spanIndex).osnrDb.map ctx.runtime.osnrToInverse).getD 0
    spanCount := current.spanCount + 1
    hops := current.hops + 1
    proven := current.proven && ctx.spanSound arc.spanIndex next.portIndex &&
      ctx.reachSound current.profileIndex }
  channel : next.mask.isEmpty = false
  reach : ctx.WithinReach next
  ceilings : ctx.WithinCeilings next

/-- One step over an arc, as far as the label alone decides it. -/
def LabelStep (current : Label K) (arc : ArcRef) (next : Label K) : Prop :=
  match arc.kind with
  | .crossConnect => ctx.CrossConnectStep current arc.index next
  | .span => ctx.SpanStep current ⟨arc.index, arc.reversed⟩ next

/-- What the path as a whole has to say about one more arc. -/
structure PathAllows (current : Label K) (ancestors : List (Label K))
    (arc : ArcRef) (toPort : Nat) : Prop where
  loopFree : toPort ∉ (current :: ancestors).map Label.portIndex
  noBacktrack : arc.kind = .span → arrivedBySpan current arc.index = false
  members : ctx.memberLimitExceeded (current :: ancestors) current.portIndex
    arc toPort = false

variable {ctx}

theorem not_ne_good (fact : Fact) :
    (!(fact != .good)) = decide (fact = .good) := by
  cases fact <;> rfl

theorem yields_admitPort_iff {proven after : Bool} {portIndex : Nat}
    {reason : CutReason} :
    (ctx.admitPort proven portIndex reason).Yields after ↔
      (ctx.portInfo portIndex).admin ≠ .blocked ∧
        (proven && ctx.portSound portIndex) = after := by
  unfold admitPort portSound
  rw [yields_stopIf_bind_iff, decide_eq_false_iff_not]
  refine and_congr_right fun notBlocked => ?_
  have known : (!decide ((ctx.portInfo portIndex).admin = .missing)) =
      decide ((ctx.portInfo portIndex).admin = .good) := by
    cases admin : (ctx.portInfo portIndex).admin with
    | good => rfl
    | blocked => exact (notBlocked admin).elim
    | missing => rfl
  rw [yields_doubtIf_bind_iff, yields_doubtIf_bind_iff, yields_doubtIf_bind_iff,
    yields_doubtIf_iff, known]
  simp only [Bool.and_assoc]

theorem yields_operate_iff {op : CrossConnectOp} {info : CrossConnectInfo}
    {next after : Label K} :
    (ctx.operate op info next).Yields after ↔
      (op = .regenerate →
        (ctx.portInfo next.portIndex).transmitAbsent = false) ∧
        ctx.operated op info next = after := by
  unfold operate operated
  cases op with
  | express => exact yields_pure_iff.trans ⟨fun same => ⟨nofun, same⟩, And.right⟩
  | convert => exact yields_pure_iff.trans ⟨fun same => ⟨nofun, same⟩, And.right⟩
  | regenerate =>
      simp only [yields_stopIf_bind_iff, yields_doubtIf_bind_iff,
        yields_pure_iff, true_imp_iff, not_ne_good]

theorem yields_accumulate_iff {record : SpanRecord K} {info : SpanInfo K}
    {next after : Label K} :
    (ctx.accumulate record info next).Yields after ↔
      ∃ distance, extendDistance next.distanceM info.lengthM = some distance ∧
        { next with
          distanceM := distance
          lossDb := next.lossDb + info.lossDb.getD 0
          osnrInverse := next.osnrInverse +
            (info.osnrDb.map ctx.runtime.osnrToInverse).getD 0
          proven := next.proven && (info.lengthM.isSome &&
            info.lossDb.isSome && info.osnrDb.isSome) } = after := by
  unfold accumulate
  simp only [yields_demand_bind_iff, yields_doubtIf_bind_iff, yields_pure_iff,
    Option.not_isNone, Bool.and_assoc]
  rfl

theorem le_osnrFloor (minOsnrDb : K) : minOsnrDb ≤ ctx.osnrFloor minOsnrDb := by
  unfold osnrFloor
  split
  · exact le_max_left _ _
  · exact le_rfl

theorem requested_le_osnrFloor (minOsnrDb : K) {floor : K}
    (requested : ctx.constraints.minSegmentOsnrDb = some floor) :
    floor ≤ ctx.osnrFloor minOsnrDb := by
  simp [osnrFloor, requested]

theorem osnrFloor_le {minOsnrDb bound : K} (profileFloor : minOsnrDb ≤ bound)
    (requestFloor : ∀ floor, ctx.constraints.minSegmentOsnrDb = some floor →
      floor ≤ bound) :
    ctx.osnrFloor minOsnrDb ≤ bound := by
  unfold osnrFloor
  cases requested : ctx.constraints.minSegmentOsnrDb with
  | none => exact profileFloor
  | some floor => exact max_le profileFloor (requestFloor floor requested)

private theorem any_eq_false_iff {α : Type} {value : Option α}
    {condition : α → Bool} :
    value.any condition = false ↔
      ∀ limit, value = some limit → condition limit = false := by
  cases value <;> simp

theorem yields_judgeReach_iff {fromPort : Nat} {next : Label K} {after : Bool} :
    (ctx.judgeReach fromPort next).Yields after ↔
      ctx.WithinReach next ∧
        (next.proven && ctx.reachSound next.profileIndex) = after := by
  unfold judgeReach reachSound
  cases profile : next.profileIndex with
  | none =>
      simp only [yields_doubtIf_bind_iff, yields_stopIf_bind_iff,
        any_eq_false_iff, osnrBelow, decide_eq_false_iff_not, not_lt,
        yields_pure_iff, Bool.not_true]
      refine and_congr_left fun _ => ?_
      constructor
      · intro requested
        exact ⟨by simp [profile], by simp [profile], by simp [profile],
          by simp [profile], requested⟩
      · exact WithinReach.requestedOsnr
  | some index =>
      simp only [yields_stopIf_bind_iff, yields_doubtIf_bind_iff,
        yields_pure_iff, any_eq_false_iff, osnrBelow, decide_eq_false_iff_not,
        gt_iff_lt, not_lt, UInt64.not_lt, Option.not_isNone,
        Bool.and_eq_false_imp, Option.isNone_iff_eq_none]
      constructor
      · rintro ⟨spans, distance, loss, osnr, unpublished, same⟩
        refine ⟨⟨?_, ?_, ?_, ?_, ?_⟩, same⟩
        · rintro other limit sameProfile
          cases profile.symm.trans sameProfile
          exact spans limit
        · rintro other limit sameProfile
          cases profile.symm.trans sameProfile
          exact distance limit
        · rintro other limit sameProfile
          cases profile.symm.trans sameProfile
          exact loss limit
        · rintro other limit sameProfile published
          cases profile.symm.trans sameProfile
          exact (le_osnrFloor limit).trans (osnr limit published)
        · intro floor requested
          cases published : (ctx.profileInfo index).minOsnrDb with
          | none => exact unpublished published floor requested
          | some limit =>
              exact (requested_le_osnrFloor limit requested).trans
                (osnr limit published)
      · rintro ⟨within, same⟩
        refine ⟨fun limit => within.spans index limit profile,
          fun limit => within.distance index limit profile,
          fun limit => within.loss index limit profile, ?_,
          fun _ => within.requestedOsnr, same⟩
        intro limit published
        exact osnrFloor_le (within.osnr index limit profile published)
          within.requestedOsnr

theorem yields_checkCeilings_iff {next : Label K} :
    (ctx.checkCeilings next).Yields () ↔ ctx.WithinCeilings next := by
  unfold checkCeilings
  simp only [yields_stopIf_bind_iff, yields_stopIf_iff, any_eq_false_iff,
    decide_eq_false_iff_not, gt_iff_lt, not_lt, UInt64.not_lt]
  constructor
  · rintro ⟨distance, spans, loss⟩
    exact ⟨distance, spans, loss⟩
  · intro within
    exact ⟨within.distance, within.spans, within.loss⟩

private theorem decide_and_eq_false_iff {p : Prop} [Decidable p]
    {condition : Bool} :
    (decide p && condition) = false ↔ (p → condition = false) := by
  by_cases holds : p <;> simp [holds]

theorem yields_crossConnectLabel_iff {record : CrossConnectRecord}
    {current next : Label K} {index toPort : Nat} {cost : UInt64} :
    (ctx.crossConnectLabel record (ctx.crossConnectInfo index) current index
        toPort cost).Yields next ↔
      (ctx.portInfo toPort).admin ≠ .blocked ∧
        (record.op = .regenerate →
          (ctx.portInfo toPort).transmitAbsent = false) ∧
        ctx.operated record.op (ctx.crossConnectInfo index) { current with
          portIndex := toPort
          arrival := some ⟨.crossConnect, index, false⟩
          cost := cost
          hops := current.hops + 1
          proven := current.proven && ctx.crossConnectSound index toPort } =
            next ∧
        next.mask.isEmpty = false := by
  have known (proven : Bool) :
      (proven && decide ((ctx.crossConnectInfo index).admin = .good) &&
          ctx.portSound toPort && !(!(ctx.crossConnectInfo index).maskKnown ||
            !(ctx.portInfo toPort).maskKnown)) =
        (proven && ctx.crossConnectSound index toPort) := by
    simp only [crossConnectSound, Bool.not_or, Bool.not_not, Bool.and_assoc]
  unfold crossConnectLabel
  simp only [yields_bind_iff, yields_doubtIf_iff, yields_admitPort_iff,
    yields_operate_iff, yields_pure_iff, not_ne_good]
  constructor
  · rintro ⟨_, rfl, _, ⟨portAdmin, rfl⟩, _, rfl, label, ⟨transmitter, built⟩,
      ⟨⟩, channel, rfl⟩
    rw [known] at built
    exact ⟨portAdmin, transmitter, built, yields_stopIf_iff.mp channel⟩
  · rintro ⟨portAdmin, transmitter, built, channel⟩
    refine ⟨_, rfl, _, ⟨portAdmin, rfl⟩, _, rfl, next, ⟨transmitter, ?_⟩, (),
      yields_stopIf_iff.mpr channel, rfl⟩
    rw [known]
    exact built

/-- A cross-connect is expanded exactly when the label and the path allow
it. -/
theorem yields_expandCrossConnect_iff {current next : Label K}
    {ancestors : List (Label K)} {index : Nat} {reversed : Bool} :
    (ctx.expandCrossConnect current ancestors index).Yields next ↔
      ctx.CrossConnectStep current index next ∧
        ctx.PathAllows current ancestors ⟨.crossConnect, index, reversed⟩
          next.portIndex := by
  unfold expandCrossConnect enterCrossConnect
  rw [yields_bind_iff]
  simp only [yields_stopIf_bind_iff, yields_noteIf_bind_iff, yields_demand_bind_iff,
    yields_pure_iff, decide_eq_false_iff_not, decide_and_eq_false_iff, not_lt,
    ge_iff_le, not_le, Bool.not_eq_false', portOnPath_eq_false_iff,
    yields_crossConnectLabel_iff]
  constructor
  · rintro ⟨_, ⟨allowed, admin, toPort, target, domains, regeneration,
      conversion, regenerationLimit, hopLimit, loopFree, cost, sum, ceiling,
      members, rfl⟩, portAdmin, transmitter, built, channel⟩
    have samePort : next.portIndex = toPort := by
      rw [← built, operated_portIndex]
    have sameCost : next.cost = cost := by
      rw [← built, operated_cost]
    subst samePort sameCost
    refine ⟨⟨allowed, admin, target, domains,
      ⟨regeneration, conversion, regenerationLimit, transmitter⟩, hopLimit, sum,
      ceiling, portAdmin, built.symm, channel⟩, ⟨loopFree, ?_, members⟩⟩
    intro isSpan
    cases isSpan
  · rintro ⟨step, path⟩
    exact ⟨_, ⟨step.allowed, step.admin, next.portIndex, step.target,
      step.domains, step.operation.regeneration, step.operation.conversion,
      step.operation.regenerationLimit, step.hopLimit, path.loopFree, next.cost,
      step.cost, step.ceiling, path.members, rfl⟩, step.portAdmin,
      step.operation.transmitter, step.next_eq.symm, step.channel⟩

theorem yields_spanLabel_iff {record : SpanRecord K} {current next : Label K}
    {arc : SpanArc} {toPort : Nat} {cost : UInt64} :
    (ctx.spanLabel record (ctx.spanInfo arc.spanIndex) current arc toPort
        cost).Yields next ↔
      ∃ distance, extendDistance current.distanceM
          (ctx.spanInfo arc.spanIndex).lengthM = some distance ∧
        (ctx.portInfo toPort).admin ≠ .blocked ∧
        { current with
          portIndex := toPort
          arrival := some ⟨.span, arc.spanIndex, arc.reversed⟩
          mask := (current.mask.intersect
            (ctx.spanInfo arc.spanIndex).baseMask).intersect
              (ctx.portInfo toPort).baseMask
          cost := cost
          distanceM := distance
          lossDb := current.lossDb + (ctx.spanInfo arc.spanIndex).lossDb.getD 0
          osnrInverse := current.osnrInverse + ((ctx.spanInfo
            arc.spanIndex).osnrDb.map ctx.runtime.osnrToInverse).getD 0
          spanCount := current.spanCount + 1
          hops := current.hops + 1
          proven := current.proven && ctx.spanSound arc.spanIndex toPort &&
            ctx.reachSound current.profileIndex } = next ∧
        next.mask.isEmpty = false ∧ ctx.WithinReach next ∧
        ctx.WithinCeilings next := by
  have known (proven lossKnown : Bool) :
      (proven && lossKnown &&
          decide ((ctx.spanInfo arc.spanIndex).admin = .good) &&
          !(ctx.spanInfo arc.spanIndex).conflicting && ctx.portSound toPort &&
          !(!(ctx.spanInfo arc.spanIndex).maskKnown ||
            !(ctx.portInfo toPort).maskKnown)) =
        (proven && (lossKnown &&
          decide ((ctx.spanInfo arc.spanIndex).admin = .good) &&
          !(ctx.spanInfo arc.spanIndex).conflicting && ctx.portSound toPort &&
          ((ctx.spanInfo arc.spanIndex).maskKnown &&
            (ctx.portInfo toPort).maskKnown))) := by
    simp only [Bool.not_or, Bool.not_not, Bool.and_assoc]
  unfold spanLabel
  simp only [yields_bind_iff, yields_accumulate_iff, yields_doubtIf_iff,
    yields_admitPort_iff, yields_judgeReach_iff, yields_pure_iff, not_ne_good]
  constructor
  · rintro ⟨_, ⟨distance, sum, rfl⟩, _, rfl, _, rfl, _, ⟨portAdmin, rfl⟩, _, rfl,
      ⟨⟩, channel, _, ⟨reach, rfl⟩, ⟨⟩, ceilings, rfl⟩
    refine ⟨distance, sum, portAdmin, ?_, yields_stopIf_iff.mp channel,
      reach.of_proven, (yields_checkCeilings_iff.mp ceilings).of_proven⟩
    simp only [known, spanSound]
  · rintro ⟨distance, sum, portAdmin, rfl, channel, reach, ceilings⟩
    refine ⟨_, ⟨distance, sum, rfl⟩, _, rfl, _, rfl, _, ⟨portAdmin, rfl⟩, _, rfl,
      (), yields_stopIf_iff.mpr channel, _, ⟨reach.of_proven, rfl⟩, (),
      yields_checkCeilings_iff.mpr ceilings.of_proven, ?_⟩
    simp only [known, spanSound]

/-- A span arc is expanded exactly when the label and the path allow it. -/
theorem yields_expandSpan_iff {current next : Label K}
    {ancestors : List (Label K)} {arc : SpanArc} :
    (ctx.expandSpan current ancestors arc).Yields next ↔
      ctx.SpanStep current arc next ∧
        ctx.PathAllows current ancestors ⟨.span, arc.spanIndex, arc.reversed⟩
          next.portIndex := by
  unfold expandSpan enterSpan
  rw [yields_bind_iff]
  simp only [yields_stopIf_bind_iff, yields_demand_bind_iff, yields_pure_iff,
    decide_eq_false_iff_not, not_lt, portOnPath_eq_false_iff,
    yields_spanLabel_iff]
  constructor
  · rintro ⟨_, ⟨toPort, target, allowed, domains, admin, hopLimit, noBacktrack,
      loopFree, cost, sum, ceiling, members, rfl⟩, distance, length, portAdmin,
      built, channel, reach, ceilings⟩
    obtain rfl : next.portIndex = toPort := by rw [← built]
    obtain rfl : next.cost = cost := by rw [← built]
    obtain rfl : next.distanceM = distance := by rw [← built]
    exact ⟨⟨target, allowed, domains, admin, hopLimit, sum, ceiling, length,
      portAdmin, built.symm, channel, reach, ceilings⟩,
      ⟨loopFree, fun _ => noBacktrack, members⟩⟩
  · rintro ⟨step, path⟩
    exact ⟨_, ⟨next.portIndex, step.target, step.allowed, step.domains,
      step.admin, step.hopLimit, path.noBacktrack rfl, path.loopFree, next.cost,
      step.cost, step.ceiling, path.members, rfl⟩, next.distanceM,
      step.distance, step.portAdmin, step.next_eq.symm, step.channel,
      step.reach, step.ceilings⟩

/-- An arc is expanded exactly when the label and the path allow it. -/
theorem yields_expandArc_iff {current next : Label K}
    {ancestors : List (Label K)} {arc : ArcRef} :
    (ctx.expandArc current ancestors arc).Yields next ↔
      ctx.LabelStep current arc next ∧
        ctx.PathAllows current ancestors arc next.portIndex := by
  obtain ⟨kind, index, reversed⟩ := arc
  cases kind with
  | crossConnect => exact yields_expandCrossConnect_iff
  | span => exact yields_expandSpan_iff

end SearchContext

end OpticalPathPlanner
