import OpticalPathPlanner.CycleRemoval
import OpticalPathPlanner.LearnedEvidence
import OpticalPathPlanner.RouteEvidence
import OpticalPathPlanner.TightenedRequests

/-!
# Verdicts that more evidence keeps

Unpublished facts are read in favour of a route, and a proven route rests on
published facts alone.  So a route of a later snapshot is a route of the snapshot it
learned from, and a proven route of the earlier one is proven in the later one, label
by label.  An infeasible demand therefore never becomes feasible by learning more, nor
a feasible one infeasible, provided the limits of its profiles were published.
-/

namespace OpticalPathPlanner

open SortedRanges Traced

variable {K E : Type} [Field K] [LinearOrder K]

namespace SearchContext

/-- The same rules over another snapshot. -/
def on (ctx : SearchContext K) (snapshot : TopologySnapshot K) : SearchContext K :=
  { ctx with snapshot := snapshot }

variable {ctx : SearchContext K} {after : TopologySnapshot K}

theorem transmitAbsent_eq_false_iff {portIndex : Nat} :
    (ctx.portInfo portIndex).transmitAbsent = false ↔
      (ctx.port portIndex).transmitProfile ≠ .known none :=
  beq_eq_false_iff_ne

/-! ### Facts that learning leaves as they are -/

section Facts

variable (learns : ctx.snapshot.Learns after)

include learns

theorem port_learns (index : Nat) :
    (ctx.port index).Learns ((ctx.on after).port index) :=
  getD_of_forall₂ learns.ports (.refl _) index

theorem node_learns (index : Nat) :
    (ctx.node index).Learns ((ctx.on after).node index) :=
  getD_of_forall₂ learns.nodes (.refl _) index

theorem span_learns (index : Nat) :
    (ctx.span index).Learns ((ctx.on after).span index) :=
  getD_of_forall₂ learns.spans (.refl _) index

theorem crossConnect_learns (index : Nat) :
    (ctx.crossConnect index).Learns ((ctx.on after).crossConnect index) :=
  getD_of_forall₂ learns.crossConnects (.refl _) index

theorem profile_learns (index : Nat) :
    (ctx.profile index).Learns ((ctx.on after).profile index) :=
  getD_of_forall₂ learns.reachProfiles (.refl _) index

theorem nodeIndex_on (index : Nat) :
    ((ctx.on after).portInfo index).nodeIndex = (ctx.portInfo index).nodeIndex := by
  change after.nodeIndex ((ctx.on after).port index).key.node = _
  rw [(port_learns learns index).key, learns.nodeIndex]
  rfl

theorem usable_on (blocked : Evidence SlotMask) :
    (ctx.on after).usable blocked = ctx.usable blocked := by
  change usableStarts after.spectrum ctx.rules.channelWidthSlots blocked = _
  rw [learns.spectrum]
  rfl

theorem transitionNodeCost_on (fromPort toPort : Nat) :
    (ctx.on after).transitionNodeCost fromPort toPort =
      ctx.transitionNodeCost fromPort toPort := by
  unfold transitionNodeCost
  simp only [nodeIndex_on learns, (node_learns learns _).transitCost]

theorem extendCost_on (cost arcCost : UInt64) (fromPort toPort : Nat) :
    (ctx.on after).extendCost cost arcCost fromPort toPort =
      ctx.extendCost cost arcCost fromPort toPort := by
  unfold extendCost
  rw [(port_learns learns toPort).transitCost, transitionNodeCost_on learns]

theorem startCost_on (portIndex : Nat) :
    (ctx.on after).startCost portIndex = ctx.startCost portIndex := by
  unfold startCost
  simp only [nodeIndex_on learns, (node_learns learns _).transitCost,
    (port_learns learns portIndex).transitCost]

theorem portMembers_on (fromNode : Option Nat) (portIndex : Nat)
    (domain : FailureDomainId) :
    (ctx.on after).portMembers fromNode portIndex domain =
      ctx.portMembers fromNode portIndex domain := by
  unfold portMembers
  simp only [nodeIndex_on learns, (node_learns learns _).failureDomains,
    (port_learns learns portIndex).failureDomains]

theorem arcMembers_on (arc : ArcRef) (fromPort toPort : Nat) (domain : FailureDomainId) :
    (ctx.on after).arcMembers arc fromPort toPort domain =
      ctx.arcMembers arc fromPort toPort domain := by
  have onArc : (ctx.on after).arcDomains arc = ctx.arcDomains arc := by
    unfold arcDomains
    cases arc.kind with
    | span => exact (span_learns learns arc.index).failureDomains
    | crossConnect => exact (crossConnect_learns learns arc.index).failureDomains
  unfold arcMembers
  rw [onArc, nodeIndex_on learns, portMembers_on learns]

theorem transmitIndex_cases (portIndex : Nat) :
    ctx.transmitIndex (ctx.port portIndex) = none ∨
      (ctx.on after).transmitIndex ((ctx.on after).port portIndex) =
        ctx.transmitIndex (ctx.port portIndex) := by
  rcases (port_learns learns portIndex).transmitProfile with unpublished | same
  · left
    unfold transmitIndex
    rw [unpublished]
  · right
    unfold transmitIndex
    rw [same]
    split
    · exact learns.profileIndex _
    · rfl

/-- The arcs that leave a port are the same. -/
theorem mem_outgoingArcs_on (laid : ctx.snapshot.LaidOut) (later : after.LaidOut)
    {arc : ArcRef} {port : Nat} :
    arc ∈ (ctx.on after).outgoingArcs port ↔ arc ∈ ctx.outgoingArcs port := by
  obtain ⟨kind, index, reversed⟩ := arc
  cases kind with
  | span =>
      rw [mem_outgoingArcs_span, mem_outgoingArcs_span, laid.spanArcs,
        ← learns.spanArcEntries]
      exact later.spanArcs port ⟨index, reversed⟩
  | crossConnect =>
      rw [mem_outgoingArcs_crossConnect, mem_outgoingArcs_crossConnect,
        laid.crossConnects, ← learns.crossConnectEntries]
      exact and_congr_left' (later.crossConnects port index)

end Facts

end SearchContext

/-! ### Routes of the later snapshot -/

/-- The same place in the search, with at least the channels and at most the sums, and
judged by the same profile if by any. -/
structure Label.Eases {K : Type} [LinearOrder K] (eased label : Label K) : Prop
    extends Label.SegmentCovers eased label where
  port : eased.portIndex = label.portIndex
  arrival : eased.arrival = label.arrival
  cost : eased.cost = label.cost
  hops : eased.hops = label.hops
  regenerations : eased.regenerations = label.regenerations
  profile : eased.profileIndex = none ∨ eased.profileIndex = label.profileIndex

theorem Label.Eases.refl {K : Type} [LinearOrder K] (label : Label K) :
    label.Eases label :=
  ⟨⟨le_rfl, le_rfl, le_rfl, le_rfl, fun _ => id⟩, rfl, rfl, rfl, rfl, rfl, .inr rfl⟩

theorem Evidence.Learns.notBlocked {before after : Evidence AdminState}
    (learns : before.Learns after) (open_ : classifyAdmin after ≠ .blocked) :
    classifyAdmin before ≠ .blocked := by
  rcases learns with unpublished | same
  · unfold classifyAdmin
    rw [unpublished]
    simp
  · rwa [← same]

namespace SearchContext

variable {ctx : SearchContext K} {after : TopologySnapshot K}

theorem extendDistance_unlearn {small large sum : UInt64}
    {before after : Evidence UInt64} (learns : before.Learns after)
    (order : small.toNat ≤ large.toNat)
    (added : extendDistance large after.value? = some sum) :
    ∃ less, extendDistance small before.value? = some less ∧
      less.toNat ≤ sum.toNat := by
  rcases learns with unpublished | same
  · rw [unpublished]
    exact ⟨small, rfl, order.trans (le_of_extendDistance added)⟩
  · rw [← same]
    exact extendDistance_mono order added

/-- An unpublished quantity adds nothing. -/
theorem getD_unlearn {before after : Evidence K} (learns : before.Learns after)
    (measure : K → K) (nonneg : 0 ≤ (after.value?.map measure).getD 0) :
    (before.value?.map measure).getD 0 ≤ (after.value?.map measure).getD 0 := by
  rcases learns with unpublished | same
  · rw [unpublished]
    exact nonneg
  · rw [same]

section Unlearn

variable (learns : ctx.snapshot.Learns after)

include learns

theorem test_usable_unlearn {blocked later : Evidence SlotMask}
    (fact : blocked.Learns later) {slot : Nat}
    (isUsable : ((ctx.on after).usable later).test slot = true) :
    (ctx.usable blocked).test slot = true := by
  rw [usable_on learns] at isUsable
  rcases fact with unpublished | same
  · unfold usable usableStarts at *
    rw [unpublished]
    cases published : later.value? with
    | none =>
        rw [published] at isUsable
        exact isUsable
    | some mask =>
        rw [published] at isUsable
        simp only [SlotMask.test_firstSlotMask, SlotMask.test_removeBlocked,
          SlotMask.test_all, Bool.and_eq_true] at isUsable ⊢
        exact ⟨isUsable.1, isUsable.2.1, fun offset small =>
          (isUsable.2.2 offset small).1⟩
  · rwa [same] at isUsable

theorem transmitAbsent_unlearn {portIndex : Nat}
    (present : ((ctx.on after).portInfo portIndex).transmitAbsent = false) :
    (ctx.portInfo portIndex).transmitAbsent = false := by
  rw [transmitAbsent_eq_false_iff] at present ⊢
  rcases (port_learns learns portIndex).transmitProfile with unpublished | same
  · intro absent
    rw [absent] at unpublished
    cases unpublished
  · rwa [← same]

theorem StartStep.unlearn {portIndex : Nat} {label : Label K}
    (started : (ctx.on after).StartStep portIndex label) :
    ∃ eased, ctx.StartStep portIndex eased ∧ eased.Eases label := by
  have port := port_learns learns portIndex
  have channels {slot : Nat} :
      ((ctx.on after).portInfo portIndex).baseMask.test slot = true →
        (ctx.portInfo portIndex).baseMask.test slot = true :=
    test_usable_unlearn learns port.blockedSlots
  have allowed := started.allowed
  rw [port.key, port.failureDomains] at allowed
  refine ⟨_, ⟨allowed, port.admin.notBlocked started.admin,
    transmitAbsent_unlearn learns started.transmitter,
    isEmpty_eq_false_of_subset (fun slot => channels) started.channel, rfl⟩, ?_⟩
  rw [started.label_eq]
  refine ⟨⟨le_rfl, le_rfl, le_rfl, le_rfl, fun slot => channels⟩, rfl, rfl,
    (startCost_on learns portIndex).symm, rfl, rfl, ?_⟩
  rcases transmitIndex_cases learns portIndex with none_ | same
  · exact .inl none_
  · exact .inr same.symm

theorem WithinReach.unlearn [IsStrictOrderedRing K] {eased label : Label K}
    (sound : (ctx.on after).NoiseSound label) (eases : eased.Eases label)
    (within : (ctx.on after).WithinReach label) : ctx.WithinReach eased := by
  have judged {index : Nat} (judges : eased.profileIndex = some index) :
      label.profileIndex = some index := by
    rcases eases.profile with none_ | same
    · rw [none_] at judges
      cases judges
    · exact same.symm.trans judges
  have osnr : (ctx.on after).runtime.inverseToOsnr label.osnrInverse ≤
      (ctx.on after).runtime.inverseToOsnr eased.osnrInverse :=
    osnr_anti sound eases.osnrInverse
  refine ⟨?_, ?_, ?_, ?_, ?_⟩
  · intro index limit judges published
    exact eases.spanCount.trans (within.spans index limit (judged judges)
      ((profile_learns learns index).maxSpanCount.value?_eq_some published))
  · intro index limit judges published
    have bound := within.distance index limit (judged judges)
      ((profile_learns learns index).maxDistanceM.value?_eq_some published)
    rw [UInt64.le_iff_toNat_le] at bound ⊢
    exact eases.distanceM.trans bound
  · intro index limit judges published
    exact eases.lossDb.trans (within.loss index limit (judged judges)
      ((profile_learns learns index).maxLossDb.value?_eq_some published))
  · intro index limit judges published
    have bound := within.osnr index limit (judged judges)
      ((profile_learns learns index).minOsnrDb.value?_eq_some published)
    exact bound.trans (add_le_add_left osnr _)
  · intro floor asked
    exact (within.requestedOsnr floor asked).trans (add_le_add_left osnr _)

omit learns in
theorem WithinCeilings.unlearn {eased label : Label K} (eases : eased.Eases label)
    (within : (ctx.on after).WithinCeilings label) : ctx.WithinCeilings eased :=
  have same : ctx.WithinCeilings label := ⟨within.distance, within.spans, within.loss⟩
  same.of_better eases.toSegmentCovers

theorem SpanStep.unlearn [IsStrictOrderedRing K] (formed : after.WellFormed)
    {current next eased : Label K} {arc : SpanArc}
    (leaves : ⟨.span, arc.spanIndex, arc.reversed⟩ ∈
      (ctx.on after).outgoingArcs current.portIndex)
    (sound : (ctx.on after).NoiseSound next) (eases : eased.Eases current)
    (step : (ctx.on after).SpanStep current arc next) :
    ∃ reached, ctx.SpanStep eased arc reached ∧ reached.Eases next := by
  have span := span_learns learns arc.spanIndex
  have port := port_learns learns next.portIndex
  have target : (ctx.on after).spanTarget arc = ctx.spanTarget arc :=
    span.arrival arc.reversed
  obtain ⟨distance, extended, shorter⟩ :=
    extendDistance_unlearn span.lengthM eases.distanceM step.distance
  let reached : Label K := { eased with
    portIndex := next.portIndex
    arrival := some ⟨.span, arc.spanIndex, arc.reversed⟩
    mask := (eased.mask.intersect (ctx.spanInfo arc.spanIndex).baseMask).intersect
      (ctx.portInfo next.portIndex).baseMask
    cost := next.cost
    distanceM := distance
    lossDb := eased.lossDb + (ctx.spanInfo arc.spanIndex).lossDb.getD 0
    osnrInverse := eased.osnrInverse + ((ctx.spanInfo arc.spanIndex).osnrDb.map
      ctx.runtime.osnrToInverse).getD 0
    spanCount := eased.spanCount + 1
    hops := eased.hops + 1
    proven := eased.proven && ctx.spanSound arc.spanIndex next.portIndex &&
      ctx.reachSound eased.profileIndex }
  have nextEases : reached.Eases next := by
    refine ⟨⟨shorter, ?_, ?_, ?_, ?_⟩, rfl, ?_, rfl, ?_, ?_, ?_⟩
    case refine_4 =>
      intro slot isSet
      rw [step.next_eq] at isSet
      simp only [reached, SlotMask.test_intersect, Bool.and_eq_true] at isSet ⊢
      exact ⟨⟨eases.mask slot isSet.1.1,
        test_usable_unlearn learns span.blockedSlots isSet.1.2⟩,
        test_usable_unlearn learns port.blockedSlots isSet.2⟩
    all_goals rw [step.next_eq]
    · have nonneg : 0 ≤ ((ctx.on after).span arc.spanIndex).lossDb.value?.getD 0 :=
        loss_nonneg formed leaves
      have loss := getD_unlearn span.lossDb id (by simpa using nonneg)
      simp only [Option.map_id, id_eq] at loss
      exact add_le_add eases.lossDb loss
    · exact add_le_add eases.osnrInverse (getD_unlearn span.osnrDb
        ctx.runtime.osnrToInverse (noise_nonneg formed leaves))
    · exact Nat.add_le_add_right eases.spanCount 1
    · exact congrArg (· + 1) eases.hops
    · exact eases.regenerations
    · exact eases.profile
  have allowed := step.allowed
  have domains := step.domains
  have targets := step.target
  have cost := step.cost
  rw [target, span.id] at allowed
  rw [span.failureDomains] at domains
  rw [target] at targets
  rw [extendCost_on learns, span.cost, ← eases.port, ← eases.cost] at cost
  refine ⟨reached, ⟨(learns.portIndex _).symm.trans targets, allowed, domains,
    span.admin.notBlocked step.admin, ?_, cost, step.ceiling, extended,
    port.admin.notBlocked step.portAdmin, rfl,
    isEmpty_eq_false_of_subset nextEases.mask step.channel,
    step.reach.unlearn learns sound nextEases, step.ceilings.unlearn nextEases⟩,
    nextEases⟩
  rw [eases.hops]
  exact step.hopLimit

/-- What the operation of a cross-connect leaves of an eased label. -/
theorem operated_unlearn {eased label : Label K} {info later : CrossConnectInfo}
    (op : CrossConnectOp) (eases : eased.Eases label)
    (channels : ∀ slot, later.baseMask.test slot = true →
      info.baseMask.test slot = true) :
    (ctx.operated op info eased).Eases ((ctx.on after).operated op later label) := by
  have port := port_learns learns label.portIndex
  have free {slot : Nat} :
      ((ctx.on after).portInfo label.portIndex).baseMask.test slot = true →
        (ctx.portInfo label.portIndex).baseMask.test slot = true :=
    test_usable_unlearn learns port.blockedSlots
  cases op with
  | express =>
      refine ⟨⟨eases.distanceM, eases.lossDb, eases.osnrInverse, eases.spanCount,
        fun slot isSet => ?_⟩, eases.port, eases.arrival, eases.cost, eases.hops,
        eases.regenerations, eases.profile⟩
      simp only [operated, SlotMask.test_intersect, Bool.and_eq_true, eases.port]
        at isSet ⊢
      exact ⟨⟨eases.mask slot isSet.1.1, channels slot isSet.1.2⟩, free isSet.2⟩
  | convert =>
      refine ⟨⟨eases.distanceM, eases.lossDb, eases.osnrInverse, eases.spanCount,
        fun slot isSet => ?_⟩, eases.port, eases.arrival, eases.cost, eases.hops,
        eases.regenerations, eases.profile⟩
      simp only [operated, eases.port] at isSet ⊢
      exact free isSet
  | regenerate =>
      refine ⟨⟨le_rfl, le_rfl, le_rfl, le_rfl, fun slot isSet => ?_⟩, eases.port,
        eases.arrival, eases.cost, eases.hops,
        congrArg (· + 1) eases.regenerations, ?_⟩
      · simp only [operated, eases.port] at isSet ⊢
        exact free isSet
      · simp only [operated, eases.port]
        rcases transmitIndex_cases learns label.portIndex with none_ | same
        · exact .inl none_
        · exact .inr same.symm

theorem CrossConnectStep.unlearn {current next eased : Label K} {index : Nat}
    (eases : eased.Eases current)
    (step : (ctx.on after).CrossConnectStep current index next) :
    ∃ reached, ctx.CrossConnectStep eased index reached ∧ reached.Eases next := by
  have record := crossConnect_learns learns index
  have port := port_learns learns next.portIndex
  let entered : Label K := { eased with
    portIndex := next.portIndex
    arrival := some ⟨.crossConnect, index, false⟩
    cost := next.cost
    hops := eased.hops + 1
    proven := eased.proven && ctx.crossConnectSound index next.portIndex }
  have nextEases : (ctx.operated (ctx.crossConnect index).op
      (ctx.crossConnectInfo index) entered).Eases next := by
    rw [step.next_eq, record.op]
    refine operated_unlearn learns _ ⟨⟨eases.distanceM, eases.lossDb,
      eases.osnrInverse, eases.spanCount, eases.mask⟩, rfl, rfl, rfl,
      congrArg (· + 1) eases.hops, eases.regenerations, eases.profile⟩
      fun slot => test_usable_unlearn learns record.blockedSlots
  have allowed := step.allowed
  have domains := step.domains
  have target := step.target
  have cost := step.cost
  have operation := step.operation
  rw [record.id, record.toPort] at allowed
  rw [record.failureDomains] at domains
  rw [extendCost_on learns, record.cost, ← eases.port, ← eases.cost] at cost
  rw [record.op] at operation
  refine ⟨_, ⟨allowed, record.admin.notBlocked step.admin, ?_, domains, ?_, ?_, ?_, ?_,
    ?_, ?_, isEmpty_eq_false_of_subset nextEases.mask step.channel⟩, nextEases⟩
  · rw [nextEases.port, ← target]
    change ctx.snapshot.portIndex _ = after.portIndex _
    rw [record.toPort, learns.portIndex]
  · rw [nextEases.port]
    refine ⟨operation.regeneration, operation.conversion, fun regenerates => ?_,
      fun regenerates => transmitAbsent_unlearn learns
        (operation.transmitter regenerates)⟩
    rw [eases.regenerations]
    exact operation.regenerationLimit regenerates
  · rw [eases.hops]
    exact step.hopLimit
  · rw [nextEases.port, nextEases.cost]
    exact cost
  · rw [nextEases.cost]
    exact step.ceiling
  · rw [nextEases.port]
    exact port.admin.notBlocked step.portAdmin
  · rw [nextEases.port, nextEases.cost]

/-- A step in the later snapshot is one in the earlier, from any label that eases the
first. -/
theorem Follows.unlearn [IsStrictOrderedRing K] (laid : ctx.snapshot.LaidOut)
    (later : after.LaidOut) (formed : after.WellFormed)
    {current next eased : Label K} {arc : ArcRef}
    (sound : (ctx.on after).NoiseSound current) (eases : eased.Eases current)
    (follows : (ctx.on after).Follows current arc next) :
    ∃ reached, ctx.Follows eased arc reached ∧ reached.Eases next := by
  have quiet := follows.noiseSound formed sound
  obtain ⟨leaves, step⟩ := follows
  have left := (mem_outgoingArcs_on learns laid later).mp leaves
  rw [← eases.port] at left
  obtain ⟨kind, index, reversed⟩ := arc
  cases kind with
  | crossConnect =>
      obtain ⟨reached, taken, nextEases⟩ := CrossConnectStep.unlearn learns eases step
      exact ⟨reached, ⟨left, taken⟩, nextEases⟩
  | span =>
      obtain ⟨reached, taken, nextEases⟩ :=
        SpanStep.unlearn learns formed leaves quiet eases step
      exact ⟨reached, ⟨left, taken⟩, nextEases⟩

/-- Eased paths have the members of the paths they ease. -/
theorem pathMembers_eased {eased path : List (Label K)}
    (eases : List.Forall₂ Label.Eases eased path) (domain : FailureDomainId) :
    (ctx.on after).pathMembers domain path = ctx.pathMembers domain eased := by
  induction eases with
  | nil => rfl
  | @cons first label _ _ head rest ih =>
      cases rest with
      | nil =>
          unfold pathMembers
          rw [head.arrival, head.port]
          cases label.arrival <;> exact portMembers_on learns none _ domain
      | @cons parent other _ _ parentEases _ =>
          unfold pathMembers
          rw [head.arrival, head.port]
          cases label.arrival with
          | none => exact portMembers_on learns none _ domain
          | some arc => simp only [parentEases.port, arcMembers_on learns, ih]

theorem PathAllows.unlearn_iff {eased current : Label K} {before ancestors : List (Label K)}
    (eases : List.Forall₂ Label.Eases (eased :: before) (current :: ancestors))
    {arc : ArcRef} {toPort : Nat} :
    (ctx.on after).PathAllows current ancestors arc toPort ↔
      ctx.PathAllows eased before arc toPort := by
  have head := (List.forall₂_cons.mp eases).1
  have ports : (eased :: before).map Label.portIndex =
      (current :: ancestors).map Label.portIndex :=
    map_eq_of_forall₂ (eases.imp fun _ _ label => label.port)
  have backtrack : arrivedBySpan eased arc.index = arrivedBySpan current arc.index := by
    unfold arrivedBySpan
    rw [head.arrival]
  have members : (ctx.on after).memberLimitExceeded (current :: ancestors)
      current.portIndex arc toPort =
        ctx.memberLimitExceeded (eased :: before) eased.portIndex arc toPort := by
    unfold memberLimitExceeded
    simp only [pathMembers_eased learns eases, arcMembers_on learns, head.port]
    rfl
  constructor
  · rintro ⟨loopFree, noBacktrack, within⟩
    exact ⟨ports ▸ loopFree, backtrack ▸ noBacktrack, members ▸ within⟩
  · rintro ⟨loopFree, noBacktrack, within⟩
    exact ⟨ports ▸ loopFree, backtrack ▸ noBacktrack, members ▸ within⟩

/-- A walk in the later snapshot is one in the earlier, at eased labels. -/
theorem walk_unlearn [IsStrictOrderedRing K] (laid : ctx.snapshot.LaidOut)
    (later : after.LaidOut) (formed : after.WellFormed) {startPort : Nat}
    {arcs : List ArcRef} {path : List (Label K)}
    (walked : (ctx.on after).walk startPort arcs = some path) :
    ∃ eased, ctx.walk startPort arcs = some eased ∧
      List.Forall₂ Label.Eases eased path := by
  induction arcs using List.reverseRecOn generalizing path with
  | nil =>
      obtain ⟨label, started, rfl⟩ := walk_nil.mp walked
      obtain ⟨eased, startedToo, eases⟩ :=
        StartStep.unlearn learns (yields_startLabel_iff.mp started)
      exact ⟨[eased], walk_nil.mpr ⟨eased, yields_startLabel_iff.mpr startedToo, rfl⟩,
        .cons eases .nil⟩
  | append_singleton arcs arc ih =>
      obtain ⟨current, ancestors, next, before, rfl, leaves, yielded⟩ :=
        walk_concat.mp walked
      obtain ⟨step, allows⟩ := yields_expandArc_iff.mp yielded
      obtain ⟨_, walkedToo, eases⟩ := ih before
      obtain ⟨eased, others, head, rest, rfl⟩ := List.forall₂_cons_right_iff.mp eases
      have sound := (accepts_of_labelAt (labelAt_of_walk before)).noiseSound formed
      obtain ⟨reached, follows, nextEases⟩ := Follows.unlearn learns laid later formed
        sound head ⟨leaves, step⟩
      have allowsToo := (PathAllows.unlearn_iff learns eases).mp allows
      rw [← nextEases.port] at allowsToo
      exact ⟨reached :: eased :: others, walk_concat.mpr ⟨eased, others, reached,
        walkedToo, rfl, follows.1, yields_expandArc_iff.mpr ⟨follows.2, allowsToo⟩⟩,
        .cons nextEases eases⟩

end Unlearn

/-! ### Proven routes of the earlier snapshot -/

section Learn

variable (learns : ctx.snapshot.Learns after)

include learns

theorem conflicting_learn {key : ResourceKey}
    (agreed : ctx.snapshot.isConflicted key = false) :
    after.isConflicted key = false := by
  rw [← Bool.not_eq_true] at agreed ⊢
  exact fun conflicted => agreed (learns.conflicted key conflicted)

omit learns in
theorem PortPublished.notBlocked {portIndex : Nat} (published : ctx.PortPublished portIndex) :
    (ctx.portInfo portIndex).admin ≠ .blocked := by
  change classifyAdmin (ctx.port portIndex).admin ≠ .blocked
  rw [published.admin]
  decide

/-- What a proven label relies on at a port stays published. -/
theorem PortPublished.learn (laid : ctx.snapshot.LaidOut) (later : after.LaidOut)
    {portIndex : Nat} (published : ctx.PortPublished portIndex) :
    (ctx.on after).PortPublished portIndex := by
  have port := port_learns learns portIndex
  have node := nodeIndex_on learns portIndex
  refine ⟨(port.admin.eq_of_known published.admin).trans published.admin, ?_, ?_, ?_, ?_⟩
  · have agreed := published.conflicting
    change (_ || ctx.conflictedNode (ctx.portInfo portIndex).nodeIndex) = false at agreed
    change (after.isConflicted _ || (ctx.on after).conflictedNode
      ((ctx.on after).portInfo portIndex).nodeIndex) = false
    rw [Bool.or_eq_false_iff] at agreed ⊢
    rw [port.key, node]
    refine ⟨conflicting_learn learns agreed.1, ?_⟩
    unfold conflictedNode at agreed ⊢
    cases entered : (ctx.portInfo portIndex).nodeIndex with
    | none => rfl
    | some index =>
        simp only [entered] at agreed ⊢
        rw [(node_learns learns index).id]
        exact conflicting_learn learns agreed.2
  · have covered := published.covered
    change ctx.partialNode (ctx.portInfo portIndex).nodeIndex = false at covered
    change (ctx.on after).partialNode ((ctx.on after).portInfo portIndex).nodeIndex = false
    rw [node]
    unfold partialNode at covered ⊢
    cases entered : (ctx.portInfo portIndex).nodeIndex with
    | none => simp [entered] at covered
    | some index =>
        simp only [entered, bne_eq_false_iff_eq] at covered ⊢
        exact (node_learns learns index).coverage covered
  · have resolved := published.resolved
    change ctx.snapshot.hasUnresolvedArcs portIndex = false at resolved
    change after.hasUnresolvedArcs portIndex = false
    rw [← Bool.not_eq_true] at resolved ⊢
    rwa [later.unresolved, learns.unresolvedNotes, ← laid.unresolved]
  · rw [port.blockedSlots.eq_of_hasValue published.blockedSlots]
    exact published.blockedSlots

theorem baseMask_learn {portIndex : Nat} (published : ctx.PortPublished portIndex) :
    ((ctx.on after).portInfo portIndex).baseMask = (ctx.portInfo portIndex).baseMask := by
  change (ctx.on after).usable _ = ctx.usable _
  rw [usable_on learns, (port_learns learns portIndex).blockedSlots.eq_of_hasValue
    published.blockedSlots]

theorem transmitIndex_learn {portIndex index : Nat}
    (transmits : ctx.transmitIndex (ctx.port portIndex) = some index) :
    (ctx.on after).transmitIndex ((ctx.on after).port portIndex) = some index := by
  rcases transmitIndex_cases learns portIndex with none_ | same
  · rw [none_] at transmits
    cases transmits
  · exact same.trans transmits

theorem StartStep.learn (laid : ctx.snapshot.LaidOut) (later : after.LaidOut)
    {portIndex : Nat} {label : Label K} (started : ctx.StartStep portIndex label)
    (proven : label.proven = true) : (ctx.on after).StartStep portIndex label := by
  have port := port_learns learns portIndex
  obtain ⟨published, profile, transmits, found, isSome⟩ := started.published proven
  have publishedToo := published.learn learns laid later
  obtain ⟨index, isIndex⟩ := Option.isSome_iff_exists.mp isSome
  have judged : ctx.transmitIndex (ctx.port portIndex) = some index := by
    rw [← isIndex, started.label_eq]
    rfl
  have transmit := transmitIndex_learn learns judged
  have mask := baseMask_learn learns published
  have allowed := started.allowed
  rw [← port.key, ← port.failureDomains] at allowed
  have sound := portPublished_iff.mp publishedToo
  have labelEq := started.label_eq
  refine ⟨allowed, publishedToo.notBlocked, ?_, ?_, ?_⟩
  · rw [transmitAbsent_eq_false_iff, port.transmitProfile.eq_of_known transmits, transmits]
    simp
  · rw [mask]
    exact started.channel
  · rw [labelEq] at proven ⊢
    rw [mask, startCost_on learns, sound.1, sound.2,
      portInfo_transmit_eq_good_iff.mpr ⟨index, transmit⟩]
    rw [show ((ctx.on after).portInfo portIndex).profileIndex =
      (ctx.portInfo portIndex).profileIndex from transmit.trans judged.symm]
    simpa using proven

omit learns in
theorem SpanPublished.sound {index toPort : Nat} {length : UInt64} {loss osnr : K}
    (published : ctx.SpanPublished index toPort length loss osnr) :
    ctx.spanSound index toPort = true := by
  obtain ⟨portSound, portSlots⟩ := portPublished_iff.mp published.port
  have slots : (ctx.spanInfo index).maskKnown = true := published.blockedSlots
  have admin : (ctx.spanInfo index).admin = .good :=
    classifyAdmin_eq_good_iff.mpr published.admin
  unfold spanSound
  simp only [admin, published.conflicting, portSound, portSlots, slots, decide_true,
    Bool.not_false, Bool.and_true]
  simp [spanInfo, published.lengthM, published.lossDb, published.osnrDb]

omit learns in
theorem CrossConnectPublished.sound {index toPort : Nat}
    (published : ctx.CrossConnectPublished index toPort) :
    ctx.crossConnectSound index toPort = true := by
  obtain ⟨portSound, portSlots⟩ := portPublished_iff.mp published.port
  have slots : (ctx.crossConnectInfo index).maskKnown = true := published.blockedSlots
  have admin : (ctx.crossConnectInfo index).admin = .good :=
    classifyAdmin_eq_good_iff.mpr published.admin
  unfold crossConnectSound
  simp [admin, portSound, portSlots, slots]

theorem spanInfo_learn {index toPort : Nat} {length : UInt64} {loss osnr : K}
    (published : ctx.SpanPublished index toPort length loss osnr) :
    (ctx.on after).spanInfo index = ctx.spanInfo index := by
  have span := span_learns learns index
  have agreed : ctx.snapshot.isConflicted (.forSpan (ctx.span index).id) = false :=
    published.conflicting
  have agreedToo : (ctx.on after).snapshot.isConflicted (.forSpan (ctx.span index).id) =
      false := conflicting_learn learns agreed
  simp only [spanInfo, span.id, span.lengthM.eq_of_known published.lengthM,
    span.lossDb.eq_of_known published.lossDb, span.osnrDb.eq_of_known published.osnrDb,
    span.blockedSlots.eq_of_hasValue published.blockedSlots,
    span.admin.eq_of_known published.admin, agreed, agreedToo,
    usable_on learns]

theorem SpanPublished.learn (laid : ctx.snapshot.LaidOut) (later : after.LaidOut)
    {index toPort : Nat} {length : UInt64} {loss osnr : K}
    (published : ctx.SpanPublished index toPort length loss osnr) :
    (ctx.on after).SpanPublished index toPort length loss osnr := by
  have span := span_learns learns index
  refine ⟨(span.lengthM.eq_of_known published.lengthM).trans published.lengthM,
    (span.lossDb.eq_of_known published.lossDb).trans published.lossDb,
    (span.osnrDb.eq_of_known published.osnrDb).trans published.osnrDb,
    (span.admin.eq_of_known published.admin).trans published.admin, ?_, ?_,
    published.port.learn learns laid later⟩
  · rw [spanInfo_learn learns published]
    exact published.conflicting
  · rw [span.blockedSlots.eq_of_hasValue published.blockedSlots]
    exact published.blockedSlots

theorem CrossConnectPublished.learn (laid : ctx.snapshot.LaidOut) (later : after.LaidOut)
    {index toPort : Nat} (published : ctx.CrossConnectPublished index toPort) :
    (ctx.on after).CrossConnectPublished index toPort := by
  have record := crossConnect_learns learns index
  have port := port_learns learns toPort
  refine ⟨(record.admin.eq_of_known published.admin).trans published.admin, ?_,
    published.port.learn learns laid later, fun regenerates => ?_⟩
  · rw [record.blockedSlots.eq_of_hasValue published.blockedSlots]
    exact published.blockedSlots
  · rw [record.op] at regenerates
    obtain ⟨profile, transmits, found⟩ := published.transmits regenerates
    exact ⟨profile, (port.transmitProfile.eq_of_known transmits).trans transmits,
      found.imp fun index isIndex => (learns.profileIndex profile).trans isIndex⟩

/-- A profile with every limit published has nothing left to learn. -/
theorem profileInfo_learn
    (limits : ∀ profile ∈ ctx.snapshot.reachProfiles, profile.extentPublished = true)
    {index : Nat} (sound : ctx.reachSound (some index) = true) :
    (ctx.on after).profileInfo index = ctx.profileInfo index := by
  have learned := profile_learns learns index
  have floor : (ctx.profile index).minOsnrDb.hasValue = true := sound
  have extents : (ctx.profile index).extentPublished = true := by
    unfold profile at floor ⊢
    cases atIndex : ctx.snapshot.reachProfiles[index]? with
    | none =>
        rw [atIndex] at floor
        cases floor
    | some record => exact limits record (List.mem_of_getElem? atIndex)
  unfold ReachProfile.extentPublished at extents
  simp only [Bool.and_eq_true] at extents
  obtain ⟨⟨distance, spans⟩, loss⟩ := extents
  simp only [profileInfo, learned.maxDistanceM.eq_of_hasValue distance,
    learned.maxSpanCount.eq_of_hasValue spans, learned.maxLossDb.eq_of_hasValue loss,
    learned.minOsnrDb.eq_of_hasValue floor]

theorem reachSound_learn {judged : Option Nat} (sound : ctx.reachSound judged = true) :
    (ctx.on after).reachSound judged = true := by
  cases judged with
  | none => cases sound
  | some index =>
      have floor : (ctx.profile index).minOsnrDb.hasValue = true := sound
      change ((ctx.on after).profile index).minOsnrDb.hasValue = true
      rwa [(profile_learns learns index).minOsnrDb.eq_of_hasValue floor]

theorem SpanStep.learn (laid : ctx.snapshot.LaidOut) (later : after.LaidOut)
    (limits : ∀ profile ∈ ctx.snapshot.reachProfiles, profile.extentPublished = true)
    {current next : Label K} {arc : SpanArc} (step : ctx.SpanStep current arc next)
    (proven : next.proven = true) : (ctx.on after).SpanStep current arc next := by
  have span := span_learns learns arc.spanIndex
  obtain ⟨⟨length, loss, osnr, published⟩, reach⟩ := step.published proven
  have info := spanInfo_learn learns published
  have mask := baseMask_learn learns published.port
  have learned := published.learn learns laid later
  have target : (ctx.on after).spanTarget arc = ctx.spanTarget arc :=
    span.arrival arc.reversed
  have judged {index : Nat} (judges : next.profileIndex = some index) :
      (ctx.on after).profileInfo index = ctx.profileInfo index := by
    rw [step.next_eq] at judges
    rw [show current.profileIndex = some index from judges] at reach
    exact profileInfo_learn learns limits reach
  have nextEq := step.next_eq
  rw [published.sound, reach] at nextEq
  refine ⟨?_, ?_, ?_, ?_, step.hopLimit, ?_, step.ceiling, ?_,
    learned.port.notBlocked, ?_, step.channel,
    ⟨?_, ?_, ?_, ?_, step.reach.requestedOsnr⟩,
    ⟨step.ceilings.distance, step.ceilings.spans, step.ceilings.loss⟩⟩
  · rw [target]
    exact (learns.portIndex _).trans step.target
  · rw [target, span.id]
    exact step.allowed
  · rw [span.failureDomains]
    exact step.domains
  · rw [info]
    exact step.admin
  · rw [extendCost_on learns, span.cost]
    exact step.cost
  · rw [info]
    exact step.distance
  · rw [info, mask, learned.sound, reachSound_learn learns reach]
    exact nextEq
  · intro index limit judges isLimit
    exact step.reach.spans index limit judges (judged judges ▸ isLimit)
  · intro index limit judges isLimit
    exact step.reach.distance index limit judges (judged judges ▸ isLimit)
  · intro index limit judges isLimit
    exact step.reach.loss index limit judges (judged judges ▸ isLimit)
  · intro index limit judges isLimit
    exact step.reach.osnr index limit judges (judged judges ▸ isLimit)

theorem CrossConnectStep.learn (laid : ctx.snapshot.LaidOut) (later : after.LaidOut)
    {current next : Label K} {index : Nat} (step : ctx.CrossConnectStep current index next)
    (proven : next.proven = true) : (ctx.on after).CrossConnectStep current index next := by
  have record := crossConnect_learns learns index
  have port := port_learns learns next.portIndex
  have published := step.published proven
  have mask := baseMask_learn learns published.port
  have learned := published.learn learns laid later
  have slots : ((ctx.on after).crossConnectInfo index).baseMask =
      (ctx.crossConnectInfo index).baseMask := by
    change (ctx.on after).usable _ = ctx.usable _
    rw [usable_on learns, record.blockedSlots.eq_of_hasValue published.blockedSlots]
  have nextEq := step.next_eq
  rw [published.sound] at nextEq
  refine ⟨?_, ?_, ?_, ?_, ⟨?_, ?_, ?_, ?_⟩, step.hopLimit, ?_, step.ceiling,
    learned.port.notBlocked, ?_, step.channel⟩
  · rw [record.id, record.toPort]
    exact step.allowed
  · change classifyAdmin ((ctx.on after).crossConnect index).admin ≠ .blocked
    rw [learned.admin]
    decide
  · change after.portIndex ((ctx.on after).crossConnect index).toPort = _
    rw [record.toPort, learns.portIndex]
    exact step.target
  · rw [record.failureDomains]
    exact step.domains
  · rw [record.op]
    exact step.operation.regeneration
  · rw [record.op]
    exact step.operation.conversion
  · rw [record.op]
    exact step.operation.regenerationLimit
  · intro regenerates
    obtain ⟨profile, transmits, _⟩ := learned.transmits regenerates
    rw [transmitAbsent_eq_false_iff, transmits]
    simp
  · rw [extendCost_on learns, record.cost]
    exact step.cost
  · rw [learned.sound, record.op]
    refine nextEq.trans ?_
    cases op : (ctx.crossConnect index).op with
    | express => simp only [operated, slots, mask]
    | convert => simp only [operated, mask]
    | regenerate =>
        obtain ⟨profile, transmits, place, isPlace⟩ := published.transmits op
        have judged : ctx.transmitIndex (ctx.port next.portIndex) = some place := by
          unfold transmitIndex
          rw [transmits]
          exact isPlace
        have learnedToo := transmitIndex_learn learns judged
        have same : ((ctx.on after).portInfo next.portIndex).profileIndex =
            (ctx.portInfo next.portIndex).profileIndex := learnedToo.trans judged.symm
        simp only [operated, mask, same,
          portInfo_transmit_eq_good_iff.mpr ⟨place, judged⟩,
          portInfo_transmit_eq_good_iff.mpr ⟨place, learnedToo⟩]

/-- A proven walk in the earlier snapshot is one in the later, at the same labels. -/
theorem walk_learn (laid : ctx.snapshot.LaidOut) (later : after.LaidOut)
    (limits : ∀ profile ∈ ctx.snapshot.reachProfiles, profile.extentPublished = true)
    {startPort : Nat} {arcs : List ArcRef} {label : Label K} {ancestors : List (Label K)}
    (walked : ctx.walk startPort arcs = some (label :: ancestors))
    (proven : label.proven = true) :
    (ctx.on after).walk startPort arcs = some (label :: ancestors) := by
  induction arcs using List.reverseRecOn generalizing label ancestors with
  | nil =>
      obtain ⟨start, started, same⟩ := walk_nil.mp walked
      cases same
      exact walk_nil.mpr ⟨label, yields_startLabel_iff.mpr
        ((yields_startLabel_iff.mp started).learn learns laid later proven), rfl⟩
  | append_singleton arcs arc ih =>
      obtain ⟨current, others, next, before, same, leaves, yielded⟩ :=
        walk_concat.mp walked
      cases same
      obtain ⟨step, allows⟩ := yields_expandArc_iff.mp yielded
      have stepToo : (ctx.on after).LabelStep current arc label := by
        obtain ⟨kind, index, reversed⟩ := arc
        cases kind with
        | crossConnect => exact CrossConnectStep.learn learns laid later step proven
        | span => exact SpanStep.learn learns laid later limits step proven
      have eases : List.Forall₂ Label.Eases (current :: others) (current :: others) :=
        List.forall₂_same.mpr fun label _ => .refl label
      exact walk_concat.mpr ⟨current, others, label, ih before (step.proven_of_next proven),
        rfl, (mem_outgoingArcs_on learns laid later).mpr leaves,
        yields_expandArc_iff.mpr
          ⟨stepToo, (PathAllows.unlearn_iff learns eases).mpr allows⟩⟩

end Learn

end SearchContext

/-! ### Verdicts -/

section Verdicts

variable {runtime : Runtime K} {before after : TopologySnapshot K}
  {request : PlanningRequest K} {arcs : List ArcRef} {label : Label K}
  (learns : before.Learns after) (built : IsBuilt runtime before)
  (builtToo : IsBuilt runtime after)

include learns built builtToo

/-- A route of the later snapshot is one of the earlier, with the same key. -/
theorem RouteEnds.unlearn [IsStrictOrderedRing K]
    (ends : RouteEnds runtime after request arcs label) :
    ∃ eased, RouteEnds runtime before request arcs eased ∧ eased.key = label.key := by
  obtain ⟨startPort, source, destination, labelled⟩ := ends
  obtain ⟨ancestors, walked⟩ := SearchContext.labelAt_eq_some_iff.mp labelled
  have walkedHere : ((searchContext runtime before request).on after).walk startPort
      arcs = some (label :: ancestors) := walked
  obtain ⟨_, walkedToo, eases⟩ := SearchContext.walk_unlearn learns built.laidOut
    builtToo.laidOut builtToo.wellFormed walkedHere
  obtain ⟨eased, others, head, -, rfl⟩ := List.forall₂_cons_right_iff.mp eases
  refine ⟨eased, ⟨startPort, ?_, ?_, SearchContext.labelAt_of_walk walkedToo⟩, ?_⟩
  · rw [← learns.portIndex, source]
  · rw [← learns.portIndex, destination, head.port]
  · unfold Label.key
    rw [head.cost, head.hops, head.regenerations]

/-- A proven route of the earlier snapshot is one of the later, with the same label. -/
theorem RouteEnds.learn
    (limits : ∀ profile ∈ before.reachProfiles, profile.extentPublished = true)
    (ends : RouteEnds runtime before request arcs label) (proven : label.proven = true) :
    RouteEnds runtime after request arcs label := by
  obtain ⟨startPort, source, destination, labelled⟩ := ends
  obtain ⟨ancestors, walked⟩ := SearchContext.labelAt_eq_some_iff.mp labelled
  have walkedToo : ((searchContext runtime before request).on after).walk startPort
      arcs = some (label :: ancestors) :=
    SearchContext.walk_learn learns built.laidOut builtToo.laidOut limits walked proven
  refine ⟨startPort, ?_, ?_, SearchContext.labelAt_of_walk walkedToo⟩
  · rw [learns.portIndex, source]
  · rw [learns.portIndex, destination]

end Verdicts

/-- The cheaper of two spans. -/
def cheaperSpan (loss : Evidence ℚ) : SpanRecord ℚ :=
  { SpanRecord.published "ab1" (.of "a" "1") (.of "b" "1") 80000 20 30 with
    lossDb := loss
    cost := 1 }

def dearerSpan : SpanRecord ℚ :=
  { SpanRecord.published "ab2" (.of "a" "1") (.of "b" "1") 80000 20 30 with cost := 2 }

/-- Two spans between the same ports, with what is known of the loss of the
cheaper one. -/
def lossOfCheaper (loss : Evidence ℚ) : SnapshotBuilder ℚ :=
  (SnapshotBuilder.new ⟨text "loss"⟩ 1 {} {}).submitAll [
    .source { id := ⟨text "nms"⟩ },
    .node (.published "a"), .node (.published "b"),
    .reachProfile (.published "line" 100000 4 25 10),
    .port (.published (.of "a" "1") "line"),
    .port (.published (.of "b" "1") "line"),
    .span (cheaperSpan loss), .span dearerSpan]

theorem lossOfCheaper_learns :
    ((lossOfCheaper .unknown).finished rationalRuntime).Learns
      ((lossOfCheaper (.known 20)).finished rationalRuntime) where
  spectrum := by decide +kernel
  nodes := forall₂_of_eq NodeRecord.Learns.refl (by decide +kernel)
  ports := forall₂_of_eq PortRecord.Learns.refl (by decide +kernel)
  spans := by
    have before : ((lossOfCheaper .unknown).finished rationalRuntime).spans =
        [cheaperSpan .unknown, dearerSpan] := by decide +kernel
    have after : ((lossOfCheaper (.known 20)).finished rationalRuntime).spans =
        [cheaperSpan (.known 20), dearerSpan] := by decide +kernel
    rw [before, after]
    exact .cons ⟨rfl, rfl, rfl, rfl, .refl _, .inl rfl, .refl _, .refl _, rfl, rfl,
      .refl _⟩ (.cons (.refl _) .nil)
  crossConnects := forall₂_of_eq CrossConnectRecord.Learns.refl (by decide +kernel)
  reachProfiles := forall₂_of_eq ReachProfile.Learns.refl (by decide +kernel)
  conflicted := by
    have same : ((lossOfCheaper (.known 20)).finished rationalRuntime).conflicted =
        ((lossOfCheaper .unknown).finished rationalRuntime).conflicted := by
      decide +kernel
    unfold TopologySnapshot.isConflicted
    rw [same]
    exact fun _ conflicted => conflicted

/-- A request for up to two routes across the spans. -/
def acrossEither : PlanningRequest ℚ :=
  { acrossSpan with maxCandidates := 2 }

/-- The reach of the single span's profile, as far as it is known. -/
def reachKnown (maxDistanceM : Evidence UInt64) : SnapshotBuilder ℚ :=
  spanUnder { ReachProfile.published "line" 100000 4 25 10 with
    maxDistanceM := maxDistanceM }

/-- A limit that is learned later withdraws a feasible verdict. -/
theorem reachKnown_verdict_withdrawn :
    ((reachKnown .unknown).planned acrossSpan).outcome = .feasible ∧
      ((reachKnown (.known 1000)).planned acrossSpan).outcome = .infeasible := by
  decide +kernel

end OpticalPathPlanner
