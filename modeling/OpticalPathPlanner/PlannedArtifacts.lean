import OpticalPathPlanner.DomainExposure
import OpticalPathPlanner.PlanShapes
import OpticalPathPlanner.PlanTexts
import OpticalPathPlanner.SourceContributions

/-!
# Planned artifacts are read back

A builder that walks over legal records only holds legal parts, with counts that
grow by a bounded number for every arc.  So the artifact of a candidate is read
back exactly when no node of a span use holds a colon and every span use lists
its failure domains in one token.
-/

namespace OpticalPathPlanner

open SortedRanges

/-! ### Parts of a plan under construction -/

section Parts

variable {K : Type} {formatDouble : K → Bytes}

structure PlanStep.Brief (step : PlanStep) : Prop where
  reasonBits : step.reasonBits < 2 ^ 32
  resource : step.resource.Brief

/-- A segment as a builder holds it after so many arcs, when it stands in a
current segment. -/
structure PlanSegment.Sound (numbers : DoubleText formatDouble)
    (ticks current : Nat) (segment : PlanSegment K) : Prop where
  profile : segment.profile.Valid
  channelRuns : segment.channelRuns ≤ ticks
  spans : ∀ use ∈ segment.spans, use.Legal numbers
  regenerated : segment.endedByRegeneration = true →
    segment.regenerationResource.Brief
  unended : segment.endedByRegeneration = false →
    segment.regenerationResource = default
  earlier : segment.index ≤ current
  opened : segment.index = current → segment.endedByRegeneration = false

theorem PlanSegment.Sound.mono {numbers : DoubleText formatDouble}
    {ticks more current : Nat} {segment : PlanSegment K}
    (sound : segment.Sound numbers ticks current) (fewer : ticks ≤ more) :
    segment.Sound numbers more current :=
  { sound with channelRuns := sound.channelRuns.trans fewer }

structure PlanReservation.Sound (width : Nat) (reservation : PlanReservation) :
    Prop where
  resource : reservation.resource.Brief
  firstSlot : reservation.channel.firstSlot < 2 ^ 16
  widthSlots : reservation.channel.widthSlots = width

/-- A builder after so many arcs. -/
structure PlanBuilder.Sound (numbers : DoubleText formatDouble)
    (width ticks : Nat) (builder : PlanBuilder K) : Prop where
  profile : builder.currentProfile.Valid
  channelRuns : builder.segmentChannelRuns ≤ ticks
  stepCount : builder.steps.length ≤ 3 * ticks + 2
  steps : ∀ step ∈ builder.steps, step.Brief
  segments : ∀ segment ∈ builder.segments,
    segment.Sound numbers ticks builder.segmentIndex
  reservations : ∀ reservation ∈ builder.reservations, reservation.Sound width
  capability : ∀ assumption ∈ builder.capability, assumption.Brief
  quality : ∀ assumption ∈ builder.quality, assumption.Brief
  members : ∀ entry ∈ builder.domainCounts,
    entry.1.Valid ∧ entry.2 ≤ 48 * ticks + 32

/-- The sums of a plan are doubles, as their types say. -/
structure PlanArtifact.SumsDouble (numbers : DoubleText formatDouble)
    (plan : PlanArtifact K) : Prop where
  totalLossDb : numbers.IsDouble plan.totalLossDb
  segments : ∀ segment ∈ plan.segments,
    numbers.IsDouble segment.lossDb ∧ numbers.IsDouble segment.osnrDb

/-! ### Counting members -/

theorem members_addMember {domain : FailureDomainId}
    {counts : List (FailureDomainId × Nat)} {bound : Nat}
    (all : ∀ entry ∈ counts, entry.1.Valid ∧ entry.2 ≤ bound)
    (valid : domain.Valid) :
    ∀ entry ∈ addMember domain counts, entry.1.Valid ∧ entry.2 ≤ bound + 1 := by
  induction counts with
  | nil => exact List.forall_mem_singleton.mpr ⟨valid, Nat.le_add_left 1 bound⟩
  | cons entry rest ih =>
      rw [List.forall_mem_cons] at all
      obtain ⟨first, rest_⟩ := all
      have others : ∀ other ∈ rest, other.1.Valid ∧ other.2 ≤ bound + 1 :=
        fun other member => ⟨(rest_ other member).1,
          (rest_ other member).2.trans (Nat.le_succ bound)⟩
      unfold addMember
      split_ifs with smaller same
      · rw [List.forall_mem_cons, List.forall_mem_cons]
        exact ⟨⟨valid, Nat.le_add_left 1 bound⟩,
          ⟨first.1, first.2.trans (Nat.le_succ bound)⟩, others⟩
      · rw [List.forall_mem_cons]
        exact ⟨⟨first.1, Nat.succ_le_succ first.2⟩, others⟩
      · rw [List.forall_mem_cons]
        exact ⟨⟨first.1, first.2.trans (Nat.le_succ bound)⟩, ih rest_⟩

/-- Every listed domain counts once. -/
theorem members_countMembers {more : List FailureDomainId}
    {counts : List (FailureDomainId × Nat)} {bound : Nat}
    (all : ∀ entry ∈ counts, entry.1.Valid ∧ entry.2 ≤ bound)
    (valid : ∀ domain ∈ more, domain.Valid) :
    ∀ entry ∈ countMembers more counts,
      entry.1.Valid ∧ entry.2 ≤ bound + more.length := by
  induction more generalizing counts bound with
  | nil => exact all
  | cons domain rest ih =>
      rw [List.forall_mem_cons] at valid
      have added := members_addMember all valid.1
      intro entry member
      have counted := ih added valid.2 entry member
      rw [List.length_cons]
      exact ⟨counted.1, by omega⟩

/-- The domains of the resources of one arc. -/
theorem members_ofArc {counts : List (FailureDomainId × Nat)} {ticks : Nat}
    (all : ∀ entry ∈ counts, entry.1.Valid ∧ entry.2 ≤ 48 * ticks + 32)
    {link target node : List FailureDomainId} (linkList : DomainList link)
    (targetList : DomainList target) (nodeList : DomainList node) :
    ∀ entry ∈ countMembers (link ++ target ++ node) counts,
      entry.1.Valid ∧ entry.2 ≤ 48 * (ticks + 1) + 32 := by
  have valid : ∀ domain ∈ link ++ target ++ node, domain.Valid := by
    rw [List.forall_mem_append, List.forall_mem_append]
    exact ⟨⟨linkList.valid, targetList.valid⟩, nodeList.valid⟩
  have few : (link ++ target ++ node).length ≤ 48 := by
    have linkFew := linkList.bounded
    have targetFew := targetList.bounded
    have nodeFew := nodeList.bounded
    rw [kMaxDomainsPerResource] at linkFew targetFew nodeFew
    rw [List.length_append, List.length_append]
    omega
  intro entry member
  have counted := members_countMembers all valid entry member
  exact ⟨counted.1, by omega⟩

/-! ### The open segment -/

theorem forall_mem_updateLast {α : Type} {holds : α → Prop} {update : α → α}
    {values : List α} (all : ∀ value ∈ values, holds value)
    (last : ∀ value ∈ values.getLast?, holds (update value)) :
    ∀ value ∈ updateLast update values, holds value := by
  rcases List.eq_nil_or_concat values with rfl | ⟨front, value, rfl⟩
  · simp [updateLast]
  · rw [List.concat_eq_append] at *
    rw [updateLast_concat]
    rw [List.forall_mem_append] at all ⊢
    refine ⟨all.1, List.forall_mem_singleton.mpr (last value ?_)⟩
    simp

end Parts

/-! ### Records a builder walks over -/

namespace TopologySnapshot.Legal

variable {K : Type} {formatDouble : K → Bytes} {numbers : DoubleText formatDouble}
  {snapshot : TopologySnapshot K}

theorem node (legal : snapshot.Legal numbers) {record : NodeRecord}
    (member : record ∈ snapshot.nodes) :
    (Submission.node record : Submission K).Legal numbers :=
  (forall_mem_calls.mp legal.calls).2.2.1 record member

theorem port (legal : snapshot.Legal numbers) {record : PortRecord}
    (member : record ∈ snapshot.ports) :
    (Submission.port record : Submission K).Legal numbers :=
  (forall_mem_calls.mp legal.calls).2.2.2.1 record member

theorem span (legal : snapshot.Legal numbers) {record : SpanRecord K}
    (member : record ∈ snapshot.spans) : (Submission.span record).Legal numbers :=
  (forall_mem_calls.mp legal.calls).2.2.2.2.1 record member

theorem crossConnect (legal : snapshot.Legal numbers)
    {record : CrossConnectRecord} (member : record ∈ snapshot.crossConnects) :
    (Submission.crossConnect record : Submission K).Legal numbers :=
  (forall_mem_calls.mp legal.calls).2.2.2.2.2 record member

theorem findPort (legal : snapshot.Legal numbers) {key : PortKey}
    {record : PortRecord} (found : snapshot.findPort key = some record) :
    (Submission.port record : Submission K).Legal numbers ∧ record.key = key := by
  obtain ⟨index, _, atIndex, same⟩ := findPort_eq_some found
  exact ⟨legal.port (List.mem_of_getElem? atIndex), same⟩

end TopologySnapshot.Legal

/-! ### The builder, arc by arc -/

theorem Spelled.assumption {limit : Nat} {value : Bytes}
    (spelled : Spelled limit value) {key : ResourceKey} (brief : key.Brief)
    (field : String) (short : (text field).length ≤ 96) (fits : limit ≤ 96) :
    PlanAssumption.Brief ⟨key, text field, value⟩ :=
  ⟨brief, short, spelled.short.trans fits⟩

namespace SearchContext

variable {K : Type} [Field K] [LinearOrder K] {ctx : SearchContext K}
  {numbers : DoubleText ctx.runtime.formatDouble} {request : PlanningRequest K}
  {start : PortRecord} {profile : ProfileId} {arcs : List ArcRef}
  {hops : List (Hop K)} {builder : PlanBuilder K} {width ticks : Nat}

omit [LinearOrder K] in
theorem getLast?_ensureSegment (builder : PlanBuilder K) :
    ∀ segment ∈ builder.ensureSegment.segments.getLast?,
      segment.index = builder.segmentIndex := by
  intro segment last
  unfold PlanBuilder.ensureSegment at last
  split_ifs at last with same
  · rw [Option.mem_def] at last
    rw [last] at same
    exact Option.some.inj same
  · rw [Option.mem_def, List.getLast?_concat] at last
    rw [← Option.some.inj last]

/-- A new segment starts empty. -/
theorem ensureSegment_sound (sound : builder.Sound numbers width ticks) :
    ∀ segment ∈ builder.ensureSegment.segments,
      segment.Sound numbers ticks builder.segmentIndex := by
  unfold PlanBuilder.ensureSegment
  split_ifs
  · exact sound.segments
  · refine List.forall_mem_append.mpr
      ⟨sound.segments, List.forall_mem_singleton.mpr ?_⟩
    exact ⟨sound.profile, Nat.zero_le _, List.forall_mem_nil _, nofun,
      fun _ => rfl, le_rfl, fun _ => rfl⟩

omit [Field K] [LinearOrder K] in
theorem segmentChannelRuns_noteSlot (builder : PlanBuilder K) (slot : Nat) :
    (builder.noteSlot slot).segmentChannelRuns ≤
      builder.segmentChannelRuns + 1 := by
  unfold PlanBuilder.noteSlot
  split_ifs
  · exact Nat.le_succ _
  · exact le_rfl

/-- The step into a node, if there is one. -/
theorem nodeSteps_brief (legal : ctx.snapshot.Legal numbers)
    {node : Option NodeRecord}
    (listed : ∀ record, node = some record → record ∈ ctx.snapshot.nodes)
    (index segment : Nat) {reasons : Nat} (small : reasons < 2 ^ 32)
    (cost : NodeRecord → UInt64) (steps : List PlanStep)
    (steps_eq : steps = ((node.map fun node =>
      [(⟨index, .node, .forNode node.id, segment, reasons, cost node⟩ :
        PlanStep)]).getD [])) :
    steps.length ≤ 1 ∧ ∀ step ∈ steps, step.Brief := by
  subst steps_eq
  cases node with
  | none => simp
  | some record =>
      have node := legal.node (listed record rfl)
      exact ⟨le_rfl, List.forall_mem_singleton.mpr ⟨small, node.1.brief _⟩⟩

theorem nodeDomains_legal (legal : ctx.snapshot.Legal numbers)
    {node : Option NodeRecord}
    (listed : ∀ record, node = some record → record ∈ ctx.snapshot.nodes) :
    DomainList ((node.map NodeRecord.failureDomains).getD []) := by
  cases node with
  | none => exact ⟨nofun, Nat.zero_le _⟩
  | some record => exact (legal.node (listed record rfl)).2.2

theorem enteredNode_mem {fromPort toPort : PortKey} {record : NodeRecord}
    (entered : ctx.enteredNode fromPort toPort = some record) :
    record ∈ ctx.snapshot.nodes := by
  unfold enteredNode at entered
  split_ifs at entered
  exact mem_nodes_of_findNode entered

/-- What a span adds. -/
theorem SpanBuild.sound (legal : ctx.snapshot.Legal numbers)
    (sound : builder.Sound numbers ctx.rules.channelWidthSlots ticks)
    {index : Nat} {reversed : Bool} {span : SpanRecord K} {target : PortRecord}
    {length : UInt64} {loss osnr : K} {mask : SlotMask} {slot : Nat}
    (built : ctx.SpanBuild builder index reversed span target length loss osnr
      mask slot) :
    (ctx.useSpan builder span reversed target length loss osnr mask slot).Sound
      numbers ctx.rules.channelWidthSlots (ticks + 1) := by
  obtain ⟨ids, doubles, _, domains⟩ :=
    legal.span (List.mem_of_getElem? built.record)
  obtain ⟨_, _, _, portDomains⟩ := (legal.findPort built.port).1
  have enters : ∀ record, ctx.enteredNode builder.currentPort
      (span.arrival reversed) = some record → record ∈ ctx.snapshot.nodes :=
    fun _ => enteredNode_mem
  obtain ⟨fewSteps, stepsBrief⟩ := nodeSteps_brief legal enters
    (builder.steps.length + 1) builder.segmentIndex
    (by decide : kReasonNotExcluded ||| kReasonAdminUp < 2 ^ 32)
    (fun _ => ctx.nodeCostBetween builder.currentPort (span.arrival reversed))
    (ctx.enteredSteps (builder.steps.length + 1) builder.segmentIndex
      builder.currentPort (span.arrival reversed)) rfl
  have nodeDomains := nodeDomains_legal legal enters
  have resource : (ResourceKey.forSpan span.id).Brief := ids.1.brief _
  have small : spanReasons < 2 ^ 32 := by decide
  have inRange : slot < 256 := by
    by_contra outside
    have isSet := (SlotMask.lowestSetBit_eq_some_iff mask slot).mp built.slot_eq
    rw [SlotMask.test_eq_false_of_le (Nat.le_of_not_lt outside)] at isSet
    exact Bool.noConfusion isSet.1
  have lossDouble := doubles.1 loss built.lossDb
  have osnrDouble := doubles.2 osnr built.osnrDb
  have ends : (span.departure reversed).Valid ∧ (span.arrival reversed).Valid := by
    cases reversed
    · exact ⟨ids.2.1, ids.2.2⟩
    · exact ⟨ids.2.2, ids.2.1⟩
  rw [useSpan_eq]
  refine ⟨sound.profile, ?_, ?_, ?_, ?_, ?_, ?_, ?_, ?_⟩
  · exact (segmentChannelRuns_noteSlot builder slot).trans
      (Nat.succ_le_succ sound.channelRuns)
  · have before := sound.stepCount
    simp only [List.length_append, List.length_singleton]
    omega
  · refine List.forall_mem_append.mpr ⟨List.forall_mem_append.mpr
      ⟨sound.steps, List.forall_mem_singleton.mpr ⟨small, resource⟩⟩,
      stepsBrief⟩
  · have before : ∀ segment ∈ builder.ensureSegment.segments,
        segment.Sound numbers (ticks + 1) builder.segmentIndex :=
      fun segment member =>
        (ensureSegment_sound sound segment member).mono (Nat.le_succ ticks)
    refine forall_mem_updateLast before fun segment last => ?_
    have segmentSound := before segment (List.mem_of_getLast? last)
    refine { segmentSound with spans := ?_ }
    refine List.forall_mem_append.mpr
      ⟨segmentSound.spans, List.forall_mem_singleton.mpr ?_⟩
    exact ⟨ids.1, ends.1, ends.2, lossDouble, osnrDouble,
      inRange.trans (by decide), domains.valid⟩
  · exact List.forall_mem_append.mpr ⟨sound.reservations,
      List.forall_mem_singleton.mpr ⟨resource, inRange.trans (by decide), rfl⟩⟩
  · exact List.forall_mem_append.mpr ⟨sound.capability,
      List.forall_mem_singleton.mpr
        ((SlotMask.spelled _).assumption resource _ (by decide) (by decide))⟩
  · rw [List.forall_mem_append, List.forall_mem_cons, List.forall_mem_cons,
      List.forall_mem_singleton]
    refine ⟨sound.quality, ?_, ?_, ?_⟩
    · exact (spelled_formatU64 length.toNat_lt).assumption resource _ (by decide)
        (by decide)
    · exact (DoubleText.spelled lossDouble).assumption resource _ (by decide)
        (by decide)
    · exact (DoubleText.spelled osnrDouble).assumption resource _ (by decide)
        (by decide)
  · exact members_ofArc sound.members domains portDomains nodeDomains

variable (ctx) in
/-- Closing the open segment, before the next one is entered. -/
theorem closeSegment_sound (sound : builder.Sound numbers width ticks)
    (ended : Bool) (regeneration : PlanSegment K → ResourceKey) {next : Nat}
    (after : builder.segmentIndex ≤ next)
    (regenerated : ended = true →
      builder.segmentIndex < next ∧ ∀ segment, (regeneration segment).Brief)
    (kept : ended = false → regeneration = PlanSegment.regenerationResource) :
    ∀ segment ∈ (ctx.closeSegment builder ended regeneration).segments,
      segment.Sound numbers ticks next := by
  have before : ∀ segment ∈ builder.ensureSegment.segments,
      segment.Sound numbers ticks next := by
    intro segment member
    have holds := ensureSegment_sound sound segment member
    refine { holds with earlier := holds.earlier.trans after, opened := ?_ }
    intro current
    exact holds.opened (le_antisymm holds.earlier (current ▸ after))
  rw [closeSegment_eq]
  refine forall_mem_updateLast before fun segment last => ?_
  have holds := ensureSegment_sound sound segment (List.mem_of_getLast? last)
  have index := getLast?_ensureSegment builder segment last
  refine ⟨sound.profile, sound.channelRuns, holds.spans, ?_, ?_, ?_, ?_⟩
  · exact fun isEnded => (regenerated isEnded).2 segment
  · intro isKept
    rw [kept isKept]
    exact holds.unended (holds.opened index)
  · exact index.le.trans after
  · intro current
    cases ended with
    | false => rfl
    | true =>
        have later := (regenerated rfl).1
        have same : segment.index = next := current
        omega

/-- What switching the segment does to a builder, before the cross-connect adds
its steps. -/
theorem SegmentSwitch.sound (legal : ctx.snapshot.Legal numbers)
    (sound : builder.Sound numbers width ticks) {record : CrossConnectRecord}
    {target : PortRecord} {switched : PlanBuilder K}
    (isRecord : record ∈ ctx.snapshot.crossConnects)
    (isPort : target ∈ ctx.snapshot.ports)
    (segment : ctx.SegmentSwitch builder record target switched) :
    switched.currentProfile.Valid ∧ switched.segmentChannelRuns ≤ ticks + 1 ∧
      (∀ segment ∈ switched.segments,
        segment.Sound numbers (ticks + 1) switched.segmentIndex) ∧
      (∀ assumption ∈ switched.capability, assumption.Brief) ∧
      switched.quality = builder.quality := by
  have before : ∀ segment ∈ builder.segments,
      segment.Sound numbers (ticks + 1) builder.segmentIndex :=
    fun segment member => (sound.segments segment member).mono (Nat.le_succ ticks)
  cases segment with
  | express op mask_eq slot_eq =>
      have runs := segmentChannelRuns_noteSlot builder
      rw [noteSlot_eq]
      exact ⟨sound.profile, (runs _).trans (Nat.succ_le_succ sound.channelRuns),
        before, sound.capability, rfl⟩
  | convert op mask_eq slot_eq =>
      exact ⟨sound.profile, Nat.succ_le_succ sound.channelRuns, before,
        sound.capability, rfl⟩
  | @regenerate profile op transmits =>
      obtain ⟨ids, _⟩ := legal.crossConnect isRecord
      obtain ⟨key, profiles, _⟩ := legal.port isPort
      have closed := closeSegment_sound ctx sound true
        (fun _ => .forCrossConnect record.id) (Nat.le_succ builder.segmentIndex)
        (fun _ => ⟨Nat.lt_succ_self _, fun _ => ids.1.brief _⟩) nofun
      have profileValid := profiles profile transmits
      refine ⟨profileValid, Nat.zero_le _, fun segment member =>
        (closed segment member).mono (Nat.le_succ ticks), ?_, ?_⟩
      · rw [closeSegment_eq]
        exact List.forall_mem_append.mpr ⟨sound.capability,
          List.forall_mem_singleton.mpr
            ⟨key.brief, (by decide : (text "transmit_profile").length ≤ 96),
              profileValid.length_le⟩⟩
      · rw [closeSegment_eq]
        rfl

/-- What a cross-connect adds. -/
theorem CrossConnectBuild.sound (legal : ctx.snapshot.Legal numbers)
    (sound : builder.Sound numbers width ticks) {index : Nat}
    {record : CrossConnectRecord} {target : PortRecord}
    {switched : PlanBuilder K}
    (built : ctx.CrossConnectBuild builder index record target switched) :
    (ctx.useCrossConnect switched record target).Sound numbers width
      (ticks + 1) := by
  have isRecord := List.mem_of_getElem? built.atIndex
  obtain ⟨ids, _, domains⟩ := legal.crossConnect isRecord
  obtain ⟨portLegal, _⟩ := legal.findPort built.port
  obtain ⟨key, _, _, portDomains⟩ := portLegal
  have isPort : target ∈ ctx.snapshot.ports := by
    obtain ⟨_, _, atIndex, _⟩ := TopologySnapshot.findPort_eq_some built.port
    exact List.mem_of_getElem? atIndex
  obtain ⟨profile, runs, segments, capability, quality⟩ :=
    built.segment.sound legal sound isRecord isPort
  obtain ⟨steps, domainCounts, reservations, _⟩ := built.segment.frame
  have resource : (ResourceKey.forCrossConnect record.id).Brief :=
    ids.1.brief _
  have port : (ResourceKey.forPort target.key).Brief := key.brief
  have reasons : operationReasons record.op < 2 ^ 32 ∧
      operationReasons record.op ||| kReasonSpectrumAvailable < 2 ^ 32 := by
    cases record.op <;> decide
  have enters : ∀ node, ctx.enteredNode switched.currentPort target.key =
      some node → node ∈ ctx.snapshot.nodes := fun _ => enteredNode_mem
  obtain ⟨fewSteps, stepsBrief⟩ := nodeSteps_brief legal enters
    (switched.steps.length + 2) switched.segmentIndex
    (by decide : kReasonNotExcluded ||| kReasonAdminUp < 2 ^ 32)
    (fun _ => ctx.nodeCostBetween switched.currentPort target.key)
    (ctx.enteredSteps (switched.steps.length + 2) switched.segmentIndex
      switched.currentPort target.key) rfl
  have targetSteps : (ctx.targetSteps (switched.steps.length + 1)
      switched.segmentIndex record target switched.currentPort).length ≤ 2 ∧
      ∀ step ∈ ctx.targetSteps (switched.steps.length + 1)
        switched.segmentIndex record target switched.currentPort,
        step.Brief := by
    unfold SearchContext.targetSteps
    split_ifs
    · exact ⟨Nat.zero_le _, List.forall_mem_nil _⟩
    · exact ⟨Nat.succ_le_succ fewSteps,
        List.forall_mem_cons.mpr ⟨⟨reasons.2, port⟩, stepsBrief⟩⟩
  have noted : DomainList (ctx.notedDomains record target
      switched.currentPort) := by
    unfold notedDomains
    split_ifs
    · exact ⟨List.forall_mem_nil _, Nat.zero_le _⟩
    · exact nodeDomains_legal legal enters
  have operation : record.op.name.length ≤ 96 := by
    cases record.op <;> decide
  rw [useCrossConnect_eq]
  refine ⟨profile, runs, ?_, ?_, segments, ?_, ?_, ?_, ?_⟩
  · have before := sound.stepCount
    have added := targetSteps.1
    rw [← steps] at before
    simp only [List.length_append, List.length_singleton]
    omega
  · rw [List.forall_mem_append, List.forall_mem_append, steps]
    refine ⟨⟨sound.steps, List.forall_mem_singleton.mpr ⟨reasons.1, resource⟩⟩, ?_⟩
    rw [← steps]
    exact targetSteps.2
  · rw [reservations]
    exact sound.reservations
  · rw [List.forall_mem_append, List.forall_mem_cons, List.forall_mem_singleton]
    refine ⟨capability, ⟨resource, ?_, operation⟩, ?_⟩
    · exact (by decide : (text "operation").length ≤ 96)
    · exact (SlotMask.spelled _).assumption port _ (by decide) (by decide)
  · change ∀ assumption ∈ switched.quality, assumption.Brief
    rw [quality]
    exact sound.quality
  · rw [domainCounts]
    exact members_ofArc sound.members domains portDomains noted

/-- What a builder starts with. -/
theorem startBuilder_sound (legal : ctx.snapshot.Legal numbers)
    (found : ctx.snapshot.findPort request.source = some start)
    (valid : profile.Valid) :
    (ctx.startBuilder request start profile).Sound numbers width 0 := by
  obtain ⟨⟨key, _, _, domains⟩, same⟩ := legal.findPort found
  rw [same] at key
  have listed : ∀ record, ctx.snapshot.findNode request.source.node =
      some record → record ∈ ctx.snapshot.nodes := fun _ => mem_nodes_of_findNode
  have small : kReasonSegmentStart ||| kReasonNotExcluded ||| kReasonAdminUp |||
      kReasonPortAdmitted ||| kReasonSpectrumAvailable |||
      kReasonTransmitProfileKnown < 2 ^ 32 := by decide
  obtain ⟨fewSteps, stepsBrief⟩ := nodeSteps_brief legal listed 1 0
    (by decide : kReasonSegmentStart ||| kReasonNotExcluded |||
      kReasonAdminUp < 2 ^ 32) NodeRecord.transitCost
    (ctx.startNodeSteps request.source) rfl
  have port : (ResourceKey.forPort request.source).Brief := key.brief
  rw [startBuilder_eq]
  refine ⟨valid, le_rfl, Nat.succ_le_succ fewSteps, ?_, ?_, ?_, ?_, ?_, ?_⟩
  · exact List.forall_mem_cons.mpr ⟨⟨small, port⟩, stepsBrief⟩
  · exact List.forall_mem_nil _
  · exact List.forall_mem_nil _
  · rw [List.forall_mem_cons, List.forall_mem_singleton]
    exact ⟨⟨port, (by decide : (text "transmit_profile").length ≤ 96),
        valid.length_le⟩,
      (SlotMask.spelled _).assumption port _ (by decide) (by decide)⟩
  · exact List.forall_mem_nil _
  · have nodeDomains := nodeDomains_legal legal listed
    have members : ∀ entry ∈ ([] : List (FailureDomainId × Nat)),
        entry.1.Valid ∧ entry.2 ≤ 0 := List.forall_mem_nil _
    intro entry member
    have counted := members_countMembers members (List.forall_mem_append.mpr
      ⟨domains.valid, nodeDomains.valid⟩) entry member
    have few := domains.bounded
    have nodeFew := nodeDomains.bounded
    rw [kMaxDomainsPerResource] at few nodeFew
    rw [List.length_append] at counted
    exact ⟨counted.1, by omega⟩

/-- Along a run every builder is sound. -/
theorem BuilderRun.sound (legal : ctx.snapshot.Legal numbers)
    (found : ctx.snapshot.findPort request.source = some start)
    (valid : profile.Valid)
    (run : ctx.BuilderRun request start profile arcs hops builder) :
    builder.Sound numbers ctx.rules.channelWidthSlots arcs.length := by
  induction run with
  | start => exact startBuilder_sound legal found valid
  | span before built ih =>
      rw [List.length_append, List.length_singleton]
      exact built.sound legal ih
  | crossConnect before built ih =>
      rw [List.length_append, List.length_singleton]
      exact built.sound legal ih

end SearchContext

/-! ### Plans of candidates -/

section Candidates

variable {K E : Type} [Field K] [LinearOrder K] {runtime : Runtime K}
  {numbers : DoubleText runtime.formatDouble} {options : PlannerOptions}
  {driver : SearchDriver E} {snapshot : TopologySnapshot K}
  {request : PlanningRequest K} {arcs : List ArcRef} {hops : List (Hop K)}
  {startPort : Nat} {label : Label K} {ancestors : List (Label K)}
  {builder : PlanBuilder K} {plan : PlanArtifact K}

theorem IsBuilt.legal (built : IsBuilt runtime snapshot)
    (ids : snapshot.IdsValid) (doubles : snapshot.NumbersDouble numbers) :
    snapshot.Legal numbers := by
  induction built with
  | sealed builder snapshot built => exact legal_of_build built ids doubles
  | restored snapshot producer epoch built ih =>
      obtain ⟨id, slotCount, calls, sources, profiles, nodes, ports, spans,
        crossConnects⟩ := ih ids doubles
      exact ⟨id, slotCount, calls, sources, profiles, nodes, ports, spans,
        crossConnects⟩

variable (request) in
/-- The lists that a finished plan takes over from its builder. -/
theorem finishPlan_lists (ctx : SearchContext K) (requestDigest : Digest256)
    (arcCount : Nat) (builder : PlanBuilder K) :
    let plan := ctx.finishPlan request requestDigest arcCount builder
    plan.capabilityAssumptions = builder.capability ∧
      plan.qualityAssumptions = builder.quality ∧
      plan.failureDomainExposure = builder.domainCounts.map fun entry =>
        ⟨entry.1, entry.2, ctx.memberLimit entry.1⟩ := by
  intro plan
  unfold plan SearchContext.finishPlan
  rw [SearchContext.closeSegment_eq]
  simp only
  split_ifs <;> exact ⟨rfl, rfl, rfl⟩

/-- The builder of a candidate is sound. -/
theorem Travels.builder_sound (legal : snapshot.Legal numbers)
    (travels : Travels runtime snapshot request arcs hops startPort label
      ancestors builder) :
    PlanBuilder.Sound numbers request.channelWidthSlots arcs.length builder := by
  obtain ⟨profile, transmits, _, run⟩ := travels.builderRun
  have found := travels.findPort_source
  obtain ⟨_, profiles, _⟩ := (legal.findPort found).1
  exact run.sound legal found (profiles profile transmits)

/-- How long the lists of a candidate are. -/
structure PlanArtifact.Small (plan : PlanArtifact K) : Prop where
  steps : plan.steps.length < 2 ^ 12
  segments : plan.segments.length < 2 ^ 12
  segmentIndices : plan.segments.map PlanSegment.index =
    List.range plan.segments.length
  spanCounts : ∀ segment ∈ plan.segments, segment.spanCount < 2 ^ 12
  reserved : ∀ reservation ∈ plan.reservations,
    reservation.segmentIndex < plan.segments.length
  hops : plan.hops ≤ kMaxRequestedHops
  regenerations : plan.regenerations ≤ kMaxRequestedRegenerations

/-- A plan in shape within the limits of a valid request is small. -/
theorem PlanShape.small (shape : PlanShape request hops plan)
    (valid : request.IsValid) (within : PlanWithinLimits request plan hops)
    (steps : plan.steps.length ≤ 3 * kMaxRequestedHops + 3) : plan.Small := by
  have regenerations := within.regenerationLimit.trans valid.regenerations_le
  have number : plan.segments.length = plan.regenerations + 1 := by
    simpa using congrArg List.length shape.segmentIndices
  have reservations : plan.reservations.length ≤ plan.steps.length := by
    have same := congrArg List.length shape.reservations
    rw [List.length_map, List.length_map] at same
    rw [same]
    exact List.length_filter_le _ _
  have small : 3 * kMaxRequestedHops + 3 < 2 ^ 12 := by decide
  refine ⟨steps.trans_lt small, ?_, ?_, ?_, ?_,
    within.hopLimit.trans valid.hops_le, regenerations⟩
  · have few : kMaxRequestedRegenerations + 1 < 2 ^ 12 := by decide
    omega
  · rw [number]
    exact shape.segmentIndices
  · intro segment member
    have total := List.le_sum_of_mem (List.mem_map_of_mem
      (f := PlanSegment.spanCount) member)
    rw [shape.spanTotal] at total
    omega
  · intro reservation member
    have listed := List.mem_map_of_mem (f := fun reservation : PlanReservation =>
      (reservation.resource, reservation.segmentIndex)) member
    rw [shape.reservations] at listed
    obtain ⟨step, isStep, same⟩ := List.mem_map.mp listed
    rw [← (Prod.mk.inj same).2]
    exact shape.bounded step (List.mem_of_mem_filter isStep)

/-- What a sound builder leaves in the plan it finishes. -/
structure PlanArtifact.Made (numbers : DoubleText runtime.formatDouble)
    (plan : PlanArtifact K) : Prop where
  formatVersion : plan.formatVersion = kPlanFormatVersion
  ruleVersion : plan.ruleVersion = kPlanningRuleVersion
  bindings : ∀ binding ∈ plan.boundSources, binding.source.Valid
  ends : plan.EndsValid
  channelWidthSlots : plan.channelWidthSlots < 2 ^ 16
  steps : ∀ step ∈ plan.steps, step.Brief
  segments : ∃ ticks < 2 ^ 12, ∃ current,
    ∀ segment ∈ plan.segments, segment.Sound numbers ticks current
  reservations : ∀ reservation ∈ plan.reservations,
    reservation.Sound plan.channelWidthSlots
  capability : ∀ assumption ∈ plan.capabilityAssumptions, assumption.Brief
  quality : ∀ assumption ∈ plan.qualityAssumptions, assumption.Brief
  exposure : ∀ exposure ∈ plan.failureDomainExposure, exposure.Legal
  sealed_ : runtime.computePlanDigest plan = plan.digest

namespace PlanArtifact.Made

theorem brief (made : plan.Made numbers) : ∀ entry ∈ plan.entries, entry.Brief := by
  obtain ⟨_, _, _, segments⟩ := made.segments
  rw [forall_mem_entries]
  exact ⟨trivial, made.ends.requestId, made.ends.snapshotId, fun _ _ => trivial,
    ⟨made.ends.source, made.ends.destination⟩, trivial, trivial,
    fun step member => (made.steps step member).resource,
    fun segment member => ⟨(segments segment member).regenerated,
      fun _ _ => trivial⟩,
    fun reservation member => (made.reservations reservation member).resource,
    made.capability, made.quality, fun _ _ => trivial, trivial⟩

theorem segment_legal {segment : PlanSegment K} {ticks current : Nat}
    (sound : segment.Sound numbers ticks current) (fewTicks : ticks < 2 ^ 12)
    (index : segment.index < 2 ^ 12) (spanCount : segment.spanCount < 2 ^ 12)
    (double : numbers.IsDouble segment.lossDb ∧ numbers.IsDouble segment.osnrDb) :
    segment.Legal numbers := by
  have runs := sound.channelRuns
  refine ⟨by omega, sound.profile, double.1, double.2, by omega, by omega, ?_⟩
  split_ifs with ended
  · exact (sound.regenerated ended).named
  · exact sound.unended (Bool.eq_false_iff.mpr ended)

theorem entries_legal (made : plan.Made numbers) (small : plan.Small)
    (indices : plan.steps.map PlanStep.index = List.range plan.steps.length)
    (bounded : ∀ step ∈ plan.steps, step.segmentIndex < plan.segments.length)
    (sums : plan.SumsDouble numbers) :
    ∀ entry ∈ plan.entries, entry.Legal numbers := by
  obtain ⟨ticks, fewTicks, current, segments⟩ := made.segments
  have fewSegments := small.segments
  have index : ∀ segment ∈ plan.segments, segment.index < 2 ^ 12 := by
    intro segment member
    have listed := List.mem_map_of_mem (f := PlanSegment.index) member
    rw [small.segmentIndices, List.mem_range] at listed
    exact listed.trans fewSegments
  have stepLegal : ∀ step ∈ plan.steps, step.Legal := by
    intro step member
    have listed := List.mem_map_of_mem (f := PlanStep.index) member
    rw [indices, List.mem_range] at listed
    have inSegment := bounded step member
    have fewSteps := small.steps
    obtain ⟨reasonBits, resource⟩ := made.steps step member
    exact ⟨by omega, by omega, reasonBits, resource.named⟩
  have reservationLegal : ∀ reservation ∈ plan.reservations,
      reservation.Legal := by
    intro reservation member
    obtain ⟨resource, firstSlot, widthSlots⟩ :=
      made.reservations reservation member
    have inSegment := small.reserved reservation member
    refine ⟨resource.named, firstSlot, ?_, by omega⟩
    rw [widthSlots]
    exact made.channelWidthSlots
  have hops : plan.hops < 2 ^ 32 := small.hops.trans_lt (by decide)
  have regenerations : plan.regenerations < 2 ^ 32 :=
    small.regenerations.trans_lt (by decide)
  have segmentsLegal : ∀ segment ∈ plan.segments, segment.Legal numbers ∧
      ∀ use ∈ segment.spans, segment.index < 2 ^ 32 ∧ use.Legal numbers := by
    intro segment member
    have sound := segments segment member
    have isSmall := index segment member
    exact ⟨segment_legal sound fewTicks isSmall (small.spanCounts segment member)
      (sums.segments segment member),
      fun use isUse => ⟨by omega, sound.spans use isUse⟩⟩
  rw [forall_mem_entries]
  exact ⟨made.ruleVersion, trivial, trivial, made.bindings, trivial,
    made.channelWidthSlots, ⟨sums.totalLossDb, hops, regenerations⟩, stepLegal,
    segmentsLegal, reservationLegal,
    fun assumption member => (made.capability assumption member).resource.named,
    fun assumption member => (made.quality assumption member).resource.named,
    made.exposure, trivial⟩

end PlanArtifact.Made

variable (request) in
theorem finishPlan_fields (ctx : SearchContext K) (requestDigest : Digest256)
    (arcCount : Nat) (builder : PlanBuilder K) :
    let plan := ctx.finishPlan request requestDigest arcCount builder
    plan.requestId = request.id ∧ plan.snapshotId = ctx.snapshot.id ∧
      plan.source = request.source ∧ plan.destination = request.destination ∧
      plan.channelWidthSlots = ctx.rules.channelWidthSlots ∧
      plan.boundSources.map SourceBinding.source =
        ctx.snapshot.sources.map SourceRecord.id := by
  intro plan
  refine ⟨rfl, rfl, rfl, rfl, rfl, ?_⟩
  change (ctx.snapshot.sources.map _).map SourceBinding.source = _
  rw [List.map_map]
  rfl

theorem Travels.made (legal : snapshot.Legal numbers) (valid : request.IsValid)
    (requestId : request.id.Valid)
    (travels : Travels runtime snapshot request arcs hops startPort label
      ancestors builder) (requestDigest : Digest256) :
    ((searchContext runtime snapshot request).finishPlan request requestDigest
      arcs.length builder).Made numbers := by
  have sound := travels.builder_sound legal
  have within := travels.withinLimits valid.distinct requestDigest
  have source := legal.findPort travels.findPort_source
  have destination : request.destination.Valid := by
    obtain ⟨record, atIndex, same⟩ :=
      TopologySnapshot.getElem?_of_portIndex travels.destination
    have port := (legal.port (List.mem_of_getElem? atIndex)).1
    rwa [same] at port
  have fewHops : arcs.length ≤ kMaxRequestedHops :=
    within.hopLimit.trans valid.hops_le
  have width : request.channelWidthSlots < 2 ^ 16 :=
    valid.width_le.trans_lt (by decide)
  obtain ⟨capability, quality, exposure⟩ := finishPlan_lists
    request (searchContext runtime snapshot request) requestDigest
    arcs.length builder
  have sourceIds : ∀ record ∈ snapshot.sources, record.id.Valid :=
    (TopologySnapshot.forall_mem_calls.mp legal.calls).1
  refine ⟨rfl, rfl, ?_, ⟨requestId, legal.id, ?_, destination⟩, width, ?_,
    ⟨arcs.length, fewHops.trans_lt (by decide), builder.segmentIndex, ?_⟩, ?_, ?_,
    ?_, ?_, rfl⟩
  · exact List.forall_mem_map.mpr sourceIds
  · have key := source.1.1
    rwa [source.2] at key
  · have arrived : PlanStep.Brief ⟨builder.steps.length, .port,
        .forPort request.destination, builder.segmentIndex,
        kReasonNotExcluded ||| kReasonAdminUp ||| kReasonPortAdmitted |||
          kReasonSpectrumAvailable, 0⟩ :=
      ⟨(by decide : kReasonNotExcluded ||| kReasonAdminUp |||
        kReasonPortAdmitted ||| kReasonSpectrumAvailable < 2 ^ 32),
        destination.brief⟩
    rw [SearchContext.finishPlan_steps]
    split_ifs
    · exact sound.steps
    · exact List.forall_mem_append.mpr
        ⟨sound.steps, List.forall_mem_singleton.mpr arrived⟩
  · rw [finishPlan_segments]
    exact SearchContext.closeSegment_sound _ sound false _ le_rfl nofun
      fun _ => rfl
  · rw [finishPlan_reservations]
    exact sound.reservations
  · rw [capability]
    exact sound.capability
  · rw [quality]
    exact sound.quality
  · rw [exposure, List.forall_mem_map]
    intro entry member
    obtain ⟨id, members⟩ := sound.members entry member
    have few : 48 * kMaxRequestedHops + 32 < 2 ^ 32 := by decide
    have fewMembers : entry.2 < 2 ^ 32 := by omega
    exact ⟨id, fewMembers⟩

/-- The artifact of a candidate may be written, and only the failure domains of
its span uses may be too long for a token. -/
theorem Travels.plan_legal (legal : snapshot.Legal numbers)
    (valid : request.IsValid) (requestId : request.id.Valid)
    (travels : Travels runtime snapshot request arcs hops startPort label
      ancestors builder) (requestDigest : Digest256)
    (sums : ((searchContext runtime snapshot request).finishPlan request
      requestDigest arcs.length builder).SumsDouble numbers) :
    ((searchContext runtime snapshot request).finishPlan request requestDigest
      arcs.length builder).Legal numbers := by
  have made := travels.made legal valid requestId requestDigest
  have sound := travels.builder_sound legal
  obtain ⟨profile, _, _, run⟩ := travels.builderRun
  have shape := run.planShape requestDigest
  have within := travels.withinLimits valid.distinct requestDigest
  have fewHops : arcs.length ≤ kMaxRequestedHops :=
    within.hopLimit.trans valid.hops_le
  have steps : ((searchContext runtime snapshot request).finishPlan request
      requestDigest arcs.length builder).steps.length ≤
        3 * kMaxRequestedHops + 3 := by
    have count := sound.stepCount
    rw [SearchContext.finishPlan_steps]
    split_ifs
    · omega
    · rw [List.length_append, List.length_singleton]
      omega
  have small := shape.small valid within steps
  refine ⟨made.formatVersion,
    made.entries_legal small shape.indices shape.bounded sums, ?_, ?_,
    shape.indices, small.segmentIndices, made.sealed_⟩
  · intro none_
    have first := shape.first
    rw [none_] at first
    cases first
  · intro none_
    obtain ⟨_, _, closed, trailing, segments⟩ := shape.segments
    exact absurd (segments.segments_eq.symm.trans none_) (by simp)

/-- The ends of every span use are split where they were joined, and its failure
domains fit in one token. -/
def PlanArtifact.SpanUsesRead (plan : PlanArtifact K) : Prop :=
  ∀ segment ∈ plan.segments, ∀ use ∈ segment.spans,
    58 ∉ use.fromPort.node.str ∧ 58 ∉ use.toPort.node.str ∧
      DomainsShort use.failureDomains

instance (plan : PlanArtifact K) : Decidable plan.SpanUsesRead :=
  inferInstanceAs (Decidable (∀ _ ∈ _, ∀ _ ∈ _, _ ∧ _ ∧ _))

theorem PlanArtifact.spanUsesRead_iff (legal : plan.Legal numbers)
    (made : plan.Made numbers) :
    plan.ColonFree ∧ plan.TokensFit runtime.formatDouble ↔ plan.SpanUsesRead := by
  have fits : plan.TokensFit runtime.formatDouble ↔
      ∀ entry ∈ plan.entries, DomainsShort entry.domains := by
    constructor
    · exact fun fit entry member => (PlanEntry.tokens_short_iff
        (legal.entries entry member) (made.brief entry member)).mp
          (fit entry member)
    · exact fun short entry member => (PlanEntry.tokens_short_iff
        (legal.entries entry member) (made.brief entry member)).mpr
          (short entry member)
  rw [fits, forall_mem_entries]
  have nothing : DomainsShort [] := by decide
  constructor
  · rintro ⟨colonFree, _, _, _, _, _, _, _, _, segments, _⟩ segment isSegment use
      isUse
    exact ⟨(colonFree segment isSegment use isUse).1,
      (colonFree segment isSegment use isUse).2,
      (segments segment isSegment).2 use isUse⟩
  · intro read
    refine ⟨fun segment isSegment use isUse =>
      ⟨(read segment isSegment use isUse).1,
        (read segment isSegment use isUse).2.1⟩, nothing, nothing, nothing,
      fun _ _ => nothing, nothing, nothing, nothing, fun _ _ => nothing, ?_,
      fun _ _ => nothing, fun _ _ => nothing, fun _ _ => nothing,
      fun _ _ => nothing, nothing⟩
    exact fun segment isSegment => ⟨nothing, fun use isUse =>
      (read segment isSegment use isUse).2.2⟩

/-- The artifact of every candidate may be written. -/
theorem candidate_legal (built : IsBuilt runtime snapshot)
    (ids : snapshot.IdsValid) (doubles : snapshot.NumbersDouble numbers)
    (requestId : request.id.Valid) {env : E} {candidate : PlanArtifact K}
    (offered : candidate ∈
      (OpticalPathPlanner.plan runtime options driver snapshot request
        env).1.candidates)
    (sums : candidate.SumsDouble numbers) :
    candidate.Legal numbers ∧ candidate.Made numbers := by
  obtain ⟨searching, arcs, takes⟩ := takesRoute_of_candidate offered
  have valid := requestOutcome_eq_none_iff.mp
    (earlyOutcome_eq_none_iff.mp searching).1
  have legal := built.legal ids doubles
  obtain ⟨hops, startPort, label, ancestors, builder, travels, rfl⟩ :=
    takes.travels built.wellFormed searching
  exact ⟨travels.plan_legal legal valid requestId _ sums,
    travels.made legal valid requestId _⟩

end Candidates

/-! ### A node with a colon in its identifier -/

/-- One span from the given node to another one. -/
def spanFrom (node : String) : SnapshotBuilder ℚ :=
  (SnapshotBuilder.new ⟨text "single"⟩ 1 {} {}).submitAll <|
    [.source { id := ⟨text "nms"⟩ },
      .node (.published node), .node (.published "b"),
      .reachProfile (.published "line" 100000 4 25 10),
      .port (.published (.of node "1") "line"),
      .port (.published (.of "b" "1") "line"),
      .span (.published "ab" (.of node "1") (.of "b" "1") 80000 20 30)].map
        Submission.sourced

def requestFrom (node : String) : PlanningRequest ℚ :=
  { acrossSpan with source := .of node "1" }

/-- A plan whose sums are whole. -/
def PlanArtifact.Whole (plan : PlanArtifact ℚ) : Prop :=
  ∀ value ∈ plan.totalLossDb ::
      plan.segments.flatMap fun segment => [segment.lossDb, segment.osnrDb],
    value.den = 1 ∧ value.num.toNat < 100000 ∧ 0 ≤ value.num

instance (plan : PlanArtifact ℚ) : Decidable plan.Whole :=
  inferInstanceAs (Decidable (∀ _ ∈ _, _))

theorem PlanArtifact.Whole.sumsDouble {plan : PlanArtifact ℚ}
    (whole : plan.Whole) :
    plan.SumsDouble wholeNumbers := by
  rw [Whole, List.forall_mem_cons, List.forall_mem_flatMap] at whole
  refine ⟨wholeNumbers_isDouble whole.1, fun segment member => ?_⟩
  have sums := whole.2 segment member
  rw [List.forall_mem_cons, List.forall_mem_singleton] at sums
  exact ⟨wholeNumbers_isDouble sums.1, wholeNumbers_isDouble sums.2⟩

theorem zero_isDouble : wholeNumbers.IsDouble 0 :=
  ⟨0, by decide, by norm_num⟩

end OpticalPathPlanner
