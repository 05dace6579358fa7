import OpticalPathPlanner.PlanSegments

/-!
# Evidence a candidate rests on

Which records a candidate was judged by, and what is known of them.  Every
span of a route is judged by the reach profile of the port that transmits
there: the source, or the port behind the last regeneration.  The search heeds
the conflicts of ports, nodes and spans and the minimum OSNR of a profile; it
overlooks the conflicts of cross-connects and profiles, and the other limits
of a profile.
-/

namespace OpticalPathPlanner

open SortedRanges Traced

variable {K E : Type} [Field K] [LinearOrder K]

/-! ### Transmitting ports -/

section Transmitters

variable {K : Type}

/-- The port that transmits behind the hops of a route. -/
def transmitter (start : PortRecord) (hops : List (Hop K)) : PortRecord :=
  hops.foldl (fun port hop =>
    if hop.link.regenerates then hop.target else port) start

/-- The ports that transmit into the spans of a route. -/
def transmitters (port : PortRecord) : List (Hop K) → List PortRecord
  | [] => []
  | ⟨.span _ _, _⟩ :: rest => port :: transmitters port rest
  | ⟨.crossConnect record, target⟩ :: rest =>
      transmitters (if record.op = .regenerate then target else port) rest

theorem transmitter_concat (start : PortRecord) (hops : List (Hop K))
    (hop : Hop K) :
    transmitter start (hops ++ [hop]) =
      if hop.link.regenerates then hop.target else transmitter start hops := by
  simp [transmitter]

theorem transmitters_concat_span (start : PortRecord) (hops : List (Hop K))
    (record : SpanRecord K) (reversed : Bool) (target : PortRecord) :
    transmitters start (hops ++ [⟨.span record reversed, target⟩]) =
      transmitters start hops ++ [transmitter start hops] := by
  induction hops generalizing start with
  | nil => rfl
  | cons hop hops ih =>
      obtain ⟨link, arrival⟩ := hop
      cases link with
      | span _ _ => simp [transmitters, transmitter, Link.regenerates, ih]
      | crossConnect _ => simp [transmitters, transmitter, Link.regenerates, ih]

theorem transmitters_concat_crossConnect (start : PortRecord)
    (hops : List (Hop K)) (record : CrossConnectRecord) (target : PortRecord) :
    transmitters start (hops ++ [⟨.crossConnect record, target⟩]) =
      transmitters start hops := by
  induction hops generalizing start with
  | nil => rfl
  | cons hop hops ih =>
      obtain ⟨link, arrival⟩ := hop
      cases link with
      | span _ _ => simp [transmitters, ih]
      | crossConnect _ => simp [transmitters, ih]

/-- The record of the reach profile a port transmits with. -/
def TopologySnapshot.profileOf (snapshot : TopologySnapshot K)
    (port : PortRecord) : Option (ReachProfile K) :=
  match port.transmitProfile.value? with
  | some (some id) => snapshot.findReachProfile id
  | _ => none

end Transmitters

namespace SearchContext

variable {ctx : SearchContext K} {rules : RouteRules K}
  {request : PlanningRequest K} {startPort : Nat}

variable (ctx) in
theorem profileOf_eq (port : PortRecord) :
    ctx.snapshot.profileOf port = (ctx.transmitIndex port).bind fun index =>
      ctx.snapshot.reachProfiles[index]? := by
  unfold TopologySnapshot.profileOf transmitIndex
  rcases port.transmitProfile.value? with _ | _ | id <;> rfl

theorem CrossConnectStep.profileIndex_eq {current next : Label K} {index : Nat}
    (step : ctx.CrossConnectStep current index next) :
    next.profileIndex =
      if (ctx.crossConnect index).op = .regenerate then
        ctx.transmitIndex (ctx.port next.portIndex)
      else current.profileIndex := by
  rw [step.next_eq, operated_portIndex]
  cases (ctx.crossConnect index).op <;> rfl

theorem CrossConnectStep.spanCount_eq {current next : Label K} {index : Nat}
    (step : ctx.CrossConnectStep current index next) :
    next.spanCount =
      if (ctx.crossConnect index).op = .regenerate then 0
      else current.spanCount := by
  rw [step.next_eq]
  cases (ctx.crossConnect index).op <;> rfl

/-- The last label of a walk is judged by the profile of its transmitter. -/
theorem Travelled.profileIndex {hops : List (Hop K)} {path : List (Label K)}
    {builder : PlanBuilder K}
    (travelled : ctx.Travelled rules request startPort hops path builder) :
    ∀ label ∈ path.head?, label.profileIndex =
      ctx.transmitIndex (transmitter (ctx.port startPort) hops) := by
  induction travelled with
  | start started _ _ =>
      rintro _ ⟨⟩
      rw [started.label_eq]
      rfl
  | @span hops current next _ _ index reversed _ _ _ _ before departs step allows
      proven built ih =>
      rintro _ ⟨⟩
      rw [transmitter_concat, if_neg (by simp [Link.regenerates]),
        ← ih current rfl, step.next_eq]
  | @crossConnect hops current next _ _ _ index before departs step allows proven
      built ih =>
      rintro _ ⟨⟩
      rw [transmitter_concat, step.profileIndex_eq, ih current rfl]
      by_cases op : (ctx.crossConnect index).op = .regenerate
      · simp [op, Link.regenerates]
      · simp [op, Link.regenerates]

/-- What holds of the profiles at the ends of the segments with a span holds
of the transmitters of the spans, and conversely. -/
theorem Travelled.forall_segmentEnds_iff {hops : List (Hop K)}
    {path : List (Label K)} {builder : PlanBuilder K}
    (travelled : ctx.Travelled rules request startPort hops path builder)
    (property : Option Nat → Prop) :
    (∀ last ∈ ctx.segmentEnds path, last.spanCount ≠ 0 →
        property last.profileIndex) ↔
      ∀ port ∈ transmitters (ctx.port startPort) hops,
        property (ctx.transmitIndex port) := by
  induction travelled with
  | @start label _ started _ _ =>
      have none_ : label.spanCount = 0 := by rw [started.label_eq]
      simp [segmentEnds, closedEnds, transmitters, none_]
  | @span hops current next ancestors _ index reversed _ _ _ _ before departs step
      allows proven built ih =>
      have profile := before.profileIndex current rfl
      have nextProfile : next.profileIndex = current.profileIndex := by
        rw [step.next_eq]
      have spanned : next.spanCount ≠ 0 := by
        rw [step.next_eq]
        exact Nat.succ_ne_zero _
      rw [transmitters_concat_span, List.forall_mem_append, ← ih,
        List.forall_mem_singleton, ← profile, segmentEnds_cons, segmentEnds_cons,
        closedEnds_of_not_regenerated step.not_regenerated,
        List.forall_mem_append, List.forall_mem_append,
        List.forall_mem_singleton, List.forall_mem_singleton, nextProfile]
      constructor
      · rintro ⟨closed, last⟩
        exact ⟨⟨closed, fun _ => last spanned⟩, last spanned⟩
      · rintro ⟨⟨closed, _⟩, last⟩
        exact ⟨closed, fun _ => last⟩
  | @crossConnect hops current next ancestors _ _ index before departs step allows
      proven built ih =>
      have regenerates := step.regenerated_eq
      have profile := step.profileIndex_eq
      have count := step.spanCount_eq
      rw [transmitters_concat_crossConnect, ← ih, segmentEnds_cons,
        segmentEnds_cons]
      by_cases op : (ctx.crossConnect index).op = .regenerate
      · rw [if_pos op] at count
        rw [closedEnds_of_regenerated (by rw [regenerates]; simp [op]),
          List.reverse_cons, List.forall_mem_append, List.forall_mem_singleton]
        exact and_iff_left fun some_ => (some_ count).elim
      · rw [if_neg op] at profile count
        rw [closedEnds_of_not_regenerated (by rw [regenerates]; simp [op]),
          List.forall_mem_append, List.forall_mem_append,
          List.forall_mem_singleton, List.forall_mem_singleton, profile, count]

/-- The profile of every transmitter has a record with a minimum OSNR. -/
theorem Travelled.reachSound {hops : List (Hop K)} {path : List (Label K)}
    {builder : PlanBuilder K}
    (travelled : ctx.Travelled rules request startPort hops path builder) :
    ∀ port ∈ transmitters (ctx.port startPort) hops,
      ctx.reachSound (ctx.transmitIndex port) = true := by
  induction travelled with
  | start _ _ _ => exact nofun
  | @span hops current next _ _ index reversed _ _ _ _ before departs step allows
      proven built ih =>
      rw [transmitters_concat_span]
      refine List.forall_mem_append.mpr ⟨ih, List.forall_mem_singleton.mpr ?_⟩
      rw [← before.profileIndex current rfl]
      exact (step.published proven).2
  | crossConnect before departs step allows proven built ih =>
      rw [transmitters_concat_crossConnect]
      exact ih

end SearchContext

/-! ### Published reach limits -/

section Reach

/-- The length, span count and loss limits of a profile are published. -/
def ReachProfile.extentPublished {K : Type} (profile : ReachProfile K) : Bool :=
  profile.maxDistanceM.hasValue && profile.maxSpanCount.hasValue &&
    profile.maxLossDb.hasValue

/-- All four limits of a profile are published. -/
def ReachProfile.limitsPublished {K : Type} (profile : ReachProfile K) : Bool :=
  profile.extentPublished && profile.minOsnrDb.hasValue

/-- Every segment with a span is judged by a profile with published limits. -/
def RestsOnPublishedReach {K : Type} (snapshot : TopologySnapshot K)
    (candidate : PlanArtifact K) : Prop :=
  ∀ segment ∈ candidate.segments, segment.spanCount ≠ 0 →
    ∃ profile, snapshot.findReachProfile segment.profile = some profile ∧
      profile.limitsPublished = true

/-- The ports that transmit into the spans of a route name profiles with
published length, span count and loss limits. -/
def ExtentsPublished {K : Type} (snapshot : TopologySnapshot K)
    (start : PortRecord) (hops : List (Hop K)) : Prop :=
  ∀ port ∈ transmitters start hops, ∀ profile,
    snapshot.profileOf port = some profile → profile.extentPublished = true

theorem forall_mem_iff_of_forall₂ {α β : Type} {relation : α → β → Prop}
    {first : α → Prop} {second : β → Prop} {left : List α} {right : List β}
    (related : List.Forall₂ relation left right)
    (agree : ∀ value other, relation value other → (first value ↔ second other)) :
    (∀ value ∈ left, first value) ↔ ∀ other ∈ right, second other := by
  induction related with
  | nil => simp
  | cons head rest ih =>
      rw [List.forall_mem_cons, List.forall_mem_cons, ih, agree _ _ head]

variable {runtime : Runtime K} {options : PlannerOptions}
  {driver : SearchDriver E} {snapshot : TopologySnapshot K}
  {request : PlanningRequest K} {arcs : List ArcRef} {hops : List (Hop K)}
  {startPort : Nat} {label : Label K} {ancestors : List (Label K)}
  {builder : PlanBuilder K}

/-- The transmitters of a proven route name profiles with a minimum OSNR. -/
theorem Travels.profileOf_transmitter
    (travels : Travels runtime snapshot request arcs hops startPort label
      ancestors builder) {port : PortRecord}
    (transmits : port ∈ transmitters ((searchContext runtime snapshot
      request).port startPort) hops) :
    ∃ profile, snapshot.profileOf port = some profile ∧
      profile.minOsnrDb.hasValue = true := by
  have sound := travels.travelled.reachSound port transmits
  have found : snapshot.profileOf port = ((searchContext runtime snapshot
      request).transmitIndex port).bind fun index =>
        snapshot.reachProfiles[index]? :=
    (searchContext runtime snapshot request).profileOf_eq port
  cases isIndex : (searchContext runtime snapshot request).transmitIndex port with
  | none =>
      rw [isIndex] at sound
      cases sound
  | some index =>
      rw [isIndex] at sound found
      obtain ⟨id, _, atProfile⟩ := SearchContext.transmitIndex_eq_some isIndex
      obtain ⟨profile, atIndex, _⟩ :=
        TopologySnapshot.getElem?_of_profileIndex atProfile
      have atRecord : snapshot.reachProfiles[index]? = some profile := atIndex
      rw [Option.bind_some, atRecord] at found
      refine ⟨profile, found, ?_⟩
      simpa [SearchContext.reachSound, SearchContext.profileInfo,
        SearchContext.profile, atIndex, Evidence.hasValue] using sound

theorem Travels.restsOnPublishedReach_iff
    (travels : Travels runtime snapshot request arcs hops startPort label
      ancestors builder) (requestDigest : Digest256) :
    RestsOnPublishedReach snapshot
        ((searchContext runtime snapshot request).finishPlan request
          requestDigest arcs.length builder) ↔
      ExtentsPublished snapshot
        ((searchContext runtime snapshot request).port startPort) hops := by
  -- both sides speak of the profiles at the ends of the segments
  have ends := travels.travelled.forall_segmentEnds_iff fun isIndex =>
    ∃ profile, (isIndex.bind fun index => snapshot.reachProfiles[index]?) =
      some profile ∧ profile.limitsPublished = true
  have shown : RestsOnPublishedReach snapshot ((searchContext runtime snapshot
      request).finishPlan request requestDigest arcs.length builder) ↔ _ :=
    forall_mem_iff_of_forall₂ (travels.segments requestDigest)
      fun segment last shows => by
        rw [shows.spanCount, TopologySnapshot.findReachProfile]
        rw [show snapshot.profileIndex segment.profile = last.profileIndex from
          shows.profile]
  rw [shown, ends]
  refine forall₂_congr fun port transmits => ?_
  have profileOf : snapshot.profileOf port = _ :=
    (searchContext runtime snapshot request).profileOf_eq port
  obtain ⟨profile, found, osnr⟩ := travels.profileOf_transmitter transmits
  rw [profileOf] at found
  rw [profileOf]
  constructor
  · rintro ⟨other, same, published⟩ named isNamed
    cases same.symm.trans isNamed
    rw [ReachProfile.limitsPublished, Bool.and_eq_true] at published
    exact published.1
  · intro extents
    refine ⟨profile, found, ?_⟩
    rw [ReachProfile.limitsPublished, extents profile found, osnr]
    rfl

omit [Field K] [LinearOrder K] in
theorem mem_reachProfiles_of_profileOf {port : PortRecord}
    {profile : ReachProfile K} (found : snapshot.profileOf port = some profile) :
    profile ∈ snapshot.reachProfiles := by
  unfold TopologySnapshot.profileOf at found
  split at found
  · obtain ⟨index, _, atIndex⟩ := Option.bind_eq_some_iff.mp found
    exact List.mem_of_getElem? atIndex
  · cases found

/-- One span under a profile with the given limits. -/
def spanUnder (profile : ReachProfile ℚ) : SnapshotBuilder ℚ :=
  (SnapshotBuilder.new ⟨text "under"⟩ 1 {} {}).submitAll [
    .source { id := ⟨text "nms"⟩ },
    .node (.published "a"), .node (.published "b"), .reachProfile profile,
    .port (.published (.of "a" "1") "line"),
    .port (.published (.of "b" "1") "line"),
    .span (.published "ab" (.of "a" "1") (.of "b" "1") 80000 20 30)]

/-- A profile that publishes its minimum OSNR only. -/
def osnrOnly : ReachProfile ℚ where
  id := ⟨text "line"⟩
  minOsnrDb := .known 10

end Reach

/-! ### Conflicting evidence -/

section Conflicts

namespace TopologySnapshot

variable {K : Type} (snapshot : TopologySnapshot K)

def portKeys (port : PortRecord) : List ResourceKey :=
  [.forPort port.key, .forNode port.key.node]

/-- The profiles the spans of a route are judged by. -/
def judgingKeys (start : PortRecord) (hops : List (Hop K)) : List ResourceKey :=
  (transmitters start hops).flatMap fun port =>
    (snapshot.profileOf port).toList.map fun profile =>
      .forReachProfile profile.id

/-- The nodes, ports, spans and cross-connects a route traverses and the
profiles it is judged by. -/
def usedKeys (start : PortRecord) (hops : List (Hop K)) : List ResourceKey :=
  portKeys start ++ (hops.flatMap fun hop => (match hop.link with
    | .span record _ => .forSpan record.id
    | .crossConnect record => .forCrossConnect record.id) ::
      portKeys hop.target) ++ snapshot.judgingKeys start hops

/-- The resources whose conflicts the search overlooks. -/
def overlookedKeys (start : PortRecord) (hops : List (Hop K)) :
    List ResourceKey :=
  (hops.flatMap fun hop => match hop.link with
    | .span _ _ => []
    | .crossConnect record => [.forCrossConnect record.id]) ++
      snapshot.judgingKeys start hops

/-- None of the resources has disagreeing records. -/
def Agreed (keys : List ResourceKey) : Prop :=
  ∀ key ∈ keys, snapshot.isConflicted key = false

variable {snapshot}

theorem agreed_append {first second : List ResourceKey} :
    snapshot.Agreed (first ++ second) ↔
      snapshot.Agreed first ∧ snapshot.Agreed second :=
  List.forall_mem_append

end TopologySnapshot

namespace SearchContext

variable {ctx : SearchContext K} {rules : RouteRules K}
  {request : PlanningRequest K} {startPort : Nat}

/-- A published port agrees with itself and with its node. -/
theorem PortPublished.agreed {portIndex : Nat}
    (published : ctx.PortPublished portIndex) :
    ctx.snapshot.Agreed (TopologySnapshot.portKeys (ctx.port portIndex)) := by
  have conflicting := published.conflicting
  have covered := published.covered
  simp only [portInfo, Bool.or_eq_false_iff] at conflicting covered
  refine List.forall_mem_cons.mpr ⟨conflicting.1,
    List.forall_mem_singleton.mpr ?_⟩
  cases found : ctx.snapshot.nodeIndex (ctx.port portIndex).key.node with
  | none =>
      rw [found] at covered
      cases covered
  | some index =>
      obtain ⟨record, atIndex, same⟩ :=
        TopologySnapshot.getElem?_of_nodeIndex found
      have node : ctx.node index = record := by simp [SearchContext.node, atIndex]
      rw [found] at conflicting
      simpa [conflictedNode, node, same] using conflicting.2

/-- The search heeds the conflicts of the ports, nodes and spans of a walk. -/
theorem Travelled.agreed_iff {hops : List (Hop K)} {path : List (Label K)}
    {builder : PlanBuilder K}
    (travelled : ctx.Travelled rules request startPort hops path builder) :
    ctx.snapshot.Agreed (TopologySnapshot.portKeys (ctx.port startPort)) ∧
      ∀ hop ∈ hops,
        ctx.snapshot.Agreed (TopologySnapshot.portKeys hop.target) ∧
        ∀ record reversed, hop.link = .span record reversed →
          ctx.snapshot.isConflicted (.forSpan record.id) = false := by
  induction travelled with
  | start started proven _ =>
      exact ⟨(started.published proven).1.agreed, by simp⟩
  | @span hops current next _ _ index reversed _ _ _ _ before departs step allows
      proven built ih =>
      obtain ⟨⟨_, _, _, published⟩, _⟩ := step.published proven
      refine ⟨ih.1, List.forall_mem_append.mpr ⟨ih.2,
        List.forall_mem_singleton.mpr ⟨published.port.agreed, ?_⟩⟩⟩
      intro record other same
      cases same
      exact published.conflicting
  | @crossConnect hops current next _ _ _ index before departs step allows proven
      built ih =>
      refine ⟨ih.1, List.forall_mem_append.mpr ⟨ih.2,
        List.forall_mem_singleton.mpr
          ⟨(step.published proven).port.agreed, ?_⟩⟩⟩
      intro record other same
      cases same

end SearchContext

variable {runtime : Runtime K} {options : PlannerOptions}
  {driver : SearchDriver E} {snapshot : TopologySnapshot K}
  {request : PlanningRequest K} {arcs : List ArcRef} {hops : List (Hop K)}
  {startPort : Nat} {label : Label K} {ancestors : List (Label K)}
  {builder : PlanBuilder K}

theorem Travels.agreed_usedKeys_iff
    (travels : Travels runtime snapshot request arcs hops startPort label
      ancestors builder) :
    snapshot.Agreed (snapshot.usedKeys ((searchContext runtime snapshot
        request).port startPort) hops) ↔
      snapshot.Agreed (snapshot.overlookedKeys ((searchContext runtime snapshot
        request).port startPort) hops) := by
  obtain ⟨start, along⟩ := travels.travelled.agreed_iff
  unfold TopologySnapshot.usedKeys TopologySnapshot.overlookedKeys
  rw [TopologySnapshot.agreed_append, TopologySnapshot.agreed_append,
    TopologySnapshot.agreed_append]
  refine and_congr_left fun _ => ?_
  constructor
  · rintro ⟨_, used⟩ key overlooked
    obtain ⟨hop, member, ofHop⟩ := List.mem_flatMap.mp overlooked
    refine used key (List.mem_flatMap.mpr ⟨hop, member, ?_⟩)
    cases link : hop.link with
    | span record reversed =>
        rw [link] at ofHop
        cases ofHop
    | crossConnect record =>
        rw [link] at ofHop
        rw [List.mem_singleton.mp ofHop]
        exact List.mem_cons_self ..
  · intro overlooked
    refine ⟨start, ?_⟩
    intro key used
    obtain ⟨hop, member, ofHop⟩ := List.mem_flatMap.mp used
    obtain ⟨target, span⟩ := along hop member
    rcases List.mem_cons.mp ofHop with rfl | ofTarget
    · cases link : hop.link with
      | span record reversed => exact span record reversed link
      | crossConnect record =>
          refine overlooked _ (List.mem_flatMap.mpr ⟨hop, member, ?_⟩)
          rw [link]
          exact List.mem_singleton.mpr rfl
    · exact target key ofTarget

/-- A cross-connect of the given costs, one record for each, before a span. -/
def connectOf (costs : List UInt64) : SnapshotBuilder ℚ :=
  (SnapshotBuilder.new ⟨text "connect"⟩ 1 {} {}).submitAll ([
    .source { id := ⟨text "nms"⟩ },
    .node (.published "a"), .node (.published "b"),
    .reachProfile (.published "line" 100000 4 25 10),
    .port (.published (.of "a" "1") "line"),
    .port (.published (.of "a" "2") "line"),
    .port (.published (.of "b" "1") "line"),
    .span (.published "ab" (.of "a" "2") (.of "b" "1") 80000 20 30)] ++
    costs.map fun cost => .crossConnect { CrossConnectRecord.published "aa"
      (.of "a" "1") (.of "a" "2") .express with cost := cost })

end Conflicts

end OpticalPathPlanner
