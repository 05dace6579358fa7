import OpticalPathPlanner.PlanSegments

/-!
# Wavelength runs

Between two conversions or regenerations a route is one wavelength run.  The
usable channels of a run shrink from span to span, and every span reserves the
lowest channel that is usable when it is reached.  So the channel of a run is
constant exactly when the channel of its first span stays usable.
-/

namespace OpticalPathPlanner

open SortedRanges Traced

variable {K E : Type} [Field K] [LinearOrder K]

/-! ### Runs of a route -/

section Runs

variable {K : Type}

/-- Conversions and regenerations may change the channel. -/
def Link.changesChannel : Link K → Bool
  | .span _ _ => false
  | .crossConnect record => decide (record.op ≠ .express)

/-- The run a route is in behind its hops. -/
def currentRun (hops : List (Hop K)) : Nat :=
  hops.countP fun hop => hop.link.changesChannel

/-- The run of each span of a route. -/
def spanRuns (run : Nat) : List (Hop K) → List Nat
  | [] => []
  | ⟨.span _ _, _⟩ :: rest => run :: spanRuns run rest
  | ⟨.crossConnect record, _⟩ :: rest =>
      spanRuns (if record.op = .express then run else run + 1) rest

/-- The spans of a route. -/
def spanKeys (hops : List (Hop K)) : List ResourceKey :=
  hops.flatMap fun hop => match hop.link with
    | .span record _ => [.forSpan record.id]
    | .crossConnect _ => []

theorem spanRuns_append (run : Nat) (hops more : List (Hop K)) :
    spanRuns run (hops ++ more) =
      spanRuns run hops ++ spanRuns (run + currentRun hops) more := by
  induction hops generalizing run with
  | nil => rfl
  | cons hop hops ih =>
      obtain ⟨link, arrival⟩ := hop
      cases link with
      | span _ _ => simp [spanRuns, currentRun, Link.changesChannel, ih]
      | crossConnect other =>
          by_cases express : other.op = .express
          · simp [spanRuns, currentRun, Link.changesChannel, ih, express]
          · simp [spanRuns, currentRun, Link.changesChannel, ih, express,
              Nat.add_assoc, Nat.add_comm 1]

theorem spanRuns_concat_span (run : Nat) (hops : List (Hop K))
    (record : SpanRecord K) (reversed : Bool) (target : PortRecord) :
    spanRuns run (hops ++ [⟨.span record reversed, target⟩]) =
      spanRuns run hops ++ [run + currentRun hops] :=
  spanRuns_append run hops _

theorem spanRuns_concat_crossConnect (run : Nat) (hops : List (Hop K))
    (record : CrossConnectRecord) (target : PortRecord) :
    spanRuns run (hops ++ [⟨.crossConnect record, target⟩]) =
      spanRuns run hops :=
  (spanRuns_append run hops _).trans (List.append_nil _)

/-- Two reservations of one run are for the same channel. -/
def SameChannel (first second : Channel × Nat) : Prop :=
  first.2 = second.2 → first.1 = second.1

instance : Std.Symm SameChannel where
  symm _ _ same equal := (same equal.symm).symm

/-- A plan reserves a channel on every span, and a constant one within each
run. -/
structure WavelengthContinuous (plan : PlanArtifact K) (hops : List (Hop K)) :
    Prop where
  reserved : plan.reservations.map PlanReservation.resource = spanKeys hops
  continuous : ((plan.reservations.map PlanReservation.channel).zip
    (spanRuns 0 hops)).Pairwise SameChannel

end Runs

/-! ### The channel of a run -/

/-- The usable channels behind some hops, the channel of the first span of the
current run, and whether every run kept its channel so far. -/
structure RunChannel where
  usable : SlotMask
  chosen : Option Nat
  kept : Bool

namespace SearchContext

variable (ctx : SearchContext K)

def followHop (state : RunChannel) (hop : Hop K) : RunChannel :=
  match hop.link with
  | .span record _ =>
      let usable := (state.usable.intersect
        (ctx.usable record.blockedSlots)).intersect
          (ctx.usable hop.target.blockedSlots)
      { usable := usable
        chosen := state.chosen.or usable.lowestSetBit
        kept := state.kept && state.chosen.all usable.test }
  | .crossConnect record =>
      if record.op = .express then
        { state with
          usable := (state.usable.intersect
            (ctx.usable record.blockedSlots)).intersect
              (ctx.usable hop.target.blockedSlots) }
      else
        { state with
          usable := ctx.usable hop.target.blockedSlots
          chosen := none }

def followHops (start : PortRecord) (hops : List (Hop K)) : RunChannel :=
  hops.foldl ctx.followHop ⟨ctx.usable start.blockedSlots, none, true⟩

/-- The lowest channel usable on the first span of each run is usable on every
span of the run. -/
def keepsChannels (start : PortRecord) (hops : List (Hop K)) : Bool :=
  (ctx.followHops start hops).kept

variable {ctx}

theorem followHops_concat (start : PortRecord) (hops : List (Hop K))
    (hop : Hop K) :
    ctx.followHops start (hops ++ [hop]) =
      ctx.followHop (ctx.followHops start hops) hop := by
  simp [followHops]

end SearchContext

/-- The reservations of a builder against the runs of its walk. -/
structure FollowsRuns (width : Nat) (state : RunChannel) (run : Nat)
    (channels : List (Channel × Nat)) : Prop where
  unchosen : state.chosen = none → ∀ entry ∈ channels, entry.2 ≠ run
  chosen : ∀ slot, state.chosen = some slot →
    (⟨slot, width⟩, run) ∈ channels ∧
      ∀ other, state.usable.test other = true → slot ≤ other
  earlier : ∀ entry ∈ channels, entry.2 ≤ run
  kept : state.kept = true ↔ channels.Pairwise SameChannel

namespace FollowsRuns

variable {width run : Nat} {state : RunChannel} {channels : List (Channel × Nat)}

/-- Channels go out of use within a run, and never come back. -/
theorem narrowed (follows : FollowsRuns width state run channels)
    {usable : SlotMask}
    (narrower : ∀ slot, usable.test slot = true →
      state.usable.test slot = true) :
    FollowsRuns width { state with usable := usable } run channels := by
  refine ⟨follows.unchosen, ?_, follows.earlier, follows.kept⟩
  intro slot isChosen
  obtain ⟨member, lowest⟩ := follows.chosen slot isChosen
  exact ⟨member, fun other isUsable => lowest other (narrower other isUsable)⟩

/-- A conversion or a regeneration starts a run. -/
theorem restarted (follows : FollowsRuns width state run channels)
    (usable : SlotMask) :
    FollowsRuns width { state with usable := usable, chosen := none } (run + 1)
      channels := by
  refine ⟨?_, nofun, ?_, follows.kept⟩
  · intro _ entry member
    have before := follows.earlier entry member
    omega
  · intro entry member
    exact (follows.earlier entry member).trans (Nat.le_succ run)

/-- In a run that kept its channel every reservation is for it. -/
theorem channel_eq (follows : FollowsRuns width state run channels)
    (continuous : channels.Pairwise SameChannel) {slot : Nat}
    (isChosen : state.chosen = some slot) {entry : Channel × Nat}
    (member : entry ∈ channels) (sameRun : entry.2 = run) :
    entry.1 = ⟨slot, width⟩ := by
  exact continuous.forall_of_forall (fun _ _ _ => rfl) member
    (follows.chosen slot isChosen).1 sameRun

/-- A span reserves the lowest usable channel.  It is the channel of the run
exactly when that is still usable. -/
theorem reserve (follows : FollowsRuns width state run channels)
    {usable : SlotMask} {slot : Nat}
    (narrower : ∀ slot, usable.test slot = true →
      state.usable.test slot = true)
    (lowest : usable.lowestSetBit = some slot) :
    FollowsRuns width
      { usable := usable
        chosen := state.chosen.or usable.lowestSetBit
        kept := state.kept && state.chosen.all usable.test }
      run (channels ++ [(⟨slot, width⟩, run)]) := by
  obtain ⟨isUsable, noLower⟩ :=
    (SlotMask.lowestSetBit_eq_some_iff usable slot).mp lowest
  have slotLe (other : Nat) (otherUsable : usable.test other = true) :
      slot ≤ other := by
    by_contra below
    rw [noLower other (by omega)] at otherUsable
    cases otherUsable
  have within : ∀ entry ∈ channels ++ [((⟨slot, width⟩ : Channel), run)],
      entry.2 ≤ run := by
    refine List.forall_mem_append.mpr ⟨follows.earlier, ?_⟩
    exact List.forall_mem_singleton.mpr le_rfl
  have last : ((⟨slot, width⟩ : Channel), run) ∈
      channels ++ [((⟨slot, width⟩ : Channel), run)] :=
    List.mem_append_right _ (List.mem_singleton.mpr rfl)
  cases isChosen : state.chosen with
  | none =>
      refine ⟨?_, ?_, within, ?_⟩
      · rw [lowest]
        nofun
      · intro first isFirst
        rw [Option.none_or, lowest] at isFirst
        cases isFirst
        exact ⟨last, slotLe⟩
      · rw [Option.all_none, Bool.and_true, follows.kept, List.pairwise_append]
        refine ⟨fun continuous => ⟨continuous, List.pairwise_singleton _ _, ?_⟩,
          fun all => all.1⟩
        intro entry member other single sameRun
        rw [List.mem_singleton.mp single] at sameRun
        exact (follows.unchosen isChosen entry member sameRun).elim
  | some first =>
      obtain ⟨reserved, firstLe⟩ := follows.chosen first isChosen
      refine ⟨nofun, ?_, within, ?_⟩
      · intro other isOther
        cases isOther
        exact ⟨List.mem_append_left _ reserved,
          fun other otherUsable => firstLe other (narrower other otherUsable)⟩
      · rw [Option.all_some, Bool.and_eq_true, follows.kept,
          List.pairwise_append]
        constructor
        · rintro ⟨continuous, stillUsable⟩
          have same : first = slot := Nat.le_antisymm
            (firstLe slot (narrower slot isUsable)) (slotLe first stillUsable)
          refine ⟨continuous, List.pairwise_singleton _ _, ?_⟩
          intro entry member other single sameRun
          rw [List.mem_singleton.mp single] at sameRun ⊢
          rw [follows.channel_eq continuous isChosen member sameRun, same]
        · rintro ⟨continuous, _, last⟩
          refine ⟨continuous, ?_⟩
          have same := last _ reserved _ (List.mem_singleton.mpr rfl) rfl
          cases same
          exact isUsable

end FollowsRuns

/-! ### Along a walk -/

namespace SearchContext

variable {ctx : SearchContext K} {rules : RouteRules K}
  {request : PlanningRequest K} {startPort : Nat}

/-- What the reservations of a builder say about the runs of its walk. -/
structure ReservesRuns (ctx : SearchContext K) (start : PortRecord)
    (hops : List (Hop K)) (builder : PlanBuilder K) : Prop where
  usable : builder.mask = (ctx.followHops start hops).usable
  reserved : builder.reservations.map PlanReservation.resource = spanKeys hops
  length : (builder.reservations.map PlanReservation.channel).length =
    (spanRuns 0 hops).length
  follows : FollowsRuns ctx.rules.channelWidthSlots (ctx.followHops start hops)
    (currentRun hops) ((builder.reservations.map PlanReservation.channel).zip
      (spanRuns 0 hops))

private theorem test_of_intersect {mask first second : SlotMask} {slot : Nat}
    (isSet : ((mask.intersect first).intersect second).test slot = true) :
    mask.test slot = true := by
  simp only [SlotMask.test_intersect, Bool.and_eq_true] at isSet
  exact isSet.1.1

theorem SegmentSwitch.mask_eq {builder switched : PlanBuilder K}
    {record : CrossConnectRecord} {target : PortRecord}
    (segment : ctx.SegmentSwitch builder record target switched) :
    switched.mask = if record.op = .express then
        (builder.mask.intersect (ctx.usable record.blockedSlots)).intersect
          (ctx.usable target.blockedSlots)
      else ctx.usable target.blockedSlots := by
  cases segment with
  | express op mask_eq slot_eq =>
      rw [if_pos op]
      exact mask_eq
  | convert op mask_eq slot_eq =>
      rw [if_neg (by simp [op])]
      exact mask_eq
  | regenerate op transmits =>
      rw [if_neg (by simp [op])]

theorem Travelled.reservesRuns {hops : List (Hop K)} {path : List (Label K)}
    {builder : PlanBuilder K}
    (width : rules.channelWidthSlots = ctx.rules.channelWidthSlots)
    (travelled : ctx.Travelled rules request startPort hops path builder) :
    ctx.ReservesRuns (ctx.port startPort) hops builder := by
  induction travelled with
  | start _ _ _ =>
      rw [startBuilder_eq]
      exact ⟨usable_under width _, rfl, rfl, nofun, nofun, nofun,
        ⟨fun _ => .nil, fun _ => rfl⟩⟩
  | @span hops current next _ builder index reversed _ _ _ slot before departs step
      allows proven built ih =>
      have mask := built.mask_eq
      rw [usable_under width, usable_under width, ih.usable] at mask
      have added : ((builder.reservations.map PlanReservation.channel) ++
            [(⟨slot, ctx.rules.channelWidthSlots⟩ : Channel)]).zip
          (spanRuns 0 (hops ++ [⟨.span (ctx.span index) reversed,
            ctx.port next.portIndex⟩])) =
          ((builder.reservations.map PlanReservation.channel).zip
            (spanRuns 0 hops)) ++
            [((⟨slot, ctx.rules.channelWidthSlots⟩ : Channel),
              currentRun hops)] := by
        rw [spanRuns_concat_span, List.zip_append ih.length, Nat.zero_add]
        rfl
      have run : currentRun (hops ++ [⟨.span (ctx.span index) reversed,
          ctx.port next.portIndex⟩]) = currentRun hops := by
        simp [currentRun, Link.changesChannel]
      have reserved := ih.follows.reserve
        (fun other isSet => test_of_intersect (mask ▸ isSet)) built.slot_eq
      rw [useSpan_eq]
      refine ⟨?_, ?_, ?_, ?_⟩
      · rw [followHops_concat]
        exact mask
      · simp [ih.reserved, spanKeys]
      · have length := ih.length
        simp only [List.length_map] at length
        simp [spanRuns_concat_span, length]
      · rw [List.map_append, List.map_singleton]
        change FollowsRuns _ _ _ (List.zip (_ ++ [(⟨slot,
          rules.channelWidthSlots⟩ : Channel)]) _)
        rw [width, added, run, followHops_concat]
        rw [mask] at reserved
        exact reserved
  | @crossConnect hops current next _ builder switched index before departs step
      allows proven built ih =>
      obtain ⟨_, _, reservations, _⟩ := built.segment.frame
      have mask := built.segment.mask_eq
      rw [usable_under width, usable_under width, ih.usable] at mask
      have run : currentRun (hops ++ [⟨.crossConnect (ctx.crossConnect index),
          ctx.port next.portIndex⟩]) = currentRun hops +
            if (ctx.crossConnect index).op = .express then 0 else 1 := by
        by_cases express : (ctx.crossConnect index).op = .express
        · simp [currentRun, Link.changesChannel, express]
        · simp [currentRun, Link.changesChannel, express]
      have followed : ctx.followHop (ctx.followHops (ctx.port startPort) hops)
          ⟨.crossConnect (ctx.crossConnect index), ctx.port next.portIndex⟩ =
            if (ctx.crossConnect index).op = .express then
              { ctx.followHops (ctx.port startPort) hops with
                usable := switched.mask }
            else
              { ctx.followHops (ctx.port startPort) hops with
                usable := switched.mask
                chosen := none } := by
        simp only [followHop, mask]
        split_ifs <;> rfl
      rw [useCrossConnect_eq]
      refine ⟨?_, ?_, ?_, ?_⟩
      · rw [followHops_concat, followed]
        split_ifs <;> rfl
      · simp [reservations, ih.reserved, spanKeys]
      · rw [spanRuns_concat_crossConnect]
        simp only [reservations]
        exact ih.length
      · rw [spanRuns_concat_crossConnect, followHops_concat, followed, run]
        simp only [reservations]
        by_cases express : (ctx.crossConnect index).op = .express
        · rw [if_pos express, if_pos express]
          rw [if_pos express] at mask
          exact ih.follows.narrowed fun other isSet =>
            test_of_intersect (mask ▸ isSet)
        · rw [if_neg express, if_neg express]
          exact ih.follows.restarted _

end SearchContext

/-! ### Candidates -/

section Candidates

variable {runtime : Runtime K} {options : PlannerOptions}
  {driver : SearchDriver E} {snapshot : TopologySnapshot K}
  {request : PlanningRequest K} {arcs : List ArcRef} {hops : List (Hop K)}
  {startPort : Nat} {label : Label K} {ancestors : List (Label K)}
  {builder : PlanBuilder K}

variable (request) in
theorem finishPlan_reservations (ctx : SearchContext K)
    (requestDigest : Digest256) (arcCount : Nat) (builder : PlanBuilder K) :
    (ctx.finishPlan request requestDigest arcCount builder).reservations =
      builder.reservations := by
  unfold SearchContext.finishPlan
  rw [SearchContext.closeSegment_eq]
  simp only
  split_ifs <;> rfl

theorem Travels.wavelengthContinuous_iff
    (travels : Travels runtime snapshot request arcs hops startPort label
      ancestors builder) (requestDigest : Digest256) :
    WavelengthContinuous ((searchContext runtime snapshot request).finishPlan
        request requestDigest arcs.length builder) hops ↔
      (searchContext runtime snapshot request).keepsChannels
        ((searchContext runtime snapshot request).port startPort) hops = true := by
  have reserves := travels.travelled.reservesRuns rfl
  unfold SearchContext.keepsChannels
  rw [reserves.follows.kept]
  constructor
  · intro continuous
    have pairs := continuous.continuous
    rw [finishPlan_reservations] at pairs
    exact pairs
  · intro pairs
    refine ⟨?_, ?_⟩
    · rw [finishPlan_reservations]
      exact reserves.reserved
    · rw [finishPlan_reservations]
      exact pairs

/-- Two spans in a row, of which the second blocks the given slots. -/
def spansBlocking (slots : SlotMask) : SnapshotBuilder ℚ :=
  (SnapshotBuilder.new ⟨text "row"⟩ 1 {} {}).submitAll [
    .source { id := ⟨text "nms"⟩ },
    .node (.published "a"), .node (.published "b"), .node (.published "m"),
    .reachProfile (.published "line" 100000 4 25 10),
    .port (.published (.of "a" "1") "line"),
    .port (.published (.of "b" "1") "line"),
    .port (.published (.of "m" "1") "line"),
    .span (.published "am" (.of "a" "1") (.of "m" "1") 40000 10 30),
    .span { SpanRecord.published "mb" (.of "m" "1") (.of "b" "1") 40000 10 30
      with blockedSlots := .known slots }]

end Candidates

end OpticalPathPlanner
