import OpticalPathPlanner.RouteHops

/-!
# Runs of the plan builder

Building a plan folds the arcs of a route into the builder.  A run is that fold
with the records it looked up, arc by arc; what a plan says about its route is
proved along runs, for every arc sequence that can be built.
-/

namespace OpticalPathPlanner

variable {K E : Type} [Field K] [LinearOrder K]

namespace SearchContext

variable (ctx : SearchContext K) (request : PlanningRequest K)

/-- The builder after an arc sequence, from a port that transmits a profile,
and the hops the arcs stand for. -/
inductive BuilderRun (start : PortRecord) (profile : ProfileId) :
    List ArcRef → List (Hop K) → PlanBuilder K → Prop
  | start :
      BuilderRun start profile [] [] (ctx.startBuilder request start profile)
  | span {arcs : List ArcRef} {hops : List (Hop K)} {builder : PlanBuilder K}
      {index : Nat} {reversed : Bool} {span : SpanRecord K}
      {target : PortRecord} {length : UInt64} {loss osnr : K} {mask : SlotMask}
      {slot : Nat} (before : BuilderRun start profile arcs hops builder)
      (built : ctx.SpanBuild builder index reversed span target length loss osnr
        mask slot) :
      BuilderRun start profile (arcs ++ [⟨.span, index, reversed⟩])
        (hops ++ [⟨.span span reversed, target⟩])
        (ctx.useSpan builder span reversed target length loss osnr mask slot)
  | crossConnect {arcs : List ArcRef} {hops : List (Hop K)}
      {builder switched : PlanBuilder K} {index : Nat} {reversed : Bool}
      {record : CrossConnectRecord} {target : PortRecord}
      (before : BuilderRun start profile arcs hops builder)
      (built : ctx.CrossConnectBuild builder index record target switched) :
      BuilderRun start profile (arcs ++ [⟨.crossConnect, index, reversed⟩])
        (hops ++ [⟨.crossConnect record, target⟩])
        (ctx.useCrossConnect switched record target)

variable {ctx request} {start : PortRecord} {profile : ProfileId}
  {arcs : List ArcRef} {hops : List (Hop K)} {builder : PlanBuilder K}

/-- The hops of a run are the ones its arcs resolve to. -/
theorem BuilderRun.resolved
    (run : ctx.BuilderRun request start profile arcs hops builder) :
    ctx.snapshot.hops arcs = some hops := by
  induction run with
  | start => rfl
  | @span arcs hops builder index reversed span target _ _ _ _ _ before built ih =>
      refine TopologySnapshot.hops_concat ih ?_
      have port : ctx.snapshot.findPort (Link.span span reversed).arrival =
          some target := built.port
      simp [TopologySnapshot.hopOf, TopologySnapshot.linkOf, built.record, port]
  | @crossConnect arcs hops builder switched index reversed record target before
      built ih =>
      refine TopologySnapshot.hops_concat ih ?_
      have port : ctx.snapshot.findPort
          (Link.crossConnect record : Link K).arrival = some target := built.port
      simp [TopologySnapshot.hopOf, TopologySnapshot.linkOf, built.atIndex, port]

theorem BuilderRun.length_hops
    (run : ctx.BuilderRun request start profile arcs hops builder) :
    hops.length = arcs.length := by
  induction run with
  | start => rfl
  | span before built ih => simp [ih]
  | crossConnect before built ih => simp [ih]

/-- Every fold that succeeds is a run. -/
theorem exists_builderRun
    (ran : arcs.foldlM ctx.addArc (ctx.startBuilder request start profile) =
      .ok builder) :
    ∃ hops, ctx.BuilderRun request start profile arcs hops builder := by
  induction arcs using List.reverseRecOn generalizing builder with
  | nil =>
      cases ran
      exact ⟨[], .start⟩
  | append_singleton arcs arc ih =>
      rw [List.foldlM_append] at ran
      cases earlier : arcs.foldlM ctx.addArc
          (ctx.startBuilder request start profile) with
      | error status =>
          rw [earlier] at ran
          cases ran
      | ok before =>
          obtain ⟨hops, run⟩ := ih earlier
          rw [earlier] at ran
          have added : ctx.addArc before arc = .ok builder := by
            change [arc].foldlM ctx.addArc before = _ at ran
            rw [List.foldlM_cons] at ran
            cases last : ctx.addArc before arc with
            | error status =>
                rw [last] at ran
                cases ran
            | ok after =>
                rw [last] at ran
                exact ran
          obtain ⟨kind, index, reversed⟩ := arc
          cases kind with
          | span =>
              obtain ⟨span, target, length, loss, osnr, mask, slot, built, rfl⟩ :=
                addSpan_eq_ok_iff.mp added
              exact ⟨_, .span run built⟩
          | crossConnect =>
              obtain ⟨record, target, switched, built, rfl⟩ :=
                addCrossConnect_eq_ok_iff.mp added
              exact ⟨_, .crossConnect run built⟩

/-- What a plan that was built rests on. -/
theorem run_of_buildPlan {requestDigest : Digest256} {plan : PlanArtifact K}
    (built : ctx.buildPlan request requestDigest arcs = .ok plan) :
    ∃ start profile hops builder,
      ctx.snapshot.findPort request.source = some start ∧
      start.blockedSlots.hasValue = true ∧
      ctx.BuilderRun request start profile arcs hops builder ∧
      builder.currentPort = request.destination ∧
      plan = ctx.finishPlan request requestDigest arcs.length builder := by
  unfold buildPlan at built
  split at built
  · cases built
  · next start found =>
      split at built
      · next profile transmits =>
          split_ifs at built with published
          split at built
          · cases built
          · next builder ran =>
              split_ifs at built with elsewhere missing capability quality
              cases built
              obtain ⟨hops, run⟩ := exists_builderRun ran
              exact ⟨start, profile, hops, builder, found,
                by simpa using published, run, not_not.mp elsewhere, rfl⟩
      · cases built

end SearchContext

/-- The builder of a candidate ran over the arcs of its route. -/
theorem Travels.builderRun {runtime : Runtime K}
    {snapshot : TopologySnapshot K} {request : PlanningRequest K}
    {arcs : List ArcRef} {hops : List (Hop K)} {startPort : Nat}
    {label : Label K} {ancestors : List (Label K)} {builder : PlanBuilder K}
    (travels : Travels runtime snapshot request arcs hops startPort label
      ancestors builder) :
    ∃ profile, ((searchContext runtime snapshot request).port
        startPort).transmitProfile = .known (some profile) ∧
      ((searchContext runtime snapshot request).port
        startPort).blockedSlots.hasValue = true ∧
      (searchContext runtime snapshot request).BuilderRun request
        ((searchContext runtime snapshot request).port startPort) profile arcs
        hops builder := by
  obtain ⟨profile, transmits, ran⟩ := travels.rebuilt.foldlM_eq
  obtain ⟨label, started, proven⟩ := travels.rebuilt.started
  obtain ⟨others, run⟩ := SearchContext.exists_builderRun ran
  cases travels.resolved.symm.trans run.resolved
  exact ⟨profile, transmits, (started.published proven).1.blockedSlots, run⟩

end OpticalPathPlanner
