import OpticalPathPlanner.CycleRemoval
import OpticalPathPlanner.HardConstraints

/-!
# Steps of dominated labels

Dominance is a preorder that every expansion keeps: what a label may follow, a
label that dominates it at the same port and in a segment of the same profile
may follow as well, and the label it reaches dominates the other one there.
-/

namespace OpticalPathPlanner

variable {K : Type} [Field K] [LinearOrder K]

/-! ### Floors of a sealed snapshot -/

/-- No profile of a sealed snapshot asks for an OSNR out of range. -/
theorem IsBuilt.minOsnrDb_le {runtime : Runtime K} {snapshot : TopologySnapshot K}
    (built : IsBuilt runtime snapshot) {profile : ReachProfile K}
    (member : profile ∈ snapshot.reachProfiles) {floor : K}
    (published : profile.minOsnrDb = .known floor) : floor ≤ 1000000 := by
  induction built with
  | restored snapshot producer epoch original ih => exact ih member
  | sealed builder snapshot built =>
      have accepted := SnapshotBuilder.accepted_of_build built
      obtain rfl := SnapshotBuilder.eq_finished built
      have isRecord := (runtime.routine.perm _ _).mem_iff.mp
        (mem_of_mem_collapse member)
      unfold SnapshotBuilder.buildStatus at accepted
      rw [firstFailure_failed_iff] at accepted
      have listed := List.mem_map_of_mem
        (f := fun profile : ReachProfile K => profile.status) isRecord
      have valid : profile.status.failed = false :=
        accepted _ (by simp only [List.mem_append]; tauto)
      have inRange : (validateFiniteNonNegative profile.minOsnrDb
          "profile.min_osnr_db").failed = false :=
        firstFailure_failed_iff.mp valid _ (by simp)
      exact (range_of_validate inRange published).2

namespace SearchContext

variable {ctx : SearchContext K} {startPort : Nat} {arcs : List ArcRef}
  {arc : ArcRef} {strong weak current next label : Label K}

theorem profile_mem {index : Nat} {floor : K}
    (published : (ctx.profileInfo index).minOsnrDb = some floor) :
    ∃ profile ∈ ctx.snapshot.reachProfiles,
      profile.minOsnrDb = .known floor := by
  refine ⟨ctx.profile index, ?_, ?_⟩
  · unfold profileInfo profile at *
    cases atIndex : ctx.snapshot.reachProfiles[index]? with
    | none => rw [atIndex] at published; cases published
    | some profile => exact List.mem_of_getElem? atIndex
  · change (ctx.profile index).minOsnrDb.value? = some floor at published
    cases minimum : (ctx.profile index).minOsnrDb with
    | known value => rw [minimum] at published; cases published; rfl
    | unknown => rw [minimum] at published; cases published
    | conflicting => rw [minimum] at published; cases published

/-- Over a sealed snapshot only the request can ask for an OSNR above that of
a segment without noise. -/
theorem keepsFloors_of_built [IsStrictOrderedRing K]
    (built : IsBuilt ctx.runtime ctx.snapshot)
    (requested : ∀ floor, ctx.constraints.minSegmentOsnrDb = some floor →
      floor ≤ 10 ^ 9) : ctx.KeepsFloors label := by
  apply keepsFloors_of_floor_le
  rintro floor (isRequested | ⟨index, _, published⟩)
  · exact requested floor isRequested
  · obtain ⟨profile, member, known⟩ := profile_mem published
    have inRange := built.minOsnrDb_le member known
    linarith

/-! ### Labels of a search -/

/-- Loss never falls below zero along a step. -/
theorem Follows.lossDb_nonneg [IsStrictOrderedRing K]
    (formed : ctx.snapshot.WellFormed) (nonneg : 0 ≤ current.lossDb)
    (step : ctx.Follows current arc next) : 0 ≤ next.lossDb := by
  obtain ⟨leaves, step⟩ := step
  obtain ⟨kind, index, reversed⟩ := arc
  cases kind with
  | crossConnect =>
      have step : ctx.CrossConnectStep current index next := step
      rw [step.next_eq]
      cases (ctx.crossConnect index).op with
      | express => exact nonneg
      | convert => exact nonneg
      | regenerate => exact le_rfl
  | span =>
      have step : ctx.SpanStep current ⟨index, reversed⟩ next := step
      rw [step.next_eq]
      exact add_nonneg nonneg (loss_nonneg formed leaves)

theorem Accepts.lossDb_nonneg [IsStrictOrderedRing K]
    (formed : ctx.snapshot.WellFormed)
    (accepted : ctx.Accepts startPort arcs label) : 0 ≤ label.lossDb := by
  induction accepted with
  | start started =>
      rw [started.label_eq]
  | step _ follows ih => exact follows.lossDb_nonneg formed ih

/-- A dominating label takes the steps of the dominated one, and dominates
after them. -/
theorem LabelStep.of_dominates [IsStrictOrderedRing K]
    (keeps : ctx.KeepsFloors next)
    (samePort : strong.portIndex = weak.portIndex)
    (sameProfile : strong.profileIndex = weak.profileIndex)
    (order : Label.Dominates strong weak) (step : ctx.LabelStep weak arc next) :
    ∃ after, ctx.LabelStep strong arc after ∧
      after.portIndex = next.portIndex ∧
      after.profileIndex = next.profileIndex ∧ Label.Dominates after next := by
  obtain ⟨after, taken⟩ := step.of_covers keeps order.covers sameProfile samePort
  have covers := taken.covers order.covers samePort step
  exact ⟨after, taken, taken.port_eq step, taken.profileIndex_eq sameProfile step,
    covers.dominates (taken.proven_of order.proven sameProfile step)⟩

variable (ctx) in
/-- Dominance is a preorder that expansions keep.  An expansion is one step of
the label, which the path may still refuse; the labels of a search have neither
negative loss nor negative noise, and their noise is none or at least that of
one span. -/
theorem dominance_extension_monotone [IsStrictOrderedRing K]
    (built : IsBuilt ctx.runtime ctx.snapshot) :
    (∀ label : Label K, label.dominates label = true) ∧
    (∀ first second third : Label K, first.dominates second = true →
      second.dominates third = true → first.dominates third = true) ∧
    (∀ (current next : Label K) (ancestors : List (Label K)) (arc : ArcRef),
      (ctx.expandArc current ancestors arc).Yields next ↔
        ctx.LabelStep current arc next ∧
          ctx.PathAllows current ancestors arc next.portIndex) ∧
    (∀ startPort arcs label, ctx.Accepts startPort arcs label →
      0 ≤ label.lossDb ∧ 0 ≤ label.osnrInverse ∧ ctx.NoiseSound label) ∧
    ∀ strong weak : Label K, strong.portIndex = weak.portIndex →
      strong.profileIndex = weak.profileIndex →
      strong.dominates weak = true →
      (ctx.NoiseSound weak ∨ ∀ floor,
        ctx.constraints.minSegmentOsnrDb = some floor → floor ≤ 10 ^ 9) →
      ∀ arc ∈ ctx.outgoingArcs weak.portIndex, ∀ next,
        ctx.LabelStep weak arc next →
        ∃ after, ctx.LabelStep strong arc after ∧
          after.portIndex = next.portIndex ∧
          after.profileIndex = next.profileIndex ∧
          after.dominates next = true ∧
          ∀ other, ctx.LabelStep strong arc other → other = after := by
  have formed := built.wellFormed
  refine ⟨fun label => Label.dominates_iff.mpr (.refl label), ?_,
    fun _ _ _ _ => yields_expandArc_iff, ?_, ?_⟩
  · intro first second third left right
    exact Label.dominates_iff.mpr
      ((Label.dominates_iff.mp left).trans (Label.dominates_iff.mp right))
  · intro startPort arcs label accepted
    have noise := accepted.noiseSound formed
    exact ⟨accepted.lossDb_nonneg formed, noise.nonneg, noise⟩
  · intro strong weak samePort sameProfile order sound arc leaves next step
    have keeps : ctx.KeepsFloors next := by
      rcases sound with noise | requested
      · have follows : ctx.Follows weak arc next := ⟨leaves, step⟩
        exact (follows.noiseSound formed noise).keepsFloors
      · exact keepsFloors_of_built built requested
    obtain ⟨after, taken, port, profile, better⟩ := step.of_dominates keeps samePort
      sameProfile (Label.dominates_iff.mp order)
    exact ⟨after, taken, port, profile, Label.dominates_iff.mpr better,
      fun other also => also.unique taken⟩

end SearchContext

/-- The start label of a request across the single span crosses it as cheaply
as the same label at a higher cost. -/
theorem dominance_extension_monotone_singleSpan :
    ∃ start weak next after : Label ℚ,
      (searchContext rationalRuntime (singleSpan.finished rationalRuntime)
        acrossSpan).Accepts 0 [] start ∧ weak = { start with cost := 5 } ∧
      (searchContext rationalRuntime (singleSpan.finished rationalRuntime)
        acrossSpan).LabelStep weak ⟨.span, 0, false⟩ next ∧
      (searchContext rationalRuntime (singleSpan.finished rationalRuntime)
        acrossSpan).LabelStep start ⟨.span, 0, false⟩ after ∧
      after.dominates next = true := by
  have found : ((searchContext rationalRuntime
      (singleSpan.finished rationalRuntime) acrossSpan).startLabel 0).result.any
        (fun start => start.cost ≤ 5 && ((searchContext rationalRuntime
          (singleSpan.finished rationalRuntime) acrossSpan).expandArc
            { start with cost := 5 } [] ⟨.span, 0, false⟩).result.isSome) =
              true := by decide +kernel
  obtain ⟨start, started, holds⟩ := Option.any_eq_true _ _ |>.mp found
  simp only [Bool.and_eq_true, decide_eq_true_eq] at holds
  obtain ⟨cheap, expanded⟩ := holds
  obtain ⟨next, yielded⟩ := Option.isSome_iff_exists.mp expanded
  have accepted : (searchContext rationalRuntime
      (singleSpan.finished rationalRuntime) acrossSpan).Accepts 0 [] start :=
    .start (SearchContext.yields_startLabel_iff.mp started)
  have step := (SearchContext.yields_expandArc_iff.mp yielded).1
  have better : start.dominates { start with cost := 5 } = true :=
    Label.dominates_iff.mpr ⟨id, UInt64.le_iff_toNat_le.mp cheap, le_rfl, le_rfl,
      le_rfl, le_rfl, le_rfl, le_rfl, fun _ => id⟩
  have atPort : start.portIndex = 0 := by
    rw [(SearchContext.yields_startLabel_iff.mp started).label_eq]
  obtain ⟨-, -, -, -, monotone⟩ := SearchContext.dominance_extension_monotone
    (searchContext rationalRuntime (singleSpan.finished rationalRuntime)
      acrossSpan) (isBuilt_finished (by decide +kernel))
  obtain ⟨after, taken, -, -, dominates, -⟩ := monotone start
    { start with cost := 5 } rfl rfl better (.inr nofun) ⟨.span, 0, false⟩
    (by rw [atPort]; decide +kernel) next step
  exact ⟨start, _, next, after, accepted, rfl, step, taken, dominates⟩

end OpticalPathPlanner
