import OpticalPathPlanner.StepOrder

/-!
# Routes over express cross-connects

Without conversion, regeneration and member limits, a label that dominates
another one can take every step of it, and no step improves a label.  Routes
then form a trail system, and pruning never loses the last way to a goal.
-/

namespace OpticalPathPlanner

open Traced DominanceSearch

variable {K : Type} [Field K] [LinearOrder K]

namespace SearchContext

variable {ctx : SearchContext K} [IsStrictOrderedRing K]

/-! ### The trail system -/

/-- Nothing resets a label and nothing but the ports of a path matters for its
continuations. -/
structure Transparent (ctx : SearchContext K) : Prop where
  formed : ctx.snapshot.WellFormed
  express : ∀ record ∈ ctx.snapshot.crossConnects, record.op = .express
  unlimited : ctx.constraints.maxMembersPerFailureDomain = []

/-- At least as good in the same segment. -/
def Better (better worse : Label K) : Prop :=
  Label.Dominates better worse ∧ better.profileIndex = worse.profileIndex

namespace Transparent

variable (transparent : ctx.Transparent)
include transparent

omit [IsStrictOrderedRing K] in
theorem op_eq {port index : Nat} {reversed : Bool}
    (leaves : ⟨.crossConnect, index, reversed⟩ ∈ ctx.outgoingArcs port) :
    (ctx.crossConnect index).op = .express := by
  obtain ⟨record, _, atIndex, _⟩ := transparent.formed.crossConnectArcs port index
    (mem_outgoingArcs_crossConnect.mp leaves).1
  rw [crossConnect_eq atIndex]
  exact transparent.express record (List.mem_of_getElem? atIndex)

omit [IsStrictOrderedRing K] in
theorem not_resets {port : Nat} {arc : ArcRef}
    (leaves : arc ∈ ctx.outgoingArcs port) : ¬ ctx.Resets arc := by
  obtain ⟨kind, index, reversed⟩ := arc
  rintro ⟨rfl, other⟩
  exact other (transparent.op_eq leaves)

/-- No step improves a label. -/
theorem worsens {current next : Label K} {arc : ArcRef}
    (step : ctx.Follows current arc next) : Better current next := by
  have plain := transparent.not_resets step.1
  have covered := step.covered transparent.formed plain
  exact ⟨covered.dominates step.2.proven_of_next,
    (step.2.profileIndex_of_plain plain).symm⟩

/-- A better label at the same port takes every step. -/
theorem monotone {strong weak next : Label K} {arc : ArcRef}
    (noise : ctx.NoiseSound weak) (better : Better strong weak)
    (samePort : strong.portIndex = weak.portIndex)
    (step : ctx.Follows weak arc next) :
    ∃ after, ctx.Follows strong arc after ∧ Better after next ∧
      after.portIndex = next.portIndex := by
  obtain ⟨order, sameProfile⟩ := better
  have nextNoise := step.noiseSound transparent.formed noise
  obtain ⟨leaves, step⟩ := step
  obtain ⟨after, taken⟩ :=
    step.of_covers nextNoise.keepsFloors order.covers sameProfile samePort
  have covers := taken.covers order.covers samePort step
  exact ⟨after, ⟨samePort ▸ leaves, taken⟩,
    ⟨covers.dominates (taken.proven_of order.proven sameProfile step),
      taken.profileIndex_eq sameProfile step⟩, taken.port_eq step⟩

/-- The routes from a port as a trail system over labels. -/
def trails (startPort : Nat) : TrailSystem (Label K) ArcRef Nat where
  start := ctx.StartStep startPort
  sound := ctx.NoiseSound
  step := ctx.Follows
  place := Label.portIndex
  better := Better
  sound_start _ started := NoiseSound.start started
  sound_step _ _ _ sound step := step.noiseSound transparent.formed sound
  trans _ _ _ first second :=
    ⟨first.1.trans second.1, first.2.trans second.2⟩
  worsens _ _ _ _ step := transparent.worsens step
  monotone _ _ _ _ _ weakSound better samePort step :=
    transparent.monotone weakSound better samePort step

/-- Walks and trails are the same. -/
theorem trail_iff_walk {startPort : Nat} {arcs : List ArcRef}
    {path : List (Label K)} :
    (transparent.trails startPort).Trail arcs path ↔
      ctx.walk startPort arcs = some path := by
  constructor
  · intro trail
    induction trail with
    | start starts =>
        exact walk_nil.mpr ⟨_, yields_startLabel_iff.mpr starts, rfl⟩
    | step before steps loopFree ih =>
        exact walk_concat_of_follows transparent.formed transparent.unlimited ih
          steps loopFree
  · intro walked
    induction arcs using List.reverseRecOn generalizing path with
    | nil =>
        obtain ⟨label, started, rfl⟩ := walk_nil.mp walked
        exact .start (yields_startLabel_iff.mp started)
    | append_singleton arcs arc ih =>
        obtain ⟨current, ancestors, next, before, rfl, leaves, yielded⟩ :=
          walk_concat.mp walked
        obtain ⟨step, allows⟩ := yields_expandArc_iff.mp yielded
        exact .step (ih before) ⟨leaves, step⟩ allows.loopFree

/-! ### Pruning keeps a way to every goal -/

theorem continues_of_walk {startPort : Nat} {arcs rest : List ArcRef}
    {current last : Label K} {ancestors others : List (Label K)}
    (walked : ctx.walk startPort arcs = some (current :: ancestors))
    (further : ctx.walk startPort (arcs ++ rest) = some (last :: others)) :
    TrailSystem.Continues (transparent.trails startPort) current rest last := by
  induction rest generalizing arcs current ancestors with
  | nil =>
      rw [List.append_nil, walked] at further
      cases further
      exact .refl
  | cons arc rest ih =>
      have split : arcs ++ arc :: rest = arcs ++ [arc] ++ rest := by simp
      rw [split] at further
      have middle := further
      rw [walk_append] at middle
      obtain ⟨path, walkedNext, _⟩ := Option.bind_eq_some_iff.mp middle
      obtain ⟨same, before, next, earlier, rfl, leaves, yielded⟩ :=
        walk_concat.mp walkedNext
      rw [walked] at earlier
      cases earlier
      exact .step ⟨leaves, (yields_expandArc_iff.mp yielded).1⟩
        (ih walkedNext further)

/-- Whatever a better label inherits survives pruning. -/
theorem survivesPruning {startPort destinationPort : Nat}
    {good : Label K → Prop}
    (inherited : ∀ better worse, Better better worse → good worse → good better)
    {arcs : List ArcRef}
    (reached : ctx.ArrivesWith startPort destinationPort good arcs) :
    ctx.SurvivesPruning startPort destinationPort
      (ctx.ArrivesWith startPort destinationPort good) := by
  refine robust_of_exchange ?_ ?_ (by simpa using reached)
  · rintro route arc rest ⟨label, labelAt, arrived, _⟩
    refine ⟨not_arrives_of_longer ⟨label, labelAt, arrived⟩, ?_⟩
    have longer : ctx.Valid startPort (route ++ [arc] ++ rest) :=
      ⟨label, by simpa using labelAt⟩
    exact valid_of_append longer
  · rintro other route rest ⟨better, worse, betterAt, worseAt, sameBucket, order⟩
      ⟨label, labelAt, arrived, isGood⟩
    obtain ⟨betterPath, betterWalked⟩ := labelAt_eq_some_iff.mp betterAt
    obtain ⟨worsePath, worseWalked⟩ := labelAt_eq_some_iff.mp worseAt
    obtain ⟨path, walked⟩ := labelAt_eq_some_iff.mp labelAt
    have worseTrail := transparent.trail_iff_walk.mpr worseWalked
    obtain ⟨front, back, value, others, isPrefix, bounded, replayed,
      valueBetter, valuePort⟩ :=
      (transparent.trail_iff_walk.mpr betterWalked).replay
        (worseTrail.sound worse (List.mem_cons_self ..))
        ⟨order, congrArg Prod.snd sameBucket⟩ (congrArg Prod.fst sameBucket)
        (transparent.continues_of_walk worseWalked walked)
    exact ⟨front, back, isPrefix, bounded, value,
      labelAt_of_walk (transparent.trail_iff_walk.mp replayed),
      valuePort.trans arrived, inherited _ _ valueBetter isGood⟩

end Transparent

end SearchContext

end OpticalPathPlanner
