import OpticalPathPlanner.ArcRules
import OpticalPathPlanner.RunSearch

/-!
# Routes

The arc sequences that pass every check of the search, on their own: `walk`
follows arcs from the start label and keeps the labels of the path, with no
queue and no dominance.  A label of the search is the end of such a walk.
-/

namespace OpticalPathPlanner

open Traced

namespace SearchContext

variable {K : Type} [Field K] [LinearOrder K] (ctx : SearchContext K)

/-- One more arc at the end of a path, which is given from its last label
back. -/
def extendPath (path : List (Label K)) (arc : ArcRef) :
    Option (List (Label K)) :=
  match path with
  | [] => none
  | current :: ancestors =>
      if arc ∈ ctx.outgoingArcs current.portIndex then
        (ctx.expandArc current ancestors arc).result.map (· :: path)
      else none

/-- The path of an arc sequence that passes every check, from its last label
back to the start. -/
def walk (startPort : Nat) (arcs : List ArcRef) : Option (List (Label K)) :=
  (ctx.startLabel startPort).result.bind fun label =>
    arcs.foldlM ctx.extendPath [label]

variable {ctx}

/-- The start label: the source is admitted and nothing has been used yet. -/
structure StartStep (portIndex : Nat) (label : Label K) : Prop where
  allowed : (ctx.portExcluded (ctx.port portIndex).key ||
    ctx.nodeExcluded (ctx.port portIndex).key.node ||
    ctx.domainsExcluded (ctx.port portIndex).failureDomains) = false
  admin : (ctx.portInfo portIndex).admin ≠ .blocked
  transmitter : (ctx.portInfo portIndex).transmitAbsent = false
  channel : (ctx.portInfo portIndex).baseMask.isEmpty = false
  label_eq : label =
    { portIndex := portIndex
      arrival := none
      profileIndex := (ctx.portInfo portIndex).profileIndex
      mask := (ctx.portInfo portIndex).baseMask
      cost := ctx.startCost portIndex
      distanceM := 0
      lossDb := 0
      osnrInverse := 0
      spanCount := 0
      hops := 0
      regenerations := 0
      proven := ctx.portSound portIndex && (ctx.portInfo portIndex).maskKnown &&
        decide ((ctx.portInfo portIndex).transmit = .good) }

theorem yields_startLabel_iff {portIndex : Nat} {label : Label K} :
    (ctx.startLabel portIndex).Yields label ↔
      ctx.StartStep portIndex label := by
  unfold startLabel
  rw [yields_stopIf_bind_iff, yields_bind_iff]
  simp only [yields_admitPort_iff, yields_doubtIf_bind_iff,
    yields_stopIf_bind_iff, yields_pure_iff, not_ne_good, Bool.true_and,
    Bool.not_not]
  constructor
  · rintro ⟨allowed, _, ⟨admin, rfl⟩, transmitter, channel, rfl⟩
    exact ⟨allowed, admin, transmitter, channel, rfl⟩
  · rintro ⟨allowed, admin, transmitter, channel, rfl⟩
    exact ⟨allowed, _, ⟨admin, rfl⟩, transmitter, channel, rfl⟩

theorem extendPath_eq_some_iff {path longer : List (Label K)} {arc : ArcRef} :
    ctx.extendPath path arc = some longer ↔
      ∃ current ancestors next, path = current :: ancestors ∧
        longer = next :: path ∧ arc ∈ ctx.outgoingArcs current.portIndex ∧
        (ctx.expandArc current ancestors arc).Yields next := by
  cases path with
  | nil => simp [extendPath]
  | cons current ancestors =>
      simp only [extendPath, Yields]
      by_cases leaves : arc ∈ ctx.outgoingArcs current.portIndex
      · rw [if_pos leaves, Option.map_eq_some_iff]
        constructor
        · rintro ⟨next, yielded, rfl⟩
          exact ⟨current, ancestors, next, rfl, rfl, leaves, yielded⟩
        · rintro ⟨_, _, next, same, rfl, _, yielded⟩
          cases same
          exact ⟨next, yielded, rfl⟩
      · rw [if_neg leaves]
        constructor
        · intro impossible
          cases impossible
        · rintro ⟨_, _, next, same, rfl, member, _⟩
          cases same
          exact (leaves member).elim

theorem walk_nil {startPort : Nat} {path : List (Label K)} :
    ctx.walk startPort [] = some path ↔
      ∃ label, (ctx.startLabel startPort).Yields label ∧ path = [label] := by
  unfold walk Yields
  cases (ctx.startLabel startPort).result <;> simp [eq_comm]

theorem walk_append {startPort : Nat} {arcs rest : List ArcRef} :
    ctx.walk startPort (arcs ++ rest) =
      (ctx.walk startPort arcs).bind fun path =>
        rest.foldlM ctx.extendPath path := by
  unfold walk
  cases (ctx.startLabel startPort).result with
  | none => rfl
  | some label =>
      rw [Option.bind_some, Option.bind_some, List.foldlM_append]
      rfl

theorem walk_concat {startPort : Nat} {arcs : List ArcRef} {arc : ArcRef}
    {path : List (Label K)} :
    ctx.walk startPort (arcs ++ [arc]) = some path ↔
      ∃ current ancestors next,
        ctx.walk startPort arcs = some (current :: ancestors) ∧
        path = next :: current :: ancestors ∧
        arc ∈ ctx.outgoingArcs current.portIndex ∧
        (ctx.expandArc current ancestors arc).Yields next := by
  rw [walk_append, Option.bind_eq_some_iff]
  have single (before : List (Label K)) :
      [arc].foldlM ctx.extendPath before = ctx.extendPath before arc := by
    simp
  simp only [single, extendPath_eq_some_iff]
  constructor
  · rintro ⟨before, walked, current, ancestors, next, rfl, rfl, leaves, yielded⟩
    exact ⟨current, ancestors, next, walked, rfl, leaves, yielded⟩
  · rintro ⟨current, ancestors, next, walked, rfl, leaves, yielded⟩
    exact ⟨_, walked, current, ancestors, next, rfl, rfl, leaves, yielded⟩

/-! ### What one arc changes -/

theorem mem_outgoingArcs_crossConnect {port index : Nat} {reversed : Bool} :
    ⟨.crossConnect, index, reversed⟩ ∈ ctx.outgoingArcs port ↔
      index ∈ ctx.snapshot.outgoingCrossConnects port ∧ reversed = false := by
  simp [outgoingArcs, eq_comm]

theorem mem_outgoingArcs_span {port index : Nat} {reversed : Bool} :
    ⟨.span, index, reversed⟩ ∈ ctx.outgoingArcs port ↔
      (⟨index, reversed⟩ : SpanArc) ∈ ctx.snapshot.outgoingSpanArcs port := by
  unfold outgoingArcs
  simp only [List.mem_append, List.mem_map, ArcRef.mk.injEq, reduceCtorEq,
    false_and, and_false, exists_false, false_or, true_and]
  constructor
  · rintro ⟨arc, member, rfl, rfl⟩
    exact member
  · intro member
    exact ⟨_, member, rfl, rfl⟩

theorem extendCost_eq_some {cost arcCost sum : UInt64} {fromPort toPort : Nat}
    (added : ctx.extendCost cost arcCost fromPort toPort = some sum) :
    sum.toNat = cost.toNat + arcCost.toNat +
      (ctx.port toPort).transitCost.toNat +
      (ctx.transitionNodeCost fromPort toPort).toNat := by
  unfold extendCost at added
  obtain ⟨withArc, arcAdded, added⟩ := Option.bind_eq_some_iff.mp added
  obtain ⟨withPort, portAdded, added⟩ := Option.bind_eq_some_iff.mp added
  rw [addCheckedU64_eq_some_iff] at arcAdded portAdded added
  omega

namespace LabelStep

variable {current next : Label K} {arc : ArcRef}

theorem hops (step : ctx.LabelStep current arc next) :
    next.hops = current.hops + 1 := by
  obtain ⟨kind, index, reversed⟩ := arc
  cases kind with
  | crossConnect =>
      have step : ctx.CrossConnectStep current index next := step
      rw [step.next_eq, operated_hops]
  | span =>
      have step : ctx.SpanStep current ⟨index, reversed⟩ next := step
      rw [step.next_eq]

theorem hops_le (step : ctx.LabelStep current arc next) :
    next.hops ≤ ctx.rules.maxHops := by
  rw [step.hops]
  obtain ⟨kind, index, reversed⟩ := arc
  cases kind with
  | crossConnect => exact CrossConnectStep.hopLimit step
  | span => exact SpanStep.hopLimit step

theorem arrival (step : ctx.LabelStep current arc next)
    (leaves : arc ∈ ctx.outgoingArcs current.portIndex) :
    next.arrival = some arc := by
  obtain ⟨kind, index, reversed⟩ := arc
  cases kind with
  | crossConnect =>
      have step : ctx.CrossConnectStep current index next := step
      have forward : reversed = false := by
        unfold outgoingArcs at leaves
        rcases List.mem_append.mp leaves with crossConnect | span
        · obtain ⟨_, _, same⟩ := List.mem_map.mp crossConnect
          exact (congrArg ArcRef.reversed same).symm
        · obtain ⟨_, _, same⟩ := List.mem_map.mp span
          cases congrArg ArcRef.kind same
      rw [step.next_eq, operated_arrival, forward]
  | span =>
      have step : ctx.SpanStep current ⟨index, reversed⟩ next := step
      rw [step.next_eq]

theorem cost_le (step : ctx.LabelStep current arc next) :
    current.cost.toNat ≤ next.cost.toNat := by
  obtain ⟨kind, index, reversed⟩ := arc
  cases kind with
  | crossConnect =>
      have := extendCost_eq_some (CrossConnectStep.cost step)
      omega
  | span =>
      have := extendCost_eq_some (SpanStep.cost step)
      omega

/-- Every arc moves a label up in the search order. -/
theorem key_lt (step : ctx.LabelStep current arc next) :
    current.key < next.key := by
  have hops := step.hops
  have cost := step.cost_le
  rw [LabelKey.lt_iff]
  change current.cost.toNat < next.cost.toNat ∨
    current.cost.toNat = next.cost.toNat ∧ (current.hops < next.hops ∨ _)
  omega

theorem proven_of_next (step : ctx.LabelStep current arc next)
    (nextProven : next.proven = true) : current.proven = true := by
  obtain ⟨kind, index, reversed⟩ := arc
  cases kind with
  | crossConnect =>
      have step : ctx.CrossConnectStep current index next := step
      rw [step.next_eq] at nextProven
      unfold operated at nextProven
      cases op : (ctx.crossConnect index).op <;>
        simp_all
  | span =>
      have step : ctx.SpanStep current ⟨index, reversed⟩ next := step
      rw [step.next_eq] at nextProven
      simp only [Bool.and_eq_true] at nextProven
      exact nextProven.1.1

end LabelStep

/-! ### What holds along a walk -/

section Walks

variable {startPort : Nat} {arcs : List ArcRef} {path : List (Label K)}

theorem ports_nodup_of_walk (walked : ctx.walk startPort arcs = some path) :
    (path.map Label.portIndex).Nodup := by
  induction arcs using List.reverseRecOn generalizing path with
  | nil =>
      obtain ⟨label, _, rfl⟩ := walk_nil.mp walked
      simp
  | append_singleton arcs arc ih =>
      obtain ⟨current, ancestors, next, before, rfl, _, yielded⟩ :=
        walk_concat.mp walked
      exact List.nodup_cons.mpr
        ⟨(yields_expandArc_iff.mp yielded).2.loopFree, ih before⟩

/-- A path spells the arcs it was walked by. -/
theorem arcsBack_of_walk (walked : ctx.walk startPort arcs = some path) :
    (SearchLabel.arcsBack path).reverse = arcs := by
  induction arcs using List.reverseRecOn generalizing path with
  | nil =>
      obtain ⟨label, started, rfl⟩ := walk_nil.mp walked
      have noArrival := congrArg Label.arrival
        (yields_startLabel_iff.mp started).label_eq
      simp [SearchLabel.arcsBack, noArrival]
  | append_singleton arcs arc ih =>
      obtain ⟨current, ancestors, next, before, rfl, leaves, yielded⟩ :=
        walk_concat.mp walked
      have arrival := (yields_expandArc_iff.mp yielded).1.arrival leaves
      rw [SearchLabel.arcsBack, arrival]
      simpa using ih before

end Walks

end SearchContext

end OpticalPathPlanner
