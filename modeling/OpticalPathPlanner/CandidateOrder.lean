import OpticalPathPlanner.AlternativeRoutes
import OpticalPathPlanner.DisjointCandidates
import OpticalPathPlanner.TokenCodecs

/-!
# The order of candidates

A list of candidates is canonical when it is no longer than asked for, names no
plan twice and is sorted.  One search sorts its plans.  The passes over disjoint
candidates do not: they append what each of them finds first.  A search finds no
proven path later than a route that pruning keeps, also when it is cut short, so
the list is canonical as long as no plan leaves a route open that should have
come before it.
-/

namespace OpticalPathPlanner

open SortedRanges Traced DominanceSearch

variable {K E : Type} [Field K] [LinearOrder K]

/-! ### Searches are timely -/

section Timely

/-- The search has settled a proven label within the bound at the destination,
or none there that is beyond the bound. -/
def SearchState.Timely (bound : LabelKey) (state : SearchState K E) : Prop :=
  (∃ done ∈ state.destinationLabels, done.label.ProvenWithin bound) ∨
    ∀ done ∈ state.destinationLabels, done.label.key ≤ bound

/-- The same of a round. -/
def Progress.Timely (bound : LabelKey) : Progress K E → Prop
  | .running state | .finished state => state.Timely bound
  | .cancelled _ => True

variable {setup : SearchSetup K E} {startPort : Nat} {bound : LabelKey}
  {settled rest : List (SearchLabel K)} {state final : SearchState K E}
  {entry : SearchLabel K}

omit [Field K] [LinearOrder K] in
theorem SearchState.Timely.reach (timely : state.Timely bound)
    (next : (∃ done ∈ state.destinationLabels, done.label.ProvenWithin bound) ∨
      entry.label.key ≤ bound) :
    (state.reachDestination entry).Timely bound := by
  rcases timely with ⟨done, member, within⟩ | below
  · exact .inl ⟨done, List.mem_append_left _ member, within⟩
  · rcases next with ⟨done, member, within⟩ | here
    · exact .inl ⟨done, List.mem_append_left _ member, within⟩
    · refine .inr fun done member => ?_
      rcases List.mem_append.mp member with earlier | new
      · exact below done earlier
      · rw [List.mem_singleton.mp new]
        exact here

namespace SearchSetup

/-- The label that leaves the queue first is within the bound, unless a proven
one has been settled before. -/
theorem Invariant.first_within
    (invariant : setup.Invariant startPort settled state)
    (first : state.frontier = entry :: rest)
    (rootValid : setup.Valid startPort [])
    (survives : setup.SurvivesPruning startPort setup.destinationPort
      (setup.ArrivesWith startPort setup.destinationPort
        (Label.ProvenWithin bound))) :
    (∃ done ∈ state.destinationLabels, done.label.ProvenWithin bound) ∨
      entry.label.key ≤ bound := by
  have consistent := invariant.consistent
  rcases consistent.finds invariant.explored rootValid survives with
    ⟨done, isSettled, label, reached, arrived, good⟩ |
      ⟨waiting, isPending, more, label, reached, _, good⟩
  · have here := consistent.labelAt (List.mem_append_left _ isSettled)
    cases here.symm.trans reached
    refine .inl ⟨done, ?_, good⟩
    rw [← List.mem_reverse, invariant.tracked.destinations, List.mem_filter]
    exact ⟨isSettled, by simpa using arrived⟩
  · have here := consistent.labelAt (List.mem_append_right _ isPending)
    have ahead := SearchContext.key_le_of_append here reached
    refine .inr (le_trans ?_ (ahead.trans good.2))
    rw [first] at isPending
    rcases List.mem_cons.mp isPending with rfl | later
    · exact le_rfl
    · exact consistent.entry_le first waiting later

theorem visit_timely (timely : state.Timely bound)
    (next : (∃ done ∈ state.destinationLabels, done.label.ProvenWithin bound) ∨
      entry.label.key ≤ bound) :
    (setup.visit entry state).Timely bound := by
  unfold visit
  split_ifs
  · exact timely
  · exact timely
  · exact timely
  · unfold settle
    split_ifs
    · exact SearchState.Timely.reach timely next
    · obtain ⟨pushed, expansion⟩ := setup.expansion_expandArcs entry
        (setup.outgoingArcs entry.label.portIndex)
        ((state.scanBucket entry).keep setup.driver entry)
      have same : (setup.expandArcs entry (setup.outgoingArcs
          entry.label.portIndex) ((state.scanBucket entry).keep setup.driver
            entry)).destinationLabels = state.destinationLabels := by
        rw [expansion.frame]
        rfl
      have kept : (setup.expandArcs entry (setup.outgoingArcs
          entry.label.portIndex) ((state.scanBucket entry).keep setup.driver
            entry)).Timely bound := by
        unfold SearchState.Timely
        rw [same]
        exact timely
      dsimp only
      split_ifs
      · exact kept
      · exact kept

theorem Invariant.round_timely
    (invariant : setup.Invariant startPort settled state)
    (rootValid : setup.Valid startPort [])
    (survives : setup.SurvivesPruning startPort setup.destinationPort
      (setup.ArrivesWith startPort setup.destinationPort
        (Label.ProvenWithin bound)))
    (timely : state.Timely bound) : (setup.round state).Timely bound := by
  unfold round
  cases first : state.frontier with
  | nil => exact timely
  | cons entry rest =>
      simp only
      split_ifs
      · exact trivial
      · exact timely
      · exact visit_timely timely (invariant.first_within first rootValid survives)

/-- In every state of a search that is started, also in the last one of a search
that is cut short. -/
theorem Invariant.rounds_timely
    (invariant : setup.Invariant startPort settled state)
    (rootValid : setup.Valid startPort [])
    (survives : setup.SurvivesPruning startPort setup.destinationPort
      (setup.ArrivesWith startPort setup.destinationPort
        (Label.ProvenWithin bound)))
    (timely : state.Timely bound) (fuel : Nat) :
    (setup.rounds fuel state).Timely bound := by
  induction fuel generalizing settled state with
  | zero => exact timely
  | succ fuel ih =>
      have advances := invariant.advances_round
      have after := invariant.round_timely rootValid survives timely
      unfold rounds
      cases progress : setup.round state with
      | running next =>
          rw [progress] at advances after
          obtain ⟨⟨_, nextInvariant⟩, _⟩ := advances
          exact ih nextInvariant after
      | finished final =>
          rw [progress] at after
          exact after
      | cancelled final => exact trivial

/-- A path that no proven one comes before is within the bound. -/
theorem Ended.key_le_of_timely {pending : List (SearchLabel K)}
    (ended : setup.Ended startPort settled pending final)
    (timely : final.Timely bound) {path : RawPath} (returned : path ∈ final.paths)
    (least : ∀ other ∈ final.paths, other.proven = true → path.key ≤ other.key) :
    path.key ≤ bound := by
  rcases timely with ⟨done, member, within⟩ | below
  · obtain ⟨isSettled, arrived⟩ := ended.mem_destinationLabels.mp member
    obtain ⟨keeper, _, kept, better⟩ := ended.exists_path isSettled arrived
    obtain ⟨proven, near⟩ := within.of_dominates better
    exact (least keeper.rawPath kept proven).trans near
  · obtain ⟨entry, isSettled, arrived, rfl, _⟩ := ended.of_mem_paths returned
    exact below entry (ended.mem_destinationLabels.mpr ⟨isSettled, arrived⟩)

end SearchSetup

end Timely

/-! ### Passes find what comes first -/

section Passes

variable (runtime : Runtime K) (snapshot : TopologySnapshot K)
  (request : PlanningRequest K)

/-- The request of the pass after these plans. -/
def requestAfter (front : List (PlanArtifact K)) : PlanningRequest K :=
  request.working runtime (exclusionsOf request.disjointness front)

/-- A proven route that the plans leave open. -/
def LeftOpen (front : List (PlanArtifact K)) (arcs : List ArcRef)
    (label : Label K) : Prop :=
  RouteEnds runtime snapshot (requestAfter runtime request front) arcs label ∧
    label.proven = true

/-- The plan of a route that the plans before it leave open, no later in search
order than any proven route that pruning keeps. -/
structure FirstAfter (front : List (PlanArtifact K)) (plan : PlanArtifact K) :
    Prop where
  route : ∃ arcs label, LeftOpen runtime snapshot request front arcs label ∧
    PlansRoute runtime snapshot request arcs plan
  first : ∀ bound, KeepsRoute runtime snapshot (requestAfter runtime request front)
    (Label.ProvenWithin bound) → plan.key ≤ bound

/-- Every plan comes first after those before it. -/
def InTurn (plans : List (PlanArtifact K)) : Prop :=
  ∀ front plan back, plans = front ++ plan :: back →
    FirstAfter runtime snapshot request front plan

variable {runtime snapshot request} {options : PlannerOptions}
  {driver : SearchDriver E} {env : E}

theorem inTurn_nil : InTurn runtime snapshot request [] := by
  intro front plan back split
  simp at split

theorem InTurn.concat {plans : List (PlanArtifact K)} {last : PlanArtifact K}
    (inTurn : InTurn runtime snapshot request plans)
    (found : FirstAfter runtime snapshot request plans last) :
    InTurn runtime snapshot request (plans ++ [last]) :=
  forall_splits_concat inTurn found

theorem InTurn.of_append {front back : List (PlanArtifact K)}
    (inTurn : InTurn runtime snapshot request (front ++ back)) :
    InTurn runtime snapshot request front := by
  rintro older plan newer rfl
  exact inTurn older plan (newer ++ back) (by simp)

/-- A path of a pass that no proven one comes before is no later than a route
that pruning keeps. -/
theorem passSearch_timely {exclusions : Exclusions} {path : RawPath}
    (returned : path ∈ (passSearch runtime options driver snapshot request
      exclusions env).1.paths)
    (least : ∀ other ∈ (passSearch runtime options driver snapshot request
      exclusions env).1.paths, other.proven = true → path.key ≤ other.key)
    {bound : LabelKey}
    (keeps : KeepsRoute runtime snapshot (request.working runtime exclusions)
      (Label.ProvenWithin bound)) : path.key ≤ bound := by
  obtain ⟨startPort, destinationPort, source, destination, survives⟩ := keeps
  have ends : SearchEnds runtime snapshot (request.working runtime exclusions)
      options driver env startPort destinationPort
      (passSearch runtime options driver snapshot request exclusions env) :=
    runSearch_ends runtime snapshot _ options driver env source destination
  generalize passSearch runtime options driver snapshot request exclusions env =
    search at ends returned least
  cases ends with
  | refused noStart => cases returned
  | cancelled requested => cases returned
  | @finished state final settled pending started ran ended =>
      have rootValid : (searchSetup runtime snapshot (request.working runtime
          exclusions) options driver destinationPort).Valid startPort [] :=
        valid_nil_of_startState runtime snapshot _ env started
      have begins : (searchSetup runtime snapshot (request.working runtime
          exclusions) options driver destinationPort).startState startPort env =
            some state := started
      obtain ⟨invariant, _⟩ := SearchSetup.invariant_startState begins
      have fresh : state.Timely bound := by
        obtain ⟨label, _, rfl⟩ := Option.map_eq_some_iff.mp started
        exact .inr nofun
      have timely := invariant.rounds_timely rootValid survives fresh
        (searchSetup runtime snapshot (request.working runtime exclusions) options
          driver destinationPort).fuel
      rw [ran] at timely
      exact ended.key_le_of_timely timely returned least

theorem Followed.leftOpen {front : List (PlanArtifact K)} {startPort : Nat}
    {arcs : List ArcRef} {label : Label K} {ancestors : List (Label K)}
    {builder : PlanBuilder K}
    (followed : Followed runtime snapshot request
      (exclusionsOf request.disjointness front) startPort arcs label ancestors
      builder) : LeftOpen runtime snapshot request front arcs label := by
  refine ⟨⟨startPort, ?_, ?_,
    SearchContext.labelAt_of_walk followed.rebuilt.walked⟩, followed.proven⟩
  · rw [requestAfter, working_source]
    exact followed.source
  · rw [requestAfter, working_destination]
    exact followed.destination

/-- The best plan of a pass comes first after the plans it excludes. -/
theorem firstAfter_of_pass [IsStrictOrderedRing K] (formed : snapshot.WellFormed)
    {front : List (PlanArtifact K)} {budget : Nat} (room : 0 < budget)
    {plans others : List (PlanArtifact K)} {unproven : Bool}
    {best : PlanArtifact K}
    (built : buildPaths (searchContext runtime snapshot request) request
      (runtime.computeRequestDigest request) budget [] false
      (passSearch runtime options driver snapshot request
        (exclusionsOf request.disjointness front) env).1.paths =
          .ok (plans, unproven))
    (ordered : runtime.routine.sort planLess plans = best :: others) :
    FirstAfter runtime snapshot request front best := by
  obtain ⟨path, returned, builds⟩ := exists_path_of_best built ordered
  have keyed := (builds.key_eq formed returned).1
  constructor
  case route =>
    obtain ⟨startPort, destinationPort, source, destination⟩ :=
      ports_of_returned returned
    rw [working_source] at source
    rw [working_destination] at destination
    obtain ⟨label, ancestors, builder, followed, _⟩ :=
      followed_of_path formed source destination returned builds.1
    exact ⟨path.arcs, label, followed.leftOpen, builds.2⟩
  case first =>
    intro bound keeps
    rw [keyed]
    refine passSearch_timely returned (fun other isPath proven => ?_) keeps
    rw [← keyed]
    exact best_key_le formed room built ordered isPath proven

variable (runtime snapshot request) in
/-- What a pass over disjoint candidates does to the accepted plans. -/
def AddsFirst (accepted : List (PlanArtifact K)) : PassProgress K E → Prop
  | .next state => ∃ best, state.accepted = accepted ++ [best] ∧
      FirstAfter runtime snapshot request accepted best
  | .stop state => state.accepted = accepted
  | .done result _ => result.candidates = []

theorem afterSearch_addsFirst [IsStrictOrderedRing K]
    (formed : snapshot.WellFormed) (valid : request.IsValid)
    (iterative : request.iterative = true) {search : SearchOutcome}
    {state : PassState K E}
    (searched : (passSearch runtime options driver snapshot request
      state.exclusions env).1 = search)
    (chained : PassChained runtime options driver snapshot request state) :
    AddsFirst runtime snapshot request state.accepted
      (afterSearch runtime snapshot request search state) := by
  refine afterSearch_elim ?failed ?refused ?unplanned ?planned
  case failed => exact fun _ => chained.candidates
  case refused => exact fun _ _ _ => chained.candidates
  case unplanned => exact fun _ _ _ _ _ => withoutPlan_accepted
  case planned =>
    intro built unproven best others _ succeeded ordered
    rw [if_pos iterative]
    rw [chained.digest, ← searched, chained.exclusions] at succeeded
    exact ⟨best, rfl, firstAfter_of_pass formed (buildBudget_pos valid) succeeded
      ordered⟩

theorem runPass_addsFirst [IsStrictOrderedRing K]
    (formed : snapshot.WellFormed) (valid : request.IsValid)
    (iterative : request.iterative = true) (pass : Nat) {state : PassState K E}
    (chained : PassChained runtime options driver snapshot request state) :
    AddsFirst runtime snapshot request state.accepted
      (runPass runtime options driver snapshot request pass state) := by
  cases invalid : request.iterative &&
      (request.working runtime state.exclusions).validate.failed with
  | true =>
      unfold runPass
      simp only [invalid, if_true]
      rfl
  | false =>
      rw [runPass_eq pass invalid]
      exact afterSearch_addsFirst formed valid iterative rfl
        ⟨chained.candidates, chained.digest, chained.exclusions,
          chained.chained⟩

variable (runtime snapshot request) in
/-- The plans accepted in the end come first one after another, and there are no
more of them than there were passes. -/
def AcceptsInTurn (count : Nat) : PassProgress K E → Prop
  | .next state | .stop state =>
      InTurn runtime snapshot request state.accepted ∧
        state.accepted.length ≤ count
  | .done result _ => result.candidates = []

theorem runPasses_inTurn [IsStrictOrderedRing K]
    (formed : snapshot.WellFormed) (valid : request.IsValid)
    (iterative : request.iterative = true) (remaining pass : Nat)
    {state : PassState K E}
    (chained : PassChained runtime options driver snapshot request state)
    (inTurn : InTurn runtime snapshot request state.accepted) :
    AcceptsInTurn runtime snapshot request (state.accepted.length + remaining)
      (runPasses runtime options driver snapshot request remaining pass
        state) := by
  induction remaining generalizing pass state with
  | zero => exact ⟨inTurn, le_rfl⟩
  | succ remaining ih =>
      unfold runPasses
      have chain := runPass_chained iterative pass chained
      have after := runPass_addsFirst formed valid iterative pass chained
      generalize runPass runtime options driver snapshot request pass state =
        progress at chain after ⊢
      cases progress with
      | next next =>
          obtain ⟨best, accepted, found⟩ := after
          have longer := ih (pass + 1) chain (accepted ▸ inTurn.concat found)
          rw [accepted, List.length_append, List.length_singleton,
            Nat.add_right_comm, Nat.add_assoc] at longer
          exact longer
      | stop next =>
          have same : next.accepted = state.accepted := after
          exact ⟨same ▸ inTurn, same ▸ Nat.le_add_right _ _⟩
      | done result env => exact after

/-- The candidates of a request for several disjoint ones come first one after
another, and are no more than asked for. -/
theorem candidates_inTurn [IsStrictOrderedRing K] (formed : snapshot.WellFormed)
    (iterative : request.iterative = true) (env : E) :
    InTurn runtime snapshot request
        (plan runtime options driver snapshot request env).1.candidates ∧
      (plan runtime options driver snapshot request env).1.candidates.length ≤
        request.maxCandidates := by
  unfold plan
  split
  · exact ⟨inTurn_nil, Nat.zero_le _⟩
  · next searching =>
      have valid := requestOutcome_eq_none_iff.mp
        (earlyOutcome_eq_none_iff.mp searching).1
      rw [if_pos iterative]
      have start : PassChained runtime options driver snapshot request
          (startPasses runtime snapshot request env) :=
        ⟨rfl, rfl, rfl, chained_nil⟩
      have after := runPasses_inTurn formed valid iterative request.maxCandidates 0
        start inTurn_nil
      rw [show (startPasses runtime snapshot request env).accepted.length = 0 from
        rfl, Nat.zero_add] at after
      generalize runPasses runtime options driver snapshot request _ _ _ =
        progress at after ⊢
      cases progress with
      | next state =>
          rw [finishPasses, finaliseResult_candidates, classify_candidates]
          exact after
      | stop state =>
          rw [finishPasses, finaliseResult_candidates, classify_candidates]
          exact after
      | done result final =>
          rw [finishPasses, show result.candidates = [] from after]
          exact ⟨inTurn_nil, Nat.zero_le _⟩

end Passes

/-! ### More plans leave fewer routes open -/

section LeavingOpen

omit [Field K] [LinearOrder K] in
theorem within_extendExclusions (kind : Disjointness) (plan : PlanArtifact K)
    (exclusions : Exclusions) :
    exclusions.Within (extendExclusions plan kind exclusions) := by
  cases kind with
  | none => exact ⟨List.Subset.refl _, List.Subset.refl _, List.Subset.refl _⟩
  | node =>
      exact ⟨List.subset_append_left _ _, List.Subset.refl _, List.Subset.refl _⟩
  | span =>
      exact ⟨List.Subset.refl _, List.subset_append_left _ _, List.Subset.refl _⟩
  | failureDomain =>
      exact ⟨List.Subset.refl _, List.Subset.refl _, List.subset_append_left _ _⟩

omit [Field K] [LinearOrder K] in
theorem exclusionsOf_within (kind : Disjointness)
    (front more : List (PlanArtifact K)) :
    (exclusionsOf kind front).Within (exclusionsOf kind (front ++ more)) := by
  induction more using List.reverseRecOn with
  | nil =>
      rw [List.append_nil]
      exact ⟨List.Subset.refl _, List.Subset.refl _, List.Subset.refl _⟩
  | append_singleton more last ih =>
      rw [← List.append_assoc, exclusionsOf_concat]
      have further := within_extendExclusions kind last
        (exclusionsOf kind (front ++ more))
      exact ⟨List.Subset.trans ih.nodes further.nodes,
        List.Subset.trans ih.spans further.spans,
        List.Subset.trans ih.domains further.domains⟩

variable {runtime : Runtime K} {snapshot : TopologySnapshot K}
  {request : PlanningRequest K} {front : List (PlanArtifact K)}
  {arcs : List ArcRef} {label : Label K}

/-- The walk of a route that is left open, with the builder that follows it. -/
theorem LeftOpen.followed (formed : snapshot.WellFormed)
    (leftOpen : LeftOpen runtime snapshot request front arcs label) :
    ∃ startPort ancestors builder,
      Followed runtime snapshot request (exclusionsOf request.disjointness front)
        startPort arcs label ancestors builder := by
  obtain ⟨⟨startPort, source, destination, labelled⟩, proven⟩ := leftOpen
  obtain ⟨ancestors, walked⟩ := SearchContext.labelAt_eq_some_iff.mp labelled
  rw [requestAfter, working_source] at source
  rw [requestAfter, working_destination] at destination
  obtain ⟨builder, rebuilt⟩ := SearchContext.rebuilt_of_walk formed
    (working_channelWidthSlots runtime request _).symm source walked proven
  exact ⟨startPort, ancestors, builder, source, destination, proven, rebuilt⟩

/-- A route that more plans leave open is left open by fewer. -/
theorem LeftOpen.of_append (formed : snapshot.WellFormed)
    (iterative : request.iterative = true) {more : List (PlanArtifact K)}
    (leftOpen : LeftOpen runtime snapshot request (front ++ more) arcs label) :
    LeftOpen runtime snapshot request front arcs label := by
  obtain ⟨startPort, ancestors, builder, followed⟩ := leftOpen.followed formed
  have fewer := exclusionsOf_within request.disjointness front more
  have rebuilt := followed.rebuilt
  rw [passContext_eq_contextAfter iterative] at rebuilt
  have within : Exclusions.Within
      ⟨sortUnique runtime (exclusionsOf request.disjointness front).nodes,
        sortUnique runtime (exclusionsOf request.disjointness front).spans,
        sortUnique runtime (exclusionsOf request.disjointness front).domains⟩
      ⟨sortUnique runtime (exclusionsOf request.disjointness (front ++ more)).nodes,
        sortUnique runtime (exclusionsOf request.disjointness (front ++ more)).spans,
        sortUnique runtime
          (exclusionsOf request.disjointness (front ++ more)).domains⟩ := by
    refine ⟨fun id member => ?_, fun id member => ?_, fun id member => ?_⟩
    · exact (mem_sortUnique runtime).mpr
        (fewer.nodes ((mem_sortUnique runtime).mp member))
    · exact (mem_sortUnique runtime).mpr
        (fewer.spans ((mem_sortUnique runtime).mp member))
    · exact (mem_sortUnique runtime).mpr
        (fewer.domains ((mem_sortUnique runtime).mp member))
  have relaxed : (contextAfter runtime snapshot request front).Rebuilt
      request.toRouteRules request startPort arcs (label :: ancestors) builder :=
    SearchContext.Rebuilt.of_within within rebuilt
  rw [← passContext_eq_contextAfter iterative] at relaxed
  have shorter : Followed runtime snapshot request
      (exclusionsOf request.disjointness front) startPort arcs label ancestors
      builder :=
    ⟨followed.source, followed.destination, followed.proven, relaxed⟩
  exact shorter.leftOpen

/-- The plan of a route that is left open stands where the route does. -/
theorem LeftOpen.plan_key [IsStrictOrderedRing K] (formed : snapshot.WellFormed)
    (leftOpen : LeftOpen runtime snapshot request front arcs label)
    {plan : PlanArtifact K}
    (plans : PlansRoute runtime snapshot request arcs plan) :
    plan.key = label.key := by
  obtain ⟨startPort, ancestors, builder, followed⟩ := leftOpen.followed formed
  obtain ⟨hops, travels⟩ := followed.travels formed
  have same := followed.buildPlan_eq formed (runtime.computeRequestDigest request)
  exact travels.plan_key _ (Except.ok.inj (plans.symm.trans same))

end LeavingOpen

/-! ### Canonical lists -/

/-- A list of candidates as the planner means to return it. -/
structure Canonical {K : Type} (maxCandidates : Nat)
    (plans : List (PlanArtifact K)) : Prop where
  bounded : plans.length ≤ maxCandidates
  distinct : plans.Pairwise fun first second => first.digest ≠ second.digest
  sorted : plans.Pairwise fun first second => planLess second first = false

section Canonicity

variable (runtime : Runtime K) (snapshot : TopologySnapshot K)
  (request : PlanningRequest K)

/-- No route that the plan leaves open after the others should have come before
it: pruning has kept a route as good, and the plan of the route has another
digest and does not come first among plans of the same key. -/
structure LeavesLater (front : List (PlanArtifact K)) (plan : PlanArtifact K) :
    Prop where
  kept : ∀ arcs label,
    LeftOpen runtime snapshot request (front ++ [plan]) arcs label →
    KeepsRoute runtime snapshot (requestAfter runtime request front)
      (Label.ProvenWithin label.key)
  distinct : ∀ arcs label other,
    LeftOpen runtime snapshot request (front ++ [plan]) arcs label →
    PlansRoute runtime snapshot request arcs other → plan.digest ≠ other.digest
  ordered : ∀ arcs label other,
    LeftOpen runtime snapshot request (front ++ [plan]) arcs label →
    PlansRoute runtime snapshot request arcs other → plan.key = other.key →
    plan.resourceSequenceKey ≤ other.resourceSequenceKey

variable {runtime snapshot request} {options : PlannerOptions}
  {driver : SearchDriver E}

/-- Plans that come first one after another are in order as long as each of them
that is followed by a pass leaves later routes open only. -/
theorem InTurn.canonical [IsStrictOrderedRing K] (formed : snapshot.WellFormed)
    (iterative : request.iterative = true) {plans : List (PlanArtifact K)}
    (inTurn : InTurn runtime snapshot request plans)
    (few : plans.length ≤ request.maxCandidates)
    (leaves : ∀ front plan, InTurn runtime snapshot request (front ++ [plan]) →
      front.length + 1 < request.maxCandidates →
      LeavesLater runtime snapshot request front plan) :
    Canonical request.maxCandidates plans := by
  have pairs : plans.Pairwise fun first second => first.digest ≠ second.digest ∧
      planLess second first = false := by
    refine pairwise_of_splits fun front second back split first earlier => ?_
    obtain ⟨older, newer, rfl⟩ := List.append_of_mem earlier
    have longer : plans = (older ++ [first]) ++ (newer ++ second :: back) := by
      simp [split]
    have room : older.length + 1 < request.maxCandidates := by
      rw [longer] at few
      simp only [List.length_append, List.length_cons, List.length_nil] at few
      omega
    have turn : InTurn runtime snapshot request (older ++ [first]) := by
      rw [longer] at inTurn
      exact inTurn.of_append
    have later := leaves older first turn room
    have comesFirst := inTurn older first (newer ++ second :: back)
      (by simp [split])
    obtain ⟨arcs, label, leftOpen, plansSecond⟩ :=
      (inTurn _ second back split).route
    rw [show older ++ first :: newer = (older ++ [first]) ++ newer by simp]
      at leftOpen
    have open_ := leftOpen.of_append formed iterative
    have keyed := leftOpen.plan_key formed plansSecond
    refine ⟨later.distinct arcs label second open_ plansSecond, ?_⟩
    rw [planLess_eq, decide_eq_false_iff_not, not_lt, Prod.Lex.toLex_le_toLex]
    have near : first.key ≤ second.key :=
      keyed ▸ comesFirst.first label.key (later.kept arcs label open_)
    rcases near.lt_or_eq with before | same
    · exact .inl before
    · exact .inr ⟨same, later.ordered arcs label second open_ plansSecond same⟩
  exact ⟨few, pairs.imp fun both => both.1, pairs.imp fun both => both.2⟩

/-- One search sorts its plans and drops those it has built before. -/
theorem canonical_of_single (single : request.iterative = false) (env : E) :
    Canonical request.maxCandidates
      (plan runtime options driver snapshot request env).1.candidates := by
  by_cases feasible : (plan runtime options driver snapshot request
      env).1.outcome = .feasible
  · obtain ⟨plans, unproven, _, _, built, candidates⟩ :=
      candidates_of_single single feasible
    have same := runtime.routine.perm planLess plans
    have distinct : plans.Pairwise fun first second =>
        first.digest ≠ second.digest :=
      buildPaths_distinct built List.Pairwise.nil
    have sorted := runtime.routine.sorted planLess plans isStrictWeak_planLess
    rw [candidates]
    refine ⟨List.length_take_le _ _, ?_, sorted.sublist (List.take_sublist _ _)⟩
    exact (same.symm.pairwise distinct fun apart => apart.symm).sublist
      (List.take_sublist _ _)
  · have nothing : (plan runtime options driver snapshot request
        env).1.candidates = [] := by
      by_contra some_
      exact feasible ((plan_outcome_honest runtime options driver snapshot request
        env).1.mpr some_)
    rw [nothing]
    exact ⟨Nat.zero_le _, List.Pairwise.nil, List.Pairwise.nil⟩

end Canonicity

/-- Two spans between the same ports, of which one costs more. -/
def unequalSpans : SnapshotBuilder ℚ :=
  (SnapshotBuilder.new ⟨text "unequal"⟩ 1 {} {}).submitAll [
    .source { id := ⟨text "nms"⟩ },
    .node (.published "a"), .node (.published "b"),
    .reachProfile (.published "line" 100000 4 25 10),
    .port (.published (.of "a" "1") "line"),
    .port (.published (.of "b" "1") "line"),
    .span { SpanRecord.published "ab1" (.of "a" "1") (.of "b" "1") 80000 20 30
      with cost := 1 },
    .span { SpanRecord.published "ab2" (.of "a" "1") (.of "b" "1") 80000 20 30
      with cost := 2 }]

/-- A request for two routes that share no span. -/
def twoBySpan : PlanningRequest ℚ :=
  { acrossSpan with maxCandidates := 2, disjointness := .span }

/-- The plan of the arcs over the unequal spans. -/
def plannedOver (arcs : List ArcRef) : Option (PlanArtifact ℚ) :=
  ((searchContext rationalRuntime (unequalSpans.finished rationalRuntime)
    twoBySpan).buildPlan twoBySpan
      (rationalRuntime.computeRequestDigest twoBySpan)
      (stripCycles (unequalSpans.finished rationalRuntime) twoBySpan.source
        arcs)).toOption

/-- Two ways of one cost, of which the later one in canonical order starts with
the cheaper span. -/
def crossedCosts : SnapshotBuilder ℚ :=
  (SnapshotBuilder.new ⟨text "crossed"⟩ 1 {} {}).submitAll [
    .source { id := ⟨text "nms"⟩ },
    .node (.published "a"), .node (.published "b"), .node (.published "m"),
    .node (.published "n"),
    .reachProfile (.published "line" 100000 4 25 10),
    .port (.published (.of "a" "1") "line"),
    .port (.published (.of "b" "1") "line"),
    .port (.published (.of "m" "1") "line"),
    .port (.published (.of "n" "1") "line"),
    .span { SpanRecord.published "am" (.of "a" "1") (.of "m" "1") 40000 10 30
      with cost := 2 },
    .span { SpanRecord.published "an" (.of "a" "1") (.of "n" "1") 40000 10 30
      with cost := 1 },
    .span { SpanRecord.published "mb" (.of "m" "1") (.of "b" "1") 40000 10 30
      with cost := 1 },
    .span { SpanRecord.published "nb" (.of "n" "1") (.of "b" "1") 40000 10 30
      with cost := 2 }]

end OpticalPathPlanner
