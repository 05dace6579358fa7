import OpticalPathPlanner.PlannerRuns

/-!
# Outcomes of the planner

The four ways a planning run can end, and what each of them says about the
first search pass.
-/

namespace OpticalPathPlanner

variable {K E : Type} [Field K] [LinearOrder K]

section Outcomes

variable (runtime : Runtime K) (options : PlannerOptions)
  (driver : SearchDriver E) (snapshot : TopologySnapshot K)
  (request : PlanningRequest K) (env : E)

/-- The search of the first pass, which has nothing to exclude yet. -/
def firstSearch : SearchOutcome :=
  (passSearch runtime options driver snapshot request {} env).1

/-- What is known when the first pass looks at its search. -/
def firstState : PassState K E :=
  (startPasses runtime snapshot request env).searched 0
    (passSearch runtime options driver snapshot request {} env)

/-- What the first pass builds. -/
def firstPlans : Except Status (List (PlanArtifact K) × Bool) :=
  buildPaths (searchContext runtime snapshot request) request
    (runtime.computeRequestDigest request) request.buildBudget [] false
    (firstSearch runtime options driver snapshot request env).paths

/-- The ways a planning run can go. -/
inductive PlanEnds : PlanningResult K × E → Prop
  | early {early : EarlyOutcome}
      (ends : earlyOutcome snapshot request = some early) :
      PlanEnds (finaliseResult runtime
        (early.apply (emptyResult runtime snapshot request)), env)
  | failed {result : PlanningResult K} {last : E}
      (searching : earlyOutcome snapshot request = none)
      (failed : PassFailed runtime options driver snapshot request result) :
      PlanEnds (result, last)
  | unplanned {result : PlanningResult K} {last : E} {unproven : Bool}
      (searching : earlyOutcome snapshot request = none)
      (succeeded : (firstSearch runtime options driver snapshot request
        env).status.failed = false)
      (built : firstPlans runtime options driver snapshot request env =
        .ok ([], unproven))
      (candidates : result.candidates = [])
      (optimality : result.optimalityProven = false)
      (outcome : result.outcome =
        if unproven || (firstSearch runtime options driver snapshot request
            env).statistics.truncated ||
          !(firstSearch runtime options driver snapshot request env).exhausted ||
          !snapshot.coverageComplete then .indeterminate
        else .infeasible) :
      PlanEnds (result, last)
  | planned {result : PlanningResult K} {last : E} {unproven : Bool}
      {plans others : List (PlanArtifact K)} {best : PlanArtifact K}
      (searching : earlyOutcome snapshot request = none)
      (succeeded : (firstSearch runtime options driver snapshot request
        env).status.failed = false)
      (built : firstPlans runtime options driver snapshot request env =
        .ok (plans, unproven))
      (ordered : runtime.routine.sort planLess plans = best :: others)
      (candidates : result.candidates.head? = some best)
      (offered : ∀ plan ∈ result.candidates,
        Offered runtime options driver snapshot request plan)
      (outcome : result.outcome = .feasible)
      (optimality : result.optimalityProven =
        ((firstSearch runtime options driver snapshot request
          env).provedOptimum && snapshot.coverageComplete)) :
      PlanEnds (result, last)

end Outcomes

section Classification

variable {runtime : Runtime K} {options : PlannerOptions}
  {driver : SearchDriver E} {snapshot : TopologySnapshot K}
  {request : PlanningRequest K} {env : E}

omit [Field K] [LinearOrder K] in
theorem classify_of_accepted (snapshot : TopologySnapshot K)
    (request : PlanningRequest K) {state : PassState K E} {best : PlanArtifact K}
    {more : List (PlanArtifact K)} (accepted : state.accepted = best :: more) :
    (classify snapshot request state).outcome = .feasible ∧
      (classify snapshot request state).candidates = best :: more ∧
      (classify snapshot request state).optimalityProven =
        (state.firstPassProvedOptimum && snapshot.coverageComplete) := by
  simp [classify, accepted]

omit [Field K] [LinearOrder K] in
/-- A first pass without a plan is infeasible only when nothing was left
open. -/
theorem classify_withoutPlan (snapshot : TopologySnapshot K)
    (request : PlanningRequest K) (search : SearchOutcome) (unproven : Bool)
    {state : PassState K E} (empty : state.accepted = [])
    (noGap : state.stoppedOnKnowledgeGap = false)
    (noBound : state.stoppedOnTruncation = false)
    (notProven : state.result.optimalityProven = false) :
    (classify snapshot request
        (state.withoutPlan snapshot search unproven)).candidates = [] ∧
      (classify snapshot request
        (state.withoutPlan snapshot search unproven)).optimalityProven = false ∧
      (classify snapshot request
        (state.withoutPlan snapshot search unproven)).outcome =
        if unproven || search.statistics.truncated || !search.exhausted ||
          !snapshot.coverageComplete then .indeterminate else .infeasible := by
  unfold PassState.withoutPlan
  cases unproven with
  | true => simp [classify, empty, notProven]
  | false =>
      cases truncated : search.statistics.truncated || !search.exhausted with
      | true => simp [classify, empty, notProven, noGap, truncated]
      | false =>
          cases covered : snapshot.coverageComplete with
          | true => simp_all [classify]
          | false => simp_all [classify]

/-- What the first pass makes of its search. -/
theorem afterSearch_cases (runtime : Runtime K)
    (snapshot : TopologySnapshot K) (search : SearchOutcome)
    {state : PassState K E} (valid : request.IsValid) (empty : state.accepted = []) :
    (∃ result last, afterSearch runtime snapshot request search state =
      .done result last) ∨
    (search.status.failed = false ∧ ∃ unproven,
      buildPaths (searchContext runtime snapshot request) request
        state.result.requestDigest request.buildBudget [] false search.paths =
        .ok ([], unproven) ∧
      afterSearch runtime snapshot request search state =
        .stop (state.withoutPlan snapshot search unproven)) ∨
    (search.status.failed = false ∧ ∃ plans unproven best others next,
      buildPaths (searchContext runtime snapshot request) request
        state.result.requestDigest request.buildBudget [] false search.paths =
        .ok (plans, unproven) ∧
      runtime.routine.sort planLess plans = best :: others ∧
      (afterSearch runtime snapshot request search state = .next next ∨
        afterSearch runtime snapshot request search state = .stop next) ∧
      (∃ more, next.accepted = best :: more) ∧
      next.firstPassProvedOptimum = state.firstPassProvedOptimum) := by
  refine afterSearch_elim ?failed ?refused ?unplanned ?planned
  case failed => exact fun _ => .inl ⟨_, _, rfl⟩
  case refused => exact fun _ _ _ => .inl ⟨_, _, rfl⟩
  case unplanned =>
    intro plans unproven succeeded built ordered
    have noPlans := runtime.routine.perm planLess plans
    rw [ordered] at noPlans
    obtain rfl := List.nil_perm.mp noPlans
    exact .inr (.inl ⟨succeeded, unproven, built, rfl⟩)
  case planned =>
    intro plans unproven best others succeeded built ordered
    have room := Nat.pos_of_ne_zero valid.candidates_pos
    refine .inr (.inr ⟨succeeded, plans, unproven, best, others, ?_⟩)
    split_ifs
    · exact ⟨_, built, ordered, .inl rfl, ⟨[], by simp [empty]⟩, rfl⟩
    · refine ⟨_, built, ordered, .inr rfl,
        ⟨others.take (request.maxCandidates - 1), ?_⟩, rfl⟩
      rw [empty, List.nil_append, List.length_nil, Nat.sub_zero, List.take_cons room]

theorem firstPass_ends :
    PassEnds runtime options driver snapshot request 1
      (firstState runtime options driver snapshot request env)
      (afterSearch runtime snapshot request
        (firstSearch runtime options driver snapshot request env)
        (firstState runtime options driver snapshot request env)) :=
  afterSearch_ends {} env rfl ⟨rfl, rfl, rfl, nofun⟩

theorem runPass_zero (valid : request.IsValid) :
    runPass runtime options driver snapshot request 0
        (startPasses runtime snapshot request env) =
      afterSearch runtime snapshot request
        (firstSearch runtime options driver snapshot request env)
        (firstState runtime options driver snapshot request env) := by
  refine runPass_eq 0 ?_
  have workingValid : (request.working runtime {}).validate.failed = false :=
    PlanningRequest.validate_failed_iff.mpr (working_empty_valid valid)
  change (request.iterative && (request.working runtime {}).validate.failed) =
    false
  rw [workingValid, Bool.and_false]

/-- A request that is searched once is answered from its first pass. -/
theorem plan_of_single (single : request.iterative = false)
    (searching : earlyOutcome snapshot request = none) :
    plan runtime options driver snapshot request env =
      finishPasses runtime snapshot request (afterSearch runtime snapshot request
        (firstSearch runtime options driver snapshot request env)
        (firstState runtime options driver snapshot request env)) := by
  have valid := requestOutcome_eq_none_iff.mp
    (earlyOutcome_eq_none_iff.mp searching).1
  unfold plan
  rw [searching]
  simp only [single, Bool.false_eq_true, if_false]
  unfold runPasses
  rw [runPass_zero valid]
  cases afterSearch runtime snapshot request
      (firstSearch runtime options driver snapshot request env)
      (firstState runtime options driver snapshot request env) <;> rfl

/-- The passes after a first one that planned something. -/
theorem planEnds_of_planned {plans others : List (PlanArtifact K)}
    {unproven : Bool} {best : PlanArtifact K} {more : List (PlanArtifact K)}
    {progress : PassProgress K E} {next : PassState K E}
    (searching : earlyOutcome snapshot request = none)
    (succeeded : (firstSearch runtime options driver snapshot request
      env).status.failed = false)
    (built : firstPlans runtime options driver snapshot request env =
      .ok (plans, unproven))
    (ordered : runtime.routine.sort planLess plans = best :: others)
    (accepted : next.accepted = best :: more)
    (optimum : next.firstPassProvedOptimum = (firstSearch runtime options driver
      snapshot request env).provedOptimum)
    (after : PassEnds runtime options driver snapshot request 1 next progress) :
    PlanEnds runtime options driver snapshot request env
      (finishPasses runtime snapshot request progress) := by
  have planned {final : PassState K E}
      (extended : PassExtends runtime options driver snapshot request 1 next
        final) :
      PlanEnds runtime options driver snapshot request env
        (finaliseResult runtime (classify snapshot request final),
          final.env) := by
    obtain ⟨added, same⟩ := extended.accepted
    rw [accepted, List.cons_append] at same
    obtain ⟨feasible, candidates, optimality⟩ :=
      classify_of_accepted snapshot request same.symm
    refine .planned searching succeeded built ordered ?_ ?_ feasible ?_
    · rw [finaliseResult_candidates, candidates]
      rfl
    · rw [finaliseResult_candidates, candidates, same]
      exact extended.sound.offered
    · rw [finaliseResult_optimalityProven, optimality,
        extended.optimum Nat.one_ne_zero, optimum]
  cases after with
  | next extended => exact planned extended
  | stop extended => exact planned extended
  | done failed => exact .failed searching failed

theorem plan_ends :
    PlanEnds runtime options driver snapshot request env
      (plan runtime options driver snapshot request env) := by
  unfold plan
  cases searching : earlyOutcome snapshot request with
  | some early => exact .early searching
  | none =>
      have valid := requestOutcome_eq_none_iff.mp
        (earlyOutcome_eq_none_iff.mp searching).1
      obtain ⟨later, passes⟩ : ∃ later,
          (if request.iterative then request.maxCandidates else 1) =
            later + 1 := by
        refine Nat.exists_eq_add_of_le' ?_
        split_ifs
        · exact Nat.pos_of_ne_zero valid.candidates_pos
        · exact le_rfl
      rw [passes, runPasses, runPass_zero valid]
      have first : PassEnds runtime options driver snapshot request 1
          (firstState runtime options driver snapshot request env) _ :=
        firstPass_ends
      rcases afterSearch_cases runtime snapshot
          (firstSearch runtime options driver snapshot request env) valid
          (rfl : (firstState runtime options driver snapshot request
            env).accepted = []) with
        ⟨result, last, ended⟩ | ⟨succeeded, unproven, built, ended⟩ |
          ⟨succeeded, plans, unproven, best, others, next, built, ordered, ended,
            ⟨more, accepted⟩, optimum⟩
      · rw [ended] at first ⊢
        cases first with
        | done failed => exact .failed searching failed
      · rw [ended]
        obtain ⟨candidates, optimality, outcome⟩ :=
          classify_withoutPlan snapshot request
            (firstSearch runtime options driver snapshot request env) unproven
            (rfl : (firstState runtime options driver snapshot request
              env).accepted = []) rfl rfl rfl
        exact .unplanned searching succeeded built candidates optimality outcome
      · have sound : PassSound runtime options driver snapshot request next := by
          rcases ended with ended | ended
          · rw [ended] at first
            cases first with
            | next extended => exact extended.sound
          · rw [ended] at first
            cases first with
            | stop extended => exact extended.sound
        rcases ended with ended | ended
        · rw [ended]
          exact planEnds_of_planned searching succeeded built ordered accepted
            optimum (runPasses_ends later 1 sound)
        · rw [ended]
          exact planEnds_of_planned searching succeeded built ordered accepted
            optimum (.stop ⟨sound, List.prefix_rfl, fun _ => rfl⟩)

theorem PassFails.outcome_ne {outcome : PlanOutcome}
    (fails : PassFails runtime options driver snapshot request outcome) :
    outcome ≠ .feasible ∧ outcome ≠ .infeasible := by
  obtain ⟨_, _, ⟨_, same⟩ | ⟨same, _⟩⟩ := fails
  · rw [same]
    split_ifs <;> exact ⟨nofun, nofun⟩
  · rw [same]
    exact ⟨nofun, nofun⟩

/-- A run is feasible exactly when it returns candidates. -/
theorem PlanEnds.feasible_iff {run : PlanningResult K × E}
    (ends : PlanEnds runtime options driver snapshot request env run) :
    run.1.outcome = .feasible ↔ run.1.candidates ≠ [] := by
  cases ends with
  | @early outcome ends =>
      have notFeasible := (earlyOutcome_outcome ends).1
      exact ⟨fun feasible => (notFeasible feasible).elim, fun some_ => (some_ rfl).elim⟩
  | failed _ failed =>
      exact ⟨fun feasible => (failed.outcome.outcome_ne.1 feasible).elim,
        fun some_ => (some_ failed.candidates).elim⟩
  | unplanned _ _ _ candidates _ outcome =>
      refine ⟨fun feasible => ?_, fun some_ => (some_ candidates).elim⟩
      simp only at feasible
      rw [outcome] at feasible
      split_ifs at feasible
  | planned _ _ _ _ candidates _ outcome =>
      refine ⟨fun _ none_ => ?_, fun _ => outcome⟩
      simp only at none_
      rw [none_] at candidates
      cases candidates

end Classification

/-! ### The first pass -/

section FirstPass

variable (runtime : Runtime K) (options : PlannerOptions)
  (driver : SearchDriver E) (snapshot : TopologySnapshot K)
  (request : PlanningRequest K) (env : E)

/-- The main loop of the first pass ran to this state. -/
def FirstPassRan (final : SearchState K E) : Prop :=
  ∃ startPort destinationPort state,
    snapshot.portIndex request.source = some startPort ∧
    snapshot.portIndex request.destination = some destinationPort ∧
    (searchContext runtime snapshot (request.working runtime {})).startState
      startPort env = some state ∧
    (searchSetup runtime snapshot (request.working runtime {}) options driver
      destinationPort).rounds (searchSetup runtime snapshot
        (request.working runtime {}) options driver destinationPort).fuel
          state = .finished final

/-- The first pass had no start label, or emptied its queue without running
into a bound and without settling a label at the destination. -/
inductive FirstPassDrained : Prop
  | refused {startPort : Nat}
      (source : snapshot.portIndex request.source = some startPort)
      (noStart : (searchContext runtime snapshot
        (request.working runtime {})).startState startPort env = none)
  | drained {final : SearchState K E}
      (ran : FirstPassRan runtime options driver snapshot request env final)
      (queue : final.frontier = [])
      (complete : final.truncated = false)
      (destinations : final.destinationLabels = [])

variable {runtime options driver snapshot request env}

theorem FirstPassRan.firstSearch_eq {final : SearchState K E}
    (ran : FirstPassRan runtime options driver snapshot request env final) :
    firstSearch runtime options driver snapshot request env =
      final.outcome snapshot.coverageComplete := by
  obtain ⟨startPort, destinationPort, state, source, destination, started,
    ran⟩ := ran
  rw [firstSearch, passSearch, runSearch, working_source, working_destination,
    source, destination]
  simp only [started, ran]

theorem ports_of_searching (searching : earlyOutcome snapshot request = none) :
    ∃ startPort destinationPort,
      snapshot.portIndex request.source = some startPort ∧
        snapshot.portIndex request.destination = some destinationPort := by
  obtain ⟨⟨startPort, source⟩, destinationPort, destination⟩ :=
    endpointOutcome_eq_none_iff.mp
      (earlyOutcome_eq_none_iff.mp searching).2.2.2.2.2.2
  exact ⟨startPort, destinationPort, source, destination⟩

theorem passSearch_ends (exclusions : Exclusions) {startPort destinationPort : Nat}
    (source : snapshot.portIndex request.source = some startPort)
    (destination :
      snapshot.portIndex request.destination = some destinationPort) :
    SearchEnds runtime snapshot (request.working runtime exclusions) options
      driver env startPort destinationPort
      (passSearch runtime options driver snapshot request exclusions env) :=
  runSearch_ends runtime snapshot (request.working runtime exclusions) options
    driver env (by rw [working_source, source])
    (by rw [working_destination, destination])

/-- A first pass that built nothing, left nothing open and returned no path
has drained its queue. -/
theorem drained_of_infeasible {unproven : Bool}
    (searching : earlyOutcome snapshot request = none)
    (succeeded : (firstSearch runtime options driver snapshot request
      env).status.failed = false)
    (built : firstPlans runtime options driver snapshot request env =
      .ok ([], unproven))
    (allProven : unproven = false)
    (exhausted : (firstSearch runtime options driver snapshot request
      env).exhausted = true) :
    FirstPassDrained runtime options driver snapshot request env := by
  have valid := requestOutcome_eq_none_iff.mp
    (earlyOutcome_eq_none_iff.mp searching).1
  obtain ⟨startPort, destinationPort, source, destination⟩ :=
    ports_of_searching searching
  obtain ⟨leftEq, _⟩ := unproven_of_buildPaths_nil (buildBudget_pos valid) built
  have noPaths : (firstSearch runtime options driver snapshot request
      env).paths = [] := by
    simpa [allProven] using leftEq
  have ends : SearchEnds runtime snapshot (request.working runtime {}) options
      driver env startPort destinationPort
      (passSearch runtime options driver snapshot request {} env) :=
    passSearch_ends {} source destination
  unfold firstSearch at succeeded noPaths exhausted
  generalize passSearch runtime options driver snapshot request {} env = search
    at succeeded noPaths exhausted ends
  cases ends with
  | refused noStart => exact .refused source noStart
  | finished started ran ended =>
      obtain ⟨queue, complete⟩ := Bool.and_eq_true_iff.mp exhausted
      exact .drained ⟨startPort, destinationPort, _, source, destination, started,
        ran⟩ (List.isEmpty_iff.mp queue) (by simpa using complete)
        (ended.paths_eq_nil_iff.mp noPaths)
  | cancelled requested => cases succeeded

/-- Outcome honesty.  A result is feasible exactly when it has candidates; it
is infeasible only under complete coverage, for a missing endpoint or for a
first pass that drained its queue without ever settling a label at the
destination; and a first pass that ran into a bound neither denies a route nor
proves an optimum. -/
theorem plan_outcome_honest (runtime : Runtime K) (options : PlannerOptions)
    (driver : SearchDriver E) (snapshot : TopologySnapshot K)
    (request : PlanningRequest K) (env : E) :
    ((plan runtime options driver snapshot request env).1.outcome = .feasible ↔
      (plan runtime options driver snapshot request env).1.candidates ≠ []) ∧
    ((plan runtime options driver snapshot request env).1.outcome =
        .infeasible →
      snapshot.coverageComplete = true ∧
        (snapshot.portIndex request.source = none ∨
          snapshot.portIndex request.destination = none ∨
          FirstPassDrained runtime options driver snapshot request env)) ∧
    (∀ final, FirstPassRan runtime options driver snapshot request env final →
      final.truncated = true →
        (plan runtime options driver snapshot request env).1.outcome ≠
          .infeasible ∧
        (plan runtime options driver snapshot request
          env).1.optimalityProven = false) := by
  have ends : PlanEnds runtime options driver snapshot request env _ := plan_ends
  generalize plan runtime options driver snapshot request env = run at ends ⊢
  refine ⟨ends.feasible_iff, ?_, ?_⟩
  · intro infeasible
    cases ends with
    | early early =>
        obtain ⟨covered, missing⟩ := (earlyOutcome_outcome early).2 infeasible
        refine ⟨covered, ?_⟩
        by_contra present
        simp only [not_or, ← ne_eq, Option.ne_none_iff_exists'] at present
        exact missing (endpointOutcome_eq_none_iff.mpr
          ⟨present.1, present.2.1⟩)
    | failed _ failed => exact (failed.outcome.outcome_ne.2 infeasible).elim
    | unplanned searching succeeded built _ _ outcome =>
        simp only at infeasible
        rw [outcome] at infeasible
        split_ifs at infeasible with openEnd
        simp only [Bool.or_eq_true, Bool.not_eq_true', not_or,
          Bool.not_eq_true, Bool.not_eq_false] at openEnd
        obtain ⟨⟨⟨allProven, _⟩, exhausted⟩, covered⟩ := openEnd
        exact ⟨covered, .inr (.inr (drained_of_infeasible searching succeeded
          built allProven exhausted))⟩
    | planned _ _ _ _ _ _ outcome =>
        simp only at infeasible
        rw [outcome] at infeasible
        cases infeasible
  · intro final ran truncated
    have search := ran.firstSearch_eq
    cases ends with
    | early early =>
        refine ⟨fun infeasible => ?_, rfl⟩
        obtain ⟨startPort, destinationPort, _, source, destination, _⟩ := ran
        exact ((earlyOutcome_outcome early).2 infeasible).2
          (endpointOutcome_eq_none_iff.mpr
            ⟨⟨startPort, source⟩, destinationPort, destination⟩)
    | failed _ failed => exact ⟨failed.outcome.outcome_ne.2, failed.optimality⟩
    | unplanned _ _ _ _ optimality outcome =>
        refine ⟨?_, optimality⟩
        rw [outcome, search]
        simp [SearchState.outcome, truncated]
    | planned _ _ _ _ _ _ outcome optimality =>
        refine ⟨by simp [outcome], ?_⟩
        rw [optimality, search]
        simp [SearchState.outcome, truncated]

end FirstPass

end OpticalPathPlanner
