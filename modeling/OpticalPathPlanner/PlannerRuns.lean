import OpticalPathPlanner.Planner
import OpticalPathPlanner.SearchOutcomes

/-!
# Runs of the planner

What a planning run returns, in terms of its search passes: every candidate
was built from a proven path of some pass, and the first pass alone decides
between a candidate, an infeasible request and an open question.
-/

namespace OpticalPathPlanner

open SortedRanges

variable {K E : Type} [Field K] [LinearOrder K]

section Final

variable (runtime : Runtime K) (result : PlanningResult K)

@[simp]
theorem finaliseResult_outcome :
    (finaliseResult runtime result).outcome = result.outcome :=
  rfl

@[simp]
theorem finaliseResult_candidates :
    (finaliseResult runtime result).candidates = result.candidates :=
  rfl

@[simp]
theorem finaliseResult_optimalityProven :
    (finaliseResult runtime result).optimalityProven = result.optimalityProven :=
  rfl

@[simp]
theorem finaliseResult_statistics :
    (finaliseResult runtime result).statistics = result.statistics :=
  rfl

end Final

/-! ### Conditions that end planning before the search -/

section Early

variable {snapshot : TopologySnapshot K} {request : PlanningRequest K}

theorem earlyOutcome_eq_none_iff :
    earlyOutcome snapshot request = none ↔
      requestOutcome request = none ∧ freshnessOutcome snapshot request = none ∧
      generationOutcome snapshot request = none ∧
      digestOutcome snapshot request = none ∧
      request.requiredSourceGenerations.findSome? (sourceOutcome snapshot) =
        none ∧
      gridOutcome snapshot request = none ∧
      endpointOutcome snapshot request = none := by
  simp [earlyOutcome]

theorem requestOutcome_eq_none_iff :
    requestOutcome request = none ↔ request.IsValid := by
  rw [← PlanningRequest.validate_failed_iff]
  unfold requestOutcome
  cases failed : request.validate.failed <;> simp [failed]

omit [Field K] [LinearOrder K] in
theorem endpointOutcome_eq_none_iff :
    endpointOutcome snapshot request = none ↔
      (∃ startPort, snapshot.portIndex request.source = some startPort) ∧
        ∃ destinationPort,
          snapshot.portIndex request.destination = some destinationPort := by
  unfold endpointOutcome
  simp only [TopologySnapshot.findPort_isSome_iff, ← Option.isSome_iff_exists]
  cases (snapshot.portIndex request.source).isSome <;>
    cases (snapshot.portIndex request.destination).isSome <;>
    cases snapshot.coverageComplete <;> simp

/-- An outcome that neither offers nor denies a route. -/
def EarlyOutcome.Undecided (early : EarlyOutcome) : Prop :=
  early.outcome ≠ .feasible ∧ early.outcome ≠ .infeasible

theorem undecided_of_requestOutcome {early : EarlyOutcome}
    (ends : requestOutcome request = some early) : early.Undecided := by
  simp only [requestOutcome] at ends
  split_ifs at ends <;> cases ends <;> exact ⟨nofun, nofun⟩

omit [Field K] [LinearOrder K] in
theorem undecided_of_pins (request : PlanningRequest K) {early : EarlyOutcome}
    (ends : freshnessOutcome snapshot request = some early ∨
      generationOutcome snapshot request = some early ∨
      digestOutcome snapshot request = some early ∨
      (∃ entry, sourceOutcome snapshot entry = some early) ∨
      gridOutcome snapshot request = some early) : early.Undecided := by
  rcases ends with fresh | generation | digest | ⟨entry, source⟩ | grid
  · unfold freshnessOutcome at fresh
    split_ifs at fresh
    cases fresh
    exact ⟨nofun, nofun⟩
  · unfold generationOutcome at generation
    split at generation
    · cases generation
    · split_ifs at generation
      cases generation
      exact ⟨nofun, nofun⟩
  · unfold digestOutcome at digest
    split at digest
    · cases digest
    · split_ifs at digest
      cases digest
      exact ⟨nofun, nofun⟩
  · unfold sourceOutcome at source
    split_ifs at source <;> cases source <;> exact ⟨nofun, nofun⟩
  · unfold gridOutcome at grid
    split_ifs at grid
    cases grid
    exact ⟨nofun, nofun⟩

omit [Field K] [LinearOrder K] in
theorem endpointOutcome_outcome {early : EarlyOutcome}
    (ends : endpointOutcome snapshot request = some early) :
    early.outcome ≠ .feasible ∧ (early.outcome = .infeasible →
      snapshot.coverageComplete = true) := by
  simp only [endpointOutcome] at ends
  split_ifs at ends <;> cases ends <;> simp_all

private theorem eq_some_of_orElse {α : Type} {first second : Option α}
    {value : α} (found : (first <|> second) = some value) :
    first = some value ∨ second = some value := by
  cases first with
  | none => exact .inr (by simpa using found)
  | some other => exact .inl (by simpa using found)

/-- Before the search, a request is infeasible only for a missing endpoint
under complete coverage, and it is never feasible. -/
theorem earlyOutcome_outcome {early : EarlyOutcome}
    (ends : earlyOutcome snapshot request = some early) :
    early.outcome ≠ .feasible ∧ (early.outcome = .infeasible →
      snapshot.coverageComplete = true ∧
        endpointOutcome snapshot request ≠ none) := by
  have undecided (open_ : early.Undecided) :
      early.outcome ≠ .feasible ∧ (early.outcome = .infeasible →
        snapshot.coverageComplete = true ∧
          endpointOutcome snapshot request ≠ none) :=
    ⟨open_.1, fun infeasible => (open_.2 infeasible).elim⟩
  rcases eq_some_of_orElse ends with invalid | ends
  · exact undecided (undecided_of_requestOutcome invalid)
  rcases eq_some_of_orElse ends with stale | ends
  · exact undecided (undecided_of_pins request (.inl stale))
  rcases eq_some_of_orElse ends with old | ends
  · exact undecided (undecided_of_pins request (.inr (.inl old)))
  rcases eq_some_of_orElse ends with other | ends
  · exact undecided (undecided_of_pins request (.inr (.inr (.inl other))))
  rcases eq_some_of_orElse ends with source | ends
  · obtain ⟨entry, _, missing⟩ := List.exists_of_findSome?_eq_some source
    exact undecided
      (undecided_of_pins request (.inr (.inr (.inr (.inl ⟨entry, missing⟩)))))
  rcases eq_some_of_orElse ends with grid | endpoint
  · exact undecided (undecided_of_pins request (.inr (.inr (.inr (.inr grid)))))
  · obtain ⟨notFeasible, covered⟩ := endpointOutcome_outcome endpoint
    exact ⟨notFeasible, fun infeasible => ⟨covered infeasible, by simp [endpoint]⟩⟩

end Early

/-! ### The plans of one pass -/

section Build

variable {ctx : SearchContext K} {request : PlanningRequest K}
  {requestDigest : Digest256} {budget : Nat}

/-- The path builds into the plan. -/
def BuildsInto (ctx : SearchContext K) (request : PlanningRequest K)
    (requestDigest : Digest256) (path : RawPath) (plan : PlanArtifact K) :
    Prop :=
  path.proven = true ∧ ctx.buildPlan request requestDigest
    (stripCycles ctx.snapshot request.source path.arcs) = .ok plan

theorem mem_of_buildPaths {paths : List RawPath}
    {built out : List (PlanArtifact K)} {unproven left : Bool}
    (finished : buildPaths ctx request requestDigest budget built unproven
      paths = .ok (out, left)) :
    built <+: out ∧ ∀ plan ∈ out, plan ∈ built ∨
      ∃ path ∈ paths, BuildsInto ctx request requestDigest path plan := by
  induction paths generalizing built unproven with
  | nil =>
      cases finished
      exact ⟨List.prefix_rfl, fun plan member => .inl member⟩
  | cons path rest ih =>
      have widen {more : List (PlanArtifact K)}
          (after : more <+: out ∧ ∀ plan ∈ out, plan ∈ more ∨
            ∃ other ∈ rest, BuildsInto ctx request requestDigest other plan) :
          ∀ plan ∈ out, plan ∈ more ∨ ∃ other ∈ path :: rest,
            BuildsInto ctx request requestDigest other plan := by
        intro plan member
        rcases after.2 plan member with before | ⟨other, inRest, builds⟩
        · exact .inl before
        · exact .inr ⟨other, List.mem_cons_of_mem _ inRest, builds⟩
      simp only [buildPaths] at finished
      split_ifs at finished with notProven full
      · have after := ih finished
        exact ⟨after.1, widen after⟩
      · cases finished
        exact ⟨List.prefix_rfl, fun plan member => .inl member⟩
      · split at finished
        · cases finished
        · next plan succeeded =>
            split_ifs at finished with repeated
            · have after := ih finished
              exact ⟨after.1, widen after⟩
            · have after := ih finished
              refine ⟨(List.prefix_append _ _).trans after.1, ?_⟩
              intro other member
              rcases widen after other member with before | later
              · rcases List.mem_append.mp before with earlier | new
                · exact .inl earlier
                · rw [List.mem_singleton] at new
                  subst new
                  exact .inr ⟨path, List.mem_cons_self ..,
                    by simpa using notProven, succeeded⟩
              · exact .inr later

/-- A pass that builds nothing saw no proven path. -/
theorem unproven_of_buildPaths_nil {paths : List RawPath} {unproven left : Bool}
    (room : 0 < budget)
    (finished : buildPaths ctx request requestDigest budget [] unproven
      paths = .ok ([], left)) :
    left = (unproven || !paths.isEmpty) ∧
      ∀ path ∈ paths, path.proven = false := by
  induction paths generalizing unproven with
  | nil =>
      cases finished
      simp
  | cons path rest ih =>
      simp only [buildPaths] at finished
      split_ifs at finished with notProven full
      · obtain ⟨leftEq, restUnproven⟩ := ih finished
        refine ⟨by simp [leftEq], ?_⟩
        intro other member
        rcases List.mem_cons.mp member with rfl | inRest
        · simpa using notProven
        · exact restUnproven other inRest
      · simp only [List.length_nil, ge_iff_le] at full
        omega
      · split at finished
        · cases finished
        · simp only [List.any_nil, Bool.false_eq_true, if_false,
            List.nil_append] at finished
          have kept := List.prefix_nil.mp (mem_of_buildPaths finished).1
          cases kept

/-- The first proven path of a pass is built. -/
theorem mem_buildPaths_of_first {front rest : List RawPath} {path : RawPath}
    {built : List (PlanArtifact K)} {unproven left : Bool}
    (room : 0 < budget) (skipped : ∀ other ∈ front, other.proven = false)
    (isProven : path.proven = true)
    (finished : buildPaths ctx request requestDigest budget [] unproven
      (front ++ path :: rest) = .ok (built, left)) :
    ∃ plan ∈ built, BuildsInto ctx request requestDigest path plan := by
  induction front generalizing unproven with
  | nil =>
      simp only [List.nil_append, buildPaths, isProven, Bool.not_true,
        Bool.false_eq_true, if_false, List.length_nil, ge_iff_le,
        Nat.not_le.mpr room] at finished
      split at finished
      · cases finished
      · next plan succeeded =>
          simp only [List.any_nil, Bool.false_eq_true, if_false] at finished
          have kept := (mem_of_buildPaths finished).1
          exact ⟨plan, kept.subset (by simp), isProven, succeeded⟩
  | cons other front ih =>
      have otherUnproven := skipped other (List.mem_cons_self ..)
      simp only [List.cons_append, buildPaths, otherUnproven, Bool.not_false,
        if_true] at finished
      exact ih (fun entry member => skipped entry (List.mem_cons_of_mem _ member))
        finished

/-- Building fails only on a proven path that does not build. -/
theorem error_of_buildPaths {paths : List RawPath}
    {built : List (PlanArtifact K)} {unproven : Bool} {status : Status}
    (failed : buildPaths ctx request requestDigest budget built unproven
      paths = .error status) :
    ∃ path ∈ paths, path.proven = true ∧
      ctx.buildPlan request requestDigest
        (stripCycles ctx.snapshot request.source path.arcs) = .error status := by
  induction paths generalizing built unproven with
  | nil => cases failed
  | cons path rest ih =>
      have later {more : List (PlanArtifact K)} {flag : Bool}
          (failedLater : buildPaths ctx request requestDigest budget more flag
            rest = .error status) :
          ∃ other ∈ path :: rest, other.proven = true ∧
            ctx.buildPlan request requestDigest
              (stripCycles ctx.snapshot request.source other.arcs) =
                .error status := by
        obtain ⟨other, inRest, fails⟩ := ih failedLater
        exact ⟨other, List.mem_cons_of_mem _ inRest, fails⟩
      simp only [buildPaths] at failed
      split_ifs at failed with notProven full
      · exact later failed
      · split at failed
        · next refused =>
            cases failed
            exact ⟨path, List.mem_cons_self .., by simpa using notProven,
              refused⟩
        · split_ifs at failed
          · exact later failed
          · exact later failed

end Build

/-! ### The canonical order of candidates -/

/-- The position of a plan in the search order. -/
def PlanArtifact.key (plan : PlanArtifact K) : LabelKey :=
  ⟨plan.totalCost, plan.hops, plan.regenerations⟩

omit [Field K] [LinearOrder K] in
theorem planLess_eq (lhs rhs : PlanArtifact K) :
    planLess lhs rhs = decide (toLex (lhs.key, lhs.resourceSequenceKey) <
      toLex (rhs.key, rhs.resourceSequenceKey)) := by
  rw [Bool.eq_iff_iff, decide_eq_true_iff, Prod.Lex.toLex_lt_toLex,
    LabelKey.lt_iff]
  unfold planLess
  by_cases cost : lhs.totalCost = rhs.totalCost
  · by_cases hops : lhs.hops = rhs.hops
    · by_cases regenerations : lhs.regenerations = rhs.regenerations
      · simp [cost, hops, regenerations, PlanArtifact.key]
      · simp [cost, hops, regenerations, PlanArtifact.key]
    · simp [cost, hops, PlanArtifact.key]
  · have costNat : lhs.totalCost.toNat ≠ rhs.totalCost.toNat := by
      rwa [ne_eq, UInt64.toNat_inj]
    simp [cost, costNat, PlanArtifact.key, UInt64.lt_iff_toNat_lt]

omit [Field K] [LinearOrder K] in
theorem isStrictWeak_planLess : IsStrictWeak (planLess (K := K)) := by
  have same : planLess (K := K) = fun lhs rhs =>
      decide (toLex (lhs.key, lhs.resourceSequenceKey) <
        toLex (rhs.key, rhs.resourceSequenceKey)) := by
    funext lhs rhs
    exact planLess_eq lhs rhs
  rw [same]
  exact isStrictWeak_of_key _

omit [Field K] [LinearOrder K] in
/-- A plan that is not after another in canonical order is not after it in
search order. -/
theorem key_le_of_not_planLess {first second : PlanArtifact K}
    (inOrder : planLess second first = false) : first.key ≤ second.key := by
  rw [planLess_eq, decide_eq_false_iff_not, not_lt,
    Prod.Lex.toLex_le_toLex] at inOrder
  rcases inOrder with smaller | ⟨same, _⟩
  · exact smaller.le
  · exact same.le

omit [Field K] [LinearOrder K] in
/-- The first plan in canonical order has the least key. -/
theorem key_le_of_sort {routine : SortRoutine}
    {built others : List (PlanArtifact K)} {best plan : PlanArtifact K}
    (ordered : routine.sort planLess built = best :: others)
    (member : plan ∈ built) : best.key ≤ plan.key := by
  have sorted := routine.sorted planLess built isStrictWeak_planLess
  rw [ordered] at sorted
  have inSorted : plan ∈ best :: others := by
    rw [← ordered]
    exact (routine.perm planLess built).mem_iff.mpr member
  rcases List.mem_cons.mp inSorted with rfl | later
  · exact le_rfl
  · exact key_le_of_not_planLess ((List.pairwise_cons.mp sorted).1 plan later)

/-! ### The request of a pass -/

section Working

variable (runtime : Runtime K) (request : PlanningRequest K)

theorem sortUnique_nil {α : Type} [LinearOrder α] :
    sortUnique runtime ([] : List α) = [] := by
  have empty : runtime.routine.sortValues ([] : List α) = [] :=
    List.perm_nil.mp (runtime.routine.perm _ _)
  rw [sortUnique, empty]
  rfl

/-- The first pass searches under the constraints of the request. -/
theorem excluding_empty :
    request.excluding runtime {} =
      { request with maxCandidates := 1, disjointness := .none } := by
  simp [PlanningRequest.excluding, sortUnique_nil]

theorem working_empty_toRouteRules :
    (request.working runtime {}).toRouteRules = request.toRouteRules := by
  unfold PlanningRequest.working
  split_ifs
  · rw [excluding_empty]
  · rfl

@[simp]
theorem working_source (exclusions : Exclusions) :
    (request.working runtime exclusions).source = request.source := by
  unfold PlanningRequest.working
  split_ifs <;> rfl

@[simp]
theorem working_destination (exclusions : Exclusions) :
    (request.working runtime exclusions).destination = request.destination := by
  unfold PlanningRequest.working
  split_ifs <;> rfl

@[simp]
theorem working_channelWidthSlots (exclusions : Exclusions) :
    (request.working runtime exclusions).channelWidthSlots =
      request.channelWidthSlots := by
  unfold PlanningRequest.working
  split_ifs <;> rfl

variable {runtime request}

theorem buildBudget_pos (valid : request.IsValid) :
    0 < request.buildBudget := by
  have some_ := valid.candidates_pos
  unfold PlanningRequest.buildBudget kPlanBuildBudget
  split_ifs <;> omega

/-- A valid request can always be searched in a first pass. -/
theorem working_empty_valid (valid : request.IsValid) :
    (request.working runtime {}).IsValid := by
  unfold PlanningRequest.working
  split_ifs
  · rw [excluding_empty]
    exact { valid with
      candidates_pos := Nat.one_ne_zero
      candidates_le := (by decide : 1 ≤ kMaxCandidates) }
  · exact valid

end Working

/-! ### Passes -/

section Passes

variable (runtime : Runtime K) (options : PlannerOptions)
  (driver : SearchDriver E) (snapshot : TopologySnapshot K)
  (request : PlanningRequest K)

/-- The search of one pass. -/
def passSearch (exclusions : Exclusions) (env : E) : SearchOutcome × E :=
  runSearch runtime snapshot (request.working runtime exclusions) options
    driver env

/-- A plan that some pass built from a proven path. -/
def Offered (plan : PlanArtifact K) : Prop :=
  ∃ exclusions env,
    ∃ path ∈ (passSearch runtime options driver snapshot request exclusions
        env).1.paths,
      BuildsInto (searchContext runtime snapshot request) request
        (runtime.computeRequestDigest request) path plan

/-- Why planning may return from the middle of a pass: the search failed, or a
proven path of it did not build. -/
def PassFails (outcome : PlanOutcome) : Prop :=
  ∃ exclusions env,
    ((passSearch runtime options driver snapshot request exclusions
        env).1.status.failed = true ∧
      outcome = if (passSearch runtime options driver snapshot request
        exclusions env).1.status.code = .cancelled then .cancelled
        else .refused) ∨
    (outcome = .refused ∧
      ∃ path ∈ (passSearch runtime options driver snapshot request exclusions
          env).1.paths,
        path.proven = true ∧
        ∃ status, (searchContext runtime snapshot request).buildPlan request
          (runtime.computeRequestDigest request)
          (stripCycles snapshot request.source path.arcs) = .error status)

/-- What every pass leaves to the next one. -/
structure PassSound (state : PassState K E) : Prop where
  candidates : state.result.candidates = []
  optimality : state.result.optimalityProven = false
  digest : state.result.requestDigest = runtime.computeRequestDigest request
  offered : ∀ plan ∈ state.accepted,
    Offered runtime options driver snapshot request plan

/-- A pass keeps what was accepted before it, and a later pass does not touch
what the first one proved. -/
structure PassExtends (pass : Nat) (state next : PassState K E) : Prop where
  sound : PassSound runtime options driver snapshot request next
  accepted : state.accepted <+: next.accepted
  optimum : pass ≠ 0 →
    next.firstPassProvedOptimum = state.firstPassProvedOptimum

/-- The result of a pass that ended planning. -/
structure PassFailed (result : PlanningResult K) : Prop where
  candidates : result.candidates = []
  optimality : result.optimalityProven = false
  outcome : PassFails runtime options driver snapshot request result.outcome

variable {runtime options driver snapshot request}

omit [Field K] [LinearOrder K] in
theorem withoutPlan_accepted {search : SearchOutcome} {unproven : Bool}
    {state : PassState K E} :
    (state.withoutPlan snapshot search unproven).accepted = state.accepted := by
  unfold PassState.withoutPlan
  split_ifs <;> rfl

omit [Field K] [LinearOrder K] in
theorem withoutPlan_optimum {search : SearchOutcome} {unproven : Bool}
    {state : PassState K E} :
    (state.withoutPlan snapshot search unproven).firstPassProvedOptimum =
      state.firstPassProvedOptimum := by
  unfold PassState.withoutPlan
  split_ifs <;> rfl

theorem PassSound.withoutPlan {search : SearchOutcome} {unproven : Bool}
    {state : PassState K E}
    (sound : PassSound runtime options driver snapshot request state) :
    PassSound runtime options driver snapshot request
      (state.withoutPlan snapshot search unproven) := by
  unfold PassState.withoutPlan
  split_ifs
  · exact ⟨sound.candidates, sound.optimality, sound.digest, sound.offered⟩
  · exact ⟨sound.candidates, sound.optimality, sound.digest, sound.offered⟩
  · exact ⟨sound.candidates, sound.optimality, sound.digest, sound.offered⟩
  · exact sound

/-- After a search the planner fails, finds nothing to plan, or adds plans. -/
@[elab_as_elim]
theorem afterSearch_elim {search : SearchOutcome} {state : PassState K E}
    {motive : PassProgress K E → Prop}
    (failed : search.status.failed = true →
      motive (.done (finaliseResult runtime { state.result with
        outcome := if search.status.code = .cancelled then .cancelled else .refused
        status := search.status }) state.env))
    (refused : ∀ status, search.status.failed = false →
      buildPaths (searchContext runtime snapshot request) request
        state.result.requestDigest request.buildBudget [] false search.paths =
          .error status →
      motive (.done (finaliseResult runtime { state.result with
        outcome := .refused
        status := status }) state.env))
    (unplanned : ∀ built unproven, search.status.failed = false →
      buildPaths (searchContext runtime snapshot request) request
        state.result.requestDigest request.buildBudget [] false search.paths =
          .ok (built, unproven) →
      runtime.routine.sort planLess built = [] →
      motive (.stop (state.withoutPlan snapshot search unproven)))
    (planned : ∀ built unproven best others, search.status.failed = false →
      buildPaths (searchContext runtime snapshot request) request
        state.result.requestDigest request.buildBudget [] false search.paths =
          .ok (built, unproven) →
      runtime.routine.sort planLess built = best :: others →
      motive (if request.iterative then
        .next { state with
          accepted := state.accepted ++ [best]
          exclusions := extendExclusions best request.disjointness state.exclusions }
      else
        .stop { state with
          accepted := state.accepted ++ (best :: others).take
            (request.maxCandidates - state.accepted.length) })) :
    motive (afterSearch runtime snapshot request search state) := by
  unfold afterSearch
  cases isFailed : search.status.failed with
  | true => exact failed isFailed
  | false =>
      cases builds : buildPaths (searchContext runtime snapshot request) request
          state.result.requestDigest request.buildBudget [] false search.paths with
      | error status => exact refused status isFailed builds
      | ok outcome =>
          obtain ⟨built, unproven⟩ := outcome
          cases ordered : runtime.routine.sort planLess built with
          | nil =>
              simp only [Bool.false_eq_true, if_false, ordered]
              exact unplanned built unproven isFailed builds ordered
          | cons best others =>
              simp only [Bool.false_eq_true, if_false, ordered]
              exact planned built unproven best others isFailed builds ordered

variable (runtime options driver snapshot request) in
/-- The ways a pass can go, given what was known before it. -/
inductive PassEnds (pass : Nat) (state : PassState K E) :
    PassProgress K E → Prop
  | next {next : PassState K E}
      (extended : PassExtends runtime options driver snapshot request pass state
        next) : PassEnds pass state (.next next)
  | stop {next : PassState K E}
      (extended : PassExtends runtime options driver snapshot request pass state
        next) : PassEnds pass state (.stop next)
  | done {result : PlanningResult K} {env : E}
      (failed : PassFailed runtime options driver snapshot request result) :
      PassEnds pass state (.done result env)

theorem afterSearch_ends (exclusions : Exclusions) (env : E)
    {search : SearchOutcome} {state : PassState K E}
    (searched : (passSearch runtime options driver snapshot request exclusions
      env).1 = search)
    (sound : PassSound runtime options driver snapshot request state) :
    PassEnds runtime options driver snapshot request 1 state
      (afterSearch runtime snapshot request search state) := by
  refine afterSearch_elim ?failed ?refused ?unplanned ?planned
  case failed =>
    intro failed
    refine .done ⟨sound.candidates, sound.optimality, exclusions, env, .inl ?_⟩
    rw [searched]
    exact ⟨failed, rfl⟩
  case refused =>
    intro status _ refused
    obtain ⟨path, returned, isProven, fails⟩ := error_of_buildPaths refused
    rw [sound.digest] at fails
    rw [← searched] at returned
    exact .done ⟨sound.candidates, sound.optimality, exclusions, env,
      .inr ⟨rfl, path, returned, isProven, status, fails⟩⟩
  case unplanned =>
    intro _ _ _ _ _
    exact .stop ⟨sound.withoutPlan, by rw [withoutPlan_accepted],
      fun _ => withoutPlan_optimum⟩
  case planned =>
    intro built unproven best others _ succeeded ordered
    have offered : ∀ plan ∈ best :: others,
        Offered runtime options driver snapshot request plan := by
      intro plan member
      rw [← ordered] at member
      have isBuilt := (runtime.routine.perm _ _).mem_iff.mp member
      rcases (mem_of_buildPaths succeeded).2 plan isBuilt with
        impossible | ⟨path, returned, builds⟩
      · cases impossible
      · rw [sound.digest] at builds
        rw [← searched] at returned
        exact ⟨exclusions, env, path, returned, builds⟩
    have extend {more : List (PlanArtifact K)}
        (fromBest : ∀ plan ∈ more, plan ∈ best :: others) :
        ∀ plan ∈ state.accepted ++ more,
          Offered runtime options driver snapshot request plan := by
      intro plan member
      rcases List.mem_append.mp member with old | new
      · exact sound.offered plan old
      · exact offered plan (fromBest plan new)
    split_ifs
    · refine .next ⟨⟨sound.candidates, sound.optimality, sound.digest,
        extend ?_⟩, List.prefix_append _ _, fun _ => rfl⟩
      simp
    · exact .stop ⟨⟨sound.candidates, sound.optimality, sound.digest,
        extend fun plan => List.mem_of_mem_take⟩, List.prefix_append _ _,
        fun _ => rfl⟩

/-- The state in which a pass looks at its search. -/
def PassState.searched (pass : Nat) (search : SearchOutcome × E)
    (state : PassState K E) : PassState K E :=
  { state with
    result := mergeSearch state.result search.1
    firstPassProvedOptimum :=
      if pass = 0 then search.1.provedOptimum else state.firstPassProvedOptimum
    env := search.2 }

theorem runPass_eq (pass : Nat) {state : PassState K E}
    (valid : (request.iterative &&
      (request.working runtime state.exclusions).validate.failed) = false) :
    runPass runtime options driver snapshot request pass state =
      afterSearch runtime snapshot request
        (passSearch runtime options driver snapshot request state.exclusions
          state.env).1
        (state.searched pass (passSearch runtime options driver snapshot request
          state.exclusions state.env)) := by
  unfold runPass
  simp only [valid, Bool.false_eq_true, if_false]
  rfl

theorem PassSound.searched {state : PassState K E}
    (sound : PassSound runtime options driver snapshot request state)
    (pass : Nat) (search : SearchOutcome × E) :
    PassSound runtime options driver snapshot request
      (state.searched pass search) :=
  ⟨sound.candidates, sound.optimality, sound.digest, sound.offered⟩

theorem PassExtends.of_searched {pass : Nat} {search : SearchOutcome × E}
    {state next : PassState K E}
    (extended : PassExtends runtime options driver snapshot request 1
      (state.searched pass search) next) :
    PassExtends runtime options driver snapshot request pass state next where
  sound := extended.sound
  accepted := extended.accepted
  optimum later := by
    rw [extended.optimum Nat.one_ne_zero, PassState.searched, if_neg later]

theorem runPass_ends (pass : Nat) {state : PassState K E}
    (sound : PassSound runtime options driver snapshot request state) :
    PassEnds runtime options driver snapshot request pass state
      (runPass runtime options driver snapshot request pass state) := by
  cases valid : request.iterative &&
      (request.working runtime state.exclusions).validate.failed with
  | true =>
      unfold runPass
      simp only [valid, if_true]
      exact .stop ⟨⟨sound.candidates, sound.optimality, sound.digest,
        sound.offered⟩, List.prefix_rfl, fun _ => rfl⟩
  | false =>
      rw [runPass_eq pass valid]
      have after : PassEnds runtime options driver snapshot request 1 _ _ :=
        afterSearch_ends state.exclusions state.env rfl (sound.searched pass
          (passSearch runtime options driver snapshot request state.exclusions
            state.env))
      generalize afterSearch runtime snapshot request _ _ = progress at after ⊢
      cases after with
      | next extended => exact .next extended.of_searched
      | stop extended => exact .stop extended.of_searched
      | done failed => exact .done failed

theorem PassExtends.trans {pass later : Nat} {state middle next : PassState K E}
    (first : PassExtends runtime options driver snapshot request pass state
      middle)
    (second : PassExtends runtime options driver snapshot request later middle
      next) (notFirst : later ≠ 0) :
    PassExtends runtime options driver snapshot request pass state next where
  sound := second.sound
  accepted := first.accepted.trans second.accepted
  optimum isLater := (second.optimum notFirst).trans (first.optimum isLater)

/-- Passes after the first one only add candidates. -/
theorem runPasses_ends (remaining pass : Nat) {state : PassState K E}
    (sound : PassSound runtime options driver snapshot request state) :
    PassEnds runtime options driver snapshot request pass state
      (runPasses runtime options driver snapshot request remaining pass
        state) := by
  induction remaining generalizing pass state with
  | zero => exact .stop ⟨sound, List.prefix_rfl, fun _ => rfl⟩
  | succ remaining ih =>
      unfold runPasses
      have after := runPass_ends pass sound
      generalize runPass runtime options driver snapshot request pass state =
        progress at after ⊢
      cases after with
      | next extended =>
          have rest := ih (pass + 1) extended.sound
          simp only
          generalize runPasses runtime options driver snapshot request remaining
            (pass + 1) _ = progress at rest ⊢
          cases rest with
          | next further =>
              exact .next (extended.trans further (Nat.succ_ne_zero _))
          | stop further =>
              exact .stop (extended.trans further (Nat.succ_ne_zero _))
          | done failed => exact .done failed
      | stop extended => exact .stop extended
      | done failed => exact .done failed

end Passes

end OpticalPathPlanner
